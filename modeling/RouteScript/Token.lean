import RouteScript.Position
import RouteScript.Text.Quoted

/-!
Tokens, the words of a script.

A token has a kind, the span it covers and its text. A run of letters is an
identifier unless it is one of the reserved words: `print`, `body`, and the four
request methods in all lower or all upper case.
-/

namespace RouteScript

/-- The kinds of tokens. -/
inductive TokenKind where
  | identifier
  | string
  | number
  | equals
  | plus
  | question
  | print
  | body
  | get
  | post
  | put
  | delete
  deriving DecidableEq, Repr

/-- The short name of a kind. -/
def TokenKind.name : TokenKind → String
  | identifier => "ID"
  | string => "STRING"
  | number => "NUMBER"
  | equals => "EQ"
  | plus => "PLUS"
  | question => "QMARK"
  | print => "PRINT"
  | body => "BODY"
  | get => "GET"
  | post => "POST"
  | put => "PUT"
  | delete => "DELETE"

/-- A word of a script. -/
structure Token where
  kind : TokenKind
  loc : Span
  text : String
  deriving DecidableEq, Repr

namespace Token

/-- The reserved words with their kinds. -/
def reserved : List (String × TokenKind) :=
  [("print", .print), ("body", .body),
   ("get", .get), ("GET", .get),
   ("post", .post), ("POST", .post),
   ("put", .put), ("PUT", .put),
   ("delete", .delete), ("DELETE", .delete)]

/-- The kind of a run of letters: reserved words are told by their exact case. -/
def wordKind (word : String) : TokenKind := (reserved.lookup word).getD .identifier

/-- A token apart from where it stands. -/
def word (t : Token) : TokenKind × String := (t.kind, t.text)

/-- A token as it is shown to a developer: kind, quoted text and start. -/
def describe (t : Token) : String :=
  s!"Token({t.kind.name}, {Text.quote t.text}, ({t.loc.start.line}, {t.loc.start.column}))"

end Token

end RouteScript

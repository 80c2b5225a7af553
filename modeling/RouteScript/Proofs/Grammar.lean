import RouteScript.Instruction
import RouteScript.Parser.Statement

/-!
The grammar of scripts, apart from the parser.

    statement  := assignment | print | request
    assignment := Identifier '=' value
    print      := 'print' value
    value      := (String | Identifier) ('+' value)?
    request    := Method value ('body' value)? Number? ('=' Identifier | '?' value)?

A `Statement` is what is said and `Spelled` relates it to the tokens that say it;
a `Sentence` is a statement together with such tokens, and a script is a list of
sentences. `Statement.code` is the translation to instructions. `InScope` asks
that a name is read only where an earlier statement gives it a value.

Tokens may carry any text and any location: only their kinds matter here, and the
texts of strings, identifiers and numbers.

* `sentences_unique`: tokens can be cut into sentences in one way only.
* `inScope_iff`: scope, checked from left to right with the names seen so far.
-/

namespace RouteScript.Script

/-! ### What is said -/

/-- A text, or the value of a name. -/
inductive Operand where
  | text (t : String)
  | name (n : String)
  deriving DecidableEq, Repr

/-- Operands joined by `+`; there is at least one. -/
inductive Expression where
  | single (o : Operand)
  | join (o : Operand) (rest : Expression)
  deriving DecidableEq, Repr

/-- What a request does with the reply. -/
inductive Reaction where
  | ignore
  | capture (name : String)
  | compare (expected : Expression)
  deriving DecidableEq, Repr

/-- A statement of a script. -/
inductive Statement where
  | assign (name : String) (value : Expression)
  | print (value : Expression)
  | request (method : Method) (url : Expression) (body : Option Expression)
      (status : Option String) (reaction : Reaction)
  deriving DecidableEq, Repr

/-- The operands of an expression, from left to right. -/
def Expression.operands : Expression → List Operand
  | .single o => [o]
  | .join o rest => o :: rest.operands

/-! ### How it is spelled -/

inductive Operand.Spelled : Operand → Token → Prop where
  | text {t : Token} : t.kind = .string → Spelled (.text t.text) t
  | name {t : Token} : t.kind = .identifier → Spelled (.name t.text) t

inductive Expression.Spelled : Expression → List Token → Prop where
  | single {o : Operand} {t : Token} : o.Spelled t → Spelled (.single o) [t]
  | join {o : Operand} {t k : Token} {e : Expression} {ts : List Token} :
      o.Spelled t → k.kind = .plus → e.Spelled ts → Spelled (.join o e) (t :: k :: ts)

/-- The clause `('body' value)?`. -/
inductive BodySpelled : Option Expression → List Token → Prop where
  | absent : BodySpelled none []
  | present {k : Token} {e : Expression} {ts : List Token} :
      k.kind = .body → e.Spelled ts → BodySpelled (some e) (k :: ts)

/-- The clause `Number?`. -/
inductive StatusSpelled : Option String → List Token → Prop where
  | absent : StatusSpelled none []
  | written {t : Token} : t.kind = .number → StatusSpelled (some t.text) [t]

/-- The clause `('=' Identifier | '?' value)?`. -/
inductive Reaction.Spelled : Reaction → List Token → Prop where
  | ignore : Spelled .ignore []
  | capture {k n : Token} :
      k.kind = .equals → n.kind = .identifier → Spelled (.capture n.text) [k, n]
  | compare {k : Token} {e : Expression} {ts : List Token} :
      k.kind = .question → e.Spelled ts → Spelled (.compare e) (k :: ts)

inductive Statement.Spelled : Statement → List Token → Prop where
  | assign {n k : Token} {e : Expression} {ts : List Token} :
      n.kind = .identifier → k.kind = .equals → e.Spelled ts →
      Spelled (.assign n.text e) (n :: k :: ts)
  | print {k : Token} {e : Expression} {ts : List Token} :
      k.kind = .print → e.Spelled ts → Spelled (.print e) (k :: ts)
  | request {k : Token} {m : Method} {url : Expression} {body : Option Expression}
      {status : Option String} {reaction : Reaction} {us bs ss rs : List Token} :
      k.kind.method? = some m → url.Spelled us → BodySpelled body bs →
      StatusSpelled status ss → reaction.Spelled rs →
      Spelled (.request m url body status reaction) (k :: (us ++ (bs ++ (ss ++ rs))))

/-- A statement and tokens that say it. -/
structure Sentence where
  statement : Statement
  tokens : List Token
  spelled : statement.Spelled tokens

/-! ### What it means for the machine -/

/-- Puts the value of an operand on the stack. -/
def Operand.code : Operand → Instruction
  | .text t => .pushLiteral t
  | .name n => .readVariable n

/-- The operands, followed by one joining instruction less. -/
def Expression.code (e : Expression) : Program :=
  e.operands.map Operand.code ++ List.replicate (e.operands.length - 1) .concatenate

/-- The instructions of an optional body. -/
def bodyCode : Option Expression → Program
  | none => []
  | some e => e.code

/-- The instructions that end a request. -/
def Reaction.code (method : Method) (hasBody : Bool) : Reaction → Program
  | .ignore => [.request ⟨.discard, method, hasBody⟩]
  | .capture name => [.request ⟨.capture, method, hasBody⟩, .bindVariable name]
  | .compare e => e.code ++ [.request ⟨.compare, method, hasBody⟩]

/-- The instructions of a statement. A request that names no status expects 200. -/
def Statement.code : Statement → Program
  | .assign name e => e.code ++ [.bindVariable name]
  | .print e => e.code ++ [.print]
  | .request method url body status reaction =>
    url.code ++ bodyCode body ++ [.pushLiteral (status.getD "200")] ++
      reaction.code method body.isSome

/-! ### Names -/

/-- The name whose value an operand is. -/
def Operand.name? : Operand → Option String
  | .text _ => none
  | .name n => some n

/-- The names whose values an expression takes. -/
def Expression.names (e : Expression) : List String := e.operands.filterMap Operand.name?

/-- The names in value position of an optional body. -/
def bodyNames : Option Expression → List String
  | none => []
  | some e => e.names

/-- The names in value position of what follows a request. -/
def Reaction.names : Reaction → List String
  | .compare e => e.names
  | _ => []

/-- The name that a reply is bound to. -/
def Reaction.target? : Reaction → Option String
  | .capture name => some name
  | _ => none

/-- The names in value position. -/
def Statement.reads : Statement → List String
  | .assign _ e | .print e => e.names
  | .request _ url body _ reaction => url.names ++ bodyNames body ++ reaction.names

/-- The name that a statement gives a value. -/
def Statement.target? : Statement → Option String
  | .assign name _ => some name
  | .print _ => none
  | .request _ _ _ _ reaction => reaction.target?

theorem mem_names_single {o : Operand} {n : String} :
    n ∈ (Expression.single o).names ↔ o.name? = some n := by
  simp [Expression.names, Expression.operands]

theorem mem_names_join {o : Operand} {e : Expression} {n : String} :
    n ∈ (Expression.join o e).names ↔ o.name? = some n ∨ n ∈ e.names := by
  simp [Expression.names, Expression.operands]

/-- A name in value position is the target of a strictly earlier statement. -/
def InScope (script : List Statement) : Prop :=
  ∀ before s after, script = before ++ s :: after →
    ∀ n ∈ s.reads, ∃ t ∈ before, t.target? = some n

/-- A script covers its tokens, and reads no name before it has a value. -/
structure Covers (script : List Sentence) (tokens : List Token) : Prop where
  spelled : script.flatMap (·.tokens) = tokens
  scope : InScope (script.map (·.statement))

/-- Scope from left to right, with the names that have a value so far: each item
reads some names and may give one a value. -/
def InScopeOf {α : Type} (reads : α → List String) (target? : α → Option String)
    (names : List String) : List α → Prop
  | [] => True
  | a :: rest =>
    (∀ n ∈ reads a, n ∈ names) ∧ InScopeOf reads target? ((target? a).toList ++ names) rest

section Scope

variable {α β : Type} {reads : α → List String} {target? : α → Option String}
  {names names' : List String}

theorem InScopeOf.mono {items : List α} (h : InScopeOf reads target? names items)
    (sub : ∀ n ∈ names, n ∈ names') : InScopeOf reads target? names' items := by
  induction items generalizing names names' with
  | nil => trivial
  | cons a rest ih =>
    constructor
    · intro n hn
      exact sub n (h.1 n hn)
    · apply ih h.2
      intro n hn
      rcases List.mem_append.mp hn with target | known
      · exact List.mem_append_left _ target
      · exact List.mem_append_right _ (sub n known)

theorem inScopeOf_map {f : β → α} {items : List β} :
    InScopeOf reads target? names (items.map f) ↔
      InScopeOf (fun b => reads (f b)) (fun b => target? (f b)) names items := by
  induction items generalizing names with
  | nil => exact Iff.rfl
  | cons b rest ih => simp only [List.map_cons, InScopeOf, ih]

private theorem inScopeOf_iff {items : List α} :
    InScopeOf reads target? names items ↔ ∀ before a after, items = before ++ a :: after →
      ∀ n ∈ reads a, n ∈ names ∨ ∃ b ∈ before, target? b = some n := by
  induction items generalizing names with
  | nil => simp [InScopeOf]
  | cons head rest ih =>
    simp only [InScopeOf, ih]
    constructor
    · rintro ⟨here, later⟩ before a after eq n hn
      cases before with
      | nil =>
        obtain ⟨rfl, rfl⟩ := List.cons.inj eq
        exact .inl (here n hn)
      | cons first before =>
        obtain ⟨rfl, rfl⟩ := List.cons.inj eq
        rcases later before a after rfl n hn with known | ⟨b, hb, target⟩
        · rcases List.mem_append.mp known with bound | known
          · exact .inr ⟨head, List.mem_cons_self .., by simpa using bound⟩
          · exact .inl known
        · exact .inr ⟨b, List.mem_cons_of_mem _ hb, target⟩
    · intro all
      constructor
      · intro n hn
        rcases all [] head rest rfl n hn with known | ⟨b, hb, -⟩
        · exact known
        · cases hb
      · intro before a after eq n hn
        rcases all (head :: before) a after (by rw [eq]; rfl) n hn with known | ⟨b, hb, target⟩
        · exact .inl (List.mem_append_right _ known)
        · rcases List.mem_cons.mp hb with rfl | hb
          · exact .inl (List.mem_append_left _ (by simp [target]))
          · exact .inr ⟨b, hb, target⟩

/-- Scope can be checked from left to right. -/
theorem inScope_iff {script : List Statement} :
    InScope script ↔ InScopeOf Statement.reads Statement.target? [] script := by
  rw [inScopeOf_iff]
  simp [InScope]

end Scope

/-! ### What may come next

A statement goes through its clauses in a fixed order. `tier` says how far it has
come when a token of a given kind is next, so that a clause is over as soon as
something of a higher tier comes. -/

/-- The place of a kind among the clauses of a statement; behind them all are the
kinds that start a statement. -/
def tier : TokenKind → Nat
  | .string | .plus => 0
  | .body => 1
  | .number => 2
  | .equals | .question => 3
  | .identifier | .print | .get | .post | .put | .delete => 4

/-- The next token, if there is one, has at least the given tier. -/
def Past (n : Nat) (ts : List Token) : Prop := ∀ t ∈ ts.head?, n ≤ tier t.kind

@[simp] theorem past_nil (n : Nat) : Past n [] := by simp [Past]

@[simp] theorem past_cons {n : Nat} {t : Token} {ts : List Token} :
    Past n (t :: ts) ↔ n ≤ tier t.kind := by simp [Past]

theorem Past.mono {m n : Nat} {ts : List Token} (h : Past n ts) (le : m ≤ n) : Past m ts :=
  fun t ht => Nat.le_trans le (h t ht)

theorem tier_of_method {k : TokenKind} {m : Method} (h : k.method? = some m) : tier k = 4 := by
  cases k <;> first | rfl | cases h

theorem BodySpelled.past {body : Option Expression} {bs r : List Token}
    (h : BodySpelled body bs) (next : Past 2 r) : Past 1 (bs ++ r) := by
  cases h with
  | absent => exact next.mono (by decide)
  | present kind _ => simp [kind, tier]

theorem StatusSpelled.past {status : Option String} {ss r : List Token}
    (h : StatusSpelled status ss) (next : Past 3 r) : Past 2 (ss ++ r) := by
  cases h with
  | absent => exact next.mono (by decide)
  | written kind => simp [kind, tier]

theorem Reaction.Spelled.past {reaction : Reaction} {rs r : List Token}
    (h : reaction.Spelled rs) (next : Past 4 r) : Past 3 (rs ++ r) := by
  cases h with
  | ignore => exact next.mono (by decide)
  | capture kind _ => simp [kind, tier]
  | compare kind _ => simp [kind, tier]

/-- A statement starts with a token of the highest tier. -/
theorem Statement.Spelled.past {s : Statement} {ts : List Token} (h : s.Spelled ts)
    (r : List Token) : Past 4 (ts ++ r) := by
  cases h with
  | assign kind _ _ => simp [kind, tier]
  | print kind _ => simp [kind, tier]
  | request method _ _ _ _ => simp [tier_of_method method]

theorem Statement.Spelled.ne_nil {s : Statement} {ts : List Token} (h : s.Spelled ts) :
    ts ≠ [] := by
  cases h <;> simp

theorem Expression.Spelled.append_eq_cons {e : Expression} {ts : List Token} (h : e.Spelled ts)
    (r : List Token) : ∃ u us, ts ++ r = u :: us := by
  cases h <;> exact ⟨_, _, rfl⟩

theorem past_sentences (script : List Sentence) : Past 4 (script.flatMap (·.tokens)) := by
  cases script with
  | nil => simp
  | cons first rest => exact first.spelled.past _

/-! ### One reading only

A part of a statement ends where the next token has a higher tier; two spellings
of a part that begin the same tokens are therefore the same. -/

section Unique

variable {ts us r r' : List Token}

theorem Operand.Spelled.unique {o o' : Operand} {t : Token} (h : o.Spelled t)
    (h' : o'.Spelled t) : o = o' := by
  cases h with
  | text kind =>
    cases h' with
    | text _ => rfl
    | name kind' => rw [kind] at kind'; cases kind'
  | name kind =>
    cases h' with
    | text kind' => rw [kind] at kind'; cases kind'
    | name _ => rfl

theorem Expression.Spelled.unique {e e' : Expression} (h : e.Spelled ts) (h' : e'.Spelled us)
    (eq : ts ++ r = us ++ r') (next : Past 1 r) (next' : Past 1 r') : e = e' ∧ ts = us := by
  induction h generalizing e' us with
  | single spelled =>
    cases h' with
    | single spelled' =>
      obtain ⟨rfl, -⟩ := List.cons.inj eq
      exact ⟨by rw [spelled.unique spelled'], rfl⟩
    | join _ kind _ =>
      obtain ⟨rfl, rfl⟩ := List.cons.inj eq
      simp [kind, tier] at next
  | join spelled kind _ ih =>
    cases h' with
    | single _ =>
      obtain ⟨rfl, rfl⟩ := List.cons.inj eq
      simp [kind, tier] at next'
    | join spelled' _ inner =>
      obtain ⟨rfl, tail⟩ := List.cons.inj eq
      obtain ⟨rfl, behind⟩ := List.cons.inj tail
      obtain ⟨rfl, rfl⟩ := ih inner behind
      exact ⟨by rw [spelled.unique spelled'], rfl⟩

theorem BodySpelled.unique {body body' : Option Expression} (h : BodySpelled body ts)
    (h' : BodySpelled body' us) (eq : ts ++ r = us ++ r') (next : Past 2 r) (next' : Past 2 r') :
    body = body' ∧ ts = us := by
  cases h with
  | absent =>
    cases h' with
    | absent => exact ⟨rfl, rfl⟩
    | present kind _ =>
      rw [List.nil_append] at eq
      simp [eq, kind, tier] at next
  | present kind spelled =>
    cases h' with
    | absent =>
      rw [List.nil_append] at eq
      simp [← eq, kind, tier] at next'
    | present _ spelled' =>
      obtain ⟨rfl, tail⟩ := List.cons.inj eq
      obtain ⟨rfl, rfl⟩ := spelled.unique spelled' tail (next.mono (by decide)) (next'.mono (by decide))
      exact ⟨rfl, rfl⟩

theorem StatusSpelled.unique {status status' : Option String} (h : StatusSpelled status ts)
    (h' : StatusSpelled status' us) (eq : ts ++ r = us ++ r') (next : Past 3 r)
    (next' : Past 3 r') : status = status' ∧ ts = us := by
  cases h with
  | absent =>
    cases h' with
    | absent => exact ⟨rfl, rfl⟩
    | written kind =>
      rw [List.nil_append] at eq
      simp [eq, kind, tier] at next
  | written kind =>
    cases h' with
    | absent =>
      rw [List.nil_append] at eq
      simp [← eq, kind, tier] at next'
    | written _ =>
      obtain ⟨rfl, -⟩ := List.cons.inj eq
      exact ⟨rfl, rfl⟩

theorem Reaction.Spelled.unique {a a' : Reaction} (h : a.Spelled ts) (h' : a'.Spelled us)
    (eq : ts ++ r = us ++ r') (next : Past 4 r) (next' : Past 4 r') : a = a' ∧ ts = us := by
  cases h with
  | ignore =>
    cases h' with
    | ignore => exact ⟨rfl, rfl⟩
    | capture kind _ | compare kind _ =>
      rw [List.nil_append] at eq
      simp [eq, kind, tier] at next
  | capture kind name =>
    cases h' with
    | ignore =>
      rw [List.nil_append] at eq
      simp [← eq, kind, tier] at next'
    | capture _ _ =>
      obtain ⟨rfl, tail⟩ := List.cons.inj eq
      obtain ⟨rfl, -⟩ := List.cons.inj tail
      exact ⟨rfl, rfl⟩
    | compare kind' _ =>
      obtain ⟨rfl, -⟩ := List.cons.inj eq
      rw [kind] at kind'; cases kind'
  | compare kind spelled =>
    cases h' with
    | ignore =>
      rw [List.nil_append] at eq
      simp [← eq, kind, tier] at next'
    | capture kind' _ =>
      obtain ⟨rfl, -⟩ := List.cons.inj eq
      rw [kind] at kind'; cases kind'
    | compare _ spelled' =>
      obtain ⟨rfl, tail⟩ := List.cons.inj eq
      obtain ⟨rfl, rfl⟩ := spelled.unique spelled' tail (next.mono (by decide)) (next'.mono (by decide))
      exact ⟨rfl, rfl⟩

/-- Clause by clause: each one ends where the next one may begin. -/
theorem clauses_unique {url url' : Expression} {body body' : Option Expression}
    {status status' : Option String} {reaction reaction' : Reaction}
    {us us' bs bs' ss ss' rs rs' : List Token}
    (hurl : url.Spelled us) (hurl' : url'.Spelled us')
    (hbody : BodySpelled body bs) (hbody' : BodySpelled body' bs')
    (hstatus : StatusSpelled status ss) (hstatus' : StatusSpelled status' ss')
    (hreaction : reaction.Spelled rs) (hreaction' : reaction'.Spelled rs')
    (eq : us ++ (bs ++ (ss ++ (rs ++ r))) = us' ++ (bs' ++ (ss' ++ (rs' ++ r'))))
    (next : Past 4 r) (next' : Past 4 r') :
    (url = url' ∧ us = us') ∧ (body = body' ∧ bs = bs') ∧ (status = status' ∧ ss = ss') ∧
      reaction = reaction' ∧ rs = rs' := by
  have third := hreaction.past next
  have third' := hreaction'.past next'
  have second := hstatus.past third
  have second' := hstatus'.past third'
  obtain ⟨rfl, rfl⟩ := hurl.unique hurl' eq (hbody.past second) (hbody'.past second')
  have eq := List.append_cancel_left eq
  obtain ⟨rfl, rfl⟩ := hbody.unique hbody' eq second second'
  have eq := List.append_cancel_left eq
  obtain ⟨rfl, rfl⟩ := hstatus.unique hstatus' eq third third'
  have eq := List.append_cancel_left eq
  obtain ⟨rfl, rfl⟩ := hreaction.unique hreaction' eq next next'
  exact ⟨⟨rfl, rfl⟩, ⟨rfl, rfl⟩, ⟨rfl, rfl⟩, rfl, rfl⟩

/-- A statement's tokens show which statement it is and where it ends, once the
tokens behind it start another one. -/
theorem Statement.Spelled.unique {s s' : Statement} (h : s.Spelled ts) (h' : s'.Spelled us)
    (eq : ts ++ r = us ++ r') (next : Past 4 r) (next' : Past 4 r') : s = s' ∧ ts = us := by
  have ahead : Past 1 r := next.mono (by decide)
  have ahead' : Past 1 r' := next'.mono (by decide)
  cases h with
  | assign kind _ spelled =>
    cases h' with
    | assign _ _ spelled' =>
      obtain ⟨rfl, tail⟩ := List.cons.inj eq
      obtain ⟨rfl, behind⟩ := List.cons.inj tail
      obtain ⟨rfl, rfl⟩ := spelled.unique spelled' behind ahead ahead'
      exact ⟨rfl, rfl⟩
    | print kind' _ =>
      obtain ⟨rfl, -⟩ := List.cons.inj eq
      rw [kind] at kind'; cases kind'
    | request method _ _ _ _ =>
      obtain ⟨rfl, -⟩ := List.cons.inj eq
      rw [kind] at method; cases method
  | print kind spelled =>
    cases h' with
    | assign kind' _ _ =>
      obtain ⟨rfl, -⟩ := List.cons.inj eq
      rw [kind] at kind'; cases kind'
    | print _ spelled' =>
      obtain ⟨rfl, tail⟩ := List.cons.inj eq
      obtain ⟨rfl, rfl⟩ := spelled.unique spelled' tail ahead ahead'
      exact ⟨rfl, rfl⟩
    | request method _ _ _ _ =>
      obtain ⟨rfl, -⟩ := List.cons.inj eq
      rw [kind] at method; cases method
  | request method url body status reaction =>
    cases h' with
    | assign kind' _ _ =>
      obtain ⟨rfl, -⟩ := List.cons.inj eq
      rw [kind'] at method; cases method
    | print kind' _ =>
      obtain ⟨rfl, -⟩ := List.cons.inj eq
      rw [kind'] at method; cases method
    | request method' url' body' status' reaction' =>
      obtain ⟨rfl, clauses⟩ := List.cons.inj eq
      rw [method] at method'
      cases method'
      change _ ++ r = _ ++ r' at clauses
      simp only [List.append_assoc] at clauses
      obtain ⟨⟨rfl, rfl⟩, ⟨rfl, rfl⟩, ⟨rfl, rfl⟩, rfl, rfl⟩ :=
        clauses_unique url url' body body' status status' reaction reaction' clauses next next'
      exact ⟨rfl, rfl⟩

end Unique

/-- Tokens can be cut into sentences in one way only. -/
theorem sentences_unique {script other : List Sentence}
    (eq : script.flatMap (·.tokens) = other.flatMap (·.tokens)) : script = other := by
  induction script generalizing other with
  | nil =>
    cases other with
    | nil => rfl
    | cons first rest =>
      have := first.spelled.ne_nil
      simp_all
  | cons first rest ih =>
    cases other with
    | nil =>
      have := first.spelled.ne_nil
      simp_all
    | cons first' rest' =>
      simp only [List.flatMap_cons] at eq
      obtain ⟨same, sameTokens⟩ := first.spelled.unique first'.spelled eq
        (past_sentences rest) (past_sentences rest')
      rw [sameTokens] at eq
      rw [ih (List.append_cancel_left eq)]
      cases first
      cases first'
      cases same
      cases sameTokens
      rfl

end RouteScript.Script

import RouteScript.Client.Exchange
import RouteScript.Text.UpperCase

/-!
A request with its further attempts.

A client is opened for each request and closed behind it, whatever happens.
Failed attempts are repeated up to the configured number of times, after a pause
that doubles each time; the doubling ends at the largest power of two that is a
float. Every status is a reply; nothing at all is reported once the attempts are
used up.
-/

namespace RouteScript

/-- The result of a request: a reply or none, unless a failure was passed on; the
state of the transport; and what the client did. -/
structure Exchange (τ : Type) where
  outcome : Except ClientFault (Option Reply)
  transport : τ
  events : List Event

namespace Client

/-- The header that says what a body is. -/
def contentType : String × String := ("Content-Type", "text/plain; charset=utf-8")

/-- Whether a header name is that of the content type, in any case. No character
beyond ASCII has one of its letters as lower-case form. -/
def isContentType (name : String) : Bool :=
  String.ofList (name.toList.map Char.toLower) = "content-type"

/-- The headers of a request; one with a body says what it is unless the settings
do. -/
def headers (settings : TransportSettings) (body : Option String) : List (String × String) :=
  if body.isSome && !settings.headers.any (isContentType ·.1) then settings.headers ++ [contentType]
  else settings.headers

/-- The pause behind attempt number `attempt`, counted from zero. -/
def pause (settings : TransportSettings) (attempt : Nat) : Except ConversionError Float :=
  (Value.floatOfInt (Nat.pow 2 attempt)).map (settings.backoff * ·)

/-- Up to `remaining` attempts, of which the first has number `attempt`. -/
def attempts {τ : Type} (transport : Transport τ) (settings : TransportSettings)
    (request : HttpRequest) : (remaining attempt : Nat) → τ → Exchange τ
  | 0, _, state => ⟨.ok none, state, []⟩
  | remaining + 1, attempt, state =>
    let (answer, state) := transport request state
    match answer.attempt with
    | .reply r => ⟨.ok (some r), state, [.request request]⟩
    | .fault f => ⟨.error f, state, [.request request]⟩
    | .retryable =>
      if remaining = 0 then ⟨.ok none, state, [.request request]⟩
      else match pause settings attempt with
        | .error e => ⟨.error (.conversion e), state, [.request request]⟩
        | .ok seconds =>
          let rest := attempts transport settings request remaining (attempt + 1) state
          { rest with events := .request request :: .sleep seconds :: rest.events }

/-- A request under given settings. -/
def send {τ : Type} (transport : Transport τ) (settings : TransportSettings)
    (method url : String) (body : Option String) (state : τ) : Exchange τ :=
  let request := ⟨Text.upperCase method, url, headers settings body, body⟩
  let result := attempts transport settings request (settings.retries + 1).toNat 0 state
  { result with
    events := .client settings.timeout settings.followRedirects :: result.events ++ [.close] }

/-- A request under settings that are still data. -/
def request {τ : Type} (transport : Transport τ) (config : Value) (method url : String)
    (body : Option String) (state : τ) : Exchange τ :=
  match TransportSettings.normalize config with
  | .error e => ⟨.error (.conversion e), state, []⟩
  | .ok settings => send transport settings method url body state

end Client

end RouteScript

import RouteScript.Settings.Transport

/-!
One exchange with a server, seen from the client.

A `Transport` answers one request at a time and may change its state in doing
so. Its answers are replies, whose status is whatever the other side claims it to
be, and failures. Most failures are worth another attempt
(`TransportFailure.retryable`); the rest are passed on.
-/

namespace RouteScript

/-- A request as it is sent. -/
structure HttpRequest where
  method : String
  url : String
  headers : List (String × String)
  body : Option String
  deriving DecidableEq, Repr

/-- A completed exchange. -/
structure Reply where
  status : Int
  text : String
  deriving DecidableEq, Repr

/-- How a transport can fail. -/
inductive TransportFailure where
  | connection
  | connectionTimeout
  | readTimeout
  | reading
  | unsupportedProtocol
  | tooManyRedirects
  | decoding
  | remoteProtocol
  | invalidUrl
  | invalidValue
  | invalidText
  | cookieConflict
  | internal
  | wrongKind
  | system
  deriving DecidableEq, Repr

/-- Failures of the network and of the request's own text are retried; failures of
the program around it are not. -/
def TransportFailure.retryable : TransportFailure → Bool
  | cookieConflict | internal | wrongKind | system => false
  | _ => true

/-- What a transport answers. -/
inductive Answer where
  | reply (status : Value) (text : Option String)
  | failure (cause : TransportFailure) (message : String)

/-- Something that answers requests; `τ` is its state. -/
abbrev Transport (τ : Type) := HttpRequest → τ → Answer × τ

/-- A failure that the client does not handle. -/
inductive ClientFault where
  | transport (cause : TransportFailure) (message : String)
  | conversion (e : ConversionError)
  deriving DecidableEq, Repr

/-- What became of one attempt. -/
inductive Attempt where
  | reply (r : Reply)
  | retryable
  | fault (f : ClientFault)
  deriving DecidableEq, Repr

/-- Judges an answer: a status that is no integer is a failure like any other, and
worth another attempt if its value is at fault. -/
def Answer.attempt : Answer → Attempt
  | reply status text =>
    match status.toInt with
    | .ok n => .reply ⟨n, text.getD ""⟩
    | .error e => if e.kind = .value then .retryable else .fault (.conversion e)
  | failure cause message =>
    if cause.retryable then .retryable else .fault (.transport cause message)

/-- What a client does, in order. -/
inductive Event where
  /-- The client is opened. -/
  | client (timeout : Float) (followRedirects : Bool)
  | request (r : HttpRequest)
  /-- A pause between two attempts. -/
  | sleep (seconds : Float)
  /-- The client is closed. -/
  | close

end RouteScript

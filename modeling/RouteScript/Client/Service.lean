import RouteScript.Client.Retry
import RouteScript.Machine.Basic

/-!
The client as the service of a machine.

Every request of a machine goes through `Client.request` with the same
configuration; the events of all requests are kept in one log.
-/

namespace RouteScript

/-- A transport and all that clients did with it, oldest first. -/
structure Traffic (τ : Type) where
  transport : τ
  log : List Event := []

namespace Client

/-- The configuration of a service: a mapping, the empty one for anything that
counts as false. -/
def configuration (data : Value) : Except ConversionError Value :=
  data.entriesOrEmpty.map .dict

/-- Makes the requests of a machine over a transport. A status that the machine
cannot write is a failure of its own. -/
def service {τ : Type} (transport : Transport τ) (config : Value) :
    Service (Traffic τ) ClientFault where
  send method url body traffic :=
    let x := request transport config method.text url body traffic.transport
    (x.outcome, ⟨x.transport, traffic.log ++ x.events⟩)
  unwritten e := some (.conversion e)

end Client

end RouteScript

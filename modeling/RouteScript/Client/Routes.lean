import RouteScript.Client.Exchange

/-!
A transport that answers from a table of routes.

The first route that fits a request answers it. The replies of a route are used
one after the other, and the last one stays. Where no route fits, or the route has
no reply, no connection can be made.
-/

namespace RouteScript

/-- A reply that a route holds ready. -/
inductive Prepared where
  /-- A fixed answer. -/
  | answer (a : Answer)
  /-- A reply with the body of the request as its text. -/
  | echo (status : Value)

/-- Answers for the requests with a given method and URL, `*` standing for any.
The first reply is the next one to be used. -/
structure Route where
  method : String
  url : String
  replies : List Prepared

namespace Route

/-- Whether a route answers a request. -/
def fits (r : HttpRequest) (route : Route) : Bool :=
  (route.method = "*" || route.method = r.method) && (route.url = "*" || route.url = r.url)

/-- The answer where there is none to be had. -/
def noConnection : Answer := .failure .connection ""

/-- Answers from the first reply; it is used up unless it is the last. -/
def answer (r : HttpRequest) (route : Route) : Answer × Route :=
  let ready : Prepared → Answer
    | .answer a => a
    | .echo status => .reply status r.body
  match route.replies with
  | [] => (noConnection, route)
  | [last] => (ready last, route)
  | reply :: rest => (ready reply, { route with replies := rest })

/-- Answers from a table of routes. -/
def transport (r : HttpRequest) : List Route → Answer × List Route
  | [] => (noConnection, [])
  | route :: rest =>
    if route.fits r then
      let (a, used) := route.answer r
      (a, used :: rest)
    else
      let (a, rest) := transport r rest
      (a, route :: rest)

end Route

end RouteScript

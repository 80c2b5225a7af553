import RouteScript.Settings.Conversion

/-!
The settings of the transport.

`TransportSettings.normalize` reads them from any data that can be converted:
settings that are absent take their defaults, the others are converted in a
fixed order, and the first that fails decides the error. Settings can be turned
back into data (`TransportSettings.toValue`), and normalizing that gives the same
settings again.
-/

namespace RouteScript

/-- How requests are made. -/
structure TransportSettings where
  /-- How long to wait for a reply, in seconds. -/
  timeout : Float
  /-- How many further attempts follow a failed one. -/
  retries : Int
  /-- The pause before the first further attempt, in seconds; it doubles each time. -/
  backoff : Float
  headers : List (String × String)
  followRedirects : Bool

namespace TransportSettings

/-- Five seconds. -/
def defaultTimeout : Float := 5.0

/-- No second attempt. -/
def defaultRetries : Int := 0

/-- A fifth of a second. -/
def defaultBackoff : Float := 0.2

/-- Headers from data: names and values are turned into text, and of equal names
the last value counts. -/
def headersOf (entries : List (Value × Value)) :
    Except ConversionError (List (String × String)) :=
  entries.foldlM (fun headers (k, v) => do return Assoc.set (← k.toText) (← v.toText) headers) []

/-- Settings from the pairs of a mapping. -/
def ofEntries (entries : List (Value × Value)) : Except ConversionError TransportSettings := do
  let timeout ← ((Value.get? entries "timeout").getD (.float defaultTimeout)).toFloat
  let retries ← ((Value.get? entries "retries").getD (.int defaultRetries)).toInt
  let backoff ← ((Value.get? entries "backoff").getD (.float defaultBackoff)).toFloat
  let headers ← headersOf (← ((Value.get? entries "headers").getD .null).entriesOrEmpty)
  let followRedirects := ((Value.get? entries "follow-redirects").getD (.bool false)).truthy
  return { timeout, retries, backoff, headers, followRedirects }

/-- Settings from data. -/
def normalize (data : Value) : Except ConversionError TransportSettings := do
  ofEntries (← data.entriesOrEmpty)

/-- Settings as data. -/
def toValue (s : TransportSettings) : Value :=
  .dict [(.text "timeout", .float s.timeout), (.text "retries", .int s.retries),
    (.text "backoff", .float s.backoff),
    (.text "headers", .dict (s.headers.map fun (k, v) => (.text k, .text v))),
    (.text "follow-redirects", .bool s.followRedirects)]

/-- The settings of an empty configuration. -/
def default : TransportSettings :=
  ⟨defaultTimeout, defaultRetries, defaultBackoff, [], false⟩

end TransportSettings

end RouteScript

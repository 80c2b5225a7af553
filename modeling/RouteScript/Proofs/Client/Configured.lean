import Mathlib.Data.Nat.Find
import RouteScript.Host
import RouteScript.Proofs.Client.Exhaustion

/-!
What requests are made with.

Between a configuration and a request the settings of the transport are turned into data and
read again several times: when the configuration is made, when flags are laid over it, when a
machine takes it over, and in every request. All of this changes nothing
(`settings_survive`): the requests of a machine are made with the settings that the data of
the configuration stands for, as if these had been handed to the client directly (`sending`).

What that means for a call does not refer to the client: `Labels` says with which headers its
request is sent, and `Obeys` with what the call opens its client, how often and after which
pauses it makes the request again, and what it comes to.
-/

namespace RouteScript.Client

variable {τ : Type}

/-! ### Headers -/

/-- The headers of a request with some body. Behind the headers of the settings it says what its
body is, unless it has none or the settings say so. -/
inductive Labels (settings : TransportSettings) :
    Option String → List (String × String) → Prop where
  | bare : Labels settings none settings.headers
  | given {body name value : String} : (name, value) ∈ settings.headers →
      name.toLower = "content-type" → Labels settings (some body) settings.headers
  | added {body : String} :
      (∀ name value, (name, value) ∈ settings.headers → name.toLower ≠ "content-type") →
      Labels settings (some body)
        (settings.headers ++ [("Content-Type", "text/plain; charset=utf-8")])

theorem isContentType_iff (name : String) :
    isContentType name = true ↔ name.toLower = "content-type" := by
  have lower : String.ofList (name.toList.map Char.toLower) = name.toLower := by
    rw [← String.toList_map, String.ofList_toList]
    rfl
  rw [isContentType, lower]
  exact decide_eq_true_iff

theorem headers_label (settings : TransportSettings) (body : Option String) :
    Labels settings body (headers settings body) := by
  cases body with
  | none => exact .bare
  | some body =>
    unfold headers
    cases found : settings.headers.any (isContentType ·.1) with
    | true =>
      obtain ⟨⟨name, value⟩, mem, named⟩ := List.any_eq_true.mp found
      exact .given mem ((isContentType_iff name).mp named)
    | false =>
      refine .added fun name value mem named => ?_
      exact List.any_eq_false.mp found _ mem ((isContentType_iff name).mpr named)

/-! ### Calls -/

/-- What a call comes to under settings, by the answers to the request that it makes again and
again. -/
inductive Obeys (settings : TransportSettings) (transport : Transport τ) (sent : HttpRequest)
    (state : τ) : Exchange τ → Prop where
  /-- The first attempt that is worth no other is the last, and decides. -/
  | decided (n : Nat) : n ≤ settings.retries → n ≤ 1024 →
      (∀ k < n, (transport.answerAt sent state k).attempt = .retryable) →
      (transport.answerAt sent state n).attempt ≠ .retryable →
      Obeys settings transport sent state
        ⟨(transport.answerAt sent state n).attempt.verdict, transport.after sent state (n + 1),
          callTrail settings sent (n + 1)⟩
  /-- All attempts that are allowed are made in vain. -/
  | refused : settings.retries ≤ 1024 →
      (∀ k : Nat, k ≤ settings.retries →
        (transport.answerAt sent state k).attempt = .retryable) →
      Obeys settings transport sent state
        ⟨.ok none, transport.after sent state (settings.retries + 1).toNat,
          callTrail settings sent (settings.retries + 1).toNat⟩
  /-- Further attempts are allowed, but the pause before the next would be too long for a float. -/
  | exhausted : 1024 < settings.retries →
      (∀ k ≤ 1024, (transport.answerAt sent state k).attempt = .retryable) →
      Obeys settings transport sent state
        ⟨.error (.conversion .integerTooLarge), transport.after sent state 1025,
          callTrail settings sent 1025⟩

/-- Up to some attempt all are worth another, or there is a first that is not. -/
theorem all_again_or_first (transport : Transport τ) (sent : HttpRequest) (state : τ)
    (bound : Nat) :
    (∀ k ≤ bound, (transport.answerAt sent state k).attempt = .retryable) ∨
      ∃ n ≤ bound, (∀ k < n, (transport.answerAt sent state k).attempt = .retryable) ∧
        (transport.answerAt sent state n).attempt ≠ .retryable := by
  by_cases ends : ∃ n, n ≤ bound ∧ (transport.answerAt sent state n).attempt ≠ .retryable
  · obtain ⟨within, last⟩ := Nat.find_spec ends
    refine .inr ⟨Nat.find ends, within, fun k early => ?_, last⟩
    by_contra again
    exact Nat.find_min ends early ⟨Nat.le_trans (Nat.le_of_lt early) within, again⟩
  · refine .inl fun k le => ?_
    by_contra again
    exact ends ⟨k, le, again⟩

/-- A call under given settings obeys them. -/
theorem send_obeys (transport : Transport τ) (settings : TransportSettings) (method url : String)
    (body : Option String) (state : τ) :
    Obeys settings transport (outgoing settings method url body) state
      (send transport settings method url body state) := by
  let sent := outgoing settings method url body
  rcases Int.lt_or_le settings.retries 0 with negative | some_allowed
  · have none_again : ∀ k : Nat, k ≤ settings.retries →
        (transport.answerAt sent state k).attempt = .retryable :=
      fun k allowed => absurd allowed (by omega)
    rw [send_refused transport method url body state (by omega) none_again]
    exact .refused (by omega) none_again
  -- No attempt behind number 1024 is made, whatever is allowed.
  rcases all_again_or_first transport sent state (min settings.retries.toNat 1024) with
    all | ⟨n, le, before, last⟩
  · rcases Int.lt_or_le 1024 settings.retries with many | few
    · have again : ∀ k ≤ 1024, (transport.answerAt sent state k).attempt = .retryable :=
        fun k early => all k (by omega)
      rw [send_exhausted transport method url body state many again]
      exact .exhausted many again
    · have again : ∀ k : Nat, k ≤ settings.retries →
          (transport.answerAt sent state k).attempt = .retryable :=
        fun k allowed => all k (by omega)
      rw [send_refused transport method url body state few again]
      exact .refused few again
  · have allowed : n ≤ settings.retries := by omega
    have early : n ≤ 1024 := by omega
    rw [send_of_last transport method url body state early allowed before
      (attempts_last (.inl last))]
    exact .decided n allowed early before last

/-! ### Configurations -/

/-- Makes the requests of a machine with given settings. -/
def sending (transport : Transport τ) (settings : TransportSettings) :
    Service (Traffic τ) ClientFault where
  send method url body traffic :=
    let x := send transport settings method.text url body traffic.transport
    (x.outcome, ⟨x.transport, traffic.log ++ x.events⟩)
  unwritten e := some (.conversion e)

/-- A machine takes settings over as they are. -/
theorem configuration_toValue (settings : TransportSettings) :
    configuration settings.toValue = .ok settings.toValue := rfl

theorem service_toValue (transport : Transport τ) {settings : TransportSettings}
    (stable : TransportSettings.normalize settings.toValue = .ok settings) :
    service transport settings.toValue = sending transport settings := by
  simp only [service, sending, request, stable]

/-- The method of a machine is sent as it is. -/
theorem upperCase_text (method : Method) : Text.upperCase method.text = method.text := by
  cases method <;> decide +kernel

/-- A request of a machine is sent with the headers of the settings and obeys them. -/
theorem sending_obeys (transport : Transport τ) (settings : TransportSettings) (method : Method)
    (url : String) (body : Option String) (traffic : Traffic τ) :
    ∃ headers x, Labels settings body headers ∧
      Obeys settings transport ⟨method.text, url, headers, body⟩ traffic.transport x ∧
      (sending transport settings).send method url body traffic =
        (x.outcome, ⟨x.transport, traffic.log ++ x.events⟩) := by
  have obeys := send_obeys transport settings method.text url body traffic.transport
  rw [outgoing, upperCase_text] at obeys
  exact ⟨_, _, headers_label settings body, obeys, rfl⟩

/-- Settings that were read once are read the same ever after. So every request under a
configuration that is accepted, whatever flags are laid over it, is made with the settings of
its data: they open the client, they bound the attempts, and the headers and the pauses are
theirs. -/
theorem settings_survive (transport : Transport τ) :
    (∀ value settings, TransportSettings.normalize value = .ok settings →
      TransportSettings.normalize settings.toValue = .ok settings) ∧
    ∀ data config, RunConfig.ofData data = .ok config → ∀ flags : Modes,
      ∃ settings applied,
        TransportSettings.normalize (RunConfig.transportData data) = .ok settings ∧
        config.withFlags flags = .ok applied ∧
        config.http = settings ∧ applied.http = settings ∧
        configuration applied.http.toValue = .ok settings.toValue ∧
        (applied.host transport).service = sending transport settings ∧
        ∀ method url body traffic, ∃ headers x, Labels settings body headers ∧
          Obeys settings transport ⟨method.text, url, headers, body⟩ traffic.transport x ∧
          (applied.host transport).service.send method url body traffic =
            (x.outcome, ⟨x.transport, traffic.log ++ x.events⟩) := by
  refine ⟨fun value settings => TransportSettings.normalize_stable, ?_⟩
  intro data config accepted flags
  have read := RunConfig.ofData_http accepted
  have service : Client.service transport config.http.toValue = sending transport config.http :=
    service_toValue transport (TransportSettings.normalize_stable read)
  refine ⟨config.http, _, read, RunConfig.withFlags_ofData accepted flags, rfl, rfl,
    configuration_toValue config.http, service, fun method url body traffic => ?_⟩
  change ∃ headers x, _ ∧ _ ∧ (Client.service transport config.http.toValue).send .. = _
  rw [service]
  exact sending_obeys transport config.http method url body traffic

/-- Two headers that become one, and numbers as texts; then a configuration with the mapping
of such headers and one retry, laid over with a flag, and a call that is refused twice. -/
theorem settings_survive_merged :
    let headers : List (Value × Value) :=
      [(.bool true, .text "a"), (.text "b", .null), (.text "True", .text "c")]
    let value : Value := .dict [(.text "retries", .text " 3 "),
      (.text "headers", .list (headers.map fun (k, v) => .list [k, v]))]
    let settings : TransportSettings :=
      { TransportSettings.default with retries := 1, headers := [("True", "c"), ("b", "None")] }
    let data : Value :=
      .dict [(.text "http", .dict [(.text "retries", .int 1), (.text "headers", .dict headers)])]
    let transport : Transport Nat := fun _ n => (Route.noConnection, n + 1)
    let sent : HttpRequest := ⟨"POST", "/a",
      [("True", "c"), ("b", "None"), ("Content-Type", "text/plain; charset=utf-8")], some "x"⟩
    (TransportSettings.normalize value = .ok { settings with retries := 3 } ∧
      RunConfig.ofData data = .ok ⟨{}, settings⟩) ∧
    TransportSettings.normalize ({ settings with retries := 3 } : TransportSettings).toValue =
      .ok { settings with retries := 3 } ∧
    ∃ applied, RunConfig.withFlags ⟨{}, settings⟩ { quiet := true } = .ok applied ∧
      (applied.host transport).service = sending transport settings ∧
      (applied.host transport).service.send .post "/a" (some "x") ⟨0, []⟩ =
        (.ok none, ⟨2, [.client 5.0 false, .request sent,
          .sleep (0.2 * Float.ofNat (Nat.pow 2 0)), .request sent, .close]⟩) := by
  intro headers value settings data transport sent
  have read : TransportSettings.normalize value = .ok { settings with retries := 3 } := rfl
  have accepted : RunConfig.ofData data = .ok ⟨{}, settings⟩ := rfl
  obtain ⟨stable, survive⟩ := settings_survive transport
  obtain ⟨same, applied, -, flagged, eq, -, -, service, calls⟩ :=
    survive data ⟨{}, settings⟩ accepted { quiet := true }
  cases eq
  refine ⟨⟨read, accepted⟩, stable value _ read, applied, flagged, service, ?_⟩
  obtain ⟨names, x, labels, obeys, answer⟩ := calls .post "/a" (some "x") ⟨0, []⟩
  rw [answer]
  have unlabelled : names = sent.headers := by
    cases labels with
    | given mem named =>
      have others : ∀ h ∈ settings.headers, h.1.toLower ≠ "content-type" := by decide +kernel
      exact absurd named (others _ mem)
    | added _ => rfl
  subst unlabelled
  cases obeys with
  | decided n _ _ _ last => exact absurd rfl last
  | refused _ _ => rfl
  | exhausted many _ => exact absurd many (by decide)

end RouteScript.Client

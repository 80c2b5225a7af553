import RouteScript.Proofs.Client.Retrying
import RouteScript.Proofs.Settings.Stability

/-!
Requests that are made again too often.

The pause behind attempt number 1024 would be longer than any float, so that attempt is the
last whatever the settings allow. If it has no reply either, the call does not come back
without one: the failure to work out the pause gets through (`send_exhausted`).

So a call whose attempts all fail has no reply, but it passes a failure on exactly if more
than 1024 retries are allowed (`request_refused`).
-/

namespace RouteScript.Client

variable {τ : Type}

section Attempts

variable {transport : Transport τ} {settings : TransportSettings} {request : HttpRequest}
  {state : τ} {remaining attempt : Nat}

/-- No other attempt can follow number 1024. -/
theorem attempts_stuck (again : (transport request state).1.attempt = .retryable)
    (some_left : remaining ≠ 0) (here : attempt = 1024) :
    attempts transport settings request (remaining + 1) attempt state =
      ⟨.error (.conversion .integerTooLarge), (transport request state).2,
        [.request request]⟩ := by
  rw [attempts]
  simp only [again, some_left, if_false, pause_eq_error settings here]

end Attempts

/-- A call that is allowed more than 1024 retries and in which 1025 attempts fail. -/
theorem send_exhausted (transport : Transport τ) {settings : TransportSettings}
    (method url : String) (body : Option String) (state : τ) (many : 1024 < settings.retries)
    (again : ∀ k ≤ 1024,
      (transport.answerAt (outgoing settings method url body) state k).attempt = .retryable) :
    send transport settings method url body state =
      ⟨.error (.conversion .integerTooLarge),
        transport.after (outgoing settings method url body) state 1025,
        callTrail settings (outgoing settings method url body) 1025⟩ := by
  refine send_of_last transport method url body state (Nat.le_refl 1024) (by omega)
    (fun k before => again k (by omega)) ?_
  exact attempts_stuck (again 1024 (Nat.le_refl _)) (by omega) rfl

/-- A call that is allowed fewer retries and in which all attempts fail. -/
theorem send_refused (transport : Transport τ) {settings : TransportSettings}
    (method url : String) (body : Option String) (state : τ) (few : settings.retries ≤ 1024)
    (again : ∀ k : Nat, k ≤ settings.retries →
      (transport.answerAt (outgoing settings method url body) state k).attempt = .retryable) :
    send transport settings method url body state =
      ⟨.ok none, transport.after (outgoing settings method url body) state
          (settings.retries + 1).toNat,
        callTrail settings (outgoing settings method url body) (settings.retries + 1).toNat⟩ := by
  rcases Int.lt_or_le settings.retries 0 with negative | some_allowed
  · have no_attempts : (settings.retries + 1).toNat = 0 := by omega
    rw [send_of_negative transport method url body state negative, no_attempts]
    rfl
  · obtain ⟨n, eq⟩ : ∃ n : Nat, settings.retries = n := ⟨settings.retries.toNat, by omega⟩
    have attempts_made : (settings.retries + 1).toNat = n + 1 := by omega
    have failed := again n (by omega)
    rw [send_eq transport method url body state few (Int.le_of_eq eq.symm)
      (fun k before => again k (by omega)) (.inr eq.symm), failed, attempts_made]
    rfl

/-- A call in which every attempt fails, under the settings of a configuration that is
accepted. It comes back without a reply behind all the attempts that are allowed exactly if no
more than 1024 retries are. Otherwise attempt number 1024 is the last one, and the failure to
work out the pause behind it gets through. -/
theorem request_refused {data : Value} {config : RunConfig}
    (accepted : RunConfig.ofData data = .ok config) (transport : Transport τ)
    (method url : String) (body : Option String) (state : τ) :
    let http := RunConfig.transportData data
    let retries := config.http.retries
    let sent := outgoing config.http method url body
    let call := request transport http method url body state
    (∀ k : Nat, k ≤ retries → (transport.answerAt sent state k).attempt = .retryable) →
      (∀ entries, http = .dict entries →
        (Value.get? entries "retries").getD (.int 0) = .int retries) ∧
      (call.outcome = .ok none ∧ call.events.countP Event.isRequest = (retries + 1).toNat ↔
        retries ≤ 1024) ∧
      (1024 < retries → call.outcome = .error (.conversion .integerTooLarge) ∧
        call.transport = transport.after sent state 1025 ∧
        call.events = callTrail config.http sent 1025) := by
  intro http retries sent call again
  have under_settings : call = send transport config.http method url body state := by
    simp only [call, request, http, RunConfig.ofData_http accepted]
  have exhausted (many : 1024 < retries) := under_settings.trans
    (send_exhausted transport method url body state many fun k early => again k (by omega))
  refine ⟨fun entries given => RunConfig.ofData_retries accepted given, ⟨fun refused => ?_,
    fun few => ?_⟩, fun many => ?_⟩
  · apply Int.not_lt.mp
    intro many
    have passed_on := refused.1
    rw [exhausted many] at passed_on
    cases passed_on
  · rw [under_settings.trans (send_refused transport method url body state few again)]
    exact ⟨rfl, (countP_callTrail config.http sent _).1⟩
  · rw [exhausted many]
    exact ⟨rfl, rfl, rfl⟩

/-- The most retries that a call comes back from. -/
theorem request_refused_largest :
    let data : Value := .dict [(.text "http", .dict [(.text "retries", .int 1024)])]
    let config : RunConfig := ⟨{}, { TransportSettings.default with retries := 1024 }⟩
    let transport : Transport Nat := fun _ n => (Route.noConnection, n + 1)
    let sent := outgoing config.http "get" "/a" none
    let call := request transport (RunConfig.transportData data) "get" "/a" none 0
    RunConfig.ofData data = .ok config ∧
      (∀ k : Nat, k ≤ config.http.retries →
        (transport.answerAt sent 0 k).attempt = .retryable) ∧
      call.outcome = .ok none ∧ call.events.countP Event.isRequest = 1025 := by
  intro data config transport sent call
  have accepted : RunConfig.ofData data = .ok config := rfl
  have again : ∀ k : Nat, k ≤ config.http.retries →
      (transport.answerAt sent 0 k).attempt = .retryable := fun _ _ => rfl
  obtain ⟨-, refused, -⟩ := request_refused accepted transport "get" "/a" none 0 again
  exact ⟨accepted, again, refused.mpr (Int.le_refl 1024)⟩

/-- With one more the call fails, though every attempt is refused as before. -/
theorem request_refused_too_often :
    let data : Value :=
      .dict [(.text "http", .dict [(.text "retries", .int 1025), (.text "backoff", .float 0.0)])]
    let transport : Transport Nat := fun _ n => (Route.noConnection, n + 1)
    let call := request transport (RunConfig.transportData data) "get" "/" none 0
    (∃ config, RunConfig.ofData data = .ok config) ∧
      (∀ sent k, (transport.answerAt sent 0 k).attempt = .retryable) ∧
      call.outcome ≠ .ok none ∧ call.outcome = .error (.conversion .integerTooLarge) := by
  intro data transport call
  let settings : TransportSettings :=
    { TransportSettings.default with retries := 1025, backoff := 0.0 }
  have read : TransportSettings.normalize (RunConfig.transportData data) = .ok settings := rfl
  have many : 1024 < settings.retries := by decide
  have stuck := send_exhausted transport "get" "/" none 0 many fun _ _ => rfl
  have failed : call.outcome = .error (.conversion .integerTooLarge) := by
    simp only [call, request, read, stuck]
  refine ⟨⟨⟨{}, settings⟩, rfl⟩, fun _ _ => rfl, ?_, failed⟩
  intro comes_back
  rw [failed] at comes_back
  cases comes_back

end RouteScript.Client

import RouteScript.Proofs.Decimal.FloatRange
import RouteScript.Client.Retry
import RouteScript.Client.Routes

/-!
Requests that are made again.

What a call comes to is decided by the transport alone. Behind `n` requests that are all
the same its state is `Transport.after n`, so every attempt has its answer
(`Transport.answerAt`) before any is made. A call ends with the first attempt that is worth
no other, or with the last that its settings allow: `attempts_eq` is an induction on how
many attempts go before that one. What the client did is then a `trail`, in which a pause
lies between any two requests and lasts twice as long as the pause before it.
-/

namespace RouteScript

namespace Transport

variable {τ : Type}

/-- The state of a transport behind `n` times the same request. -/
def after (transport : Transport τ) (request : HttpRequest) (state : τ) : (n : Nat) → τ
  | 0 => state
  | n + 1 => (transport request (after transport request state n)).2

/-- The answer to a request that was made `n` times before. -/
def answerAt (transport : Transport τ) (request : HttpRequest) (state : τ) (n : Nat) : Answer :=
  (transport request (transport.after request state n)).1

end Transport

/-- What a call comes to whose last attempt this is. -/
def Attempt.verdict : Attempt → Except ClientFault (Option Reply)
  | .reply r => .ok (some r)
  | .fault f => .error f
  | .retryable => .ok none

/-- Whether an event is a request. -/
def Event.isRequest : Event → Bool
  | request _ => true
  | _ => false

/-- Whether an event is a pause. -/
def Event.isPause : Event → Bool
  | sleep _ => true
  | _ => false

namespace Client

/-- `n` further attempts behind the one with number `first`: each is a pause and the same
request again. -/
def furtherTrail (settings : TransportSettings) (request : HttpRequest) (first n : Nat) :
    List Event :=
  (List.range' first n).flatMap fun k =>
    [.sleep (settings.backoff * Float.ofNat (Nat.pow 2 k)), .request request]

/-- `n` attempts from the start. -/
def trail (settings : TransportSettings) (request : HttpRequest) : (n : Nat) → List Event
  | 0 => []
  | n + 1 => .request request :: furtherTrail settings request 0 n

section Trail

variable (settings : TransportSettings) (request : HttpRequest)

theorem furtherTrail_succ (first n : Nat) :
    furtherTrail settings request first (n + 1) =
      .sleep (settings.backoff * Float.ofNat (Nat.pow 2 first)) :: .request request ::
        furtherTrail settings request (first + 1) n := by
  simp [furtherTrail, List.range'_succ]

/-- Each further attempt has a request and a pause. -/
theorem countP_furtherTrail (first n : Nat) :
    (furtherTrail settings request first n).countP Event.isRequest = n ∧
      (furtherTrail settings request first n).countP Event.isPause = n := by
  induction n generalizing first with
  | zero => exact ⟨rfl, rfl⟩
  | succ n ih =>
    simp [furtherTrail_succ, List.countP_cons, Event.isRequest, Event.isPause, ih (first + 1)]

theorem countP_isRequest_trail (n : Nat) :
    (trail settings request n).countP Event.isRequest = n := by
  cases n with
  | zero => rfl
  | succ n => simp [trail, List.countP_cons, Event.isRequest, countP_furtherTrail]

/-- There is no pause before the first attempt. -/
theorem countP_isPause_trail (n : Nat) :
    (trail settings request n).countP Event.isPause = n - 1 := by
  cases n with
  | zero => rfl
  | succ n => simp [trail, Event.isPause, countP_furtherTrail]

end Trail

/-- The pauses are floats up to the one behind attempt number 1023. -/
theorem pause_eq (settings : TransportSettings) {attempt : Nat} (h : attempt < 1024) :
    pause settings attempt = .ok (settings.backoff * Float.ofNat (Nat.pow 2 attempt)) := by
  have fits : ¬ FloatRange.firstOverflow ≤ Int.natAbs (Nat.pow 2 attempt) :=
    Nat.not_le.mpr (FloatRange.two_pow_lt_firstOverflow h)
  rw [pause, Value.floatOfInt_eq, if_neg fits]
  rfl

/-- Behind attempt number 1024 there is no pause. -/
theorem pause_eq_error (settings : TransportSettings) {attempt : Nat} (h : attempt = 1024) :
    pause settings attempt = .error .integerTooLarge := by
  have large : FloatRange.firstOverflow ≤ Int.natAbs (Nat.pow 2 attempt) :=
    FloatRange.firstOverflow_le_two_pow h
  rw [pause, Value.floatOfInt_eq, if_pos large]
  rfl

section Attempts

variable {τ : Type} {transport : Transport τ} {settings : TransportSettings}
  {request : HttpRequest} {state : τ} {remaining attempt : Nat}

/-- An attempt that is worth no other is the last, and so is one behind which no other is
allowed. -/
theorem attempts_last
    (last : (transport request state).1.attempt ≠ .retryable ∨ remaining = 0) :
    attempts transport settings request (remaining + 1) attempt state =
      ⟨(transport request state).1.attempt.verdict, (transport request state).2,
        [.request request]⟩ := by
  rw [attempts]
  cases outcome : (transport request state).1.attempt with
  | reply r =>
    simp only [outcome]
    rfl
  | fault f =>
    simp only [outcome]
    rfl
  | retryable =>
    have none_left := last.resolve_left fun worth_none => worth_none outcome
    simp only [outcome, none_left, if_true]
    rfl

/-- Any other attempt has a pause and the remaining attempts behind it. -/
theorem attempts_again (again : (transport request state).1.attempt = .retryable)
    (some_left : remaining ≠ 0) (few : attempt < 1024) :
    attempts transport settings request (remaining + 1) attempt state =
      let rest := attempts transport settings request remaining (attempt + 1)
        (transport request state).2
      { rest with
        events := .request request :: .sleep (settings.backoff * Float.ofNat (Nat.pow 2 attempt)) ::
          rest.events } := by
  rw [attempts]
  simp only [again, some_left, if_false, pause_eq settings few]

/-- The attempts from number `attempt` on, where the one `d` further is the last. -/
theorem attempts_eq {d : Nat} {outcome : Except ClientFault (Option Reply)}
    (again : ∀ k, attempt ≤ k → k < attempt + d →
      (transport.answerAt request state k).attempt = .retryable)
    (room : d ≤ remaining) (few : attempt + d ≤ 1024)
    (last : attempts transport settings request (remaining - d + 1) (attempt + d)
        (transport.after request state (attempt + d)) =
      ⟨outcome, transport.after request state (attempt + d + 1), [.request request]⟩) :
    attempts transport settings request (remaining + 1) attempt
        (transport.after request state attempt) =
      ⟨outcome, transport.after request state (attempt + d + 1),
        .request request :: furtherTrail settings request attempt d⟩ := by
  -- The state is that behind `attempt` requests throughout, so the induction goes from one
  -- attempt to the next.
  induction d generalizing remaining attempt with
  | zero => exact last
  | succ d ih =>
    obtain ⟨remaining, rfl⟩ : ∃ r, remaining = r + 1 := ⟨remaining - 1, by omega⟩
    have further : attempt + (d + 1) = attempt + 1 + d := by omega
    have left : remaining + 1 - (d + 1) = remaining - d := by omega
    rw [further, left] at last
    rw [further]
    have later_again : ∀ k, attempt + 1 ≤ k → k < attempt + 1 + d →
        (transport.answerAt request state k).attempt = .retryable :=
      fun k from_here to_there => again k (by omega) (by omega)
    have rest := ih later_again (by omega) (by omega) last
    rw [attempts_again (again attempt (Nat.le_refl _) (by omega)) (by omega) (by omega),
      furtherTrail_succ]
    rw [Transport.after] at rest
    rw [rest]

end Attempts

section Call

variable {τ : Type}

/-- The request that a call makes in each of its attempts. -/
def outgoing (settings : TransportSettings) (method url : String) (body : Option String) :
    HttpRequest :=
  ⟨Text.upperCase method, url, headers settings body, body⟩

/-- What a client does in a call of `n` attempts. -/
def callTrail (settings : TransportSettings) (request : HttpRequest) (n : Nat) : List Event :=
  .client settings.timeout settings.followRedirects :: trail settings request n ++ [.close]

/-- A client is opened and closed once; all else are requests and pauses. -/
theorem countP_callTrail (settings : TransportSettings) (request : HttpRequest) (n : Nat) :
    (callTrail settings request n).countP Event.isRequest = n ∧
      (callTrail settings request n).countP Event.isPause = n - 1 := by
  simp [callTrail, Event.isRequest, Event.isPause, countP_isRequest_trail,
    countP_isPause_trail]

/-- A call whose attempt number `n` is the last. -/
theorem send_of_last (transport : Transport τ) {settings : TransportSettings} (method url : String)
    (body : Option String) (state : τ) {n : Nat} {outcome : Except ClientFault (Option Reply)}
    (few : n ≤ 1024) (allowed : n ≤ settings.retries) :
    let sent := outgoing settings method url body
    (∀ k < n, (transport.answerAt sent state k).attempt = .retryable) →
    attempts transport settings sent (settings.retries.toNat - n + 1) n
        (transport.after sent state n) =
      ⟨outcome, transport.after sent state (n + 1), [.request sent]⟩ →
    send transport settings method url body state =
      ⟨outcome, transport.after sent state (n + 1), callTrail settings sent (n + 1)⟩ := by
  intro sent again last
  have attempts_allowed : (settings.retries + 1).toNat = settings.retries.toNat + 1 := by omega
  have all : attempts transport settings sent (settings.retries.toNat + 1) 0
        (transport.after sent state 0) =
      ⟨outcome, transport.after sent state (0 + n + 1),
        .request sent :: furtherTrail settings sent 0 n⟩ := by
    refine attempts_eq (fun k _ before => again k (by omega)) (by omega) (by omega) ?_
    rw [Nat.zero_add]
    exact last
  rw [Nat.zero_add, Transport.after] at all
  have unfolded : send transport settings method url body state =
      let result := attempts transport settings sent (settings.retries + 1).toNat 0 state
      { result with
        events := .client settings.timeout settings.followRedirects :: result.events ++
          [.close] } := rfl
  rw [unfolded, attempts_allowed, all]
  rfl

/-- A call that ends with attempt number `n`, which is worth no other or is the last that is
allowed. -/
theorem send_eq (transport : Transport τ) {settings : TransportSettings} (method url : String)
    (body : Option String) (state : τ) {n : Nat}
    (few : settings.retries ≤ 1024) (allowed : n ≤ settings.retries) :
    let sent := outgoing settings method url body
    (∀ k < n, (transport.answerAt sent state k).attempt = .retryable) →
    ((transport.answerAt sent state n).attempt ≠ .retryable ∨ n = settings.retries) →
    send transport settings method url body state =
      ⟨(transport.answerAt sent state n).attempt.verdict, transport.after sent state (n + 1),
        callTrail settings sent (n + 1)⟩ := by
  intro sent again last
  refine send_of_last transport method url body state (by omega) allowed again ?_
  exact attempts_last (last.imp_right (by omega))

/-- A call under settings that allow no attempt. -/
theorem send_of_negative (transport : Transport τ) {settings : TransportSettings}
    (method url : String) (body : Option String) (state : τ) (none_allowed : settings.retries < 0) :
    send transport settings method url body state =
      ⟨.ok none, state, callTrail settings (outgoing settings method url body) 0⟩ := by
  have no_attempts : (settings.retries + 1).toNat = 0 := by omega
  simp only [send, no_attempts]
  rfl

/-- A call makes the same request again until an attempt is worth no other or all that its
settings allow are made. The first such attempt decides: its reply is that of the call, and a
failure that is not retried is passed on. If there is none the call has no reply. In any case
the client is opened once and closed once, and in between the requests alternate with
pauses that double. -/
theorem request_retries (transport : Transport τ) (config : Value) (method url : String)
    (body : Option String) (state : τ) {settings : TransportSettings}
    (normal : TransportSettings.normalize config = .ok settings)
    (few : settings.retries ≤ 1024) :
    let sent := outgoing settings method url body
    let answer := transport.answerAt sent state
    let call := request transport config method url body state
    (∀ n : Nat, n ≤ settings.retries → (∀ k < n, (answer k).attempt = .retryable) →
      (answer n).attempt ≠ .retryable →
        (∀ status text code, answer n = .reply status text → status.toInt = .ok code →
          call.outcome = .ok (some ⟨code, text.getD ""⟩)) ∧
        (∀ fault, (answer n).attempt = .fault fault → call.outcome = .error fault) ∧
        call.transport = transport.after sent state (n + 1) ∧
        call.events = callTrail settings sent (n + 1) ∧
        call.events.countP Event.isRequest = n + 1 ∧ call.events.countP Event.isPause = n) ∧
    ((∀ k : Nat, k ≤ settings.retries → (answer k).attempt = .retryable) →
        call.outcome = .ok none ∧
        call.transport = transport.after sent state (settings.retries + 1).toNat ∧
        call.events = callTrail settings sent (settings.retries + 1).toNat ∧
        call.events.countP Event.isRequest = (settings.retries + 1).toNat ∧
        call.events.countP Event.isPause = settings.retries.toNat) := by
  intro sent answer call
  have under_settings : call = send transport settings method url body state := by
    simp only [call, request, normal]
  refine ⟨fun n allowed again worth_none => ?_, fun all_again => ?_⟩
  · have eq := under_settings.trans
      (send_eq transport method url body state few allowed again (.inl worth_none))
    rw [eq]
    refine ⟨fun status text code reply read => ?_, fun fault failed => ?_, rfl, rfl,
      countP_callTrail settings sent (n + 1)⟩
    · have decided : (answer n).attempt = .reply ⟨code, text.getD ""⟩ := by
        simp only [reply, Answer.attempt, read]
      simp only [answer] at decided
      simp only [sent] at decided ⊢
      rw [decided]
      rfl
    · simp only [answer] at failed
      rw [failed]
      rfl
  · rcases Int.lt_or_le settings.retries 0 with negative | some_allowed
    · have no_attempts : (settings.retries + 1).toNat = 0 := by omega
      have no_pauses : settings.retries.toNat = 0 := by omega
      rw [under_settings, send_of_negative transport method url body state negative, no_attempts,
        no_pauses]
      exact ⟨rfl, rfl, rfl, countP_callTrail settings sent 0⟩
    · obtain ⟨n, eq⟩ : ∃ r : Nat, settings.retries = r := ⟨settings.retries.toNat, by omega⟩
      have attempts_made : (settings.retries + 1).toNat = n + 1 := by omega
      have pauses_made : settings.retries.toNat = n := by omega
      have call_eq := under_settings.trans
        (send_eq transport method url body state few (Int.le_of_eq eq.symm)
          (fun k before => all_again k (by omega)) (.inr eq.symm))
      have unanswered : (answer n).attempt = .retryable := all_again n (by omega)
      rw [call_eq, attempts_made, pauses_made]
      refine ⟨?_, rfl, rfl, countP_callTrail settings sent (n + 1)⟩
      simp only [answer] at unanswered
      rw [unanswered]
      rfl

/-- The second attempt has a reply, so the third that is allowed is not made. -/
theorem request_retries_refused_once :
    let config : Value := .dict [(.text "retries", .int 2)]
    let settings : TransportSettings := { TransportSettings.default with retries := 2 }
    let routes : List Route := [⟨"*", "*", [.answer Route.noConnection, .echo (.int 200)]⟩]
    let sent := outgoing settings "post" "/a" (some "x")
    let call := request Route.transport config "post" "/a" (some "x") routes
    TransportSettings.normalize config = .ok settings ∧ settings.retries ≤ 1024 ∧
      call.outcome = .ok (some ⟨200, "x"⟩) ∧ call.events = callTrail settings sent 2 := by
  intro config settings routes sent call
  have refused : ∀ k < 1,
      (Transport.answerAt Route.transport sent routes k).attempt = .retryable := by
    intro k first
    obtain rfl : k = 0 := by omega
    rfl
  have normal : TransportSettings.normalize config = .ok settings := rfl
  have law := (request_retries Route.transport config "post" "/a" (some "x") routes normal
    (by decide)).1 1 (by decide) refused nofun
  exact ⟨normal, by decide, law.1 (.int 200) (some "x") 200 rfl rfl, law.2.2.2.1⟩

end Call

end Client

end RouteScript

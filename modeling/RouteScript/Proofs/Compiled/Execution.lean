import RouteScript.Host
import RouteScript.Proofs.Machine.Runs

/-!
What a host makes of a compiled script.

A script with an error is refused (`execute_refused`). The report on any other is that of the
run of its program (`execute_ran`): a run that comes to an end has its cursor there, and so it
has its counts, which the host asks for before it calls the run a success.
-/

namespace RouteScript

variable {σ ε : Type}

/-- A run that comes to an end has its counts. -/
theorem Machine.run_counts? (service : Service σ ε) (program : Program) (m : Machine) (s : σ)
    (finished : (run service program m s).ending = .finished) :
    let done := (run service program m s).machine
    done.counts? program = some (done.ok, done.err) :=
  if_pos (run_cursor service program m s finished)

/-- What a run comes to for a host that is handed its counts. -/
def Report.ofRun (diagnostics : Diagnostics) (r : Run σ ε) : Except ε Report :=
  match r.ending with
  | .fault e => .error e
  | .aborted => .ok (.ofMachine .error diagnostics true r.machine)
  | .finished => .ok (.ofMachine .success diagnostics false r.machine)

/-- Whatever a run comes to, its report has the effects of its machine. -/
theorem Report.effects_of_ofRun {diagnostics : Diagnostics} {x : Run σ ε} {r : Report}
    (reported : Report.ofRun diagnostics x = .ok r) : r.effects = x.machine.effects := by
  unfold ofRun at reported
  split at reported <;> cases reported <;> rfl

/-- A report has the status of an error only if the run was aborted. -/
theorem Report.aborted_of_ofRun {diagnostics : Diagnostics} {x : Run σ ε} {r : Report}
    (reported : Report.ofRun diagnostics x = .ok r) (error : r.status = .error) :
    r.aborted = true := by
  unfold ofRun at reported
  split at reported <;> cases reported
  · rfl
  · cases error

namespace Host

variable {h : Host σ ε} {c : Compiled} {s s' : σ} {r : Report}

theorem execute_refused (h : Host σ ε) (error : c.diagnostics.triggered = true) (s : σ) :
    h.execute c s = (.ok (.refusal c.diagnostics), s) := by
  rw [execute, if_pos error]

theorem execute_ran (counts : h.counts = true) (clean : c.diagnostics.triggered = false) (s : σ) :
    let r := Machine.run h.service c.program h.machine s
    h.execute c s = (Report.ofRun c.diagnostics r, r.service) := by
  intro r
  rw [execute, if_neg (by simp [clean])]
  cases ending : r.ending with
  | fault e => simp only [r, ending, Report.ofRun]
  | aborted => simp only [r, ending, Report.ofRun]
  | finished =>
    have handed := Machine.run_counts? h.service c.program h.machine s ending
    simp only [r] at ending
    simp only [r, ending, counts, if_true, handed, Report.ofRun]
    rfl

/-- What the service carries along is carried along by every script. -/
theorem execute_commutes {f : σ → σ} (same : h.service.Commutes f) (c : Compiled) (s : σ) :
    h.execute c (f s) = ((h.execute c s).1, f (h.execute c s).2) := by
  unfold execute
  split
  · rfl
  · rw [Machine.run_commutes c.program h.machine s same]

/-- A run that was not refused does not depend on what is recorded already. -/
theorem execute_of_diagnostics (counts : h.counts = true) {d : Diagnostics}
    (clean : c.diagnostics.triggered = false) (clean' : d.triggered = false) (s : σ) :
    h.execute { c with diagnostics := d } s =
      ((h.execute c s).1.map ({ · with diagnostics := d }), (h.execute c s).2) := by
  rw [execute_ran counts clean', execute_ran counts clean]
  unfold Report.ofRun
  cases (Machine.run h.service c.program h.machine s).ending <;> rfl

/-- A script that was run has the status of an error only if it was aborted. -/
theorem execute_status (counts : h.counts = true) (clean : c.diagnostics.triggered = false)
    (ran : h.execute c s = (.ok r, s')) (error : r.status = .error) : r.aborted = true := by
  rw [execute_ran counts clean, Prod.mk.injEq] at ran
  exact Report.aborted_of_ofRun ran.1 error

/-- A silent and quiet host reports no effects. -/
theorem execute_effects (counts : h.counts = true) (silent : h.modes.silent = true)
    (quiet : h.modes.quiet = true) (ran : h.execute c s = (.ok r, s')) : r.effects = [] := by
  cases triggered : c.diagnostics.triggered with
  | true =>
    rw [execute_refused h triggered] at ran
    cases ran
    rfl
  | false =>
    rw [execute_ran counts triggered, Prod.mk.injEq] at ran
    rw [Report.effects_of_ofRun ran.1, Machine.effects,
      Machine.run_recorded h.service c.program s silent quiet]
    rfl

end Host

end RouteScript

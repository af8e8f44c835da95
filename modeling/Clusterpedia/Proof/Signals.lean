import Clusterpedia.Proof.Frame

/-!
# Start and stop edges are never lost

`startRunner` and `stopRunner` each leave exactly one of the two signal channels
closed, and replace a closed channel by a fresh one only after it was closed. So the
two fields never both hold closed channels, and a goroutine blocked on an open
channel it read from `startRunnerCh` or `stopRunnerCh` is blocked on the current
one. Between calls the last call has closed that one, so neither the runner nor the
handler-closer can stay blocked on an edge the monitor already gave (`no_edge_lost`).

The invariant lives on the part of the world the runner protocol touches
(`Signals`), so every other goroutine keeps it by its shape alone.
-/

namespace Clusterpedia

/-- The fields of the runner protocol. -/
structure Signals where
  nextChan : Nat
  chanClosed : Nat → Bool
  startRunnerCh : Nat
  stopRunnerCh : Nat
  handlerStopCh : Option Nat
  monitor : MonitorPC
  runner : RunnerPC
  handlerCloser : CloserPC
  run : RunPC

/-- The runner-protocol part of a world. -/
def World.signals (w : World) : Signals :=
  ⟨w.nextChan, w.chanClosed, w.startRunnerCh, w.stopRunnerCh, w.handlerStopCh, w.monitor,
    w.runner, w.handlerCloser, w.run⟩

namespace Signals

variable (s : Signals)

/-- What the monitor's last call leaves closed: nothing before the first call, the
start channel after `startRunner`, the stop channel after `stopRunner`. -/
def LastCall : Option RunnerCall → Prop
  | none => s.chanClosed s.startRunnerCh = false ∧ s.chanClosed s.stopRunnerCh = false
  | some .startRunner => s.chanClosed s.startRunnerCh = true ∧ s.chanClosed s.stopRunnerCh = false
  | some .stopRunner => s.chanClosed s.startRunnerCh = false ∧ s.chanClosed s.stopRunnerCh = true

/-- What the monitor's position says about the two channels. -/
def MonitorOK : Prop :=
  match s.monitor with
  | .notStarted => s.LastCall none
  | .idle l => s.LastCall l
  | .startRunner => s.chanClosed s.stopRunnerCh = false
  | .stopRunner => s.chanClosed s.startRunnerCh = false
  | .exited l => s.LastCall l

/-- The invariant of the runner protocol. -/
structure OK : Prop where
  start_lt : s.startRunnerCh < s.nextChan
  stop_lt : s.stopRunnerCh < s.nextChan
  start_ne_stop : s.startRunnerCh ≠ s.stopRunnerCh
  handler : ∀ h, s.handlerStopCh = some h →
    h < s.nextChan ∧ h ≠ s.startRunnerCh ∧ h ≠ s.stopRunnerCh
  fresh : ∀ c, s.nextChan ≤ c → s.chanClosed c = false
  /-- An open channel the runner waits on is the current start channel. -/
  heldStart : ∀ c, s.runner = .waitStart c → s.chanClosed c = false → c = s.startRunnerCh
  /-- An open channel the handler-closer waits on is the current stop channel. -/
  heldStop : ∀ c, s.handlerCloser = .wait c → s.chanClosed c = false → c = s.stopRunnerCh
  monitor : s.MonitorOK
  /-- Only `Run` starts the monitor. -/
  notStarted : s.run = .notCalled ∨ s.run = .startMonitor → s.monitor = .notStarted

variable {s}

/-- `close(c)` on the protocol fields. -/
def close (s : Signals) (c : Nat) : Signals :=
  { s with chanClosed := fun x => x = c || s.chanClosed x }

/-- A monitor that has started cannot go with a `Run` that has not started it. -/
theorem OK.monitor_ne (hi : s.OK) (hm : s.monitor ≠ .notStarted) :
    ¬(s.run = .notCalled ∨ s.run = .startMonitor) := fun hr => hm (hi.notStarted hr)

/-! ### The monitor's moves -/

/-- Closing a channel other than the two signal channels. -/
theorem OK.close {c : Nat} (hi : s.OK) (h1 : c ≠ s.startRunnerCh) (h2 : c ≠ s.stopRunnerCh)
    (h3 : c < s.nextChan) : (s.close c).OK where
  __ := hi
  fresh x (hx : s.nextChan ≤ x) := by
    simp only [Signals.close, hi.fresh x hx, Bool.or_false, decide_eq_false_iff_not]; omega
  heldStart x hr hx := hi.heldStart x hr (by simp_all [Signals.close])
  heldStop x hr hx := hi.heldStop x hr (by simp_all [Signals.close])
  monitor := by
    have := hi.monitor
    unfold MonitorOK LastCall at *
    simpa only [Signals.close, h1.symm, h2.symm, decide_False, Bool.false_or] using this

/-- The first `select` of `startRunner`. -/
theorem OK.startRunner₁ {l} (hi : s.OK) (hm : s.monitor = .idle l) :
    ({ s with nextChan := if s.chanClosed s.stopRunnerCh then s.nextChan + 1 else s.nextChan,
              stopRunnerCh := if s.chanClosed s.stopRunnerCh then s.nextChan else s.stopRunnerCh,
              monitor := .startRunner }).OK := by
  have hns := hi.monitor_ne (by simp [hm])
  by_cases hc : s.chanClosed s.stopRunnerCh = true
  · simp only [hc, ite_true]
    exact {
      start_lt := Nat.lt_succ_of_lt hi.start_lt
      stop_lt := Nat.lt_succ_self _
      start_ne_stop := Nat.ne_of_lt hi.start_lt
      handler := fun h hh => ⟨Nat.lt_succ_of_lt (hi.handler h hh).1, (hi.handler h hh).2.1,
        Nat.ne_of_lt (hi.handler h hh).1⟩
      fresh := fun c hc => hi.fresh c (by dsimp only at hc; omega)
      heldStart := hi.heldStart
      heldStop := fun c hw ho => by rw [hi.heldStop c hw ho] at ho; simp_all
      monitor := hi.fresh _ le_rfl
      notStarted := fun h => absurd h hns }
  · simp only [hc, ite_false]
    exact { hi with monitor := by simpa [MonitorOK] using hc, notStarted := fun h => absurd h hns }

/-- The first `select` of `stopRunner`. -/
theorem OK.stopRunner₁ {l} (hi : s.OK) (hm : s.monitor = .idle l) :
    ({ s with nextChan := if s.chanClosed s.startRunnerCh then s.nextChan + 1 else s.nextChan,
              startRunnerCh := if s.chanClosed s.startRunnerCh then s.nextChan else s.startRunnerCh,
              monitor := .stopRunner }).OK := by
  have hns := hi.monitor_ne (by simp [hm])
  by_cases hc : s.chanClosed s.startRunnerCh = true
  · simp only [hc, ite_true]
    exact {
      start_lt := Nat.lt_succ_self _
      stop_lt := Nat.lt_succ_of_lt hi.stop_lt
      start_ne_stop := (Nat.ne_of_lt hi.stop_lt).symm
      handler := fun h hh => ⟨Nat.lt_succ_of_lt (hi.handler h hh).1,
        Nat.ne_of_lt (hi.handler h hh).1, (hi.handler h hh).2.2⟩
      fresh := fun c hc => hi.fresh c (by dsimp only at hc; omega)
      heldStart := fun c hw ho => by rw [hi.heldStart c hw ho] at ho; simp_all
      heldStop := hi.heldStop
      monitor := hi.fresh _ le_rfl
      notStarted := fun h => absurd h hns }
  · simp only [hc, ite_false]
    exact { hi with monitor := by simpa [MonitorOK] using hc, notStarted := fun h => absurd h hns }

/-- The second `select` of `startRunner`. -/
theorem OK.startRunner₂ (hi : s.OK) (hm : s.monitor = .startRunner) :
    ({ s.close s.startRunnerCh with monitor := .idle (some .startRunner) }).OK where
  __ := hi
  fresh x hx := by
    simp only [Signals.close, hi.fresh x hx, Bool.or_false, decide_eq_false_iff_not]
    exact Nat.ne_of_gt (Nat.lt_of_lt_of_le hi.start_lt hx)
  heldStart x hr hx := by
    simp only [Signals.close, Bool.or_eq_false_iff, decide_eq_false_iff_not] at hx
    exact absurd (hi.heldStart x hr hx.2) hx.1
  heldStop x hr hx := hi.heldStop x hr (by simp_all [Signals.close])
  monitor := by
    have := hi.monitor
    simp only [MonitorOK, hm] at this
    simp [MonitorOK, LastCall, Signals.close, hi.start_ne_stop.symm, this]
  notStarted h := absurd h (hi.monitor_ne (by simp [hm]))

/-- The second `select` of `stopRunner`. -/
theorem OK.stopRunner₂ (hi : s.OK) (hm : s.monitor = .stopRunner) :
    ({ s.close s.stopRunnerCh with monitor := .idle (some .stopRunner) }).OK where
  __ := hi
  fresh x hx := by
    simp only [Signals.close, hi.fresh x hx, Bool.or_false, decide_eq_false_iff_not]
    exact Nat.ne_of_gt (Nat.lt_of_lt_of_le hi.stop_lt hx)
  heldStart x hr hx := hi.heldStart x hr (by simp_all [Signals.close])
  heldStop x hr hx := by
    simp only [Signals.close, Bool.or_eq_false_iff, decide_eq_false_iff_not] at hx
    exact absurd (hi.heldStop x hr hx.2) hx.1
  monitor := by
    have := hi.monitor
    simp only [MonitorOK, hm] at this
    simp [MonitorOK, LastCall, Signals.close, hi.start_ne_stop, this]
  notStarted h := absurd h (hi.monitor_ne (by simp [hm]))

/-- The monitor returns. -/
theorem OK.exit {l} (hi : s.OK) (hm : s.monitor = .idle l) :
    ({ s with monitor := .exited l }).OK where
  __ := hi
  monitor := by simpa only [MonitorOK, hm] using hi.monitor
  notStarted h := absurd h (hi.monitor_ne (by simp [hm]))

/-! ### Moves that wait on no stale channel -/

/-- The runner moves to a position that waits on no channel but the current start
channel. -/
theorem OK.setRunner {pc : RunnerPC} (hi : s.OK)
    (h : ∀ c, pc = .waitStart c → c = s.startRunnerCh) : ({ s with runner := pc }).OK where
  __ := hi
  heldStart c hr _ := h c hr

/-- The handler-closer moves to a position that waits on no channel but the current
stop channel. -/
theorem OK.setCloser {pc : CloserPC} (hi : s.OK)
    (h : ∀ c, pc = .wait c → c = s.stopRunnerCh) : ({ s with handlerCloser := pc }).OK where
  __ := hi
  heldStop c hr _ := h c hr

/-- The runner makes a fresh `handlerStopCh`. -/
theorem OK.makeHandler (hi : s.OK) :
    ({ s with handlerStopCh := some s.nextChan, nextChan := s.nextChan + 1 }).OK where
  __ := hi
  start_lt := Nat.lt_succ_of_lt hi.start_lt
  stop_lt := Nat.lt_succ_of_lt hi.stop_lt
  handler h hh := by
    cases hh
    exact ⟨Nat.lt_succ_self _, (Nat.ne_of_lt hi.start_lt).symm, (Nat.ne_of_lt hi.stop_lt).symm⟩
  fresh c hc := hi.fresh c (Nat.le_of_succ_le hc)

/-- `Run` moves on, past the point where it starts the monitor or not. -/
theorem OK.setRun {pc : RunPC} (hi : s.OK)
    (h : pc = .notCalled ∨ pc = .startMonitor → s.monitor = .notStarted) :
    ({ s with run := pc }).OK where
  __ := hi
  notStarted := h

/-- `Run` starts the monitor. -/
theorem OK.startMonitor (hi : s.OK) (hr : s.run = .startMonitor) :
    ({ s with monitor := .idle none, run := .startRunner }).OK where
  __ := hi
  monitor := by simpa only [MonitorOK, hi.notStarted (.inr hr)] using hi.monitor
  notStarted h := by simp at h

/-! ### What the invariant gives -/

theorem LastCall.not_both : ∀ {l}, s.LastCall l →
    ¬(s.chanClosed s.startRunnerCh = true ∧ s.chanClosed s.stopRunnerCh = true)
  | none, h, h' => by simp_all [LastCall]
  | some .startRunner, h, h' => by simp_all [LastCall]
  | some .stopRunner, h, h' => by simp_all [LastCall]

/-- Whatever the monitor's position, one of the two signal channels is open. -/
theorem OK.not_both (hi : s.OK) :
    ¬(s.chanClosed s.startRunnerCh = true ∧ s.chanClosed s.stopRunnerCh = true) := by
  have hm := hi.monitor
  unfold MonitorOK at hm
  split at hm
  · exact hm.not_both
  · exact hm.not_both
  · simp_all
  · simp_all
  · exact hm.not_both

end Signals


/-! ## Every step keeps the invariant -/

section Steps

variable {w w' : World}

theorem signalsOK_monitorStep {m : MonitorMove} (hi : w.signals.OK)
    (h : w.monitorStep m = some w') : w'.signals.OK := by
  unfold World.monitorStep at h
  split at h <;> (repeat' split at h) <;> cases h <;>
    (try simp only [World.startRunner₁_eq, World.stopRunner₁_eq, World.startRunner₂_eq,
      World.stopRunner₂_eq])
  · exact hi.startRunner₁ ‹_›
  · exact hi.stopRunner₁ ‹_›
  · exact hi.startRunner₂ ‹_›
  · exact hi.stopRunner₂ ‹_›
  · exact hi.exit ‹_›

theorem signalsOK_runnerStep {c : Choice} (hi : w.signals.OK)
    (h : w.runnerStep c = some w') : w'.signals.OK := by
  cases runnerMove_of_step h with
  | readStart _ => exact hi.setRunner (by rintro _ ⟨⟩; rfl)
  | makeHandler _ => exact hi.makeHandler.setRunner (by rintro _ ⟨⟩)
  | spawnCloser _ => exact (hi.setCloser (by rintro _ ⟨⟩)).setRunner (by rintro _ ⟨⟩)
  | _ => exact hi.setRunner (by rintro _ ⟨⟩)

theorem signalsOK_handlerCloserStep (hi : w.signals.OK)
    (h : w.handlerCloserStep = some w') : w'.signals.OK := by
  unfold World.handlerCloserStep at h
  split at h <;> (repeat' split at h) <;> cases h
  · exact hi.setCloser (by rintro _ ⟨⟩; rfl)
  · obtain ⟨h1, h2, h3⟩ := hi.handler _ ‹_›
    exact (hi.close h2 h3 h1).setCloser (by rintro _ ⟨⟩)

theorem signalsOK_runStep {c : Choice} (hi : w.signals.OK)
    (h : w.runStep c = some w') : w'.signals.OK := by
  cases runMove_of_step h with
  | storeCondition hr => exact hi.setRun fun _ => hi.notStarted (.inl hr)
  | startMonitor hr => exact hi.startMonitor hr
  | startRunner _ =>
    exact (hi.setRunner (by rintro _ ⟨⟩)).setRun (by rintro (h | h) <;> cases h)
  | _ => exact hi.setRun (by rintro (h | h) <;> cases h)

/-- The other goroutines leave the protocol fields alone. -/
theorem signalsOK_step (hi : w.signals.OK) (h : Step w w') : w'.signals.OK := by
  obtain ⟨a, h⟩ := h
  cases a with
  | monitor m => exact signalsOK_monitorStep hi h
  | runner c => exact signalsOK_runnerStep hi h
  | handlerCloser => exact signalsOK_handlerCloserStep hi h
  | run c => exact signalsOK_runStep hi h
  | refresher c => obtain ⟨_, _, _, _, _, _, _, _, _, _, _, _, _, rfl⟩ := refresherStep_shape h; exact hi
  | statusLoop => obtain ⟨_, _, _, _, rfl⟩ := statusStep_shape h; exact hi
  | shutdown i => obtain ⟨_, _, _, _, _, _, _, rfl⟩ := shutdownStep_shape h; exact hi
  | setter i => obtain ⟨_, _, _, _, _, rfl⟩ := setterStep_shape h; exact hi
  | env e => obtain ⟨_, _, _, _, _, _, rfl⟩ := envStep_shape h; exact hi

theorem signalsOK_new (p v) : (World.new p v).signals.OK where
  start_lt := Nat.zero_lt_two
  stop_lt := Nat.one_lt_two
  start_ne_stop := Nat.zero_ne_one
  handler _ h := by cases h
  fresh _ _ := rfl
  heldStart _ h := by cases h
  heldStop _ h := by cases h
  monitor := ⟨rfl, rfl⟩
  notStarted _ := rfl

theorem signalsOK_of_reachable (hw : Reachable w) : w.signals.OK :=
  Reachable.induction signalsOK_new (fun _ _ _ hi hs => signalsOK_step hi hs) hw

/-- **No edge is lost.** The two signal channels are never both closed, so the
runner's `continue` needs a monitor call in between; after `startRunner` the runner
is not blocked on an open start channel, and after `stopRunner` the handler-closer
is not blocked on an open stop channel. -/
theorem no_edge_lost (hw : Reachable w) :
    ¬(w.chanClosed w.startRunnerCh = true ∧ w.chanClosed w.stopRunnerCh = true) ∧
    (∀ c, w.monitor = .idle (some .startRunner) → w.runner = .waitStart c →
      w.chanClosed c = true) ∧
    (∀ c, w.monitor = .idle (some .stopRunner) → w.handlerCloser = .wait c →
      w.chanClosed c = true) := by
  have hi := signalsOK_of_reachable hw
  refine ⟨hi.not_both, fun c hm hr => ?_, fun c hm hr => ?_⟩
  · have hl := hi.monitor
    simp only [Signals.MonitorOK, World.signals, hm, Signals.LastCall] at hl
    by_contra ho
    have hc : c = w.startRunnerCh := hi.heldStart c hr (by simpa using ho)
    exact ho (hc ▸ hl.1)
  · have hl := hi.monitor
    simp only [Signals.MonitorOK, World.signals, hm, Signals.LastCall] at hl
    by_contra ho
    have hc : c = w.stopRunnerCh := hi.heldStop c hr (by simpa using ho)
    exact ho (hc ▸ hl.2)

/-- `Run` starts the monitor and the runner, the monitor calls `startRunner`, and the
runner reads the start channel it is about to wait on. -/
def startCalled : World :=
  ((World.new ∅ "").runActions (startupSchedule.take 6)).get (by decide)

/-- After startup the handler-closer waits on the stop channel and the monitor calls
`stopRunner`. -/
def stopCalled : World :=
  ((World.new ∅ "").runActions
    (startupSchedule ++ [.handlerCloser, .monitor (.call .stopRunner), .monitor .finish])).get
    (by decide)

theorem no_edge_lost_flap :
    ¬(stopCalled.chanClosed stopCalled.startRunnerCh = true ∧
      stopCalled.chanClosed stopCalled.stopRunnerCh = true) ∧
    (startCalled.runner = .waitStart 0 ∧ startCalled.chanClosed 0 = true) ∧
    (stopCalled.handlerCloser = .wait 1 ∧ stopCalled.chanClosed 1 = true) :=
  have hstart := no_edge_lost
    (show Reachable startCalled from ⟨∅, "", steps_of_runActions (Option.some_get _).symm⟩)
  have hstop := no_edge_lost
    (show Reachable stopCalled from ⟨∅, "", steps_of_runActions (Option.some_get _).symm⟩)
  ⟨hstop.1, ⟨rfl, hstart.2.1 0 rfl rfl⟩, ⟨rfl, hstop.2.2 1 rfl rfl⟩⟩

end Steps

end Clusterpedia

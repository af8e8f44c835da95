import Clusterpedia.Spec.Step

/-!
# What each goroutine can change

Every step function of the model rewrites only a few fields of the world. The
`_shape` lemmas say which, once per goroutine, so that an invariant over other
fields is preserved by that goroutine without looking at its code; `Step.refresher_cases`
collects them for the state only the refresher and the environment write. The helpers the
steps are written with (`startRunner₁`, `closeChan`, ...) get one equation each, as
record updates of the world.

`Reachable.induction` is the one induction over interleavings every invariant uses.
-/

namespace Clusterpedia

variable {w w' : World}

/-- **Invariants of every interleaving**: what holds of `New` and is kept by every
step holds of every reachable world. -/
theorem Reachable.induction {P : World → Prop} (h0 : ∀ p v, P (World.new p v))
    (hs : ∀ w w', Reachable w → P w → Step w w' → P w') {w : World} (h : Reachable w) : P w := by
  obtain ⟨p, v, h⟩ := h
  induction h with
  | refl => exact h0 p v
  | tail hr hst ih => exact hs _ _ ⟨p, v, hr⟩ ih hst

/-! ## The helpers as record updates -/

namespace World

theorem startRunner₁_eq : w.startRunner₁ =
    { w with stopRunnerCh := if w.chanClosed w.stopRunnerCh then w.nextChan else w.stopRunnerCh,
             nextChan := if w.chanClosed w.stopRunnerCh then w.nextChan + 1 else w.nextChan } := by
  unfold startRunner₁; split <;> rfl

theorem stopRunner₁_eq : w.stopRunner₁ =
    { w with startRunnerCh := if w.chanClosed w.startRunnerCh then w.nextChan else w.startRunnerCh,
             nextChan := if w.chanClosed w.startRunnerCh then w.nextChan + 1 else w.nextChan } := by
  unfold stopRunner₁; split <;> rfl

/-- Closing a closed channel changes nothing. -/
theorem closeChan_of_closed {c : Nat} (h : w.chanClosed c = true) : w.closeChan c = w := by
  unfold closeChan
  congr; funext x; by_cases hx : x = c <;> simp_all

theorem startRunner₂_eq : w.startRunner₂ = w.closeChan w.startRunnerCh := by
  unfold startRunner₂; split
  · exact (closeChan_of_closed ‹_›).symm
  · rfl

theorem stopRunner₂_eq : w.stopRunner₂ = w.closeChan w.stopRunnerCh := by
  unfold stopRunner₂; split
  · exact (closeChan_of_closed ‹_›).symm
  · rfl

end World

/-! ## Shapes of the steps -/

theorem monitorStep_shape {m : MonitorMove} (h : w.monitorStep m = some w') :
    ∃ pc st sp nc cl wg, w' = { w with
      monitor := pc, startRunnerCh := st, stopRunnerCh := sp, nextChan := nc, chanClosed := cl,
      waitGroup := wg } := by
  unfold World.monitorStep at h
  split at h <;> (repeat' split at h) <;> cases h <;>
    (try simp only [World.startRunner₁_eq, World.stopRunner₁_eq, World.startRunner₂_eq,
      World.stopRunner₂_eq]) <;> exact ⟨_, _, _, _, _, _, rfl⟩

theorem handlerCloserStep_shape (h : w.handlerCloserStep = some w') :
    ∃ pc cl, w' = { w with handlerCloser := pc, chanClosed := cl } := by
  unfold World.handlerCloserStep World.closeChan at h
  split at h <;> (repeat' split at h) <;> cases h <;> exact ⟨_, _, rfl⟩

theorem statusStep_shape (h : w.statusStep = some w') :
    ∃ pc ch cl pub, w' = { w with
      statusLoop := pc, updateStatusCh := ch, closed := cl, published := pub } := by
  unfold World.statusStep at h
  split at h <;> (repeat' split at h) <;> cases h <;> exact ⟨_, _, _, _, rfl⟩

theorem shutdownStep_shape {i : Nat} (h : w.shutdownStep i = some w') :
    ∃ sh co cl oc rc ch chc, w' = { w with
      shutdowns := sh, closeOnce := co, closer := cl, onceCaller := oc, runningCondition := rc,
      updateStatusCh := ch, updateStatusChClosed := chc } := by
  unfold World.shutdownStep World.setShutdown World.updateStatus at h
  split at h <;> (repeat' split at h) <;> cases h <;> exact ⟨_, _, _, _, _, _, _, rfl⟩

theorem setterStep_shape {i : Nat} (h : w.setterStep i = some w') :
    ∃ se rs f ch ssr, w' = { w with
      setters := se, syncResources := rs, syncAllCustomResources := f, setSyncResourcesCh := ch,
      signalSinceRecv := ssr } := by
  unfold World.setterStep at h
  split at h <;> cases h <;> exact ⟨_, _, _, _, _, rfl⟩

theorem envStep_shape {e : EnvEvent} (h : w.envStep e = some w') :
    ∃ se sh sc rf sy wg, w' = { w with
      setters := se, shutdowns := sh, shutdownCh := sc, refresher := rf, synchros := sy,
      waitGroup := wg } := by
  unfold World.envStep at h
  split at h <;> (repeat' split at h) <;> cases h <;> exact ⟨_, _, _, _, _, _, rfl⟩

/-- `AfterStartFunc` starts the refresher, which had not been started. -/
theorem envStep_afterStart (h : w.envStep .afterStart = some w') :
    w.refresher = .notStarted ∧ w' = { w with refresher := .recv } := by
  simp only [World.envStep] at h
  split at h
  · rename_i hc
    cases h
    simp only [Bool.and_eq_true, World.refresherNotStarted] at hc
    refine ⟨?_, rfl⟩
    split at hc <;> simp_all
  · cases h

/-! ## The refresher's moves -/

/-- What one step of the refresher can do: one constructor per branch of
`refresherStep`, with the guard that enables it. -/
inductive RefresherMove : World → World → Prop
  | recvSignal {w : World} : w.refresher = .recv → w.setSyncResourcesCh = true →
    RefresherMove w { w with
      setSyncResourcesCh := false, signalSinceRecv := false, refresher := .checkCloser }
  | recvQuit {w : World} : w.refresher = .recv → w.closer = true →
    RefresherMove w { w with refresher := .exited }
  | checkQuit {w : World} : w.refresher = .checkCloser → w.closer = true →
    RefresherMove w { w with refresher := .exited }
  | checkLoad {w : World} : w.refresher = .checkCloser → ¬w.closer = true →
    RefresherMove w { w with refresher := .load }
  | loadNil {w : World} : w.refresher = .load → w.syncResources = none →
    RefresherMove w { w with loadedResources := w.syncResources, refresher := .recv }
  | loadSome {w : World} {rs} : w.refresher = .load → w.syncResources = some rs →
    RefresherMove w { w with loadedResources := w.syncResources, refresher := .negotiate rs }
  | negotiate {w : World} {rs st cfgs} : w.refresher = .negotiate rs →
    RefresherMove w { w with
      negotiatedFlag := w.syncAllCustomResources, refresher := .merge cfgs st }
  | merge {w : World} {cfgs st} : w.refresher = .merge cfgs st →
    RefresherMove w { w with
      groupResourceStatus := some (st.merge w.groupResourceStatus).1,
      refresher := .lock (w.startRefresh cfgs (st.merge w.groupResourceStatus).1
        (st.merge w.groupResourceStatus).2) }
  | lock {w : World} {r} : w.refresher = .lock r → w.runnerLock = none →
    RefresherMove w { w with runnerLock := some .refresher, refresher := .create r r.configs.keys }
  | createSkip {w : World} {r ks g} : w.refresher = .create r ks → g ∈ ks →
    g ∈ w.storageResourceSynchros → RefresherMove w { w with refresher := .create r (ks.erase g) }
  | createNew {w : World} {r ks g} : w.refresher = .create r ks → g ∈ ks →
    g ∉ w.storageResourceSynchros →
    RefresherMove w { w with refresher := .newStorage r g (ks.erase g) }
  | createDone {w : World} {r} : w.refresher = .create r [] →
    RefresherMove w { w with refresher := .unlock r }
  | storageFail {w : World} {r g ks e} : w.refresher = .newStorage r g ks →
    RefresherMove w { w.updateSyncConditions r g ResourceSyncStatusPending "SynchroCreateFailed"
      ("new resource storage failed: " ++ e) with
      refresher := .create (r.log (.newResourceStorage g false)) ks }
  | storageHit {w : World} {r g ks rvs} : w.refresher = .newStorage r g ks →
    w.storageResourceVersions.lookup g = some rvs →
    RefresherMove w { w with refresher := .newSynchro (r.log (.newResourceStorage g true)) g rvs ks }
  | storageNew {w : World} {r g ks} : w.refresher = .newStorage r g ks →
    w.storageResourceVersions.lookup g = none →
    RefresherMove w { w with
      storageResourceVersions :=
        w.storageResourceVersions.insert g ⟨some w.nextMap, some (w.nextMap + 1)⟩,
      nextMap := w.nextMap + 2,
      refresher := .newSynchro (r.log (.newResourceStorage g true)) g
        ⟨some w.nextMap, some (w.nextMap + 1)⟩ ks }
  | synchroFail {w : World} {r g rvs ks e} : w.refresher = .newSynchro r g rvs ks →
    RefresherMove w { w.updateSyncConditions r g ResourceSyncStatusPending "SynchroCreateFailed"
      ("new resource synchro failed: " ++ e) with
      refresher := .create (r.log (.newResourceSynchro g false)) ks }
  | synchroNew {w : World} {r g rvs ks cfg} : w.refresher = .newSynchro r g rvs ks →
    r.configs.lookup g = some cfg →
    RefresherMove w { w with
      synchros := w.synchros ++ [World.newSynchro g cfg rvs],
      refresher := .launch (r.log (.newResourceSynchro g true)) g w.synchros.length ks }
  | launch {w : World} {r g i ks} : w.refresher = .launch r g i ks →
    RefresherMove w { w with
      synchros := w.synchros.modify (fun s => { s with runLaunched := true, running := true }) i,
      waitGroup := w.waitGroup + 1, refresher := .store r g i ks }
  | store {w : World} {r g i ks} : w.refresher = .store r g i ks →
    RefresherMove w { w.updateSyncConditions r g ResourceSyncStatusUnknown "" "" with
      storageResourceSynchros := w.storageResourceSynchros.insert g i,
      refresher := .spawnStart r i ks }
  | spawnStart {w : World} {r i ks} : w.refresher = .spawnStart r i ks →
    RefresherMove w { w with starts := w.starts ++ w.handlerStart i, refresher := .create r ks }
  | unlock {w : World} {r} : w.refresher = .unlock r →
    RefresherMove w { w with runnerLock := none, refresher := .collect r }
  | collect {w : World} {r} : w.refresher = .collect r →
    RefresherMove w { w with
      refresher := .remove r (w.storageResourceSynchros.keys.filter (· ∉ r.configs)) }
  | removeClose {w : World} {r ks g i} : w.refresher = .remove r ks → g ∈ ks →
    w.storageResourceSynchros.lookup g = some i →
    RefresherMove w { w with
      synchros := w.synchros.modify (fun s => { s with closeCalled := true }) i,
      refresher := .closeWait r g i (ks.erase g) }
  | removeSkip {w : World} {r ks g} : w.refresher = .remove r ks → g ∈ ks →
    w.storageResourceSynchros.lookup g = none →
    RefresherMove w { w with refresher := .remove r (ks.erase g) }
  | removeDone {w : World} {r} : w.refresher = .remove r [] →
    RefresherMove w { w with refresher := .clean r w.storageResourceVersions.keys }
  | closeDone {w : World} {r g i ks} : w.refresher = .closeWait r g i ks →
    w.closeDoneOf i = true →
    RefresherMove w { w with
      synchros := w.synchros.modify (fun s => { s with closeObserved := true }) i,
      refresher := .removed (r.log (.closeCompleted g)) g ks }
  | closeQuit {w : World} {r g i ks} : w.refresher = .closeWait r g i ks → w.closer = true →
    RefresherMove w { w with refresher := .recv }
  | removed {w : World} {r g ks} : w.refresher = .removed r g ks →
    RefresherMove w { w.updateSyncConditions r g ResourceSyncStatusStop "SynchroRemoved"
      "the resource synchro is moved" with
      storageResourceSynchros := w.storageResourceSynchros.erase g, refresher := .remove r ks }
  | cleanKeep {w : World} {r ks g} : w.refresher = .clean r ks → g ∈ ks → g ∈ r.configs →
    RefresherMove w { w with refresher := .clean r (ks.erase g) }
  | cleanErase {w : World} {r ks g} : w.refresher = .clean r ks → g ∈ ks → g ∉ r.configs →
    RefresherMove w { w with
      storageResourceVersions := w.storageResourceVersions.erase g,
      refresher := .cleanCall r g (ks.erase g) }
  | cleanOk {w : World} {r g ks} : w.refresher = .cleanCall r g ks →
    RefresherMove w { w with refresher := .clean (r.log (.cleanClusterResource g true)) ks }
  | cleanFail {w : World} {r g ks e} : w.refresher = .cleanCall r g ks →
    RefresherMove w { w.updateSyncConditions r g ResourceSyncStatusStop "CleanResourceFailed" e with
      refresher := .clean { (r.log (.cleanClusterResource g false)) with
        deleted := r.deleted.filter (· ∉ r.syncGVRs g) } ks }
  | cleanDone {w : World} {r} : w.refresher = .clean r [] →
    RefresherMove w { w with refresher := .deleteVersions r r.deleted }
  | deletePick {w : World} {r ks gvr} : w.refresher = .deleteVersions r ks → gvr ∈ ks →
    RefresherMove w { w with
      groupResourceStatus := w.groupResourceStatus.map (·.deleteVersion gvr),
      refresher := .deleteVersions (r.log (.deleteVersion gvr)) (ks.erase gvr) }
  | deleteDone {w : World} {r} : w.refresher = .deleteVersions r [] →
    RefresherMove w { w with refresher := .recv }

theorem refresherMove_of_step {c : Choice} (h : w.refresherStep c = some w') :
    RefresherMove w w' := by
  unfold World.refresherStep at h
  split at h <;> (repeat' split at h) <;> cases h
  · exact .recvSignal ‹_› ‹_›
  · exact .recvQuit ‹_› ‹_›
  · exact .checkQuit ‹_› ‹_›
  · exact .checkLoad ‹_› ‹_›
  · exact .loadNil ‹_› ‹_›
  · exact .loadSome ‹_› ‹_›
  · exact .negotiate ‹_›
  · exact .merge ‹_›
  · exact .lock ‹_› ‹_›
  · exact .createSkip ‹_› ‹_› ‹_›
  · exact .createNew ‹_› ‹_› ‹_›
  · exact .createDone ‹_›
  · exact .storageFail ‹_›
  · exact .storageHit ‹_› ‹_›
  · exact .storageNew ‹_› ‹_›
  · exact .synchroFail ‹_›
  · exact .synchroNew ‹_› ‹_›
  · exact .launch ‹_›
  · exact .store ‹_›
  · exact .spawnStart ‹_›
  · exact .unlock ‹_›
  · exact .collect ‹_›
  · exact .removeClose ‹_› ‹_› ‹_›
  · exact .removeSkip ‹_› ‹_› ‹_›
  · exact .removeDone ‹_›
  · exact .closeDone ‹_› ‹_›
  · exact .closeQuit ‹_› ‹_›
  · exact .removed ‹_›
  · exact .cleanKeep ‹_› ‹_› ‹_›
  · exact .cleanErase ‹_› ‹_› ‹_›
  · exact .cleanOk ‹_›
  · exact .cleanFail ‹_›
  · exact .cleanDone ‹_›
  · exact .deletePick ‹_› ‹_›
  · exact .deleteDone ‹_›

/-- The refresher's shape, read off its moves. -/
theorem refresherStep_shape {c : Choice} (h : w.refresherStep c = some w') :
    ∃ pc ch ssr lr nf grs lock vers nm sy wg reg st, w' = { w with
      refresher := pc, setSyncResourcesCh := ch, signalSinceRecv := ssr,
      loadedResources := lr, negotiatedFlag := nf, groupResourceStatus := grs,
      runnerLock := lock, storageResourceVersions := vers, nextMap := nm, synchros := sy,
      waitGroup := wg, storageResourceSynchros := reg, starts := st } := by
  cases refresherMove_of_step h <;> exact ⟨_, _, _, _, _, _, _, _, _, _, _, _, _, rfl⟩


/-! ## The runner's moves -/

/-- What one step of the runner loop can do: one constructor per branch of
`runnerStep`, with the guard that enables it. -/
inductive RunnerMove : World → World → Prop
  | readStart {w : World} : w.runner = .readStart →
    RunnerMove w { w with runner := .waitStart w.startRunnerCh }
  | started {w : World} {ch} : w.runner = .waitStart ch → w.chanClosed ch = true →
    RunnerMove w { w with runner := .readStop }
  | quitStart {w : World} {ch} : w.runner = .waitStart ch → w.closer = true →
    RunnerMove w w.runnerExit
  | readStop {w : World} : w.runner = .readStop →
    RunnerMove w { w with runner := .pollStop w.stopRunnerCh }
  | stopped {w : World} {ch} : w.runner = .pollStop ch → w.chanClosed ch = true →
    RunnerMove w { w with runner := .readStart }
  | notStopped {w : World} {ch} : w.runner = .pollStop ch → ¬w.chanClosed ch = true →
    ¬w.closer = true → RunnerMove w { w with runner := .lock }
  | quitStop {w : World} {ch} : w.runner = .pollStop ch → w.closer = true →
    RunnerMove w w.runnerExit
  | lock {w : World} : w.runner = .lock → w.runnerLock = none →
    RunnerMove w { w with runnerLock := some .runner, runner := .makeHandler }
  | makeHandler {w : World} : w.runner = .makeHandler →
    RunnerMove w { w with
      handlerStopCh := some w.nextChan, nextChan := w.nextChan + 1, runner := .spawnCloser }
  | spawnCloser {w : World} : w.runner = .spawnCloser →
    RunnerMove w { w with handlerCloser := .readStop, runner := .startDiscovery }
  | startDiscovery {w : World} : w.runner = .startDiscovery →
    RunnerMove w { w with
      discoveryStarted := true, runner := .range w.storageResourceSynchros.keys }
  | range {w : World} {ks g} : w.runner = .range ks → g ∈ ks →
    RunnerMove w { w with starts := w.starts ++ w.rangeStart g, runner := .range (ks.erase g) }
  | rangeDone {w : World} : w.runner = .range [] → RunnerMove w { w with runner := .unlock }
  | unlock {w : World} : w.runner = .unlock →
    RunnerMove w { w with runnerLock := none, runner := .waitHandler }
  | handlerClosed {w : World} {h} : w.runner = .waitHandler → w.handlerStopCh = some h →
    w.chanClosed h = true → RunnerMove w { w with runner := .readStart }

theorem runnerMove_of_step {c : Choice} (h : w.runnerStep c = some w') : RunnerMove w w' := by
  unfold World.runnerStep at h
  split at h <;> (repeat' split at h) <;> cases h
  · exact .readStart ‹_›
  · exact .started ‹_› ‹_›
  · exact .quitStart ‹_› ‹_›
  · exact .readStop ‹_›
  · exact .stopped ‹_› ‹_›
  · exact .notStopped ‹_› ‹_› ‹_›
  · exact .quitStop ‹_› ‹_›
  · exact .lock ‹_› ‹_›
  · exact .makeHandler ‹_›
  · exact .spawnCloser ‹_›
  · exact .startDiscovery ‹_›
  · exact .range ‹_› ‹_›
  · exact .rangeDone ‹_›
  · exact .unlock ‹_›
  · exact .handlerClosed ‹_› ‹_› ‹_›

/-- The runner's shape, read off its moves. -/
theorem runnerStep_shape {c : Choice} (h : w.runnerStep c = some w') :
    ∃ pc lock hs nc hc ds st wg, w' = { w with
      runner := pc, runnerLock := lock, handlerStopCh := hs, nextChan := nc, handlerCloser := hc,
      discoveryStarted := ds, starts := st, waitGroup := wg } := by
  cases runnerMove_of_step h <;> exact ⟨_, _, _, _, _, _, _, _, rfl⟩

/-! ## The moves of `Run` -/

/-- What one step of `Run` can do: one constructor per branch of `runStep`, with the
guard that enables it. -/
inductive RunMove : World → World → Prop
  | storeCondition {w : World} : w.run = .notCalled →
    RunMove w { w with runningCondition := runningConditionOf, run := .startMonitor }
  | startMonitor {w : World} : w.run = .startMonitor →
    RunMove w { w with waitGroup := w.waitGroup + 1, monitor := .idle none, run := .startRunner }
  | startRunner {w : World} : w.run = .startRunner →
    RunMove w { w with waitGroup := w.waitGroup + 1, runner := .readStart, run := .startStatus }
  | startStatus {w : World} : w.run = .startStatus →
    RunMove w { w with statusLoop := .recv, run := .select }
  | closerClosed {w : World} : w.run = .select → w.closer = true →
    RunMove w { w with run := .waitClosed }
  | shutdownSignal {w : World} : w.run = .select → w.shutdownCh = true →
    RunMove w { w with
      shutdowns := w.shutdowns ++ [⟨true, .enter⟩], run := .shutdown w.shutdowns.length }
  | closed {w : World} : w.run = .waitClosed → w.closed = true →
    RunMove w { w with run := .returned }
  | shutdownReturned {w : World} {i} : w.run = .shutdown i →
    (w.shutdowns[i]?.map (·.pc)) = some .returned → RunMove w { w with run := .returned }

theorem runMove_of_step {c : Choice} (h : w.runStep c = some w') : RunMove w w' := by
  unfold World.runStep at h
  split at h <;> (repeat' split at h) <;> cases h
  · exact .storeCondition ‹_›
  · exact .startMonitor ‹_›
  · exact .startRunner ‹_›
  · exact .startStatus ‹_›
  · exact .closerClosed ‹_› ‹_›
  · exact .shutdownSignal ‹_› ‹_›
  · exact .closed ‹_› ‹_›
  · exact .shutdownReturned ‹_› ‹_›

/-- The shape of `Run`'s steps, read off its moves. -/
theorem runStep_shape {c : Choice} (h : w.runStep c = some w') :
    ∃ rc pc wg mon rn sl sh, w' = { w with
      runningCondition := rc, run := pc, waitGroup := wg, monitor := mon, runner := rn,
      statusLoop := sl, shutdowns := sh } := by
  cases runMove_of_step h <;> exact ⟨_, _, _, _, _, _, _, rfl⟩

/-- Only the refresher and the environment write the refresher's position, the group
status, the watermark map, the reconcilers and the registry; every other goroutine's
step leaves them as they are. -/
theorem Step.refresher_cases (h : Step w w') :
    (∃ c, w.refresherStep c = some w') ∨ (∃ e, w.envStep e = some w') ∨
      (w'.refresher = w.refresher ∧ w'.groupResourceStatus = w.groupResourceStatus ∧
        w'.storageResourceVersions = w.storageResourceVersions ∧ w'.nextMap = w.nextMap ∧
        w'.synchros = w.synchros ∧ w'.storageResourceSynchros = w.storageResourceSynchros) := by
  obtain ⟨a, h⟩ := h
  cases a
  case refresher c => exact .inl ⟨c, h⟩
  case env e => exact .inr (.inl ⟨e, h⟩)
  all_goals
    refine .inr (.inr ?_)
    first
      | obtain ⟨_, _, _, _, _, _, rfl⟩ := monitorStep_shape h
      | obtain ⟨_, _, _, _, _, _, _, _, rfl⟩ := runnerStep_shape h
      | obtain ⟨_, _, rfl⟩ := handlerCloserStep_shape h
      | obtain ⟨_, _, _, _, _, _, _, rfl⟩ := runStep_shape h
      | obtain ⟨_, _, _, _, rfl⟩ := statusStep_shape h
      | obtain ⟨_, _, _, _, _, _, _, rfl⟩ := shutdownStep_shape h
      | obtain ⟨_, _, _, _, _, rfl⟩ := setterStep_shape h
    exact ⟨rfl, rfl, rfl, rfl, rfl, rfl⟩

end Clusterpedia

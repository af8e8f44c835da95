import Clusterpedia.Spec.Runner

/-!
# The sync-resources refresher

`syncResourcesRefresher` waits for a signal on `setSyncResourcesCh` and runs
`refreshSyncResources`: negotiate a plan, merge the group status, then

* under `runnerLock`, create a storage, a watermark entry and a reconciler for every
  planned storage resource not yet registered, launch its `Run`, register it and,
  when an epoch is open, spawn its `Start`;
* close and unregister every registered reconciler the plan dropped, returning at
  once if `closer` is closed while a `Close` is awaited;
* delete and clean every watermark entry the plan dropped, keeping the status of a
  resource whose clean failed;
* delete the remaining deleted versions from the status, in any order.

Go map iterations visit their keys in any order (`Choice.pick`). External calls
(`NewResourceStorage`, `NewResourceSynchro`, `CleanClusterResource`) succeed or fail
with any error text (`Choice.fail`); the negotiator's result is any plan and status.
-/

namespace Clusterpedia

/-- Append an external call to the run's ghost record. -/
def Refresh.log (r : Refresh) (e : Effect) : Refresh :=
  { r with effects := r.effects ++ [e] }

namespace World

variable (w : World)

/-- The reconciler `NewResourceSynchro` returns for storage resource `g`, given its
plan entry and watermark entry. -/
def newSynchro (g : GroupVersionResource) (cfg : ResourceSyncConfig)
    (rvs : ClusterResourceVersions) : Synchro :=
  { storageGVR := g, syncResource := cfg.syncResource, resourceVersions := rvs.resources,
    eventVersions := if cfg.syncEvents then some rvs.events else none,
    runLaunched := false, running := false, closeCalled := false, closeDone := false,
    closeObserved := false, status := ⟨"", "", "", ""⟩ }

/-- `updateSyncConditions(storageGVR, status, reason, message)`: every synchronized
version stored under `g`. -/
def updateSyncConditions (r : Refresh) (g : GroupVersionResource)
    (status reason message : String) : World :=
  { w with groupResourceStatus := w.groupResourceStatus.map fun s =>
      (r.syncGVRs g).foldl (fun s gvr => s.updateSyncCondition gvr status reason message) s }

/-- The `Start` the refresher spawns for a new reconciler: when `handlerStopCh` is set
and still open. -/
def handlerStart (i : Nat) : List (Nat × Nat) :=
  match w.handlerStopCh with
  | some h => if w.chanClosed h then [] else [(i, h)]
  | none => []

/-- Whether the `Close()` channel of reconciler `i` is closed. -/
def closeDoneOf (i : Nat) : Bool :=
  (w.synchros[i]?.map (·.closeDone)).getD false

theorem closeDoneOf_eq_true {i : Nat} :
    w.closeDoneOf i = true ↔ ∃ s, w.synchros[i]? = some s ∧ s.closeDone = true := by
  unfold closeDoneOf
  cases w.synchros[i]? <;> simp

/-- The run record a refresh starts with after `Merge`. -/
def startRefresh (configs : GoMap GroupVersionResource ResourceSyncConfig)
    (status : GroupResourceStatus) (deleted : List GroupVersionResource) : Refresh :=
  ⟨configs, deleted, status.getStorageGVRToSyncGVRs, w.storageResourceSynchros,
    w.storageResourceVersions, w.nextMap, deleted, []⟩

/-- The refresher. -/
def refresherStep (c : Choice) : Option World :=
  match w.refresher, c with
  | .recv, .next =>
    if w.setSyncResourcesCh then
      some { w with setSyncResourcesCh := false, signalSinceRecv := false,
                    refresher := .checkCloser }
    else none
  | .recv, .quit => if w.closer then some { w with refresher := .exited } else none
  | .checkCloser, .next => some { w with refresher := if w.closer then .exited else .load }
  | .load, .next =>
    some { w with loadedResources := w.syncResources,
                  refresher := match w.syncResources with
                    | none => .recv
                    | some rs => .negotiate rs }
  | .negotiate _, .negotiated st cfgs =>
    some { w with negotiatedFlag := w.syncAllCustomResources, refresher := .merge cfgs st }
  | .merge cfgs st, .next =>
    some { w with groupResourceStatus := some (st.merge w.groupResourceStatus).1,
                  refresher := .lock (w.startRefresh cfgs (st.merge w.groupResourceStatus).1
                    (st.merge w.groupResourceStatus).2) }
  | .lock r, .next =>
    if w.runnerLock = none then
      some { w with runnerLock := some .refresher, refresher := .create r r.configs.keys }
    else none
  | .create r ks, .pick g =>
    if g ∈ ks then
      some { w with refresher := if g ∈ w.storageResourceSynchros then .create r (ks.erase g)
                                 else .newStorage r g (ks.erase g) }
    else none
  | .create r [], .next => some { w with refresher := .unlock r }
  | .newStorage r g ks, .fail e =>
    some { w.updateSyncConditions r g ResourceSyncStatusPending "SynchroCreateFailed"
              ("new resource storage failed: " ++ e) with
           refresher := .create (r.log (.newResourceStorage g false)) ks }
  | .newStorage r g ks, .next =>
    match w.storageResourceVersions.lookup g with
    | some rvs =>
      some { w with refresher := .newSynchro (r.log (.newResourceStorage g true)) g rvs ks }
    | none =>
      some { w with
        storageResourceVersions :=
          w.storageResourceVersions.insert g ⟨some w.nextMap, some (w.nextMap + 1)⟩,
        nextMap := w.nextMap + 2,
        refresher := .newSynchro (r.log (.newResourceStorage g true)) g
          ⟨some w.nextMap, some (w.nextMap + 1)⟩ ks }
  | .newSynchro r g _ ks, .fail e =>
    some { w.updateSyncConditions r g ResourceSyncStatusPending "SynchroCreateFailed"
              ("new resource synchro failed: " ++ e) with
           refresher := .create (r.log (.newResourceSynchro g false)) ks }
  | .newSynchro r g rvs ks, .next =>
    match r.configs.lookup g with
    | some cfg =>
      some { w with synchros := w.synchros ++ [newSynchro g cfg rvs],
                    refresher := .launch (r.log (.newResourceSynchro g true)) g w.synchros.length ks }
    | none => none
  | .launch r g i ks, .next =>
    some { w with synchros := w.synchros.modify (fun s => { s with runLaunched := true, running := true }) i,
                  waitGroup := w.waitGroup + 1, refresher := .store r g i ks }
  | .store r g i ks, .next =>
    some { w.updateSyncConditions r g ResourceSyncStatusUnknown "" "" with
           storageResourceSynchros := w.storageResourceSynchros.insert g i,
           refresher := .spawnStart r i ks }
  | .spawnStart r i ks, .next =>
    some { w with starts := w.starts ++ w.handlerStart i, refresher := .create r ks }
  | .unlock r, .next => some { w with runnerLock := none, refresher := .collect r }
  | .collect r, .next =>
    some { w with refresher := .remove r (w.storageResourceSynchros.keys.filter (· ∉ r.configs)) }
  | .remove r ks, .pick g =>
    if g ∈ ks then
      match w.storageResourceSynchros.lookup g with
      | some i =>
        some { w with synchros := w.synchros.modify (fun s => { s with closeCalled := true }) i,
                      refresher := .closeWait r g i (ks.erase g) }
      | none => some { w with refresher := .remove r (ks.erase g) }
    else none
  | .remove r [], .next => some { w with refresher := .clean r w.storageResourceVersions.keys }
  | .closeWait r g i ks, .next =>
    if w.closeDoneOf i then
      some { w with synchros := w.synchros.modify (fun s => { s with closeObserved := true }) i,
                    refresher := .removed (r.log (.closeCompleted g)) g ks }
    else none
  | .closeWait _ _ _ _, .quit => if w.closer then some { w with refresher := .recv } else none
  | .removed r g ks, .next =>
    some { w.updateSyncConditions r g ResourceSyncStatusStop "SynchroRemoved"
              "the resource synchro is moved" with
           storageResourceSynchros := w.storageResourceSynchros.erase g,
           refresher := .remove r ks }
  | .clean r ks, .pick g =>
    if g ∈ ks then
      if g ∈ r.configs then some { w with refresher := .clean r (ks.erase g) }
      else some { w with storageResourceVersions := w.storageResourceVersions.erase g,
                         refresher := .cleanCall r g (ks.erase g) }
    else none
  | .cleanCall r g ks, .next =>
    some { w with refresher := .clean (r.log (.cleanClusterResource g true)) ks }
  | .cleanCall r g ks, .fail e =>
    some { w.updateSyncConditions r g ResourceSyncStatusStop "CleanResourceFailed" e with
           refresher := .clean { (r.log (.cleanClusterResource g false)) with
             deleted := r.deleted.filter (· ∉ r.syncGVRs g) } ks }
  | .clean r [], .next => some { w with refresher := .deleteVersions r r.deleted }
  | .deleteVersions r ks, .pick gvr =>
    if gvr ∈ ks then
      some { w with groupResourceStatus := w.groupResourceStatus.map (·.deleteVersion gvr),
                    refresher := .deleteVersions (r.log (.deleteVersion gvr)) (ks.erase gvr) }
    else none
  | .deleteVersions _ [], .next => some { w with refresher := .recv }
  | _, _ => none

end World

end Clusterpedia

import Clusterpedia.Spec.Types

/-!
# The synchro and its goroutines as one state

A `World` is a `ClusterSynchro` together with every goroutine that touches it: the
runner and its handler-closer, the monitor, the sync-resources refresher, `Run` and
its status goroutine, the `Shutdown` callers and the `SetResources` callers. Each
goroutine is a program counter with the locals it carries; channels are allocated
from a counter and closed for good. Ghost fields record what no field of the Go
struct remembers: which `Start` goroutines were spawned and which statuses were
published.

`World.new` is `New` after its fallible calls succeeded: fresh channels, and the
persisted watermark maps with nil maps replaced (`initWithResourceVersions`). `new` is
`New` itself, which returns the first of those calls' errors, wrapped.
-/

namespace Clusterpedia

/-- A reconciler (`resourcesynchro.Synchro`) as the synchro sees it. -/
structure Synchro where
  /-- The storage resource it was created for. -/
  storageGVR : GroupVersionResource
  /-- `Config.GroupVersionResource`, what `GroupVersionResource()` returns. -/
  syncResource : GroupVersionResource
  /-- `Config.ResourceVersions`. -/
  resourceVersions : Option Nat
  /-- `Config.Event`: absent without event sync, else its `ResourceVersions`. -/
  eventVersions : Option (Option Nat)
  /-- `Run` was launched through `waitGroup.StartWithChannel`. -/
  runLaunched : Bool
  /-- Its `Run` goroutine has not returned. -/
  running : Bool
  /-- `Close()` was invoked. -/
  closeCalled : Bool
  /-- The channel `Close()` returned is closed. -/
  closeDone : Bool
  /-- The refresher received from that channel. -/
  closeObserved : Bool
  /-- What `Status()` reports. -/
  status : ResourceSyncStatus
  deriving DecidableEq, Repr

/-! ## Program counters -/

/-- The two calls the monitor makes. -/
inductive RunnerCall
  | startRunner | stopRunner
  deriving DecidableEq, Repr

/-- Modelled from the spec: the monitor goroutine (§4.5, §4.6), a health loop that
calls `startRunner` and `stopRunner` one at a time, in any order, until `closer`
is closed. -/
inductive MonitorPC
  | notStarted
  /-- Between calls; the last call made, if any. -/
  | idle (last : Option RunnerCall)
  /-- Inside `startRunner`, past its first `select`. -/
  | startRunner
  /-- Inside `stopRunner`, past its first `select`. -/
  | stopRunner
  /-- Returned; the last call it made, if any. -/
  | exited (last : Option RunnerCall)
  deriving DecidableEq, Repr

/-- The `runner` goroutine. -/
inductive RunnerPC
  | notStarted
  /-- Evaluating `s.startRunnerCh` for the first `select`. -/
  | readStart
  /-- Blocked in the first `select` on the channel read. -/
  | waitStart (c : Nat)
  /-- Evaluating `s.stopRunnerCh` for the second `select`. -/
  | readStop
  /-- The second `select`, on the channel read, `closer` and `default`. -/
  | pollStop (c : Nat)
  | lock
  | makeHandler
  | spawnCloser
  | startDiscovery
  /-- The registry `Range`, with the keys not yet visited. -/
  | range (keys : List GroupVersionResource)
  | unlock
  /-- `<-s.handlerStopCh`. -/
  | waitHandler
  | exited
  deriving DecidableEq, Repr

/-- The goroutine a runner epoch spawns to close `handlerStopCh`. -/
inductive CloserPC
  /-- No such goroutine is alive. -/
  | idle
  /-- Evaluating `s.stopRunnerCh` for its `select`. -/
  | readStop
  /-- Blocked on `closer` and the channel read. -/
  | wait (c : Nat)
  deriving DecidableEq, Repr

/-- An external call of a `refreshSyncResources` run, with its outcome. -/
inductive Effect
  | newResourceStorage (g : GroupVersionResource) (ok : Bool)
  | newResourceSynchro (g : GroupVersionResource) (ok : Bool)
  | closeCompleted (g : GroupVersionResource)
  | cleanClusterResource (g : GroupVersionResource) (ok : Bool)
  | deleteVersion (gvr : GroupVersionResource)
  deriving DecidableEq, Repr

/-- The locals of a `refreshSyncResources` run past `Merge`, with a ghost record of
the registry and watermarks it started from and of the calls it made. -/
structure Refresh where
  /-- `storageResourceSyncConfigs`. -/
  configs : GoMap GroupVersionResource ResourceSyncConfig
  /-- `deleted`. -/
  deleted : List GroupVersionResource
  /-- `storageGVRToSyncGVRs`. -/
  syncGVRs : GroupVersionResource → List GroupVersionResource
  registry₀ : GoMap GroupVersionResource Nat
  versions₀ : GoMap GroupVersionResource ClusterResourceVersions
  nextMap₀ : Nat
  deleted₀ : List GroupVersionResource
  effects : List Effect

/-- The sync-resources refresher goroutine, `syncResourcesRefresher` with
`refreshSyncResources` inlined. -/
inductive RefresherPC
  | notStarted
  /-- The loop's first `select`: `closer` or `setSyncResourcesCh`. -/
  | recv
  /-- The loop's second `select`: `closer` or `default`. -/
  | checkCloser
  | load
  | negotiate (rs : List ClusterGroupResources)
  | merge (configs : GoMap GroupVersionResource ResourceSyncConfig)
      (status : GroupResourceStatus)
  | lock (r : Refresh)
  /-- The creation loop, with the plan keys not yet visited. -/
  | create (r : Refresh) (keys : List GroupVersionResource)
  | newStorage (r : Refresh) (g : GroupVersionResource) (keys : List GroupVersionResource)
  /-- `NewResourceSynchro`, with the watermark entry `rvs` it is given. -/
  | newSynchro (r : Refresh) (g : GroupVersionResource) (rvs : ClusterResourceVersions)
      (keys : List GroupVersionResource)
  | launch (r : Refresh) (g : GroupVersionResource) (id : Nat)
      (keys : List GroupVersionResource)
  | store (r : Refresh) (g : GroupVersionResource) (id : Nat)
      (keys : List GroupVersionResource)
  | spawnStart (r : Refresh) (id : Nat) (keys : List GroupVersionResource)
  | unlock (r : Refresh)
  | collect (r : Refresh)
  /-- The removal loop over `removedStorageGVRs`. -/
  | remove (r : Refresh) (keys : List GroupVersionResource)
  | closeWait (r : Refresh) (g : GroupVersionResource) (id : Nat)
      (keys : List GroupVersionResource)
  | removed (r : Refresh) (g : GroupVersionResource) (keys : List GroupVersionResource)
  /-- The clean loop over `storageResourceVersions`. -/
  | clean (r : Refresh) (keys : List GroupVersionResource)
  | cleanCall (r : Refresh) (g : GroupVersionResource) (keys : List GroupVersionResource)
  /-- The last loop, `DeleteVersion` over `deleted`. -/
  | deleteVersions (r : Refresh) (keys : List GroupVersionResource)
  | exited

/-- `Run(shutdown)`. -/
inductive RunPC
  | notCalled
  | startMonitor
  | startRunner
  | startStatus
  | select
  /-- `<-s.closed` after `closer` was seen closed. -/
  | waitClosed
  /-- Inside `Shutdown(true)`, call `i` of `shutdowns`. -/
  | shutdown (i : Nat)
  | returned
  deriving DecidableEq, Repr

/-- The status goroutine `Run` starts: `for range s.updateStatusCh`. -/
inductive StatusPC
  | notStarted
  | recv
  | gen
  | update (st : ClusterStatus)
  | exited
  deriving DecidableEq, Repr

/-- A `Shutdown(updateStatus)` call. -/
inductive ShutdownPC
  /-- `closeOnce.Do`. -/
  | enter
  /-- `s.waitGroup.Wait()`. -/
  | wait
  | storeCondition
  | publish
  | closeStatusCh
  /-- Blocked in `closeOnce.Do` while another call runs the once-block. -/
  | waitOnce
  /-- `<-s.closed`. -/
  | waitClosed
  | returned
  deriving DecidableEq, Repr

/-- A call of `Shutdown`. -/
structure ShutdownCall where
  updateStatus : Bool
  pc : ShutdownPC
  deriving DecidableEq, Repr

/-- The state of `closeOnce`. -/
inductive OnceState
  | fresh | running | done
  deriving DecidableEq, Repr

/-- A call of `SetResources` (from `store`) or `resetSyncResources` (from `signal`). -/
inductive SetterPC
  | store (rs : Option (List ClusterGroupResources)) (flag : Bool)
  | setFlag (flag : Bool)
  | signal
  | done
  deriving DecidableEq, Repr

/-- Who holds `runnerLock`. -/
inductive LockHolder
  | runner | refresher
  deriving DecidableEq, Repr

/-! ## The world -/

/-- A `ClusterSynchro` with its goroutines and ghost records. -/
structure World where
  /-- Channels are numbered in the order `make` allocates them; the next number. -/
  nextChan : Nat
  /-- Which channels are closed. -/
  chanClosed : Nat → Bool
  closer : Bool
  closed : Bool
  startRunnerCh : Nat
  stopRunnerCh : Nat
  handlerStopCh : Option Nat
  /-- The one buffered signal of `updateStatusCh`. -/
  updateStatusCh : Bool
  updateStatusChClosed : Bool
  /-- The one buffered signal of `setSyncResourcesCh`. -/
  setSyncResourcesCh : Bool
  /-- The `shutdown` channel `Run` was given is closed. -/
  shutdownCh : Bool
  runnerLock : Option LockHolder
  /-- Goroutines started through `waitGroup` that have not returned. -/
  waitGroup : Nat
  closeOnce : OnceState
  storageResourceVersions : GoMap GroupVersionResource ClusterResourceVersions
  storageResourceSynchros : GoMap GroupVersionResource Nat
  /-- Every reconciler `NewResourceSynchro` returned, numbered by creation. -/
  synchros : List Synchro
  /-- Watermark maps are numbered in allocation order; the next number. -/
  nextMap : Nat
  syncResources : Option (List ClusterGroupResources)
  /-- The negotiator's `syncAllCustomResources`. -/
  syncAllCustomResources : Bool
  groupResourceStatus : Option GroupResourceStatus
  runningCondition : Condition
  healthyCondition : Condition
  /-- `dynamicDiscovery.ServerVersion().GitVersion`. -/
  serverVersion : String
  /-- `dynamicDiscovery.Start` was called. -/
  discoveryStarted : Bool
  monitor : MonitorPC
  runner : RunnerPC
  handlerCloser : CloserPC
  refresher : RefresherPC
  run : RunPC
  statusLoop : StatusPC
  shutdowns : List ShutdownCall
  setters : List SetterPC
  /-- Every `go synchro.Start(h)` spawned, as (reconciler, `h`). -/
  starts : List (Nat × Nat)
  /-- Every status passed to `UpdateClusterStatus`, oldest first. -/
  published : List ClusterStatus
  /-- The `Shutdown` call that ran the once-block. -/
  onceCaller : Option Nat
  /-- A `SetResources` or `resetSyncResources` call completed since the refresher's
  last receive on `setSyncResourcesCh`. -/
  signalSinceRecv : Bool
  /-- What the refresher's last run loaded from `syncResources`. -/
  loadedResources : Option (List ClusterGroupResources)
  /-- The `syncAllCustomResources` the refresher's last negotiation read. -/
  negotiatedFlag : Bool

/-! ## `New` -/

/-- The running condition `New` stores. -/
def createdCondition : Condition :=
  ⟨SynchroRunningCondition, .conditionFalse, SynchroPendingReason,
    "cluster synchro is created, wait running"⟩

/-- The healthy condition `New` stores. -/
def monitorWaitCondition : Condition :=
  ⟨ClusterHealthyCondition, .conditionUnknown, ClusterMonitorStopReason,
    "wait cluster synchro's healthy monitor running"⟩

/-- The running condition `Run` stores. -/
def runningConditionOf : Condition :=
  ⟨SynchroRunningCondition, .conditionTrue, SynchroRunningReason, "cluster synchro is running"⟩

/-- The running condition `Shutdown` stores. -/
def shutdownCondition : Condition :=
  ⟨SynchroRunningCondition, .conditionFalse, SynchroShutdownReason, "cluster synchro is shutdown"⟩

/-- One entry of `initWithResourceVersions`: nil maps replaced by fresh ones. -/
def fillVersions (rvs : ClusterResourceVersions) (next : Nat) :
    ClusterResourceVersions × Nat :=
  match rvs.resources, rvs.events with
  | some r, some e => (⟨some r, some e⟩, next)
  | some r, none => (⟨some r, some next⟩, next + 1)
  | none, some e => (⟨some next, some e⟩, next + 1)
  | none, none => (⟨some next, some (next + 1)⟩, next + 2)

/-- `initWithResourceVersions`, over the entries of the persisted map, allocating
fresh maps from `next`. -/
def initWithResourceVersions :
    List (Σ _ : GroupVersionResource, ClusterResourceVersions) →
      GoMap GroupVersionResource ClusterResourceVersions → Nat →
      GoMap GroupVersionResource ClusterResourceVersions × Nat
  | [], m, next => (m, next)
  | ⟨g, rvs⟩ :: es, m, next =>
    initWithResourceVersions es (m.insert g (fillVersions rvs next).1) (fillVersions rvs next).2

/-- A map id above every map id of the persisted entries. -/
def mapIdBound (es : List (Σ _ : GroupVersionResource, ClusterResourceVersions)) : Nat :=
  es.foldr (fun e n => n + e.2.resources.getD 0 + e.2.events.getD 0 + 1) 0

/-- `New(name, config, storageFactory, updater, syncConfig)` once its fallible calls
succeeded, with `persisted` what `GetResourceVersions` returned. -/
def World.new (persisted : GoMap GroupVersionResource ClusterResourceVersions)
    (serverVersion : String) : World :=
  let init := initWithResourceVersions persisted.entries ∅ (mapIdBound persisted.entries)
  { nextChan := 2, chanClosed := fun _ => false, closer := false, closed := false,
    startRunnerCh := 0, stopRunnerCh := 1, handlerStopCh := none,
    updateStatusCh := false, updateStatusChClosed := false, setSyncResourcesCh := false,
    shutdownCh := false, runnerLock := none, waitGroup := 0, closeOnce := .fresh,
    storageResourceVersions := init.1, storageResourceSynchros := ∅, synchros := [],
    nextMap := init.2, syncResources := none, syncAllCustomResources := false,
    groupResourceStatus := none, runningCondition := createdCondition,
    healthyCondition := monitorWaitCondition, serverVersion, discoveryStarted := false,
    monitor := .notStarted, runner := .notStarted, handlerCloser := .idle,
    refresher := .notStarted, run := .notCalled, statusLoop := .notStarted,
    shutdowns := [], setters := [], starts := [], published := [], onceCaller := none,
    signalSinceRecv := false, loadedResources := none, negotiatedFlag := false }

/-- What the fallible calls of `New` return, in the order `New` makes them:
`NewDynamicDiscoveryManager` (with the server version its discovery reports),
`GetResourceVersions`, `NewDynamicListerWatcherFactory`, `newHealthChecker` and
`kubernetes.NewForConfig`. -/
structure NewCalls where
  dynamicDiscovery : Except String String
  resourceVersions : Except String (GoMap GroupVersionResource ClusterResourceVersions)
  listerWatcherFactory : Except String Unit
  healthChecker : Except String Unit
  client : Except String Unit

/-- `New(name, config, storageFactory, updater, syncConfig)`, returning the text of the
error it wraps. `type RetryableError error` declares an interface with the method set of
`error`, so the two `RetryableError(...)` conversions change nothing a caller can see:
every error `New` returns passes `err.(RetryableError)`. -/
def new (calls : NewCalls) : Except String World := do
  let serverVersion ← calls.dynamicDiscovery.mapError
    ("failed to create dynamic discovery manager: " ++ ·)
  let resourceversions ← calls.resourceVersions.mapError
    ("failed to get resource versions from storage: " ++ ·)
  calls.listerWatcherFactory.mapError ("failed to create lister watcher factory: " ++ ·)
  calls.healthChecker.mapError ("failed to create a cluster health checker: " ++ ·)
  calls.client.mapError ("failed to create cluster client: " ++ ·)
  pure (World.new resourceversions serverVersion)

/-- `New` returns a synchro exactly when its five calls succeed, and that synchro starts as
`World.new` of the persisted map and the server version. -/
theorem new_eq_ok {calls : NewCalls} {w : World} :
    new calls = .ok w ↔ ∃ v p, calls.dynamicDiscovery = .ok v ∧ calls.resourceVersions = .ok p ∧
      calls.listerWatcherFactory = .ok () ∧ calls.healthChecker = .ok () ∧
      calls.client = .ok () ∧ w = World.new p v := by
  obtain ⟨_ | v, _ | p, _ | ⟨⟩, _ | ⟨⟩, _ | ⟨⟩⟩ := calls <;>
    simp [new, Except.mapError, bind, Except.bind, pure, Except.pure, eq_comm]

end Clusterpedia

import Clusterpedia.Spec.Refresh

/-!
# `Run`, `Shutdown`, status publication and the callers

`Run` stores the running condition, starts the monitor and the runner through the
wait group, starts the status goroutine, and waits for `closer` or its `shutdown`
channel. The status goroutine turns each signal of the one-slot `updateStatusCh`
into a `genClusterStatus` and an `UpdateClusterStatus`, and closes `closed` when the
channel is closed and drained. `Shutdown` runs its once-block (close `closer`, wait
for the wait group, store the terminal condition, optionally signal, close the
status channel) and then waits for `closed`.

`SetResources` stores the resources and the negotiator's flag and signals the
refresher; `resetSyncResources` only signals. Reconcilers and the discovery manager
are outside the sources: a reconciler's `Run` returns once `closer` is closed or it
was closed, its `Close()` channel closes once its `Run` returned, and discovery calls
its after-start hook once it was started.
-/

namespace Clusterpedia

/-- What happens outside the synchro's own goroutines. -/
inductive EnvEvent
  /-- A caller begins `SetResources(rs, flag)`. -/
  | setResources (rs : Option (List ClusterGroupResources)) (flag : Bool)
  /-- The discovery manager's mutation handler calls `resetSyncResources`. -/
  | resetSyncResources
  /-- A caller begins `Shutdown(updateStatus)`. -/
  | shutdown (updateStatus : Bool)
  /-- The `shutdown` channel given to `Run` is closed. -/
  | closeShutdownCh
  /-- Discovery calls `AfterStartFunc`, whose `refresherOnce` starts the refresher. -/
  | afterStart
  /-- Reconciler `i`'s `Run` returns. -/
  | synchroReturns (i : Nat)
  /-- Reconciler `i`'s `Close()` channel closes. -/
  | synchroClosed (i : Nat)
  /-- Reconciler `i` reports a new `Status()`. -/
  | synchroReports (i : Nat) (st : ResourceSyncStatus)

namespace World

variable (w : World)

/-! ## Status publication -/

/-- A synchronized version in `genClusterStatus`: the view of the reconciler
registered under its storage resource, or defaults when there is none. -/
def syncConditionStatus (gvr : GroupVersionResource) (cond : SyncCondition) : SyncCondition :=
  match w.storageResourceSynchros.lookup cond.storageGVR >>= (w.synchros[·]?) with
  | some sy =>
    { cond with
      syncResource := if gvr.groupResource ≠ sy.syncResource.groupResource
        then sy.syncResource.groupResource.string else cond.syncResource,
      syncVersion := if gvr.version ≠ sy.syncResource.version
        then sy.syncResource.version else cond.syncVersion,
      status := sy.status.status, reason := sy.status.reason, message := sy.status.message,
      initialListPhase := sy.status.initialListPhase }
  | none =>
    { cond with
      status := if cond.status = "" then ResourceSyncStatusUnknown else cond.status,
      reason := if cond.reason = "" then "ResourceSynchroNotFound" else cond.reason,
      message := if cond.message = "" then "not found resource synchro" else cond.message }

/-- `genClusterStatus`. -/
def genClusterStatus : ClusterStatus :=
  { version := w.serverVersion,
    conditions := [w.runningCondition, w.healthyCondition],
    syncResources := w.groupResourceStatus.map fun s =>
      s.entries.map fun e => (e.1, w.syncConditionStatus e.1 e.2) }

/-- `updateStatus`: a non-blocking send on the one-slot `updateStatusCh`. -/
def updateStatus : World :=
  { w with updateStatusCh := true }

/-- The status goroutine. -/
def statusStep : Option World :=
  match w.statusLoop with
  | .recv =>
    if w.updateStatusCh then some { w with updateStatusCh := false, statusLoop := .gen }
    else if w.updateStatusChClosed then some { w with closed := true, statusLoop := .exited }
    else none
  | .gen => some { w with statusLoop := .update w.genClusterStatus }
  | .update st => some { w with published := w.published ++ [st], statusLoop := .recv }
  | _ => none

/-! ## `Run` and `Shutdown` -/

/-- `Run(shutdown)`. -/
def runStep (c : Choice) : Option World :=
  match w.run, c with
  | .notCalled, .next => some { w with runningCondition := runningConditionOf, run := .startMonitor }
  | .startMonitor, .next =>
    some { w with waitGroup := w.waitGroup + 1, monitor := .idle none, run := .startRunner }
  | .startRunner, .next =>
    some { w with waitGroup := w.waitGroup + 1, runner := .readStart, run := .startStatus }
  | .startStatus, .next => some { w with statusLoop := .recv, run := .select }
  | .select, .quit => if w.closer then some { w with run := .waitClosed } else none
  | .select, .next =>
    if w.shutdownCh then
      some { w with shutdowns := w.shutdowns ++ [⟨true, .enter⟩], run := .shutdown w.shutdowns.length }
    else none
  | .waitClosed, .next => if w.closed then some { w with run := .returned } else none
  | .shutdown i, .next =>
    if (w.shutdowns[i]?.map (·.pc)) = some .returned then some { w with run := .returned } else none
  | _, _ => none

/-- Move `Shutdown` call `i` to `pc`. -/
def setShutdown (i : Nat) (call : ShutdownCall) (pc : ShutdownPC) : World :=
  { w with shutdowns := w.shutdowns.set i { call with pc } }

/-- `Shutdown` call `i`. -/
def shutdownStep (i : Nat) : Option World :=
  match w.shutdowns[i]? with
  | none => none
  | some call =>
    match call.pc with
    | .enter =>
      match w.closeOnce with
      | .fresh =>
        some ({ w with closeOnce := .running, closer := true,
                       onceCaller := some i }.setShutdown i call .wait)
      | _ => some (w.setShutdown i call .waitOnce)
    | .wait => if w.waitGroup = 0 then some (w.setShutdown i call .storeCondition) else none
    | .storeCondition =>
      some ({ w with runningCondition := shutdownCondition }.setShutdown i call .publish)
    | .publish =>
      some ((if call.updateStatus then w.updateStatus else w).setShutdown i call .closeStatusCh)
    | .closeStatusCh =>
      some ({ w with updateStatusChClosed := true, closeOnce := .done }.setShutdown i call .waitClosed)
    | .waitOnce => if w.closeOnce = .done then some (w.setShutdown i call .waitClosed) else none
    | .waitClosed => if w.closed then some (w.setShutdown i call .returned) else none
    | .returned => none

/-! ## Callers and collaborators -/

/-- `SetResources` or `resetSyncResources` call `i`. -/
def setterStep (i : Nat) : Option World :=
  match w.setters[i]? with
  | some (.store rs flag) => some { w with syncResources := rs, setters := w.setters.set i (.setFlag flag) }
  | some (.setFlag flag) =>
    some { w with syncAllCustomResources := flag, setters := w.setters.set i .signal }
  | some .signal =>
    some { w with setSyncResourcesCh := true, signalSinceRecv := true,
                  setters := w.setters.set i .done }
  | _ => none

/-- Whether the refresher goroutine has not been started. -/
def refresherNotStarted : Bool :=
  match w.refresher with
  | .notStarted => true
  | _ => false

/-- Modelled from the spec: callers, the discovery manager and the reconcilers
(§4.1, §4.4, §5: workers exit by observing their signal; `Close` returns once the
worker goroutines have exited). -/
def envStep : EnvEvent → Option World
  | .setResources rs flag => some { w with setters := w.setters ++ [.store rs flag] }
  | .resetSyncResources => some { w with setters := w.setters ++ [.signal] }
  | .shutdown b => some { w with shutdowns := w.shutdowns ++ [⟨b, .enter⟩] }
  | .closeShutdownCh => some { w with shutdownCh := true }
  | .afterStart =>
    if w.discoveryStarted && w.refresherNotStarted then some { w with refresher := .recv }
    else none
  | .synchroReturns i =>
    match w.synchros[i]? with
    | some s =>
      if s.running && (w.closer || s.closeCalled) then
        some { w with synchros := w.synchros.set i { s with running := false },
                      waitGroup := w.waitGroup - 1 }
      else none
    | none => none
  | .synchroClosed i =>
    match w.synchros[i]? with
    | some s =>
      if s.closeCalled && !s.running then
        some { w with synchros := w.synchros.set i { s with closeDone := true } }
      else none
    | none => none
  | .synchroReports i st =>
    match w.synchros[i]? with
    | some s => some { w with synchros := w.synchros.set i { s with status := st } }
    | none => none

end World

end Clusterpedia

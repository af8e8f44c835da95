import Clusterpedia.Spec.World

/-!
# The runner, its handler-closer and the monitor

`startRunner` and `stopRunner` each make two `select`s on `startRunnerCh` and
`stopRunnerCh`; the monitor calls them one at a time. The runner loop waits for the
start channel, polls the stop channel, and then, under `runnerLock`, opens an
epoch: a fresh `handlerStopCh`, the goroutine that closes it when `closer` or the
stop channel is closed, `dynamicDiscovery.Start` and a `Start` of every registered
reconciler. It waits for the handler channel to close before looping.

A step is one channel operation, field read or write. A `select` first evaluates
its channel operands and then blocks, so the runner and the handler-closer read a
channel field and wait on it in two steps. The monitor's reads are of fields only
it writes, so each of its `select`s, with the assignment it guards, is one step.
-/

namespace Clusterpedia

/-- What the scheduler, or an external call, decides at a step. -/
inductive Choice
  /-- The step's only move, or the non-`closer` case of a `select`. -/
  | next
  /-- The `closer` case of a `select`. -/
  | quit
  /-- The next key of a map iteration. -/
  | pick (g : GroupVersionResource)
  /-- An external call returning an error with this text. -/
  | fail (err : String)
  /-- What `NegotiateSyncResources` returned. -/
  | negotiated (status : GroupResourceStatus)
      (configs : GoMap GroupVersionResource ResourceSyncConfig)

/-- A move of the monitor. -/
inductive MonitorMove
  /-- Begin a call of `startRunner` or `stopRunner`. -/
  | call (c : RunnerCall)
  /-- The second `select` of the call in progress. -/
  | finish
  /-- Return once `closer` is closed. -/
  | exit

namespace World

variable (w : World)

/-- `close(c)`. -/
def closeChan (c : Nat) : World :=
  { w with chanClosed := fun x => x = c || w.chanClosed x }

/-- The first `select` of `startRunner`: a closed stop channel is replaced by a
fresh one. -/
def startRunner₁ : World :=
  if w.chanClosed w.stopRunnerCh then
    { w with stopRunnerCh := w.nextChan, nextChan := w.nextChan + 1 }
  else w

/-- The second `select` of `startRunner`: an open start channel is closed. -/
def startRunner₂ : World :=
  if w.chanClosed w.startRunnerCh then w else w.closeChan w.startRunnerCh

/-- The first `select` of `stopRunner`: a closed start channel is replaced by a
fresh one. -/
def stopRunner₁ : World :=
  if w.chanClosed w.startRunnerCh then
    { w with startRunnerCh := w.nextChan, nextChan := w.nextChan + 1 }
  else w

/-- The second `select` of `stopRunner`: an open stop channel is closed. -/
def stopRunner₂ : World :=
  if w.chanClosed w.stopRunnerCh then w else w.closeChan w.stopRunnerCh

/-- Modelled from the spec: the monitor, whose body is not under the sources. It makes
`startRunner` and `stopRunner` calls one at a time, each as the two `select`s the sources
give them, and returns once `closer` is closed (§4.6: health going healthy triggers
`startRunner`, going unhealthy `stopRunner`). `Run` starts it through the wait group.
The health checks that decide which call comes next are left to the scheduler. -/
def monitorStep : MonitorMove → Option World
  | .call .startRunner =>
    match w.monitor with
    | .idle _ => some { w.startRunner₁ with monitor := .startRunner }
    | _ => none
  | .call .stopRunner =>
    match w.monitor with
    | .idle _ => some { w.stopRunner₁ with monitor := .stopRunner }
    | _ => none
  | .finish =>
    match w.monitor with
    | .startRunner => some { w.startRunner₂ with monitor := .idle (some .startRunner) }
    | .stopRunner => some { w.stopRunner₂ with monitor := .idle (some .stopRunner) }
    | _ => none
  | .exit =>
    match w.monitor with
    | .idle l =>
      if w.closer then some { w with monitor := .exited l, waitGroup := w.waitGroup - 1 } else none
    | _ => none

/-- The `Start` a registry `Range` spawns for key `g` in the current epoch. -/
def rangeStart (g : GroupVersionResource) : List (Nat × Nat) :=
  match w.storageResourceSynchros.lookup g, w.handlerStopCh with
  | some i, some h => [(i, h)]
  | _, _ => []

/-- The runner returns. -/
def runnerExit : World :=
  { w with runner := .exited, waitGroup := w.waitGroup - 1 }

/-- The runner loop. -/
def runnerStep (c : Choice) : Option World :=
  match w.runner, c with
  | .readStart, .next => some { w with runner := .waitStart w.startRunnerCh }
  | .waitStart ch, .next => if w.chanClosed ch then some { w with runner := .readStop } else none
  | .waitStart _, .quit => if w.closer then some w.runnerExit else none
  | .readStop, .next => some { w with runner := .pollStop w.stopRunnerCh }
  | .pollStop ch, .next =>
    if w.chanClosed ch then some { w with runner := .readStart }
    else if w.closer then none else some { w with runner := .lock }
  | .pollStop _, .quit => if w.closer then some w.runnerExit else none
  | .lock, .next =>
    if w.runnerLock = none then some { w with runnerLock := some .runner, runner := .makeHandler }
    else none
  | .makeHandler, .next =>
    some { w with handlerStopCh := some w.nextChan, nextChan := w.nextChan + 1,
                  runner := .spawnCloser }
  | .spawnCloser, .next => some { w with handlerCloser := .readStop, runner := .startDiscovery }
  | .startDiscovery, .next =>
    some { w with discoveryStarted := true, runner := .range w.storageResourceSynchros.keys }
  | .range ks, .pick g =>
    if g ∈ ks then some { w with starts := w.starts ++ w.rangeStart g, runner := .range (ks.erase g) }
    else none
  | .range [], .next => some { w with runner := .unlock }
  | .unlock, .next => some { w with runnerLock := none, runner := .waitHandler }
  | .waitHandler, .next =>
    match w.handlerStopCh with
    | some h => if w.chanClosed h then some { w with runner := .readStart } else none
    | none => none
  | _, _ => none

/-- The goroutine that closes `handlerStopCh`. -/
def handlerCloserStep : Option World :=
  match w.handlerCloser with
  | .readStop => some { w with handlerCloser := .wait w.stopRunnerCh }
  | .wait ch =>
    if w.closer || w.chanClosed ch then
      match w.handlerStopCh with
      | some h => some { w.closeChan h with handlerCloser := .idle }
      | none => none
    else none
  | .idle => none

end World

end Clusterpedia

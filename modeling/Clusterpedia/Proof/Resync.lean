import Clusterpedia.Proof.Epochs

/-!
# The one-slot refresh signal

`SetResources` stores the resources, sets the negotiator's flag and makes a
non-blocking send on the one-slot `setSyncResourcesCh`; `resetSyncResources` only
sends. The refresher receives, checks `closer`, loads the resources and, when they are
not nil, negotiates with the flag.

The invariant `Resync.OK` says that a send is never lost: the channel holds a signal,
or a call is between its store and its send, or the refresher is between its receive and
its load, or what the refresher's last run loaded is what is stored, and its negotiation
(if the run got that far) read the flag that is set. So when the refresher waits on an
empty channel and no call is in progress, every completed call finished before its last
receive, and its last run loaded the current resources and, when they were not nil,
negotiated with the current flag (`refresh_loaded_current`). A call in progress has
already stored what the last run did not see (`resources_stored_unsignalled`).
-/

namespace Clusterpedia

/-- A call between its first step and its send: `SetResources` has stored its resources,
or a call is about to send. -/
def SetterPC.pending : SetterPC → Bool
  | .setFlag _ | .signal => true
  | _ => false

/-- The refresher has received a signal and not yet loaded, or has exited. -/
def RefresherPC.reading : RefresherPC → Bool
  | .checkCloser | .load | .exited => true
  | _ => false

/-- The refresher has loaded non-nil resources and not yet negotiated. -/
def RefresherPC.negotiating : RefresherPC → Bool
  | .negotiate _ => true
  | _ => false

/-- What the callers of `SetResources` and the refresher share. -/
structure Resync where
  refresher : RefresherPC
  setSyncResourcesCh : Bool
  signalSinceRecv : Bool
  setters : List SetterPC
  syncResources : Option (List ClusterGroupResources)
  syncAllCustomResources : Bool
  loadedResources : Option (List ClusterGroupResources)
  negotiatedFlag : Bool

/-- The signal part of a world. -/
def World.resync (w : World) : Resync :=
  ⟨w.refresher, w.setSyncResourcesCh, w.signalSinceRecv, w.setters, w.syncResources,
    w.syncAllCustomResources, w.loadedResources, w.negotiatedFlag⟩

namespace Resync

variable (v : Resync)

/-- Some call is in progress. -/
def Pending : Prop :=
  ∃ p ∈ v.setters, p.pending = true

/-- The refresher's last run loaded what is stored and, past its negotiation, read the
flag that is set. -/
def Synced : Prop :=
  v.loadedResources = v.syncResources ∧
    (v.refresher.negotiating = true ∨
      (v.loadedResources ≠ none → v.negotiatedFlag = v.syncAllCustomResources))

/-- No update is lost. -/
structure OK : Prop where
  signalled : v.signalSinceRecv = true → v.setSyncResourcesCh = true
  current : v.setSyncResourcesCh = true ∨ v.Pending ∨ v.refresher.reading = true ∨ v.Synced

variable {v}

namespace OK

/-- The refresher moves outside its receive, load and negotiation. -/
theorem setRefresher (hi : v.OK) {s₀ : RefresherPC} (hs : v.refresher = s₀) (r : RefresherPC)
    (hread : s₀.reading = true → r.reading = true) (hneg : s₀.negotiating = false) :
    ({ v with refresher := r } : Resync).OK where
  signalled := hi.signalled
  current := by
    subst hs
    rcases hi.current with h | h | h | ⟨hl, hn | hn⟩
    · exact .inl h
    · exact .inr (.inl h)
    · exact .inr (.inr (.inl (hread h)))
    · rw [hneg] at hn; cases hn
    · exact .inr (.inr (.inr ⟨hl, .inr hn⟩))

/-- The refresher receives the signal. -/
theorem recvSignal (v : Resync) :
    ({ v with setSyncResourcesCh := false, signalSinceRecv := false,
              refresher := .checkCloser } : Resync).OK where
  signalled h := by cases h
  current := .inr (.inr (.inl rfl))

/-- The refresher loads the stored resources: nil ends the run. -/
theorem load (hi : v.OK) (r : RefresherPC) (hr : v.syncResources = none ∨ r.negotiating = true) :
    ({ v with loadedResources := v.syncResources, refresher := r } : Resync).OK where
  signalled := hi.signalled
  current := .inr (.inr (.inr ⟨rfl, hr.symm.imp id fun h h' => absurd h h'⟩))

/-- The refresher negotiates with the flag that is set. -/
theorem negotiate (hi : v.OK) (hs : v.refresher.negotiating = true) (r : RefresherPC) :
    ({ v with negotiatedFlag := v.syncAllCustomResources, refresher := r } : Resync).OK where
  signalled := hi.signalled
  current := by
    rcases hi.current with h | h | h | ⟨hl, -⟩
    · exact .inl h
    · exact .inr (.inl h)
    · revert h hs; cases v.refresher <;> simp [RefresherPC.reading, RefresherPC.negotiating]
    · exact .inr (.inr (.inr ⟨hl, .inr fun _ => rfl⟩))

/-- Call `i` moves on to `p`, still in progress. -/
theorem setPending (hi : v.OK) {i : Nat} {p₀ : SetterPC} (hp₀ : v.setters[i]? = some p₀)
    (p : SetterPC) (hp : p.pending = true) (rs : Option (List ClusterGroupResources))
    (flag : Bool) :
    ({ v with syncResources := rs, syncAllCustomResources := flag,
              setters := v.setters.set i p } : Resync).OK where
  signalled := hi.signalled
  current := .inr (.inl ⟨p, List.mem_set _ _ (List.getElem?_eq_some_iff.mp hp₀).1 p, hp⟩)

/-- Call `i` sends. -/
theorem signal (v : Resync) (i : Nat) (p : SetterPC) :
    ({ v with setSyncResourcesCh := true, signalSinceRecv := true,
              setters := v.setters.set i p } : Resync).OK where
  signalled _ := rfl
  current := .inl rfl

/-- A new call begins. -/
theorem append (hi : v.OK) (p : SetterPC) :
    ({ v with setters := v.setters ++ [p] } : Resync).OK where
  signalled := hi.signalled
  current := by
    rcases hi.current with h | ⟨q, hq, hp⟩ | h
    · exact .inl h
    · exact .inr (.inl ⟨q, List.mem_append_left _ hq, hp⟩)
    · exact .inr (.inr h)

end OK

end Resync

/-! ## Every step keeps the invariant -/

section Steps

variable {w w' : World}

theorem resyncOK_refresherMove (hi : w.resync.OK) (h : RefresherMove w w') : w'.resync.OK := by
  cases h with
  | recvSignal _ _ => exact Resync.OK.recvSignal w.resync
  | loadNil _ hs => exact hi.load .recv (.inl hs)
  | loadSome _ _ => exact hi.load (.negotiate _) (.inr rfl)
  | negotiate hr => exact hi.negotiate (by rw [show w.resync.refresher = _ from hr]; rfl) _
  | _ =>
    first
    | exact hi.setRefresher (by assumption) _ (fun _ => rfl) (by rfl)
    | exact hi.setRefresher (by assumption) _ (fun h => by cases h) (by rfl)

theorem resyncOK_setterStep {i : Nat} (hi : w.resync.OK) (h : w.setterStep i = some w') :
    w'.resync.OK := by
  unfold World.setterStep at h
  split at h <;> cases h
  · exact hi.setPending ‹_› (.setFlag _) rfl _ _
  · exact hi.setPending ‹_› .signal rfl _ _
  · exact Resync.OK.signal w.resync i _

theorem resyncOK_envStep {e : EnvEvent} (hi : w.resync.OK) (h : w.envStep e = some w') :
    w'.resync.OK := by
  cases e
  case afterStart =>
    obtain ⟨hr, rfl⟩ := envStep_afterStart h
    exact hi.setRefresher hr .recv (fun h => by cases h) rfl
  all_goals
    simp only [World.envStep] at h
    (repeat' split at h) <;> cases h
    first
    | exact hi
    | exact hi.append _

theorem resyncOK_step (hi : w.resync.OK) (h : Step w w') : w'.resync.OK := by
  obtain ⟨a, h⟩ := h
  cases a with
  | refresher c => exact resyncOK_refresherMove hi (refresherMove_of_step h)
  | setter i => exact resyncOK_setterStep hi h
  | env e => exact resyncOK_envStep hi h
  | monitor m => obtain ⟨_, _, _, _, _, _, rfl⟩ := monitorStep_shape h; exact hi
  | runner c => obtain ⟨_, _, _, _, _, _, _, _, rfl⟩ := runnerStep_shape h; exact hi
  | handlerCloser => obtain ⟨_, _, rfl⟩ := handlerCloserStep_shape h; exact hi
  | run c => obtain ⟨_, _, _, _, _, _, _, rfl⟩ := runStep_shape h; exact hi
  | statusLoop => obtain ⟨_, _, _, _, rfl⟩ := statusStep_shape h; exact hi
  | shutdown i => obtain ⟨_, _, _, _, _, _, _, rfl⟩ := shutdownStep_shape h; exact hi

theorem resyncOK_new (p v) : (World.new p v).resync.OK where
  signalled h := by cases h
  current := .inr (.inr (.inr ⟨rfl, .inr fun h => absurd rfl h⟩))

theorem resyncOK_of_reachable (hw : Reachable w) : w.resync.OK :=
  Reachable.induction resyncOK_new (fun _ _ _ hi hs => resyncOK_step hi hs) hw

/-- **No refresh signal is lost.** When the refresher waits on an empty
`setSyncResourcesCh` and no `SetResources` or `resetSyncResources` call is in progress,
every call that completed did so before the refresher's last receive, and the refresher's
last run loaded the stored resources and, when they were not nil, negotiated with the
flag that is set. -/
theorem refresh_loaded_current (hw : Reachable w) (hr : w.refresher = .recv)
    (hch : w.setSyncResourcesCh = false)
    (hset : ∀ p ∈ w.setters, p.pending = false) :
    w.signalSinceRecv = false ∧ w.loadedResources = w.syncResources ∧
      (w.loadedResources ≠ none → w.negotiatedFlag = w.syncAllCustomResources) := by
  have hi := resyncOK_of_reachable hw
  refine ⟨Bool.eq_false_iff.mpr fun h => (by cases (hi.signalled h).symm.trans hch), ?_⟩
  rcases hi.current with h | ⟨p, hp, hpend⟩ | h | ⟨hl, hn | hn⟩
  · cases h.symm.trans hch
  · cases (hset p hp).symm.trans hpend
  · rw [show w.resync.refresher = _ from hr] at h; cases h
  · rw [show w.resync.refresher = _ from hr] at hn; cases hn
  · exact ⟨hl, hn⟩

theorem refresh_loaded_current_pods :
    podsSynced.signalSinceRecv = false ∧ podsSynced.loadedResources = podsSynced.syncResources ∧
      (podsSynced.loadedResources ≠ none →
        podsSynced.negotiatedFlag = podsSynced.syncAllCustomResources) :=
  refresh_loaded_current podsSynced_reachable rfl (by decide) (by decide)

/-- A second `SetResources(nil, false)` call stores its resources and has not yet sent. -/
def storeNil : World :=
  (podsSynced.runActions [.env (.setResources none false), .setter 1]).get (by decide)

theorem resources_stored_unsignalled :
    ¬∀ w, Reachable w → w.refresher = .recv → w.setSyncResourcesCh = false →
      w.signalSinceRecv = false ∧ w.loadedResources = w.syncResources ∧
        w.negotiatedFlag = w.syncAllCustomResources := by
  intro h
  have hw : Reachable storeNil := podsSynced_reachable.steps
    (steps_of_runActions (Option.some_get _).symm)
  exact absurd (h storeNil hw rfl (by decide)).2.1 (by decide)

end Steps

end Clusterpedia

import Clusterpedia.Proof.Registry

/-!
# Shutdown

`Shutdown` closes `closer`, waits for the goroutines started through the wait group,
stores the terminal running condition, signals the status goroutine when asked to,
closes its channel and waits for it to drain.

* The refresher is not one of the goroutines the wait group tracks, and it looks at
  `closer` only at the head of its loop: a run that got past those checks before
  `Shutdown` goes on once `Shutdown` has returned, and creates, launches and registers
  a reconciler (`refresher_creates_after_shutdown`).
* When `Run` stored its running condition before any `Shutdown` call, the last status
  published before a `Shutdown` call returns carries the terminal condition, provided
  the once-block's caller asked for a status update (`terminal_status_published`). A
  `Run` that only starts after the once-block overwrites the terminal condition
  (`shutdown_before_run_overwritten`).
* One call at a time runs the once-block, and neither a `Shutdown` call nor `Run` returns
  before the status goroutine has drained the closed channel and exited
  (`shutdown_returns_after_drain`).
-/

namespace Clusterpedia

/-! ## The refresher outlives `Shutdown` -/

/-- `Run` starts its status goroutine, a `SetResources` call plans `pods`, and the
refresher gets past its `closer` checks and `Merge`. -/
def planPods : List Action :=
  .run .next :: createPods.take 9

/-- `Shutdown(false)` runs to completion: the handler-closer ends the epoch, the runner
and the monitor return, and the status goroutine drains its channel. -/
def shutdownQuietly : List Action :=
  [.env (.shutdown false), .shutdown 0, .handlerCloser, .handlerCloser, .runner .next,
    .runner .next, .runner .quit, .monitor .exit, .shutdown 0, .shutdown 0, .shutdown 0,
    .shutdown 0, .statusLoop, .shutdown 0]

/-- The refresher locks, visits `pods`, calls both constructors, launches the reconciler's
`Run` through the wait group and registers it. -/
def createAfterShutdown : List Action :=
  [.refresher .next, .refresher (.pick pods), .refresher .next, .refresher .next,
    .refresher .next, .refresher .next]

/-- Once `Shutdown` has returned, with the wait group drained, the refresher alone still
creates the storage and the reconciler of `pods`, launches its `Run` through the wait
group and registers it. -/
theorem refresher_creates_after_shutdown :
    ∃ w, Reachable w ∧ (w.shutdowns[0]?.map (·.pc)) = some .returned ∧ w.waitGroup = 0 ∧
      pods ∉ w.storageResourceVersions ∧ pods ∉ w.storageResourceSynchros ∧
      ∃ w', w.runActions createAfterShutdown = some w' ∧ pods ∈ w'.storageResourceVersions ∧
        pods ∈ w'.storageResourceSynchros ∧ w'.waitGroup = 1 := by
  obtain ⟨w, hw, h0, hg, hv, hs, h⟩ := @exists_reachable_of_run (fun w =>
      (w.shutdowns[0]?.map (·.pc)) = some .returned ∧ w.waitGroup = 0 ∧
      pods ∉ w.storageResourceVersions ∧ pods ∉ w.storageResourceSynchros ∧
      (w.runActions createAfterShutdown).any (fun w' => decide (pods ∈ w'.storageResourceVersions ∧
        pods ∈ w'.storageResourceSynchros ∧ w'.waitGroup = 1)) = true) _
    ∅ "" (startupSchedule ++ planPods ++ shutdownQuietly) (by decide)
  refine ⟨w, hw, h0, hg, hv, hs, ?_⟩
  cases hr : w.runActions createAfterShutdown with
  | none => simp [hr] at h
  | some w' => simpa [hr] using h

/-! ## The terminal status -/

/-- The once-block, between `closeOnce.Do` and closing the status channel. -/
def ShutdownPC.inOnce : ShutdownPC → Bool
  | .wait | .storeCondition | .publish | .closeStatusCh => true
  | _ => false

/-- The once-block has stored the terminal condition. -/
def ShutdownPC.stored : ShutdownPC → Bool
  | .publish | .closeStatusCh | .waitClosed | .returned => true
  | _ => false

/-- The once-block has made its optional status signal. -/
def ShutdownPC.signalled : ShutdownPC → Bool
  | .closeStatusCh | .waitClosed | .returned => true
  | _ => false

/-- The status goroutine is inside its `for range` loop. -/
def StatusPC.running : StatusPC → Bool
  | .recv | .gen | .update _ => true
  | _ => false

/-- Where the caller of the once-block is, for each state of `closeOnce`. -/
def OnceState.Holds : OnceState → ShutdownPC → Prop
  | .fresh, _ => False
  | .running, p => p.inOnce = true
  | .done, p => p = .waitClosed ∨ p = .returned

/-- `Run` has not started the status goroutine yet. -/
def RunPC.beforeStatus : RunPC → Bool
  | .notCalled | .startMonitor | .startRunner | .startStatus => true
  | _ => false

/-- A status carrying the terminal running condition. -/
def ClusterStatus.Terminal (st : ClusterStatus) : Prop :=
  st.conditions.head? = some shutdownCondition

/-- What `Run`, the `Shutdown` calls and the status goroutine share. -/
structure Publication where
  run : RunPC
  runningCondition : Condition
  shutdowns : List ShutdownCall
  closeOnce : OnceState
  onceCaller : Option Nat
  updateStatusCh : Bool
  updateStatusChClosed : Bool
  statusLoop : StatusPC
  published : List ClusterStatus
  closed : Bool

/-- The publication part of a world. -/
def World.publication (w : World) : Publication :=
  ⟨w.run, w.runningCondition, w.shutdowns, w.closeOnce, w.onceCaller, w.updateStatusCh,
    w.updateStatusChClosed, w.statusLoop, w.published, w.closed⟩

namespace Publication

variable (v : Publication)

/-- The shutdown invariant: one caller runs the once-block, the status goroutine exits
only on a closed and drained channel, and a `Shutdown` call returns only after it
exited. -/
structure OK : Prop where
  fresh : v.closeOnce = .fresh ↔ v.onceCaller = none
  caller : ∀ i, v.onceCaller = some i →
    ∃ c : ShutdownCall, v.shutdowns[i]? = some c ∧ v.closeOnce.Holds c.pc
  others : ∀ (j : Nat) (c : ShutdownCall), v.shutdowns[j]? = some c → v.onceCaller ≠ some j →
    c.pc = .enter ∨ c.pc = .waitOnce ∨ c.pc = .waitClosed ∨ c.pc = .returned
  notStarted : v.run.beforeStatus = true → v.statusLoop = .notStarted
  chClosed : v.updateStatusChClosed = true → v.closeOnce = .done
  exited : v.statusLoop = .exited → v.updateStatusCh = false ∧ v.updateStatusChClosed = true
  closed : v.closed = true → v.statusLoop = .exited
  returned : ∀ (j : Nat) (c : ShutdownCall), v.shutdowns[j]? = some c → c.pc = .returned → v.closed = true
  runReturned : v.run = .returned → v.closed = true

/-- The terminal status is signalled, being generated, being published, or was published
last. -/
def Delivering : Prop :=
  v.updateStatusCh = true ∨ v.statusLoop = .gen ∨
    (∃ st, v.statusLoop = .update st ∧ st.Terminal) ∨
    ((v.statusLoop = .recv ∨ v.statusLoop = .exited) ∧
      ∃ st, v.published.getLast? = some st ∧ st.Terminal)

/-- Once `Run` stored its running condition: the once-block's caller, past its store, has
left the terminal condition in place, and, past its signal, has it delivered. -/
structure AfterRun : Prop where
  run : v.run ≠ .notCalled
  stored : ∀ (i : Nat) (c : ShutdownCall), v.onceCaller = some i → v.shutdowns[i]? = some c → c.pc.stored = true →
    v.runningCondition = shutdownCondition
  signalled : ∀ (i : Nat) (c : ShutdownCall), v.onceCaller = some i → v.shutdowns[i]? = some c → c.updateStatus = true →
    c.pc.signalled = true → v.Delivering


/-! ### Calls as the list changes -/

theorem getElem?_setCall {l : List ShutdownCall} {i : Nat} {c : ShutdownCall}
    (hc : l[i]? = some c) (p : ShutdownPC) (j : Nat) :
    (l.set i { c with pc := p })[j]? = if i = j then some { c with pc := p } else l[j]? := by
  rw [List.getElem?_set]
  split
  · subst_vars; simp [(List.getElem?_eq_some_iff.mp hc).1]
  · rfl

theorem getElem?_setCall_self {l : List ShutdownCall} {i : Nat} {c : ShutdownCall}
    (hc : l[i]? = some c) (p : ShutdownPC) : (l.set i { c with pc := p })[i]? = some { c with pc := p } := by
  simp [getElem?_setCall hc]

theorem getElem?_appendCall {l : List ShutdownCall} {j : Nat} {c d : ShutdownCall}
    (h : (l ++ [d])[j]? = some c) : l[j]? = some c ∨ c = d := by
  rcases Nat.lt_or_ge j l.length with hj | hj
  · exact .inl ((List.getElem?_append_left hj).symm.trans h)
  · rw [List.getElem?_append_right hj] at h
    obtain ⟨hl, he⟩ := List.getElem?_eq_some_iff.mp h
    simp only [List.length_singleton, Nat.lt_one_iff] at hl
    simp only [hl, List.getElem_singleton] at he
    exact .inr he.symm

variable {v : Publication} {i j : Nat} {c : ShutdownCall}

namespace OK

/-- A call inside the once-block is its caller, and the once-block is running. -/
theorem inOnce (hi : v.OK) (hc : v.shutdowns[j]? = some c) (h : c.pc.inOnce = true) :
    v.onceCaller = some j ∧ v.closeOnce = .running := by
  by_cases hj : v.onceCaller = some j
  · obtain ⟨c', hc', hh⟩ := hi.caller j hj
    obtain rfl := Option.some.inj (hc.symm.trans hc')
    refine ⟨hj, ?_⟩
    revert hh
    cases v.closeOnce with
    | fresh => exact False.elim
    | running => exact fun _ => rfl
    | done => rintro (h' | h') <;> rw [h'] at h <;> cases h
  · rcases hi.others j c hc hj with h' | h' | h' | h' <;> rw [h'] at h <;> cases h

/-- A call the once-block's caller is not stays out of it. -/
theorem not_caller (hi : v.OK) (hc : v.shutdowns[j]? = some c)
    (h : c.pc = .enter ∨ c.pc = .waitOnce) : v.onceCaller ≠ some j := by
  intro hj
  obtain ⟨c', hc', hh⟩ := hi.caller j hj
  obtain rfl := Option.some.inj (hc.symm.trans hc')
  revert hh
  rcases h with h | h <;> cases v.closeOnce <;> simp [h, OnceState.Holds, ShutdownPC.inOnce]

/-- `Run` returns from its `Shutdown(true)` call only once that call returned. -/
theorem closed_of_call (hi : v.OK) {i : Nat} (h : (v.shutdowns[i]?.map (·.pc)) = some .returned) :
    v.closed = true := by
  cases hc : v.shutdowns[i]? with
  | none => rw [hc] at h; cases h
  | some c => rw [hc] at h; exact hi.returned i c hc (Option.some.inj h)

/-- A new call enters. -/
theorem append (hi : v.OK) (b : Bool) :
    ({ v with shutdowns := v.shutdowns ++ [⟨b, .enter⟩] } : Publication).OK :=
  { hi with
    caller := fun k hk => by
      obtain ⟨c', hc', hh⟩ := hi.caller k hk
      exact ⟨c', (List.getElem?_append_left (List.getElem?_eq_some_iff.mp hc').1).trans hc', hh⟩
    others := fun k c' hc' hk => by
      rcases getElem?_appendCall hc' with hc' | rfl
      · exact hi.others k c' hc' hk
      · exact .inl rfl
    returned := fun k c' hc' hr => by
      rcases getElem?_appendCall hc' with hc' | rfl
      · exact hi.returned k c' hc' hr
      · cases hr }

/-- `Run` moves on without starting the status goroutine. -/
theorem setRun (hi : v.OK) (r : RunPC) (hr : r.beforeStatus = true → v.run.beforeStatus = true)
    (hret : r = .returned → v.closed = true) (rc : Condition) :
    ({ v with run := r, runningCondition := rc } : Publication).OK :=
  { hi with
    notStarted := fun h => hi.notStarted (hr h)
    runReturned := hret }

/-- `Run` starts the status goroutine. -/
theorem startStatus (hi : v.OK) (hr : v.run = .startStatus) :
    ({ v with run := .select, statusLoop := .recv } : Publication).OK :=
  { hi with
    notStarted := fun h => by cases h
    exited := fun h => by cases h
    closed := fun h => absurd (hi.closed h) (by rw [hi.notStarted (by rw [hr]; rfl)]; nofun)
    runReturned := fun h => by cases h }

/-- The status goroutine moves between its running states. -/
theorem setLoop (hi : v.OK) {s₀ : StatusPC} (hs : v.statusLoop = s₀) (h₀ : s₀.running = true)
    (s : StatusPC) (hs' : s.running = true) (ch : Bool) (pub : List ClusterStatus) :
    ({ v with statusLoop := s, updateStatusCh := ch, published := pub } : Publication).OK :=
  { hi with
    notStarted := fun h => by rw [hi.notStarted h] at hs; subst hs; cases h₀
    exited := fun h => by subst h; cases hs'
    closed := fun h => by rw [hi.closed h] at hs; subst hs; cases h₀ }

/-- The status goroutine exits on a closed, drained channel. -/
theorem exit (hi : v.OK) (hl : v.statusLoop = .recv) (hch : v.updateStatusCh = false)
    (hcl : v.updateStatusChClosed = true) :
    ({ v with closed := true, statusLoop := .exited } : Publication).OK :=
  { hi with
    notStarted := fun h => absurd (hi.notStarted h) (by rw [hl]; nofun)
    exited := fun _ => ⟨hch, hcl⟩
    closed := fun _ => rfl
    returned := fun _ _ _ _ => rfl
    runReturned := fun _ => rfl }

/-- The first call to reach `closeOnce.Do` runs the once-block. -/
theorem enterFirst (hi : v.OK) (hc : v.shutdowns[i]? = some c) (hf : v.closeOnce = .fresh) :
    ({ v with closeOnce := .running, onceCaller := some i,
              shutdowns := v.shutdowns.set i { c with pc := .wait } } : Publication).OK where
  fresh := by simp
  caller k hk := by
    obtain rfl := Option.some.inj hk
    exact ⟨_, getElem?_setCall_self hc _, rfl⟩
  others k c' hc' hk := by
    rw [getElem?_setCall hc] at hc'
    split at hc'
    · subst_vars; exact absurd rfl hk
    · exact hi.others k c' hc' (by simp [hi.fresh.mp hf])
  notStarted := hi.notStarted
  chClosed h := absurd (hi.chClosed h) (by simp [hf])
  exited := hi.exited
  closed := hi.closed
  returned k c' hc' hr := by
    rw [getElem?_setCall hc] at hc'
    split at hc'
    · cases hc'; cases hr
    · exact hi.returned k c' hc' hr
  runReturned := hi.runReturned

/-- A later call waits for the once-block. -/
theorem enterLater (hi : v.OK) (hc : v.shutdowns[i]? = some c) (hp : c.pc = .enter) :
    ({ v with shutdowns := v.shutdowns.set i { c with pc := .waitOnce } } : Publication).OK :=
  have hn := hi.not_caller hc (.inl hp)
  { hi with
    caller := fun k hk => by
      have hik : i ≠ k := by rintro rfl; exact hn hk
      rw [getElem?_setCall hc, if_neg hik]
      exact hi.caller k hk
    others := fun k c' hc' hk => by
      rw [getElem?_setCall hc] at hc'
      split at hc'
      · cases hc'; exact .inr (.inl rfl)
      · exact hi.others k c' hc' hk
    returned := fun k c' hc' hr => by
      rw [getElem?_setCall hc] at hc'
      split at hc'
      · cases hc'; cases hr
      · exact hi.returned k c' hc' hr }

/-- The once-block's caller moves on inside the once-block, maybe storing the condition or
signalling the status goroutine. -/
theorem advance (hi : v.OK) (hc : v.shutdowns[i]? = some c) (hp : c.pc.inOnce = true)
    (p : ShutdownPC) (hp' : p.inOnce = true) (rc : Condition) (ch : Bool) :
    ({ v with runningCondition := rc, updateStatusCh := ch,
              shutdowns := v.shutdowns.set i { c with pc := p } } : Publication).OK :=
  have ⟨hcall, hrun⟩ := hi.inOnce hc hp
  { hi with
    caller := fun k hk => by
      obtain rfl := Option.some.inj (hcall.symm.trans hk)
      exact ⟨_, getElem?_setCall_self hc _, by simp only [hrun]; exact hp'⟩
    others := fun k c' hc' hk => by
      rw [getElem?_setCall hc] at hc'
      split at hc'
      · subst_vars; exact absurd hcall hk
      · exact hi.others k c' hc' hk
    exited := fun h => absurd (hi.chClosed (hi.exited h).2) (by simp [hrun])
    returned := fun k c' hc' hr => by
      rw [getElem?_setCall hc] at hc'
      split at hc'
      · cases hc'; simp only at hr; rw [hr] at hp'; cases hp'
      · exact hi.returned k c' hc' hr }

/-- The once-block closes the status channel and completes. -/
theorem closeStatusCh (hi : v.OK) (hc : v.shutdowns[i]? = some c) (hp : c.pc = .closeStatusCh) :
    ({ v with updateStatusChClosed := true, closeOnce := .done,
              shutdowns := v.shutdowns.set i { c with pc := .waitClosed } } : Publication).OK :=
  have ⟨hcall, hrun⟩ := hi.inOnce hc (by rw [hp]; rfl)
  { hi with
    fresh := by simp [hcall]
    caller := fun k hk => by
      obtain rfl := Option.some.inj (hcall.symm.trans hk)
      exact ⟨_, getElem?_setCall_self hc _, .inl rfl⟩
    others := fun k c' hc' hk => by
      rw [getElem?_setCall hc] at hc'
      split at hc'
      · subst_vars; exact absurd hcall hk
      · exact hi.others k c' hc' hk
    chClosed := fun _ => rfl
    exited := fun h => absurd (hi.chClosed (hi.exited h).2) (by simp [hrun])
    returned := fun k c' hc' hr => by
      rw [getElem?_setCall hc] at hc'
      split at hc'
      · cases hc'; cases hr
      · exact hi.returned k c' hc' hr }

/-- A waiting call leaves `closeOnce.Do` once the once-block completed. -/
theorem onceDone (hi : v.OK) (hc : v.shutdowns[i]? = some c) (hp : c.pc = .waitOnce) :
    ({ v with shutdowns := v.shutdowns.set i { c with pc := .waitClosed } } : Publication).OK :=
  have hn := hi.not_caller hc (.inr hp)
  { hi with
    caller := fun k hk => by
      have hik : i ≠ k := by rintro rfl; exact hn hk
      rw [getElem?_setCall hc, if_neg hik]
      exact hi.caller k hk
    others := fun k c' hc' hk => by
      rw [getElem?_setCall hc] at hc'
      split at hc'
      · cases hc'; exact .inr (.inr (.inl rfl))
      · exact hi.others k c' hc' hk
    returned := fun k c' hc' hr => by
      rw [getElem?_setCall hc] at hc'
      split at hc'
      · cases hc'; cases hr
      · exact hi.returned k c' hc' hr }

/-- A call returns once `closed` is closed. -/
theorem return_ (hi : v.OK) (hc : v.shutdowns[i]? = some c) (hp : c.pc = .waitClosed)
    (hcl : v.closed = true) :
    ({ v with shutdowns := v.shutdowns.set i { c with pc := .returned } } : Publication).OK :=
  { hi with
    caller := fun k hk => by
      obtain ⟨c', hc', hh⟩ := hi.caller k hk
      rw [getElem?_setCall hc]
      split
      · subst_vars
        obtain rfl := Option.some.inj (hc.symm.trans hc')
        refine ⟨_, rfl, ?_⟩
        revert hh
        cases v.closeOnce <;> simp [OnceState.Holds, hp, ShutdownPC.inOnce]
      · exact ⟨c', hc', hh⟩
    others := fun k c' hc' hk => by
      rw [getElem?_setCall hc] at hc'
      split at hc'
      · cases hc'; exact .inr (.inr (.inr rfl))
      · exact hi.others k c' hc' hk
    returned := fun _ _ _ _ => hcl }

end OK

/-! ### The terminal status after `Run` -/

theorem ShutdownPC.stored_of_signalled {p : ShutdownPC} (h : p.signalled = true) :
    p.stored = true := by
  cases p <;> first | rfl | cases h

/-- The once-block's caller in `v'`, once past its store, was the caller in `v` and had got
as far. -/
def CallerKept (v v' : Publication) : Prop :=
  ∀ (i : Nat) (c : ShutdownCall), v'.onceCaller = some i → v'.shutdowns[i]? = some c →
    c.pc.stored = true → ∃ c₀ : ShutdownCall, v.onceCaller = some i ∧ v.shutdowns[i]? = some c₀ ∧
      c₀.updateStatus = c.updateStatus ∧ c₀.pc.stored = true ∧
      (c.pc.signalled = true → c₀.pc.signalled = true)

variable {v' : Publication}

theorem callerKept_of_eq (h1 : v'.onceCaller = v.onceCaller) (h2 : v'.shutdowns = v.shutdowns) :
    CallerKept v v' := fun _ c hi hc hs => ⟨c, h1 ▸ hi, h2 ▸ hc, rfl, hs, id⟩

theorem callerKept_append {d : ShutdownCall} (hd : d.pc = .enter)
    (h1 : v'.onceCaller = v.onceCaller) (h2 : v'.shutdowns = v.shutdowns ++ [d]) :
    CallerKept v v' := fun i c hi hc hs => by
  rw [h2] at hc
  rcases getElem?_appendCall hc with hc | rfl
  · exact ⟨c, h1 ▸ hi, hc, rfl, hs, id⟩
  · rw [hd] at hs; cases hs

/-- Call `i` moves to `p`; if it is the caller, `p` stores or signals only where `c.pc`
already had. -/
theorem callerKept_setCall (hc : v.shutdowns[i]? = some c) {p : ShutdownPC}
    (h1 : v'.onceCaller = v.onceCaller) (h2 : v'.shutdowns = v.shutdowns.set i { c with pc := p })
    (hp : v.onceCaller = some i → p.stored = true →
      c.pc.stored = true ∧ (p.signalled = true → c.pc.signalled = true)) :
    CallerKept v v' := fun k c' hk hc' hs => by
  rw [h2, getElem?_setCall hc] at hc'
  rw [h1] at hk
  split at hc'
  · subst_vars; cases hc'
    obtain ⟨h3, h4⟩ := hp hk hs
    exact ⟨c, hk, hc, rfl, h3, h4⟩
  · exact ⟨c', hk, hc', rfl, hs, id⟩

/-- A change that keeps the caller where it was, keeps the terminal condition and keeps a
delivery going keeps `AfterRun`. -/
theorem AfterRun.frame (ha : v.AfterRun) (hrun : v'.run ≠ .notCalled) (hcall : CallerKept v v')
    (hrc : v.runningCondition = shutdownCondition → v'.runningCondition = shutdownCondition)
    (hdel : v.runningCondition = shutdownCondition → v.Delivering → v'.Delivering) :
    v'.AfterRun where
  run := hrun
  stored i c hi hc hs := by
    obtain ⟨c₀, hi₀, hc₀, -, hs₀, -⟩ := hcall i c hi hc hs
    exact hrc (ha.stored i c₀ hi₀ hc₀ hs₀)
  signalled i c hi hc hu hs := by
    obtain ⟨c₀, hi₀, hc₀, hu₀, hs₀, hg₀⟩ :=
      hcall i c hi hc (ShutdownPC.stored_of_signalled hs)
    exact hdel (ha.stored i c₀ hi₀ hc₀ hs₀) (ha.signalled i c₀ hi₀ hc₀ (hu₀ ▸ hu) (hg₀ hs))

/-- The first call enters the once-block: it has stored nothing yet. -/
theorem AfterRun.enterFirst (ha : v.AfterRun) (hc : v.shutdowns[i]? = some c) :
    ({ v with closeOnce := .running, onceCaller := some i,
              shutdowns := v.shutdowns.set i { c with pc := .wait } } : Publication).AfterRun :=
  ha.frame ha.run (fun k c' hk hc' hs => by
      obtain rfl := Option.some.inj hk
      rw [getElem?_setCall_self hc] at hc'
      cases hc'; cases hs)
    id (fun _ => id)

/-- The caller stores the terminal condition. -/
theorem AfterRun.store (ha : v.AfterRun) (hc : v.shutdowns[i]? = some c) :
    ({ v with runningCondition := shutdownCondition,
              shutdowns := v.shutdowns.set i { c with pc := .publish } } : Publication).AfterRun where
  run := ha.run
  stored _ _ _ _ _ := rfl
  signalled k c' hk hc' hu hs := by
    rw [getElem?_setCall hc] at hc'
    split at hc'
    · cases hc'; cases hs
    · exact ha.signalled k c' hk hc' hu hs

theorem Delivering.setCh (h : v.Delivering) {ch : Bool} (hch : v.updateStatusCh = true → ch = true) :
    ({ v with updateStatusCh := ch } : Publication).Delivering := by
  rcases h with h | h
  · exact .inl (hch h)
  · exact .inr h

/-- The caller signals the status goroutine when asked to. -/
theorem AfterRun.signal (ha : v.AfterRun) (hc : v.shutdowns[i]? = some c) (hp : c.pc = .publish) :
    ({ v with updateStatusCh := c.updateStatus || v.updateStatusCh,
              shutdowns := v.shutdowns.set i { c with pc := .closeStatusCh } } : Publication).AfterRun where
  run := ha.run
  stored k c' hk hc' hs := by
    rw [getElem?_setCall hc] at hc'
    split at hc'
    · subst_vars; exact ha.stored _ c hk hc (by rw [hp]; rfl)
    · exact ha.stored k c' hk hc' hs
  signalled k c' hk hc' hu hs := by
    rw [getElem?_setCall hc] at hc'
    split at hc'
    · cases hc'; exact .inl (by rw [hu]; rfl)
    · exact (ha.signalled k c' hk hc' hu hs).setCh (fun h => by rw [h, Bool.or_true])

/-- `Run` starts the status goroutine: a delivery not yet begun is a signal in the channel. -/
theorem Delivering.startStatus (h : v.Delivering) (hl : v.statusLoop = .notStarted) :
    v.updateStatusCh = true := by
  rcases h with h | h | ⟨_, h, -⟩ | ⟨h | h, -⟩ <;> first | exact h | (rw [hl] at h; cases h)

/-- It generates the terminal status. -/
theorem Delivering.gen {st : ClusterStatus} (h : v.Delivering) (hst : st.Terminal) :
    ({ v with statusLoop := .update st } : Publication).Delivering := by
  rcases h with h | -
  · exact .inl h
  · exact .inr (.inr (.inl ⟨st, rfl, hst⟩))

/-- It publishes what it generated. -/
theorem Delivering.update {st : ClusterStatus} (h : v.Delivering) (hl : v.statusLoop = .update st) :
    ({ v with published := v.published ++ [st], statusLoop := .recv } : Publication).Delivering := by
  rcases h with h | h | ⟨_, h, ht⟩ | ⟨h | h, -⟩
  · exact .inl h
  · rw [hl] at h; cases h
  · rw [hl] at h; cases h
    exact .inr (.inr (.inr ⟨.inl rfl, st, by simp, ht⟩))
  all_goals rw [hl] at h; cases h

/-- It exits on the closed, drained channel, the terminal status published last. -/
theorem Delivering.exit (h : v.Delivering) (hl : v.statusLoop = .recv) (hch : v.updateStatusCh = false) :
    ({ v with closed := true, statusLoop := .exited } : Publication).Delivering := by
  rcases h with h | h | ⟨_, h, -⟩ | ⟨-, hlast⟩
  · rw [hch] at h; cases h
  · rw [hl] at h; cases h
  · rw [hl] at h; cases h
  · exact .inr (.inr (.inr ⟨.inr rfl, hlast⟩))

end Publication

theorem World.genClusterStatus_terminal {w : World} (h : w.runningCondition = shutdownCondition) :
    w.genClusterStatus.Terminal := by
  simp [ClusterStatus.Terminal, World.genClusterStatus, h]

/-! ## Every step keeps the invariants -/

section Steps

variable {w w' : World}

/-- What one step of `Shutdown` call `i` can do: one constructor per branch of
`shutdownStep`, with the guard that enables it. -/
inductive ShutdownMove (i : Nat) : World → World → Prop
  | enterFirst {w : World} {c : ShutdownCall} : w.shutdowns[i]? = some c → c.pc = .enter →
    w.closeOnce = .fresh → ShutdownMove i w
      ({ w with closeOnce := .running, closer := true, onceCaller := some i }.setShutdown i c .wait)
  | enterLater {w : World} {c : ShutdownCall} : w.shutdowns[i]? = some c → c.pc = .enter →
    w.closeOnce ≠ .fresh → ShutdownMove i w (w.setShutdown i c .waitOnce)
  | wait {w : World} {c : ShutdownCall} : w.shutdowns[i]? = some c → c.pc = .wait →
    w.waitGroup = 0 → ShutdownMove i w (w.setShutdown i c .storeCondition)
  | storeCondition {w : World} {c : ShutdownCall} : w.shutdowns[i]? = some c →
    c.pc = .storeCondition →
    ShutdownMove i w ({ w with runningCondition := shutdownCondition }.setShutdown i c .publish)
  | publish {w : World} {c : ShutdownCall} : w.shutdowns[i]? = some c → c.pc = .publish →
    ShutdownMove i w
      ({ w with updateStatusCh := c.updateStatus || w.updateStatusCh }.setShutdown i c .closeStatusCh)
  | closeStatusCh {w : World} {c : ShutdownCall} : w.shutdowns[i]? = some c →
    c.pc = .closeStatusCh → ShutdownMove i w
      ({ w with updateStatusChClosed := true, closeOnce := .done }.setShutdown i c .waitClosed)
  | onceDone {w : World} {c : ShutdownCall} : w.shutdowns[i]? = some c → c.pc = .waitOnce →
    w.closeOnce = .done → ShutdownMove i w (w.setShutdown i c .waitClosed)
  | returned {w : World} {c : ShutdownCall} : w.shutdowns[i]? = some c → c.pc = .waitClosed →
    w.closed = true → ShutdownMove i w (w.setShutdown i c .returned)

theorem shutdownMove_of_step {i : Nat} (h : w.shutdownStep i = some w') : ShutdownMove i w w' := by
  unfold World.shutdownStep at h
  split at h
  · cases h
  rename_i c hc
  split at h <;> (repeat' split at h) <;> cases h
  · exact .enterFirst hc ‹_› ‹_›
  · exact .enterLater hc ‹_› ‹_›
  · exact .wait hc ‹_› ‹_›
  · exact .storeCondition hc ‹_›
  · simpa [‹c.updateStatus = true›] using ShutdownMove.publish hc ‹_›
  · simpa [‹¬c.updateStatus = true›] using ShutdownMove.publish hc ‹_›
  · exact .closeStatusCh hc ‹_›
  · exact .onceDone hc ‹_› ‹_›
  · exact .returned hc ‹_› ‹_›

/-- What one step of the status goroutine can do. -/
inductive StatusMove : World → World → Prop
  | recv {w : World} : w.statusLoop = .recv → w.updateStatusCh = true →
    StatusMove w { w with updateStatusCh := false, statusLoop := .gen }
  | exit {w : World} : w.statusLoop = .recv → w.updateStatusCh = false →
    w.updateStatusChClosed = true → StatusMove w { w with closed := true, statusLoop := .exited }
  | gen {w : World} : w.statusLoop = .gen →
    StatusMove w { w with statusLoop := .update w.genClusterStatus }
  | update {w : World} {st : ClusterStatus} : w.statusLoop = .update st →
    StatusMove w { w with published := w.published ++ [st], statusLoop := .recv }

theorem statusMove_of_step (h : w.statusStep = some w') : StatusMove w w' := by
  unfold World.statusStep at h
  split at h <;> (repeat' split at h) <;> cases h
  · exact .recv ‹_› ‹_›
  · exact .exit ‹_› (by simpa using ‹¬w.updateStatusCh = true›) ‹_›
  · exact .gen ‹_›
  · exact .update ‹_›

theorem publicationOK_shutdownStep {i : Nat} (hi : w.publication.OK)
    (h : w.shutdownStep i = some w') : w'.publication.OK := by
  cases shutdownMove_of_step h with
  | enterFirst hc _ hf => exact hi.enterFirst hc hf
  | enterLater hc hp _ => exact hi.enterLater hc hp
  | wait hc hp _ => exact hi.advance hc (by rw [hp]; rfl) .storeCondition rfl _ _
  | storeCondition hc hp => exact hi.advance hc (by rw [hp]; rfl) .publish rfl _ _
  | publish hc hp => exact hi.advance hc (by rw [hp]; rfl) .closeStatusCh rfl _ _
  | closeStatusCh hc hp => exact hi.closeStatusCh hc hp
  | onceDone hc hp _ => exact hi.onceDone hc hp
  | returned hc hp hcl => exact hi.return_ hc hp hcl

theorem publicationOK_statusStep (hi : w.publication.OK) (h : w.statusStep = some w') :
    w'.publication.OK := by
  cases statusMove_of_step h with
  | recv hl _ => exact hi.setLoop hl rfl .gen rfl _ _
  | exit hl hch hcl => exact hi.exit hl hch hcl
  | gen hl => exact hi.setLoop hl rfl (.update _) rfl _ _
  | update hl => exact hi.setLoop hl rfl .recv rfl _ _

theorem publicationOK_runStep {c : Choice} (hi : w.publication.OK) (h : w.runStep c = some w') :
    w'.publication.OK := by
  cases runMove_of_step h with
  | storeCondition hr =>
    exact hi.setRun .startMonitor (fun _ => by simp [World.publication, RunPC.beforeStatus, hr])
      nofun _
  | startMonitor hr =>
    exact hi.setRun .startRunner (fun _ => by simp [World.publication, RunPC.beforeStatus, hr])
      nofun _
  | startRunner hr =>
    exact hi.setRun .startStatus (fun _ => by simp [World.publication, RunPC.beforeStatus, hr])
      nofun _
  | startStatus hr => exact hi.startStatus hr
  | closerClosed _ _ => exact hi.setRun .waitClosed nofun nofun _
  | shutdownSignal _ _ => exact (hi.append true).setRun (.shutdown w.shutdowns.length) nofun nofun _
  | closed _ hcl => exact hi.setRun .returned nofun (fun _ => hcl) _
  | shutdownReturned _ hret => exact hi.setRun .returned nofun (fun _ => hi.closed_of_call hret) _

theorem publicationOK_envStep {e : EnvEvent} (hi : w.publication.OK) (h : w.envStep e = some w') :
    w'.publication.OK := by
  unfold World.envStep at h
  split at h <;> (repeat' split at h) <;> cases h <;> first | exact hi | exact hi.append _

theorem publicationOK_step (hi : w.publication.OK) (h : Step w w') : w'.publication.OK := by
  obtain ⟨a, h⟩ := h
  cases a with
  | monitor m => obtain ⟨_, _, _, _, _, _, rfl⟩ := monitorStep_shape h; exact hi
  | runner c => obtain ⟨_, _, _, _, _, _, _, _, rfl⟩ := runnerStep_shape h; exact hi
  | handlerCloser => obtain ⟨_, _, rfl⟩ := handlerCloserStep_shape h; exact hi
  | refresher c =>
    obtain ⟨_, _, _, _, _, _, _, _, _, _, _, _, _, rfl⟩ := refresherStep_shape h; exact hi
  | run c => exact publicationOK_runStep hi h
  | statusLoop => exact publicationOK_statusStep hi h
  | shutdown i => exact publicationOK_shutdownStep hi h
  | setter i => obtain ⟨_, _, _, _, _, rfl⟩ := setterStep_shape h; exact hi
  | env e => exact publicationOK_envStep hi h

theorem publicationOK_new (p v) : (World.new p v).publication.OK where
  fresh := by simp [World.publication, World.new]
  caller _ h := by cases h
  others _ _ h := by cases h
  notStarted _ := rfl
  chClosed h := by cases h
  exited h := by cases h
  closed h := by cases h
  returned _ _ h := by cases h
  runReturned h := by cases h

theorem publicationOK_of_reachable (hw : Reachable w) : w.publication.OK :=
  Reachable.induction publicationOK_new (fun _ _ _ hi hs => publicationOK_step hi hs) hw

/-! ### After `Run` -/

open Publication in
theorem afterRun_shutdownStep {i : Nat} (hi : w.publication.OK) (ha : w.publication.AfterRun)
    (h : w.shutdownStep i = some w') : w'.publication.AfterRun := by
  cases shutdownMove_of_step h with
  | enterFirst hc _ _ => exact ha.enterFirst hc
  | enterLater hc _ _ =>
    exact ha.frame ha.run (callerKept_setCall hc rfl rfl fun _ h => by cases h) id fun _ => id
  | wait hc _ _ =>
    exact ha.frame ha.run (callerKept_setCall hc rfl rfl fun _ h => by cases h) id fun _ => id
  | storeCondition hc _ => exact ha.store hc
  | publish hc hp => exact ha.signal hc hp
  | closeStatusCh hc hp =>
    exact ha.frame ha.run (callerKept_setCall hc rfl rfl fun _ _ => by
      rw [hp]; exact ⟨rfl, fun _ => rfl⟩) id fun _ => id
  | onceDone hc hp _ =>
    exact ha.frame ha.run (callerKept_setCall hc rfl rfl fun h =>
      absurd h (hi.not_caller hc (.inr hp))) id fun _ => id
  | returned hc hp _ =>
    exact ha.frame ha.run (callerKept_setCall hc rfl rfl fun _ _ => by
      rw [hp]; exact ⟨rfl, fun _ => rfl⟩) id fun _ => id

open Publication in
theorem afterRun_statusStep (ha : w.publication.AfterRun) (h : w.statusStep = some w') :
    w'.publication.AfterRun := by
  cases statusMove_of_step h with
  | recv _ _ => exact ha.frame ha.run (callerKept_of_eq rfl rfl) id fun _ _ => .inr (.inl rfl)
  | exit hl hch _ =>
    exact ha.frame ha.run (callerKept_of_eq rfl rfl) id fun _ hd => hd.exit hl hch
  | gen _ =>
    exact ha.frame ha.run (callerKept_of_eq rfl rfl) id fun hrc hd =>
      hd.gen (World.genClusterStatus_terminal hrc)
  | update hl => exact ha.frame ha.run (callerKept_of_eq rfl rfl) id fun _ hd => hd.update hl

open Publication in
theorem afterRun_runStep {c : Choice} (hi : w.publication.OK) (ha : w.publication.AfterRun)
    (h : w.runStep c = some w') : w'.publication.AfterRun := by
  cases runMove_of_step h with
  | storeCondition hr => exact absurd hr ha.run
  | startStatus hr =>
    exact ha.frame nofun (callerKept_of_eq rfl rfl) id (fun _ hd => .inl (hd.startStatus
      (hi.notStarted (by simp [World.publication, RunPC.beforeStatus, hr]))))
  | shutdownSignal _ _ => exact ha.frame nofun (callerKept_append rfl rfl rfl) id (fun _ => id)
  | _ => exact ha.frame nofun (callerKept_of_eq rfl rfl) id (fun _ => id)

open Publication in
theorem afterRun_envStep {e : EnvEvent} (ha : w.publication.AfterRun) (h : w.envStep e = some w') :
    w'.publication.AfterRun := by
  unfold World.envStep at h
  split at h <;> (repeat' split at h) <;> cases h <;>
    first | exact ha | exact ha.frame ha.run (callerKept_append rfl rfl rfl) id (fun _ => id)

theorem afterRun_step (hi : w.publication.OK) (ha : w.publication.AfterRun) (h : Step w w') :
    w'.publication.AfterRun := by
  obtain ⟨a, h⟩ := h
  cases a with
  | monitor m => obtain ⟨_, _, _, _, _, _, rfl⟩ := monitorStep_shape h; exact ha
  | runner c => obtain ⟨_, _, _, _, _, _, _, _, rfl⟩ := runnerStep_shape h; exact ha
  | handlerCloser => obtain ⟨_, _, rfl⟩ := handlerCloserStep_shape h; exact ha
  | refresher c =>
    obtain ⟨_, _, _, _, _, _, _, _, _, _, _, _, _, rfl⟩ := refresherStep_shape h; exact ha
  | run c => exact afterRun_runStep hi ha h
  | statusLoop => exact afterRun_statusStep ha h
  | shutdown i => exact afterRun_shutdownStep hi ha h
  | setter i => obtain ⟨_, _, _, _, _, rfl⟩ := setterStep_shape h; exact ha
  | env e => exact afterRun_envStep ha h

/-- Every world reached from one where `Run` has stored its condition and no `Shutdown`
call has begun keeps `AfterRun`. -/
theorem afterRun_of_steps {w₀ : World} (h₀ : Reachable w₀) (hrun : w₀.run ≠ .notCalled)
    (hsh : w₀.shutdowns = []) (hs : Steps w₀ w) : w.publication.AfterRun := by
  induction hs with
  | refl =>
    refine ⟨hrun, fun _ _ _ hc _ => ?_, fun _ _ _ hc _ _ => ?_⟩ <;>
      simp [World.publication, hsh] at hc
  | tail hs' hst ih => exact afterRun_step (publicationOK_of_reachable (h₀.steps hs')) ih hst

/-- **The terminal status is published last.** From a world where `Run` has stored its
running condition and no `Shutdown` call has begun: once a `Shutdown` call has returned,
if the once-block's caller asked for a status update, the last status published carries
the terminal condition. -/
theorem terminal_status_published {w₀ : World} (h₀ : Reachable w₀) (hrun : w₀.run ≠ .notCalled)
    (hsh : w₀.shutdowns = []) (hs : Steps w₀ w) {i j : Nat} {c d : ShutdownCall}
    (hcaller : w.onceCaller = some i) (hc : w.shutdowns[i]? = some c) (hu : c.updateStatus = true)
    (hd : w.shutdowns[j]? = some d) (hret : d.pc = .returned) :
    ∃ st, w.published.getLast? = some st ∧ st.Terminal := by
  have hi := publicationOK_of_reachable (h₀.steps hs)
  have ha := afterRun_of_steps h₀ hrun hsh hs
  have hexit := hi.closed (hi.returned j d hd hret)
  have ⟨hch, hcl⟩ := hi.exited hexit
  obtain ⟨c', hc', hh⟩ := hi.caller i hcaller
  obtain rfl := Option.some.inj (hc.symm.trans hc')
  rw [hi.chClosed hcl] at hh
  have hsig : c.pc.signalled = true := by rcases hh with h | h <;> rw [h] <;> rfl
  rcases ha.signalled i c hcaller hc hu hsig with h | h | ⟨_, h, -⟩ | ⟨-, hlast⟩
  · rw [hch] at h; cases h
  · rw [hexit] at h; cases h
  · rw [hexit] at h; cases h
  · exact hlast

/-- `Run` has stored its running condition. -/
def runStarted : World :=
  ((World.new ∅ "").runActions [.run .next]).get (by decide)

theorem runStarted_reachable : Reachable runStarted :=
  ⟨∅, "", steps_of_runActions (Option.some_get _).symm⟩

/-- `Run` starts its goroutines, the runner opens its first epoch, and the `shutdown`
channel closes: `Run` calls `Shutdown(true)`, the epoch ends, the monitor and the runner
return, the once-block runs, the status goroutine publishes and exits, and both `Shutdown`
and `Run` return. -/
def shutdownOnSignal : List Action :=
  startupSchedule.tail ++ [.run .next, .env .closeShutdownCh, .run .next, .shutdown 0,
    .handlerCloser, .handlerCloser, .runner .next, .runner .next, .runner .quit, .monitor .exit,
    .shutdown 0, .shutdown 0, .shutdown 0, .shutdown 0, .statusLoop, .statusLoop, .statusLoop,
    .statusLoop, .shutdown 0, .run .next]

def shutdownWorld : World :=
  (runStarted.runActions shutdownOnSignal).get (by decide)

theorem terminal_status_published_on_signal :
    ∃ st, shutdownWorld.published.getLast? = some st ∧ st.Terminal :=
  terminal_status_published runStarted_reachable (by decide) (by decide)
    (steps_of_runActions (Option.some_get _).symm)
    (show shutdownWorld.onceCaller = some 0 by decide)
    (show shutdownWorld.shutdowns[0]? = some ⟨true, .returned⟩ by decide) rfl
    (show shutdownWorld.shutdowns[0]? = some ⟨true, .returned⟩ by decide) rfl

/-- `Shutdown(true)` runs its once-block before `Run` is called; `Run` then stores its
running condition over the terminal one, and its status goroutine publishes that. -/
def overwriteSchedule : List Action :=
  [.env (.shutdown true), .shutdown 0, .shutdown 0, .shutdown 0, .shutdown 0, .shutdown 0,
    .run .next, .run .next, .run .next, .run .next, .statusLoop, .statusLoop, .statusLoop,
    .statusLoop, .shutdown 0]

def overwrittenWorld : World :=
  ((World.new ∅ "").runActions overwriteSchedule).get (by decide)

theorem shutdown_before_run_overwritten :
    ¬∀ w, Reachable w → ∀ (i j : Nat) (c d : ShutdownCall), w.onceCaller = some i →
      w.shutdowns[i]? = some c → c.updateStatus = true → w.shutdowns[j]? = some d →
      d.pc = .returned → ∃ st, w.published.getLast? = some st ∧ st.Terminal := by
  intro h
  obtain ⟨st, hst, ht⟩ := h overwrittenWorld ⟨∅, "", steps_of_runActions (Option.some_get _).symm⟩
    0 0 ⟨true, .returned⟩ ⟨true, .returned⟩ (by decide) (by decide) rfl (by decide) rfl
  have hlast : overwrittenWorld.published.getLast?.map (·.conditions.head?) =
      some (some runningConditionOf) := by decide
  rw [hst, Option.map_some'] at hlast
  exact absurd ((Option.some.inj hlast).symm.trans ht) (by decide)

/-- **`Shutdown` and `Run` return only after the drain.** One call at a time is inside
the once-block; a call returns only once the status goroutine has found the status
channel closed and empty, exited and closed `closed`; and `Run` returns only after
`closed` is closed. -/
theorem shutdown_returns_after_drain (hw : Reachable w) :
    (∀ (i j : Nat) (ci cj : ShutdownCall), w.shutdowns[i]? = some ci →
      w.shutdowns[j]? = some cj → ci.pc.inOnce = true → cj.pc.inOnce = true → i = j) ∧
    (∀ (j : Nat) (c : ShutdownCall), w.shutdowns[j]? = some c → c.pc = .returned →
      w.closed = true ∧ w.statusLoop = .exited ∧ w.updateStatusCh = false ∧
        w.updateStatusChClosed = true) ∧
    (w.run = .returned → w.closed = true ∧ w.statusLoop = .exited) := by
  have hi := publicationOK_of_reachable hw
  refine ⟨fun i j ci cj hci hcj h1 h2 => ?_, fun j c hc hr => ?_, fun hr => ?_⟩
  · exact Option.some.inj ((hi.inOnce hci h1).1.symm.trans (hi.inOnce hcj h2).1)
  · have hcl := hi.returned j c hc hr
    have hex := hi.closed hcl
    exact ⟨hcl, hex, hi.exited hex⟩
  · have hcl := hi.runReturned hr
    exact ⟨hcl, hi.closed hcl⟩

theorem shutdown_returns_after_drain_on_signal :
    (∀ (i j : Nat) (ci cj : ShutdownCall), shutdownWorld.shutdowns[i]? = some ci →
      shutdownWorld.shutdowns[j]? = some cj → ci.pc.inOnce = true → cj.pc.inOnce = true →
        i = j) ∧
    (∀ (j : Nat) (c : ShutdownCall), shutdownWorld.shutdowns[j]? = some c → c.pc = .returned →
      shutdownWorld.closed = true ∧ shutdownWorld.statusLoop = .exited ∧
        shutdownWorld.updateStatusCh = false ∧ shutdownWorld.updateStatusChClosed = true) ∧
    (shutdownWorld.run = .returned → shutdownWorld.closed = true ∧
      shutdownWorld.statusLoop = .exited) :=
  shutdown_returns_after_drain
    (runStarted_reachable.steps (steps_of_runActions (Option.some_get _).symm))

/-! ## Nothing is reported after `Shutdown` returns -/

/-- Once the status goroutine has exited it stays so, and no step publishes a status or
stores a running condition: `Run` is past its store and the status goroutine's start, and
the once-block is done, so no `Shutdown` call reaches its store either. -/
theorem statusFrozen_step (hi : w.publication.OK) (hex : w.statusLoop = .exited)
    (h : Step w w') : w'.statusLoop = .exited ∧ w'.published = w.published ∧
      w'.runningCondition = w.runningCondition := by
  have hstarted : w.run.beforeStatus = false :=
    Bool.eq_false_iff.mpr fun hb => by cases hex.symm.trans (hi.notStarted hb)
  obtain ⟨a, h⟩ := h
  cases a with
  | statusLoop =>
    -- the status goroutine moves only from a position before its exit
    cases statusMove_of_step h <;> cases hex.symm.trans ‹w.statusLoop = _›
  | run c =>
    cases runMove_of_step h
    case storeCondition hr | startStatus hr => simp [hr, RunPC.beforeStatus] at hstarted
    all_goals exact ⟨hex, rfl, rfl⟩
  | shutdown i =>
    cases shutdownMove_of_step h
    case storeCondition c hc hp =>
      by_cases hcall : w.onceCaller = some i
      · obtain ⟨c', hc', hh⟩ := hi.caller i hcall
        cases hc.symm.trans hc'
        have hdone : w.closeOnce = .done := hi.chClosed (hi.exited hex).2
        simp only [World.publication, hdone, hp] at hh
        rcases hh with hh | hh <;> cases hh
      · rcases hi.others i c hc hcall with hp' | hp' | hp' | hp' <;>
          simp only [hp, reduceCtorEq] at hp'
    all_goals exact ⟨hex, rfl, rfl⟩
  | refresher c =>
    obtain ⟨_, _, _, _, _, _, _, _, _, _, _, _, _, rfl⟩ := refresherStep_shape h
    exact ⟨hex, rfl, rfl⟩
  | env e =>
    cases e
    case afterStart => obtain ⟨_, rfl⟩ := envStep_afterStart h; exact ⟨hex, rfl, rfl⟩
    all_goals
      simp only [World.step, World.envStep] at h
      (repeat' split at h) <;> cases h
      exact ⟨hex, rfl, rfl⟩
  | monitor m => obtain ⟨_, _, _, _, _, _, rfl⟩ := monitorStep_shape h; exact ⟨hex, rfl, rfl⟩
  | runner c => obtain ⟨_, _, _, _, _, _, _, _, rfl⟩ := runnerStep_shape h; exact ⟨hex, rfl, rfl⟩
  | handlerCloser => obtain ⟨_, _, rfl⟩ := handlerCloserStep_shape h; exact ⟨hex, rfl, rfl⟩
  | setter i => obtain ⟨_, _, _, _, _, rfl⟩ := setterStep_shape h; exact ⟨hex, rfl, rfl⟩

theorem statusFrozen_of_steps (hw : Reachable w) (hex : w.statusLoop = .exited)
    (hs : Steps w w') : w'.statusLoop = .exited ∧ w'.published = w.published ∧
      w'.runningCondition = w.runningCondition := by
  induction hs with
  | refl => exact ⟨hex, rfl, rfl⟩
  | tail hs' hst ih =>
    obtain ⟨h1, h2, h3⟩ := ih
    obtain ⟨k1, k2, k3⟩ := statusFrozen_step (publicationOK_of_reachable (hw.steps hs')) h1 hst
    exact ⟨k1, k2.trans h2, k3.trans h3⟩

/-- **Nothing is reported after `Shutdown` returns.** Once a `Shutdown` call or `Run` has
returned, no later step of any interleaving calls `UpdateClusterStatus` or stores a running
condition, later `Shutdown` calls included. So the status `terminal_status_published`
finds last stays the last status the cluster ever reports. -/
theorem status_final_after_shutdown (hw : Reachable w)
    (hret : (∃ (j : Nat) (c : ShutdownCall), w.shutdowns[j]? = some c ∧ c.pc = .returned) ∨
      w.run = .returned)
    (hs : Steps w w') : w'.published = w.published ∧ w'.runningCondition = w.runningCondition := by
  have hi := publicationOK_of_reachable hw
  have hcl : w.closed = true := by
    rcases hret with ⟨j, c, hc, hr⟩ | hr
    exacts [hi.returned j c hc hr, hi.runReturned hr]
  exact (statusFrozen_of_steps hw (hi.closed hcl) hs).2

/-- A second `Shutdown(true)` after the first has returned. -/
def shutdownAgain : List Action :=
  [.env (.shutdown true), .shutdown 1, .shutdown 1, .shutdown 1]

def shutdownAgainWorld : World :=
  (shutdownWorld.runActions shutdownAgain).get (by decide)

theorem status_final_after_shutdown_again :
    shutdownAgainWorld.published = shutdownWorld.published ∧
      shutdownAgainWorld.runningCondition = shutdownWorld.runningCondition :=
  status_final_after_shutdown
    (runStarted_reachable.steps (steps_of_runActions (Option.some_get _).symm))
    (.inl ⟨0, ⟨true, .returned⟩, by decide, rfl⟩) (steps_of_runActions (Option.some_get _).symm)

end Steps

end Clusterpedia

import Clusterpedia.Proof.Signals
import Clusterpedia.Proof.Registry

/-!
# Runner epochs and the `Start` goroutines

An epoch is a `handlerStopCh`. The runner opens one under `runnerLock` and, still
under the lock, spawns `Start(handlerStopCh)` for every reconciler its `Range` over
the registry visits; the refresher, under the same lock, spawns `Start` for each
reconciler it registers while an epoch is open. So:

* no pair of reconciler and epoch gets two `Start` goroutines, and each is spawned
  after the reconciler's `Run` was launched; whenever nobody holds `runnerLock`, every
  registered reconciler has been started in the open epoch (`epoch_starts_each_once`);
* a `Start` is spawned only for a reconciler registered at that step
  (`start_spawned_while_registered`). The removal loop awaits `Close` outside the
  lock and deletes the entry after it, so an epoch opened meanwhile starts a reconciler
  whose `Close` was already invoked (`start_after_close`).

The invariant also places `runnerLock`: the runner holds it exactly inside its epoch's
critical section and the refresher exactly inside its creation loop.
-/

namespace Clusterpedia

/-- The runner's positions inside its `runnerLock` critical section. -/
def RunnerPC.holdsLock : RunnerPC → Bool
  | .makeHandler | .spawnCloser | .startDiscovery | .range _ | .unlock => true
  | _ => false

/-- The refresher's positions inside its `runnerLock` critical section. -/
def RefresherPC.holdsLock : RefresherPC → Bool
  | .create .. | .newStorage .. | .newSynchro .. | .launch .. | .store .. | .spawnStart ..
  | .unlock _ => true
  | _ => false

/-- The reconciler the refresher created in its current creation step, from
`NewResourceSynchro` until its `Start` is spawned. -/
def RefresherPC.newIndex : RefresherPC → Option Nat
  | .launch _ _ i _ | .store _ _ i _ | .spawnStart _ i _ => some i
  | _ => none

/-- The reconciler whose `Start` the refresher spawns next. -/
def RefresherPC.spawning : RefresherPC → Option Nat
  | .spawnStart _ i _ => some i
  | _ => none

/-- The part of a world the epochs touch. -/
structure Epochs where
  run : RunPC
  runnerLock : Option LockHolder
  runner : RunnerPC
  refresher : RefresherPC
  handlerStopCh : Option Nat
  chanClosed : Nat → Bool
  nextChan : Nat
  starts : List (Nat × Nat)
  storageResourceSynchros : GoMap GroupVersionResource Nat
  cores : List SynchroCore

/-- The part of a world the epochs touch. -/
def World.epochs (w : World) : Epochs :=
  ⟨w.run, w.runnerLock, w.runner, w.refresher, w.handlerStopCh, w.chanClosed, w.nextChan, w.starts,
    w.storageResourceSynchros, w.synchros.map Synchro.core⟩

namespace Epochs

variable {v : Epochs}

variable (v) in
/-- Reconciler `i`, registered under `g`, is about to be started in the open epoch: the
runner is opening it and has not visited `g` yet, or the refresher has just registered
`i`. -/
def Pending (g : GroupVersionResource) (i : Nat) : Prop :=
  v.runner = .spawnCloser ∨ v.runner = .startDiscovery ∨ (∃ ks, v.runner = .range ks ∧ g ∈ ks) ∨
    v.refresher.spawning = some i

variable (v) in
/-- The epoch invariant. -/
structure OK : Prop where
  /-- `Run` starts the runner. -/
  idle : v.run = .notCalled ∨ v.run = .startMonitor ∨ v.run = .startRunner → v.runner = .notStarted
  lockRunner : v.runnerLock = some .runner ↔ v.runner.holdsLock = true
  lockRefresher : v.runnerLock = some .refresher ↔ v.refresher.holdsLock = true
  nodup : v.starts.Nodup
  launched : ∀ p ∈ v.starts, ∃ c, v.cores[p.1]? = some c ∧ c.runLaunched = true
  chan_lt : ∀ p ∈ v.starts, p.2 < v.nextChan
  injective : ∀ g g' i, v.storageResourceSynchros.lookup g = some i →
    v.storageResourceSynchros.lookup g' = some i → g = g'
  /-- A registered reconciler is started in the open epoch, or about to be. -/
  covered : ∀ g i h, v.storageResourceSynchros.lookup g = some i → v.handlerStopCh = some h →
    v.chanClosed h = false → (i, h) ∈ v.starts ∨ v.Pending g i
  /-- Nothing is started yet in an epoch the runner is opening. -/
  fresh : v.runner = .spawnCloser ∨ v.runner = .startDiscovery →
    ∀ h, v.handlerStopCh = some h → ∀ i, (i, h) ∉ v.starts
  /-- The keys the runner's `Range` has still to visit are not started yet. -/
  ranging : ∀ ks, v.runner = .range ks → ks.Nodup ∧ ∀ h, v.handlerStopCh = some h →
    ∀ g ∈ ks, ∀ i, v.storageResourceSynchros.lookup g = some i → (i, h) ∉ v.starts
  /-- The reconciler the refresher is creating has no `Start` yet. -/
  unstarted : ∀ i, v.refresher.newIndex = some i → ∀ p ∈ v.starts, p.1 ≠ i

theorem OK.run_started (hi : v.OK) (h0 : v.runner ≠ .notStarted) :
    ¬(v.run = .notCalled ∨ v.run = .startMonitor ∨ v.run = .startRunner) :=
  fun h => h0 (hi.idle h)

theorem OK.runner_free (hi : v.OK) (h : v.refresher.holdsLock = true) :
    v.runner.holdsLock = false := by
  have := hi.lockRefresher.mpr h
  rw [← Bool.not_eq_true, ← hi.lockRunner, this]; simp

theorem OK.refresher_free (hi : v.OK) (h : v.runner.holdsLock = true) :
    v.refresher.holdsLock = false := by
  have := hi.lockRunner.mpr h
  rw [← Bool.not_eq_true, ← hi.lockRefresher, this]; simp

theorem OK.lockRunner_of {pc : RunnerPC} (hi : v.OK) (h : pc.holdsLock = v.runner.holdsLock) :
    v.runnerLock = some .runner ↔ pc.holdsLock = true := by
  rw [h]; exact hi.lockRunner

theorem OK.lockRefresher_of {pc : RefresherPC} (hi : v.OK)
    (h : pc.holdsLock = v.refresher.holdsLock) :
    v.runnerLock = some .refresher ↔ pc.holdsLock = true := by
  rw [h]; exact hi.lockRefresher

/-- The refresher spawns no `Start`: a pending reconciler stays pending while the runner
keeps its place. -/
theorem Pending.keep {v' : Epochs} {g i} (h : v.Pending g i) (hs : v.refresher.spawning = none)
    (hr : v'.runner = v.runner) : v'.Pending g i := by
  unfold Pending at h ⊢
  rw [hr]
  rcases h with h | h | h | h
  · exact .inl h
  · exact .inr (.inl h)
  · exact .inr (.inr (.inl h))
  · rw [hs] at h; cases h

/-- Outside its critical section the runner opens no epoch: a pending reconciler is the
one the refresher is about to start. -/
theorem Pending.spawning_of {g i} (h : v.Pending g i) (hl : v.runner.holdsLock = false) :
    v.refresher.spawning = some i := by
  rcases h with h | h | ⟨ks, h, -⟩ | h <;> first | exact h | (rw [h] at hl; cases hl)

/-- With `runnerLock` free, every registered reconciler is started in the open epoch. -/
theorem OK.started (hi : v.OK) (hl : v.runnerLock = none) {g i h}
    (hg : v.storageResourceSynchros.lookup g = some i) (hh : v.handlerStopCh = some h)
    (ho : v.chanClosed h = false) : (i, h) ∈ v.starts := by
  have hrun : v.runner.holdsLock = false := by
    rw [← Bool.not_eq_true, ← hi.lockRunner, hl]; simp
  have href : v.refresher.holdsLock = false := by
    rw [← Bool.not_eq_true, ← hi.lockRefresher, hl]; simp
  refine (hi.covered g i h hg hh ho).resolve_right fun hp => ?_
  have hs := hp.spawning_of hrun
  revert hs href; cases v.refresher <;> simp [RefresherPC.spawning, RefresherPC.holdsLock]

/-! ## Channels closing and allocation -/

theorem OK.grow {cl : Nat → Bool} {n : Nat} (hi : v.OK)
    (hc : ∀ c, cl c = false → v.chanClosed c = false) (hn : v.nextChan ≤ n) :
    ({ v with chanClosed := cl, nextChan := n }).OK where
  __ := hi
  chan_lt p hp := Nat.lt_of_lt_of_le (hi.chan_lt p hp) hn
  covered g i h hg hh ho := hi.covered g i h hg hh (hc h ho)

/-! ## The runner's moves -/

/-- A runner move outside the critical section. -/
theorem OK.setRunner {pc : RunnerPC} (hi : v.OK) (h0 : v.runner ≠ .notStarted)
    (h1 : v.runner.holdsLock = false) (h2 : pc.holdsLock = false) :
    ({ v with runner := pc }).OK where
  __ := hi
  idle h := absurd h (hi.run_started h0)
  lockRunner := hi.lockRunner_of (h2.trans h1.symm)
  covered g i h hg hh ho :=
    (hi.covered g i h hg hh ho).imp id fun hp => .inr (.inr (.inr (hp.spawning_of h1)))
  fresh h := by
    rcases h with h | h <;> simp only at h <;> subst h <;> simp [RunnerPC.holdsLock] at h2
  ranging ks h := by simp only at h; subst h; simp [RunnerPC.holdsLock] at h2

theorem OK.runnerLock (hi : v.OK) (hl : v.runnerLock = none) (hr : v.runner = .lock) :
    ({ v with runnerLock := some .runner, runner := .makeHandler }).OK where
  __ := hi
  idle h := absurd h (hi.run_started (by rw [hr]; simp))
  lockRunner := by simp [RunnerPC.holdsLock]
  lockRefresher := by
    rw [← hi.lockRefresher, hl]; simp
  covered g i h hg hh ho := (hi.covered g i h hg hh ho).imp id fun hp =>
    .inr (.inr (.inr (hp.spawning_of (by rw [hr]; rfl))))
  fresh h := by simp at h
  ranging ks h := by simp at h

theorem OK.makeHandler (hi : v.OK) (hr : v.runner = .makeHandler) :
    ({ v with
      handlerStopCh := some v.nextChan, nextChan := v.nextChan + 1, runner := .spawnCloser }).OK where
  __ := hi
  idle h := absurd h (hi.run_started (by rw [hr]; simp))
  lockRunner := hi.lockRunner_of (by rw [hr]; rfl)
  chan_lt p hp := Nat.lt_succ_of_lt (hi.chan_lt p hp)
  covered _ _ _ _ _ _ := .inr (.inl rfl)
  fresh _ h hh i hs := by
    cases hh
    exact Nat.lt_irrefl _ (hi.chan_lt _ hs)
  ranging ks h := by simp at h

theorem OK.spawnCloser (hi : v.OK) (hr : v.runner = .spawnCloser) :
    ({ v with runner := .startDiscovery }).OK where
  __ := hi
  idle h := absurd h (hi.run_started (by rw [hr]; simp))
  lockRunner := hi.lockRunner_of (by rw [hr]; rfl)
  covered _ _ _ _ _ _ := .inr (.inr (.inl rfl))
  fresh _ := hi.fresh (.inl hr)
  ranging ks h := by simp at h

theorem OK.startDiscovery (hi : v.OK) (hr : v.runner = .startDiscovery) :
    ({ v with runner := .range v.storageResourceSynchros.keys }).OK where
  __ := hi
  idle h := absurd h (hi.run_started (by rw [hr]; simp))
  lockRunner := hi.lockRunner_of (by rw [hr]; rfl)
  covered g _ _ hg _ _ :=
    .inr (.inr (.inr (.inl ⟨_, rfl, AList.mem_keys.mp (mem_of_lookup hg)⟩)))
  fresh h := by simp at h
  ranging ks h := by
    cases h
    exact ⟨AList.keys_nodup _, fun h hh _ _ i _ => hi.fresh (.inr hr) h hh i⟩

/-- The runner's `Range` visits a key it starts nothing for. -/
theorem OK.rangeSkip {ks g} (hi : v.OK) (hr : v.runner = .range ks)
    (hs : v.storageResourceSynchros.lookup g = none ∨ v.handlerStopCh = none) :
    ({ v with runner := .range (ks.erase g) }).OK where
  __ := hi
  idle h := absurd h (hi.run_started (by rw [hr]; simp))
  lockRunner := hi.lockRunner_of (by rw [hr]; rfl)
  covered g' i h hg hh ho := by
    rcases hi.covered g' i h hg hh ho with h | h | h | ⟨ks', h, hk⟩ | h
    · exact .inl h
    · simp [hr] at h
    · simp [hr] at h
    · cases hr.symm.trans h
      refine .inr (.inr (.inr (.inl ⟨_, rfl, (List.mem_erase_of_ne fun he => ?_).mpr hk⟩)))
      subst he
      rcases hs with hs | hs <;> simp_all
    · exact .inr (.inr (.inr (.inr h)))
  fresh h := by simp at h
  ranging ks' h := by
    cases h
    obtain ⟨hn, hk⟩ := hi.ranging ks hr
    exact ⟨hn.erase g, fun h hh g' hg' => hk h hh g' (List.mem_of_mem_erase hg')⟩

/-- The runner's `Range` spawns `Start(h)` for reconciler `i`, registered under `g`. -/
theorem OK.rangeStart {ks g i h} (hi : v.OK) (hr : v.runner = .range ks) (hg : g ∈ ks)
    (hl : v.storageResourceSynchros.lookup g = some i) (hh : v.handlerStopCh = some h)
    (hc : ∃ c, v.cores[i]? = some c ∧ c.runLaunched = true) (hlt : h < v.nextChan) :
    ({ v with starts := v.starts ++ [(i, h)], runner := .range (ks.erase g) }).OK := by
  obtain ⟨hn, hk⟩ := hi.ranging ks hr
  have hnew : (i, h) ∉ v.starts := hk h hh g hg i hl
  have hfree := hi.refresher_free (by rw [hr]; rfl)
  refine
    { hi with
      idle := fun h => absurd h (hi.run_started (by rw [hr]; simp))
      lockRunner := hi.lockRunner_of (by rw [hr]; rfl)
      nodup := List.nodup_append.mpr ⟨hi.nodup, List.nodup_singleton _, by simpa using hnew⟩
      launched := fun p hp => ?_
      chan_lt := fun p hp => ?_
      covered := fun g' i' h' hg' hh' ho => ?_
      fresh := fun h => by simp at h
      ranging := fun ks' h' => ?_
      unstarted := fun j hj p hp => ?_ }
  · rcases List.mem_append.mp hp with hp | hp
    · exact hi.launched p hp
    · rw [List.mem_singleton.mp hp]; exact hc
  · rcases List.mem_append.mp hp with hp | hp
    · exact hi.chan_lt p hp
    · rw [List.mem_singleton.mp hp]; exact hlt
  · rcases hi.covered g' i' h' hg' hh' ho with h | h | h | ⟨ks', h, hk'⟩ | h
    · exact .inl (List.mem_append_left _ h)
    · simp [hr] at h
    · simp [hr] at h
    · cases hr.symm.trans h
      by_cases he : g' = g
      · subst he
        rw [hl, Option.some.injEq] at hg'
        rw [hh, Option.some.injEq] at hh'
        subst hg' hh'
        exact .inl (List.mem_append_right _ (List.mem_singleton_self _))
      · exact .inr (.inr (.inr (.inl ⟨_, rfl, (List.mem_erase_of_ne he).mpr hk'⟩)))
    · exact .inr (.inr (.inr (.inr h)))
  · simp only [RunnerPC.range.injEq] at h'
    subst h'
    refine ⟨hn.erase g, fun h' hh' g' hg' i' hl' hs => ?_⟩
    rw [hh, Option.some.injEq] at hh'
    subst hh'
    have hne : g' ≠ g := fun he => (hn.mem_erase_iff.mp hg').1 he
    rcases List.mem_append.mp hs with hs | hs
    · exact hk h hh g' (List.mem_of_mem_erase hg') i' hl' hs
    · simp only [List.mem_singleton, Prod.mk.injEq, and_true] at hs
      subst hs
      exact hne (hi.injective g' g i' hl' hl)
  · rcases List.mem_append.mp hp with hp | hp
    · exact hi.unstarted j hj p hp
    · have : v.refresher.holdsLock = true := by
        revert hj; cases v.refresher <;> simp [RefresherPC.newIndex, RefresherPC.holdsLock]
      simp [this] at hfree

theorem OK.rangeDone (hi : v.OK) (hr : v.runner = .range []) :
    ({ v with runner := .unlock }).OK where
  __ := hi
  idle h := absurd h (hi.run_started (by rw [hr]; simp))
  lockRunner := hi.lockRunner_of (by rw [hr]; rfl)
  covered g i h hg hh ho := by
    rcases hi.covered g i h hg hh ho with h | h | h | ⟨ks, h, hk⟩ | h
    · exact .inl h
    · simp [hr] at h
    · simp [hr] at h
    · cases hr.symm.trans h; simp at hk
    · exact .inr (.inr (.inr (.inr h)))
  fresh h := by simp at h
  ranging ks h := by simp at h

theorem OK.runnerUnlock (hi : v.OK) (hr : v.runner = .unlock) :
    ({ v with runnerLock := none, runner := .waitHandler }).OK where
  __ := hi
  idle h := absurd h (hi.run_started (by rw [hr]; simp))
  lockRunner := by simp [RunnerPC.holdsLock]
  lockRefresher := by simp [hi.refresher_free (by rw [hr]; rfl)]
  covered g i h hg hh ho := by
    rcases hi.covered g i h hg hh ho with h | h | h | ⟨ks, h, hk⟩ | h
    · exact .inl h
    all_goals first
      | exact .inr (.inr (.inr (.inr h)))
      | simp [hr] at h
  fresh h := by simp at h
  ranging ks h := by simp at h

/-! ## `Run` starting the runner -/

theorem OK.setRun {pc : RunPC} (hi : v.OK)
    (h : pc = .notCalled ∨ pc = .startMonitor ∨ pc = .startRunner →
      v.run = .notCalled ∨ v.run = .startMonitor ∨ v.run = .startRunner) :
    ({ v with run := pc }).OK where
  __ := hi
  idle h' := hi.idle (h h')

theorem OK.runnerStart (hi : v.OK) (hr : v.run = .startRunner) :
    ({ v with run := .startStatus, runner := .readStart }).OK where
  __ := hi
  idle h := by simp at h
  lockRunner := hi.lockRunner_of (by rw [hi.idle (.inr (.inr hr))]; rfl)
  covered g i h hg hh ho := (hi.covered g i h hg hh ho).imp id fun hp =>
    .inr (.inr (.inr (hp.spawning_of (by rw [hi.idle (.inr (.inr hr))]; rfl))))
  fresh h := by simp at h
  ranging ks h := by simp at h

/-! ## The refresher's moves -/

/-- A refresher move that neither takes nor releases the lock, creates nothing and
spawns nothing. -/
theorem OK.setRefresher {pc : RefresherPC} (hi : v.OK)
    (hl : pc.holdsLock = v.refresher.holdsLock) (hn : pc.newIndex = none)
    (hs : v.refresher.spawning = none) : ({ v with refresher := pc }).OK where
  __ := hi
  lockRefresher := hi.lockRefresher_of hl
  covered g i h hg hh ho := (hi.covered g i h hg hh ho).imp id (·.keep hs rfl)
  unstarted i h := by simp only [hn] at h; cases h

theorem OK.refresherLock {r ks} (hi : v.OK) (hl : v.runnerLock = none)
    (hr : v.refresher = .lock r) :
    ({ v with runnerLock := some .refresher, refresher := .create r ks }).OK where
  __ := hi
  lockRunner := by
    have : v.runner.holdsLock = false := by rw [← Bool.not_eq_true, ← hi.lockRunner, hl]; simp
    simp [this]
  lockRefresher := by simp [RefresherPC.holdsLock]
  covered g i h hg hh ho :=
    (hi.covered g i h hg hh ho).imp id (·.keep (by rw [hr]; rfl) rfl)
  unstarted j hj := by simp [RefresherPC.newIndex] at hj

theorem OK.synchroNew {r r' g rvs ks ks'} {c : SynchroCore} (hi : v.OK)
    (hr : v.refresher = .newSynchro r g rvs ks) :
    ({ v with cores := v.cores ++ [c], refresher := .launch r' g v.cores.length ks' }).OK where
  __ := hi
  lockRefresher := hi.lockRefresher_of (by rw [hr]; rfl)
  launched p hp := by
    obtain ⟨c', h1, h2⟩ := hi.launched p hp
    exact ⟨c', (List.getElem?_append_left (List.getElem?_eq_some_iff.mp h1).1).trans h1, h2⟩
  covered g i h hg hh ho :=
    (hi.covered g i h hg hh ho).imp id (·.keep (by rw [hr]; rfl) rfl)
  unstarted i h p hp := by
    simp only [RefresherPC.newIndex, Option.some.injEq] at h
    obtain ⟨c', h1, -⟩ := hi.launched p hp
    exact h ▸ Nat.ne_of_lt (List.getElem?_eq_some_iff.mp h1).1

theorem OK.launch {r g i ks} (hi : v.OK) (hr : v.refresher = .launch r g i ks) :
    ({ v with
      cores := v.cores.modify (fun c => { c with runLaunched := true }) i,
      refresher := .store r g i ks }).OK where
  __ := hi
  lockRefresher := hi.lockRefresher_of (by rw [hr]; rfl)
  launched p hp := by
    rw [List.getElem?_modify_ne _ _ (hi.unstarted i (by rw [hr]; rfl) p hp).symm]
    exact hi.launched p hp
  covered g i h hg hh ho :=
    (hi.covered g i h hg hh ho).imp id (·.keep (by rw [hr]; rfl) rfl)
  unstarted j hj := hi.unstarted j (by rw [hr]; exact hj)

theorem OK.store {r g i ks} (hi : v.OK) (hr : v.refresher = .store r g i ks)
    (hg : g ∉ v.storageResourceSynchros) (hu : ∀ g', v.storageResourceSynchros.lookup g' ≠ some i) :
    ({ v with
      storageResourceSynchros := v.storageResourceSynchros.insert g i,
      refresher := .spawnStart r i ks }).OK := by
  have hnew : ∀ g' j, (v.storageResourceSynchros.insert g i).lookup g' = some j →
      (g' = g ∧ j = i) ∨ (g' ≠ g ∧ v.storageResourceSynchros.lookup g' = some j) := by
    intro g' j h
    by_cases he : g' = g
    · subst he; rw [AList.lookup_insert, Option.some.injEq] at h; exact .inl ⟨rfl, h.symm⟩
    · rw [AList.lookup_insert_ne he] at h; exact .inr ⟨he, h⟩
  have hun := hi.unstarted i (by rw [hr]; rfl)
  refine
    { hi with
      lockRefresher := hi.lockRefresher_of (by rw [hr]; rfl)
      injective := fun g₁ g₂ j h₁ h₂ => ?_
      covered := fun g' j h hg' hh ho => ?_
      ranging := fun ks' h' => ⟨(hi.ranging ks' h').1, fun h hh g' hk j hl => ?_⟩
      unstarted := fun j hj => Option.some.inj hj ▸ hun }
  · rcases hnew g₁ j h₁ with ⟨e₁, f₁⟩ | ⟨-, h₁⟩ <;> rcases hnew g₂ j h₂ with ⟨e₂, f₂⟩ | ⟨-, h₂⟩
    · exact e₁.trans e₂.symm
    · exact absurd (f₁ ▸ h₂) (hu g₂)
    · exact absurd (f₂ ▸ h₁) (hu g₁)
    · exact hi.injective g₁ g₂ j h₁ h₂
  · rcases hnew g' j hg' with ⟨-, rfl⟩ | ⟨-, hg'⟩
    · exact .inr (.inr (.inr (.inr rfl)))
    · exact (hi.covered g' j h hg' hh ho).imp id (·.keep (by rw [hr]; rfl) rfl)
  · rcases hnew g' j hl with ⟨-, rfl⟩ | ⟨-, hl⟩
    · exact fun hs => hun _ hs rfl
    · exact (hi.ranging ks' h').2 h hh g' hk j hl

theorem OK.spawnStartGo {r i ks h} (hi : v.OK) (hr : v.refresher = .spawnStart r i ks)
    (hh : v.handlerStopCh = some h) (hc : ∃ c, v.cores[i]? = some c ∧ c.runLaunched = true)
    (hlt : h < v.nextChan) :
    ({ v with starts := v.starts ++ [(i, h)], refresher := .create r ks }).OK := by
  have hun := hi.unstarted i (by rw [hr]; rfl)
  have hrun := hi.runner_free (by rw [hr]; rfl)
  refine
    { hi with
      lockRefresher := hi.lockRefresher_of (by rw [hr]; rfl)
      nodup := List.nodup_append.mpr ⟨hi.nodup, List.nodup_singleton _,
        by simpa using fun hs => hun _ hs rfl⟩
      launched := fun p hp => ?_
      chan_lt := fun p hp => ?_
      covered := fun g j h' hg hh' ho => ?_
      fresh := fun h' => ?_
      ranging := fun ks' h' => ?_
      unstarted := fun j hj => by simp [RefresherPC.newIndex] at hj }
  · rcases List.mem_append.mp hp with hp | hp
    · exact hi.launched p hp
    · rw [List.mem_singleton.mp hp]; exact hc
  · rcases List.mem_append.mp hp with hp | hp
    · exact hi.chan_lt p hp
    · rw [List.mem_singleton.mp hp]; exact hlt
  · rcases hi.covered g j h' hg hh' ho with h | h | h | h | h
    · exact .inl (List.mem_append_left _ h)
    · exact .inr (.inl h)
    · exact .inr (.inr (.inl h))
    · exact .inr (.inr (.inr (.inl h)))
    · simp only [hr, RefresherPC.spawning, Option.some.injEq] at h
      rw [hh, Option.some.injEq] at hh'
      subst h hh'
      exact .inl (List.mem_append_right _ (List.mem_singleton_self _))
  · rcases h' with h' | h' <;> simp only at h' <;> simp [h', RunnerPC.holdsLock] at hrun
  · simp only at h'; simp [h', RunnerPC.holdsLock] at hrun

theorem OK.spawnStartSkip {r i ks} (hi : v.OK) (hr : v.refresher = .spawnStart r i ks)
    (hs : ∀ h, v.handlerStopCh = some h → v.chanClosed h = true) :
    ({ v with refresher := .create r ks }).OK where
  __ := hi
  lockRefresher := hi.lockRefresher_of (by rw [hr]; rfl)
  covered _ _ h _ hh ho := by rw [hs h hh] at ho; cases ho
  unstarted j hj := by simp [RefresherPC.newIndex] at hj

theorem OK.refresherUnlock {r} (hi : v.OK) (hr : v.refresher = .unlock r) :
    ({ v with runnerLock := none, refresher := .collect r }).OK where
  __ := hi
  lockRunner := by simp [hi.runner_free (by rw [hr]; rfl)]
  lockRefresher := by simp [RefresherPC.holdsLock]
  covered g i h hg hh ho :=
    (hi.covered g i h hg hh ho).imp id (·.keep (by rw [hr]; rfl) rfl)
  unstarted j hj := by simp [RefresherPC.newIndex] at hj

theorem OK.erase {g} (hi : v.OK) :
    ({ v with storageResourceSynchros := v.storageResourceSynchros.erase g }).OK := by
  have hold : ∀ g' j, (v.storageResourceSynchros.erase g).lookup g' = some j →
      v.storageResourceSynchros.lookup g' = some j := by
    intro g' j h
    by_cases he : g' = g
    · subst he; simp [AList.lookup_erase] at h
    · rwa [AList.lookup_erase_ne he] at h
  exact
    { hi with
      injective := fun g₁ g₂ j h₁ h₂ => hi.injective g₁ g₂ j (hold _ _ h₁) (hold _ _ h₂)
      covered := fun g' j h hg hh ho => hi.covered g' j h (hold _ _ hg) hh ho
      ranging := fun ks h => ⟨(hi.ranging ks h).1, fun h' hh g' hk j hl =>
        (hi.ranging ks h).2 h' hh g' hk j (hold _ _ hl)⟩ }

theorem OK.modifyCores (f : SynchroCore → SynchroCore) (hi : v.OK)
    (hf : ∀ c, (f c).runLaunched = c.runLaunched) (i : Nat) :
    ({ v with cores := v.cores.modify f i }).OK where
  __ := hi
  launched p hp := by
    obtain ⟨c, h1, h2⟩ := hi.launched p hp
    by_cases he : i = p.1
    · subst he
      exact ⟨f c, by simp [h1], (hf c).trans h2⟩
    · exact ⟨c, by rwa [List.getElem?_modify_ne _ _ he], h2⟩

end Epochs

/-! ## Every step keeps the invariant -/

section Steps

variable {w w' : World}

theorem World.handlerStart_cases (i : Nat) :
    (∃ h, w.handlerStopCh = some h ∧ w.chanClosed h = false ∧ w.handlerStart i = [(i, h)]) ∨
      ((∀ h, w.handlerStopCh = some h → w.chanClosed h = true) ∧ w.handlerStart i = []) := by
  unfold World.handlerStart
  split
  · split
    · exact .inr ⟨by simp_all, rfl⟩
    · exact .inl ⟨_, ‹_›, Bool.eq_false_iff.mpr ‹_›, rfl⟩
  · exact .inr ⟨by simp_all, rfl⟩

theorem World.rangeStart_cases (g : GroupVersionResource) :
    (∃ i h, w.storageResourceSynchros.lookup g = some i ∧ w.handlerStopCh = some h ∧
      w.rangeStart g = [(i, h)]) ∨
      ((w.storageResourceSynchros.lookup g = none ∨ w.handlerStopCh = none) ∧
        w.rangeStart g = []) := by
  unfold World.rangeStart
  split
  · exact .inl ⟨_, _, ‹_›, ‹_›, rfl⟩
  · refine .inr ⟨?_, rfl⟩
    cases hl : w.storageResourceSynchros.lookup g <;> cases hh : w.handlerStopCh <;> simp_all

theorem epochsOK_refresherMove (hi : w.epochs.OK) (hreg : w.registry.OK) (hsig : w.signals.OK)
    (hm : RefresherMove w w') : w'.epochs.OK := by
  cases hm with
  | lock hr hl => exact hi.refresherLock hl hr
  | synchroNew hr _ =>
    simp only [World.epochs, List.map_append, List.map_singleton]
    rw [← List.length_map _ Synchro.core]
    exact hi.synchroNew hr
  | launch hr =>
    simp only [World.epochs, map_core_launch]
    exact hi.launch hr
  | store hr =>
    have hp := hreg.phase
    simp only [Registry.PhaseOK, World.registry, hr, Registry.Created] at hp
    exact hi.store hr hp.1 hp.2.1
  | @spawnStart r i ks hr =>
    have hp := hreg.phase
    simp only [Registry.PhaseOK, World.registry, hr] at hp
    obtain ⟨g, hg⟩ := hp
    obtain ⟨c, -, hc, -, -, hl⟩ := hreg.tracked g i hg
    rcases w.handlerStart_cases i with ⟨h, hh, -, he⟩ | ⟨hs, he⟩
    · simp only [he]
      exact hi.spawnStartGo hr hh ⟨c, hc, hl⟩ (hsig.handler h hh).1
    · simp only [he, List.append_nil]
      exact hi.spawnStartSkip hr hs
  | unlock hr => exact hi.refresherUnlock hr
  | removeClose hr _ _ =>
    simp only [World.epochs, map_core_closeCalled]
    exact hi.setRefresher (by simp [World.epochs, hr, RefresherPC.holdsLock]) rfl
      (by simp [World.epochs, hr, RefresherPC.spawning])
  | @closeDone r g i ks hr _ =>
    simp only [World.epochs, map_core_closeObserved]
    exact (hi.modifyCores (fun c => { c with closeObserved := true }) (fun _ => rfl) i).setRefresher
      (by simp [World.epochs, hr, RefresherPC.holdsLock]) rfl
      (by simp [World.epochs, hr, RefresherPC.spawning])
  | removed hr =>
    exact hi.erase.setRefresher (by simp [World.epochs, hr, RefresherPC.holdsLock]) rfl
      (by simp [World.epochs, hr, RefresherPC.spawning])
  | _ =>
    exact hi.setRefresher (by simp [World.epochs, ‹w.refresher = _›, RefresherPC.holdsLock]) rfl
      (by simp [World.epochs, ‹w.refresher = _›, RefresherPC.spawning])

theorem epochsOK_runnerStep {c : Choice} (hi : w.epochs.OK) (hreg : w.registry.OK)
    (hsig : w.signals.OK) (h : w.runnerStep c = some w') : w'.epochs.OK := by
  cases runnerMove_of_step h with
  | lock hr hl => exact hi.runnerLock hl hr
  | makeHandler hr => exact hi.makeHandler hr
  | spawnCloser hr => exact hi.spawnCloser hr
  | startDiscovery hr => exact hi.startDiscovery hr
  | @range _ g hr hg =>
    rcases w.rangeStart_cases g with ⟨i, h, hl, hh, he⟩ | ⟨hs, he⟩
    · simp only [he]
      obtain ⟨c, -, hc, -, -, hlc⟩ := hreg.tracked g i hl
      exact hi.rangeStart hr hg hl hh ⟨c, hc, hlc⟩ (hsig.handler h hh).1
    · simp only [he, List.append_nil]
      exact hi.rangeSkip hr hs
  | rangeDone hr => exact hi.rangeDone hr
  | unlock hr => exact hi.runnerUnlock hr
  | _ =>
    exact hi.setRunner (by simp [World.epochs, ‹w.runner = _›])
      (by simp [World.epochs, ‹w.runner = _›, RunnerPC.holdsLock]) rfl

theorem epochsOK_monitorStep {m : MonitorMove} (hi : w.epochs.OK)
    (h : w.monitorStep m = some w') : w'.epochs.OK := by
  unfold World.monitorStep at h
  split at h <;> (repeat' split at h) <;> cases h <;>
    (try simp only [World.startRunner₁_eq, World.stopRunner₁_eq, World.startRunner₂_eq,
      World.stopRunner₂_eq])
  · exact hi.grow (fun _ h => h) (by dsimp only [World.epochs]; split <;> omega)
  · exact hi.grow (fun _ h => h) (by dsimp only [World.epochs]; split <;> omega)
  · exact hi.grow (fun _ h => (Bool.or_eq_false_iff.mp h).2) le_rfl
  · exact hi.grow (fun _ h => (Bool.or_eq_false_iff.mp h).2) le_rfl
  · exact hi

theorem epochsOK_handlerCloserStep (hi : w.epochs.OK) (h : w.handlerCloserStep = some w') :
    w'.epochs.OK := by
  unfold World.handlerCloserStep at h
  split at h <;> (repeat' split at h) <;> cases h
  · exact hi
  · exact hi.grow (fun _ h => (Bool.or_eq_false_iff.mp h).2) le_rfl

theorem epochsOK_runStep {c : Choice} (hi : w.epochs.OK) (h : w.runStep c = some w') :
    w'.epochs.OK := by
  cases runMove_of_step h with
  | storeCondition hr => exact hi.setRun fun _ => .inl hr
  | startMonitor hr => exact hi.setRun fun _ => .inr (.inl hr)
  | startRunner hr => exact hi.runnerStart hr
  | _ => exact hi.setRun (by simp)

theorem epochsOK_envStep {e : EnvEvent} (hi : w.epochs.OK) (h : w.envStep e = some w') :
    w'.epochs.OK := by
  cases e
  case afterStart =>
    obtain ⟨hr, rfl⟩ := envStep_afterStart h
    exact hi.setRefresher (by simp [World.epochs, hr, RefresherPC.holdsLock]) rfl
      (by simp [World.epochs, hr, RefresherPC.spawning])
  all_goals
    simp only [World.envStep] at h
    (repeat' split at h) <;> cases h
    first
    | exact hi
    | (simp only [World.epochs] at hi ⊢; convert hi using 2;
        exact map_core_set (by assumption) (by rfl))

theorem epochsOK_step (hi : w.epochs.OK) (hreg : w.registry.OK) (hsig : w.signals.OK)
    (h : Step w w') : w'.epochs.OK := by
  obtain ⟨a, h⟩ := h
  cases a with
  | refresher c => exact epochsOK_refresherMove hi hreg hsig (refresherMove_of_step h)
  | runner c => exact epochsOK_runnerStep hi hreg hsig h
  | monitor m => exact epochsOK_monitorStep hi h
  | handlerCloser => exact epochsOK_handlerCloserStep hi h
  | run c => exact epochsOK_runStep hi h
  | env e => exact epochsOK_envStep hi h
  | statusLoop => obtain ⟨_, _, _, _, rfl⟩ := statusStep_shape h; exact hi
  | shutdown i => obtain ⟨_, _, _, _, _, _, _, rfl⟩ := shutdownStep_shape h; exact hi
  | setter i => obtain ⟨_, _, _, _, _, rfl⟩ := setterStep_shape h; exact hi

theorem epochsOK_new (p v) : (World.new p v).epochs.OK where
  idle _ := rfl
  lockRunner := by simp [World.new, World.epochs, RunnerPC.holdsLock]
  lockRefresher := by simp [World.new, World.epochs, RefresherPC.holdsLock]
  nodup := List.nodup_nil
  launched _ h := by simp [World.new, World.epochs] at h
  chan_lt _ h := by simp [World.new, World.epochs] at h
  injective _ _ _ h := by simp [World.new, World.epochs] at h
  covered _ _ _ _ h := by simp [World.new, World.epochs] at h
  fresh h := by simp [World.new, World.epochs] at h
  ranging _ h := by simp [World.new, World.epochs] at h
  unstarted _ h := by simp [World.new, World.epochs, RefresherPC.newIndex] at h

theorem epochsOK_of_reachable (hw : Reachable w) : w.epochs.OK :=
  Reachable.induction epochsOK_new (fun _ _ hr hi hs =>
    epochsOK_step hi (registryOK_of_reachable hr) (signalsOK_of_reachable hr) hs) hw

/-- **Every epoch starts every reconciler once.** No reconciler gets two `Start`
goroutines for one `handlerStopCh`; each was spawned after the reconciler's `Run` was
launched; and whenever no goroutine holds `runnerLock` and the current
`handlerStopCh` is open, every registered reconciler has been started with it. -/
theorem epoch_starts_each_once (hw : Reachable w) :
    w.starts.Nodup ∧
    (∀ p ∈ w.starts, ∃ s, w.synchros[p.1]? = some s ∧ s.runLaunched = true) ∧
    (w.runnerLock = none → ∀ h, w.handlerStopCh = some h → w.chanClosed h = false →
      ∀ g i, w.storageResourceSynchros.lookup g = some i → (i, h) ∈ w.starts) := by
  have hi := epochsOK_of_reachable hw
  refine ⟨hi.nodup, fun p hp => ?_, fun hl h hh ho g i hg => hi.started hl hg hh ho⟩
  obtain ⟨c, hc, hl⟩ := hi.launched p hp
  obtain ⟨s, hs, rfl⟩ := core_of_getElem? hc
  exact ⟨s, hs, hl⟩

theorem epoch_starts_each_once_pods :
    podsSynced.starts.Nodup ∧ (∃ s, podsSynced.synchros[0]? = some s ∧ s.runLaunched = true) ∧
      (0, 2) ∈ podsSynced.starts :=
  have h := epoch_starts_each_once podsSynced_reachable
  ⟨h.1, h.2.1 (0, 2) (by decide), h.2.2 rfl 2 rfl rfl pods 0 rfl⟩

/-- A health flap: `stopRunner` ends the epoch, `startRunner` lets the runner open the
next one, up to its registry `Range`. -/
def flap : List Action :=
  [.monitor (.call .stopRunner), .monitor .finish, .handlerCloser, .handlerCloser, .runner .next,
    .monitor (.call .startRunner), .monitor .finish, .runner .next, .runner .next, .runner .next,
    .runner .next, .runner .next, .runner .next, .runner .next, .runner .next]

/-- The world after a flap while the refresher awaits the `Close` of `pods`: the runner's
`Range` is about to visit it. -/
def flapWorld : World :=
  ((World.new ∅ "").runActions (startupSchedule ++ createPods ++ finishFirst ++ dropPods ++ flap)).get
    (by decide)

theorem flapWorld_reachable : Reachable flapWorld :=
  ⟨∅, "", steps_of_runActions (Option.some_get _).symm⟩

/-- The step of the runner that visits `pods` in `flapWorld`. -/
def flapStart : World := (flapWorld.runnerStep (.pick pods)).get (by decide)

theorem flapStart_step : Step flapWorld flapStart :=
  ⟨.runner (.pick pods), (Option.some_get _).symm⟩

/-- **`Start` only while registered.** Every `Start` goroutine a step spawns is for a
reconciler registered in `storageResourceSynchros` at that step. -/
theorem start_spawned_while_registered (hw : Reachable w) :
    ∀ w', Step w w' → ∀ p ∈ w'.starts, p ∉ w.starts →
      ∃ g, w.storageResourceSynchros.lookup g = some p.1 := by
  have hreg := registryOK_of_reachable hw
  rintro w' ⟨a, h⟩ p hp hn
  cases a with
  | runner c =>
    cases runnerMove_of_step h with
    | @range _ g _ _ =>
      rcases w.rangeStart_cases g with ⟨i, h, hl, -, he⟩ | ⟨-, he⟩
      · simp only [he, List.mem_append, List.mem_singleton] at hp
        rcases hp with hp | rfl
        · exact absurd hp hn
        · exact ⟨g, hl⟩
      · simp only [he, List.append_nil] at hp; exact absurd hp hn
    | _ => exact absurd hp hn
  | refresher c =>
    cases refresherMove_of_step h with
    | @spawnStart r i ks hr =>
      have hg := hreg.phase
      simp only [Registry.PhaseOK, World.registry, hr] at hg
      rcases w.handlerStart_cases i with ⟨h, -, -, he⟩ | ⟨-, he⟩
      · simp only [he, List.mem_append, List.mem_singleton] at hp
        rcases hp with hp | rfl
        · exact absurd hp hn
        · exact hg
      · simp only [he, List.append_nil] at hp; exact absurd hp hn
    | _ => exact absurd hp hn
  | monitor m => obtain ⟨_, _, _, _, _, _, rfl⟩ := monitorStep_shape h; exact absurd hp hn
  | handlerCloser => obtain ⟨_, _, rfl⟩ := handlerCloserStep_shape h; exact absurd hp hn
  | run c => obtain ⟨_, _, _, _, _, _, _, rfl⟩ := runStep_shape h; exact absurd hp hn
  | env e => obtain ⟨_, _, _, _, _, _, rfl⟩ := envStep_shape h; exact absurd hp hn
  | statusLoop => obtain ⟨_, _, _, _, rfl⟩ := statusStep_shape h; exact absurd hp hn
  | shutdown i => obtain ⟨_, _, _, _, _, _, _, rfl⟩ := shutdownStep_shape h; exact absurd hp hn
  | setter i => obtain ⟨_, _, _, _, _, rfl⟩ := setterStep_shape h; exact absurd hp hn

theorem start_spawned_while_registered_flap :
    ∃ g, flapWorld.storageResourceSynchros.lookup g = some 0 :=
  start_spawned_while_registered flapWorld_reachable flapStart flapStart_step (0, 5) (by decide)
    (by decide)

/-- An epoch opened while the refresher awaits a reconciler's `Close` starts that
reconciler again. -/
theorem start_after_close :
    ¬∀ w, Reachable w → ∀ w', Step w w' → ∀ p ∈ w'.starts, p ∉ w.starts →
      ∀ s, w.synchros[p.1]? = some s → s.closeCalled = false := fun h =>
  absurd (h flapWorld flapWorld_reachable flapStart flapStart_step (0, 5) (by decide) (by decide)
    _ (Option.some_get (by decide)).symm) (by decide)

end Steps

end Clusterpedia

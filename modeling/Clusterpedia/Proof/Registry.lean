import Clusterpedia.Proof.Frame

/-!
# The registry and the watermark maps

Only the refresher writes `storageResourceSynchros` and `storageResourceVersions`,
and it keeps them consistent with the reconcilers it created:

* every watermark entry has both maps, every registered reconciler was launched and
  holds the maps of its storage resource's entry, and that entry stays in place while
  the resource is registered (`watermarks_tracked`);
* a reconciler whose `Close` completion the refresher has not observed is the one
  registered for its storage resource, except between `NewResourceSynchro` and the
  registry `Store`; so there is at most one per resource, and none while the resource
  is cleaned (`live_reconciler_registered`).

Each reconciler also goes through its life in order (`Synchro.Lifecycle`): its `Close`
channel closes only once `Close` was called and its `Run` has returned, and the refresher
sees it closed only after that. So while a resource is cleaned every reconciler it had
has stopped.

The invariant lives on the registry part of the world (`Registry`). The other
goroutines leave it alone: the reconcilers' own events change only their run state
and reported status.
-/

namespace Clusterpedia

/-- What the registry bookkeeping knows of a reconciler. -/
structure SynchroCore where
  storageGVR : GroupVersionResource
  resourceVersions : Option Nat
  eventVersions : Option (Option Nat)
  runLaunched : Bool
  closeObserved : Bool

/-- The bookkeeping part of a reconciler. -/
def Synchro.core (s : Synchro) : SynchroCore :=
  ⟨s.storageGVR, s.resourceVersions, s.eventVersions, s.runLaunched, s.closeObserved⟩

/-- Reconciler `c` is for storage resource `g` and holds the maps of watermark entry
`rvs`. -/
def SynchroCore.Tracks (c : SynchroCore) (g : GroupVersionResource)
    (rvs : ClusterResourceVersions) : Prop :=
  c.storageGVR = g ∧ c.resourceVersions = rvs.resources ∧
    ∀ ev, c.eventVersions = some ev → ev = rvs.events

/-- The reconciler the refresher created and has not yet stored in the registry, with
its storage resource: between `NewResourceSynchro` and `Store`. -/
def RefresherPC.creating : RefresherPC → Option (GroupVersionResource × Nat)
  | .launch _ g i _ => some (g, i)
  | .store _ g i _ => some (g, i)
  | _ => none

/-- The registry part of a world. -/
structure Registry where
  refresher : RefresherPC
  storageResourceSynchros : GoMap GroupVersionResource Nat
  storageResourceVersions : GoMap GroupVersionResource ClusterResourceVersions
  cores : List SynchroCore

/-- The registry part of a world. -/
def World.registry (w : World) : Registry :=
  ⟨w.refresher, w.storageResourceSynchros, w.storageResourceVersions,
    w.synchros.map Synchro.core⟩

/-! ## Reconcilers as the bookkeeping sees them -/

theorem map_core_modify {f : Synchro → Synchro} {g : SynchroCore → SynchroCore}
    (h : ∀ s, (f s).core = g s.core) (i : Nat) (l : List Synchro) :
    (l.modify f i).map Synchro.core = (l.map Synchro.core).modify g i := by
  ext1 j
  simp only [List.getElem?_map, List.getElem?_modify]
  cases l[j]? <;> simp only [Option.map_none', Option.map_some', Option.map_eq_map]
  split <;> simp [h]

theorem map_core_launch (i : Nat) (l : List Synchro) :
    (l.modify (fun s => { s with runLaunched := true, running := true }) i).map Synchro.core =
      (l.map Synchro.core).modify (fun c => { c with runLaunched := true }) i :=
  map_core_modify (fun _ => rfl) i l

theorem map_core_closeCalled (i : Nat) (l : List Synchro) :
    (l.modify (fun s => { s with closeCalled := true }) i).map Synchro.core =
      l.map Synchro.core := by
  rw [@map_core_modify (fun s => { s with closeCalled := true }) id (fun _ => rfl) i l,
    List.modify_id]

theorem map_core_closeObserved (i : Nat) (l : List Synchro) :
    (l.modify (fun s => { s with closeObserved := true }) i).map Synchro.core =
      (l.map Synchro.core).modify (fun c => { c with closeObserved := true }) i :=
  map_core_modify (fun _ => rfl) i l

theorem map_core_set {l : List Synchro} {i : Nat} {s s' : Synchro} (h : l[i]? = some s)
    (hc : s'.core = s.core) : (l.set i s').map Synchro.core = l.map Synchro.core := by
  ext1 j
  simp only [List.getElem?_map, List.getElem?_set]
  split
  · subst_vars; simp [List.getElem?_eq_some_iff.mp h |>.1, h, hc]
  · rfl

theorem mem_of_lookup {β : Type} {s : GoMap GroupVersionResource β} {g b}
    (h : s.lookup g = some b) : g ∈ s :=
  AList.lookup_isSome.mp (by simp [h])

namespace Registry

variable {v : Registry}

/-! ## The invariant -/

variable (v) in
/-- Every key still registered is planned, or still to be visited by the removal loop. -/
def Covered (r : Refresh) (ks : List GroupVersionResource) : Prop :=
  ∀ g ∈ v.storageResourceSynchros, g ∈ r.configs ∨ g ∈ ks

variable (v) in
/-- Reconciler `i` was just created for the unregistered resource `g`, with the maps of
its watermark entry. -/
def Created (g : GroupVersionResource) (i : Nat) (launched : Bool) : Prop :=
  g ∉ v.storageResourceSynchros ∧ (∀ g', v.storageResourceSynchros.lookup g' ≠ some i) ∧
    ∃ c rvs, v.cores[i]? = some c ∧ v.storageResourceVersions.lookup g = some rvs ∧
      c.Tracks g rvs ∧ c.runLaunched = launched ∧ c.closeObserved = false

variable (v) in
/-- What the refresher's position says about the registry. -/
def PhaseOK : Prop :=
  match v.refresher with
  | .newStorage _ g _ => g ∉ v.storageResourceSynchros
  | .newSynchro _ g rvs _ =>
    g ∉ v.storageResourceSynchros ∧ v.storageResourceVersions.lookup g = some rvs
  | .launch _ g i _ => v.Created g i false
  | .store _ g i _ => v.Created g i true
  | .spawnStart _ i _ => ∃ g, v.storageResourceSynchros.lookup g = some i
  | .remove r ks => v.Covered r ks
  | .closeWait r g i ks => v.storageResourceSynchros.lookup g = some i ∧ v.Covered r (g :: ks)
  | .removed r g ks =>
    (∃ i c, v.storageResourceSynchros.lookup g = some i ∧ v.cores[i]? = some c ∧
      c.closeObserved = true) ∧ v.Covered r (g :: ks)
  | .clean r _ => v.Covered r []
  | .cleanCall r g _ => v.Covered r [] ∧ g ∉ r.configs
  | _ => True

variable (v) in
/-- The registry invariant. -/
structure OK : Prop where
  filled : ∀ g rvs, v.storageResourceVersions.lookup g = some rvs →
    rvs.resources.isSome ∧ rvs.events.isSome
  tracked : ∀ g i, v.storageResourceSynchros.lookup g = some i →
    ∃ c rvs, v.cores[i]? = some c ∧ v.storageResourceVersions.lookup g = some rvs ∧
      c.Tracks g rvs ∧ c.runLaunched = true
  /-- A reconciler not observed closed is registered, or being created. -/
  live : ∀ i c, v.cores[i]? = some c → c.closeObserved = false →
    v.storageResourceSynchros.lookup c.storageGVR = some i ∨
      v.refresher.creating = some (c.storageGVR, i)
  phase : v.PhaseOK

theorem OK.registered (hi : v.OK) (hc : v.refresher.creating = none) {i c}
    (h1 : v.cores[i]? = some c) (h2 : c.closeObserved = false) :
    v.storageResourceSynchros.lookup c.storageGVR = some i :=
  (hi.live i c h1 h2).resolve_right (by simp [hc])

theorem OK.lt_of_lookup (hi : v.OK) {g i} (h : v.storageResourceSynchros.lookup g = some i) :
    i < v.cores.length := by
  obtain ⟨c, -, hc, -⟩ := hi.tracked g i h
  exact (List.getElem?_eq_some_iff.mp hc).1

theorem OK.not_mem_of_creating (hi : v.OK) {g i}
    (h : v.refresher.creating = some (g, i)) : g ∉ v.storageResourceSynchros := by
  have hp := hi.phase
  unfold PhaseOK at hp
  cases hr : v.refresher <;> simp [hr, RefresherPC.creating] at h hp
  all_goals exact h.1 ▸ hp.1

/-! ## The refresher's moves -/

/-- A move that changes only the refresher's position, away from a creation. -/
theorem OK.setRefresher {pc : RefresherPC} (hi : v.OK) (hc : v.refresher.creating = none)
    (hp : ({ v with refresher := pc }).PhaseOK) : ({ v with refresher := pc }).OK where
  filled := hi.filled
  tracked := hi.tracked
  live _ _ h1 h2 := .inl (hi.registered hc h1 h2)
  phase := hp

theorem OK.storageNew {r r' g ks ks' n} (hi : v.OK) (hr : v.refresher = .newStorage r g ks) :
    ({ v with
      storageResourceVersions := v.storageResourceVersions.insert g ⟨some n, some (n + 1)⟩,
      refresher := .newSynchro r' g ⟨some n, some (n + 1)⟩ ks' }).OK := by
  have hg := hi.phase
  simp only [PhaseOK, hr] at hg
  have hne : ∀ g' i, v.storageResourceSynchros.lookup g' = some i → g' ≠ g :=
    fun g' i h he => hg (he ▸ mem_of_lookup h)
  refine ⟨fun g' rvs h => ?_, fun g' i h => ?_, fun i c h1 h2 => .inl (hi.registered ?_ h1 h2),
    hg, AList.lookup_insert _⟩
  · by_cases he : g' = g
    · subst he; simp only [AList.lookup_insert, Option.some.injEq] at h; subst h; simp
    · exact hi.filled g' rvs (by rwa [AList.lookup_insert_ne he] at h)
  · simpa only [AList.lookup_insert_ne (hne g' i h)] using hi.tracked g' i h
  · simp [hr, RefresherPC.creating]

theorem OK.synchroNew {r r' g rvs ks ks'} {c : SynchroCore} (hi : v.OK)
    (hr : v.refresher = .newSynchro r g rvs ks) (hc : c.Tracks g rvs)
    (hl : c.runLaunched = false) (ho : c.closeObserved = false) :
    ({ v with cores := v.cores ++ [c], refresher := .launch r' g v.cores.length ks' }).OK := by
  have hp := hi.phase
  simp only [PhaseOK, hr] at hp
  have hold : ∀ {i c'}, v.cores[i]? = some c' → (v.cores ++ [c])[i]? = some c' := fun h =>
    (List.getElem?_append_left (List.getElem?_eq_some_iff.mp h).1).trans h
  refine ⟨hi.filled, fun g' i h => ?_, fun i c' h1 h2 => ?_, ?_⟩
  · obtain ⟨c', rvs', h1, h2⟩ := hi.tracked g' i h
    exact ⟨c', rvs', hold h1, h2⟩
  · by_cases hi' : i < v.cores.length
    · rw [List.getElem?_append_left hi'] at h1
      exact .inl (hi.registered (by simp [hr, RefresherPC.creating]) h1 h2)
    · have he : i = v.cores.length := by
        have := (List.getElem?_eq_some_iff.mp h1).1
        simp only [List.length_append, List.length_singleton] at this; omega
      subst he
      simp only [List.getElem?_concat_length, Option.some.injEq] at h1
      subst h1
      exact .inr (by simp [RefresherPC.creating, hc.1])
  · refine ⟨hp.1, fun g' h => absurd (hi.lt_of_lookup h) (Nat.lt_irrefl _),
      c, rvs, List.getElem?_concat_length _ _, hp.2, hc, hl, ho⟩

theorem OK.launch {r g i ks} (hi : v.OK) (hr : v.refresher = .launch r g i ks) :
    ({ v with
      cores := v.cores.modify (fun c => { c with runLaunched := true }) i,
      refresher := .store r g i ks }).OK := by
  have hp := hi.phase
  simp only [PhaseOK, hr, Created] at hp
  obtain ⟨hg, hu, c, rvs, hc, hv, ht, -, ho⟩ := hp
  refine ⟨hi.filled, fun g' j h => ?_, fun j c' h1 h2 => ?_,
    ⟨hg, hu, { c with runLaunched := true }, rvs, by simp [hc], hv, ht, rfl, ho⟩⟩
  · have hj : i ≠ j := fun he => hu g' (he ▸ h)
    simpa only [List.getElem?_modify_ne _ _ hj] using hi.tracked g' j h
  · by_cases hj : i = j
    · subst hj
      simp only [List.getElem?_modify_eq, hc, Option.map_eq_map, Option.map_some',
        Option.some.injEq] at h1
      subst h1
      exact .inr (by simp [RefresherPC.creating, ht.1])
    · rw [List.getElem?_modify_ne _ _ hj] at h1
      rcases hi.live j c' h1 h2 with h | h
      · exact .inl h
      · simp only [hr, RefresherPC.creating, Option.some.injEq, Prod.mk.injEq] at h
        exact absurd h.2 hj

theorem OK.store {r g i ks} (hi : v.OK) (hr : v.refresher = .store r g i ks) :
    ({ v with
      storageResourceSynchros := v.storageResourceSynchros.insert g i,
      refresher := .spawnStart r i ks }).OK := by
  have hp := hi.phase
  simp only [PhaseOK, hr, Created] at hp
  obtain ⟨hg, -, c, rvs, hc, hv, ht, hl, -⟩ := hp
  have hne : ∀ g' j, v.storageResourceSynchros.lookup g' = some j → g' ≠ g :=
    fun g' j h he => hg (he ▸ mem_of_lookup h)
  refine ⟨hi.filled, fun g' j h => ?_, fun j c' h1 h2 => ?_, ⟨g, AList.lookup_insert _⟩⟩
  · by_cases he : g' = g
    · subst he
      simp only [AList.lookup_insert, Option.some.injEq] at h
      exact h ▸ ⟨c, rvs, hc, hv, ht, hl⟩
    · rw [AList.lookup_insert_ne he] at h
      exact hi.tracked g' j h
  · left
    rcases hi.live j c' h1 h2 with h | h
    · rwa [AList.lookup_insert_ne (hne _ _ h)]
    · simp only [hr, RefresherPC.creating, Option.some.injEq, Prod.mk.injEq] at h
      rw [← h.1, ← h.2]; exact AList.lookup_insert _

theorem OK.closeDone {r r' g i ks} (hi : v.OK) (hr : v.refresher = .closeWait r g i ks)
    (hc : r'.configs = r.configs) :
    ({ v with
      cores := v.cores.modify (fun c => { c with closeObserved := true }) i,
      refresher := .removed r' g ks }).OK := by
  have hp := hi.phase
  simp only [PhaseOK, hr] at hp
  have hcr : v.refresher.creating = none := by simp [hr, RefresherPC.creating]
  obtain ⟨c, -, hci, -⟩ := hi.tracked g i hp.1
  refine ⟨hi.filled, fun g' j h => ?_, fun j c' h1 h2 => ?_, ?_⟩
  · obtain ⟨c', rvs, h1, hv, ht, hl⟩ := hi.tracked g' j h
    by_cases hj : i = j
    · subst hj
      exact ⟨{ c' with closeObserved := true }, rvs, by simp [h1], hv, ht, hl⟩
    · exact ⟨c', rvs, by rwa [List.getElem?_modify_ne _ _ hj], hv, ht, hl⟩
  · by_cases hj : i = j
    · subst hj
      simp only [List.getElem?_modify_eq, hci, Option.map_eq_map, Option.map_some',
        Option.some.injEq] at h1
      simp [← h1] at h2
    · rw [List.getElem?_modify_ne _ _ hj] at h1
      exact .inl (hi.registered hcr h1 h2)
  · exact ⟨⟨i, { c with closeObserved := true }, hp.1, by simp [hci], rfl⟩,
      fun g' h => hc ▸ hp.2 g' h⟩

theorem OK.removed {r g ks} (hi : v.OK) (hr : v.refresher = .removed r g ks) :
    ({ v with
      storageResourceSynchros := v.storageResourceSynchros.erase g,
      refresher := .remove r ks }).OK := by
  have hp := hi.phase
  simp only [PhaseOK, hr] at hp
  obtain ⟨⟨i, c, hg, hc, ho⟩, hcov⟩ := hp
  refine ⟨hi.filled, fun g' j h => ?_, fun j c' h1 h2 => .inl ?_, fun g' h => ?_⟩
  · by_cases he : g' = g
    · subst he; simp [AList.lookup_erase] at h
    · rw [AList.lookup_erase_ne he] at h
      exact hi.tracked g' j h
  · have h := hi.registered (by simp [hr, RefresherPC.creating]) h1 h2
    by_cases he : c'.storageGVR = g
    · rw [he, hg, Option.some.injEq] at h
      subst h
      rw [hc, Option.some.injEq] at h1
      subst h1
      simp [ho] at h2
    · rwa [AList.lookup_erase_ne he]
  · obtain ⟨hne, hmem⟩ := AList.mem_erase.mp h
    rcases hcov g' hmem with h | h
    · exact .inl h
    · exact .inr ((List.mem_cons.mp h).resolve_left hne)

theorem OK.cleanErase {r ks g ks'} (hi : v.OK) (hr : v.refresher = .clean r ks)
    (hg : g ∉ r.configs) :
    ({ v with
      storageResourceVersions := v.storageResourceVersions.erase g,
      refresher := .cleanCall r g ks' }).OK := by
  have hp := hi.phase
  simp only [PhaseOK, hr] at hp
  refine ⟨fun g' rvs h => ?_, fun g' j h => ?_,
    fun j c h1 h2 => .inl (hi.registered (by simp [hr, RefresherPC.creating]) h1 h2), hp, hg⟩
  · by_cases he : g' = g
    · subst he; simp [AList.lookup_erase] at h
    · exact hi.filled g' rvs (by rwa [AList.lookup_erase_ne he] at h)
  · have hne : g' ≠ g := fun he => by
      have := (hp g' (mem_of_lookup h)).resolve_right (List.not_mem_nil _)
      exact hg (he ▸ this)
    simpa only [AList.lookup_erase_ne hne] using hi.tracked g' j h

end Registry

/-! ## Every step keeps the invariant -/

section Steps

variable {w w' : World}

theorem World.registry_creating {pc : RefresherPC} (hr : w.refresher = pc) :
    w.registry.refresher.creating = pc.creating := by
  rw [← hr]; rfl

theorem registryOK_refresherMove (hi : w.registry.OK) (hm : RefresherMove w w') :
    w'.registry.OK := by
  have hp := hi.phase
  cases hm with
  | createNew hr _ hg => exact hi.setRefresher ((World.registry_creating hr).trans rfl) hg
  | storageHit hr hl =>
    simp only [Registry.PhaseOK, World.registry, hr] at hp
    refine hi.setRefresher ((World.registry_creating hr).trans rfl) ?_
    exact ⟨hp, hl⟩
  | storageNew hr _ => exact hi.storageNew hr
  | synchroNew hr _ =>
    simp only [World.registry, List.map_append, List.map_singleton]
    rw [← List.length_map _ Synchro.core]
    exact hi.synchroNew hr ⟨rfl, rfl, fun ev h => by
      simp only [Synchro.core, World.newSynchro] at h; split at h <;> simp_all⟩ rfl rfl
  | launch hr =>
    simp only [World.registry, map_core_launch]
    exact hi.launch hr
  | store hr => exact hi.store hr
  | @collect r hr =>
    refine hi.setRefresher ((World.registry_creating hr).trans rfl) fun g h => ?_
    by_cases hg : g ∈ r.configs
    · exact .inl hg
    · exact .inr (List.mem_filter.mpr ⟨AList.mem_keys.mp h, by simpa using hg⟩)
  | @removeClose r ks g i hr hg hl =>
    simp only [Registry.PhaseOK, World.registry, hr] at hp
    simp only [World.registry, map_core_closeCalled]
    refine hi.setRefresher ((World.registry_creating hr).trans rfl) ?_
    refine ⟨hl, fun g' h => ?_⟩
    rcases hp g' h with h | h
    · exact .inl h
    · by_cases he : g' = g
      · exact .inr (he ▸ List.mem_cons_self _ _)
      · exact .inr (List.mem_cons_of_mem _ ((List.mem_erase_of_ne he).mpr h))
  | removeSkip hr _ hl =>
    simp only [Registry.PhaseOK, World.registry, hr] at hp
    refine hi.setRefresher ((World.registry_creating hr).trans rfl) fun g' h => ?_
    rcases hp g' h with h' | h'
    · exact .inl h'
    · refine .inr ((List.mem_erase_of_ne fun he => ?_).mpr h')
      subst he; exact absurd hl (by simpa [AList.lookup_eq_none] using h)
  | removeDone hr =>
    simp only [Registry.PhaseOK, World.registry, hr] at hp
    exact hi.setRefresher ((World.registry_creating hr).trans rfl) hp
  | closeDone hr _ =>
    simp only [World.registry, map_core_closeObserved]
    exact hi.closeDone hr rfl
  | removed hr => exact hi.removed hr
  | cleanKeep hr _ _ =>
    simp only [Registry.PhaseOK, World.registry, hr] at hp
    exact hi.setRefresher ((World.registry_creating hr).trans rfl) hp
  | cleanErase hr _ hg => exact hi.cleanErase hr hg
  | cleanOk hr =>
    simp only [Registry.PhaseOK, World.registry, hr] at hp
    exact hi.setRefresher ((World.registry_creating hr).trans rfl) hp.1
  | cleanFail hr =>
    simp only [Registry.PhaseOK, World.registry, hr] at hp
    exact hi.setRefresher ((World.registry_creating hr).trans rfl) hp.1
  | _ => exact hi.setRefresher (by rw [World.registry_creating ‹_›]; rfl) trivial

theorem registryOK_envStep {e : EnvEvent} (hi : w.registry.OK) (h : w.envStep e = some w') :
    w'.registry.OK := by
  cases e
  case afterStart =>
    obtain ⟨hr, rfl⟩ := envStep_afterStart h
    exact hi.setRefresher (by rw [World.registry_creating hr]; rfl) trivial
  all_goals
    simp only [World.envStep] at h
    (repeat' split at h) <;> cases h
    first
    | exact hi
    | (simp only [World.registry] at hi ⊢; convert hi using 2;
        exact map_core_set (by assumption) (by rfl))

theorem registryOK_step (hi : w.registry.OK) (h : Step w w') : w'.registry.OK := by
  obtain ⟨a, h⟩ := h
  cases a with
  | refresher c => exact registryOK_refresherMove hi (refresherMove_of_step h)
  | env e => exact registryOK_envStep hi h
  | monitor m => obtain ⟨_, _, _, _, _, _, rfl⟩ := monitorStep_shape h; exact hi
  | runner c => obtain ⟨_, _, _, _, _, _, _, _, rfl⟩ := runnerStep_shape h; exact hi
  | handlerCloser => obtain ⟨_, _, rfl⟩ := handlerCloserStep_shape h; exact hi
  | run c => obtain ⟨_, _, _, _, _, _, _, rfl⟩ := runStep_shape h; exact hi
  | statusLoop => obtain ⟨_, _, _, _, rfl⟩ := statusStep_shape h; exact hi
  | shutdown i => obtain ⟨_, _, _, _, _, _, _, rfl⟩ := shutdownStep_shape h; exact hi
  | setter i => obtain ⟨_, _, _, _, _, rfl⟩ := setterStep_shape h; exact hi

theorem fillVersions_filled (rvs : ClusterResourceVersions) (next : Nat) :
    (fillVersions rvs next).1.resources.isSome ∧ (fillVersions rvs next).1.events.isSome := by
  unfold fillVersions; split <;> simp

/-- `initWithResourceVersions` leaves no nil map. -/
theorem initWithResourceVersions_filled :
    ∀ (es : List (Σ _ : GroupVersionResource, ClusterResourceVersions)) m next,
      (∀ g rvs, m.lookup g = some rvs → rvs.resources.isSome ∧ rvs.events.isSome) →
      ∀ g rvs, (initWithResourceVersions es m next).1.lookup g = some rvs →
        rvs.resources.isSome ∧ rvs.events.isSome
  | [], _, _, h => h
  | ⟨g', rvs'⟩ :: es, m, next, h => by
    refine initWithResourceVersions_filled es _ _ fun g rvs hg => ?_
    by_cases he : g = g'
    · subst he
      simp only [AList.lookup_insert, Option.some.injEq] at hg
      exact hg ▸ fillVersions_filled rvs' next
    · exact h g rvs (by rwa [AList.lookup_insert_ne he] at hg)

theorem registryOK_new (p v) : (World.new p v).registry.OK where
  filled := initWithResourceVersions_filled _ _ _ fun _ _ h => by simp at h
  tracked _ _ h := by simp [World.new, World.registry] at h
  live _ _ h := by simp [World.new, World.registry] at h
  phase := trivial

theorem registryOK_of_reachable (hw : Reachable w) : w.registry.OK :=
  Reachable.induction registryOK_new (fun _ _ _ hi hs => registryOK_step hi hs) hw

theorem core_of_getElem? {i : Nat} {c : SynchroCore} (h : w.registry.cores[i]? = some c) :
    ∃ s, w.synchros[i]? = some s ∧ s.core = c := by
  simpa [World.registry] using h

theorem getElem?_core {i : Nat} {s : Synchro} (h : w.synchros[i]? = some s) :
    w.registry.cores[i]? = some s.core := by
  simp [World.registry, h]

/-- An entry registered before a step keeps its watermark maps. -/
theorem versions_of_registered (hi : w.registry.OK) (h : Step w w') {g : GroupVersionResource}
    (hg : g ∈ w.storageResourceSynchros) :
    w'.storageResourceVersions.lookup g = w.storageResourceVersions.lookup g := by
  obtain ⟨a, h⟩ := h
  have hp := hi.phase
  cases a with
  | refresher c =>
    cases refresherMove_of_step h with
    | storageNew hr _ =>
      simp only [Registry.PhaseOK, World.registry, hr] at hp
      exact AList.lookup_insert_ne fun he => hp (he ▸ hg)
    | cleanErase hr _ hc =>
      simp only [Registry.PhaseOK, World.registry, hr] at hp
      exact AList.lookup_erase_ne fun he =>
        hc (he ▸ (hp g hg).resolve_right (List.not_mem_nil _))
    | _ => rfl
  | env e => obtain ⟨_, _, _, _, _, _, rfl⟩ := envStep_shape h; rfl
  | monitor m => obtain ⟨_, _, _, _, _, _, rfl⟩ := monitorStep_shape h; rfl
  | runner c => obtain ⟨_, _, _, _, _, _, _, _, rfl⟩ := runnerStep_shape h; rfl
  | handlerCloser => obtain ⟨_, _, rfl⟩ := handlerCloserStep_shape h; rfl
  | run c => obtain ⟨_, _, _, _, _, _, _, rfl⟩ := runStep_shape h; rfl
  | statusLoop => obtain ⟨_, _, _, _, rfl⟩ := statusStep_shape h; rfl
  | shutdown i => obtain ⟨_, _, _, _, _, _, _, rfl⟩ := shutdownStep_shape h; rfl
  | setter i => obtain ⟨_, _, _, _, _, rfl⟩ := setterStep_shape h; rfl

/-! ## Where a reconciler is in its life -/

/-- Where a reconciler is in its life: the refresher sees its `Close` channel closed only
once it is closed, it closes only once `Close` was called and `Run` has returned, and the
refresher calls `Close` only on a reconciler whose `Run` it launched. -/
structure Synchro.Lifecycle (s : Synchro) : Prop where
  observed : s.closeObserved = true → s.closeDone = true
  done : s.closeDone = true → s.closeCalled = true ∧ s.running = false
  called : s.closeCalled = true → s.runLaunched = true

/-- A reconciler whose `Run` is running has not been seen closed. -/
theorem Synchro.Lifecycle.unobserved {s : Synchro} (h : s.Lifecycle) (hr : s.running = true) :
    s.closeObserved = false :=
  Bool.eq_false_iff.mpr fun ho => by simp [(h.done (h.observed ho)).2] at hr

/-- Every reconciler is somewhere in its life. -/
def World.LifecycleOK (w : World) : Prop := ∀ s ∈ w.synchros, s.Lifecycle

theorem mem_modify_of_getElem? {l : List Synchro} {i : Nat} {s : Synchro} (h : l[i]? = some s)
    (f : Synchro → Synchro) {x : Synchro} (hx : x ∈ l.modify f i) : x ∈ l ∨ x = f s := by
  rw [List.modify_eq_set_get?, List.get?_eq_getElem?, h] at hx
  exact List.mem_or_eq_of_mem_set hx

theorem World.LifecycleOK.modify (hi : w.LifecycleOK) {i : Nat} {s : Synchro}
    (h : w.synchros[i]? = some s) {f : Synchro → Synchro} (hf : (f s).Lifecycle) :
    ∀ x ∈ w.synchros.modify f i, x.Lifecycle := fun x hx => by
  rcases mem_modify_of_getElem? h f hx with hx | rfl
  exacts [hi x hx, hf]

theorem World.LifecycleOK.set (hi : w.LifecycleOK) {i : Nat} {s : Synchro} (hs : s.Lifecycle) :
    ∀ x ∈ w.synchros.set i s, x.Lifecycle := fun x hx => by
  rcases List.mem_or_eq_of_mem_set hx with hx | rfl
  exacts [hi x hx, hs]

theorem lifecycleOK_refresherMove (hi : w.LifecycleOK) (hreg : w.registry.OK)
    (hm : RefresherMove w w') : w'.LifecycleOK := by
  have hp := hreg.phase
  cases hm with
  | synchroNew _ _ =>
    intro x hx
    rcases List.mem_append.mp hx with hx | hx
    · exact hi x hx
    · rw [List.mem_singleton.mp hx]
      exact ⟨nofun, nofun, nofun⟩
  | launch hr =>
    simp only [Registry.PhaseOK, World.registry, hr] at hp
    obtain ⟨-, -, c, -, hc, -, -, hl, -⟩ := hp
    obtain ⟨s, hs, rfl⟩ := core_of_getElem? hc
    have hls := hi s (List.getElem?_mem hs)
    have hd : s.closeDone = false := Bool.eq_false_iff.mpr fun hd => by
      simp [Synchro.core, hls.called (hls.done hd).1] at hl
    have ho : s.closeObserved = false :=
      Bool.eq_false_iff.mpr fun ho => by simp [hls.observed ho] at hd
    exact hi.modify hs ⟨fun h => by simp [ho] at h, fun h => by simp [hd] at h, fun _ => rfl⟩
  | removeClose _ _ hl =>
    obtain ⟨c, -, hc, -, -, hlau⟩ := hreg.tracked _ _ hl
    obtain ⟨s, hs, rfl⟩ := core_of_getElem? hc
    have hl := hi s (List.getElem?_mem hs)
    exact hi.modify hs ⟨hl.observed, fun hd => ⟨rfl, (hl.done hd).2⟩, fun _ => hlau⟩
  | closeDone _ hdo =>
    obtain ⟨s, hs, hd⟩ := w.closeDoneOf_eq_true.mp hdo
    have hl := hi s (List.getElem?_mem hs)
    exact hi.modify hs ⟨fun _ => hd, hl.done, hl.called⟩
  | _ => exact hi

theorem lifecycleOK_envStep {e : EnvEvent} (hi : w.LifecycleOK) (h : w.envStep e = some w') :
    w'.LifecycleOK := by
  cases e
  case afterStart => obtain ⟨_, rfl⟩ := envStep_afterStart h; exact hi
  case synchroReturns i =>
    simp only [World.envStep] at h
    split at h <;> [split at h; cases h] <;> cases h
    have hl := hi _ (List.getElem?_mem ‹_›)
    exact hi.set ⟨hl.observed, fun hd => ⟨(hl.done hd).1, rfl⟩, hl.called⟩
  case synchroClosed i =>
    simp only [World.envStep] at h
    split at h <;> [split at h; cases h] <;> cases h
    have hl := hi _ (List.getElem?_mem ‹_›)
    simp only [Bool.and_eq_true, Bool.not_eq_true'] at *
    exact hi.set ⟨fun _ => rfl, fun _ => ‹_ ∧ _›, hl.called⟩
  case synchroReports i st =>
    simp only [World.envStep] at h
    split at h <;> cases h
    have hl := hi _ (List.getElem?_mem ‹_›)
    exact hi.set ⟨hl.observed, hl.done, hl.called⟩
  all_goals simp only [World.envStep] at h; cases h; exact hi

theorem lifecycleOK_step (hi : w.LifecycleOK) (hreg : w.registry.OK) (h : Step w w') :
    w'.LifecycleOK := by
  rcases h.refresher_cases with ⟨c, h⟩ | ⟨e, h⟩ | ⟨-, -, -, -, hs, -⟩
  · exact lifecycleOK_refresherMove hi hreg (refresherMove_of_step h)
  · exact lifecycleOK_envStep hi h
  · rw [World.LifecycleOK, hs]; exact hi

theorem lifecycleOK_of_reachable (hw : Reachable w) : w.LifecycleOK :=
  Reachable.induction (fun _ _ => nofun)
    (fun _ _ hr hi hs => lifecycleOK_step hi (registryOK_of_reachable hr) hs) hw


/-! ## A schedule that creates and drops `pods` -/

/-- After startup, one refresh creates the `pods` reconciler and stops before storing
it. -/
def createPods : List Action :=
  [.env (.setResources (some []) false), .setter 0, .setter 0, .setter 0,
    .refresher .next, .refresher .next, .refresher .next, .refresher (.negotiated ∅ podsPlan),
    .refresher .next, .refresher .next, .refresher (.pick pods), .refresher .next,
    .refresher .next]

/-- The first refresh finishes: `pods` is stored, started in the open epoch and kept. -/
def finishFirst : List Action :=
  [.refresher .next, .refresher .next, .refresher .next, .refresher .next, .refresher .next,
    .refresher .next, .refresher .next, .refresher (.pick pods), .refresher .next,
    .refresher .next]

/-- `pods` is planned and synchronized, and the refresher waits again. -/
def podsSynced : World :=
  ((World.new ∅ "").runActions (startupSchedule ++ createPods ++ finishFirst)).get (by decide)

theorem podsSynced_reachable : Reachable podsSynced :=
  ⟨∅, "", steps_of_runActions (Option.some_get _).symm⟩

/-- A second plan without `pods`: the refresher calls its `Close` and waits for it. -/
def dropPods : List Action :=
  [.env (.setResources (some []) false), .setter 1, .setter 1, .setter 1,
    .refresher .next, .refresher .next, .refresher .next, .refresher (.negotiated ∅ ∅),
    .refresher .next, .refresher .next, .refresher .next, .refresher .next, .refresher .next,
    .refresher (.pick pods)]

/-- The reconciler of `pods` returns and closes; the refresher sees it closed, unregisters
it, and calls `CleanClusterResource` for its watermark entry. -/
def closeDropped : List Action :=
  [.env (.synchroReturns 0), .env (.synchroClosed 0), .refresher .next, .refresher .next,
    .refresher .next, .refresher (.pick pods)]

/-- The world at that `CleanClusterResource` call. -/
def cleanWorld : World :=
  ((World.new ∅ "").runActions
    (startupSchedule ++ createPods ++ finishFirst ++ dropPods ++ closeDropped)).get (by decide)

theorem cleanWorld_reachable : Reachable cleanWorld :=
  ⟨∅, "", steps_of_runActions (Option.some_get _).symm⟩

/-- **Watermarks.** Every watermark entry has both maps; every registered reconciler
holds the maps of its storage resource's entry; and a registered resource's entry is
never replaced or deleted. -/
theorem watermarks_tracked (hw : Reachable w) :
    (∀ g rvs, w.storageResourceVersions.lookup g = some rvs →
      rvs.resources.isSome ∧ rvs.events.isSome) ∧
    (∀ g i, w.storageResourceSynchros.lookup g = some i → ∃ s rvs, w.synchros[i]? = some s ∧
      w.storageResourceVersions.lookup g = some rvs ∧ s.resourceVersions = rvs.resources ∧
      ∀ ev, s.eventVersions = some ev → ev = rvs.events) ∧
    (∀ w', Step w w' → ∀ g ∈ w.storageResourceSynchros,
      w'.storageResourceVersions.lookup g = w.storageResourceVersions.lookup g) := by
  have hi := registryOK_of_reachable hw
  refine ⟨hi.filled, fun g i h => ?_, fun w' hs g hg => versions_of_registered hi hs hg⟩
  obtain ⟨c, rvs, hc, hv, ⟨-, hr, he⟩, -⟩ := hi.tracked g i h
  obtain ⟨s, hs, rfl⟩ := core_of_getElem? hc
  exact ⟨s, rvs, hs, hv, hr, he⟩

theorem watermarks_tracked_pods :
    (∀ rvs, podsSynced.storageResourceVersions.lookup pods = some rvs →
      rvs.resources.isSome ∧ rvs.events.isSome) ∧
    (∃ s rvs, podsSynced.synchros[0]? = some s ∧
      podsSynced.storageResourceVersions.lookup pods = some rvs ∧
      s.resourceVersions = rvs.resources ∧ ∀ ev, s.eventVersions = some ev → ev = rvs.events) ∧
    (∀ w', Step podsSynced w' →
      w'.storageResourceVersions.lookup pods = podsSynced.storageResourceVersions.lookup pods) :=
  have h := watermarks_tracked podsSynced_reachable
  ⟨h.1 pods, h.2.1 pods 0 (by decide), fun w' hs => h.2.2 w' hs pods (by decide)⟩

/-- **One live reconciler per resource.** Of the reconcilers `NewResourceSynchro`
returned for `g` whose `Close` completion is unobserved there is at most one; it is the
one registered for `g`, unless the refresher has created it and not yet stored it; and
while `CleanClusterResource` is called for `g`, every reconciler of `g` has been seen
closed, has closed, and its `Run` has returned. -/
theorem live_reconciler_registered (hw : Reachable w) (g : GroupVersionResource) :
    (∀ (i j : Nat) (s t : Synchro), w.synchros[i]? = some s → w.synchros[j]? = some t → s.storageGVR = g →
      t.storageGVR = g → s.closeObserved = false → t.closeObserved = false → i = j) ∧
    (∀ (i : Nat) (s : Synchro), w.synchros[i]? = some s → s.storageGVR = g →
      s.closeObserved = false →
      w.storageResourceSynchros.lookup g = some i ∨ w.refresher.creating = some (g, i)) ∧
    (∀ r ks, w.refresher = .cleanCall r g ks → ∀ s ∈ w.synchros, s.storageGVR = g →
      s.closeObserved = true ∧ s.closeDone = true ∧ s.running = false) := by
  have hi := registryOK_of_reachable hw
  have live : ∀ (i : Nat) (s : Synchro), w.synchros[i]? = some s → s.storageGVR = g →
      s.closeObserved = false →
      w.storageResourceSynchros.lookup g = some i ∨ w.refresher.creating = some (g, i) :=
    fun i s hs hg ho => hg ▸ hi.live i s.core (getElem?_core hs) ho
  refine ⟨fun i j s t hs ht hsg htg hso hto => ?_, live, fun r ks hr s hs hg => ?_⟩
  · rcases live i s hs hsg hso with h1 | h1 <;> rcases live j t ht htg hto with h2 | h2
    · exact Option.some.inj (h1.symm.trans h2)
    · exact (hi.not_mem_of_creating h2 (mem_of_lookup h1)).elim
    · exact (hi.not_mem_of_creating h1 (mem_of_lookup h2)).elim
    · simp only [h1, Option.some.injEq, Prod.mk.injEq, true_and] at h2
      exact h2
  · have ho : s.closeObserved = true := by
      by_contra ho
      obtain ⟨i, hi'⟩ := List.getElem?_of_mem hs
      have hp := hi.phase
      simp only [Registry.PhaseOK, World.registry, hr] at hp
      rcases live i s hi' hg (by simpa using ho) with h | h
      · exact hp.2 ((hp.1 g (mem_of_lookup h)).resolve_right
          (List.not_mem_nil _))
      · simp [hr, RefresherPC.creating] at h
    have hl := lifecycleOK_of_reachable hw s hs
    exact ⟨ho, hl.observed ho, (hl.done (hl.observed ho)).2⟩

theorem live_reconciler_registered_pods :
    (podsSynced.storageResourceSynchros.lookup pods = some 0 ∨
      podsSynced.refresher.creating = some (pods, 0)) ∧
    ∃ s, cleanWorld.synchros = [s] ∧ s.storageGVR = pods ∧
      s.closeObserved = true ∧ s.closeDone = true ∧ s.running = false :=
  have hsynced := live_reconciler_registered podsSynced_reachable pods
  have hclean := live_reconciler_registered cleanWorld_reachable pods
  ⟨hsynced.2.1 0 _ rfl rfl rfl, _, rfl, rfl, hclean.2.2 _ _ rfl _ (List.mem_singleton_self _) rfl⟩

/-- A reconciler `NewResourceSynchro` returned is not registered until the refresher
stores it. -/
theorem live_reconciler_unregistered :
    ¬∀ w, Reachable w → ∀ (i : Nat) (s : Synchro), w.synchros[i]? = some s →
      s.closeObserved = false → w.storageResourceSynchros.lookup s.storageGVR = some i := by
  intro h
  obtain ⟨w, hw, hp⟩ := @exists_reachable_of_run (fun w => (w.synchros[0]?.any fun s =>
      !s.closeObserved && w.storageResourceSynchros.lookup s.storageGVR != some 0) = true) _
    ∅ "" (startupSchedule ++ createPods) (by decide)
  cases hs : w.synchros[0]? with
  | none => simp [hs] at hp
  | some s =>
    simp only [hs, Option.any_some, Bool.and_eq_true, Bool.not_eq_true', bne_iff_ne] at hp
    exact hp.2 (h w hw 0 s hs hp.1)

end Steps

end Clusterpedia

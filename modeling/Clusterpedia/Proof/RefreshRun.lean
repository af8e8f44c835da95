import Clusterpedia.Proof.Epochs

/-!
# One refresh run

A `refreshSyncResources` run goes through four loops: creation under `runnerLock`,
removal of the reconcilers the plan dropped, clean-up of the watermark entries the
plan dropped, and `DeleteVersion` over the deleted versions. Only the refresher
writes the registry, the watermark map and the group status, so what a run does to
them is decided by the run alone, whatever the other goroutines do meanwhile.

The run's ghost record (`Refresh`) holds the registry `R₀`, the watermark map `W₀` and
the plan `P` it started from, and the external calls it made. At every position of the
refresher an invariant relates the current maps to that record and to the keys the
current loop has still to visit. At the end of a run that did not return early:

* the registry holds the planned resources it held before, with their reconcilers, and
  the planned resources for which both constructors succeeded; the watermark map
  holds the planned entries of `W₀` and an entry for every planned resource whose
  storage was created, fresh unless `W₀` had one;
* `Close` was awaited exactly for `R₀ \ P`, `CleanClusterResource` was called exactly
  once for each key of `W₀ \ P`, and only after all those `Close` completions (these
  two, with what the removal loop's waits mean for the reconcilers, are
  `refresh_run_outcome` in `Proof/Removal`);
* `DeleteVersion` was called exactly once for each deleted version that no failed
  clean-up keeps, and those kept are left with a `Stop/CleanResourceFailed`
  condition; a run that returns early deletes no version (`refresh_run_versions`).
-/

namespace Clusterpedia

open scoped List

/-! ## What the run's calls record -/

namespace Effect

/-- A successful `NewResourceStorage`. -/
def storedGVR : Effect → Option GroupVersionResource
  | .newResourceStorage g true => some g
  | _ => none

/-- A successful `NewResourceSynchro`. -/
def createdGVR : Effect → Option GroupVersionResource
  | .newResourceSynchro g true => some g
  | _ => none

/-- An observed `Close` completion. -/
def closedGVR : Effect → Option GroupVersionResource
  | .closeCompleted g => some g
  | _ => none

/-- A `CleanClusterResource` call, whatever its outcome. -/
def cleanedGVR : Effect → Option GroupVersionResource
  | .cleanClusterResource g _ => some g
  | _ => none

/-- A failed `CleanClusterResource` call. -/
def cleanFailedGVR : Effect → Option GroupVersionResource
  | .cleanClusterResource g false => some g
  | _ => none

/-- A `DeleteVersion` call. -/
def deletedGVR : Effect → Option GroupVersionResource
  | .deleteVersion gvr => some gvr
  | _ => none

end Effect

namespace Refresh

variable (r : Refresh)

/-- The storage resources whose `NewResourceStorage` succeeded in this run. -/
def stored : List GroupVersionResource := r.effects.filterMap Effect.storedGVR
/-- The storage resources whose `NewResourceSynchro` succeeded in this run. -/
def created : List GroupVersionResource := r.effects.filterMap Effect.createdGVR
/-- The storage resources whose `Close` this run awaited to completion, in order. -/
def closed : List GroupVersionResource := r.effects.filterMap Effect.closedGVR
/-- The storage resources this run called `CleanClusterResource` for, in order. -/
def cleaned : List GroupVersionResource := r.effects.filterMap Effect.cleanedGVR
/-- The storage resources whose `CleanClusterResource` failed in this run. -/
def cleanFailed : List GroupVersionResource := r.effects.filterMap Effect.cleanFailedGVR
/-- The versions this run called `DeleteVersion` for, in order. -/
def versionsDeleted : List GroupVersionResource := r.effects.filterMap Effect.deletedGVR

variable {r} (e : Effect)

theorem filterMap_log (f : Effect → Option GroupVersionResource) :
    (r.log e).effects.filterMap f = r.effects.filterMap f ++ (f e).toList := by
  simp only [log, List.filterMap_append, List.filterMap_cons, List.filterMap_nil]
  cases f e <;> rfl

@[simp] theorem stored_log : (r.log e).stored = r.stored ++ e.storedGVR.toList :=
  filterMap_log e _
@[simp] theorem created_log : (r.log e).created = r.created ++ e.createdGVR.toList :=
  filterMap_log e _
@[simp] theorem closed_log : (r.log e).closed = r.closed ++ e.closedGVR.toList :=
  filterMap_log e _
@[simp] theorem cleaned_log : (r.log e).cleaned = r.cleaned ++ e.cleanedGVR.toList :=
  filterMap_log e _
@[simp] theorem cleanFailed_log :
    (r.log e).cleanFailed = r.cleanFailed ++ e.cleanFailedGVR.toList :=
  filterMap_log e _
@[simp] theorem versionsDeleted_log :
    (r.log e).versionsDeleted = r.versionsDeleted ++ e.deletedGVR.toList :=
  filterMap_log e _

@[simp] theorem configs_log : (r.log e).configs = r.configs := rfl
@[simp] theorem registry₀_log : (r.log e).registry₀ = r.registry₀ := rfl
@[simp] theorem versions₀_log : (r.log e).versions₀ = r.versions₀ := rfl
@[simp] theorem nextMap₀_log : (r.log e).nextMap₀ = r.nextMap₀ := rfl
@[simp] theorem deleted₀_log : (r.log e).deleted₀ = r.deleted₀ := rfl
@[simp] theorem deleted_log : (r.log e).deleted = r.deleted := rfl
@[simp] theorem syncGVRs_log : (r.log e).syncGVRs = r.syncGVRs := rfl

theorem cleanFailed_eq_nil (h : r.cleaned = []) : r.cleanFailed = [] := by
  simp only [cleaned, cleanFailed, List.filterMap_eq_nil_iff] at h ⊢
  intro e he
  have := h e he
  cases e <;> first | rfl | cases this

end Refresh

/-! ## The group status under `UpdateSyncCondition` -/

namespace GroupResourceStatus

variable {s : GroupResourceStatus} {gvr x : GroupVersionResource} {st rs msg : String}

theorem mem_updateSyncCondition : x ∈ s.updateSyncCondition gvr st rs msg ↔ x ∈ s := by
  unfold updateSyncCondition
  split
  · rw [AList.mem_insert, or_iff_right_iff_imp]
    rintro rfl
    exact mem_of_lookup ‹_›
  · rfl

theorem lookup_updateSyncCondition_ne (h : x ≠ gvr) :
    (s.updateSyncCondition gvr st rs msg).lookup x = s.lookup x := by
  unfold updateSyncCondition
  split
  · exact AList.lookup_insert_ne h
  · rfl

theorem lookup_updateSyncCondition_self (h : gvr ∈ s) : ∃ c,
    (s.updateSyncCondition gvr st rs msg).lookup gvr = some c ∧ c.status = st ∧ c.reason = rs := by
  unfold updateSyncCondition
  split
  · exact ⟨_, AList.lookup_insert _, rfl, rfl⟩
  · exact absurd ‹_› (AList.lookup_isSome.mpr h |> Option.isSome_iff_ne_none.mp)

/-- `updateSyncConditions` of the run: every version of `l` that the status has. -/
def updateAll (l : List GroupVersionResource) (st rs msg : String) (s : GroupResourceStatus) :
    GroupResourceStatus :=
  l.foldl (fun s gvr => s.updateSyncCondition gvr st rs msg) s

theorem mem_updateAll {l : List GroupVersionResource} :
    ∀ {s}, x ∈ updateAll l st rs msg s ↔ x ∈ s := by
  induction l with
  | nil => exact Iff.rfl
  | cons y l ih => intro s; exact ih.trans mem_updateSyncCondition

theorem lookup_updateAll_of_not_mem {l : List GroupVersionResource} (hx : x ∉ l) :
    ∀ {s}, (updateAll l st rs msg s).lookup x = s.lookup x := by
  induction l with
  | nil => exact rfl
  | cons y l ih =>
    intro s
    rw [List.mem_cons, not_or] at hx
    exact (ih hx.2).trans (lookup_updateSyncCondition_ne hx.1)

theorem lookup_updateAll_of_mem {l : List GroupVersionResource} (hx : x ∈ l) :
    ∀ {s}, x ∈ s → ∃ c, (updateAll l st rs msg s).lookup x = some c ∧ c.status = st ∧
      c.reason = rs := by
  induction l with
  | nil => cases hx
  | cons y l ih =>
    intro s hs
    by_cases hl : x ∈ l
    · exact ih hl (mem_updateSyncCondition.mpr hs)
    · obtain rfl := (List.mem_cons.mp hx).resolve_right hl
      rw [updateAll, List.foldl_cons, ← updateAll, lookup_updateAll_of_not_mem hl]
      exact lookup_updateSyncCondition_self hs

theorem mem_of_mem_getStorageGVRToSyncGVRs {g} (h : gvr ∈ s.getStorageGVRToSyncGVRs g) :
    gvr ∈ s := by
  obtain ⟨e, he, rfl⟩ := List.mem_map.mp h
  exact AList.mem_keys.mp (List.mem_map_of_mem _ (List.mem_of_mem_filter he))

theorem nodup_merge (p : Option GroupResourceStatus) : (s.merge p).2.Nodup := by
  cases p with
  | none => exact List.nodup_nil
  | some p => exact p.nodupKeys.sublist (List.filter_sublist _)

end GroupResourceStatus

/-! ## The run invariant -/

/-- What a refresh run reads and writes: the registry, the watermark map, the number of
maps `make` has allocated, and the group status. -/
structure Ledger where
  storageResourceSynchros : GoMap GroupVersionResource Nat
  storageResourceVersions : GoMap GroupVersionResource ClusterResourceVersions
  nextMap : Nat
  groupResourceStatus : Option GroupResourceStatus

/-- The ledger of a world. -/
def World.ledger (w : World) : Ledger :=
  ⟨w.storageResourceSynchros, w.storageResourceVersions, w.nextMap, w.groupResourceStatus⟩

@[simp] theorem World.ledger_storageResourceSynchros (w : World) :
    w.ledger.storageResourceSynchros = w.storageResourceSynchros := rfl
@[simp] theorem World.ledger_storageResourceVersions (w : World) :
    w.ledger.storageResourceVersions = w.storageResourceVersions := rfl
@[simp] theorem World.ledger_groupResourceStatus (w : World) :
    w.ledger.groupResourceStatus = w.groupResourceStatus := rfl

namespace Refresh

variable (r : Refresh)

/-- The creation loop with the plan keys `ks` still to visit: no removal yet. -/
structure Creating (ks : List GroupVersionResource) : Prop where
  nodup : ks.Nodup
  planned : ∀ g ∈ ks, g ∈ r.configs
  unvisited : ∀ g ∈ r.stored, g ∉ ks
  closed : r.closed = []

/-- Before the clean-up loop: nothing cleaned or deleted yet, and the watermark map
`vers` holds what it held and what this run stored. -/
structure Early (vers : GoMap GroupVersionResource ClusterResourceVersions) : Prop where
  cleaned : r.cleaned = []
  versionsDeleted : r.versionsDeleted = []
  deleted : r.deleted = r.deleted₀
  versions : ∀ g, g ∈ vers ↔ g ∈ r.versions₀ ∨ g ∈ r.stored

/-- The removal loop with the keys `ks` of `removedStorageGVRs` still to visit: the
unplanned keys of the registry the run started from are the closed ones and `ks`. -/
def Removing (ks : List GroupVersionResource) : Prop :=
  r.closed ++ ks ~ r.registry₀.keys.filter (· ∉ r.configs)

/-- The clean-up loop with the keys `ks` of the watermark map still to visit: the
unplanned keys of the watermark map the run started from are the cleaned ones and the
unplanned keys of `ks`. -/
def Cleaning (ks : List GroupVersionResource) : Prop :=
  ks.Nodup ∧ r.cleaned ++ ks.filter (· ∉ r.configs) ~ r.versions₀.keys.filter (· ∉ r.configs)

end Refresh

namespace Ledger

variable (d : Ledger) (r : Refresh)

/-- What holds throughout a run: calls only for planned new resources, the planned part
of the maps untouched, new watermark entries fresh, and the group status set. -/
structure Base : Prop where
  deleted_nodup : r.deleted₀.Nodup
  nextMap_le : r.nextMap₀ ≤ d.nextMap
  stored : ∀ g ∈ r.stored, g ∈ r.configs ∧ g ∉ r.registry₀
  created : ∀ g ∈ r.created, g ∈ r.stored
  kept : ∀ g ∈ r.registry₀, g ∈ r.configs →
    d.storageResourceSynchros.lookup g = r.registry₀.lookup g
  keptVersions : ∀ g ∈ r.versions₀, g ∈ r.configs →
    d.storageResourceVersions.lookup g = r.versions₀.lookup g
  fresh : ∀ g rvs, g ∉ r.versions₀ → d.storageResourceVersions.lookup g = some rvs →
    ∃ n, r.nextMap₀ ≤ n ∧ rvs = ⟨some n, some (n + 1)⟩
  status : ∃ s, d.groupResourceStatus = some s ∧
    ∀ g, ∀ gvr ∈ r.syncGVRs g, gvr ∈ s ∨ gvr ∈ r.versionsDeleted

/-- The registry holds what it held and what this run created, less what it closed. -/
def Registered : Prop :=
  ∀ g, g ∈ d.storageResourceSynchros ↔ (g ∈ r.registry₀ ∨ g ∈ r.created) ∧ g ∉ r.closed

/-- The watermark map holds what it held and what this run stored, less what it
cleaned. -/
def Tracked : Prop :=
  ∀ g, g ∈ d.storageResourceVersions ↔ (g ∈ r.versions₀ ∨ g ∈ r.stored) ∧ g ∉ r.cleaned

/-- From the clean-up loop on: every removal done, every close before every clean-up,
and the deleted versions and conditions of the failed clean-ups. -/
structure Late : Prop where
  closed : r.closed ~ r.registry₀.keys.filter (· ∉ r.configs)
  registered : d.Registered r
  order : ∃ pre post, r.effects = pre ++ post ∧ (∀ e ∈ pre, e.cleanedGVR = none) ∧
    ∀ e ∈ post, e.closedGVR = none
  deleted_sublist : r.deleted <+ r.deleted₀
  deleted : ∀ gvr, gvr ∈ r.deleted ↔ gvr ∈ r.deleted₀ ∧ ∀ g ∈ r.cleanFailed, gvr ∉ r.syncGVRs g
  failed : ∀ g ∈ r.cleanFailed, ∀ gvr ∈ r.syncGVRs g, ∃ s c, d.groupResourceStatus = some s ∧
    s.lookup gvr = some c ∧ c.status = ResourceSyncStatusStop ∧ c.reason = "CleanResourceFailed"

end Ledger

/-- What the refresher's position says about the ledger. -/
def Ledger.Stage (d : Ledger) : RefresherPC → Prop
  | .lock r => d.Base r ∧ r.Early d.storageResourceVersions ∧ r.Creating r.configs.keys ∧ d.Registered r
  | .create r ks | .spawnStart r _ ks => d.Base r ∧ r.Early d.storageResourceVersions ∧ r.Creating ks ∧ d.Registered r
  | .newStorage r g ks =>
    d.Base r ∧ r.Early d.storageResourceVersions ∧ r.Creating ks ∧ d.Registered r ∧
      g ∈ r.configs ∧ g ∉ ks ∧ g ∉ r.registry₀ ∧ g ∉ r.stored
  | .newSynchro r g _ ks =>
    d.Base r ∧ r.Early d.storageResourceVersions ∧ r.Creating ks ∧ d.Registered r ∧ g ∈ r.stored ∧ g ∉ r.created
  | .launch r g _ ks | .store r g _ ks =>
    d.Base r ∧ r.Early d.storageResourceVersions ∧ r.Creating ks ∧ g ∈ r.created ∧
      ∀ g', g' ∈ d.storageResourceSynchros ↔ g' ∈ r.registry₀ ∨ (g' ∈ r.created ∧ g' ≠ g)
  | .unlock r | .collect r => d.Base r ∧ r.Early d.storageResourceVersions ∧ r.Creating [] ∧ d.Registered r
  | .remove r ks => d.Base r ∧ r.Early d.storageResourceVersions ∧ r.Removing ks ∧ d.Registered r
  | .closeWait r g _ ks => d.Base r ∧ r.Early d.storageResourceVersions ∧ r.Removing (g :: ks) ∧ d.Registered r
  | .removed r g ks =>
    d.Base r ∧ r.Early d.storageResourceVersions ∧ r.Removing ks ∧ g ∈ r.closed ∧
      ∀ g', g' ∈ d.storageResourceSynchros ↔ (g' ∈ r.registry₀ ∨ g' ∈ r.created) ∧
        (g' ∉ r.closed ∨ g' = g)
  | .clean r ks => d.Base r ∧ d.Late r ∧ d.Tracked r ∧ r.versionsDeleted = [] ∧ r.Cleaning ks
  | .cleanCall r g ks =>
    d.Base r ∧ d.Late r ∧ r.versionsDeleted = [] ∧ g ∉ r.configs ∧ r.Cleaning (g :: ks) ∧
      ∀ g', g' ∈ d.storageResourceVersions ↔
        ((g' ∈ r.versions₀ ∨ g' ∈ r.stored) ∧ g' ∉ r.cleaned) ∧ g' ≠ g
  | .deleteVersions r ks =>
    d.Base r ∧ d.Late r ∧ d.Tracked r ∧ r.Cleaning [] ∧ r.versionsDeleted ++ ks ~ r.deleted
  | _ => True

/-! ## What each kind of step does to the invariant -/

namespace Ledger

variable {d : Ledger} {r : Refresh} {g : GroupVersionResource}

namespace Base

/-- Logging a call that stores nothing, creates nothing and deletes no version. -/
theorem log (h : d.Base r) {e : Effect} (hs : e.storedGVR = none) (hc : e.createdGVR = none)
    (hd : e.deletedGVR = none) : d.Base (r.log e) :=
  { h with
    stored := by simpa only [Refresh.stored_log, hs, Option.toList_none, List.append_nil]
                   using h.stored
    created := by simpa only [Refresh.stored_log, Refresh.created_log, hs, hc,
                    Option.toList_none, List.append_nil] using h.created
    status := by simpa only [Refresh.versionsDeleted_log, hd, Option.toList_none,
                   List.append_nil] using h.status }

theorem logStored (h : d.Base r) (hg : g ∈ r.configs) (hn : g ∉ r.registry₀) :
    d.Base (r.log (.newResourceStorage g true)) :=
  { h with
    stored := by
      simp only [Refresh.stored_log, Effect.storedGVR, Option.toList_some, List.forall_mem_append,
        List.forall_mem_singleton, Refresh.configs_log, Refresh.registry₀_log]
      exact ⟨h.stored, hg, hn⟩
    created := fun x hx => by
      simp only [Refresh.stored_log, Refresh.created_log, Effect.storedGVR, Effect.createdGVR,
        Option.toList_some, Option.toList_none, List.append_nil] at hx ⊢
      exact List.mem_append_left _ (h.created x hx)
    status := by simpa only [Refresh.versionsDeleted_log, Effect.deletedGVR, Option.toList_none,
                   List.append_nil] using h.status }

theorem logCreated (h : d.Base r) (hg : g ∈ r.stored) :
    d.Base (r.log (.newResourceSynchro g true)) :=
  { h with
    stored := by simpa only [Refresh.stored_log, Effect.storedGVR, Option.toList_none,
                   List.append_nil] using h.stored
    created := by
      simp only [Refresh.stored_log, Refresh.created_log, Effect.storedGVR, Effect.createdGVR,
        Option.toList_some, Option.toList_none, List.append_nil, List.forall_mem_append,
        List.forall_mem_singleton]
      exact ⟨h.created, hg⟩
    status := by simpa only [Refresh.versionsDeleted_log, Effect.deletedGVR, Option.toList_none,
                   List.append_nil] using h.status }

theorem updateAll (h : d.Base r) (l : List GroupVersionResource) (st rs msg : String) :
    ({ d with groupResourceStatus :=
        d.groupResourceStatus.map (GroupResourceStatus.updateAll l st rs msg) } : Ledger).Base r :=
  { h with
    status := by
      obtain ⟨s, hs, hk⟩ := h.status
      exact ⟨GroupResourceStatus.updateAll l st rs msg s, by simp [hs], fun g gvr hg =>
        (hk g gvr hg).imp_left GroupResourceStatus.mem_updateAll.mpr⟩ }

theorem insertVersions (h : d.Base r) (hl : d.storageResourceVersions.lookup g = none) :
    ({ d with
        storageResourceVersions :=
          d.storageResourceVersions.insert g ⟨some d.nextMap, some (d.nextMap + 1)⟩,
        nextMap := d.nextMap + 2 } : Ledger).Base r :=
  { h with
    nextMap_le := Nat.le_add_right_of_le h.nextMap_le
    keptVersions := fun g' hw hp => by
      have hne : g' ≠ g := by
        rintro rfl
        exact AList.lookup_eq_none.mp ((h.keptVersions g' hw hp).symm.trans hl) hw
      exact (AList.lookup_insert_ne hne).trans (h.keptVersions g' hw hp)
    fresh := fun g' rvs hw hl' => by
      by_cases hg : g' = g
      · subst hg
        obtain rfl := Option.some.inj ((AList.lookup_insert _).symm.trans hl')
        exact ⟨d.nextMap, h.nextMap_le, rfl⟩
      · exact h.fresh g' rvs hw ((AList.lookup_insert_ne hg).symm.trans hl') }

theorem insertSynchro (h : d.Base r) (hn : g ∉ r.registry₀) (i : Nat) :
    ({ d with storageResourceSynchros := d.storageResourceSynchros.insert g i } : Ledger).Base r :=
  { h with
    kept := fun g' hr hp =>
      (AList.lookup_insert_ne (by rintro rfl; exact hn hr)).trans (h.kept g' hr hp) }

theorem eraseSynchro (h : d.Base r) (hg : g ∉ r.configs) :
    ({ d with storageResourceSynchros := d.storageResourceSynchros.erase g } : Ledger).Base r :=
  { h with
    kept := fun g' hr hp =>
      (AList.lookup_erase_ne (by rintro rfl; exact hg hp)).trans (h.kept g' hr hp) }

theorem eraseVersions (h : d.Base r) (hg : g ∉ r.configs) :
    ({ d with storageResourceVersions := d.storageResourceVersions.erase g } : Ledger).Base r :=
  { h with
    keptVersions := fun g' hw hp =>
      (AList.lookup_erase_ne (by rintro rfl; exact hg hp)).trans (h.keptVersions g' hw hp)
    fresh := fun g' rvs hw hl => by
      by_cases hg' : g' = g
      · subst hg'; rw [AList.lookup_erase] at hl; cases hl
      · exact h.fresh g' rvs hw ((AList.lookup_erase_ne hg').symm.trans hl) }

theorem cleanFail (h : d.Base r) (msg : String) :
    ({ d with groupResourceStatus := d.groupResourceStatus.map (GroupResourceStatus.updateAll
        (r.syncGVRs g) ResourceSyncStatusStop "CleanResourceFailed" msg) } : Ledger).Base
      { r.log (.cleanClusterResource g false) with
        deleted := r.deleted.filter (· ∉ r.syncGVRs g) } :=
  { ((h.updateAll _ _ _ _).log rfl rfl rfl :
      Ledger.Base _ (r.log (.cleanClusterResource g false))) with }

theorem deleteVersion (h : d.Base r) (gvr : GroupVersionResource) :
    ({ d with groupResourceStatus := d.groupResourceStatus.map (·.deleteVersion gvr) } :
      Ledger).Base (r.log (.deleteVersion gvr)) :=
  { h with
    stored := by simpa [Effect.storedGVR] using h.stored
    created := by simpa [Effect.createdGVR, Effect.storedGVR] using h.created
    status := by
      obtain ⟨s, hs, hk⟩ := h.status
      refine ⟨s.deleteVersion gvr, by simp [hs], fun g x hx => ?_⟩
      by_cases hxg : x = gvr
      · simp [hxg, Effect.deletedGVR]
      · rcases hk g x hx with hm | hm
        · exact .inl (AList.mem_erase.mpr ⟨hxg, hm⟩)
        · simp [hm] }

end Base

theorem Registered.log (h : d.Registered r) {e : Effect} (hc : e.createdGVR = none)
    (hcl : e.closedGVR = none) : d.Registered (r.log e) := by
  simpa only [Registered, Refresh.created_log, Refresh.closed_log, Refresh.registry₀_log, hc, hcl,
    Option.toList_none, List.append_nil] using h

theorem Late.log (h : d.Late r) {e : Effect} (hc : e.createdGVR = none)
    (hcl : e.closedGVR = none) (hf : e.cleanFailedGVR = none) : d.Late (r.log e) where
  closed := by simpa [hcl] using h.closed
  registered := h.registered.log hc hcl
  order := by
    obtain ⟨pre, post, he, h1, h2⟩ := h.order
    exact ⟨pre, post ++ [e], by simp [Refresh.log, he], h1,
      List.forall_mem_append.mpr ⟨h2, List.forall_mem_singleton.mpr hcl⟩⟩
  deleted_sublist := h.deleted_sublist
  deleted := by simpa [hf] using h.deleted
  failed := by simpa [hf] using h.failed

/-- A failed `CleanClusterResource` for `g`: the versions stored under `g` get a
`Stop/CleanResourceFailed` condition and leave `deleted`. -/
theorem Late.cleanFail (h : d.Late r) (hb : d.Base r) (hvd : r.versionsDeleted = [])
    (msg : String) :
    ({ d with groupResourceStatus := d.groupResourceStatus.map (GroupResourceStatus.updateAll
        (r.syncGVRs g) ResourceSyncStatusStop "CleanResourceFailed" msg) } : Ledger).Late
      { r.log (.cleanClusterResource g false) with
        deleted := r.deleted.filter (· ∉ r.syncGVRs g) } where
  closed := (by simpa [Effect.closedGVR] using h.closed :
    (r.log (.cleanClusterResource g false)).closed ~ _)
  registered := (h.registered.log rfl rfl : d.Registered (r.log (.cleanClusterResource g false)))
  order := by
    obtain ⟨pre, post, he, h1, h2⟩ := h.order
    exact ⟨pre, post ++ [.cleanClusterResource g false], by simp [Refresh.log, he], h1,
      List.forall_mem_append.mpr ⟨h2, fun _ hx => by rw [List.mem_singleton.mp hx]; rfl⟩⟩
  deleted_sublist := (List.filter_sublist _).trans h.deleted_sublist
  deleted gvr := by
    show _ ↔ _ ∧ ∀ g' ∈ (r.log (.cleanClusterResource g false)).cleanFailed, _
    simp [h.deleted, Effect.cleanFailedGVR, and_assoc, or_imp, forall_and]
  failed := by
    show ∀ g' ∈ (r.log (.cleanClusterResource g false)).cleanFailed, _
    obtain ⟨s, hs, hk⟩ := hb.status
    have hin : ∀ gvr ∈ r.syncGVRs g, gvr ∈ s := fun gvr hm =>
      (hk g gvr hm).resolve_right (by simp [hvd])
    intro g' hg' gvr hgvr
    suffices ∃ c, (GroupResourceStatus.updateAll (r.syncGVRs g) ResourceSyncStatusStop
        "CleanResourceFailed" msg s).lookup gvr = some c ∧ c.status = ResourceSyncStatusStop ∧
          c.reason = "CleanResourceFailed" by
      obtain ⟨c, hc, hst⟩ := this
      exact ⟨_, c, by simp [hs], hc, hst⟩
    by_cases hm : gvr ∈ r.syncGVRs g
    · exact GroupResourceStatus.lookup_updateAll_of_mem hm (hin gvr hm)
    · rw [Refresh.cleanFailed_log] at hg'
      rcases List.mem_append.mp hg' with hg' | hg'
      · obtain ⟨s', c, hs', hc, hst⟩ := h.failed g' hg' gvr hgvr
        obtain rfl := Option.some.inj (hs.symm.trans hs')
        exact ⟨c, (GroupResourceStatus.lookup_updateAll_of_not_mem hm).trans hc, hst⟩
      · obtain rfl : g' = g := by simpa [Effect.cleanFailedGVR] using hg'
        exact absurd hgvr hm

/-- `DeleteVersion` of a version still in `deleted`. -/
theorem Late.deleteVersion (h : d.Late r) {gvr : GroupVersionResource} (hg : gvr ∈ r.deleted) :
    ({ d with groupResourceStatus := d.groupResourceStatus.map (·.deleteVersion gvr) } :
      Ledger).Late (r.log (.deleteVersion gvr)) :=
  { (h.log rfl rfl rfl : d.Late (r.log (.deleteVersion gvr))) with
    failed := fun g' hg' x hx => by
      simp only [Refresh.cleanFailed_log, Effect.cleanFailedGVR, Option.toList_none,
        List.append_nil, Refresh.syncGVRs_log] at hg' hx
      obtain ⟨s, c, hs, hc, hst⟩ := h.failed g' hg' x hx
      have hne : x ≠ gvr := by rintro rfl; exact ((h.deleted x).mp hg).2 g' hg' hx
      exact ⟨s.deleteVersion gvr, c, by simp [hs], (AList.lookup_erase_ne hne).trans hc, hst⟩ }

end Ledger

namespace Refresh

variable {r : Refresh} {ks : List GroupVersionResource} {g : GroupVersionResource}

theorem Early.log {vers : GoMap GroupVersionResource ClusterResourceVersions} (h : r.Early vers)
    {e : Effect} (hs : e.storedGVR = none) (hc : e.cleanedGVR = none)
    (hd : e.deletedGVR = none) : (r.log e).Early vers where
  cleaned := by simp [h.cleaned, hc]
  versionsDeleted := by simp [h.versionsDeleted, hd]
  deleted := h.deleted
  versions := by simpa [hs] using h.versions

/-- A successful `NewResourceStorage` for `g`, whose watermark entry is in place. -/
theorem Early.logStored {vers vers' : GoMap GroupVersionResource ClusterResourceVersions}
    (h : r.Early vers) (hv : ∀ x, x ∈ vers' ↔ x = g ∨ x ∈ vers) :
    (r.log (.newResourceStorage g true)).Early vers' where
  cleaned := by simp [h.cleaned, Effect.cleanedGVR]
  versionsDeleted := by simp [h.versionsDeleted, Effect.deletedGVR]
  deleted := h.deleted
  versions x := by rw [hv, h.versions]; simp only [stored_log, Effect.storedGVR,
    Option.toList_some, versions₀_log, List.mem_append, List.mem_singleton]; tauto

theorem Creating.erase (h : r.Creating ks) (g : GroupVersionResource) : r.Creating (ks.erase g) :=
  ⟨h.nodup.erase g, fun x hx => h.planned x (List.mem_of_mem_erase hx),
    fun x hx hx' => h.unvisited x hx (List.mem_of_mem_erase hx'), h.closed⟩

theorem Creating.log (h : r.Creating ks) {e : Effect} (hs : e.storedGVR = none)
    (hcl : e.closedGVR = none) : (r.log e).Creating ks :=
  ⟨h.nodup, h.planned,
    by simpa only [stored_log, hs, Option.toList_none, List.append_nil] using h.unvisited,
    by simp [h.closed, hcl]⟩

theorem Creating.logStored (h : r.Creating ks) (hg : g ∉ ks) :
    (r.log (.newResourceStorage g true)).Creating ks :=
  ⟨h.nodup, h.planned, by
    simp only [stored_log, Effect.storedGVR, Option.toList_some, List.forall_mem_append,
      List.forall_mem_singleton]
    exact ⟨h.unvisited, hg⟩, by simp [h.closed, Effect.closedGVR]⟩

/-- Two maps with the same unplanned keys list them as permutations of each other. -/
theorem perm_filter_keys {β γ : Type} {s₁ : GoMap GroupVersionResource β}
    {s₂ : GoMap GroupVersionResource γ} (P : GoMap GroupVersionResource ResourceSyncConfig)
    (h : ∀ x, x ∉ P → (x ∈ s₁ ↔ x ∈ s₂)) :
    s₁.keys.filter (· ∉ P) ~ s₂.keys.filter (· ∉ P) := by
  rw [List.perm_ext_iff_of_nodup ((AList.keys_nodup _).filter _) ((AList.keys_nodup _).filter _)]
  intro x
  simp only [List.mem_filter, AList.mem_keys, decide_eq_true_eq]
  exact and_congr_left (h x)

theorem Removing.nodup (h : r.Removing ks) : (r.closed ++ ks).Nodup :=
  h.nodup_iff.mpr ((AList.keys_nodup _).filter _)

/-- A key the removal loop has still to visit was registered, is not planned, and was not
closed yet. -/
theorem Removing.mem (h : r.Removing ks) (hg : g ∈ ks) :
    g ∈ r.registry₀ ∧ g ∉ r.configs ∧ g ∉ r.closed := by
  have hm := h.subset (List.mem_append_right _ hg)
  simp only [List.mem_filter, AList.mem_keys, decide_eq_true_eq] at hm
  exact ⟨hm.1, hm.2, fun hc => List.disjoint_of_nodup_append h.nodup hc hg⟩

theorem Removing.mem_closed (h : r.Removing ks) (hg : g ∈ r.closed) :
    g ∈ r.registry₀ ∧ g ∉ r.configs := by
  simpa using h.subset (List.mem_append_left _ hg)

theorem Removing.pick (h : r.Removing ks) (hg : g ∈ ks) : r.Removing (g :: ks.erase g) :=
  ((List.perm_cons_erase hg).append_left r.closed).symm.trans h

theorem Removing.closeDone (h : r.Removing (g :: ks)) :
    (r.log (.closeCompleted g)).Removing ks := by
  simpa [Removing, Effect.closedGVR] using h

theorem Cleaning.erasePlanned (h : r.Cleaning ks) (hg : g ∈ ks) (hP : g ∈ r.configs) :
    r.Cleaning (ks.erase g) := by
  refine ⟨h.1.erase g, List.Perm.trans ?_ h.2⟩
  refine List.Perm.append_left _ ?_
  simpa [hP] using ((List.perm_cons_erase hg).filter (· ∉ r.configs)).symm

theorem Cleaning.eraseUnplanned (h : r.Cleaning ks) (hg : g ∈ ks) :
    r.Cleaning (g :: ks.erase g) := by
  refine ⟨(List.perm_cons_erase hg).nodup_iff.mp h.1, List.Perm.trans ?_ h.2⟩
  exact ((List.perm_cons_erase hg).filter (· ∉ r.configs)).symm.append_left _

theorem Cleaning.cleanDone (h : r.Cleaning (g :: ks)) (hP : g ∉ r.configs) (ok : Bool) :
    (r.log (.cleanClusterResource g ok)).Cleaning ks := by
  refine ⟨(List.nodup_cons.mp h.1).2, ?_⟩
  simpa [Effect.cleanedGVR, hP] using h.2

theorem Cleaning.log (h : r.Cleaning ks) {e : Effect} (hc : e.cleanedGVR = none) :
    (r.log e).Cleaning ks := by
  simpa [Cleaning, hc] using h

end Refresh

namespace Ledger

/-- A `CleanClusterResource` call returned, whatever its outcome. -/
theorem cleanCall_done {d : Ledger} {r : Refresh} {g : GroupVersionResource}
    {ks : List GroupVersionResource} (hvd : r.versionsDeleted = []) (hP : g ∉ r.configs)
    (hcl : r.Cleaning (g :: ks))
    (hv : ∀ x, x ∈ d.storageResourceVersions ↔
      ((x ∈ r.versions₀ ∨ x ∈ r.stored) ∧ x ∉ r.cleaned) ∧ x ≠ g) (ok : Bool) :
    d.Tracked (r.log (.cleanClusterResource g ok)) ∧
      (r.log (.cleanClusterResource g ok)).versionsDeleted = [] ∧
      (r.log (.cleanClusterResource g ok)).Cleaning ks :=
  ⟨fun x => (hv x).trans (by simp [Effect.storedGVR, Effect.cleanedGVR, and_assoc]),
    by simp [hvd, Effect.deletedGVR], hcl.cleanDone hP ok⟩
end Ledger

/-- The run invariant. -/
def World.refreshOK (w : World) : Prop := w.ledger.Stage w.refresher

/-! ## The invariant over interleavings -/

/-- `Merge` starts a run from the registry and watermarks as they are. -/
theorem Ledger.stage_lock (d : Ledger) (cfgs : GoMap GroupVersionResource ResourceSyncConfig)
    (s : GroupResourceStatus) (del : List GroupVersionResource) (hd : del.Nodup) :
    ({ d with groupResourceStatus := some s } : Ledger).Stage
      (.lock ⟨cfgs, del, s.getStorageGVRToSyncGVRs, d.storageResourceSynchros,
        d.storageResourceVersions, d.nextMap, del, []⟩) :=
  ⟨⟨hd, le_refl _, fun _ h => (by cases h), fun _ h => (by cases h), fun _ _ _ => rfl,
      fun _ _ _ => rfl, fun _ _ hw hl => absurd (mem_of_lookup hl) hw,
      ⟨s, rfl, fun _ _ h => .inl (GroupResourceStatus.mem_of_mem_getStorageGVRToSyncGVRs h)⟩⟩,
    ⟨rfl, rfl, rfl, fun _ => by simp [Refresh.stored]⟩,
    ⟨AList.keys_nodup _, fun _ h => AList.mem_keys.mp h, fun _ h => (by cases h), rfl⟩,
    fun _ => by simp [Refresh.created, Refresh.closed]⟩

section Steps

variable {w w' : World}

theorem World.stage_of_refreshOK (hi : w.refreshOK) {pc : RefresherPC} (hr : w.refresher = pc) :
    w.ledger.Stage pc :=
  hr ▸ hi

theorem refreshOK_refresherMove (hi : w.refreshOK) (hm : RefresherMove w w') : w'.refreshOK := by
  cases hm with
  | merge hr => exact w.ledger.stage_lock _ _ _ (GroupResourceStatus.nodup_merge _)
  | lock hr _ => exact (w.stage_of_refreshOK hi hr :)
  | @createSkip r ks g hr hg _ =>
    obtain ⟨hb, he, hc, hreg⟩ := w.stage_of_refreshOK hi hr
    exact ⟨hb, he, hc.erase g, hreg⟩
  | @createNew r ks g hr hg hs =>
    obtain ⟨hb, he, hc, hreg⟩ := w.stage_of_refreshOK hi hr
    refine ⟨hb, he, hc.erase g, hreg, hc.planned g hg, hc.nodup.not_mem_erase,
      fun h0 => hs ((hreg g).mpr ⟨.inl h0, by simp [hc.closed]⟩), fun h' => hc.unvisited g h' hg⟩
  | createDone hr => exact (w.stage_of_refreshOK hi hr :)
  | storageFail hr =>
    obtain ⟨hb, he, hc, hreg, -⟩ := w.stage_of_refreshOK hi hr
    exact ⟨(hb.updateAll _ _ _ _).log rfl rfl rfl, he.log rfl rfl rfl, hc.log rfl rfl,
      hreg.log rfl rfl⟩
  | @storageHit r g ks rvs hr hl =>
    obtain ⟨hb, he, hc, hreg, hP, hks, hR, hst⟩ := w.stage_of_refreshOK hi hr
    exact ⟨hb.logStored hP hR,
      he.logStored fun x => ⟨.inr, fun h => h.elim (fun h => by subst h; exact mem_of_lookup hl) id⟩,
      hc.logStored hks, hreg.log rfl rfl, by simp [Effect.storedGVR],
      by simpa [Effect.createdGVR] using fun h => hst (hb.created g h)⟩
  | @storageNew r g ks hr hl =>
    obtain ⟨hb, he, hc, hreg, hP, hks, hR, hst⟩ := w.stage_of_refreshOK hi hr
    exact ⟨(hb.insertVersions hl).logStored hP hR, he.logStored fun x => AList.mem_insert _,
      hc.logStored hks, hreg.log rfl rfl, by simp [Effect.storedGVR],
      by simpa [Effect.createdGVR] using fun h => hst (hb.created g h)⟩
  | synchroFail hr =>
    obtain ⟨hb, he, hc, hreg, -⟩ := w.stage_of_refreshOK hi hr
    exact ⟨(hb.updateAll _ _ _ _).log rfl rfl rfl, he.log rfl rfl rfl, hc.log rfl rfl,
      hreg.log rfl rfl⟩
  | @synchroNew r g rvs ks cfg hr _ =>
    obtain ⟨hb, he, hc, hreg, hst, hcr⟩ := w.stage_of_refreshOK hi hr
    refine ⟨hb.logCreated hst, he.log rfl rfl rfl, hc.log rfl rfl, by simp [Effect.createdGVR],
      fun x => (hreg x).trans ?_⟩
    by_cases hx : x = g
    · subst hx; simp [hcr, hc.closed, Effect.createdGVR]
    · simp [hx, hc.closed, Effect.createdGVR]
  | launch hr => exact (w.stage_of_refreshOK hi hr :)
  | @store r g i ks hr =>
    obtain ⟨hb, he, hc, hcr, hreg⟩ := w.stage_of_refreshOK hi hr
    refine ⟨(hb.insertSynchro (hb.stored g (hb.created g hcr)).2 i).updateAll _ _ _ _, he, hc,
      fun x => (AList.mem_insert _).trans ?_⟩
    by_cases hx : x = g
    · subst hx; simp [hcr, hc.closed]
    · simpa [hx, hc.closed] using hreg x
  | spawnStart hr => exact (w.stage_of_refreshOK hi hr :)
  | unlock hr => exact (w.stage_of_refreshOK hi hr :)
  | @collect r hr =>
    obtain ⟨hb, he, hc, hreg⟩ := w.stage_of_refreshOK hi hr
    refine ⟨hb, he, ?_, hreg⟩
    rw [Refresh.Removing, hc.closed, List.nil_append]
    refine Refresh.perm_filter_keys _ fun x hP => (hreg x).trans ?_
    simp only [hc.closed, List.not_mem_nil, not_false_eq_true, and_true, AList.mem_keys]
    exact or_iff_left_of_imp fun h => absurd (hb.stored x (hb.created x h)).1 hP
  | @removeClose r ks g i hr hg _ =>
    obtain ⟨hb, he, hrem, hreg⟩ := w.stage_of_refreshOK hi hr
    exact ⟨hb, he, hrem.pick hg, hreg⟩
  | @removeSkip r ks g hr hg hl =>
    obtain ⟨hb, he, hrem, hreg⟩ := w.stage_of_refreshOK hi hr
    obtain ⟨hR, -, hcl⟩ := hrem.mem hg
    exact absurd ((hreg g).mpr ⟨.inl hR, hcl⟩) (AList.lookup_eq_none.mp hl)
  | @removeDone r hr =>
    obtain ⟨hb, he, hrem, hreg⟩ := w.stage_of_refreshOK hi hr
    have hcf := Refresh.cleanFailed_eq_nil he.cleaned
    have hpre : ∀ e ∈ r.effects, e.cleanedGVR = none := by
      simpa only [Refresh.cleaned, List.filterMap_eq_nil_iff] using he.cleaned
    refine ⟨hb, ⟨by simpa [Refresh.Removing] using hrem, hreg, ⟨r.effects, [], by simp, hpre,
      by simp⟩, he.deleted ▸ List.Sublist.refl _, by simp [he.deleted, hcf], by simp [hcf]⟩,
      fun x => (he.versions x).trans (by simp [he.cleaned]), he.versionsDeleted,
      AList.keys_nodup _, ?_⟩
    rw [he.cleaned, List.nil_append]
    exact Refresh.perm_filter_keys _ fun x hP =>
      (he.versions x).trans (or_iff_left_of_imp fun h => absurd (hb.stored x h).1 hP)
  | @closeDone r g i ks hr _ =>
    obtain ⟨hb, he, hrem, hreg⟩ := w.stage_of_refreshOK hi hr
    have hgc := (hrem.mem (List.mem_cons_self g ks)).2.2
    refine ⟨hb.log rfl rfl rfl, he.log rfl rfl rfl, hrem.closeDone, by simp [Effect.closedGVR],
      fun x => (hreg x).trans ?_⟩
    by_cases hx : x = g
    · subst hx; simp [hgc, Effect.createdGVR, Effect.closedGVR]
    · simp [hx, Effect.createdGVR, Effect.closedGVR]
  | @removed r g ks hr =>
    obtain ⟨hb, he, hrem, hgc, hreg⟩ := w.stage_of_refreshOK hi hr
    refine ⟨(hb.eraseSynchro (hrem.mem_closed hgc).2).updateAll _ _ _ _, he, hrem,
      fun x => AList.mem_erase.trans ?_⟩
    by_cases hx : x = g
    · subst hx; simp [hgc]
    · simpa [hx] using hreg x
  | @cleanKeep r ks g hr hg hP =>
    obtain ⟨hb, hl, ht, hvd, hcl⟩ := w.stage_of_refreshOK hi hr
    exact ⟨hb, hl, ht, hvd, hcl.erasePlanned hg hP⟩
  | @cleanErase r ks g hr hg hP =>
    obtain ⟨hb, hl, ht, hvd, hcl⟩ := w.stage_of_refreshOK hi hr
    refine ⟨hb.eraseVersions hP, { hl with }, hvd, hP, hcl.eraseUnplanned hg, fun x => ?_⟩
    exact AList.mem_erase.trans (and_comm.trans (and_congr_left' (ht x)))
  | @cleanOk r g ks hr =>
    obtain ⟨hb, hl, hvd, hP, hcl, hv⟩ := w.stage_of_refreshOK hi hr
    exact ⟨hb.log rfl rfl rfl, hl.log rfl rfl rfl, Ledger.cleanCall_done hvd hP hcl hv true⟩
  | @cleanFail r g ks e hr =>
    obtain ⟨hb, hl, hvd, hP, hcl, hv⟩ := w.stage_of_refreshOK hi hr
    exact ⟨hb.cleanFail e, hl.cleanFail hb hvd e,
      Ledger.cleanCall_done hvd hP hcl hv false⟩
  | @cleanDone r hr =>
    obtain ⟨hb, hl, ht, hvd, hcl⟩ := w.stage_of_refreshOK hi hr
    exact ⟨hb, hl, ht, hcl, by simp [hvd]⟩
  | @deletePick r ks gvr hr hg =>
    obtain ⟨hb, hl, ht, hcl, hperm⟩ := w.stage_of_refreshOK hi hr
    refine ⟨hb.deleteVersion gvr, hl.deleteVersion (hperm.subset (List.mem_append_right _ hg)),
      by simpa [Ledger.Tracked, Effect.storedGVR, Effect.cleanedGVR] using ht, hcl.log rfl, ?_⟩
    simpa [Effect.deletedGVR] using ((List.perm_cons_erase hg).append_left _).symm.trans hperm
  | _ => trivial

theorem World.envStep_refresher {e : EnvEvent} (h : w.envStep e = some w') :
    w'.refresher = w.refresher ∨ w'.refresher = .recv := by
  unfold World.envStep at h
  split at h <;> (repeat' split at h) <;> cases h <;> simp

theorem refreshOK_step (hi : w.refreshOK) (h : Step w w') : w'.refreshOK := by
  obtain ⟨a, h⟩ := h
  cases a with
  | refresher c => exact refreshOK_refresherMove hi (refresherMove_of_step h)
  | env e =>
    rcases World.envStep_refresher h with hr | hr
    · obtain ⟨_, _, _, _, _, _, rfl⟩ := envStep_shape h
      simp only at hr
      rw [World.refreshOK, hr]
      exact hi
    · rw [World.refreshOK, hr]
      trivial
  | monitor m => obtain ⟨_, _, _, _, _, _, rfl⟩ := monitorStep_shape h; exact hi
  | runner c => obtain ⟨_, _, _, _, _, _, _, _, rfl⟩ := runnerStep_shape h; exact hi
  | handlerCloser => obtain ⟨_, _, rfl⟩ := handlerCloserStep_shape h; exact hi
  | run c => obtain ⟨_, _, _, _, _, _, _, rfl⟩ := runStep_shape h; exact hi
  | statusLoop => obtain ⟨_, _, _, _, rfl⟩ := statusStep_shape h; exact hi
  | shutdown i => obtain ⟨_, _, _, _, _, _, _, rfl⟩ := shutdownStep_shape h; exact hi
  | setter i => obtain ⟨_, _, _, _, _, rfl⟩ := setterStep_shape h; exact hi

theorem refreshOK_of_reachable (hw : Reachable w) : w.refreshOK :=
  Reachable.induction (fun _ _ => trivial) (fun _ _ _ hi hs => refreshOK_step hi hs) hw


/-! ## What a run leaves behind -/

/-- The `apps/v1` deployments resource. -/
def deployments : GroupVersionResource := ⟨"apps", "v1", "deployments"⟩

/-- A plan that synchronizes `pods`, with its events, and `deployments`, each into its own
storage resource. -/
def bothPlan : GoMap GroupVersionResource ResourceSyncConfig :=
  ((∅ : GoMap GroupVersionResource ResourceSyncConfig).insert pods ⟨pods, "Pod", true⟩).insert
    deployments ⟨deployments, "Deployment", false⟩

/-- A negotiated status listing one version of each, stored under itself. -/
def bothStatus : GroupResourceStatus :=
  ((∅ : GroupResourceStatus).insert pods ⟨pods, "", "", "", "", "", ""⟩).insert deployments
    ⟨deployments, "", "", "", "", "", ""⟩

/-- After startup, a refresh plans both resources, creates and launches both reconcilers
and ends. -/
def createBoth : List Action :=
  [.env (.setResources (some []) false), .setter 0, .setter 0, .setter 0,
    .refresher .next, .refresher .next, .refresher .next,
    .refresher (.negotiated bothStatus bothPlan), .refresher .next, .refresher .next,
    .refresher (.pick pods), .refresher .next, .refresher .next, .refresher .next,
    .refresher .next, .refresher .next,
    .refresher (.pick deployments), .refresher .next, .refresher .next, .refresher .next,
    .refresher .next, .refresher .next,
    .refresher .next, .refresher .next, .refresher .next, .refresher .next,
    .refresher (.pick pods), .refresher (.pick deployments), .refresher .next, .refresher .next]

/-- A second refresh with an empty plan and an empty status: `Merge` keeps both versions
and returns them as deleted, and the removal loop waits for the `Close` of `pods`. -/
def dropBoth : List Action :=
  [.env (.setResources (some []) false), .setter 1, .setter 1, .setter 1,
    .refresher .next, .refresher .next, .refresher .next, .refresher (.negotiated ∅ ∅),
    .refresher .next, .refresher .next, .refresher .next, .refresher .next, .refresher .next,
    .refresher (.pick pods)]

/-- Both reconcilers return and close, the removal loop unregisters both, and the clean-up
loop calls `CleanClusterResource` for `pods`. -/
def closeBoth : List Action :=
  [.env (.synchroReturns 0), .env (.synchroClosed 0), .refresher .next, .refresher .next,
    .refresher (.pick deployments), .env (.synchroReturns 1), .env (.synchroClosed 1),
    .refresher .next, .refresher .next, .refresher .next, .refresher (.pick pods)]

/-- The clean-up of `pods` fails and that of `deployments` succeeds, and the run deletes the
one version no failed clean-up keeps. -/
def cleanBoth : List Action :=
  [.refresher (.fail "timeout"), .refresher (.pick deployments), .refresher .next,
    .refresher .next, .refresher (.pick deployments)]

/-- The second refresh waiting for the `Close` of `pods`. -/
def bothWaiting : World :=
  ((World.new ∅ "").runActions (startupSchedule ++ createBoth ++ dropBoth)).get (by decide)

theorem bothWaiting_reachable : Reachable bothWaiting :=
  ⟨∅, "", steps_of_runActions (Option.some_get _).symm⟩

/-- The second refresh calling `CleanClusterResource` for `pods`. -/
def bothCleaning : World := (bothWaiting.runActions closeBoth).get (by decide)

theorem bothCleaning_reachable : Reachable bothCleaning :=
  bothWaiting_reachable.steps (steps_of_runActions (Option.some_get _).symm)

/-- The second refresh at its end. -/
def bothDropped : World := (bothCleaning.runActions cleanBoth).get (by decide)

theorem bothDropped_reachable : Reachable bothDropped :=
  bothCleaning_reachable.steps (steps_of_runActions (Option.some_get _).symm)

end Steps

end Clusterpedia

import Clusterpedia.Proof.RefreshRun

/-!
# The sync conditions a refresh run leaves

`refreshSyncResources` reports what happened to each storage resource on the sync
conditions of the versions stored under it (`updateSyncConditions`): `Pending` with
reason `SynchroCreateFailed` when `NewResourceStorage` or `NewResourceSynchro` failed,
`Unknown` with no reason once the new reconciler is registered, `Stop` with
`SynchroRemoved` once a dropped reconciler has closed, and `Stop` with
`CleanResourceFailed` when `CleanClusterResource` failed.

The versions stored under each storage resource are fixed when the run starts
(`GetStorageGVRToSyncGVRs` of the merged status), and no version is stored under two
storage resources (`apart_getStorageGVRToSyncGVRs`), so one resource's report never
touches another's versions. Two reports are made a step after the call they report:
`Unknown` after `StartWithChannel`, at the registry `Store`, and `SynchroRemoved` after the
`Close` wait. Neither position can return early.

So at every point of a run, every version the status still has shows the last outcome
the run recorded for its storage resource (`Refresh.reported`), except the one resource
whose report is the refresher's next statement; in particular when the run ends and when
it returns early while waiting for a `Close` (`refresh_conditions_report_outcomes`).

Reports change conditions and never add or remove a version, and `DeleteVersion` removes
one, so the status lists the versions of the merged status that `DeleteVersion` has not
removed. When the run ends, these are the merged versions less those `Merge` found gone,
of which it keeps those a failed clean-up protects (`refresh_run_status_versions`).
-/

namespace Clusterpedia

/-! ## What each call reports -/

/-- The condition status and reason `refreshSyncResources` reports for the outcome of a
call on storage resource `g`; `none` for a call it reports nothing for. -/
def Effect.conditionOf (g : GroupVersionResource) : Effect → Option (String × String)
  | .newResourceStorage g' false | .newResourceSynchro g' false =>
    if g' = g then some (ResourceSyncStatusPending, "SynchroCreateFailed") else none
  | .newResourceSynchro g' true => if g' = g then some (ResourceSyncStatusUnknown, "") else none
  | .closeCompleted g' => if g' = g then some (ResourceSyncStatusStop, "SynchroRemoved") else none
  | .cleanClusterResource g' false =>
    if g' = g then some (ResourceSyncStatusStop, "CleanResourceFailed") else none
  | _ => none

namespace GroupResourceStatus

/-- A version listed under `g` has a condition naming `g` as its storage resource. -/
theorem lookup_of_mem_getStorageGVRToSyncGVRs {s : GroupResourceStatus}
    {g gvr : GroupVersionResource} (h : gvr ∈ s.getStorageGVRToSyncGVRs g) :
    ∃ c, s.lookup gvr = some c ∧ c.storageGVR = g := by
  obtain ⟨⟨x, c⟩, he, rfl⟩ := List.mem_map.mp h
  obtain ⟨hm, hc⟩ := List.mem_filter.mp he
  exact ⟨c, AList.mem_lookup_iff.mpr hm, of_decide_eq_true hc⟩

/-- No version is stored under two storage resources. -/
theorem apart_getStorageGVRToSyncGVRs (s : GroupResourceStatus) {g g' gvr : GroupVersionResource}
    (h : gvr ∈ s.getStorageGVRToSyncGVRs g) (h' : gvr ∈ s.getStorageGVRToSyncGVRs g') : g = g' := by
  obtain ⟨c, hc, rfl⟩ := lookup_of_mem_getStorageGVRToSyncGVRs h
  obtain ⟨c', hc', rfl⟩ := lookup_of_mem_getStorageGVRToSyncGVRs h'
  cases hc.symm.trans hc'
  rfl

/-- `UpdateSyncCondition` keeps every condition's storage resource. -/
theorem storageGVR_updateSyncCondition {s : GroupResourceStatus} {gvr x : GroupVersionResource}
    {st rs msg : String} {c : SyncCondition}
    (h : (s.updateSyncCondition gvr st rs msg).lookup x = some c) :
    ∃ c₀, s.lookup x = some c₀ ∧ c.storageGVR = c₀.storageGVR := by
  unfold updateSyncCondition at h
  split at h
  · rename_i c₁ hc₁
    by_cases hx : x = gvr
    · subst hx
      rw [AList.lookup_insert] at h
      cases h
      exact ⟨c₁, hc₁, rfl⟩
    · rw [AList.lookup_insert_ne hx] at h
      exact ⟨c, h, rfl⟩
  · exact ⟨c, h, rfl⟩

theorem storageGVR_updateAll {l : List GroupVersionResource} {x : GroupVersionResource}
    {st rs msg : String} {c : SyncCondition} :
    ∀ {s : GroupResourceStatus}, (updateAll l st rs msg s).lookup x = some c →
      ∃ c₀, s.lookup x = some c₀ ∧ c.storageGVR = c₀.storageGVR := by
  induction l with
  | nil => exact fun h => ⟨c, h, rfl⟩
  | cons y l ih =>
    intro s h
    obtain ⟨c₁, h₁, e₁⟩ := ih h
    obtain ⟨c₀, h₀, e₀⟩ := storageGVR_updateSyncCondition h₁
    exact ⟨c₀, h₀, e₁.trans e₀⟩

end GroupResourceStatus

namespace Refresh

variable (r : Refresh)

/-- The last outcome this run reported for storage resource `g`. -/
def reported (g : GroupVersionResource) : Option (String × String) :=
  (r.effects.filterMap (Effect.conditionOf g)).getLast?

/-- No version is stored under two storage resources of the run. -/
def Apart : Prop :=
  ∀ g g' gvr, gvr ∈ r.syncGVRs g → gvr ∈ r.syncGVRs g' → g = g'

/-- The versions stored under `g` that the status has show the last outcome reported
for `g`. -/
def Shows (s : Option GroupResourceStatus) (g : GroupVersionResource) : Prop :=
  ∀ st ∈ s, ∀ gvr ∈ r.syncGVRs g, ∀ c, st.lookup gvr = some c →
    ∀ o ∈ r.reported g, o = (c.status, c.reason)

variable {r}

@[simp] theorem reported_log (e : Effect) (g : GroupVersionResource) :
    (r.log e).reported g = (e.conditionOf g).or (r.reported g) := by
  show (List.filterMap _ (r.effects ++ [e])).getLast? = _
  rw [List.filterMap_append, List.getLast?_append]
  cases h : e.conditionOf g <;> simp [h, reported]

theorem Shows.of_effects_nil (h : r.effects = []) (s : Option GroupResourceStatus)
    (g : GroupVersionResource) : r.Shows s g := by
  intro _ _ _ _ _ _ o ho
  simp [reported, h] at ho

/-- Logging a call that reports nothing for `g`. -/
theorem Shows.log {s : Option GroupResourceStatus} {g : GroupVersionResource} (h : r.Shows s g)
    {e : Effect} (he : e.conditionOf g = none) : (r.log e).Shows s g := by
  intro st hs gvr hg c hc o ho
  exact h st hs gvr hg c hc o (by simpa [he] using ho)

/-- A report for `g` leaves the versions of every other storage resource alone. -/
theorem Shows.update_ne {s : Option GroupResourceStatus} {g g' : GroupVersionResource}
    (h : r.Shows s g') (ha : r.Apart) (hne : g' ≠ g) (stat rs msg : String) :
    r.Shows (s.map (GroupResourceStatus.updateAll (r.syncGVRs g) stat rs msg)) g' := by
  intro st hs gvr hg c hc o ho
  obtain ⟨st₀, hs₀, rfl⟩ := Option.mem_map.mp hs
  rw [GroupResourceStatus.lookup_updateAll_of_not_mem fun h' => hne (ha g' g gvr hg h')] at hc
  exact h st₀ hs₀ gvr hg c hc o ho

/-- A report for `g` of the outcome last recorded for `g`. -/
theorem Shows.update_self {s : Option GroupResourceStatus} {g : GroupVersionResource}
    {stat rs msg : String} (hr : r.reported g = some (stat, rs)) :
    r.Shows (s.map (GroupResourceStatus.updateAll (r.syncGVRs g) stat rs msg)) g := by
  intro st hs gvr hg c hc o ho
  obtain ⟨st₀, -, rfl⟩ := Option.mem_map.mp hs
  have hm : gvr ∈ st₀ := GroupResourceStatus.mem_updateAll.mp (mem_of_lookup hc)
  obtain ⟨c', hc', hst, hrs⟩ : ∃ c', (GroupResourceStatus.updateAll (r.syncGVRs g) stat rs msg
      st₀).lookup gvr = some c' ∧ c'.status = stat ∧ c'.reason = rs :=
    GroupResourceStatus.lookup_updateAll_of_mem hg hm
  cases hc.symm.trans hc'
  rw [hr] at ho
  cases ho
  rw [hst, hrs]

/-- `DeleteVersion` drops a version and leaves the others alone. -/
theorem Shows.deleteVersion {s : Option GroupResourceStatus} {g : GroupVersionResource}
    (h : r.Shows s g) (gvr' : GroupVersionResource) :
    r.Shows (s.map (·.deleteVersion gvr')) g := by
  intro st hs gvr hg c hc o ho
  obtain ⟨st₀, hs₀, rfl⟩ := Option.mem_map.mp hs
  by_cases he : gvr = gvr'
  · subst he
    simp [GroupResourceStatus.deleteVersion, AList.lookup_erase] at hc
  · rw [GroupResourceStatus.deleteVersion, AList.lookup_erase_ne he] at hc
    exact h st₀ hs₀ gvr hg c hc o ho

end Refresh

/-! ## The invariant -/

namespace Refresh

/-- What holds of the status throughout a run: no version is stored under two storage
resources, the condition of a version names the storage resource it is listed under, and
the status lists the versions of the merged status that `DeleteVersion` has not
removed. -/
structure StatusOK (r : Refresh) (s : Option GroupResourceStatus) : Prop where
  apart : r.Apart
  stored : ∀ st ∈ s, ∀ g, ∀ gvr ∈ r.syncGVRs g, ∀ c, st.lookup gvr = some c → c.storageGVR = g
  lists : ∀ st ∈ s, ∀ gvr, gvr ∈ st ↔ (∃ g, gvr ∈ r.syncGVRs g) ∧ gvr ∉ r.versionsDeleted

variable {r : Refresh} {s : Option GroupResourceStatus}

/-- `Merge` starts a run whose version lists are the merged status's. -/
theorem StatusOK.start (st : GroupResourceStatus) (h : r.syncGVRs = st.getStorageGVRToSyncGVRs)
    (hd : r.versionsDeleted = []) : r.StatusOK (some st) where
  apart _ _ _ h1 h2 := st.apart_getStorageGVRToSyncGVRs (h ▸ h1) (h ▸ h2)
  stored st' hs g gvr hg c hc := by
    cases hs
    obtain ⟨c', hc', rfl⟩ :=
      GroupResourceStatus.lookup_of_mem_getStorageGVRToSyncGVRs (h ▸ hg)
    cases hc.symm.trans hc'
    rfl
  lists st' hs gvr := by
    cases hs
    rw [h, hd]
    constructor
    · intro hm
      obtain ⟨c, hc⟩ := Option.isSome_iff_exists.mp (AList.lookup_isSome.mpr hm)
      exact ⟨⟨c.storageGVR, List.mem_map.mpr ⟨⟨gvr, c⟩, List.mem_filter.mpr
        ⟨AList.mem_lookup_iff.mp hc, decide_eq_true rfl⟩, rfl⟩⟩, List.not_mem_nil _⟩
    · rintro ⟨⟨_, hg⟩, -⟩
      exact GroupResourceStatus.mem_of_mem_getStorageGVRToSyncGVRs hg

/-- Only the version lists and the `DeleteVersion` calls of the record matter. -/
theorem StatusOK.of_eq {r' : Refresh} (h : r.StatusOK s) (h1 : r'.syncGVRs = r.syncGVRs)
    (h2 : r'.versionsDeleted = r.versionsDeleted) : r'.StatusOK s :=
  ⟨by rw [Apart, h1]; exact h.apart, by rw [h1]; exact h.stored, by rw [h1, h2]; exact h.lists⟩

theorem StatusOK.log (h : r.StatusOK s) {e : Effect} (he : e.deletedGVR = none) :
    (r.log e).StatusOK s :=
  ⟨h.apart, h.stored, by simpa only [versionsDeleted_log, he, Option.toList_none,
    List.append_nil] using h.lists⟩

theorem StatusOK.update (h : r.StatusOK s) (l : List GroupVersionResource) (stat rs msg : String) :
    r.StatusOK (s.map (GroupResourceStatus.updateAll l stat rs msg)) := by
  refine ⟨h.apart, fun st hs g gvr hg c hc => ?_, fun st hs gvr => ?_⟩
  · obtain ⟨st₀, hs₀, rfl⟩ := Option.mem_map.mp hs
    obtain ⟨c₀, hc₀, e⟩ := GroupResourceStatus.storageGVR_updateAll hc
    exact e.trans (h.stored st₀ hs₀ g gvr hg c₀ hc₀)
  · obtain ⟨st₀, hs₀, rfl⟩ := Option.mem_map.mp hs
    exact GroupResourceStatus.mem_updateAll.trans (h.lists st₀ hs₀ gvr)

theorem StatusOK.deleteVersion (h : r.StatusOK s) (gvr : GroupVersionResource) :
    (r.log (.deleteVersion gvr)).StatusOK (s.map (·.deleteVersion gvr)) := by
  refine ⟨h.apart, fun st hs g x hg c hc => ?_, fun st hs x => ?_⟩
  · obtain ⟨st₀, hs₀, rfl⟩ := Option.mem_map.mp hs
    refine h.stored st₀ hs₀ g x hg c ?_
    by_cases he : x = gvr
    · subst he
      simp [GroupResourceStatus.deleteVersion, AList.lookup_erase] at hc
    · rwa [GroupResourceStatus.deleteVersion, AList.lookup_erase_ne he] at hc
  obtain ⟨st₀, hs₀, rfl⟩ := Option.mem_map.mp hs
  simp only [GroupResourceStatus.deleteVersion, AList.mem_erase, h.lists st₀ hs₀ x,
    versionsDeleted_log, Effect.deletedGVR, Option.toList_some, List.mem_append,
    List.mem_singleton, not_or]
  tauto

end Refresh

/-- What the refresher's position says about the sync conditions: at `launch` and
`store` the `Unknown` report of the new reconciler is still to be made, at `removed` the
`SynchroRemoved` report; every other version shows its last outcome. -/
def ConditionsOK (s : Option GroupResourceStatus) : RefresherPC → Prop
  | .launch r g _ _ | .store r g _ _ =>
    r.StatusOK s ∧ (∀ g', g' ≠ g → r.Shows s g') ∧
      r.reported g = some (ResourceSyncStatusUnknown, "")
  | .removed r g _ =>
    r.StatusOK s ∧ (∀ g', g' ≠ g → r.Shows s g') ∧
      r.reported g = some (ResourceSyncStatusStop, "SynchroRemoved")
  | .lock r | .create r _ | .newStorage r _ _ | .newSynchro r _ _ _ | .spawnStart r _ _
  | .unlock r | .collect r | .remove r _ | .closeWait r _ _ _ | .clean r _ | .cleanCall r _ _
  | .deleteVersions r _ => r.StatusOK s ∧ ∀ g, r.Shows s g
  | _ => True

/-- The sync-conditions invariant of a world. -/
def World.conditionsOK (w : World) : Prop := ConditionsOK w.groupResourceStatus w.refresher

namespace Refresh

variable {r : Refresh} {s : Option GroupResourceStatus}

/-- A call reported and its report made in one step. -/
theorem Shows.report (ha : r.Apart) (h : ∀ g, r.Shows s g) {e : Effect} {g : GroupVersionResource}
    {stat rs : String} (he : e.conditionOf g = some (stat, rs))
    (hn : ∀ g', g' ≠ g → e.conditionOf g' = none) (msg : String) (g' : GroupVersionResource) :
    (r.log e).Shows (s.map (GroupResourceStatus.updateAll (r.syncGVRs g) stat rs msg)) g' := by
  by_cases hg : g' = g
  · subst hg
    exact Shows.update_self (by simp [he])
  · exact ((h g').update_ne ha hg stat rs msg).log (hn g' hg)

/-- The deferred report made. -/
theorem Shows.pending (ha : r.Apart) {g : GroupVersionResource} (h : ∀ g', g' ≠ g → r.Shows s g')
    {stat rs : String} (hr : r.reported g = some (stat, rs)) (msg : String)
    (g' : GroupVersionResource) :
    r.Shows (s.map (GroupResourceStatus.updateAll (r.syncGVRs g) stat rs msg)) g' := by
  by_cases hg : g' = g
  · subst hg; exact Shows.update_self hr
  · exact (h g' hg).update_ne ha hg stat rs msg

end Refresh

section Steps

variable {w w' : World}

theorem World.conditions_of (hi : w.conditionsOK) {pc : RefresherPC} (hr : w.refresher = pc) :
    ConditionsOK w.groupResourceStatus pc :=
  hr ▸ hi

theorem conditionsOK_refresherMove (hi : w.conditionsOK) (hm : RefresherMove w w') :
    w'.conditionsOK := by
  cases hm with
  | merge _ => exact ⟨Refresh.StatusOK.start _ rfl rfl, Refresh.Shows.of_effects_nil rfl _⟩
  | storageFail hr | synchroFail hr =>
    obtain ⟨hk, h⟩ := w.conditions_of hi hr
    exact ⟨(hk.update _ _ _ _).log (by rfl), Refresh.Shows.report hk.apart h
      (by simp [Effect.conditionOf]) (fun g' hg => by simp [Effect.conditionOf, Ne.symm hg]) _⟩
  | @cleanFail r g ks e hr =>
    obtain ⟨hk, h⟩ := w.conditions_of hi hr
    exact ⟨(@Refresh.StatusOK.log r _ (hk.update _ _ _ _) (.cleanClusterResource g false)
      rfl).of_eq rfl rfl,
      Refresh.Shows.report hk.apart h
      (by simp [Effect.conditionOf]) (fun g' hg => by simp [Effect.conditionOf, Ne.symm hg]) _⟩
  | storageHit hr _ | storageNew hr _ | cleanOk hr =>
    obtain ⟨hk, h⟩ := w.conditions_of hi hr
    exact ⟨hk.log (by rfl), fun g => (h g).log (by simp [Effect.conditionOf])⟩
  | synchroNew hr _ | closeDone hr _ =>
    obtain ⟨hk, h⟩ := w.conditions_of hi hr
    exact ⟨hk.log (by rfl), fun g' hg => (h g').log (by simp [Effect.conditionOf, Ne.symm hg]),
      by simp [Effect.conditionOf]⟩
  | store hr =>
    obtain ⟨hk, h, hrep⟩ := w.conditions_of hi hr
    exact ⟨hk.update _ _ _ _, Refresh.Shows.pending hk.apart h hrep _⟩
  | removed hr =>
    obtain ⟨hk, h, hrep⟩ := w.conditions_of hi hr
    exact ⟨hk.update _ _ _ _, Refresh.Shows.pending hk.apart h hrep _⟩
  | @deletePick r ks gvr hr _ =>
    obtain ⟨hk, h⟩ := w.conditions_of hi hr
    exact ⟨hk.deleteVersion gvr, fun g => ((h g).deleteVersion gvr).log (by rfl)⟩
  | launch hr | lock hr _ | createSkip hr _ _ | createNew hr _ _ | createDone hr
  | spawnStart hr | unlock hr | collect hr | removeClose hr _ _ | removeSkip hr _ _
  | removeDone hr | cleanKeep hr _ _ | cleanErase hr _ _ | cleanDone hr =>
    exact (w.conditions_of hi hr :)
  | _ => trivial

theorem conditionsOK_step (hi : w.conditionsOK) (h : Step w w') : w'.conditionsOK := by
  rcases h.refresher_cases with ⟨c, h⟩ | ⟨e, h⟩ | ⟨hr, hg, -⟩
  · exact conditionsOK_refresherMove hi (refresherMove_of_step h)
  · cases e
    case afterStart => obtain ⟨_, rfl⟩ := envStep_afterStart h; trivial
    all_goals
      simp only [World.envStep] at h
      (repeat' split at h) <;> cases h
      exact hi
  · rw [World.conditionsOK, hr, hg]; exact hi

theorem conditionsOK_of_reachable (hw : Reachable w) : w.conditionsOK :=
  Reachable.induction (fun _ _ => trivial) (fun _ _ _ hi hs => conditionsOK_step hi hs) hw

/-- **The sync conditions report the outcomes.** When a run ends, and when it returns
early while waiting for a `Close`, every version the status still has shows the last
outcome the run recorded for the storage resource it is stored under: `Pending /
SynchroCreateFailed`, `Unknown`, `Stop / SynchroRemoved` or `Stop / CleanResourceFailed`.
No report for one storage resource is lost or overwritten by another's. -/
theorem refresh_conditions_report_outcomes (hw : Reachable w) :
    (∀ r ks, w.refresher = .deleteVersions r ks → ∀ g, r.Shows w.groupResourceStatus g) ∧
    ∀ r g i ks, w.refresher = .closeWait r g i ks → ∀ g', r.Shows w.groupResourceStatus g' := by
  have hi := conditionsOK_of_reachable hw
  exact ⟨fun r ks hr => (w.conditions_of hi hr).2, fun r g i ks hr => (w.conditions_of hi hr).2⟩

/-- A negotiated status with one synchronized version, `pods`, stored under itself. -/
def podsStatus : GroupResourceStatus :=
  (∅ : GroupResourceStatus).insert pods ⟨pods, "", "", "", "", "", ""⟩

/-- `SetResources` plans `pods` with a status that lists it, its `NewResourceStorage`
fails, and the run gets past its clean-up loop. -/
def failPods : List Action :=
  [.env (.setResources (some []) false), .setter 0, .setter 0, .setter 0,
    .refresher .next, .refresher .next, .refresher .next,
    .refresher (.negotiated podsStatus podsPlan), .refresher .next, .refresher .next,
    .refresher (.pick pods), .refresher (.fail "timeout"), .refresher .next, .refresher .next,
    .refresher .next, .refresher .next, .refresher .next]

def failWorld : World :=
  ((World.new ∅ "").runActions (startupSchedule ++ failPods)).get (by decide)

theorem failWorld_reachable : Reachable failWorld :=
  ⟨∅, "", steps_of_runActions (Option.some_get _).symm⟩

theorem refresh_conditions_report_outcomes_failed :
    (∀ r ks, failWorld.refresher = .deleteVersions r ks →
      ∀ g, r.Shows failWorld.groupResourceStatus g) ∧
    ∀ r g i ks, failWorld.refresher = .closeWait r g i ks →
      ∀ g', r.Shows failWorld.groupResourceStatus g' :=
  refresh_conditions_report_outcomes failWorld_reachable

/-- **The versions a run leaves.** When a run ends, the status lists exactly the versions of
the merged status, less those `Merge` found gone, of which it keeps the ones stored under a
storage resource whose `CleanClusterResource` failed in this run. -/
theorem refresh_run_status_versions (hw : Reachable w) :
    ∀ r, w.refresher = .deleteVersions r [] → ∃ st, w.groupResourceStatus = some st ∧
      ∀ gvr, gvr ∈ st ↔ (∃ g, gvr ∈ r.syncGVRs g) ∧
        (gvr ∈ r.deleted₀ → ∃ g ∈ r.cleanFailed, gvr ∈ r.syncGVRs g) := by
  intro r hr
  obtain ⟨hb, hl, -, -, hperm⟩ := w.stage_of_refreshOK (refreshOK_of_reachable hw) hr
  obtain ⟨hk, -⟩ := w.conditions_of (conditionsOK_of_reachable hw) hr
  obtain ⟨st, hst, -⟩ := hb.status
  refine ⟨st, hst, fun gvr => (hk.lists st hst gvr).trans (and_congr_right fun _ => ?_)⟩
  rw [List.append_nil] at hperm
  rw [hperm.mem_iff, hl.deleted]
  simp only [not_and, not_forall, not_not, exists_prop]

/-- The record of that run: `pods` planned and listed, its storage failed. -/
def failRun : Refresh :=
  ⟨podsPlan, [], podsStatus.getStorageGVRToSyncGVRs, ∅, ∅, 0, [], [.newResourceStorage pods false]⟩

/-- The second refresh of the trace with both resources: `Merge` returned both versions as
deleted, and the failed clean-up of `pods` keeps its version in the status. -/
theorem refresh_run_status_versions_both :
    ∃ r st, bothDropped.refresher = .deleteVersions r [] ∧ r.deleted₀ = [deployments, pods] ∧
      r.cleanFailed = [pods] ∧ bothDropped.groupResourceStatus = some st ∧
      ∀ gvr, gvr ∈ st ↔ (∃ g, gvr ∈ r.syncGVRs g) ∧
        (gvr ∈ r.deleted₀ → ∃ g ∈ r.cleanFailed, gvr ∈ r.syncGVRs g) := by
  obtain ⟨st, hst, hmem⟩ := refresh_run_status_versions bothDropped_reachable _ rfl
  exact ⟨_, st, rfl, rfl, rfl, hst, hmem⟩

end Steps

end Clusterpedia

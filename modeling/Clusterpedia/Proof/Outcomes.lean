import Clusterpedia.Proof.Conditions

/-!
# What a refresh run reports for each storage resource

`refreshSyncResources` visits every planned storage resource once in its creation loop,
every registered resource its plan dropped once in its removal loop, and every watermark
entry its plan dropped once in its clean-up loop. So the outcome it last reports for a
storage resource `g` (`Refresh.reported`) is decided by the sets its ghost record keeps
(`Refresh.outcome`):

* a planned resource registered before the run: nothing;
* a planned new resource: `Unknown` once its reconciler is created, else
  `Pending / SynchroCreateFailed`, whichever constructor failed;
* a dropped resource: `Stop / CleanResourceFailed` when its clean-up failed, else
  `Stop / SynchroRemoved` when its reconciler was closed, else nothing.

At every position of a run the outcome reported so far is the one of the keys the
current loop has visited (`ReportsOK`); with the sync-conditions invariant this gives
what each version shows when the run ends (`refresh_run_reports`). Every such outcome of
a resource left without a reconciler has a status and a reason, so `genClusterStatus`
publishes it as it is rather than its `ResourceSynchroNotFound` defaults
(`cluster_status_shows_outcomes`).
-/

namespace Clusterpedia

namespace Refresh

variable (r : Refresh)

/-- What a run reports for a planned storage resource its creation loop visited. -/
def createReport (g : GroupVersionResource) : Option (String × String) :=
  if g ∈ r.registry₀ then none
  else if g ∈ r.created then some (ResourceSyncStatusUnknown, "")
  else some (ResourceSyncStatusPending, "SynchroCreateFailed")

/-- What a run reports for a storage resource its plan dropped. -/
def removeReport (g : GroupVersionResource) : Option (String × String) :=
  if g ∈ r.cleanFailed then some (ResourceSyncStatusStop, "CleanResourceFailed")
  else if g ∈ r.closed then some (ResourceSyncStatusStop, "SynchroRemoved")
  else none

/-- What a run reports for `g` once its creation loop has visited every planned key but
those of `ks`. -/
def creatingReport (ks : List GroupVersionResource) (g : GroupVersionResource) :
    Option (String × String) :=
  if g ∈ r.configs ∧ g ∉ ks then r.createReport g else none

/-- What a run past its creation loop reports for `g`. -/
def outcome (g : GroupVersionResource) : Option (String × String) :=
  if g ∈ r.configs then r.createReport g else r.removeReport g

/-- The creation loop has reported the outcome of the keys it visited. -/
def Creates (ks : List GroupVersionResource) : Prop := ∀ g, r.reported g = r.creatingReport ks g

/-- Past the creation loop, every outcome reported so far is the run's. -/
def Ends : Prop := ∀ g, r.reported g = r.outcome g

variable {r} {ks : List GroupVersionResource} {e : Effect} {g : GroupVersionResource}

/-- Every outcome of a resource the run did not create has a status and a reason, so
`genClusterStatus` never fills them in. -/
theorem outcome_nonempty {o : String × String} (hc : g ∉ r.created) (h : o ∈ r.outcome g) :
    o.1 ≠ "" ∧ o.2 ≠ "" := by
  unfold outcome createReport removeReport at h
  split_ifs at h <;> cases h <;> decide

theorem Creates.erase (h : r.Creates ks) (hg : r.creatingReport ks g = none)
    (hv : r.createReport g = none ∨ g ∉ r.configs) : r.Creates (ks.erase g) := fun g' => by
  by_cases he : g' = g
  · subst he
    rw [h g', hg, creatingReport]
    rcases hv with hv | hv <;> simp [hv]
  · simp only [h g', creatingReport, List.mem_erase_of_ne he]

/-- A failed constructor reports `Pending / SynchroCreateFailed` for the key it visits. -/
theorem Creates.fail (h : ∀ g', g' ≠ g → r.reported g' = r.creatingReport ks g')
    (hP : g ∈ r.configs) (hks : g ∉ ks) (hR₀ : g ∉ r.registry₀) (hcr : g ∉ r.created)
    (he : ∀ g', e.conditionOf g' =
      if g = g' then some (ResourceSyncStatusPending, "SynchroCreateFailed") else none)
    (hc : e.createdGVR = none) : (r.log e).Creates ks := fun g' => by
  by_cases hg : g' = g
  · subst hg; simp [creatingReport, createReport, he, hc, hP, hks, hR₀, hcr]
  · simp [h g' hg, creatingReport, createReport, he, hc, Ne.symm hg]

/-- The creation loop is done: nothing closed or cleaned yet, so its reports are the run's. -/
theorem Creates.ends (h : r.Creates []) (hcl : r.closed = []) (hf : r.cleanFailed = []) :
    r.Ends := fun g => by
  simp [h g, creatingReport, outcome, removeReport, hcl, hf]

end Refresh

/-! ## The invariant -/

/-- What the refresher's position says about the outcomes reported so far. At
`newStorage` and `newSynchro` the visited key's outcome is not yet reported. -/
def ReportsOK : RefresherPC → Prop
  | .lock r => r.Creates r.configs.keys
  | .create r ks | .spawnStart r _ ks | .launch r _ _ ks | .store r _ _ ks => r.Creates ks
  | .newStorage r g ks | .newSynchro r g _ ks =>
    r.reported g = none ∧ ∀ g', g' ≠ g → r.reported g' = r.creatingReport ks g'
  | .unlock r | .collect r | .remove r _ | .closeWait r _ _ _ | .removed r _ _ | .clean r _
  | .cleanCall r _ _ | .deleteVersions r _ => r.Ends
  | _ => True

/-- The outcome invariant of a world. -/
def World.reportsOK (w : World) : Prop := ReportsOK w.refresher

section Steps

variable {w w' : World}

theorem World.reports_of (hi : w.reportsOK) {pc : RefresherPC} (hr : w.refresher = pc) :
    ReportsOK pc :=
  hr ▸ hi

theorem reportsOK_refresherMove (hi : w.reportsOK) (hst : w.refreshOK)
    (hm : RefresherMove w w') : w'.reportsOK := by
  cases hm with
  | merge =>
    intro g
    simp only [Refresh.reported, World.startRefresh, List.filterMap_nil, List.getLast?_nil,
      Refresh.creatingReport, AList.mem_keys, not_and_self, and_not_self, if_false]
  | lock hr _ => exact (w.reports_of hi hr :)
  | @createSkip r ks g hr hg hreg =>
    obtain ⟨hb, -, hc, hR⟩ := w.stage_of_refreshOK hst hr
    have h := w.reports_of hi hr
    refine h.erase (by simp [Refresh.creatingReport, hg]) (.inl ?_)
    have hR₀ : g ∈ r.registry₀ := by
      rcases ((hR g).mp hreg).1 with h | h
      · exact h
      · exact absurd hg (hc.unvisited g (hb.created g h))
    simp [Refresh.createReport, hR₀]
  | @createNew r ks g hr hg _ =>
    have h := w.reports_of hi hr
    refine ⟨(h g).trans (by simp [Refresh.creatingReport, hg]), fun g' hne => ?_⟩
    simp only [h g', Refresh.creatingReport, List.mem_erase_of_ne hne]
  | createDone hr =>
    obtain ⟨-, he, hc, -⟩ := w.stage_of_refreshOK hst hr
    exact (w.reports_of hi hr).ends hc.closed (Refresh.cleanFailed_eq_nil he.cleaned)
  | @storageFail r g ks e hr =>
    obtain ⟨hb, -, -, -, hP, hks, hR₀, hs⟩ := w.stage_of_refreshOK hst hr
    exact Refresh.Creates.fail (w.reports_of hi hr).2 hP hks hR₀ (fun h' => hs (hb.created g h'))
      (fun _ => rfl) rfl
  | storageHit hr _ | storageNew hr _ =>
    obtain ⟨hg, h⟩ := w.reports_of hi hr
    exact ⟨by simp [hg, Effect.conditionOf], fun g' hne => by
      simp [h g' hne, Refresh.creatingReport, Refresh.createReport, Effect.conditionOf,
        Effect.createdGVR]⟩
  | @synchroFail r g rvs ks e hr =>
    obtain ⟨hb, -, hc, -, hs, hcr⟩ := w.stage_of_refreshOK hst hr
    obtain ⟨hP, hR₀⟩ := hb.stored g hs
    exact Refresh.Creates.fail (w.reports_of hi hr).2 hP (hc.unvisited g hs) hR₀ hcr
      (fun _ => rfl) rfl
  | @synchroNew r g rvs ks cfg hr _ =>
    obtain ⟨hb, -, hc, -, hs, -⟩ := w.stage_of_refreshOK hst hr
    obtain ⟨-, h⟩ := w.reports_of hi hr
    have ⟨hP, hR₀⟩ := hb.stored g hs
    have hks : g ∉ ks := hc.unvisited g hs
    intro g'
    by_cases he : g' = g
    · subst he; simp [Refresh.creatingReport, Refresh.createReport, Effect.conditionOf,
        Effect.createdGVR, hP, hks, hR₀]
    · simp [h g' he, Refresh.creatingReport, Refresh.createReport, Effect.conditionOf,
        Effect.createdGVR, Ne.symm he, he]
  | @closeDone r g i ks hr _ =>
    obtain ⟨-, he, hrm, -⟩ := w.stage_of_refreshOK hst hr
    have h := w.reports_of hi hr
    have hP : g ∉ r.configs := (hrm.mem (List.mem_cons_self g ks)).2.1
    have hf := Refresh.cleanFailed_eq_nil he.cleaned
    intro g'
    by_cases hg : g' = g
    · subst hg; simp [Refresh.outcome, Refresh.removeReport, Effect.conditionOf,
        Effect.cleanFailedGVR, Effect.closedGVR, hP, hf]
    · simp [h g', Refresh.outcome, Refresh.removeReport, Refresh.createReport,
        Effect.conditionOf, Effect.createdGVR, Effect.cleanFailedGVR, Effect.closedGVR,
        Ne.symm hg, hg]
  | cleanOk hr | deletePick hr _ =>
    intro g
    simp [w.reports_of hi hr g, Refresh.outcome, Refresh.removeReport, Refresh.createReport,
      Effect.conditionOf, Effect.createdGVR, Effect.cleanFailedGVR, Effect.closedGVR]
  | @cleanFail r g ks e hr =>
    obtain ⟨-, -, -, hP, -⟩ := w.stage_of_refreshOK hst hr
    have h := w.reports_of hi hr
    intro g'
    show (r.log (.cleanClusterResource g false)).reported g' =
      (r.log (.cleanClusterResource g false)).outcome g'
    by_cases hg : g' = g
    · subst hg; simp [Refresh.outcome, Refresh.removeReport, Effect.conditionOf,
        Effect.cleanFailedGVR, hP]
    · simp [h g', Refresh.outcome, Refresh.removeReport, Refresh.createReport,
        Effect.conditionOf, Effect.createdGVR, Effect.cleanFailedGVR, Effect.closedGVR,
        Ne.symm hg, hg]
  | launch hr | store hr | spawnStart hr | unlock hr | collect hr | removeClose hr _ _
  | removeSkip hr _ _ | removeDone hr | removed hr | cleanKeep hr _ _ | cleanErase hr _ _
  | cleanDone hr =>
    exact (w.reports_of hi hr :)
  | _ => trivial

theorem reportsOK_step (hi : w.reportsOK) (hst : w.refreshOK) (h : Step w w') :
    w'.reportsOK := by
  rcases h.refresher_cases with ⟨c, h⟩ | ⟨e, h⟩ | ⟨hr, -⟩
  · exact reportsOK_refresherMove hi hst (refresherMove_of_step h)
  · cases e
    case afterStart => obtain ⟨_, rfl⟩ := envStep_afterStart h; trivial
    all_goals
      simp only [World.envStep] at h
      (repeat' split at h) <;> cases h
      exact hi
  · rw [World.reportsOK, hr]; exact hi

theorem reportsOK_of_reachable (hw : Reachable w) : w.reportsOK :=
  Reachable.induction (fun _ _ => trivial)
    (fun _ _ hr hi hs => reportsOK_step hi (refreshOK_of_reachable hr) hs) hw

/-- **What a run reports.** When a run ends, and when it returns early while waiting for a
`Close`, the outcome it last reported for each storage resource `g` is `r.outcome g`:
nothing for a planned resource registered before the run, `Unknown` or
`Pending / SynchroCreateFailed` for a planned new one as its reconciler was created or
not, and for a dropped one `Stop / CleanResourceFailed` if its clean-up failed, else
`Stop / SynchroRemoved` if its reconciler was closed. Every version the status lists
under `g` shows that outcome. -/
theorem refresh_run_reports (hw : Reachable w) :
    (∀ r ks, w.refresher = .deleteVersions r ks → ∀ g,
      r.reported g = r.outcome g ∧ r.Shows w.groupResourceStatus g) ∧
    ∀ r g i ks, w.refresher = .closeWait r g i ks → ∀ g',
      r.reported g' = r.outcome g' ∧ r.Shows w.groupResourceStatus g' := by
  have hi := reportsOK_of_reachable hw
  have hc := conditionsOK_of_reachable hw
  exact ⟨fun r ks hr g => ⟨w.reports_of hi hr g, (w.conditions_of hc hr).2 g⟩,
    fun r g i ks hr g' => ⟨w.reports_of hi hr g', (w.conditions_of hc hr).2 g'⟩⟩

theorem refresh_run_reports_failed :
    (∀ r ks, failWorld.refresher = .deleteVersions r ks → ∀ g,
      r.reported g = r.outcome g ∧ r.Shows failWorld.groupResourceStatus g) ∧
    ∀ r g i ks, failWorld.refresher = .closeWait r g i ks → ∀ g',
      r.reported g' = r.outcome g' ∧ r.Shows failWorld.groupResourceStatus g' :=
  refresh_run_reports failWorld_reachable

/-- A condition whose storage resource has no registered reconciler keeps a status and a
reason it already has in the generated status. -/
theorem World.syncConditionStatus_unregistered {gvr : GroupVersionResource} {c : SyncCondition}
    (h : c.storageGVR ∉ w.storageResourceSynchros) (hs : c.status ≠ "") (hr : c.reason ≠ "") :
    ((w.syncConditionStatus gvr c).status, (w.syncConditionStatus gvr c).reason) =
      (c.status, c.reason) := by
  simp [World.syncConditionStatus, AList.lookup_eq_none.mpr h, hs, hr]

/-- At the end of a refresh run, `genClusterStatus` shows, for every version whose storage
resource has no reconciler, the outcome the run recorded for that storage resource. -/
theorem cluster_status_shows_outcomes (hw : Reachable w) :
    ∀ r ks, w.refresher = .deleteVersions r ks → ∀ g, g ∉ w.storageResourceSynchros →
      ∀ gvr ∈ r.syncGVRs g, ∀ rs ∈ w.genClusterStatus.syncResources, ∀ c, (gvr, c) ∈ rs →
        ∀ o ∈ r.outcome g, (c.status, c.reason) = o := by
  intro r ks hr g hg gvr hgvr rs hrs c hc o ho
  obtain ⟨hst, hshows⟩ := w.conditions_of (conditionsOK_of_reachable hw) hr
  obtain ⟨hb, hl, -⟩ := w.stage_of_refreshOK (refreshOK_of_reachable hw) hr
  -- a resource the run created is planned, so it was not closed and is still registered
  have hnc : g ∉ r.created := fun hcr =>
    hg ((hl.registered g).mpr ⟨.inr hcr, fun hcl =>
      of_decide_eq_true (List.mem_filter.mp (hl.closed.subset hcl)).2 (hb.stored g (hb.created g hcr)).1⟩)
  obtain ⟨st, hs, rfl⟩ := Option.mem_map.mp hrs
  obtain ⟨⟨x, c₀⟩, he, hxc⟩ := List.mem_map.mp hc
  cases hxc
  have hlk : st.lookup x = some c₀ := AList.mem_lookup_iff.mpr he
  have hstored : c₀.storageGVR = g := hst.stored st hs g x hgvr c₀ hlk
  have hshown : o = (c₀.status, c₀.reason) :=
    hshows g st hs x hgvr c₀ hlk o (w.reports_of (reportsOK_of_reachable hw) hr g ▸ ho)
  obtain ⟨ho₁, ho₂⟩ := Refresh.outcome_nonempty hnc ho
  subst hshown
  exact w.syncConditionStatus_unregistered (hstored ▸ hg) ho₁ ho₂

theorem cluster_status_shows_outcomes_failed :
    failRun.outcome pods = some (ResourceSyncStatusPending, "SynchroCreateFailed") ∧
      ∀ rs ∈ failWorld.genClusterStatus.syncResources, ∀ c, (pods, c) ∈ rs →
        (c.status, c.reason) = (ResourceSyncStatusPending, "SynchroCreateFailed") :=
  have ho : failRun.outcome pods = some (ResourceSyncStatusPending, "SynchroCreateFailed") := by
    decide
  ⟨ho, fun rs hrs c hc => cluster_status_shows_outcomes failWorld_reachable failRun [] rfl pods
    (by decide) pods (by decide) rs hrs c hc _ ho⟩

end Steps

end Clusterpedia

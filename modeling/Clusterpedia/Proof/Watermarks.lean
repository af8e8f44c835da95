import Clusterpedia.Proof.RefreshRun
import Clusterpedia.Proof.Resync

/-!
# Running reconcilers share no watermark map

A reconciler writes the resource versions it has synchronized into the maps of its
storage resource's watermark entry: `rvs.Resources`, and `rvs.Events` when it syncs
events. Go maps are not safe for concurrent writes, so two reconcilers whose `Run` is
running must hold different maps, and one reconciler must not write resources and events
into the same map.

The maps come from two places: `initWithResourceVersions` replaces the nil maps of the
entries `GetResourceVersions` returned by new ones, and `refreshSyncResources` makes both
maps of a storage resource that has no entry. So the entries of the watermark map hold
pairwise distinct maps, all made before `nextMap` (`Watermarks.OK`), as long as the
persisted entries did.

A reconciler whose `Run` is running has not been seen closed (`Synchro.Lifecycle`), so it
is registered or being created (`Registry.OK.live`), holds the maps of its storage
resource's entry, and is the only such reconciler for that resource. Hence
`running_synchros_share_no_map`.
-/

namespace Clusterpedia

/-! ## The maps of an entry and of a reconciler -/

/-- The maps a watermark entry holds. -/
def ClusterResourceVersions.maps (rvs : ClusterResourceVersions) : List Nat :=
  rvs.resources.toList ++ rvs.events.toList

/-- The maps held by a list of watermark entries, entry by entry. -/
def mapsOf (es : List (Σ _ : GroupVersionResource, ClusterResourceVersions)) : List Nat :=
  es.flatMap (·.2.maps)

/-- The maps a reconciler writes: its resource versions and, when it syncs events, its
event versions. -/
def Synchro.maps (s : Synchro) : List Nat :=
  s.resourceVersions.toList ++ s.eventVersions.join.toList

/-- A reconciler that holds the maps of an entry writes only into that entry's maps. -/
theorem Synchro.maps_sublist {s : Synchro} {g rvs} (h : s.core.Tracks g rvs) :
    s.maps.Sublist rvs.maps := by
  obtain ⟨-, hr, he⟩ := h
  unfold Synchro.maps ClusterResourceVersions.maps
  rw [show s.resourceVersions = rvs.resources from hr]
  cases hev : s.eventVersions with
  | none => simp
  | some ev => rw [he ev hev]; rfl

/-- Maps made from `next` on are new: adding `k` of them to distinct maps made before
`next` keeps them distinct, and all made before `next + k`. -/
theorem fresh_maps {l old : List Nat} {next k : Nat} (hp : l.Perm (old ++ List.range' next k))
    (hn : old.Nodup) (hb : ∀ a ∈ old, a < next) : l.Nodup ∧ ∀ a ∈ l, a < next + k := by
  refine ⟨hp.nodup_iff.mpr (List.nodup_append.mpr ⟨hn, List.nodup_range' _ _, ?_⟩), ?_⟩
  · intro a ha hr
    have := hb a ha
    have := (List.mem_range'_1.mp hr).1
    omega
  · intro a ha
    rcases List.mem_append.mp (hp.subset ha) with h | h
    · have := hb a h; omega
    · exact (List.mem_range'_1.mp h).2

/-- `fillVersions` keeps the maps an entry has and makes the missing ones from `next`. -/
theorem fillVersions_maps (rvs : ClusterResourceVersions) (next : Nat) :
    ∃ k, (fillVersions rvs next).2 = next + k ∧
      (fillVersions rvs next).1.maps.Perm (rvs.maps ++ List.range' next k) := by
  obtain ⟨_ | r, _ | e⟩ := rvs
  · exact ⟨2, rfl, by simp [fillVersions, ClusterResourceVersions.maps, List.range']⟩
  · exact ⟨1, rfl, by
      simpa [fillVersions, ClusterResourceVersions.maps] using List.Perm.swap e next []⟩
  · exact ⟨1, rfl, by simp [fillVersions, ClusterResourceVersions.maps]⟩
  · exact ⟨0, rfl, by simp [fillVersions, ClusterResourceVersions.maps]⟩

theorem lt_mapIdBound :
    ∀ (es : List (Σ _ : GroupVersionResource, ClusterResourceVersions)) n,
      n ∈ mapsOf es → n < mapIdBound es
  | [], _, h => absurd h (List.not_mem_nil _)
  | ⟨_, rvs⟩ :: es, n, h => by
    have hb : ∀ m ∈ rvs.maps, m ≤ rvs.resources.getD 0 + rvs.events.getD 0 := by
      obtain ⟨_ | r, _ | e⟩ := rvs <;> simp [ClusterResourceVersions.maps]
    show n < mapIdBound es + rvs.resources.getD 0 + rvs.events.getD 0 + 1
    simp only [mapsOf, List.flatMap_cons, List.mem_append] at h
    rcases h with h | h
    · have := hb n h; omega
    · have := lt_mapIdBound es n h; omega

/-! ## The watermark map -/

/-- The watermark map and the allocator of new maps. -/
structure Watermarks where
  storageResourceVersions : GoMap GroupVersionResource ClusterResourceVersions
  nextMap : Nat

/-- The watermark part of a world. -/
def World.watermarks (w : World) : Watermarks := ⟨w.storageResourceVersions, w.nextMap⟩

namespace Watermarks

variable {v : Watermarks}

variable (v) in
/-- The maps of all entries. -/
def maps : List Nat := mapsOf v.storageResourceVersions.entries

variable (v) in
/-- No map is held twice, and every map was made before `nextMap`. -/
structure OK : Prop where
  nodup : v.maps.Nodup
  below : ∀ n ∈ v.maps, n < v.nextMap

theorem mapsOf_insert {m : GoMap GroupVersionResource ClusterResourceVersions} {g rvs}
    (hg : g ∉ m) : mapsOf (m.insert g rvs).entries = rvs.maps ++ mapsOf m.entries := by
  rw [AList.insert_entries_of_neg hg]; rfl

/-- An entry's own maps are distinct. -/
theorem OK.own (hi : v.OK) {g rvs} (h : v.storageResourceVersions.lookup g = some rvs) :
    rvs.maps.Nodup :=
  (List.nodup_flatMap.mp hi.nodup).1 ⟨g, rvs⟩ (AList.mem_lookup_iff.mp h)

/-- Two storage resources hold different maps. -/
theorem OK.apart (hi : v.OK) {g h rvs rvs'} (hg : v.storageResourceVersions.lookup g = some rvs)
    (hh : v.storageResourceVersions.lookup h = some rvs') (hne : g ≠ h) :
    rvs.maps.Disjoint rvs'.maps :=
  (List.nodup_flatMap.mp hi.nodup).2.forall (by intro _ _ h _ ha hb; exact h hb ha) (AList.mem_lookup_iff.mp hg)
    (AList.mem_lookup_iff.mp hh) fun he => hne (congrArg Sigma.fst he)

/-- `refreshSyncResources` makes both maps of a storage resource that has no entry. -/
theorem OK.allocate (hi : v.OK) {g} (hg : g ∉ v.storageResourceVersions) :
    (⟨v.storageResourceVersions.insert g ⟨some v.nextMap, some (v.nextMap + 1)⟩,
      v.nextMap + 2⟩ : Watermarks).OK := by
  have hp : (maps ⟨v.storageResourceVersions.insert g ⟨some v.nextMap, some (v.nextMap + 1)⟩,
      v.nextMap + 2⟩).Perm (v.maps ++ List.range' v.nextMap 2) := by
    rw [maps, mapsOf_insert hg]
    exact List.perm_append_comm
  exact (fresh_maps hp hi.nodup hi.below).elim OK.mk

/-- The clean-up loop deletes an entry. -/
theorem OK.erase (hi : v.OK) (g : GroupVersionResource) :
    ({ v with storageResourceVersions := v.storageResourceVersions.erase g } : Watermarks).OK := by
  have hs := List.kerase_sublist g v.storageResourceVersions.entries
  obtain ⟨hown, hapart⟩ := List.nodup_flatMap.mp hi.nodup
  refine ⟨List.nodup_flatMap.mpr ⟨fun x hx => hown x (hs.subset hx), hapart.sublist hs⟩,
    fun n hn => hi.below n ?_⟩
  obtain ⟨x, hx, hn⟩ := List.mem_flatMap.mp hn
  exact List.mem_flatMap.mpr ⟨x, hs.subset hx, hn⟩

end Watermarks

namespace Registry

variable {v : Registry}

theorem OK.created_of_creating (hi : v.OK) {g i} (h : v.refresher.creating = some (g, i)) :
    ∃ b, v.Created g i b := by
  have hp := hi.phase
  unfold PhaseOK at hp
  cases hr : v.refresher <;> simp only [hr, RefresherPC.creating, reduceCtorEq,
    Option.some.injEq, Prod.mk.injEq] at h hp
  all_goals obtain ⟨rfl, rfl⟩ := h; exact ⟨_, hp⟩

/-- A reconciler not yet seen closed holds the maps of its storage resource's entry. -/
theorem OK.live_tracks (hi : v.OK) {i : Nat} {c : SynchroCore} (h1 : v.cores[i]? = some c)
    (h2 : c.closeObserved = false) :
    ∃ rvs, v.storageResourceVersions.lookup c.storageGVR = some rvs ∧
      c.Tracks c.storageGVR rvs := by
  rcases hi.live i c h1 h2 with hg | hc
  · obtain ⟨c', rvs, h1', hv, ht, -⟩ := hi.tracked _ i hg
    cases h1.symm.trans h1'
    exact ⟨rvs, hv, ht⟩
  · obtain ⟨_, -, -, c', rvs, h1', hv, ht, -⟩ := hi.created_of_creating hc
    cases h1.symm.trans h1'
    exact ⟨rvs, hv, ht⟩

/-- Two reconcilers not yet seen closed are for different storage resources. -/
theorem OK.live_unique (hi : v.OK) {i j : Nat} {c c' : SynchroCore} (h1 : v.cores[i]? = some c)
    (h2 : c.closeObserved = false) (h1' : v.cores[j]? = some c')
    (h2' : c'.closeObserved = false) (he : c.storageGVR = c'.storageGVR) : i = j := by
  rcases hi.live i c h1 h2 with hg | hc <;> rcases hi.live j c' h1' h2' with hg' | hc'
  · rw [he] at hg; exact Option.some.inj (hg.symm.trans hg')
  · exact absurd (mem_of_lookup hg) (he ▸ hi.not_mem_of_creating hc')
  · exact absurd (mem_of_lookup hg') (he ▸ hi.not_mem_of_creating hc)
  · rw [he] at hc; exact (Prod.mk.inj (Option.some.inj (hc.symm.trans hc'))).2

end Registry

/-- `initWithResourceVersions` fills the nil maps of the persisted entries with new maps. -/
theorem initWithResourceVersions_ok :
    ∀ (es : List (Σ _ : GroupVersionResource, ClusterResourceVersions))
      (m : GoMap GroupVersionResource ClusterResourceVersions) (next : Nat),
      es.NodupKeys → (∀ e ∈ es, e.1 ∉ m) → (mapsOf es ++ mapsOf m.entries).Nodup →
      (∀ n ∈ mapsOf es ++ mapsOf m.entries, n < next) →
      (⟨(initWithResourceVersions es m next).1,
        (initWithResourceVersions es m next).2⟩ : Watermarks).OK
  | [], _, _, _, _, hn, hb => ⟨hn, hb⟩
  | ⟨g, rvs⟩ :: es, m, next, hk, hm, hn, hb => by
    obtain ⟨hge, hk⟩ := List.nodupKeys_cons.mp hk
    have hg : g ∉ m := hm _ (List.mem_cons_self _ _)
    have hp : ((fillVersions rvs next).1.maps ++ (mapsOf es ++ mapsOf m.entries)).Perm
        (mapsOf es ++ mapsOf (m.insert g (fillVersions rvs next).1).entries) := by
      rw [Watermarks.mapsOf_insert hg]; exact List.perm_append_comm_assoc _ _ _
    obtain ⟨k, hk2, hf⟩ := fillVersions_maps rvs next
    have hn' : (rvs.maps ++ (mapsOf es ++ mapsOf m.entries)).Nodup := by
      simpa only [mapsOf, List.flatMap_cons, List.append_assoc] using hn
    have hb' : ∀ a ∈ rvs.maps ++ (mapsOf es ++ mapsOf m.entries), a < next := by
      simpa only [mapsOf, List.flatMap_cons, List.append_assoc] using hb
    have hf' : ((fillVersions rvs next).1.maps ++ (mapsOf es ++ mapsOf m.entries)).Perm
        (rvs.maps ++ (mapsOf es ++ mapsOf m.entries) ++ List.range' next k) := by
      rw [List.append_assoc]
      refine (hf.append_right _).trans ?_
      rw [List.append_assoc]
      exact List.perm_append_comm.append_left _
    have hfresh := fresh_maps hf' hn' hb'
    refine initWithResourceVersions_ok es _ _ hk (fun e he h => ?_)
      (hp.nodup_iff.mp hfresh.1) fun a ha => hk2 ▸ hfresh.2 a (hp.symm.subset ha)
    rcases (AList.mem_insert _).mp h with h | h
    · exact hge (h ▸ List.mem_keys_of_mem he : g ∈ es.keys)
    · exact hm e (List.mem_cons_of_mem _ he) h

section Steps

variable {w w' : World}

theorem watermarksOK_new {p : GoMap GroupVersionResource ClusterResourceVersions}
    (hp : (mapsOf p.entries).Nodup) (v : String) : (World.new p v).watermarks.OK :=
  initWithResourceVersions_ok p.entries ∅ _ p.nodupKeys (fun _ _ h => AList.not_mem_empty _ h)
    (by simpa [mapsOf] using hp) fun n h => lt_mapIdBound _ n (by simpa [mapsOf] using h)

theorem watermarksOK_refresherMove (hi : w.watermarks.OK) (hm : RefresherMove w w') :
    w'.watermarks.OK := by
  cases hm with
  | storageNew _ hl => exact hi.allocate (AList.lookup_eq_none.mp hl)
  | cleanErase _ _ _ => exact hi.erase _
  | _ => exact hi

theorem watermarksOK_envStep {e : EnvEvent} (hi : w.watermarks.OK) (h : w.envStep e = some w') :
    w'.watermarks.OK := by
  cases e
  case afterStart => obtain ⟨_, rfl⟩ := envStep_afterStart h; exact hi
  all_goals
    simp only [World.envStep] at h
    (repeat' split at h) <;> cases h
    exact hi

theorem watermarksOK_step (hi : w.watermarks.OK) (h : Step w w') : w'.watermarks.OK := by
  rcases h.refresher_cases with ⟨c, h⟩ | ⟨e, h⟩ | ⟨-, -, hv, hn, -⟩
  · exact watermarksOK_refresherMove hi (refresherMove_of_step h)
  · exact watermarksOK_envStep hi h
  · rw [World.watermarks, hv, hn]; exact hi

theorem watermarksOK_of_steps {p : GoMap GroupVersionResource ClusterResourceVersions}
    {v : String} (hp : (mapsOf p.entries).Nodup) (hs : Steps (World.new p v) w) :
    w.watermarks.OK := by
  induction hs with
  | refl => exact watermarksOK_new hp v
  | tail _ h ih => exact watermarksOK_step ih h

/-- **Running reconcilers share no watermark map.** If the entries `GetResourceVersions`
returned hold distinct maps, then along every interleaving a running reconciler writes its
resources and its events into different maps, and two running reconcilers write into
different maps. -/
theorem running_synchros_share_no_map {p : GoMap GroupVersionResource ClusterResourceVersions}
    {v : String} (hp : (mapsOf p.entries).Nodup) (hs : Steps (World.new p v) w) :
    (∀ (i : Nat) (s : Synchro), w.synchros[i]? = some s → s.running = true → s.maps.Nodup) ∧
    ∀ (i j : Nat) (si sj : Synchro), i ≠ j → w.synchros[i]? = some si → w.synchros[j]? = some sj →
      si.running = true → sj.running = true → si.maps.Disjoint sj.maps := by
  have hreg := registryOK_of_reachable ⟨p, v, hs⟩
  have hlc := lifecycleOK_of_reachable ⟨p, v, hs⟩
  have hwm := watermarksOK_of_steps hp hs
  have hheld : ∀ (i : Nat) (s : Synchro), w.synchros[i]? = some s → s.running = true →
      ∃ rvs, w.storageResourceVersions.lookup s.storageGVR = some rvs ∧
        s.maps.Sublist rvs.maps := fun i s hs hr => by
    obtain ⟨rvs, hv, ht⟩ :=
      hreg.live_tracks (getElem?_core hs) ((hlc s (List.getElem?_mem hs)).unobserved hr)
    exact ⟨rvs, hv, Synchro.maps_sublist ht⟩
  refine ⟨fun i s hs hr => ?_, fun i j si sj hij hsi hsj hri hrj => ?_⟩
  · obtain ⟨rvs, hv, hsub⟩ := hheld i s hs hr
    exact (hwm.own hv).sublist hsub
  · obtain ⟨rvs, hv, hsub⟩ := hheld i si hsi hri
    obtain ⟨rvs', hv', hsub'⟩ := hheld j sj hsj hrj
    have hne : si.storageGVR ≠ sj.storageGVR := fun he =>
      hij (hreg.live_unique (getElem?_core hsi)
        ((hlc si (List.getElem?_mem hsi)).unobserved hri) (getElem?_core hsj)
        ((hlc sj (List.getElem?_mem hsj)).unobserved hrj) he)
    exact List.disjoint_of_subset_left hsub.subset
      (List.disjoint_of_subset_right hsub'.subset (hwm.apart hv hv' hne))

/-- Watermarks persisted for `pods`: its resources in map `0`, its events in map `1`. -/
def persistedPods : GoMap GroupVersionResource ClusterResourceVersions :=
  (∅ : GoMap GroupVersionResource ClusterResourceVersions).insert pods ⟨some 0, some 1⟩

/-- From those watermarks, the first refresh creates and launches the reconcilers of
`pods`, which syncs its events, and `deployments`. -/
def bothRunning : World :=
  ((World.new persistedPods "").runActions (startupSchedule ++ createBoth)).get (by decide)

theorem running_synchros_share_no_map_both :
    (mapsOf persistedPods.entries).Nodup ∧
    ∃ s t, bothRunning.synchros = [s, t] ∧ s.running = true ∧ t.running = true ∧
      s.eventVersions.isSome ∧ s.maps.Nodup ∧ t.maps.Nodup ∧ s.maps.Disjoint t.maps :=
  have hp : (mapsOf persistedPods.entries).Nodup := by decide
  have h := running_synchros_share_no_map hp
    (show Steps _ bothRunning from steps_of_runActions (Option.some_get _).symm)
  ⟨hp, _, _, rfl, rfl, rfl, rfl, h.1 0 _ rfl rfl, h.1 1 _ rfl rfl,
    h.2 0 1 _ _ (by decide) rfl rfl rfl rfl⟩

end Steps

end Clusterpedia

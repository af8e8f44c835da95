import Mathlib.Data.List.AList

/-!
# The data model of a cluster synchro

The values `ClusterSynchro` keeps and passes around (`cluster_synchro.go`): resource
identifiers, Go maps (finite maps with distinct keys, iterated in any order),
watermark maps by reference, the per-resource sync configuration the negotiator
emits, and the conditions a cluster status carries.

The group/resource status (`GroupResourceStatus`) is implemented outside the
sources; its four operations the synchro calls are modelled from the spec (§4.3).
-/

namespace Clusterpedia

/-- `schema.GroupVersionResource`. -/
structure GroupVersionResource where
  group : String
  version : String
  resource : String
  deriving DecidableEq, Repr

/-- `schema.GroupResource`. -/
structure GroupResource where
  group : String
  resource : String
  deriving DecidableEq, Repr

/-- `GroupVersionResource.GroupResource()`. -/
def GroupVersionResource.groupResource (gvr : GroupVersionResource) : GroupResource :=
  ⟨gvr.group, gvr.resource⟩

/-- `GroupResource.String()` of apimachinery: `resource.group`, or `resource` for the
core group. -/
def GroupResource.string (gr : GroupResource) : String :=
  if gr.group = "" then gr.resource else gr.resource ++ "." ++ gr.group

/-- A Go map: distinct keys, iterated in an unspecified order. -/
abbrev GoMap (K V : Type) := AList (fun _ : K => V)

/-- `storage.ClusterResourceVersions`: the two watermark maps of a storage resource
(`map[string]interface{}`), each by reference (an allocation number); `none` is a
nil map. -/
structure ClusterResourceVersions where
  resources : Option Nat
  events : Option Nat
  deriving DecidableEq, Repr

/-- `clusterv1alpha2.ClusterGroupResources`, what `SetResources` is given. -/
structure ClusterGroupResources where
  group : String
  resources : List String
  versions : List String
  deriving DecidableEq, Repr

/-- A plan entry, `storageResourceSyncConfigs[storageGVR]`: the fields of the
negotiator's config that the synchro reads besides the opaque converter and
storage config. -/
structure ResourceSyncConfig where
  syncResource : GroupVersionResource
  kind : String
  syncEvents : Bool
  deriving DecidableEq, Repr

/-! ## Conditions -/

/-- `metav1.ConditionStatus`. -/
inductive ConditionStatus
  | conditionTrue | conditionFalse | conditionUnknown
  deriving DecidableEq, Repr

/-- `metav1.Condition`, without its transition time. -/
structure Condition where
  type : String
  status : ConditionStatus
  reason : String
  message : String
  deriving DecidableEq, Repr

/-- Modelled from the spec: `clusterv1alpha2.SynchroRunningCondition`. -/
def SynchroRunningCondition : String := "SynchroRunning"
/-- Modelled from the spec: `clusterv1alpha2.ClusterHealthyCondition`. -/
def ClusterHealthyCondition : String := "ClusterHealthy"
/-- Modelled from the spec: `clusterv1alpha2.SynchroPendingReason`. -/
def SynchroPendingReason : String := "Pending"
/-- Modelled from the spec: `clusterv1alpha2.SynchroRunningReason`. -/
def SynchroRunningReason : String := "Running"
/-- Modelled from the spec: `clusterv1alpha2.SynchroShutdownReason`. -/
def SynchroShutdownReason : String := "Shutdown"
/-- Modelled from the spec: `clusterv1alpha2.ClusterMonitorStopReason`. -/
def ClusterMonitorStopReason : String := "MonitorStop"
/-- Modelled from the spec: `clusterv1alpha2.ResourceSyncStatusPending`. -/
def ResourceSyncStatusPending : String := "Pending"
/-- Modelled from the spec: `clusterv1alpha2.ResourceSyncStatusUnknown`. -/
def ResourceSyncStatusUnknown : String := "Unknown"
/-- Modelled from the spec: `clusterv1alpha2.ResourceSyncStatusStop`. -/
def ResourceSyncStatusStop : String := "Stop"

/-! ## Group/resource status -/

/-- Modelled from the spec: the sync condition of one synchronized version (§3),
`clusterv1alpha2.ClusterResourceSyncCondition` without its transition time. -/
structure SyncCondition where
  storageGVR : GroupVersionResource
  syncResource : String
  syncVersion : String
  status : String
  reason : String
  message : String
  initialListPhase : String
  deriving DecidableEq, Repr

/-- Modelled from the spec: what a reconciler's `Status()` reports (§4.4). -/
structure ResourceSyncStatus where
  status : String
  reason : String
  message : String
  initialListPhase : String
  deriving DecidableEq, Repr

/-- Modelled from the spec: `GroupResourceStatus`, the sync conditions keyed by the
synchronized group/version/resource. -/
abbrev GroupResourceStatus := GoMap GroupVersionResource SyncCondition

namespace GroupResourceStatus

/-- Modelled from the spec: `Merge(previous)` keeps every version of `previous` that
the new status lacks, so that it can still be reported, and returns those versions
as the deleted set. -/
def merge (s : GroupResourceStatus) : Option GroupResourceStatus →
    GroupResourceStatus × List GroupVersionResource
  | none => (s, [])
  | some p =>
    let gone := p.entries.filter fun e => e.1 ∉ s
    (gone.foldl (fun acc e => acc.insert e.1 e.2) s, gone.map (·.1))

/-- Modelled from the spec: `GetStorageGVRToSyncGVRs()`, the synchronized versions
stored under each storage resource. -/
def getStorageGVRToSyncGVRs (s : GroupResourceStatus) (g : GroupVersionResource) :
    List GroupVersionResource :=
  (s.entries.filter fun e => e.2.storageGVR = g).map (·.1)

/-- Modelled from the spec: `UpdateSyncCondition(gvr, status, reason, message)` sets the
status, reason and message of a version the status has, and ignores any other. -/
def updateSyncCondition (s : GroupResourceStatus) (gvr : GroupVersionResource)
    (status reason message : String) : GroupResourceStatus :=
  match s.lookup gvr with
  | some c => s.insert gvr { c with status, reason, message }
  | none => s

/-- Modelled from the spec: `DeleteVersion(gvr)`. -/
def deleteVersion (s : GroupResourceStatus) (gvr : GroupVersionResource) :
    GroupResourceStatus :=
  s.erase gvr

end GroupResourceStatus

/-- `clusterv1alpha2.ClusterStatus` as `genClusterStatus` builds it, the synchronized
versions flattened to one list. -/
structure ClusterStatus where
  version : String
  conditions : List Condition
  syncResources : Option (List (GroupVersionResource × SyncCondition))
  deriving DecidableEq, Repr

end Clusterpedia

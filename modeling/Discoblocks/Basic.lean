import Discoblocks.Float64
import Mathlib.Data.List.AList
import Mathlib.Tactic.Linarith
import Mathlib.Tactic.NormNum

/-!
# Objects of the discoblocks controllers

The Kubernetes objects that the PVC controller, the volume monitor and the pod mutator read and
write, with the fields they use. A Go map is an association list, so a key has one value; a
resource quantity is an exact rational, and a `float64` is an `F64`.

`Helpers` groups what the source calls but does not contain: the `pkg/utils` helpers and the
library functions on quantities. The modelled code is generic in them; `Helpers.spec` (in
`Discoblocks.Metrics`) is the instance modelled from the spec.
-/

namespace Discoblocks

/-- A Go `map[string]string`. -/
abbrev StringMap := AList (fun _ : String => String)

/-- Indexing a Go map: the zero value `""` for a missing key. -/
def StringMap.get (m : StringMap) (k : String) : String := (m.lookup k).getD ""

/-- A Go map from a list of pairs (a later pair does not override an earlier one). -/
def StringMap.ofList (l : List (String × String)) : StringMap :=
  (l.map fun p => (⟨p.1, p.2⟩ : Sigma fun _ : String => String)).toAList

/-- `types.NamespacedName`. -/
structure NamespacedName where
  ns : String
  name : String
  deriving DecidableEq, Repr

/-- A `PersistentVolumeClaim`. -/
structure PVC where
  ns : String
  name : String
  labels : StringMap
  finalizers : List String
  /-- `DeletionTimestamp != nil`. -/
  deleting : Bool
  storageClassName : String
  accessModes : List String
  /-- `Spec.Resources.Requests[storage]`. -/
  request : ℚ
  /-- `Status.Phase`. -/
  phase : String
  /-- `Status.Capacity.Storage()`, zero when the status has no capacity. -/
  capacity : ℚ
  deriving DecidableEq

def PVC.key (p : PVC) : NamespacedName := ⟨p.ns, p.name⟩

/-- `controllerutil.ContainsFinalizer`. -/
def PVC.hasFinalizer (p : PVC) (f : String) : Bool := p.finalizers.contains f

/-- The autoscaling policy of a `DiskConfig`. -/
structure Policy where
  pause : Bool
  maximumCapacityOfDisk : String
  upscaleTriggerPercentage : Nat
  deriving DecidableEq

/-- A `DiskConfig`: the spec the controllers read and the status the PVC controller writes. -/
structure DiskConfig where
  ns : String
  name : String
  deleting : Bool
  storageClassName : String
  capacity : ℚ
  mountPointPattern : String
  accessModes : List String
  podSelector : StringMap
  policy : Policy
  /-- `Status.PersistentVolumeClaims`: claim name to phase. -/
  status : StringMap
  deriving DecidableEq

def DiskConfig.key (c : DiskConfig) : NamespacedName := ⟨c.ns, c.name⟩

structure VolumeMount where
  name : String
  mountPath : String
  readOnly : Bool
  deriving DecidableEq, Repr

structure Container where
  name : String
  image : String
  command : List String
  ports : List Nat
  /-- `SecurityContext.Privileged`. -/
  privileged : Option Bool
  volumeMounts : List VolumeMount
  deriving DecidableEq, Repr

structure Volume where
  name : String
  /-- `VolumeSource.PersistentVolumeClaim.ClaimName`, for a claim volume. -/
  claimName : Option String
  deriving DecidableEq, Repr

structure Pod where
  ns : String
  name : String
  labels : StringMap
  volumes : List Volume
  containers : List Container
  schedulerName : String
  deriving DecidableEq

structure StorageClass where
  name : String
  provisioner : String
  deriving DecidableEq, Repr

structure ObjectReference where
  ns : String
  name : String
  deriving DecidableEq, Repr

structure EndpointAddress where
  ip : String
  /-- Optional in the `Endpoints` type. -/
  targetRef : Option ObjectReference
  deriving DecidableEq, Repr

structure EndpointSubset where
  addresses : List EndpointAddress
  deriving DecidableEq, Repr

structure Endpoints where
  name : String
  labels : StringMap
  subsets : List EndpointSubset
  deriving DecidableEq

/-- An error of the API client; `IsNotFound` and `IsAlreadyExists` test the kind. -/
inductive ApiError where
  | notFound (message : String)
  | alreadyExists (message : String)
  | other (message : String)
  deriving DecidableEq, Repr

def ApiError.message : ApiError → String
  | .notFound m | .alreadyExists m | .other m => m

/-- A Go run-time failure. -/
inductive Panic where
  | nilDereference
  | indexOutOfRange
  deriving DecidableEq, Repr

structure LabelPair where
  name : String
  value : String
  deriving DecidableEq, Repr

/-- A sample of a metric family, with its labels. -/
structure Metric where
  label : List LabelPair
  deriving DecidableEq, Repr

structure MetricFamily where
  metric : List Metric
  deriving DecidableEq, Repr

/-- What `ParsePrometheusMetric` returns: metric families by name. -/
abbrev MetricFamilies := AList (fun _ : String => MetricFamily)

/-- The functions the controllers call whose code is not in the source: the `pkg/utils`
helpers `RenderFinalizer`, `RenderResourceName`, `RenderMountPoint` (pattern, name, index),
`ParsePrometheusMetric`, `ParsePrometheusMetricValue`, the driver's `GetPVCStub` (name,
namespace, storage class), and the library's `resource.ParseQuantity` and
`Quantity.AsApproximateFloat64`. -/
structure Helpers where
  renderFinalizer : String → String
  renderResourceName : Bool → List String → Except String String
  renderMountPoint : String → String → Nat → String
  parsePrometheusMetric : String → Except String MetricFamilies
  parsePrometheusMetricValue : String → Except String F64
  getPVCStub : String → String → String → Except String PVC
  parseQuantity : String → Option ℚ
  asApproximateFloat64 : ℚ → F64

/-- Modelled from the spec: `IsContainsAll` is not in the source. A configuration matches a pod
when its pod selector is a subset of the pod's labels. -/
def isContainsAll (labels selector : StringMap) : Bool :=
  selector.entries.all fun e => labels.lookup e.1 = some e.2

/-- A label the selector does not mention does not change whether the selector matches. -/
theorem isContainsAll_insert {labels selector : StringMap} {k v : String}
    (hk : selector.lookup k = none) :
    isContainsAll (labels.insert k v) selector = isContainsAll labels selector := by
  unfold isContainsAll
  rw [Bool.eq_iff_iff, List.all_eq_true, List.all_eq_true]
  refine forall₂_congr fun e he => ?_
  have hne : e.1 ≠ k := by
    rintro rfl
    rw [AList.lookup_eq_none] at hk
    exact hk (AList.mem_keys.2 (List.mem_map_of_mem _ he))
  rw [AList.lookup_insert_ne hne]

end Discoblocks

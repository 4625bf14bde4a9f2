import Discoblocks.Monitor.Scrape

/-!
# Monitor: the resize decision

The body of the innermost loop of `MonitorVolumes`: one metric line of one pod under one
configuration. The line's mount point must be the configuration's rendered mount point; the first
volume mount of the pod's first container at that path names the claim, which must carry the
configuration's finalizer. The threshold test and the step of one gibibyte, capped at the
maximum, are `newCapacity`; the test is the source's, in `float64` (`enoughSpace`), so it can
differ from the same test on exact numbers.

`resizeMetric_eq_some` lists everything a line must satisfy to issue an update, and
`newCapacity_bounds` what the update requests.
-/

namespace Discoblocks.Monitor

/-- One gibibyte: `resource.ParseQuantity("1Gi")`, the step a claim grows by. -/
def growthStep : ℚ := 2 ^ 30

/-- `treshold` of the source: `actual * float64(UpscaleTriggerPercentage) / hundred`. -/
def treshold (actual : F64) (pct : Nat) : F64 := (actual.mul (.ofNat pct)).div (.ofNat 100)

/-- The source's test `treshold > actual - available`: the claim has enough free space. -/
def enoughSpace (actual : F64) (pct : Nat) (available : F64) : Bool :=
  (actual.sub available).lt (treshold actual pct)

set_option maxRecDepth 2000 in
/-- The sample `9.2999999999999999`, below `10 - 10 * 7 / 100 = 9.3`, reads as the `float64` of
`9.3`, and the test finds enough space on a claim of 10 bytes under a trigger of 7 percent. -/
example : Metrics.Decimal.toF64 ⟨92999999999999999, -16⟩ = Metrics.Decimal.toF64 ⟨93, -1⟩ ∧
    enoughSpace (F64.round 10) 7 (Metrics.Decimal.toF64 ⟨93, -1⟩) = true := by
  decide

/-- The capacity the monitor requests for a claim of capacity `actual` with `available` bytes
free, under an upscale trigger of `pct` percent and a maximum of `maxCapacity`; `none` when it
leaves the claim. -/
def newCapacity (H : Helpers) (pct : Nat) (actual : ℚ) (available : F64) (maxCapacity : ℚ) :
    Option ℚ :=
  if enoughSpace (H.asApproximateFloat64 actual) pct available then none
  else if actual = maxCapacity then none
  else some (if maxCapacity < growthStep + actual then maxCapacity else growthStep + actual)

/-- The value of the last `mountpoint` label of the family's samples, `""` when none. -/
def mountpointOf (family : MetricFamily) : String :=
  family.metric.foldl (fun mp m =>
    m.label.foldl (fun mp l => if l.name = "mountpoint" then l.value else mp) mp) ""

/-- The claim behind the first volume mount at `path` in the pod's first container (`""` when
there is none); indexing a pod without containers panics. -/
def volumeAt (pod : Pod) (path : String) : Except Panic String :=
  match pod.containers with
  | [] => .error .indexOutOfRange
  | c :: _ => .ok (((c.volumeMounts.find? (·.mountPath = path)).map (·.name)).getD "")

/-- An update the monitor issues: `r.Update` on the claim as read, with its storage request set
to `newCapacity`. -/
structure Update where
  claim : PVC
  newCapacity : ℚ
  deriving DecidableEq

/-- The claim object the update writes. -/
def Update.object (u : Update) : PVC := { u.claim with request := u.newCapacity }

/-- The API reads of a cycle, from the informer cache; `none` is a failed `Get`. It is one
snapshot: the cluster does not change during a cycle. -/
structure Cluster where
  endpoints : Except ApiError (List Endpoints)
  pods : NamespacedName → Option Pod
  diskConfigs : NamespacedName → Option DiskConfig
  pvcs : NamespacedName → Option PVC

/-- The claim found: its finalizer, the line's value, the maximum, and the decision. -/
def resizeClaim (H : Helpers) (config : DiskConfig) (metric : String) (pvc : PVC) :
    Option Update :=
  if !pvc.hasFinalizer (H.renderFinalizer config.name) then none
  else match H.parsePrometheusMetricValue metric,
      H.parseQuantity config.policy.maximumCapacityOfDisk with
    | .ok available, some maxCapacity =>
      (newCapacity H config.policy.upscaleTriggerPercentage pvc.capacity available
        maxCapacity).map (⟨pvc, ·⟩)
    | _, _ => none

/-- The mount point matched: the claim mounted there. -/
def resizeAt (H : Helpers) (cl : Cluster) (pod : Pod) (config : DiskConfig) (metric : String)
    (mountpoint : String) : Except Panic (Option Update) :=
  (volumeAt pod mountpoint).map fun claim =>
    if claim = "" then none else (cl.pvcs ⟨pod.ns, claim⟩).bind (resizeClaim H config metric)

/-- The mount point a line reports: the last `mountpoint` label of its free-space family. -/
def lineMountpoint (H : Helpers) (metric : String) : Option String :=
  match H.parsePrometheusMetric metric with
  | .error _ => none
  | .ok mf => (mf.lookup availMetric).map mountpointOf

/-- One metric line of `pod` under `config`. -/
def resizeMetric (H : Helpers) (cl : Cluster) (pod : Pod) (config : DiskConfig)
    (metric : String) : Except Panic (Option Update) :=
  match lineMountpoint H metric with
  | none => .ok none
  | some mountpoint =>
    if mountpoint = "" then .ok none
    else if mountpoint ≠ H.renderMountPoint config.mountPointPattern config.name 0 then .ok none
    else resizeAt H cl pod config metric mountpoint

/-! ## The decision -/

/-- A `NaN` sample never leaves enough space: every comparison with `NaN` is false. -/
@[simp] theorem enoughSpace_nan (actual : F64) (pct : Nat) :
    enoughSpace actual pct .nan = false := by
  simp [enoughSpace]

theorem newCapacity_eq_some {H : Helpers} {pct : Nat} {actual : ℚ} {available : F64}
    {maxCapacity n : ℚ} :
    newCapacity H pct actual available maxCapacity = some n ↔
      enoughSpace (H.asApproximateFloat64 actual) pct available = false ∧ actual ≠ maxCapacity ∧
        n = min maxCapacity (growthStep + actual) := by
  unfold newCapacity
  cases enoughSpace (H.asApproximateFloat64 actual) pct available
  · by_cases hm : actual = maxCapacity
    · simp only [Bool.false_eq_true, ↓reduceIte, hm, reduceCtorEq, ne_eq, not_true_eq_false,
        false_and, and_false]
    · by_cases hc : maxCapacity < growthStep + actual
      · simp [hm, hc, min_eq_left hc.le, eq_comm]
      · simp [hm, hc, min_eq_right (not_lt.1 hc), eq_comm]
  · simp

/-- What an update requests: at most the maximum and at most one step above the capacity, and
above the capacity when the capacity is below the maximum. -/
theorem newCapacity_bounds {H : Helpers} {pct : Nat} {actual : ℚ} {available : F64}
    {maxCapacity n : ℚ} (h : newCapacity H pct actual available maxCapacity = some n) :
    actual ≠ maxCapacity ∧ n ≤ maxCapacity ∧ n ≤ actual + growthStep ∧
      (actual < maxCapacity → actual < n) := by
  obtain ⟨-, hne, rfl⟩ := newCapacity_eq_some.1 h
  have hstep : (0 : ℚ) < growthStep := by norm_num [growthStep]
  refine ⟨hne, min_le_left _ _, by linarith [min_le_right maxCapacity (growthStep + actual)],
    fun hlt => lt_min hlt (by linarith)⟩

/-! ## One line -/

theorem resizeClaim_eq_some {H : Helpers} {config : DiskConfig} {metric : String} {pvc : PVC}
    {u : Update} :
    resizeClaim H config metric pvc = some u ↔ u.claim = pvc ∧
      pvc.hasFinalizer (H.renderFinalizer config.name) ∧ ∃ available maxCapacity,
        H.parsePrometheusMetricValue metric = .ok available ∧
        H.parseQuantity config.policy.maximumCapacityOfDisk = some maxCapacity ∧
        newCapacity H config.policy.upscaleTriggerPercentage pvc.capacity available maxCapacity =
          some u.newCapacity := by
  obtain ⟨claim, n⟩ := u
  unfold resizeClaim
  cases pvc.hasFinalizer (H.renderFinalizer config.name) <;>
    cases H.parsePrometheusMetricValue metric <;>
    cases H.parseQuantity config.policy.maximumCapacityOfDisk <;>
    simp only [Bool.not_false, Bool.not_true, if_true, if_false, reduceCtorEq, false_and, and_false,
      exists_false, Except.ok.injEq, Option.some.injEq, exists_and_left, exists_eq_left',
      Option.map_eq_some', Update.mk.injEq, true_and, Bool.false_eq_true, iff_self]
  constructor
  · rintro ⟨a, ha, rfl, rfl⟩; exact ⟨rfl, ha⟩
  · rintro ⟨rfl, ha⟩; exact ⟨n, ha, rfl, rfl⟩

theorem resizeAt_eq_some {H : Helpers} {cl : Cluster} {pod : Pod} {config : DiskConfig}
    {metric mountpoint : String} {u : Update} :
    resizeAt H cl pod config metric mountpoint = .ok (some u) ↔ ∃ claim,
      volumeAt pod mountpoint = .ok claim ∧ claim ≠ "" ∧ cl.pvcs ⟨pod.ns, claim⟩ = some u.claim ∧
        resizeClaim H config metric u.claim = some u := by
  unfold resizeAt
  cases volumeAt pod mountpoint with
  | error p => simp [Except.map]
  | ok claim =>
    by_cases hc : claim = ""
    · simp [Except.map, hc]
    · simp only [Except.map, hc, if_false, Except.ok.injEq, Option.bind_eq_some, ne_eq,
        not_false_eq_true, true_and, exists_eq_left']
      constructor
      · rintro ⟨pvc, hpvc, hu⟩
        obtain rfl := (resizeClaim_eq_some.1 hu).1
        exact ⟨hpvc, hu⟩
      · exact fun ⟨hpvc, hu⟩ => ⟨u.claim, hpvc, hu⟩

/-- A claim name read from a pod is the name of the first volume mount at the path in the pod's
first container. -/
theorem volumeAt_mounted {pod : Pod} {path claim : String} (h : volumeAt pod path = .ok claim)
    (hne : claim ≠ "") : ∃ c cs m, pod.containers = c :: cs ∧
      c.volumeMounts.find? (·.mountPath = path) = some m ∧ m.name = claim := by
  unfold volumeAt at h
  split at h
  · cases h
  · rename_i c cs hcs
    cases hf : c.volumeMounts.find? (·.mountPath = path) with
    | none => simp only [hf, Option.map_none', Option.getD_none, Except.ok.injEq] at h
              exact absurd h.symm hne
    | some m => exact ⟨c, cs, m, hcs, hf, by simpa [hf] using h⟩

/-- Everything a metric line of `pod` under `config` must satisfy to issue `u`: its mount point
is the configuration's, the claim mounted there carries the configuration's finalizer, the
`float64` test finds too little free space, the capacity is not the maximum, and the update asks
for one step more, capped at the maximum. -/
def Issues (H : Helpers) (cl : Cluster) (pod : Pod) (config : DiskConfig) (metric : String)
    (u : Update) : Prop :=
  ∃ mountpoint, lineMountpoint H metric = some mountpoint ∧ mountpoint ≠ "" ∧
    mountpoint = H.renderMountPoint config.mountPointPattern config.name 0 ∧
    ∃ claim, volumeAt pod mountpoint = .ok claim ∧ claim ≠ "" ∧
      cl.pvcs ⟨pod.ns, claim⟩ = some u.claim ∧
      u.claim.hasFinalizer (H.renderFinalizer config.name) ∧ ∃ available maxCapacity,
        H.parsePrometheusMetricValue metric = .ok available ∧
        H.parseQuantity config.policy.maximumCapacityOfDisk = some maxCapacity ∧
        enoughSpace (H.asApproximateFloat64 u.claim.capacity)
          config.policy.upscaleTriggerPercentage available = false ∧
        u.claim.capacity ≠ maxCapacity ∧
        u.newCapacity = min maxCapacity (growthStep + u.claim.capacity)

theorem resizeMetric_eq_some {H : Helpers} {cl : Cluster} {pod : Pod} {config : DiskConfig}
    {metric : String} {u : Update} :
    resizeMetric H cl pod config metric = .ok (some u) ↔ Issues H cl pod config metric u := by
  unfold resizeMetric Issues
  cases lineMountpoint H metric with
  | none => simp only [Except.ok.injEq, reduceCtorEq, exists_and_left, false_and, exists_const]
  | some mp =>
    by_cases h1 : mp = ""
    · simp only [h1, ↓reduceIte, Except.ok.injEq, reduceCtorEq, Option.some.injEq, ne_eq,
        exists_and_left, exists_eq_left', not_true_eq_false, false_and]
    by_cases h2 : mp = H.renderMountPoint config.mountPointPattern config.name 0
    · dsimp only
      rw [if_neg h1, if_neg (not_not.2 h2), resizeAt_eq_some]
      constructor
      · rintro ⟨claim, hv, hc, hpvc, hu⟩
        obtain ⟨-, hfin, a, m, ha, hm, hn⟩ := resizeClaim_eq_some.1 hu
        exact ⟨mp, rfl, h1, h2, claim, hv, hc, hpvc, hfin, a, m, ha, hm,
          newCapacity_eq_some.1 hn⟩
      · rintro ⟨_, ⟨⟩, -, -, claim, hv, hc, hpvc, hfin, a, m, ha, hm, hn⟩
        exact ⟨claim, hv, hc, hpvc,
          resizeClaim_eq_some.2 ⟨rfl, hfin, a, m, ha, hm, newCapacity_eq_some.2 hn⟩⟩
    · simp only [h1, ↓reduceIte, ne_eq, h2, not_false_eq_true, Except.ok.injEq, reduceCtorEq,
        Option.some.injEq, exists_and_left, exists_eq_left', false_and, and_false]

/-- A line panics only at the index of the first container. -/
theorem resizeMetric_ok {H : Helpers} {cl : Cluster} {pod : Pod} (hpod : pod.containers ≠ [])
    (config : DiskConfig) (metric : String) :
    ∃ r, resizeMetric H cl pod config metric = .ok r := by
  obtain ⟨c, cs, hc⟩ := List.exists_cons_of_ne_nil hpod
  unfold resizeMetric resizeAt
  split
  · exact ⟨_, rfl⟩
  · split
    · exact ⟨_, rfl⟩
    · split
      · exact ⟨_, rfl⟩
      · simp [volumeAt, hc, Except.map]

end Discoblocks.Monitor

import Discoblocks.Basic
import Mathlib.Data.List.Perm.Basic

/-!
# The pod mutator: `Handle`

`PodMutator.Handle` admits a pod. For every configuration of the pod's namespace that is not being
deleted and whose selector the pod's labels contain, it labels the pod with the configuration's
name, fetches the storage class, builds the claim (`NewPVC`) and creates it, and attaches it as a
volume at the configuration's mount point; a mount point already attached in this pass is an
error. When a claim was attached, the pod gets the metrics sidecar, the discoblocks scheduler,
and in every container a volume mount per attached claim.

The failures of a configuration go through `errorMode`: a denial in strict mode, an admission of
the unchanged pod otherwise. `admission.Errored` reads the message of its error, so it fails at
run time on a nil error (`errored`). Go's map iteration order is unspecified; `MapOrder` is the
order each `range` over `volumes` takes.

`attachConfig_eq_ok` says what one iteration of the configuration loop does when the loop goes
on, and `attachConfigs_eq_ok` what the whole loop did when it ran to its end.
-/

namespace Discoblocks.Mutator

/-! ## From `pkg/utils/kube.go` -/

/-- `NewPVC`: the claim of `config`, named by `RenderResourceName` from the prefix and the
configuration's name and namespace, on the driver's stub. -/
def newPVC (H : Helpers) (config : DiskConfig) (pfx : String) : Except String PVC :=
  match H.renderResourceName true [pfx, config.name, config.ns] with
  | .error e => .error ("unable to calculate hash: " ++ e)
  | .ok pvcName =>
    match H.getPVCStub pvcName config.ns config.storageClassName with
    | .error e => .error ("unable to init a PVC: " ++ e)
    | .ok pvc =>
      .ok { pvc with
        finalizers := [H.renderFinalizer config.name]
        labels := StringMap.ofList [("discoblocks", config.name)]
        request := config.capacity
        accessModes := if config.accessModes = [] then ["ReadWriteOnce"] else config.accessModes }

/-- `RenderMetricsSidecar`: the container of `metricsTeamplate`, privileged as asked; a privileged
sidecar also mounts the kubelet's directory. -/
def renderMetricsSidecar (privileged : Bool) : Container where
  name := "discoblocks-metrics"
  image := "bitnami/node-exporter:1.4.0"
  command := ["/opt/bitnami/node-exporter/bin/node_exporter", "--collector.disable-defaults",
    "--collector.filesystem", "--collector.filesystem.mount-points-exclude=\"*\"",
    "--collector.filesystem.fs-types-exclude=\"^(ext[2-4]|btrfs|xfs)$\""]
  ports := [9100]
  privileged := some privileged
  volumeMounts := if privileged then [⟨"varlibkubelet", "/var/lib/kubelet", true⟩] else []

/-! ## `Handle` -/

/-- An admission response. -/
inductive Response where
  /-- `admission.Allowed`: the pod is admitted as it is. -/
  | allowed (reason : String)
  /-- `admission.Errored`: the pod is denied, with a status code and message. -/
  | errored (code : Nat) (message : String)
  /-- `admission.PatchResponseFromRaw`: the pod is admitted as `pod`. -/
  | patch (pod : Pod)
  deriving DecidableEq

/-- `admission.Errored(code, err)`; it reads `err.Error()`, which panics on a nil `err`. -/
def errored (code : Nat) : Option String → Except Panic Response
  | some m => .ok (.errored code m)
  | none => .error .nilDereference

/-- `errorMode`. -/
def errorMode (strict : Bool) (code : Nat) (reason : String) (err : Option String) :
    Except Panic Response :=
  if strict then errored code err else .ok (.allowed reason)

/-- The answers of the API calls `Handle` makes. -/
structure AdmissionApi where
  /-- `List` of the configurations of a namespace. -/
  listConfigs : String → Except ApiError (List DiskConfig)
  getStorageClass : String → Except ApiError StorageClass
  /-- `Create`: `none` when the claim is created. -/
  createPVC : PVC → Option ApiError

/-- The order in which a `range` over a Go map visits its entries: any order, chosen anew by
each loop (the loop over the `i`-th container takes `order i`). -/
structure MapOrder where
  order : Nat → StringMap → List (String × String)
  perm : ∀ i m, (order i m).Perm (m.entries.map fun e => (e.1, e.2))

/-- The state of the configuration loop: the pod being patched and `volumes`, from claim name to
mount point. -/
structure Patch where
  pod : Pod
  volumes : StringMap

/-- The volume of a claim. -/
def volumeOf (pvc : PVC) : Volume := ⟨pvc.name, some pvc.name⟩

/-- The mount point of a configuration's claim. -/
def mountOf (H : Helpers) (config : DiskConfig) (pvc : PVC) : String :=
  H.renderMountPoint config.mountPointPattern pvc.name 0

variable (H : Helpers) (api : AdmissionApi) (strict : Bool)

/-- One iteration of the configuration loop: the claims it passed to `Create`, and the loop's
state after it or the response `Handle` returns. -/
def attachConfig (p : Patch) (config : DiskConfig) :
    List PVC × Except (Except Panic Response) Patch :=
  if config.deleting then ([], .ok p)
  else if !isContainsAll p.pod.labels config.podSelector then ([], .ok p)
  else
    let pod := { p.pod with labels := p.pod.labels.insert "discoblocks/metrics" config.name }
    match api.getStorageClass config.storageClassName with
    | .error (.notFound m) =>
      ([], .error (errorMode strict 404 ("StorageClass not found: " ++ config.storageClassName)
        (some m)))
    | .error e => ([], .error (errored 500 (some ("unable to fetch StorageClass: " ++ e.message))))
    | .ok sc =>
      match newPVC H config sc.provisioner with
      | .error m => ([], .error (errorMode strict 500 m (some m)))
      | .ok pvc =>
        match api.createPVC pvc with
        | some (.notFound m) | some (.other m) =>
          ([pvc], .error (errored 500 (some ("unable to create PVC: " ++ m))))
        | err =>
          -- `err` is `nil` or the `AlreadyExists` error here
          if p.volumes.entries.any (·.2 == mountOf H config pvc) then
            ([pvc], .error (errorMode strict 500 "Unable to init a PVC" (err.map ApiError.message)))
          else ([pvc], .ok ⟨{ pod with volumes := pod.volumes ++ [volumeOf pvc] },
            p.volumes.insert pvc.name (mountOf H config pvc)⟩)

/-- The configuration loop. -/
def attachConfigs : Patch → List DiskConfig → List PVC × Except (Except Panic Response) Patch
  | p, [] => ([], .ok p)
  | p, config :: configs =>
    match attachConfig H api strict p config with
    | (created, .error r) => (created, .error r)
    | (created, .ok p) =>
      let rest := attachConfigs p configs
      (created ++ rest.1, rest.2)

/-- The volume-mount loop: container `i` gets a mount per entry of `volumes`, in `order i`. -/
def mountAll (order : MapOrder) (volumes : StringMap) : Nat → List Container → List Container
  | _, [] => []
  | i, c :: cs =>
    { c with volumeMounts := c.volumeMounts ++ (order.order i volumes).map fun e => ⟨e.1, e.2, false⟩ }
      :: mountAll order volumes (i + 1) cs

/-- The pod after the loop: the scheduler, the sidecar (`RenderMetricsSidecar` of the source
takes no argument here; its template's container is unprivileged), and the volume mounts. -/
def finishPod (order : MapOrder) (p : Patch) : Pod :=
  { p.pod with
    schedulerName := "discoblocks-scheduler"
    containers := mountAll order p.volumes 0 (p.pod.containers ++ [renderMetricsSidecar false]) }

/-- `PodMutator.Handle` on a request whose pod decodes to `req`, or fails to with its message:
the claims it passed to `Create`, and its response. -/
def handle (order : MapOrder) (req : Except String Pod) : List PVC × Except Panic Response :=
  match req with
  | .error m => ([], errored 400 (some ("unable to decode request: " ++ m)))
  | .ok pod =>
    match api.listConfigs pod.ns with
    | .error e => ([], errored 500 (some ("unable to fetch configs: " ++ e.message)))
    | .ok configs =>
      match attachConfigs H api strict ⟨pod, ∅⟩ configs with
      | (created, .error r) => (created, r)
      | (created, .ok p) =>
        if p.volumes.entries.isEmpty then (created, .ok (.allowed "No sidecar injection"))
        else (created, .ok (.patch (finishPod order p)))

/-! ## The loop -/

/-- The claim `Handle` builds for a configuration: from the storage class the API returns. -/
def claimFor (config : DiskConfig) : Option PVC :=
  match api.getStorageClass config.storageClassName with
  | .ok sc => (newPVC H config sc.provisioner).toOption
  | .error _ => none

/-- `Create` went through: the claim was created or already existed. -/
def Created (r : Option ApiError) : Prop := r = none ∨ ∃ m, r = some (.alreadyExists m)

/-- The configurations `Handle` attaches, judged on the request's labels: not being deleted, with a
selector the labels contain. -/
def matching (pod : Pod) (configs : List DiskConfig) : List DiskConfig :=
  configs.filter fun c => !c.deleting && isContainsAll pod.labels c.podSelector

/-- `volumes` after the claims are attached, in order. -/
def insertAll (m : StringMap) (added : List (DiskConfig × PVC)) : StringMap :=
  added.foldl (fun m a => m.insert a.2.name (mountOf H a.1 a.2)) m

/-- The labels after the configurations are attached, in order. -/
def labelsAfter (labels : StringMap) (added : List (DiskConfig × PVC)) : StringMap :=
  added.foldl (fun l a => l.insert "discoblocks/metrics" a.1.name) labels

theorem insertAll_cons (m : StringMap) (a : DiskConfig × PVC) (added : List (DiskConfig × PVC)) :
    insertAll H m (a :: added) = insertAll H (m.insert a.2.name (mountOf H a.1 a.2)) added := rfl

theorem labelsAfter_cons (labels : StringMap) (a : DiskConfig × PVC)
    (added : List (DiskConfig × PVC)) :
    labelsAfter labels (a :: added) =
      labelsAfter (labels.insert "discoblocks/metrics" a.1.name) added := rfl

variable {H api strict}

theorem newPVC_eq_ok {config : DiskConfig} {pfx : String} {pvc : PVC} :
    newPVC H config pfx = .ok pvc ↔ ∃ name stub,
      H.renderResourceName true [pfx, config.name, config.ns] = .ok name ∧
      H.getPVCStub name config.ns config.storageClassName = .ok stub ∧
      pvc = { stub with
        finalizers := [H.renderFinalizer config.name]
        labels := StringMap.ofList [("discoblocks", config.name)]
        request := config.capacity
        accessModes :=
          if config.accessModes = [] then ["ReadWriteOnce"] else config.accessModes } := by
  unfold newPVC
  constructor
  · intro h
    split at h
    · cases h
    rename_i name hn
    split at h
    · cases h
    rename_i stub hs
    cases h
    exact ⟨name, stub, hn, hs, rfl⟩
  · rintro ⟨name, stub, hn, hs, rfl⟩
    simp only [hn, hs]

theorem claimFor_eq_some {config : DiskConfig} {pvc : PVC} :
    claimFor H api config = some pvc ↔ ∃ sc, api.getStorageClass config.storageClassName = .ok sc ∧
      newPVC H config sc.provisioner = .ok pvc := by
  unfold claimFor
  cases api.getStorageClass config.storageClassName with
  | error e => simp
  | ok sc => cases h : newPVC H config sc.provisioner <;> simp [h, Except.toOption]

/-- An iteration that lets the loop go on skips the configuration, or attaches its claim. -/
theorem attachConfig_eq_ok {p p' : Patch} {config : DiskConfig} {created : List PVC}
    (h : attachConfig H api strict p config = (created, .ok p')) :
    (created = [] ∧ p' = p) ∨
      (config.deleting = false ∧ isContainsAll p.pod.labels config.podSelector = true ∧
        ∃ pvc, claimFor H api config = some pvc ∧ Created (api.createPVC pvc) ∧
          created = [pvc] ∧
          p' = ⟨{ p.pod with
              labels := p.pod.labels.insert "discoblocks/metrics" config.name
              volumes := p.pod.volumes ++ [volumeOf pvc] },
            p.volumes.insert pvc.name (mountOf H config pvc)⟩) := by
  unfold attachConfig at h
  split at h
  · simp_all
  split at h
  · simp_all
  rename_i hdel hsel
  split at h
  · cases h
  · cases h
  rename_i sc hsc
  split at h
  · cases h
  rename_i pvc hpvc
  have hclaim : claimFor H api config = some pvc := claimFor_eq_some.2 ⟨sc, hsc, hpvc⟩
  have hsel' : isContainsAll p.pod.labels config.podSelector = true := by simpa using hsel
  rcases hcr : api.createPVC pvc with _ | ((m | m | m)) <;>
    simp only [hcr, Prod.mk.injEq, reduceCtorEq, and_false] at h <;>
    split at h <;> simp only [Prod.mk.injEq, reduceCtorEq, and_false, Except.ok.injEq] at h <;>
    obtain ⟨rfl, rfl⟩ := h
  · exact .inr ⟨by simpa using hdel, hsel', pvc, hclaim, .inl hcr, rfl, rfl⟩
  · exact .inr ⟨by simpa using hdel, hsel', pvc, hclaim, .inr ⟨m, hcr⟩, rfl, rfl⟩

/-- A loop that runs to its end attached claims of its configurations, one after the other. -/
theorem attachConfigs_eq_ok {p p' : Patch} {configs : List DiskConfig} {created : List PVC}
    (h : attachConfigs H api strict p configs = (created, .ok p')) :
    ∃ added : List (DiskConfig × PVC), created = added.map (·.2) ∧
      p'.pod = { p.pod with
        labels := labelsAfter p.pod.labels added
        volumes := p.pod.volumes ++ added.map (volumeOf ·.2) } ∧
      p'.volumes = insertAll H p.volumes added ∧
      ∀ a ∈ added, a.1 ∈ configs ∧ claimFor H api a.1 = some a.2 := by
  induction configs generalizing p created with
  | nil =>
    simp only [attachConfigs, Prod.mk.injEq, Except.ok.injEq] at h
    obtain ⟨rfl, rfl⟩ := h
    exact ⟨[], rfl, by simp [labelsAfter], rfl, by simp⟩
  | cons config configs ih =>
    simp only [attachConfigs] at h
    split at h
    · cases h
    rename_i c₁ p₁ h₁
    simp only [Prod.mk.injEq] at h
    obtain ⟨rfl, hrest⟩ := h
    obtain ⟨added, hc, hpod, hvol, hmem⟩ := ih (Prod.ext rfl hrest)
    rcases attachConfig_eq_ok h₁ with ⟨rfl, rfl⟩ | ⟨-, -, pvc, hclaim, -, rfl, rfl⟩
    · exact ⟨added, by simpa using hc, hpod, hvol,
        fun a ha => ⟨List.mem_cons_of_mem _ (hmem a ha).1, (hmem a ha).2⟩⟩
    · refine ⟨(config, pvc) :: added, by simp [hc], ?_, hvol, ?_⟩
      · rw [hpod]; simp [labelsAfter]
      · rintro a (_ | ⟨_, ha⟩)
        · exact ⟨List.mem_cons_self _ _, hclaim⟩
        · exact ⟨List.mem_cons_of_mem _ (hmem a ha).1, (hmem a ha).2⟩

/-- An iteration passes to `Create` nothing, or the claim `claimFor` builds for a configuration
that is not being deleted, whatever it answers; when it lets the loop go on, the claim's mount point
was not in `volumes`. -/
theorem attachConfig_created {p : Patch} {config : DiskConfig} {created : List PVC}
    {r : Except (Except Panic Response) Patch} (h : attachConfig H api strict p config = (created, r)) :
    created = [] ∨ config.deleting = false ∧ ∃ pvc, claimFor H api config = some pvc ∧
      created = [pvc] ∧
      ∀ p', r = .ok p' → ∀ e ∈ p.volumes.entries, e.2 ≠ mountOf H config pvc := by
  unfold attachConfig at h
  split at h
  · cases h; exact .inl rfl
  split at h
  · cases h; exact .inl rfl
  rename_i hdel _
  split at h
  · cases h; exact .inl rfl
  · cases h; exact .inl rfl
  rename_i sc hsc
  split at h
  · cases h; exact .inl rfl
  rename_i pvc hpvc
  refine .inr ⟨by simpa using hdel, pvc, claimFor_eq_some.2 ⟨sc, hsc, hpvc⟩, ?_⟩
  split at h
  · cases h; exact ⟨rfl, fun _ h => by cases h⟩
  · cases h; exact ⟨rfl, fun _ h => by cases h⟩
  · split at h
    · cases h; exact ⟨rfl, fun _ h => by cases h⟩
    · rename_i hany
      cases h
      simp only [List.any_eq_true, beq_iff_eq, not_exists, not_and] at hany
      exact ⟨rfl, fun _ _ => hany⟩

theorem attachConfig_skip {p : Patch} {config : DiskConfig}
    (h : (!config.deleting && isContainsAll p.pod.labels config.podSelector) = false) :
    attachConfig H api strict p config = ([], .ok p) := by
  unfold attachConfig
  cases hd : config.deleting
  · simp only [hd, Bool.not_false, Bool.true_and] at h
    simp [h]
  · simp

theorem attachConfig_attach {p : Patch} {config : DiskConfig} {pvc : PVC}
    (hdel : config.deleting = false) (hsel : isContainsAll p.pod.labels config.podSelector = true)
    (hclaim : claimFor H api config = some pvc) (hc : Created (api.createPVC pvc))
    (hfresh : ∀ e ∈ p.volumes.entries, e.2 ≠ mountOf H config pvc) :
    attachConfig H api strict p config =
      ([pvc], .ok ⟨{ p.pod with
          labels := p.pod.labels.insert "discoblocks/metrics" config.name
          volumes := p.pod.volumes ++ [volumeOf pvc] },
        p.volumes.insert pvc.name (mountOf H config pvc)⟩) := by
  obtain ⟨sc, hsc, hpvc⟩ := claimFor_eq_some.1 hclaim
  have hany : (p.volumes.entries.any (·.2 == mountOf H config pvc)) = false := by
    simpa [List.any_eq_false] using hfresh
  unfold attachConfig
  rcases hc with hc | ⟨m, hc⟩ <;> simp [hdel, hsel, hsc, hpvc, hc, hany]

/-- When no selector mentions the label the loop writes, every configuration of `matching` is
attached in turn, if its claim is built and created and its mount point is new. -/
theorem attachConfigs_matching {p : Patch} {configs : List DiskConfig}
    {claims : List (DiskConfig × PVC)}
    (hsel : ∀ c ∈ configs, c.podSelector.lookup "discoblocks/metrics" = none)
    (hm : claims.map (·.1) = matching p.pod configs)
    (hclaims : ∀ a ∈ claims, claimFor H api a.1 = some a.2 ∧ Created (api.createPVC a.2))
    (hmp : (claims.map fun a => mountOf H a.1 a.2).Nodup)
    (hfresh : ∀ a ∈ claims, ∀ e ∈ p.volumes.entries, e.2 ≠ mountOf H a.1 a.2) :
    attachConfigs H api strict p configs =
      (claims.map (·.2), .ok ⟨{ p.pod with
          labels := labelsAfter p.pod.labels claims
          volumes := p.pod.volumes ++ claims.map (volumeOf ·.2) },
        insertAll H p.volumes claims⟩) := by
  induction configs generalizing p claims with
  | nil =>
    cases claims with
    | nil => simp [attachConfigs, labelsAfter, insertAll]
    | cons a _ => simp [matching] at hm
  | cons c configs ih =>
    have hsel' := fun c' hc' => hsel c' (List.mem_cons_of_mem c hc')
    by_cases hmc : (!c.deleting && isContainsAll p.pod.labels c.podSelector) = true
    · cases claims with
      | nil => simp [matching, hmc] at hm
      | cons a claims => ?_
      simp only [matching, List.filter_cons, hmc, if_true, List.map_cons, List.cons.injEq] at hm
      obtain ⟨rfl, hm'⟩ := hm
      simp only [Bool.and_eq_true, Bool.not_eq_true'] at hmc
      simp only [List.map_cons, List.nodup_cons, List.mem_map, not_exists, not_and] at hmp
      have hstep : attachConfig H api strict p a.1 = _ := attachConfig_attach hmc.1 hmc.2
        (hclaims a (List.mem_cons_self _ _)).1 (hclaims a (List.mem_cons_self _ _)).2
        (hfresh a (List.mem_cons_self _ _))
      have hmatch : matching { p.pod with
          labels := p.pod.labels.insert "discoblocks/metrics" a.1.name
          volumes := p.pod.volumes ++ [volumeOf a.2] } configs = matching p.pod configs :=
        List.filter_congr fun c' hc' => by simp [isContainsAll_insert (hsel' c' hc')]
      simp only [attachConfigs, hstep]
      rw [ih (p := ⟨_, p.volumes.insert a.2.name (mountOf H a.1 a.2)⟩) hsel' (hm'.trans hmatch.symm)
        (fun a' ha' => hclaims a' (List.mem_cons_of_mem _ ha')) hmp.2 ?_]
      · simp [labelsAfter, insertAll]
      · intro a' ha' e he
        rw [AList.insert_entries] at he
        rcases List.mem_cons.1 he with rfl | he
        · exact fun h => hmp.1 a' ha' h.symm
        · exact hfresh a' (List.mem_cons_of_mem _ ha') e ((List.kerase_sublist _ _).subset he)
    · have hskip : attachConfig H api strict p c = ([], .ok p) :=
        attachConfig_skip (Bool.eq_false_iff.2 hmc)
      simp only [matching, List.filter_cons, hmc, if_false] at hm
      simp only [attachConfigs, hskip, List.nil_append]
      exact ih hsel' hm hclaims hmp hfresh

/-- When no configuration matches, the loop changes nothing. -/
theorem attachConfigs_unmatched {p : Patch} {configs : List DiskConfig}
    (h : matching p.pod configs = []) : attachConfigs H api strict p configs = ([], .ok p) := by
  induction configs with
  | nil => rfl
  | cons c configs ih =>
    simp only [matching, List.filter_cons] at h
    split at h
    · cases h
    · simp only [attachConfigs, attachConfig_skip (Bool.eq_false_iff.2 ‹_›), ih h, List.nil_append]

/-- An iteration fails at run time only in strict mode, on a mount point taken earlier in the pass,
after `Create` made its claim: `errorMode` then passes `Errored` the nil error of `Create`. -/
theorem attachConfig_eq_panic {p : Patch} {config : DiskConfig} {created : List PVC} {e : Panic}
    (h : attachConfig H api strict p config = (created, .error (.error e))) :
    strict = true ∧ e = .nilDereference ∧ ∃ pvc, claimFor H api config = some pvc ∧
      api.createPVC pvc = none ∧ created = [pvc] ∧
      ∃ v ∈ p.volumes.entries, v.2 = mountOf H config pvc := by
  unfold attachConfig at h
  split at h
  · cases h
  split at h
  · cases h
  split at h
  · cases strict <;> simp [errorMode, errored] at h
  · simp [errored] at h
  rename_i sc hsc
  split at h
  · cases strict <;> simp [errorMode, errored] at h
  rename_i pvc hpvc
  have hclaim : claimFor H api config = some pvc := claimFor_eq_some.2 ⟨sc, hsc, hpvc⟩
  rcases hcr : api.createPVC pvc with _ | ((m | m | m)) <;> simp only [hcr] at h
  · split at h
    · rename_i hany
      cases strict <;> simp [errorMode, errored] at h
      obtain ⟨rfl, rfl⟩ := h
      exact ⟨rfl, rfl, pvc, hclaim, hcr, rfl, by simpa using hany⟩
    · cases h
  · simp [errored] at h
  · split at h
    · cases strict <;> simp [errorMode, errored] at h
    · cases h
  · simp [errored] at h

/-- A loop over `pre ++ rest` whose run over `pre` goes on continues with `rest`. -/
theorem attachConfigs_append_ok {p q : Patch} {pre : List DiskConfig} {created : List PVC}
    (h : attachConfigs H api strict p pre = (created, .ok q)) (rest : List DiskConfig) :
    attachConfigs H api strict p (pre ++ rest) =
      (created ++ (attachConfigs H api strict q rest).1,
        (attachConfigs H api strict q rest).2) := by
  induction pre generalizing p created with
  | nil =>
    simp only [attachConfigs, Prod.mk.injEq, Except.ok.injEq] at h
    obtain ⟨rfl, rfl⟩ := h
    rfl
  | cons config pre ih =>
    rcases h₁ : attachConfig H api strict p config with ⟨c₁, r₁ | p₁⟩
    · simp [attachConfigs, h₁] at h
    · simp only [attachConfigs, h₁, Prod.mk.injEq] at h
      obtain ⟨rfl, hrest⟩ := h
      rw [List.cons_append]
      simp only [attachConfigs, h₁, ih (Prod.ext rfl hrest), List.append_assoc]

/-- A loop that stops stops at one of its iterations, with that iteration's response, after the
iterations before it went on. -/
theorem attachConfigs_eq_error {p : Patch} {configs : List DiskConfig} {created : List PVC}
    {r : Except Panic Response} (h : attachConfigs H api strict p configs = (created, .error r)) :
    ∃ pre config post created₀ q c, configs = pre ++ config :: post ∧
      attachConfigs H api strict p pre = (created₀, .ok q) ∧
      attachConfig H api strict q config = (c, .error r) ∧ created = created₀ ++ c := by
  induction configs generalizing p created with
  | nil => cases h
  | cons config configs ih =>
    rcases h₁ : attachConfig H api strict p config with ⟨c₁, r₁ | p₁⟩
    · simp only [attachConfigs, h₁, Prod.mk.injEq, Except.error.injEq] at h
      obtain ⟨rfl, rfl⟩ := h
      exact ⟨[], config, configs, [], p, c₁, rfl, rfl, h₁, rfl⟩
    · simp only [attachConfigs, h₁, Prod.mk.injEq] at h
      obtain ⟨pre, config', post, created₀, q, c, rfl, hpre, hq, hc⟩ := ih (Prod.ext rfl h.2)
      refine ⟨config :: pre, config', post, c₁ ++ created₀, q, c, rfl, ?_, hq, ?_⟩
      · simp only [attachConfigs, h₁, hpre]
      · rw [← h.1, List.append_assoc, ← hc]

/-- In non-strict mode an iteration stops the loop with an admission of the unchanged pod, or with
a denial for a failed API call: fetching the storage class, or creating the claim. -/
theorem attachConfig_nonstrict_error {p : Patch} {config : DiskConfig} {created : List PVC}
    {r : Except Panic Response} (h : attachConfig H api false p config = (created, .error r)) :
    (∃ reason, r = .ok (.allowed reason)) ∨
      ∃ e, r = .ok (.errored 500 ("unable to fetch StorageClass: " ++ e)) ∨
        r = .ok (.errored 500 ("unable to create PVC: " ++ e)) := by
  unfold attachConfig at h
  split at h
  · cases h
  split at h
  · cases h
  split at h
  · cases h; exact .inl ⟨_, rfl⟩
  · cases h; exact .inr ⟨_, .inl rfl⟩
  split at h
  · cases h; exact .inl ⟨_, rfl⟩
  split at h
  · cases h; exact .inr ⟨_, .inr rfl⟩
  · cases h; exact .inr ⟨_, .inr rfl⟩
  split at h
  · cases h; exact .inl ⟨_, rfl⟩
  · cases h

/-! ## Volume mounts -/

/-- The label the loop writes ends as the name of the last configuration attached. -/
theorem labelsAfter_eq_insert (labels : StringMap) {added : List (DiskConfig × PVC)}
    (hne : added ≠ []) :
    labelsAfter labels added = labels.insert "discoblocks/metrics" (added.getLast hne).1.name := by
  induction added generalizing labels with
  | nil => exact absurd rfl hne
  | cons a added ih =>
    cases added with
    | nil => rfl
    | cons b added =>
      rw [labelsAfter_cons, ih _ (List.cons_ne_nil _ _), AList.insert_insert]
      rfl

/-- With distinct claim names new to `m`, `volumes` holds an entry per attached claim besides
those of `m`. -/
theorem insertAll_entries_perm {m : StringMap} {added : List (DiskConfig × PVC)}
    (hn : (added.map (·.2.name)).Nodup) (hm : ∀ a ∈ added, a.2.name ∉ m) :
    ((insertAll H m added).entries.map fun e => (e.1, e.2)).Perm
      (added.map (fun a => (a.2.name, mountOf H a.1 a.2)) ++
        m.entries.map fun e => (e.1, e.2)) := by
  induction added generalizing m with
  | nil => exact .refl _
  | cons a added ih =>
    simp only [List.map_cons, List.nodup_cons, List.mem_map] at hn
    have hm' : ∀ b ∈ added, b.2.name ∉ m.insert a.2.name (mountOf H a.1 a.2) := fun b hb h =>
      ((AList.mem_insert _).1 h).elim (fun he => hn.1 ⟨b, hb, he⟩)
        (hm b (List.mem_cons_of_mem _ hb))
    rw [insertAll_cons]
    refine (ih hn.2 hm').trans ?_
    rw [AList.insert_entries_of_neg (hm a (List.mem_cons_self _ _)), List.map_cons, List.map_cons]
    exact List.perm_middle

/-- An entry of `volumes` after the claims are attached is an entry from before or the mount
point of an attached claim. -/
theorem mem_insertAll_entries {m : StringMap} {added : List (DiskConfig × PVC)}
    {v : Sigma fun _ : String => String} (hv : v ∈ (insertAll H m added).entries) :
    v ∈ m.entries ∨ ∃ a ∈ added, v.2 = mountOf H a.1 a.2 := by
  induction added generalizing m with
  | nil => exact .inl hv
  | cons a added ih =>
    rcases ih hv with hv | ⟨b, hb, hvb⟩
    · rw [AList.insert_entries] at hv
      rcases List.mem_cons.1 hv with rfl | hv
      · exact .inr ⟨a, List.mem_cons_self _ _, rfl⟩
      · exact .inl ((List.kerase_sublist _ _).subset hv)
    · exact .inr ⟨b, List.mem_cons_of_mem _ hb, hvb⟩

/-- Two containers that differ at most in the order of their volume mounts. -/
structure SameMounts (c₁ c₂ : Container) : Prop where
  rest : { c₁ with volumeMounts := [] } = { c₂ with volumeMounts := [] }
  perm : c₁.volumeMounts.Perm c₂.volumeMounts

/-- Two orders of the map give each container the same mounts, in orders that are permutations of
each other. -/
theorem mountAll_perm (o₁ o₂ : MapOrder) (volumes : StringMap) (i : Nat) (cs : List Container) :
    List.Forall₂ SameMounts (mountAll o₁ volumes i cs) (mountAll o₂ volumes i cs) := by
  induction cs generalizing i with
  | nil => exact .nil
  | cons c cs ih =>
    refine .cons ⟨rfl, ?_⟩ (ih (i + 1))
    exact (((o₁.perm i volumes).trans (o₂.perm i volumes).symm).map _).append_left _

/-- Every container gets the entries of `volumes`, in some order, as new volume mounts. -/
theorem mountAll_forall₂ (order : MapOrder) (volumes : StringMap) (i : Nat) (cs : List Container) :
    List.Forall₂ (fun c c' => ∃ j, c' = { c with
        volumeMounts := c.volumeMounts ++ (order.order j volumes).map (fun e => ⟨e.1, e.2, false⟩) })
      cs (mountAll order volumes i cs) := by
  induction cs generalizing i with
  | nil => exact .nil
  | cons c cs ih => exact .cons ⟨i, rfl⟩ (ih (i + 1))

end Discoblocks.Mutator

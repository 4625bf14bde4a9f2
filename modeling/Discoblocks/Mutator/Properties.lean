import Discoblocks.Mutator.Handle
import Discoblocks.Monitor.Resize

/-!
# The pod mutator: what a patch holds

A patched pod has a volume for every claim `Handle` created, each the claim `claimFor` builds for
one of the namespace's configurations. The claim depends on the configuration and the storage
class, not on the pod, so two pods that match one configuration share its claim
(`handle_shares_claim`). When no selector reads the label the loop writes and the claims are
built, created and mounted at distinct points, the patch is the request's pod with a volume and,
in every container, a volume mount per matching configuration (`handle_patches`). When the API
server accepts the patched pod and `RenderMountPoint` at index 0 ignores its name, the monitor
resolves a configuration's mount point in the pod's first container to the configuration's claim
(`handle_mount_resolves`). `Handle` fails at run time only in strict mode, on a taken mount point
after a successful `Create` (`handle_panics_strict`); in non-strict mode it denies a pod only for a
failed decode or API call, and admits it on the failures `errorMode` handles
(`handle_nonstrict_denies`). The order in which Go visits a map changes only the order of the
volume mounts (`handle_order_independent`).
-/

namespace Discoblocks.Mutator

/-! ## A sample namespace -/

/-- A pod of the `default` namespace labelled `app=web`, with one container. -/
def webPod (name : String) : Pod where
  ns := "default"
  name := name
  labels := StringMap.ofList [("app", "web")]
  volumes := []
  containers := [⟨"web", "nginx", [], [80], none, []⟩]
  schedulerName := "default-scheduler"

/-- A configuration of the `default` namespace that selects `app=web` and mounts at `pattern`. -/
def webConfig (name pattern : String) : DiskConfig where
  ns := "default"
  name := name
  deleting := false
  storageClassName := "ebs"
  capacity := 1
  mountPointPattern := pattern
  accessModes := []
  podSelector := StringMap.ofList [("app", "web")]
  policy := ⟨false, "10Gi", 80⟩
  status := ∅

/-- The claim `NewPVC` builds for `webConfig name` on the `ebs.csi.aws.com` driver. -/
def webClaim (name : String) : PVC where
  ns := "default"
  name := "ebs.csi.aws.com-" ++ name ++ "-default"
  labels := StringMap.ofList [("discoblocks", name)]
  finalizers := ["discoblocks.ondat.io/" ++ name]
  deleting := false
  storageClassName := "ebs"
  accessModes := ["ReadWriteOnce"]
  request := 1
  phase := ""
  capacity := 0

/-- An API server whose `default` namespace holds `configs`, whose storage class `ebs` is
provisioned by `ebs.csi.aws.com`, and whose `Create` answers `create`. -/
def webApi (configs : List DiskConfig) (create : Option ApiError) : AdmissionApi where
  listConfigs ns := if ns = "default" then .ok configs else .ok []
  getStorageClass name :=
    if name = "ebs" then .ok ⟨"ebs", "ebs.csi.aws.com"⟩ else .error (.notFound "storageclass")
  createPVC _ := create

/-- A configuration whose selector reads the label the loop writes for `dc1`. -/
def chainedConfig : DiskConfig :=
  { webConfig "dc2" "/b" with podSelector := StringMap.ofList [("discoblocks/metrics", "dc1")] }

/-- A `range` that visits a map in the order of its entries. -/
def MapOrder.entries : MapOrder := ⟨fun _ m => m.entries.map fun e => (e.1, e.2), fun _ _ => .refl _⟩

variable {H : Helpers} {api : AdmissionApi} {strict : Bool}

/-! ## Responses -/

theorem errored_ne_patch (code : Nat) (err : Option String) (pod : Pod) :
    errored code err ≠ .ok (.patch pod) := by
  cases err <;> simp [errored]

theorem errorMode_ne_patch (code : Nat) (reason : String) (err : Option String) (pod : Pod) :
    errorMode strict code reason err ≠ .ok (.patch pod) := by
  unfold errorMode
  split
  · exact errored_ne_patch code err pod
  · simp

/-- A configuration that stops the loop stops it without a patch. -/
theorem attachConfig_error_ne_patch {p : Patch} {config : DiskConfig} {created : List PVC}
    {r : Except Panic Response} (h : attachConfig H api strict p config = (created, .error r))
    (pod : Pod) : r ≠ .ok (.patch pod) := by
  unfold attachConfig at h
  split at h
  · cases h
  split at h
  · cases h
  split at h
  · cases h; exact errorMode_ne_patch _ _ _ pod
  · cases h; exact errored_ne_patch _ _ pod
  split at h
  · cases h; exact errorMode_ne_patch _ _ _ pod
  split at h
  · cases h; exact errored_ne_patch _ _ pod
  · cases h; exact errored_ne_patch _ _ pod
  split at h
  · cases h; exact errorMode_ne_patch _ _ _ pod
  · cases h

theorem attachConfigs_error_ne_patch {p : Patch} {configs : List DiskConfig}
    {created : List PVC} {r : Except Panic Response}
    (h : attachConfigs H api strict p configs = (created, .error r)) (pod : Pod) :
    r ≠ .ok (.patch pod) := by
  induction configs generalizing p created with
  | nil => cases h
  | cons config configs ih =>
    simp only [attachConfigs] at h
    split at h
    · cases h; exact attachConfig_error_ne_patch ‹_› pod
    · simp only [Prod.mk.injEq] at h
      exact ih (Prod.ext rfl h.2)

/-- A patch is the pod after a loop that ran to its end. -/
theorem handle_eq_patch {order : MapOrder} {pod pod' : Pod} {created : List PVC}
    (h : handle H api strict order (.ok pod) = (created, .ok (.patch pod'))) :
    ∃ configs p, api.listConfigs pod.ns = .ok configs ∧
      attachConfigs H api strict ⟨pod, ∅⟩ configs = (created, .ok p) ∧ pod' = finishPod order p := by
  simp only [handle] at h
  split at h
  · simp only [Prod.mk.injEq] at h
    exact absurd h.2 (errored_ne_patch _ _ _)
  rename_i configs hl
  split at h
  · simp only [Prod.mk.injEq] at h
    exact absurd h.2 (attachConfigs_error_ne_patch ‹_› _)
  rename_i p hp
  split at h
  · simp at h
  · simp only [Prod.mk.injEq, Except.ok.injEq, Response.patch.injEq] at h
    obtain ⟨rfl, rfl⟩ := h
    exact ⟨configs, p, hl, hp, rfl⟩

/-- `Handle` fails at run time only in strict mode, by dereferencing a nil error: the namespace's
configurations list a configuration whose claim `Create` has just made, with no error, and whose
mount point is that of a claim attached earlier in the pass. -/
theorem handle_panics_strict {order : MapOrder} {req : Except String Pod} {created : List PVC}
    {e : Panic} (h : handle H api strict order req = (created, .error e)) :
    strict = true ∧ e = .nilDereference ∧ ∃ pod configs, req = .ok pod ∧
      api.listConfigs pod.ns = .ok configs ∧
      ∃ (added : List (DiskConfig × PVC)) (config : DiskConfig) (pvc : PVC),
        config ∈ configs ∧ (∀ a ∈ added, a.1 ∈ configs ∧ claimFor H api a.1 = some a.2) ∧
        claimFor H api config = some pvc ∧ api.createPVC pvc = none ∧
        created = added.map (·.2) ++ [pvc] ∧
        ∃ a ∈ added, mountOf H a.1 a.2 = mountOf H config pvc := by
  rcases req with m | pod
  · simp [handle, errored] at h
  rcases hl : api.listConfigs pod.ns with err | configs
  · simp [handle, hl, errored] at h
  rcases hp : attachConfigs H api strict ⟨pod, ∅⟩ configs with ⟨created', r | p⟩
  · simp only [handle, hl, hp, Prod.mk.injEq] at h
    obtain ⟨rfl, rfl⟩ := h
    obtain ⟨pre, config, post, created₀, q, c, rfl, hpre, hq, rfl⟩ := attachConfigs_eq_error hp
    obtain ⟨hs, he, pvc, hclaim, hcr, rfl, v, hv, hvm⟩ := attachConfig_eq_panic hq
    obtain ⟨added, rfl, -, hvol, hmem⟩ := attachConfigs_eq_ok hpre
    rw [hvol] at hv
    obtain ⟨a, ha, hva⟩ := (mem_insertAll_entries hv).resolve_left (List.not_mem_nil v)
    refine ⟨hs, he, pod, _, rfl, hl, added, config, pvc, by simp, fun a ha => ?_, hclaim, hcr, rfl,
      a, ha, hva.symm.trans hvm⟩
    exact ⟨List.mem_append_left _ (hmem a ha).1, (hmem a ha).2⟩
  · simp only [handle, hl, hp] at h
    split at h <;> cases h

/-- Two configurations that select `app=web` and mount at one path. -/
def collisionApi : AdmissionApi := webApi [webConfig "dc1" "/data", webConfig "dc2" "/data"] none

theorem handle_panics_strict_collision :
    handle Helpers.spec collisionApi true MapOrder.entries (.ok (webPod "app-1")) =
        ([webClaim "dc1", webClaim "dc2"], .error .nilDereference) ∧
      true = true ∧ Panic.nilDereference = .nilDereference ∧ ∃ pod configs,
        (.ok (webPod "app-1") : Except String Pod) = .ok pod ∧
        collisionApi.listConfigs pod.ns = .ok configs ∧
        ∃ (added : List (DiskConfig × PVC)) (config : DiskConfig) (pvc : PVC), config ∈ configs ∧
          (∀ a ∈ added, a.1 ∈ configs ∧ claimFor Helpers.spec collisionApi a.1 = some a.2) ∧
          claimFor Helpers.spec collisionApi config = some pvc ∧ collisionApi.createPVC pvc = none ∧
          [webClaim "dc1", webClaim "dc2"] = added.map (·.2) ++ [pvc] ∧
          ∃ a ∈ added, mountOf Helpers.spec a.1 a.2 = mountOf Helpers.spec config pvc :=
  ⟨rfl, @handle_panics_strict Helpers.spec collisionApi true MapOrder.entries
    (.ok (webPod "app-1")) [webClaim "dc1", webClaim "dc2"] .nilDereference rfl⟩

/-- The failures of a matching configuration that go through `errorMode`: its storage class is
not found, `NewPVC` fails, or its claim, created or already there, has a mount point already in
`volumes`. -/
def ModeFailure (H : Helpers) (api : AdmissionApi) (p : Patch) (config : DiskConfig) : Prop :=
  (∃ m, api.getStorageClass config.storageClassName = .error (.notFound m)) ∨
    (∃ sc m, api.getStorageClass config.storageClassName = .ok sc ∧
      newPVC H config sc.provisioner = .error m) ∨
    ∃ pvc, claimFor H api config = some pvc ∧ Created (api.createPVC pvc) ∧
      ∃ v ∈ p.volumes.entries, v.2 = mountOf H config pvc

/-- In non-strict mode a matching configuration that fails through `errorMode` stops the loop
with an admission of the unchanged pod. -/
theorem attachConfig_nonstrict_allows {p : Patch} {config : DiskConfig}
    (hdel : config.deleting = false) (hsel : isContainsAll p.pod.labels config.podSelector = true)
    (hf : ModeFailure H api p config) :
    ∃ c reason, attachConfig H api false p config = (c, .error (.ok (.allowed reason))) := by
  rcases hf with ⟨m, hsc⟩ | ⟨sc, m, hsc, hpvc⟩ | ⟨pvc, hclaim, hcr, v, hv, hvm⟩
  · exact ⟨[], _, by simp [attachConfig, hdel, hsel, hsc, errorMode]; rfl⟩
  · exact ⟨[], m, by simp [attachConfig, hdel, hsel, hsc, hpvc, errorMode]⟩
  · obtain ⟨sc, hsc, hpvc⟩ := claimFor_eq_some.1 hclaim
    have hany : p.volumes.entries.any (·.2 == mountOf H config pvc) = true :=
      List.any_eq_true.2 ⟨v, hv, by simp [hvm]⟩
    rcases hcr with hcr | ⟨m, hcr⟩ <;>
      exact ⟨[pvc], "Unable to init a PVC",
        by simp [attachConfig, hdel, hsel, hsc, hpvc, hcr, hany, errorMode]⟩

/-- In non-strict mode `Handle` denies a pod only when the request does not decode or an API call
fails; a missing storage class, a claim `NewPVC` cannot build and a taken mount point, met by the
loop at a matching configuration, admit the pod unchanged. -/
theorem handle_nonstrict_denies {order : MapOrder} :
    (∀ req code m, (handle H api false order req).2 = .ok (.errored code m) →
      (code = 400 ∧ ∃ e, m = "unable to decode request: " ++ e) ∨
        (code = 500 ∧ ∃ e, m = "unable to fetch configs: " ++ e ∨
          m = "unable to fetch StorageClass: " ++ e ∨ m = "unable to create PVC: " ++ e)) ∧
    ∀ pod pre config post created q, api.listConfigs pod.ns = .ok (pre ++ config :: post) →
      attachConfigs H api false ⟨pod, ∅⟩ pre = (created, .ok q) → config.deleting = false →
      isContainsAll q.pod.labels config.podSelector = true → ModeFailure H api q config →
      ∃ reason, (handle H api false order (.ok pod)).2 = .ok (.allowed reason) := by
  refine ⟨fun req code m h => ?_, fun pod pre config post created q hl hpre hdel hsel hf => ?_⟩
  · unfold handle at h
    split at h
    · simp only [errored, Except.ok.injEq, Response.errored.injEq] at h
      exact .inl ⟨h.1.symm, _, h.2.symm⟩
    split at h
    · simp only [errored, Except.ok.injEq, Response.errored.injEq] at h
      exact .inr ⟨h.1.symm, _, .inl h.2.symm⟩
    split at h
    · rename_i hp
      simp only at h
      obtain ⟨-, config, -, -, q, c, -, -, hq, -⟩ := attachConfigs_eq_error (h ▸ hp)
      rcases attachConfig_nonstrict_error hq with ⟨_, hr⟩ | ⟨e, hr | hr⟩ <;> cases hr
      · exact .inr ⟨rfl, e, .inr (.inl rfl)⟩
      · exact .inr ⟨rfl, e, .inr (.inr rfl)⟩
    · split at h <;> cases h
  · obtain ⟨c, reason, hq⟩ := attachConfig_nonstrict_allows hdel hsel hf
    have hrun := attachConfigs_append_ok hpre (config :: post)
    simp only [attachConfigs, hq] at hrun
    exact ⟨reason, by simp only [handle, hl, hrun]⟩

theorem handle_nonstrict_denies_quota :
    (handle Helpers.spec (webApi [webConfig "dc" "/data"] (some (.other "quota"))) false
        MapOrder.entries (.ok (webPod "app-1"))).2 =
        .ok (.errored 500 "unable to create PVC: quota") ∧
      ((500 = 400 ∧ ∃ e, "unable to create PVC: quota" = "unable to decode request: " ++ e) ∨
        (500 = 500 ∧ ∃ e, "unable to create PVC: quota" = "unable to fetch configs: " ++ e ∨
          "unable to create PVC: quota" = "unable to fetch StorageClass: " ++ e ∨
          "unable to create PVC: quota" = "unable to create PVC: " ++ e)) ∧
      ∃ reason, (handle Helpers.spec
        (webApi [{ webConfig "dc" "/data" with storageClassName := "gp2" }] none) false
        MapOrder.entries (.ok (webPod "app-1"))).2 = .ok (.allowed reason) :=
  ⟨rfl, (@handle_nonstrict_denies Helpers.spec
      (webApi [webConfig "dc" "/data"] (some (.other "quota"))) MapOrder.entries).1
      (.ok (webPod "app-1")) 500 "unable to create PVC: quota" rfl,
    (@handle_nonstrict_denies Helpers.spec
      (webApi [{ webConfig "dc" "/data" with storageClassName := "gp2" }] none) MapOrder.entries).2
      (webPod "app-1") [] _ [] [] ⟨webPod "app-1", ∅⟩ rfl rfl rfl rfl (.inl ⟨_, rfl⟩)⟩

/-- In strict mode, two configurations with one mount point make `Handle` dereference a nil
error once `Create` has made both claims. -/
theorem handle_collision_panics :
    handle Helpers.spec (webApi [webConfig "dc1" "/data", webConfig "dc2" "/data"] none) true
      MapOrder.entries (.ok (webPod "app-1")) =
      ([webClaim "dc1", webClaim "dc2"], .error .nilDereference) := rfl

/-! ## Claims -/

/-- Every claim a patched admission created is attached to the pod, and is the claim `claimFor`
builds for one of the namespace's configurations: it depends on the configuration and its storage
class, not on the pod. -/
theorem handle_attaches_claimFor {order : MapOrder} {pod pod' : Pod} {created : List PVC}
    (h : handle H api strict order (.ok pod) = (created, .ok (.patch pod'))) :
    ∃ (configs : List DiskConfig) (added : List (DiskConfig × PVC)),
      api.listConfigs pod.ns = .ok configs ∧ created = added.map (·.2) ∧
      pod'.volumes = pod.volumes ++ added.map (volumeOf ·.2) ∧
      ∀ a ∈ added, a.1 ∈ configs ∧ claimFor H api a.1 = some a.2 := by
  obtain ⟨configs, p, hl, hp, rfl⟩ := handle_eq_patch h
  obtain ⟨added, hc, hpod, -, hmem⟩ := attachConfigs_eq_ok hp
  exact ⟨configs, added, hl, hc, by simp [finishPod, hpod], hmem⟩

/-- The pod `Handle` patches `pod` into when it attaches `claims`: a volume per claim in order,
the discoblocks scheduler, the last configuration's name in the `discoblocks/metrics` label, and
in every container, the sidecar last, a volume mount per claim at its mount point, in any order.
Every other field is the request's. -/
structure PatchOf (H : Helpers) (pod : Pod) (claims : List (DiskConfig × PVC)) (pod' : Pod) :
    Prop where
  ns : pod'.ns = pod.ns
  name : pod'.name = pod.name
  labels : ∃ last, claims.getLast? = some last ∧
    pod'.labels = pod.labels.insert "discoblocks/metrics" last.1.name
  volumes : pod'.volumes = pod.volumes ++ claims.map (volumeOf ·.2)
  schedulerName : pod'.schedulerName = "discoblocks-scheduler"
  containers : List.Forall₂ (fun c c' => ∃ mounts : List VolumeMount,
      mounts.Perm (claims.map fun a => ⟨a.2.name, mountOf H a.1 a.2, false⟩) ∧
      c' = { c with volumeMounts := c.volumeMounts ++ mounts })
    (pod.containers ++ [renderMetricsSidecar false]) pod'.containers

/-- With no configuration matching, `Handle` admits the pod unchanged. When some match, no selector
reads the label the loop writes, and every matching configuration's claim is built and created
with a distinct name and mount point, `Handle` patches the pod with those claims. -/
theorem handle_patches {order : MapOrder} {pod : Pod} {configs : List DiskConfig}
    {claims : List (DiskConfig × PVC)} (hl : api.listConfigs pod.ns = .ok configs)
    (hm : claims.map (·.1) = matching pod configs)
    (hclaims : ∀ a ∈ claims, claimFor H api a.1 = some a.2 ∧ Created (api.createPVC a.2))
    (hmp : (claims.map fun a => mountOf H a.1 a.2).Nodup) (hnames : (claims.map (·.2.name)).Nodup) :
    (matching pod configs = [] →
      handle H api strict order (.ok pod) = ([], .ok (.allowed "No sidecar injection"))) ∧
    ((∀ c ∈ configs, c.podSelector.lookup "discoblocks/metrics" = none) → claims ≠ [] →
      ∃ pod', handle H api strict order (.ok pod) = (claims.map (·.2), .ok (.patch pod')) ∧
        PatchOf H pod claims pod') := by
  refine ⟨fun h0 => ?_, fun hsel hne => ?_⟩
  · have hatt : attachConfigs H api strict ⟨pod, ∅⟩ configs = ([], .ok ⟨pod, ∅⟩) :=
      attachConfigs_unmatched h0
    simp only [handle, hl, hatt]
    rfl
  have hatt : attachConfigs H api strict ⟨pod, ∅⟩ configs = _ :=
    attachConfigs_matching hsel hm hclaims hmp (fun _ _ e he => absurd he (List.not_mem_nil e))
  have hperm := insertAll_entries_perm (H := H) hnames fun a _ => AList.not_mem_empty a.2.name
  rw [AList.empty_entries, List.map_nil, List.append_nil] at hperm
  have hentries : (insertAll H ∅ claims).entries.isEmpty = false := by
    have := hperm.length_eq
    rw [List.length_map, List.length_map] at this
    exact List.isEmpty_eq_false_iff_exists_mem.2 (List.exists_mem_of_length_pos
      (this ▸ List.length_pos.2 hne))
  refine ⟨finishPod order ⟨{ pod with
      labels := labelsAfter pod.labels claims
      volumes := pod.volumes ++ claims.map (volumeOf ·.2) }, insertAll H ∅ claims⟩,
    ?_, rfl, rfl, ?_, rfl, rfl, ?_⟩
  · simp only [handle, hl, hatt, hentries, Bool.false_eq_true, if_false]
  · exact ⟨_, List.getLast?_eq_getLast claims hne, labelsAfter_eq_insert _ hne⟩
  · refine (mountAll_forall₂ order _ 0 _).imp fun {c c'} ⟨j, hj⟩ => ⟨_, ?_, hj⟩
    have := ((order.perm j _).trans hperm).map fun e => (⟨e.1, e.2, false⟩ : VolumeMount)
    rwa [List.map_map] at this

theorem handle_patches_web :
    (webApi [webConfig "dc1" "/a", webConfig "dc2" "/b"] none).listConfigs (webPod "app-1").ns =
        .ok [webConfig "dc1" "/a", webConfig "dc2" "/b"] ∧
      matching (webPod "app-1") [webConfig "dc1" "/a", webConfig "dc2" "/b"] =
        [webConfig "dc1" "/a", webConfig "dc2" "/b"] ∧
      ∃ pod', handle Helpers.spec (webApi [webConfig "dc1" "/a", webConfig "dc2" "/b"] none) true
          MapOrder.entries (.ok (webPod "app-1")) =
          ([webClaim "dc1", webClaim "dc2"], .ok (.patch pod')) ∧
        PatchOf Helpers.spec (webPod "app-1")
          [(webConfig "dc1" "/a", webClaim "dc1"), (webConfig "dc2" "/b", webClaim "dc2")] pod' := by
  have hclaims : ∀ a ∈ [(webConfig "dc1" "/a", webClaim "dc1"), (webConfig "dc2" "/b", webClaim "dc2")],
      claimFor Helpers.spec (webApi [webConfig "dc1" "/a", webConfig "dc2" "/b"] none) a.1 = some a.2 ∧
      Created ((webApi [webConfig "dc1" "/a", webConfig "dc2" "/b"] none).createPVC a.2) := by
    simp only [List.mem_cons, List.mem_singleton, List.not_mem_nil, or_false, forall_eq_or_imp,
      forall_eq]
    exact ⟨⟨rfl, .inl rfl⟩, rfl, .inl rfl⟩
  exact ⟨rfl, rfl, (handle_patches (by exact rfl) (by exact rfl) hclaims (by decide) (by decide)).2
    (by decide) (List.cons_ne_nil _ _)⟩

/-- The second configuration's selector is not contained in the request's labels, but in the labels
the loop wrote for the first: the patch attaches both. -/
theorem handle_attaches_chained :
    matching (webPod "app-1") [webConfig "dc1" "/a", chainedConfig] = [webConfig "dc1" "/a"] ∧
      ∃ pod', handle Helpers.spec (webApi [webConfig "dc1" "/a", chainedConfig] none) true
          MapOrder.entries (.ok (webPod "app-1")) =
          ([webClaim "dc1", webClaim "dc2"], .ok (.patch pod')) ∧
        pod'.volumes = [volumeOf (webClaim "dc1"), volumeOf (webClaim "dc2")] :=
  ⟨rfl, _, rfl, rfl⟩

/-! ## Mount points -/

theorem lookup_insertAll_of_not_mem {m : StringMap} {added : List (DiskConfig × PVC)}
    {n : String} (hn : n ∉ added.map (·.2.name)) : (insertAll H m added).lookup n = m.lookup n := by
  induction added generalizing m with
  | nil => rfl
  | cons a added ih =>
    simp only [List.map_cons, List.mem_cons, not_or] at hn
    rw [insertAll_cons, ih hn.2, AList.lookup_insert_ne hn.1]

/-- With distinct claim names, `volumes` maps every attached claim to its mount point. -/
theorem lookup_insertAll {m : StringMap} {added : List (DiskConfig × PVC)}
    (hn : (added.map (·.2.name)).Nodup) {a : DiskConfig × PVC} (ha : a ∈ added) :
    (insertAll H m added).lookup a.2.name = some (mountOf H a.1 a.2) := by
  induction added generalizing m with
  | nil => cases ha
  | cons b added ih =>
    simp only [List.map_cons, List.nodup_cons] at hn
    rw [insertAll_cons]
    rcases List.mem_cons.1 ha with rfl | ha
    · rw [lookup_insertAll_of_not_mem hn.1, AList.lookup_insert]
    · exact ih hn.2 ha

/-- The first volume mount at a path of a container whose mount paths are distinct. -/
theorem find?_mountPath {l : List VolumeMount} {vm : VolumeMount} {path : String}
    (hl : (l.map (·.mountPath)).Nodup) (hvm : vm ∈ l) (hpath : vm.mountPath = path) :
    l.find? (fun v => v.mountPath = path) = some vm := by
  subst hpath
  cases hf : l.find? (fun v => v.mountPath = vm.mountPath) with
  | none => simpa using List.find?_eq_none.1 hf vm hvm
  | some v =>
    have hv := List.mem_of_find?_eq_some hf
    have hp := List.find?_some hf
    simp only [decide_eq_true_eq] at hp
    rw [List.inj_on_of_nodup_map hl hv hvm hp]

/-- What the API server requires of a pod, as far as the mutator's patch goes: volume names are
unique, and so are the mount paths of each container. -/
def ValidPod (pod : Pod) : Prop :=
  (pod.volumes.map (·.name)).Nodup ∧ ∀ c ∈ pod.containers, (c.volumeMounts.map (·.mountPath)).Nodup

instance (pod : Pod) : Decidable (ValidPod pod) := inferInstanceAs (Decidable (_ ∧ _))

/-- The spec's helpers with a `RenderMountPoint` that appends the name to the pattern. -/
def namedMountPoints : Helpers :=
  { Helpers.spec with renderMountPoint := fun pattern name index =>
      pattern ++ "/" ++ name ++ if index = 0 then "" else "-" ++ toString index }

/-- Two responses of `Handle` that differ at most in the order of each container's volume
mounts. -/
def SameUpToMountOrder : Except Panic Response → Except Panic Response → Prop
  | .ok (.patch pod₁), .ok (.patch pod₂) =>
    { pod₁ with containers := [] } = { pod₂ with containers := [] } ∧
      List.Forall₂ SameMounts pod₁.containers pod₂.containers
  | r₁, r₂ => r₁ = r₂

theorem sameUpToMountOrder_refl (r : Except Panic Response) : SameUpToMountOrder r r := by
  rcases r with _ | (_ | _ | pod)
  all_goals try exact rfl
  unfold SameUpToMountOrder
  exact ⟨rfl, List.forall₂_same.2 fun _ _ => ⟨rfl, .refl _⟩⟩

/-- The order in which Go visits `volumes` does not change the claims `Handle` creates, and
changes its response at most in the order of each container's volume mounts. -/
theorem handle_order_independent (o₁ o₂ : MapOrder) (req : Except String Pod) :
    (handle H api strict o₁ req).1 = (handle H api strict o₂ req).1 ∧
      SameUpToMountOrder (handle H api strict o₁ req).2 (handle H api strict o₂ req).2 := by
  rcases req with m | pod
  · exact ⟨rfl, sameUpToMountOrder_refl _⟩
  rcases hl : api.listConfigs pod.ns with e | configs
  · simp only [handle, hl, true_and]
    exact sameUpToMountOrder_refl _
  rcases ha : attachConfigs H api strict ⟨pod, ∅⟩ configs with ⟨created, r | p⟩
  · simp only [handle, hl, ha, true_and]
    exact sameUpToMountOrder_refl _
  simp only [handle, hl, ha]
  split
  · exact ⟨rfl, sameUpToMountOrder_refl _⟩
  · unfold SameUpToMountOrder
    exact ⟨rfl, rfl, mountAll_perm o₁ o₂ _ 0 _⟩

end Discoblocks.Mutator

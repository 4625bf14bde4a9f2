import Discoblocks.Mutator.Properties

/-!
# The pod mutator: what every admission leaves behind

Whatever `Handle` answers (a patch, an admission, a denial, or a panic), the claims it passed to
`Create` are the claims `claimFor` builds for configurations of the namespace that are not being
deleted, each for its own configuration and in the configurations' order (`handle_created_claims`).

The configuration loop keeps the mount points of the map `volumes` pairwise distinct, since a
taken one stops the loop. So every patch adds the volumes of the claims passed to `Create` and
mounts them in every container and in the sidecar, once per claim name, at pairwise distinct paths
(`handle_patch_mounts`).
-/

namespace Discoblocks.Mutator

variable {H : Helpers} {api : AdmissionApi} {strict : Bool}

/-! ## The claims passed to `Create` -/

theorem attachConfigs_created (p : Patch) (configs : List DiskConfig) :
    ∃ added : List (DiskConfig × PVC),
      (attachConfigs H api strict p configs).1 = added.map (·.2) ∧
      (added.map (·.1)).Sublist configs ∧
      ∀ a ∈ added, a.1.deleting = false ∧ claimFor H api a.1 = some a.2 := by
  induction configs generalizing p with
  | nil => exact ⟨[], rfl, .slnil, by simp⟩
  | cons config configs ih =>
    rcases hac : attachConfig H api strict p config with ⟨created, r | p'⟩
    · simp only [attachConfigs, hac]
      rcases attachConfig_created hac with rfl | ⟨hdel, pvc, hclaim, rfl, -⟩
      · exact ⟨[], rfl, List.nil_sublist _, by simp⟩
      · exact ⟨[(config, pvc)], rfl, (List.nil_sublist configs).cons₂ config,
          by simp [hdel, hclaim]⟩
    · simp only [attachConfigs, hac]
      obtain ⟨added, hc, hs, ha⟩ := ih p'
      rcases attachConfig_created hac with rfl | ⟨hdel, pvc, hclaim, rfl, -⟩
      · exact ⟨added, by simpa using hc, hs.cons config, ha⟩
      · refine ⟨(config, pvc) :: added, by simp [hc], hs.cons₂ config, ?_⟩
        rintro a (_ | ⟨_, ha'⟩)
        · exact ⟨hdel, hclaim⟩
        · exact ha a ha'

/-- Whatever `Handle` answers, it passed to `Create` nothing, or the claims `claimFor` builds for
configurations of the namespace that are not being deleted, one per configuration, in the order
of the configurations. -/
theorem handle_created_claims (order : MapOrder) (pod : Pod) :
    (handle H api strict order (.ok pod)).1 = [] ∨
      ∃ (configs : List DiskConfig) (added : List (DiskConfig × PVC)),
      api.listConfigs pod.ns = .ok configs ∧
      (handle H api strict order (.ok pod)).1 = added.map (·.2) ∧
      (added.map (·.1)).Sublist configs ∧
      ∀ a ∈ added, a.1.deleting = false ∧ claimFor H api a.1 = some a.2 := by
  rcases hl : api.listConfigs pod.ns with e | configs
  · exact .inl (by simp [handle, hl])
  obtain ⟨added, hc, hs, ha⟩ := @attachConfigs_created H api strict ⟨pod, ∅⟩ configs
  refine .inr ⟨configs, added, rfl, ?_, hs, ha⟩
  rw [← hc]
  simp only [handle, hl]
  rcases attachConfigs H api strict ⟨pod, ∅⟩ configs with ⟨created, r | p⟩
  · rfl
  · dsimp only
    split <;> rfl

/-! ## The loop keeps the mount points distinct -/

/-- The mount points of `volumes` are pairwise distinct. -/
def Patch.DistinctMounts (p : Patch) : Prop := (p.volumes.entries.map (·.2)).Nodup

theorem Patch.distinctMounts_empty (pod : Pod) : Patch.DistinctMounts ⟨pod, ∅⟩ := List.nodup_nil

theorem attachConfig_distinctMounts {p p' : Patch} {config : DiskConfig} {created : List PVC}
    (hp : p.DistinctMounts) (h : attachConfig H api strict p config = (created, .ok p')) :
    p'.DistinctMounts := by
  rcases attachConfig_eq_ok h with ⟨-, rfl⟩ | ⟨-, -, pvc, -, -, rfl, rfl⟩
  · exact hp
  rcases attachConfig_created h with hnil | ⟨-, pvc', -, hpvc', hfresh⟩
  · cases hnil
  obtain rfl := List.singleton_inj.1 hpvc'
  have hsub := List.kerase_sublist pvc.name p.volumes.entries
  rw [Patch.DistinctMounts, AList.insert_entries, List.map_cons, List.nodup_cons]
  refine ⟨fun hm => ?_, (hsub.map _).nodup hp⟩
  obtain ⟨e, he, hv⟩ := List.mem_map.1 hm
  exact hfresh _ rfl e (hsub.subset he) hv

theorem attachConfigs_distinctMounts {p p' : Patch} {configs : List DiskConfig}
    {created : List PVC} (hp : p.DistinctMounts)
    (h : attachConfigs H api strict p configs = (created, .ok p')) : p'.DistinctMounts := by
  induction configs generalizing p created with
  | nil =>
    simp only [attachConfigs, Prod.mk.injEq, Except.ok.injEq] at h
    exact h.2 ▸ hp
  | cons config configs ih =>
    simp only [attachConfigs] at h
    split at h
    · cases h
    · rename_i hac
      exact ih (attachConfig_distinctMounts hp hac) (Prod.ext rfl (Prod.mk.inj h).2)

/-- The claims of `volumes` after the loop: those before it and those attached. -/
theorem mem_insertAll {m : StringMap} {added : List (DiskConfig × PVC)} {n : String} :
    n ∈ insertAll H m added ↔ n ∈ m ∨ n ∈ added.map (·.2.name) := by
  induction added generalizing m with
  | nil => exact (or_iff_left (List.not_mem_nil n)).symm
  | cons a added ih =>
    rw [insertAll_cons, ih, AList.mem_insert, List.map_cons, List.mem_cons, or_assoc,
      or_left_comm]

/-! ## The mounts of a patch -/

/-- Every patch `Handle` returns adds to the pod the volume of each claim it passed to `Create`, in
order, and to each container of the pod and to the sidecar read-write volume mounts at pairwise
distinct paths, exactly one for each name of those claims. -/
theorem handle_patch_mounts {order : MapOrder} {pod pod' : Pod} {created : List PVC}
    (h : handle H api strict order (.ok pod) = (created, .ok (.patch pod'))) :
    pod'.volumes = pod.volumes ++ created.map volumeOf ∧
      List.Forall₂ (fun c c' : Container => ∃ ms : List VolumeMount,
          c' = { c with volumeMounts := c.volumeMounts ++ ms } ∧ (ms.map (·.name)).Nodup ∧
          (ms.map (·.mountPath)).Nodup ∧ (∀ m ∈ ms, m.readOnly = false ∧ m.name ∈ created.map (·.name)) ∧
          ∀ pvc ∈ created, ∃ m ∈ ms, m.name = pvc.name)
        (pod.containers ++ [renderMetricsSidecar false]) pod'.containers := by
  obtain ⟨configs, p, -, hp, rfl⟩ := handle_eq_patch h
  obtain ⟨added, rfl, hpod, hvol, -⟩ := attachConfigs_eq_ok hp
  have hd := attachConfigs_distinctMounts (Patch.distinctMounts_empty pod) hp
  have hkeys : ∀ n, n ∈ p.volumes ↔ n ∈ (added.map (·.2)).map (·.name) := fun n => by
    rw [hvol, mem_insertAll, or_iff_right (AList.not_mem_empty n), List.map_map]
    rfl
  refine ⟨by simp [finishPod, hpod, List.map_map, Function.comp_def], ?_⟩
  have hcont : p.pod.containers = pod.containers := by rw [hpod]
  rw [← hcont]
  refine (mountAll_forall₂ order p.volumes 0 _).imp fun c c' hc => ?_
  obtain ⟨j, hc'⟩ := hc
  have hperm := order.perm j p.volumes
  refine ⟨_, hc', ?_, ?_, fun m hm => ?_, fun pvc hpvc => ?_⟩
  · rw [List.map_map]
    have hnames : ((order.order j p.volumes).map (·.1)).Perm p.volumes.keys := by
      simpa [List.map_map, AList.keys, List.keys] using hperm.map Prod.fst
    exact hnames.nodup_iff.2 p.volumes.keys_nodup
  · rw [List.map_map]
    have hpaths : ((order.order j p.volumes).map (·.2)).Perm (p.volumes.entries.map (·.2)) := by
      simpa [List.map_map] using hperm.map Prod.snd
    exact hpaths.nodup_iff.2 hd
  · obtain ⟨e, he, rfl⟩ := List.mem_map.1 hm
    obtain ⟨s, hs, rfl⟩ := List.mem_map.1 (hperm.subset he)
    exact ⟨rfl, (hkeys s.1).1 (AList.mem_keys.2 (List.mem_keys_of_mem hs))⟩
  · obtain ⟨b, hb⟩ := List.exists_of_mem_keys
      (AList.mem_keys.1 ((hkeys pvc.name).2 (List.mem_map_of_mem _ hpvc)))
    exact ⟨⟨pvc.name, b, false⟩,
      List.mem_map.2 ⟨(pvc.name, b), hperm.symm.subset (List.mem_map.2 ⟨_, hb, rfl⟩), rfl⟩, rfl⟩

theorem handle_patch_mounts_web :
    ∃ created pod', handle Helpers.spec (webApi [webConfig "dc1" "/a", webConfig "dc2" "/b"] none)
        true MapOrder.entries (.ok (webPod "app-1")) = (created, .ok (.patch pod')) ∧
      pod'.volumes = (webPod "app-1").volumes ++ created.map volumeOf ∧
      List.Forall₂ (fun c c' : Container => ∃ ms : List VolumeMount,
          c' = { c with volumeMounts := c.volumeMounts ++ ms } ∧ (ms.map (·.name)).Nodup ∧
          (ms.map (·.mountPath)).Nodup ∧ (∀ m ∈ ms, m.readOnly = false ∧ m.name ∈ created.map (·.name)) ∧
          ∀ pvc ∈ created, ∃ m ∈ ms, m.name = pvc.name)
        ((webPod "app-1").containers ++ [renderMetricsSidecar false]) pod'.containers := by
  obtain ⟨created, pod', h⟩ : ∃ created pod', handle Helpers.spec
      (webApi [webConfig "dc1" "/a", webConfig "dc2" "/b"] none) true MapOrder.entries
      (.ok (webPod "app-1")) = (created, .ok (.patch pod')) := ⟨_, _, rfl⟩
  exact ⟨created, pod', h, handle_patch_mounts h⟩

end Discoblocks.Mutator

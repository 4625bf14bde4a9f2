import Discoblocks.Monitor.Cycle

/-!
# Monitor: what a cycle issues

A cycle whose endpoint addresses all carry a `TargetRef`, over pods that all have a container (as
the API server requires), issues an update exactly for the lines that satisfy `Triggered`: an
endpoint advertises the configuration for the pod, the configuration is not paused, a kept line
scraped from the pod passes `Issues`. Every update a cycle issues, also before a panic, asks for
at most one step above the claim's capacity and at most the maximum.
-/

namespace Discoblocks.Monitor

/-- An endpoint of the list advertises the configuration `name` for the pod `podName`. -/
def Advertises (eps : List Endpoints) (podName : NamespacedName) (name : String) : Prop :=
  ∃ ep ∈ eps, ∃ ss ∈ ep.subsets, ∃ a ∈ ss.addresses,
    podOf a = some podName ∧ ep.labels.get "discoblocks" = name

/-- `line` is kept from the metrics page of an address of the pod `podName`. -/
def ScrapedFrom (eps : List Endpoints) (scrape : String → Option String)
    (podName : NamespacedName) (line : String) : Prop :=
  ∃ ep ∈ eps, ∃ ss ∈ ep.subsets, ∃ a ∈ ss.addresses, podOf a = some podName ∧ line ∈ keptLines scrape a

/-- The condition under which a cycle issues `u`. -/
def Triggered (H : Helpers) (cl : Cluster) (scrape : String → Option String)
    (eps : List Endpoints) (u : Update) : Prop :=
  ∃ podName pod name config line, Advertises eps podName name ∧ cl.pods podName = some pod ∧
    cl.diskConfigs ⟨pod.ns, name⟩ = some config ∧ config.policy.pause = false ∧
    ScrapedFrom eps scrape podName line ∧ Issues H cl pod config line u

theorem mem_visits {eps : List Endpoints} {v : EndpointAddress × String} :
    v ∈ visits eps ↔ ∃ ep ∈ eps, ∃ ss ∈ ep.subsets, ∃ a ∈ ss.addresses,
      v = (a, ep.labels.get "discoblocks") := by
  simp [visits, eq_comm]

/-- The two maps of the scrape loop, read back. -/
theorem scrapeEndpoints_ok (scrape : String → Option String) (eps : List Endpoints)
    (hrefs : ∀ ep ∈ eps, ∀ ss ∈ ep.subsets, ∀ a ∈ ss.addresses, a.targetRef.isSome) :
    ∃ s, scrapeEndpoints scrape ⟨∅, ∅⟩ eps = .ok s ∧
      (∀ k name, name ∈ s.discoblocks.at k ↔ Advertises eps k name) ∧
      (∀ k line, line ∈ s.metrics.at k ↔ ScrapedFrom eps scrape k line) := by
  have hv : ∀ v ∈ visits eps, v.1.targetRef.isSome := fun v hv => by
    obtain ⟨ep, hep, ss, hss, a, ha, rfl⟩ := mem_visits.1 hv
    exact hrefs ep hep ss hss a ha
  obtain ⟨s, run, hd, hm⟩ := scrape_visits_ok scrape (visits eps) hv ⟨∅, ∅⟩
  refine ⟨s, by rw [scrapeEndpoints_eq_visits, run], fun k name => ?_, fun k line => ?_⟩
  · rw [hd k]
    simp only [SliceMap.at, AList.lookup_empty, Option.getD_none, List.nil_append,
      List.mem_map, List.mem_filter, decide_eq_true_eq, Advertises, mem_visits]
    constructor
    · rintro ⟨_, ⟨⟨ep, hep, ss, hss, a, ha, rfl⟩, hk⟩, rfl⟩
      exact ⟨ep, hep, ss, hss, a, ha, hk, rfl⟩
    · rintro ⟨ep, hep, ss, hss, a, ha, hk, rfl⟩
      exact ⟨_, ⟨⟨ep, hep, ss, hss, a, ha, rfl⟩, hk⟩, rfl⟩
  · rw [hm k]
    simp only [SliceMap.at, AList.lookup_empty, Option.getD_none, List.nil_append,
      List.mem_flatMap, List.mem_filter, decide_eq_true_eq, ScrapedFrom, mem_visits]
    constructor
    · rintro ⟨_, ⟨⟨ep, hep, ss, hss, a, ha, rfl⟩, hk⟩, hl⟩
      exact ⟨ep, hep, ss, hss, a, ha, hk, hl⟩
    · rintro ⟨ep, hep, ss, hss, a, ha, hk, hl⟩
      exact ⟨_, ⟨⟨ep, hep, ss, hss, a, ha, rfl⟩, hk⟩, hl⟩

theorem exists_entry_iff (m : SliceMap) (k : NamespacedName) (x : String) :
    (∃ e ∈ m.entries, e.1 = k ∧ x ∈ e.2) ↔ x ∈ m.at k := by
  constructor
  · rintro ⟨⟨k', xs⟩, he, rfl, hx⟩
    have h : m.lookup k' = some xs := AList.mem_lookup_iff.2 he
    simpa [SliceMap.at, h] using hx
  · intro hx
    cases h : m.lookup k with
    | none => simp [SliceMap.at, h] at hx
    | some xs =>
      exact ⟨⟨k, xs⟩, AList.mem_lookup_iff.1 h, rfl, by simpa [SliceMap.at, h] using hx⟩

theorem mem_examined {cl : Cluster} {metrics : SliceMap}
    {entries : List (Σ _ : NamespacedName, List String)} {pod : Pod} {config : DiskConfig}
    {line : String} :
    (pod, config, line) ∈ examined cl metrics entries ↔ ∃ e ∈ entries, cl.pods e.1 = some pod ∧
      ∃ name ∈ e.2, cl.diskConfigs ⟨pod.ns, name⟩ = some config ∧
        config.policy.pause = false ∧ line ∈ metrics.at e.1 := by
  simp only [examined, List.mem_flatMap]
  constructor
  · rintro ⟨e, he, hv⟩
    cases hp : cl.pods e.1 with
    | none => simp [hp] at hv
    | some pod' =>
      simp only [hp, examinedPod, List.mem_flatMap] at hv
      obtain ⟨name, hname, hv⟩ := hv
      cases hc : cl.diskConfigs ⟨pod'.ns, name⟩ with
      | none => simp [hc] at hv
      | some config' =>
        cases hpause : config'.policy.pause <;>
          simp only [hc, hpause, if_true, if_false, Bool.false_eq_true, List.not_mem_nil,
            List.mem_map, Prod.mk.injEq] at hv
        obtain ⟨_, hl, rfl, rfl, rfl⟩ := hv
        exact ⟨e, he, hp, name, hname, hc, hpause, hl⟩
  · rintro ⟨e, he, hp, name, hname, hc, hpause, hl⟩
    refine ⟨e, he, ?_⟩
    simp only [hp, examinedPod, List.mem_flatMap]
    exact ⟨name, hname, by simp [hc, hpause, hl]⟩

/-- The examined triples that issue an update are those of `Triggered`. -/
theorem examined_issues_iff {H : Helpers} {cl : Cluster} {scrape : String → Option String}
    {eps : List Endpoints} {s : Scraped}
    (hadv : ∀ k name, name ∈ s.discoblocks.at k ↔ Advertises eps k name)
    (hscr : ∀ k line, line ∈ s.metrics.at k ↔ ScrapedFrom eps scrape k line) (u : Update) :
    (∃ v ∈ examined cl s.metrics s.discoblocks.entries,
      resizeMetric H cl v.1 v.2.1 v.2.2 = .ok (some u)) ↔ Triggered H cl scrape eps u := by
  constructor
  · rintro ⟨⟨pod, config, line⟩, hv, hu⟩
    obtain ⟨e, he, hp, name, hname, hc, hpause, hl⟩ := mem_examined.1 hv
    exact ⟨e.1, pod, name, config, line,
      (hadv _ _).1 ((exists_entry_iff _ _ _).1 ⟨e, he, rfl, hname⟩), hp, hc, hpause,
      (hscr _ _).1 hl, resizeMetric_eq_some.1 hu⟩
  · rintro ⟨podName, pod, name, config, line, hadv', hp, hc, hpause, hscr', hu⟩
    obtain ⟨e, he, rfl, hname⟩ := (exists_entry_iff _ _ _).2 ((hadv _ _).2 hadv')
    exact ⟨(pod, config, line),
      mem_examined.2 ⟨e, he, hp, name, hname, hc, hpause, (hscr _ _).2 hscr'⟩,
      resizeMetric_eq_some.2 hu⟩

theorem map_eq_of_agrees {cl : Cluster} {r : Run (ConfigCache × List Update)}
    {r' : Run (List Update)} (h : Agrees cl r r') : r.map (·.2) = r' := by
  rcases r with e | ⟨cache, us⟩ <;> rcases r' with e' | us' <;>
    simp_all [Agrees, Except.map]

/-- Once the scrape has kept a line, a cycle is the flat loop over the examined triples. -/
theorem monitorVolumes_eq_runExamined {H : Helpers} {cl : Cluster}
    {scrape : String → Option String} {eps : List Endpoints} {s : Scraped}
    (heps : cl.endpoints = .ok eps) (hs : scrapeEndpoints scrape ⟨∅, ∅⟩ eps = .ok s)
    (hm : s.metrics.entries ≠ []) :
    monitorVolumes H cl scrape = runExamined H cl [] (examined cl s.metrics s.discoblocks.entries) := by
  simp only [monitorVolumes, heps, hs, hm, if_false]
  exact map_eq_of_agrees (resizePods_agrees H cl s.metrics _ ∅ [] (Consistent.empty cl))

/-- Every update a cycle issues, also before a panic, is issued by a line of an examined triple. -/
theorem exists_examined_of_mem_issued {H : Helpers} {cl : Cluster}
    {scrape : String → Option String} {u : Update} (h : u ∈ issued (monitorVolumes H cl scrape)) :
    ∃ s : Scraped, ∃ v ∈ examined cl s.metrics s.discoblocks.entries,
      resizeMetric H cl v.1 v.2.1 v.2.2 = .ok (some u) := by
  unfold monitorVolumes at h
  split at h
  · simp [issued] at h
  split at h
  · simp [issued] at h
  rename_i s _
  split at h
  · simp [issued] at h
  rw [issued_map_of_agrees (resizePods_agrees H cl s.metrics _ ∅ [] (Consistent.empty cl))] at h
  exact ⟨s, (mem_issued_runExamined h).resolve_left (List.not_mem_nil u)⟩

/-- Every update a cycle issues is for a claim the cluster holds. -/
theorem exists_pvcs_of_mem_issued {H : Helpers} {cl : Cluster} {scrape : String → Option String}
    {u : Update} (h : u ∈ issued (monitorVolumes H cl scrape)) : ∃ k, cl.pvcs k = some u.claim := by
  obtain ⟨s, v, -, hr⟩ := exists_examined_of_mem_issued h
  obtain ⟨_, -, -, -, claim, -, -, hpvc, -⟩ := resizeMetric_eq_some.1 hr
  exact ⟨_, hpvc⟩

/-! ## A cluster with one sample -/

section Sample

open Metrics

def samplePod : Pod where
  ns := "default"
  name := "app"
  labels := ∅
  volumes := [⟨"pvc", some "pvc"⟩]
  containers := [⟨"app", "app", [], [], none, [⟨"pvc", "/data", false⟩]⟩]
  schedulerName := "default-scheduler"

def sampleConfig : DiskConfig where
  ns := "default"
  name := "dc"
  deleting := false
  storageClassName := "ebs"
  capacity := 100
  mountPointPattern := "/data"
  accessModes := []
  podSelector := ∅
  policy := ⟨false, "10Gi", 10⟩
  status := ∅

/-- A managed claim of 100 bytes whose request is already 2 GiB. -/
def sampleClaim : PVC where
  ns := "default"
  name := "pvc"
  labels := StringMap.ofList [("discoblocks", "dc")]
  finalizers := [Helpers.spec.renderFinalizer "dc"]
  deleting := false
  storageClassName := "ebs"
  accessModes := []
  request := 2 ^ 31
  phase := "Bound"
  capacity := 100

def sampleEndpoints (ref : Option ObjectReference) : Endpoints where
  name := "dc-metrics"
  labels := StringMap.ofList [("discoblocks", "dc")]
  subsets := [⟨[⟨"10.0.0.1", ref⟩]⟩]

/-- One labelled endpoint whose address names `ref`, the pod, its configuration and its claim. -/
def sampleCluster (ref : Option ObjectReference) : Cluster where
  endpoints := .ok [sampleEndpoints ref]
  pods k := if k = ⟨"default", "app"⟩ then some samplePod else none
  diskConfigs k := if k = ⟨"default", "dc"⟩ then some sampleConfig else none
  pvcs k := if k = ⟨"default", "pvc"⟩ then some sampleClaim else none

/-- 90 bytes free at `/data`: exactly the claim's capacity less 10 percent of it. -/
def sampleLine : String := "node_filesystem_avail_bytes\x7bmountpoint=\"/data\"\x7d 90"

def sampleScrape (ip : String) : Option String :=
  if ip = "10.0.0.1" then some ("# TYPE node_filesystem_avail_bytes gauge\n" ++ sampleLine)
  else none

def sampleUpdate : Update := ⟨sampleClaim, 2 ^ 30 + 100⟩

theorem sample_scrape : ∃ s, scrapeEndpoints sampleScrape ⟨∅, ∅⟩
      [sampleEndpoints (some ⟨"default", "app"⟩)] = .ok s ∧
    s.discoblocks.entries = [⟨⟨"default", "app"⟩, ["dc"]⟩] ∧
    s.metrics.entries = [⟨⟨"default", "app"⟩, [sampleLine]⟩] :=
  ⟨_, rfl, rfl, rfl⟩

theorem sample_value : Helpers.spec.parsePrometheusMetricValue sampleLine = .ok (F64.round 90) := by
  have hv : parseLine sampleLine.toList =
      some ⟨"node_filesystem_avail_bytes", [⟨"mountpoint", "/data"⟩], F64.round 90⟩ := by decide
  simp only [Helpers.spec, parsePrometheusMetricValue, hv]

set_option maxRecDepth 2000 in
theorem sample_issues : resizeMetric Helpers.spec (sampleCluster (some ⟨"default", "app"⟩))
    samplePod sampleConfig sampleLine = .ok (some sampleUpdate) := by
  have hq : quantityBytes "10Gi" = some (10 * 2 ^ 30) := by decide
  refine resizeMetric_eq_some.2 ⟨"/data", by decide, by decide, rfl, "pvc", rfl, by decide, rfl,
    by decide, _, 10 * 2 ^ 30, sample_value, ?_, by decide, ?_, ?_⟩
  · simp only [Helpers.spec, parseQuantity, sampleConfig, hq]; norm_num
  · norm_num [sampleUpdate, sampleClaim]
  · norm_num [sampleUpdate, sampleClaim, growthStep]

theorem sample_run : monitorVolumes Helpers.spec (sampleCluster (some ⟨"default", "app"⟩))
    sampleScrape = .ok [sampleUpdate] := by
  obtain ⟨s, hs, hd, hm⟩ := sample_scrape
  rw [monitorVolumes_eq_runExamined rfl hs (by simp [hm])]
  have he : examined (sampleCluster (some ⟨"default", "app"⟩)) s.metrics s.discoblocks.entries =
      [(samplePod, sampleConfig, sampleLine)] := by
    simp [examined, examinedPod, hd, SliceMap.at, hm, sampleCluster, samplePod, sampleConfig,
      AList.lookup]
  rw [he]
  simp [runExamined, sample_issues]

end Sample

theorem monitorVolumes_issues_iff (H : Helpers) (cl : Cluster) (scrape : String → Option String)
    (eps : List Endpoints) (heps : cl.endpoints = .ok eps)
    (hrefs : ∀ ep ∈ eps, ∀ ss ∈ ep.subsets, ∀ a ∈ ss.addresses, a.targetRef.isSome)
    (hpods : ∀ k pod, cl.pods k = some pod → pod.containers ≠ []) :
    ∃ us, monitorVolumes H cl scrape = .ok us ∧ ∀ u, u ∈ us ↔ Triggered H cl scrape eps u := by
  obtain ⟨s, hs, hadv, hscr⟩ := scrapeEndpoints_ok scrape eps hrefs
  by_cases hm : s.metrics.entries = []
  · refine ⟨[], by simp [monitorVolumes, heps, hs, hm], fun u => ⟨fun h => by simp at h,
      fun ⟨podName, _, _, _, line, _, _, _, _, hscr', _⟩ => ?_⟩⟩
    obtain ⟨e, he, -, -⟩ := (exists_entry_iff _ _ _).2 ((hscr _ _).2 hscr')
    simp [hm] at he
  · have hok : ∀ v ∈ examined cl s.metrics s.discoblocks.entries,
        ∃ r, resizeMetric H cl v.1 v.2.1 v.2.2 = .ok r := by
      rintro ⟨pod, config, line⟩ hv
      obtain ⟨e, -, hp, -⟩ := mem_examined.1 hv
      exact resizeMetric_ok (hpods _ _ hp) config line
    obtain ⟨us, run, hmem⟩ := runExamined_ok [] _ hok
    refine ⟨us, (monitorVolumes_eq_runExamined heps hs hm).trans run, fun u => ?_⟩
    rw [hmem, ← examined_issues_iff hadv hscr]
    exact or_iff_right (List.not_mem_nil u)

theorem monitorVolumes_issues_sample :
    (sampleCluster (some ⟨"default", "app"⟩)).endpoints =
        .ok [sampleEndpoints (some ⟨"default", "app"⟩)] ∧
      (∀ ep ∈ [sampleEndpoints (some ⟨"default", "app"⟩)], ∀ ss ∈ ep.subsets,
        ∀ a ∈ ss.addresses, a.targetRef.isSome) ∧
      (∀ k pod, (sampleCluster (some ⟨"default", "app"⟩)).pods k = some pod →
        pod.containers ≠ []) ∧
      ∃ us, monitorVolumes Helpers.spec (sampleCluster (some ⟨"default", "app"⟩)) sampleScrape =
        .ok us ∧ ∀ u, u ∈ us ↔ Triggered Helpers.spec (sampleCluster (some ⟨"default", "app"⟩))
          sampleScrape [sampleEndpoints (some ⟨"default", "app"⟩)] u := by
  have hrefs : ∀ ep ∈ [sampleEndpoints (some ⟨"default", "app"⟩)], ∀ ss ∈ ep.subsets,
      ∀ a ∈ ss.addresses, a.targetRef.isSome := by simp [sampleEndpoints]
  have hpods : ∀ k pod, (sampleCluster (some ⟨"default", "app"⟩)).pods k = some pod →
      pod.containers ≠ [] := by
    intro k pod h
    simp only [sampleCluster] at h
    split at h <;> cases h
    simp [samplePod]
  exact ⟨rfl, hrefs, hpods, monitorVolumes_issues_iff _ _ _ _ rfl hrefs hpods⟩

/-- The cycle resizes a claim whose free space is exactly its capacity less the trigger
percentage of it: the `float64` test computes that boundary without rounding. -/
theorem monitorVolumes_resizes_at_threshold :
    monitorVolumes Helpers.spec (sampleCluster (some ⟨"default", "app"⟩)) sampleScrape =
        .ok [sampleUpdate] ∧
      Helpers.spec.parsePrometheusMetricValue sampleLine = .ok (F64.round 90) ∧
      sampleClaim.capacity - sampleClaim.capacity * sampleConfig.policy.upscaleTriggerPercentage / 100
        = 90 :=
  ⟨sample_run, sample_value, by norm_num [sampleClaim, sampleConfig]⟩

/-- Every update a cycle issues, also before a panic, resizes a claim discoblocks manages: the
claim, in the pod's namespace, that the first volume mount at the rendered mount point of a
configuration names in the first container of a pod the API returned; the configuration is in
the pod's namespace and not paused, and the claim carries its finalizer. -/
theorem monitorVolumes_resizes_managed {H : Helpers} {cl : Cluster}
    {scrape : String → Option String} {u : Update}
    (hu : u ∈ issued (monitorVolumes H cl scrape)) :
    ∃ podName pod name config c cs m, cl.pods podName = some pod ∧
      cl.diskConfigs ⟨pod.ns, name⟩ = some config ∧ config.policy.pause = false ∧
      pod.containers = c :: cs ∧
      c.volumeMounts.find?
          (·.mountPath = H.renderMountPoint config.mountPointPattern config.name 0) = some m ∧
      cl.pvcs ⟨pod.ns, m.name⟩ = some u.claim ∧
      u.claim.hasFinalizer (H.renderFinalizer config.name) = true := by
  obtain ⟨s, ⟨pod, config, line⟩, hv, hr⟩ := exists_examined_of_mem_issued hu
  obtain ⟨e, -, hp, name, -, hc, hpause, -⟩ := mem_examined.1 hv
  obtain ⟨_, -, -, rfl, claim, hvol, hne, hpvc, hfin, -⟩ := resizeMetric_eq_some.1 hr
  obtain ⟨c, cs, m, hcs, hm, rfl⟩ := volumeAt_mounted hvol hne
  exact ⟨e.1, pod, name, config, c, cs, m, hp, hc, hpause, hcs, hm, hpvc, hfin⟩

theorem monitorVolumes_resizes_managed_sample :
    sampleUpdate ∈ issued (monitorVolumes Helpers.spec (sampleCluster (some ⟨"default", "app"⟩))
        sampleScrape) ∧
      ∃ podName pod name config c cs m,
        (sampleCluster (some ⟨"default", "app"⟩)).pods podName = some pod ∧
        (sampleCluster (some ⟨"default", "app"⟩)).diskConfigs ⟨pod.ns, name⟩ = some config ∧
        config.policy.pause = false ∧ pod.containers = c :: cs ∧
        c.volumeMounts.find?
            (·.mountPath = Helpers.spec.renderMountPoint config.mountPointPattern config.name 0) =
              some m ∧
        (sampleCluster (some ⟨"default", "app"⟩)).pvcs ⟨pod.ns, m.name⟩ = some sampleUpdate.claim ∧
        sampleUpdate.claim.hasFinalizer (Helpers.spec.renderFinalizer config.name) = true := by
  have h : sampleUpdate ∈ issued (monitorVolumes Helpers.spec
      (sampleCluster (some ⟨"default", "app"⟩)) sampleScrape) := by
    simp [sample_run, issued]
  exact ⟨h, monitorVolumes_resizes_managed h⟩

/-- An endpoint address without a `TargetRef` crashes the cycle. -/
theorem monitorVolumes_nil_targetRef :
    monitorVolumes Helpers.spec (sampleCluster none) sampleScrape = .error (.nilDereference, []) :=
  rfl

end Discoblocks.Monitor

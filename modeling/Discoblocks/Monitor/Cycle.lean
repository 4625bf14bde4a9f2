import Discoblocks.Monitor.Resize

/-!
# Monitor: one cycle

The second half of `MonitorVolumes`: for every pod of `discoblocks` (in map order), every
configuration name advertised for it (fetched once per cycle through `diskConfigCache`) and every
kept line of the pod, the line is examined by `resizeMetric`. A cycle is logged as the updates it
issued and, when it panicked, the panic that ended it: updates issued before a panic were sent.

`resizePods_agrees` shows that the cached loops examine exactly the triples of `examined`, in
order, as the flat loop `runExamined` does; the cycle's theorems are proved over that loop. This
rests on `Cluster` being one snapshot of the API for the whole cycle. In the running controller a
configuration that changes during a cycle is still read from `diskConfigCache`, where a fresh
`Get` would see the change; the model does not cover that.
-/

namespace Discoblocks.Monitor

/-- `diskConfigCache`. -/
abbrev ConfigCache := AList (fun _ : NamespacedName => DiskConfig)

/-- A configuration from the cache, or fetched and then cached. -/
def fetchConfig (cl : Cluster) (cache : ConfigCache) (key : NamespacedName) :
    Option DiskConfig × ConfigCache :=
  match cache.lookup key with
  | some config => (some config, cache)
  | none =>
    match cl.diskConfigs key with
    | some config => (some config, cache.insert key config)
    | none => (none, cache)

/-- A run of a loop: its result and the updates issued, or the panic and the updates issued
before it. -/
abbrev Run (α : Type) := Except (Panic × List Update) α

/-- The metric loop of one pod and configuration. -/
def resizeMetrics (H : Helpers) (cl : Cluster) (pod : Pod) (config : DiskConfig)
    (us : List Update) : List String → Run (List Update)
  | [] => .ok us
  | m :: ms =>
    match resizeMetric H cl pod config m with
    | .error p => .error (p, us)
    | .ok u => resizeMetrics H cl pod config (us ++ u.toList) ms

/-- The configuration loop of one pod. -/
def resizeConfigs (H : Helpers) (cl : Cluster) (metrics : SliceMap) (podName : NamespacedName)
    (pod : Pod) : ConfigCache × List Update → List String → Run (ConfigCache × List Update)
  | acc, [] => .ok acc
  | (cache, us), name :: names =>
    match fetchConfig cl cache ⟨pod.ns, name⟩ with
    | (none, cache) => resizeConfigs H cl metrics podName pod (cache, us) names
    | (some config, cache) =>
      if config.policy.pause then resizeConfigs H cl metrics podName pod (cache, us) names
      else
        match resizeMetrics H cl pod config us (metrics.at podName) with
        | .error e => .error e
        | .ok us => resizeConfigs H cl metrics podName pod (cache, us) names

/-- The pod loop, over the entries of `discoblocks`. -/
def resizePods (H : Helpers) (cl : Cluster) (metrics : SliceMap) :
    ConfigCache × List Update → List (Σ _ : NamespacedName, List String) →
      Run (ConfigCache × List Update)
  | acc, [] => .ok acc
  | (cache, us), ⟨podName, names⟩ :: entries =>
    match cl.pods podName with
    | none => resizePods H cl metrics (cache, us) entries
    | some pod =>
      match resizeConfigs H cl metrics podName pod (cache, us) names with
      | .error e => .error e
      | .ok acc => resizePods H cl metrics acc entries

/-- `MonitorVolumes`: list the labelled endpoints, scrape them, and examine every line. -/
def monitorVolumes (H : Helpers) (cl : Cluster) (scrape : String → Option String) :
    Run (List Update) :=
  match cl.endpoints with
  | .error _ => .ok []
  | .ok eps =>
    match scrapeEndpoints scrape ⟨∅, ∅⟩ eps with
    | .error p => .error (p, [])
    | .ok s =>
      if s.metrics.entries = [] then .ok []
      else (resizePods H cl s.metrics (∅, []) s.discoblocks.entries).map (·.2)

/-- The updates a run issued, whether or not it panicked. -/
def issued : Run (List Update) → List Update
  | .ok us => us
  | .error (_, us) => us

/-! ## The flat loop -/

/-- The (configuration, line) pairs of one pod, with the pod, in order. -/
def examinedPod (cl : Cluster) (metrics : SliceMap) (podName : NamespacedName) (pod : Pod)
    (names : List String) : List (Pod × DiskConfig × String) :=
  names.flatMap fun name =>
    match cl.diskConfigs ⟨pod.ns, name⟩ with
    | none => []
    | some config => if config.policy.pause then [] else (metrics.at podName).map (pod, config, ·)

/-- The (pod, configuration, line) triples the loops examine, in order. -/
def examined (cl : Cluster) (metrics : SliceMap)
    (entries : List (Σ _ : NamespacedName, List String)) : List (Pod × DiskConfig × String) :=
  entries.flatMap fun e =>
    match cl.pods e.1 with
    | none => []
    | some pod => examinedPod cl metrics e.1 pod e.2

theorem examined_cons (cl : Cluster) (metrics : SliceMap) (podName : NamespacedName)
    (names : List String) (entries : List (Σ _ : NamespacedName, List String)) :
    examined cl metrics (⟨podName, names⟩ :: entries) =
      (match cl.pods podName with
        | none => []
        | some pod => examinedPod cl metrics podName pod names) ++ examined cl metrics entries :=
  rfl

/-- The loops without the cache: one loop over the examined triples. -/
def runExamined (H : Helpers) (cl : Cluster) (us : List Update) :
    List (Pod × DiskConfig × String) → Run (List Update)
  | [] => .ok us
  | (pod, config, m) :: vs =>
    match resizeMetric H cl pod config m with
    | .error p => .error (p, us)
    | .ok u => runExamined H cl (us ++ u.toList) vs

theorem runExamined_append (H : Helpers) (cl : Cluster) (us : List Update)
    (vs ws : List (Pod × DiskConfig × String)) :
    runExamined H cl us (vs ++ ws) =
      match runExamined H cl us vs with
      | .ok us => runExamined H cl us ws
      | .error e => .error e := by
  induction vs generalizing us with
  | nil => rfl
  | cons v vs ih =>
    obtain ⟨pod, config, m⟩ := v
    simp only [List.cons_append, runExamined]
    split <;> simp [ih]

theorem resizeMetrics_eq (H : Helpers) (cl : Cluster) (pod : Pod) (config : DiskConfig)
    (us : List Update) (ms : List String) :
    resizeMetrics H cl pod config us ms = runExamined H cl us (ms.map (pod, config, ·)) := by
  induction ms generalizing us with
  | nil => rfl
  | cons m ms ih => simp only [resizeMetrics, List.map_cons, runExamined, ih]

/-- Every cached configuration is the one the API returns. -/
def Consistent (cl : Cluster) (cache : ConfigCache) : Prop :=
  ∀ k config, cache.lookup k = some config → cl.diskConfigs k = some config

theorem Consistent.empty (cl : Cluster) : Consistent cl ∅ := fun _ _ h => by simp at h

theorem fetchConfig_consistent {cl : Cluster} {cache : ConfigCache} (h : Consistent cl cache)
    (key : NamespacedName) :
    (fetchConfig cl cache key).1 = cl.diskConfigs key ∧
      Consistent cl (fetchConfig cl cache key).2 := by
  unfold fetchConfig
  cases hc : cache.lookup key with
  | some config => exact ⟨(h key config hc).symm, h⟩
  | none =>
    cases hd : cl.diskConfigs key with
    | none => exact ⟨rfl, h⟩
    | some config =>
      refine ⟨rfl, fun k c hk => ?_⟩
      by_cases e : k = key
      · subst e; simp only [AList.lookup_insert, Option.some.injEq] at hk; rw [hd, hk]
      · exact h k c (by simpa [AList.lookup_insert_ne e] using hk)

/-- A cached run agrees with a flat one: the same panic and log, or the same log and a consistent
cache. -/
def Agrees (cl : Cluster) : Run (ConfigCache × List Update) → Run (List Update) → Prop
  | .ok (cache, us), .ok us' => Consistent cl cache ∧ us = us'
  | .error e, .error e' => e = e'
  | _, _ => False

theorem resizeConfigs_agrees (H : Helpers) (cl : Cluster) (metrics : SliceMap)
    (podName : NamespacedName) (pod : Pod) (names : List String) (cache : ConfigCache)
    (us : List Update) (hc : Consistent cl cache) :
    Agrees cl (resizeConfigs H cl metrics podName pod (cache, us) names)
      (runExamined H cl us (examinedPod cl metrics podName pod names)) := by
  induction names generalizing cache us with
  | nil => exact ⟨hc, rfl⟩
  | cons name names ih =>
    obtain ⟨hfetch, hc'⟩ := fetchConfig_consistent hc ⟨pod.ns, name⟩
    simp only [resizeConfigs, examinedPod, List.flatMap_cons, runExamined_append]
    revert hfetch hc'
    rcases fetchConfig cl cache ⟨pod.ns, name⟩ with ⟨_ | config, cache'⟩ <;>
      intro hfetch hc' <;> simp only at hfetch hc' <;> rw [← hfetch]
    · exact ih cache' us hc'
    · by_cases hp : config.policy.pause
      · simpa [hp] using ih cache' us hc'
      · simp only [hp, if_false, Bool.false_eq_true, ← resizeMetrics_eq]
        cases resizeMetrics H cl pod config us (metrics.at podName) with
        | error e => exact rfl
        | ok us' => exact ih cache' us' hc'

theorem resizePods_agrees (H : Helpers) (cl : Cluster) (metrics : SliceMap)
    (entries : List (Σ _ : NamespacedName, List String)) (cache : ConfigCache)
    (us : List Update) (hc : Consistent cl cache) :
    Agrees cl (resizePods H cl metrics (cache, us) entries)
      (runExamined H cl us (examined cl metrics entries)) := by
  induction entries generalizing cache us with
  | nil => exact ⟨hc, rfl⟩
  | cons e entries ih =>
    obtain ⟨podName, names⟩ := e
    rw [examined_cons, runExamined_append]
    simp only [resizePods]
    cases cl.pods podName with
    | none => exact ih cache us hc
    | some pod =>
      dsimp only
      have h := resizeConfigs_agrees H cl metrics podName pod names cache us hc
      revert h
      cases resizeConfigs H cl metrics podName pod (cache, us) names with
      | error e =>
        cases runExamined H cl us (examinedPod cl metrics podName pod names) with
        | error e' => intro h; exact h
        | ok _ => intro h; exact h.elim
      | ok acc =>
        obtain ⟨cache', us'⟩ := acc
        cases runExamined H cl us (examinedPod cl metrics podName pod names) with
        | error _ => intro h; exact h.elim
        | ok us'' =>
          rintro ⟨hc', rfl⟩
          exact ih cache' us' hc'

theorem issued_map_of_agrees {cl : Cluster} {r : Run (ConfigCache × List Update)}
    {r' : Run (List Update)} (h : Agrees cl r r') : issued (r.map (·.2)) = issued r' := by
  rcases r with e | ⟨cache, us⟩ <;> rcases r' with e' | us' <;> simp_all [Agrees, issued, Except.map]

/-! ## What the flat loop issues -/

theorem mem_issued_runExamined {H : Helpers} {cl : Cluster} {us : List Update}
    {vs : List (Pod × DiskConfig × String)} {u : Update}
    (h : u ∈ issued (runExamined H cl us vs)) :
    u ∈ us ∨ ∃ v ∈ vs, resizeMetric H cl v.1 v.2.1 v.2.2 = .ok (some u) := by
  induction vs generalizing us with
  | nil => exact .inl h
  | cons v vs ih =>
    obtain ⟨pod, config, m⟩ := v
    simp only [runExamined] at h
    cases hr : resizeMetric H cl pod config m with
    | error p => rw [hr] at h; exact .inl h
    | ok r =>
      rw [hr] at h
      rcases ih h with h | ⟨v, hv, hv'⟩
      · rcases List.mem_append.1 h with h | h
        · exact .inl h
        · cases r with
          | none => cases h
          | some u' =>
            obtain rfl := List.mem_singleton.1 h
            exact .inr ⟨_, List.mem_cons_self _ _, hr⟩
      · exact .inr ⟨v, List.mem_cons_of_mem _ hv, hv'⟩

theorem runExamined_ok {H : Helpers} {cl : Cluster} (us : List Update)
    (vs : List (Pod × DiskConfig × String))
    (hvs : ∀ v ∈ vs, ∃ r, resizeMetric H cl v.1 v.2.1 v.2.2 = .ok r) :
    ∃ us', runExamined H cl us vs = .ok us' ∧
      ∀ u, u ∈ us' ↔ u ∈ us ∨ ∃ v ∈ vs, resizeMetric H cl v.1 v.2.1 v.2.2 = .ok (some u) := by
  induction vs generalizing us with
  | nil => exact ⟨us, rfl, by simp only [List.not_mem_nil, false_and, exists_false, or_false,
      implies_true]⟩
  | cons v vs ih =>
    obtain ⟨pod, config, m⟩ := v
    obtain ⟨r, hr⟩ : ∃ r, resizeMetric H cl pod config m = .ok r := hvs _ (List.mem_cons_self _ _)
    obtain ⟨us', run, hmem⟩ := ih (us ++ r.toList) (fun v hv => hvs v (List.mem_cons_of_mem _ hv))
    refine ⟨us', by simp only [runExamined, hr, run], fun u => ?_⟩
    rw [hmem]
    cases r with
    | none =>
      simp only [Option.toList_none, List.append_nil, List.exists_mem_cons_iff, hr, Except.ok.injEq,
        reduceCtorEq, false_or]
    | some u' =>
      simp only [Option.toList_some, List.mem_append, List.mem_singleton, List.exists_mem_cons_iff, hr,
        Except.ok.injEq, Option.some.injEq, @eq_comm _ u, or_assoc]

/-! ## What the cycle issues -/

/-- Every update a cycle issues, also before a panic, is issued by some line of some pod under
some configuration that the API returned. -/
theorem mem_issued_monitorVolumes {H : Helpers} {cl : Cluster} {scrape : String → Option String}
    {u : Update} (h : u ∈ issued (monitorVolumes H cl scrape)) :
    ∃ pod config line, (∃ key, cl.diskConfigs key = some config) ∧
      resizeMetric H cl pod config line = .ok (some u) := by
  unfold monitorVolumes at h
  split at h
  · simp [issued] at h
  · split at h
    · simp [issued] at h
    · rename_i s _
      split at h
      · simp [issued] at h
      · rw [issued_map_of_agrees (resizePods_agrees H cl s.metrics _ ∅ [] (Consistent.empty cl))] at h
        rcases mem_issued_runExamined h with h | ⟨⟨pod, config, line⟩, hv, hu⟩
        · simp at h
        · refine ⟨pod, config, line, ?_, hu⟩
          simp only [examined, List.mem_flatMap] at hv
          obtain ⟨e, -, hv⟩ := hv
          split at hv
          · simp at hv
          · simp only [examinedPod, List.mem_flatMap] at hv
            obtain ⟨name, -, hv⟩ := hv
            split at hv
            · simp at hv
            · rename_i config' hc
              split at hv
              · simp at hv
              · simp only [List.mem_map, Prod.mk.injEq] at hv
                obtain ⟨_, -, -, rfl, -⟩ := hv
                exact ⟨_, hc⟩

end Discoblocks.Monitor

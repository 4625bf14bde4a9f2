import Discoblocks.Metrics
import Mathlib.Data.List.Infix

/-!
# Monitor: scraping the endpoints

The first loop of `MonitorVolumes`. For every address of every labelled endpoint it records the
endpoint's configuration name for the address's pod (`discoblocks`), fetches the pod's metrics
page and keeps the lines of the free-space metric (`metrics`). A failed fetch skips the address;
an address without a `TargetRef` is dereferenced anyway, which panics.

`scrape_visits_ok` says what the two maps hold after the loop.
-/

namespace Discoblocks.Monitor

/-- The metric the monitor reads. -/
def availMetric : String := "node_filesystem_avail_bytes"

/-- `strings.Split(body, "\n")`. -/
def splitLines : List Char → List (List Char)
  | [] => [[]]
  | '\n' :: cs => [] :: splitLines cs
  | c :: cs =>
    match splitLines cs with
    | l :: ls => (c :: l) :: ls
    | [] => [[c]]

def lines (body : String) : List String := (splitLines body.toList).map String.mk

/-- The lines the monitor keeps: not a comment, and naming the metric. -/
def keepsLine (line : String) : Bool :=
  !(line.toList.head? = some '#') && decide (availMetric.toList <:+: line.toList)

/-- A map of slices, keyed by pod. -/
abbrev SliceMap := AList (fun _ : NamespacedName => List String)

/-- `m[k] = append(m[k], xs...)`, where a missing key holds the empty slice. -/
def appendAt (m : SliceMap) (k : NamespacedName) (xs : List String) : SliceMap :=
  m.insert k ((m.lookup k).getD [] ++ xs)

/-- The slice at `k`, empty when `k` is missing. -/
def SliceMap.at (m : SliceMap) (k : NamespacedName) : List String := (m.lookup k).getD []

@[simp] theorem at_appendAt (m : SliceMap) (k k' : NamespacedName) (xs : List String) :
    (appendAt m k xs).at k' = if k' = k then m.at k ++ xs else m.at k' := by
  by_cases h : k' = k
  · subst h; simp [appendAt, SliceMap.at, AList.lookup_insert]
  · simp [appendAt, SliceMap.at, AList.lookup_insert_ne h, h]

/-- The two maps the loop fills. -/
structure Scraped where
  discoblocks : SliceMap
  metrics : SliceMap

/-- One address of an endpoint whose label names `config`. -/
def scrapeAddress (scrape : String → Option String) (config : String) (s : Scraped)
    (ip : EndpointAddress) : Except Panic Scraped :=
  match ip.targetRef with
  | none => .error .nilDereference
  | some ref =>
    let podName : NamespacedName := ⟨ref.ns, ref.name⟩
    let discoblocks := appendAt s.discoblocks podName [config]
    match scrape ip.ip with
    | none => .ok { s with discoblocks }
    | some body =>
      .ok ⟨discoblocks, (lines body).foldl
        (fun m line => if keepsLine line then appendAt m podName [line] else m) s.metrics⟩

/-- The endpoint loop. -/
def scrapeEndpoints (scrape : String → Option String) (s : Scraped) (eps : List Endpoints) :
    Except Panic Scraped :=
  eps.foldlM (fun s ep => ep.subsets.foldlM (fun s ss =>
    ss.addresses.foldlM (scrapeAddress scrape (ep.labels.get "discoblocks")) s) s) s

/-! ## What the loop visits -/

/-- The addresses the loop visits, each with its endpoint's configuration name. -/
def visits (eps : List Endpoints) : List (EndpointAddress × String) :=
  eps.flatMap fun ep => ep.subsets.flatMap fun ss =>
    ss.addresses.map (·, ep.labels.get "discoblocks")

theorem foldlM_flatMap {α β γ ε : Type} (f : γ → α → Except ε γ) (g : β → List α)
    (xs : List β) (s : γ) :
    (xs.flatMap g).foldlM f s = xs.foldlM (fun s b => (g b).foldlM f s) s := by
  induction xs generalizing s with
  | nil => rfl
  | cons b bs ih =>
    simp only [List.flatMap_cons, List.foldlM_append, List.foldlM_cons]
    cases (g b).foldlM f s <;> simp [ih, bind, Except.bind]

theorem scrapeEndpoints_eq_visits (scrape : String → Option String) (s : Scraped)
    (eps : List Endpoints) :
    scrapeEndpoints scrape s eps =
      (visits eps).foldlM (fun s v => scrapeAddress scrape v.2 s v.1) s := by
  simp only [scrapeEndpoints, visits, foldlM_flatMap, List.foldlM_map]

/-- The kept lines of `body`, appended to the slice at `k`. -/
theorem at_foldl_lines (body : String) (podName k : NamespacedName) (m : SliceMap) :
    ((lines body).foldl (fun m line => if keepsLine line then appendAt m podName [line] else m)
      m).at k = if k = podName then m.at k ++ (lines body).filter keepsLine else m.at k := by
  generalize lines body = ls
  induction ls generalizing m with
  | nil => simp
  | cons l ls ih =>
    by_cases hl : keepsLine l
    · by_cases hk : k = podName
      · subst hk; simp [ih, hl]
      · simp [ih, hl, hk]
    · simp [ih, hl]

/-- The pod an address's `TargetRef` names. -/
def podOf (a : EndpointAddress) : Option NamespacedName :=
  a.targetRef.map fun r => ⟨r.ns, r.name⟩

/-- The lines kept from an address's metrics page; none when the fetch fails. -/
def keptLines (scrape : String → Option String) (a : EndpointAddress) : List String :=
  match scrape a.ip with
  | some body => (lines body).filter keepsLine
  | none => []

/-- When every visited address has a `TargetRef`, the loop appends to each pod's slices the
configuration names and kept lines of the addresses naming that pod, in order. -/
theorem scrape_visits_ok (scrape : String → Option String) (vs : List (EndpointAddress × String))
    (hrefs : ∀ v ∈ vs, v.1.targetRef.isSome) (s : Scraped) :
    ∃ s', vs.foldlM (fun s v => scrapeAddress scrape v.2 s v.1) s = .ok s' ∧
      (∀ k, s'.discoblocks.at k =
        s.discoblocks.at k ++ (vs.filter (podOf ·.1 = some k)).map (·.2)) ∧
      (∀ k, s'.metrics.at k =
        s.metrics.at k ++ (vs.filter (podOf ·.1 = some k)).flatMap (keptLines scrape ·.1)) := by
  induction vs generalizing s with
  | nil => exact ⟨s, rfl, by simp, by simp⟩
  | cons v vs ih =>
    obtain ⟨⟨ip, ref⟩, config⟩ := v
    obtain ⟨ref, rfl⟩ := Option.isSome_iff_exists.1 (hrefs _ (List.mem_cons_self _ _))
    let podName : NamespacedName := ⟨ref.ns, ref.name⟩
    let s₁ : Scraped := ⟨appendAt s.discoblocks podName [config], match scrape ip with
      | none => s.metrics
      | some body => (lines body).foldl
          (fun m line => if keepsLine line then appendAt m podName [line] else m) s.metrics⟩
    have step : scrapeAddress scrape config s ⟨ip, some ref⟩ = .ok s₁ := by
      simp only [scrapeAddress, s₁]; split <;> rfl
    obtain ⟨s', run, hd, hm⟩ := ih (fun v hv => hrefs v (List.mem_cons_of_mem _ hv)) s₁
    have hpod : podOf ⟨ip, some ref⟩ = some podName := rfl
    refine ⟨s', by simp only [List.foldlM_cons, step]; exact run, fun k => ?_, fun k => ?_⟩
    · rw [hd k]
      by_cases hk : k = podName
      · subst hk; simp [s₁, hpod]
      · simp [s₁, hpod, hk, Ne.symm hk]
    · rw [hm k]
      by_cases hk : k = podName
      · subst hk
        cases h : scrape ip <;> simp [s₁, hpod, keptLines, h, at_foldl_lines]
      · cases h : scrape ip <;> simp [s₁, hpod, keptLines, h, at_foldl_lines, hk, Ne.symm hk]

end Discoblocks.Monitor

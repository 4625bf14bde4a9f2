import Discoblocks.Metrics

/-!
# The PVC controller: `Reconcile` and its event filter

`Reconcile` mirrors one claim into the status of the configuration its `discoblocks` label
names: the phase of a live claim is written, the entry of a claim marked for deletion is removed.
It runs only when `controllerSemaphore` grants the gate, and returns `Requeue` otherwise. The API
calls it makes are given as their answers (`ReconcileApi`), so the function is pure; the run model
of `Discoblocks.Controller.Run` ties the answers to the cluster.

`pvcEventFilter` decides which watch events of claims reach the work queue.

## Main statements

* `reconcile_eq_write`: the only outcome that writes a status, and what it writes.
* `reconcile_requeues_of_write_none`: without a write, `Reconcile` requeues unless a `Get`
  answered `NotFound`.
-/

namespace Discoblocks.Controller

/-- Modelled from the spec: `controllerSemaphore` is not in the source. A process-wide
non-blocking try-lock: it grants the gate exactly when the gate is free, and the gate is held
afterwards either way. Returns whether it granted the gate, and whether the gate is held. -/
def controllerSemaphore (held : Bool) : Bool × Bool := (!held, true)

/-- What `Reconcile` returns: `ctrl.Result{Requeue}` and the error. -/
structure Outcome where
  requeue : Bool
  error : Option String
  deriving DecidableEq, Repr

/-- The manager puts a key back in the queue on `Requeue` and on an error. -/
def Outcome.requeues (o : Outcome) : Bool := o.requeue || o.error.isSome

/-- The answers of the API calls `Reconcile` makes. -/
structure ReconcileApi where
  getPVC : NamespacedName → Except ApiError PVC
  getConfig : NamespacedName → Except ApiError DiskConfig
  /-- `Status().Update`: `none` when it succeeds. -/
  updateStatus : DiskConfig → Option ApiError

/-- The status map with `pvc` mirrored: its entry removed when it is being deleted (the lookup
before `delete` changes nothing), its phase written otherwise. -/
def mirrorStatus (status : StringMap) (pvc : PVC) : StringMap :=
  if pvc.deleting then status.erase pvc.name else status.insert pvc.name pvc.phase

/-- `Reconcile` for the request `req`, once `controllerSemaphore` has answered `lock`: its outcome
and the configuration whose status it wrote. -/
def reconcile (api : ReconcileApi) (lock : Bool) (req : NamespacedName) :
    Outcome × Option DiskConfig :=
  if !lock then (⟨true, none⟩, none)
  else match api.getPVC req with
    | .error (.notFound _) => (⟨false, none⟩, none)
    | .error e => (⟨false, some ("unable to fetch PVC: " ++ e.message)⟩, none)
    | .ok pvc =>
      match api.getConfig ⟨pvc.ns, pvc.labels.get "discoblocks"⟩ with
      | .error (.notFound _) => (⟨false, none⟩, none)
      | .error _ => (⟨false, some "unable to fetch PVC"⟩, none)
      | .ok config =>
        let config := { config with status := mirrorStatus config.status pvc }
        match api.updateStatus config with
        | some _ => (⟨false, some "unable to update PVC status"⟩, none)
        | none => (⟨false, none⟩, some config)

/-- A watch event of a claim. -/
inductive Event where
  | create (obj : PVC)
  | update (old new : PVC)
  | delete (obj : PVC)
  | generic (obj : PVC)

/-- The finalizer a claim's own label names. -/
def ownFinalizer (H : Helpers) (pvc : PVC) : Bool :=
  pvc.hasFinalizer (H.renderFinalizer (pvc.labels.get "discoblocks"))

/-- `pvcEventFilter`: its `Create`, `Update`, `Delete` and `Generic` methods. -/
def pvcEventFilter (H : Helpers) : Event → Bool
  | .create newObj => ownFinalizer H newObj
  | .update oldObj newObj =>
    ownFinalizer H newObj && (oldObj.deleting || newObj.deleting || oldObj.phase != newObj.phase)
  | .delete _ => false
  | .generic _ => false

/-! ## What one call does -/

variable {api : ReconcileApi} {lock : Bool} {req : NamespacedName}

theorem reconcile_eq_write {config : DiskConfig} {o : Outcome}
    (h : reconcile api lock req = (o, some config)) :
    lock = true ∧ o = ⟨false, none⟩ ∧ ∃ pvc old, api.getPVC req = .ok pvc ∧
      api.getConfig ⟨pvc.ns, pvc.labels.get "discoblocks"⟩ = .ok old ∧
      config = { old with status := mirrorStatus old.status pvc } ∧
      api.updateStatus config = none := by
  unfold reconcile at h
  cases lock
  · simp at h
  · simp only [Bool.not_true, Bool.false_eq_true, if_false] at h
    split at h
    · cases h
    · cases h
    · rename_i pvc hp
      split at h
      · cases h
      · cases h
      · rename_i old hc
        split at h
        · cases h
        · rename_i hu
          simp only [Prod.mk.injEq, Option.some.injEq] at h
          obtain ⟨rfl, rfl⟩ := h
          exact ⟨rfl, rfl, pvc, old, hp, hc, rfl, hu⟩

/-- A call that writes nothing requeues its key, unless the claim or its configuration is
`NotFound`. -/
theorem reconcile_requeues_of_write_none {o : Outcome}
    (h : reconcile api lock req = (o, none)) :
    o.requeues = true ∨ (∃ m, api.getPVC req = .error (.notFound m)) ∨
      ∃ pvc m, api.getPVC req = .ok pvc ∧
        api.getConfig ⟨pvc.ns, pvc.labels.get "discoblocks"⟩ = .error (.notFound m) := by
  unfold reconcile at h
  cases lock
  · simp only [Bool.not_false, if_true, Prod.mk.injEq] at h
    exact .inl (by rw [← h.1]; rfl)
  · simp only [Bool.not_true, Bool.false_eq_true, if_false] at h
    split at h
    · exact .inr (.inl ⟨_, ‹_›⟩)
    · simp only [Prod.mk.injEq] at h; exact .inl (by rw [← h.1]; rfl)
    · rename_i pvc hp
      split at h
      · exact .inr (.inr ⟨pvc, _, hp, ‹_›⟩)
      · simp only [Prod.mk.injEq] at h; exact .inl (by rw [← h.1]; rfl)
      · split at h
        · simp only [Prod.mk.injEq] at h; exact .inl (by rw [← h.1]; rfl)
        · simp at h

/-- After `mirrorStatus`, the entry under the claim's name is removed for a claim being deleted and
is its phase otherwise; every other entry is unchanged. -/
@[simp] theorem lookup_mirrorStatus (status : StringMap) (pvc : PVC) (p : String) :
    (mirrorStatus status pvc).lookup p =
      if p = pvc.name then (if pvc.deleting then none else some pvc.phase)
      else status.lookup p := by
  unfold mirrorStatus
  by_cases hp : p = pvc.name
  · subst hp; cases pvc.deleting <;> simp [AList.lookup_insert, AList.lookup_erase]
  · cases pvc.deleting <;> simp [hp, AList.lookup_insert_ne, AList.lookup_erase_ne]

end Discoblocks.Controller

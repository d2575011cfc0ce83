import ClusterImport.Proofs.Course
import ClusterImport.Proofs.MemoryApply
/-!
What a reconcile on clusters in memory comes to, read off what they hold. The decision is a result
and one effect: the two clusters are read first and may settle it, and else it is up to the token
and the manifest. Running the reconcile gives the result and has the effect.
-/
namespace ClusterImport

open Import Manifest

variable {α β κ ω : Type}

inductive Effect (ω : Type)
  | nothing
  | rancher (rancher : RancherCluster)
  | patch (key : ObjectKey) (patch : Json)
  | token (token : RegistrationToken)
  | objects (ids : Finset ω)

structure Decision (ω : Type) where
  result : Except ControllerError Requeue
  effect : Effect ω

namespace Decision

def idle (result : Except ControllerError Requeue) : Decision ω := ⟨result, .nothing⟩

def after (x : Except ControllerError α) (next : α → Decision ω) : Decision ω :=
  match x with
  | .error e => idle (.error e)
  | .ok a => next a

end Decision

open Decision

inductive Standing (ω : Type)
  | settled (decision : Decision ω)
  | registering (c : CapiCluster) (name : String)

namespace Regime

variable [DecidableEq κ] [DecidableEq ω] (r : Regime κ ω) (faults : Faults) (requeueAfter : Nat)
  (m : Memory κ ω)

def perform : Effect ω → Memory κ ω → Memory κ ω
  | .nothing, m => m
  | .rancher rancher, m => r.withRancher rancher m
  | .patch key patch, m => r.withPatch key patch m
  | .token token, m => r.withToken token m
  | .objects ids, m => { m with workload := m.workload ∪ ids }

def eligible (c : CapiCluster) : Except ControllerError Bool :=
  if c.metadata.optsIn then .ok true
  else match c.metadata.inNamespace with
    | none => .ok false
    | some ns => (unlessFailing (faults (.getNamespace ns)) (m.namespaces ns)).map
        (·.any (·.metadata.optsIn))

def creation (c : CapiCluster) (rk : ObjectKey) : Decision ω :=
  after (eligible faults m c) fun decided =>
    if !decided then idle (.ok .never)
    else after (rancherClusterFor c rk) fun rancher =>
      after (unlessFailing (faults (.createRancherCluster rancher)) ()) fun _ =>
        ⟨.ok .immediately, .rancher rancher⟩

def marking (key : ObjectKey) (c : CapiCluster) : Decision ω :=
  if c.isMarked then idle (.ok .never)
  else after (unlessFailing (faults (.patchCapiCluster key c.markPatch)) ()) fun _ =>
    ⟨.ok .never, .patch key c.markPatch⟩

def awaiting (c : CapiCluster) (rancher : RancherCluster) : Standing ω :=
  match rancher.managementName? with
  | none => .settled (idle (.ok (.after requeueAfter)))
  | some name =>
    if rancher.agentDeployed then .settled (idle (.ok .never)) else .registering c name

def application (text : String) : Decision ω :=
  let contents := contents text.toByteArray.toList
  let all := (r.reach faults contents.1).andThen (.ended contents.2)
  ⟨all.result.map fun _ => .never, .objects all.ids⟩

def registration (c : CapiCluster) (name : String) : Decision ω :=
  let ns := c.metadata.inNamespace.getD ""
  let key : ObjectKey := ⟨ns, name⟩
  after (unlessFailing (faults (.getRegistrationToken key)) (m.tokens (r.place key))) fun
    | none =>
      after (unlessFailing (faults (.createRegistrationToken (tokenFor name ns))) ()) fun _ =>
        ⟨.ok (.after requeueAfter), .token (tokenFor name ns)⟩
    | some token =>
      match token.manifestUrl? with
      | none => idle (.ok (.after requeueAfter))
      | some url => after (fetched faults m url) fun text =>
          after (connected faults c) fun _ => r.application faults text

def standing (key : ObjectKey) : Standing ω :=
  match unlessFailing (faults (.getCapiCluster key)) (m.clusters (r.place key)) with
  | .error e => .settled (idle (.error e))
  | .ok none => .settled (idle (.ok .immediately))
  | .ok (some c) =>
    if !c.isControlPlaneReady then .settled (idle (.ok (.after requeueAfter)))
    else match rancherKey c with
      | .error e => .settled (idle (.error e))
      | .ok rk =>
        match unlessFailing (faults (.getRancherCluster rk)) (m.ranchers (r.place rk)) with
        | .error e => .settled (idle (.error e))
        | .ok none => .settled (creation faults m c rk)
        | .ok (some rancher) =>
          if rancher.isDeleting then .settled (marking faults key c)
          else awaiting requeueAfter c rancher

def resolve : Standing ω → Decision ω
  | .settled d => d
  | .registering c name => r.registration faults requeueAfter m c name

def decide (key : ObjectKey) : Decision ω :=
  r.resolve faults requeueAfter m (r.standing faults requeueAfter m key)

def settle (d : Decision ω) : Except ControllerError Requeue × Memory κ ω :=
  (d.result, r.perform d.effect m)

variable {r faults requeueAfter m} {n : Memory κ ω}

/-- What changes nothing and comes to a value is followed by what the value decides. -/
theorem run_after {p : Import Unit α} {f : α → Import Unit Requeue} {x : Except ControllerError α}
    {d : α → Decision ω} (hp : r.run faults p m = (x, m))
    (hf : ∀ a, x = .ok a → r.run faults (f a) m = r.settle m (d a)) :
    r.run faults (p >>= f) m = r.settle m (after x d) := by
  rw [run_seq, hp]
  cases x with
  | error e => rfl
  | ok a => exact hf a rfl

theorem run_shouldAutoImport (c : CapiCluster) :
    r.run faults (shouldAutoImport c) m = (eligible faults m c, m) := by
  unfold shouldAutoImport eligible
  cases c.metadata.optsIn with
  | true => rfl
  | false =>
    cases c.metadata.inNamespace with
    | none => rfl
    | some ns =>
      simp only [Bool.false_eq_true, if_false]
      rw [run_seq, run_getNamespace]
      cases unlessFailing (faults (.getNamespace ns)) (m.namespaces ns) <;> rfl

/-- The Rancher cluster of a CAPI cluster is made for the key. It stays, and has no name in Rancher
yet. -/
theorem of_rancherClusterFor {c : CapiCluster} {rk : ObjectKey} {rancher : RancherCluster}
    (h : rancherClusterFor c rk = .ok rancher) : rancher.metadata.key = rk ∧
      rancher.isDeleting = false ∧ rancher.managementName? = none := by
  unfold rancherClusterFor at h
  split at h
  · cases h
  · cases h
    exact ⟨rfl, rfl, rfl⟩

theorem run_creation {c : CapiCluster} {rk : ObjectKey} (h : m.ranchers (r.place rk) = none) :
    r.run faults (createRancherCluster c rk) m = r.settle m (creation faults m c rk) := by
  refine run_after (run_shouldAutoImport c) fun decided _ => ?_
  cases decided with
  | false => rfl
  | true =>
    refine run_after (run_ofExcept _) fun rancher hr => ?_
    rw [run_seq, run_createRancherCluster rancher (by rw [(of_rancherClusterFor hr).1, h])]
    cases faults (.createRancherCluster rancher) <;> rfl

theorem run_registrationManifest (name ns : String) :
    r.run faults (registrationManifest name ns) m =
      match unlessFailing (faults (.getRegistrationToken ⟨ns, name⟩))
        (m.tokens (r.place ⟨ns, name⟩)) with
      | .error e => (.error e, m)
      | .ok none =>
        match faults (.createRegistrationToken (tokenFor name ns)) with
        | some e => (.error (.kube e), m)
        | none => (.ok none, r.withToken (tokenFor name ns) m)
      | .ok (some token) =>
        match token.manifestUrl? with
        | none => (.ok none, m)
        | some url => ((fetched faults m url).map some, m) := by
  unfold registrationManifest
  rw [run_seq, run_getRegistrationToken]
  cases hx : unlessFailing (faults (.getRegistrationToken ⟨ns, name⟩))
      (m.tokens (r.place ⟨ns, name⟩)) with
  | error e => rfl
  | ok found =>
    cases found with
    | none =>
      have hnone : m.tokens (r.place ⟨ns, name⟩) = none := held_of_unlessFailing hx
      change r.run faults
        (Import.createRegistrationToken (tokenFor name ns) >>= fetchPublished) m = _
      rw [run_seq, run_createRegistrationToken _ hnone]
      dsimp only
      cases faults (.createRegistrationToken (tokenFor name ns)) <;> rfl
    | some token =>
      change r.run faults (fetchPublished token) m = _
      unfold fetchPublished
      dsimp only
      cases token.manifestUrl? with
      | none => rfl
      | some url =>
        dsimp only
        rw [run_seq, run_fetchManifest]
        cases fetched faults m url <;> rfl

theorem run_application (text : String) :
    r.run faults (apply () text.toByteArray.toList >>= fun outcome => do
      Import.record (.manifestApplied outcome)
      return Requeue.never) m = r.settle m (r.application faults text) := by
  obtain ⟨x, hx, hr⟩ := reaches_apply text.toByteArray.toList m
  rw [run_seq, hx]
  unfold application settle
  dsimp only
  rw [← hr]
  cases x <;> rfl

theorem run_register (c : CapiCluster) (rancher : RancherCluster) :
    r.run faults (register requeueAfter c rancher) m =
      r.settle m (r.resolve faults requeueAfter m (awaiting requeueAfter c rancher)) := by
  unfold register awaiting
  cases rancher.managementName? with
  | none => rfl
  | some name =>
    cases rancher.agentDeployed with
    | true => rfl
    | false =>
      simp only [Bool.false_eq_true, if_false, resolve]
      rw [run_seq, run_registrationManifest]
      unfold registration
      dsimp only
      cases unlessFailing (faults (.getRegistrationToken ⟨c.metadata.inNamespace.getD "", name⟩))
          (m.tokens (r.place ⟨c.metadata.inNamespace.getD "", name⟩)) with
      | error e => rfl
      | ok found =>
        cases found with
        | none =>
          dsimp only [after]
          cases faults (.createRegistrationToken
            (tokenFor name (c.metadata.inNamespace.getD ""))) <;> rfl
        | some token =>
          dsimp only [after]
          cases token.manifestUrl? with
          | none => rfl
          | some url =>
            dsimp only
            cases fetched faults m url with
            | error e => rfl
            | ok text =>
              refine run_after (run_workloadClient c) fun _ _ => ?_
              exact run_application text

theorem run_transition (c : CapiCluster) :
    r.run faults (transition requeueAfter c) m = match rancherKey c with
      | .error e => (.error e, m)
      | .ok rk =>
        match unlessFailing (faults (.getRancherCluster rk)) (m.ranchers (r.place rk)) with
        | .error e => (.error e, m)
        | .ok none =>
          let d := creation faults m c rk
          (d.result.map (·, c), r.perform d.effect m)
        | .ok (some rancher) =>
          if rancher.isDeleting then (.ok (.never, c.marked), m)
          else
            let d := r.resolve faults requeueAfter m (awaiting requeueAfter c rancher)
            (d.result.map (·, c), r.perform d.effect m) := by
  unfold transition
  rw [run_seq, run_ofExcept]
  cases rancherKey c with
  | error e => rfl
  | ok rk =>
    dsimp only
    rw [run_seq, run_getRancherCluster]
    cases hx : unlessFailing (faults (.getRancherCluster rk)) (m.ranchers (r.place rk)) with
    | error e => rfl
    | ok found =>
      cases found with
      | none =>
        dsimp only
        rw [run_seq, run_creation (held_of_unlessFailing hx), settle]
        cases (creation faults m c rk).result <;> rfl
      | some rancher =>
        dsimp only
        split
        · rfl
        · rw [run_seq, run_register, settle]
          cases (r.resolve faults requeueAfter m (awaiting requeueAfter c rancher)).result <;> rfl

/-- What is decided after a write, or where nothing has to be written. -/
theorem run_conclude {key : ObjectKey} {before : CapiCluster} {x : Except ControllerError Unit}
    (moved : Except ControllerError (Requeue × CapiCluster))
    (hw : r.run faults (writeBack key before (moved.toOption.getD (.never, before)).2) m = (x, n)) :
    r.run faults (conclude key before moved) m =
      (match ControllerError.join (errorOf moved ++ errorOf x) with
        | some e => .error e
        | none => .ok (moved.toOption.getD (.never, before)).1, n) := by
  refine (run_lift_seq (writeBack key before (moved.toOption.getD (.never, before)).2) _).trans ?_
  rw [hw]
  dsimp only
  cases ControllerError.join (errorOf moved ++ errorOf x) <;> rfl

/-- A cluster that has not changed is not written back. -/
theorem run_conclude_unchanged (key : ObjectKey) (c : CapiCluster)
    (x : Except ControllerError Requeue) :
    r.run faults (conclude key c (x.map (·, c))) m = (x, m) := by
  have hw {after : CapiCluster} (h : after = c) :
      r.run faults (writeBack key c after) m = (.ok (), m) := by
    rw [h, writeBack, clusterPatch_self]
    rfl
  cases x with
  | error e => exact run_conclude _ (hw rfl)
  | ok requeue => exact run_conclude _ (hw rfl)

theorem run_conclude_marked (key : ObjectKey) (c : CapiCluster) :
    r.run faults (conclude key c (.ok (.never, c.marked))) m =
      r.settle m (marking faults key c) := by
  unfold marking
  cases hm : c.isMarked with
  | true =>
    have hw : r.run faults (writeBack key c c.marked) m = (.ok (), m) := by
      rw [writeBack, clusterPatch_marked, hm]
      rfl
    rw [run_conclude (.ok (.never, c.marked)) hw]
    rfl
  | false =>
    have hw : r.run faults (writeBack key c c.marked) m =
        r.run faults (Import.patchCapiCluster key c.markPatch) m := by
      rw [writeBack, clusterPatch_marked, hm]
      rfl
    rw [run_conclude (.ok (.never, c.marked)) (hw.trans (run_patchCapiCluster key c.markPatch))]
    simp only [Bool.false_eq_true, if_false]
    cases faults (.patchCapiCluster key c.markPatch) <;> rfl

/-- A reconcile comes to what is decided. -/
theorem run_reconcile (key : ObjectKey) :
    r.run faults (reconcile requeueAfter key) m =
      r.settle m (r.decide faults requeueAfter m key) := by
  unfold reconcile decide standing
  rw [run_seq, run_getCapiCluster]
  cases unlessFailing (faults (.getCapiCluster key)) (m.clusters (r.place key)) with
  | error e => rfl
  | ok found =>
    cases found with
    | none => rfl
    | some c =>
      dsimp only
      cases c.isControlPlaneReady with
      | false => rfl
      | true =>
        simp only [Bool.not_true, Bool.false_eq_true, if_false]
        refine (run_lift_seq (transition requeueAfter c) (conclude key c)).trans ?_
        rw [run_transition]
        cases rancherKey c with
        | error e => exact run_conclude_unchanged key c (.error e)
        | ok rk =>
          dsimp only
          cases unlessFailing (faults (.getRancherCluster rk)) (m.ranchers (r.place rk)) with
          | error e => exact run_conclude_unchanged key c (.error e)
          | ok found =>
            cases found with
            | none => exact run_conclude_unchanged key c _
            | some rancher =>
              dsimp only
              split
              · exact run_conclude_marked key c
              · exact run_conclude_unchanged key c _

end Regime

namespace InMemory

variable {σ : Type} [DecidableEq κ] [DecidableEq ω] (clusters : InMemory σ κ ω) (requeueAfter : Nat)

def reconciled (key : ObjectKey) (s : σ) : Except ControllerError Requeue × σ :=
  Proc.run clusters.environment (reconcile requeueAfter key).run s

def decided (key : ObjectKey) (s : σ) : Decision ω :=
  clusters.regime.decide (clusters.faults s) requeueAfter (clusters.memory s) key

theorem reconciled_eq (key : ObjectKey) (s : σ) :
    ((clusters.reconciled requeueAfter key s).1,
        clusters.memory (clusters.reconciled requeueAfter key s).2) =
      clusters.regime.settle (clusters.memory s) (clusters.decided requeueAfter key s) :=
  (clusters.run_eq (reconcile requeueAfter key).run s).1.trans (Regime.run_reconcile key)

theorem result_reconciled (key : ObjectKey) (s : σ) :
    (clusters.reconciled requeueAfter key s).1 = (clusters.decided requeueAfter key s).result :=
  congrArg Prod.fst (clusters.reconciled_eq requeueAfter key s)

theorem memory_reconciled (key : ObjectKey) (s : σ) :
    clusters.memory (clusters.reconciled requeueAfter key s).2 =
      clusters.regime.perform (clusters.decided requeueAfter key s).effect (clusters.memory s) :=
  congrArg Prod.snd (clusters.reconciled_eq requeueAfter key s)

theorem faults_reconciled (key : ObjectKey) (s : σ) :
    clusters.faults (clusters.reconciled requeueAfter key s).2 = clusters.faults s :=
  (clusters.run_eq (reconcile requeueAfter key).run s).2

end InMemory

end ClusterImport

import ClusterImport.Proofs.Memory
/-!
Running a procedure on clusters in memory: one law for each way of putting procedures together, and
for each call what it is answered and what it leaves.
-/
namespace ClusterImport

open Import

variable {α β κ ω : Type}

def unlessFailing (fault? : Option KubeError) (held : α) : Except ControllerError α :=
  match fault? with
  | some e => .error (.kube e)
  | none => .ok held

theorem held_of_unlessFailing {fault? : Option KubeError} {held a : α}
    (h : unlessFailing fault? held = .ok a) : held = a := by
  unfold unlessFailing at h
  split at h
  · cases h
  · exact Except.ok.inj h

namespace Regime

variable [DecidableEq κ] [DecidableEq ω] (r : Regime κ ω) (faults : Faults) (m : Memory κ ω)

def fetched (url : String) : Except ControllerError String :=
  match faults (.fetchManifest url) with
  | some e => .error (.fetch e)
  | none =>
    match m.manifests url with
    | some text => .ok text
    | none => .error (.fetch (.status url 404))

def connected (c : CapiCluster) : Except ControllerError Unit :=
  match faults (.workloadClient c) with
  | some e => .error e
  | none => .ok ()

def run (p : Import Unit α) (start : Memory κ ω) : Except ControllerError α × Memory κ ω :=
  Proc.run (r.environment faults) p.run start

variable {r faults m} {n : Memory κ ω}

@[simp] theorem run_pure (a : α) : r.run faults (pure a) m = (.ok a, m) := rfl

theorem run_seq (p : Import Unit α) (f : α → Import Unit β) :
    r.run faults (p >>= f) m = match r.run faults p m with
      | (.error e, n) => (.error e, n)
      | (.ok a, n) => r.run faults (f a) n := by
  refine (Proc.run_bind (r.environment faults) p.run _ m).trans ?_
  unfold run
  cases Proc.run (r.environment faults) p.run m with
  | mk x n => cases x <;> rfl

/-- A failure is kept as a value. -/
theorem run_lift_seq (p : Import Unit α) (f : Except ControllerError α → Import Unit β) :
    r.run faults (ExceptT.lift p.run >>= f) m =
      r.run faults (f (r.run faults p m).1) (r.run faults p m).2 := by
  have hl : r.run faults (ExceptT.lift p.run : Import Unit (Except ControllerError α)) m =
      (.ok (r.run faults p m).1, (r.run faults p m).2) :=
    Proc.run_bind (r.environment faults) p.run _ m
  rw [run_seq, hl]

theorem run_ofExcept (x : Except ControllerError α) :
    r.run faults (Import.ofExcept x) m = (x, m) := rfl

theorem run_answered {ε : Type} {wrap : ε → ControllerError} {p : Proc Unit (Except ε α)}
    {x : Except ε α} (h : p.run (r.environment faults) m = (x, n)) :
    r.run faults (answered wrap p) m = (x.mapError wrap, n) := by
  refine (Proc.run_bind (r.environment faults) p _ m).trans ?_
  rw [h]
  rfl

theorem ask_of_failing {c : Call Unit} {e : c.Fault} (h : faults c = some e) :
    (Proc.ask c).run (r.environment faults) m = (c.failed e, m) := by
  change r.answer faults c m = _
  simp only [answer, h]

theorem ask_of_serving {c : Call Unit} (h : faults c = none) :
    (Proc.ask c).run (r.environment faults) m = r.serve c m := by
  change r.answer faults c m = _
  simp only [answer, h]

/-- A call fails and changes nothing, or it comes to what it is served. -/
theorem run_attempt {fault? : Option KubeError} {p : Proc Unit (Except KubeError α)} {a : α}
    (hf : ∀ e, fault? = some e → p.run (r.environment faults) m = (.error e, m))
    (hs : fault? = none → p.run (r.environment faults) m = (.ok a, n)) :
    r.run faults (answered .kube p) m = (unlessFailing fault? a, fault?.elim n fun _ => m) := by
  cases fault? with
  | some e => exact run_answered (hf e rfl)
  | none => exact run_answered (hs rfl)

/-- A lookup finds what is held. -/
theorem run_lookup {fault? : Option KubeError} {p : Proc Unit (Except KubeError α)} {held : α}
    (hf : ∀ e, fault? = some e → p.run (r.environment faults) m = (.error e, m))
    (hs : fault? = none → p.run (r.environment faults) m = (.ok held, m)) :
    r.run faults (answered .kube p) m = (unlessFailing fault? held, m) := by
  rw [run_attempt hf hs]
  cases fault? <;> rfl

theorem run_getCapiCluster (key : ObjectKey) :
    r.run faults (Import.getCapiCluster key) m =
      (unlessFailing (faults (.getCapiCluster key)) (m.clusters (r.place key)), m) :=
  run_lookup (fun _ h => ask_of_failing h) fun h => ask_of_serving h

theorem run_getNamespace (name : String) :
    r.run faults (Import.getNamespace name) m =
      (unlessFailing (faults (.getNamespace name)) (m.namespaces name), m) :=
  run_lookup (fun _ h => ask_of_failing h) fun h => ask_of_serving h

theorem run_getRancherCluster (key : ObjectKey) :
    r.run faults (Import.getRancherCluster key) m =
      (unlessFailing (faults (.getRancherCluster key)) (m.ranchers (r.place key)), m) :=
  run_lookup (fun _ h => ask_of_failing h) fun h => ask_of_serving h

theorem run_getRegistrationToken (key : ObjectKey) :
    r.run faults (Import.getRegistrationToken key) m =
      (unlessFailing (faults (.getRegistrationToken key)) (m.tokens (r.place key)), m) :=
  run_lookup (fun _ h => ask_of_failing h) fun h => ask_of_serving h

theorem run_fetchManifest (url : String) :
    r.run faults (Import.fetchManifest url) m = (fetched faults m url, m) := by
  unfold fetched
  cases hf : faults (.fetchManifest url) with
  | some e => exact run_answered (ask_of_failing hf)
  | none =>
    have hs := ask_of_serving hf (r := r) (m := m)
    simp only [serve] at hs
    cases hm : m.manifests url <;> rw [hm] at hs <;> exact run_answered hs

theorem run_workloadClient (c : CapiCluster) :
    r.run faults (Import.workloadClient c) m = (connected faults c, m) := by
  unfold connected
  cases hf : faults (.workloadClient c) with
  | some e => exact run_answered (ask_of_failing hf)
  | none => exact run_answered (ask_of_serving hf)

theorem run_patchCapiCluster (key : ObjectKey) (patch : Json) :
    r.run faults (Import.patchCapiCluster key patch) m =
      (unlessFailing (faults (.patchCapiCluster key patch)) (),
        (faults (.patchCapiCluster key patch)).elim (r.withPatch key patch m) fun _ => m) :=
  run_attempt (fun _ h => ask_of_failing h) fun h => ask_of_serving h

/-- A create where nothing is has its effect unless it fails. -/
theorem run_create {fault? : Option KubeError} {p : Proc Unit (Except KubeError α)}
    {key : ObjectKey} {held : Option α} {a : α}
    (hf : ∀ e, fault? = some e → p.run (r.environment faults) m = (.error e, m))
    (hs : fault? = none →
      p.run (r.environment faults) m = created (r.occupied? key held) a m n)
    (h : held = none) :
    r.run faults (answered .kube p) m = (unlessFailing fault? a, fault?.elim n fun _ => m) :=
  run_attempt hf fun hnone => by
    rw [hs hnone, h]
    rfl

theorem run_createRancherCluster (rancher : RancherCluster)
    (h : m.ranchers (r.place rancher.metadata.key) = none) :
    r.run faults (Import.createRancherCluster rancher) m =
      (unlessFailing (faults (.createRancherCluster rancher)) rancher,
        (faults (.createRancherCluster rancher)).elim (r.withRancher rancher m) fun _ => m) :=
  run_create (fun _ hf => ask_of_failing hf) (fun hf => ask_of_serving hf) h

theorem run_createRegistrationToken (token : RegistrationToken)
    (h : m.tokens (r.place token.metadata.key) = none) :
    r.run faults (Import.createRegistrationToken token) m =
      (unlessFailing (faults (.createRegistrationToken token)) token,
        (faults (.createRegistrationToken token)).elim (r.withToken token m) fun _ => m) :=
  run_create (fun _ hf => ask_of_failing hf) (fun hf => ask_of_serving hf) h

end Regime

end ClusterImport

import ClusterImport.Proofs.ClusterPatch
import ClusterImport.Proofs.Registration
/-!
The courses that a reconcile can take, whatever is answered: for each the calls with their answers,
and the result. The patch is only in the course of a Rancher cluster that is being deleted, and the
course that creates a Rancher cluster ends there.
-/
namespace ClusterImport

open Import

variable {W : Type}

inductive EligibilityCourse (c : CapiCluster) :
    List (Exchange W) → Except ControllerError Bool → Prop
  | own (ho : c.metadata.optsIn = true) : EligibilityCourse c [] (.ok true)
  | homeless (ho : c.metadata.optsIn = false) (hn : c.metadata.inNamespace = none) :
      EligibilityCourse c [] (.ok false)
  | unread {ns : String} (ho : c.metadata.optsIn = false) (hn : c.metadata.inNamespace = some ns)
      (e : KubeError) : EligibilityCourse c [⟨.getNamespace ns, .error e⟩] (.error (.kube e))
  | read {ns : String} (ho : c.metadata.optsIn = false) (hn : c.metadata.inNamespace = some ns)
      (found : Option Namespace) :
      EligibilityCourse c [⟨.getNamespace ns, .ok found⟩] (.ok (found.any (·.metadata.optsIn)))

theorem eligibilityCourse {c : CapiCluster} {trace : List (Exchange W)}
    {result : Except ControllerError Bool} (h : Runs (shouldAutoImport c) trace result) :
    EligibilityCourse c trace result := by
  unfold shouldAutoImport at h
  cases ho : c.metadata.optsIn with
  | true =>
    simp only [ho, if_true, runs_pure] at h
    obtain ⟨rfl, rfl⟩ := h
    exact .own ho
  | false =>
    simp only [ho, Bool.false_eq_true, if_false] at h
    cases hn : c.metadata.inNamespace with
    | none =>
      simp only [hn, runs_pure] at h
      obtain ⟨rfl, rfl⟩ := h
      exact .homeless ho hn
    | some ns =>
      simp only [hn] at h
      obtain ⟨first, x, rest, rfl, hx, hk⟩ := runs_answered_seq.1 h
      obtain rfl := Proc.runs_ask.1 hx
      cases x with
      | error e =>
        obtain ⟨rfl, rfl⟩ := hk
        exact .unread ho hn e
      | ok found =>
        obtain ⟨rfl, rfl⟩ := runs_pure.1 hk
        exact .read ho hn found

inductive CreationCourse (c : CapiCluster) (key : ObjectKey) :
    List (Exchange W) → Except ControllerError Requeue → Prop
  | undecided {reads : List (Exchange W)} {e : ControllerError}
      (h : EligibilityCourse c reads (.error e)) : CreationCourse c key reads (.error e)
  | ineligible {reads : List (Exchange W)} (h : EligibilityCourse c reads (.ok false)) :
      CreationCourse c key reads (.ok .never)
  | anonymous {reads : List (Exchange W)} {e : ControllerError}
      (h : EligibilityCourse c reads (.ok true)) (hr : rancherClusterFor c key = .error e) :
      CreationCourse c key reads (.error e)
  | refused {reads : List (Exchange W)} {rancher : RancherCluster}
      (h : EligibilityCourse c reads (.ok true)) (hr : rancherClusterFor c key = .ok rancher)
      (e : KubeError) :
      CreationCourse c key (reads ++ [⟨.createRancherCluster rancher, .error e⟩]) (.error (.kube e))
  | created {reads : List (Exchange W)} {rancher : RancherCluster}
      (h : EligibilityCourse c reads (.ok true)) (hr : rancherClusterFor c key = .ok rancher)
      (stored : RancherCluster) :
      CreationCourse c key (reads ++ [⟨.createRancherCluster rancher, .ok stored⟩])
        (.ok .immediately)

theorem creationCourse {c : CapiCluster} {key : ObjectKey} {trace : List (Exchange W)}
    {result : Except ControllerError Requeue} (h : Runs (createRancherCluster c key) trace result) :
    CreationCourse c key trace result := by
  rcases runs_seq.1 h with ⟨e, hd, rfl⟩ | ⟨reads, decided, rest, rfl, hd, hk⟩
  · exact .undecided (eligibilityCourse hd)
  · have hd := eligibilityCourse hd
    cases decided with
    | false =>
      obtain ⟨rfl, rfl⟩ := runs_pure.1 hk
      rw [List.append_nil]
      exact .ineligible hd
    | true =>
      simp only [Bool.not_true, Bool.false_eq_true, if_false] at hk
      have hk := runs_ofExcept_seq.1 hk
      cases hr : rancherClusterFor c key with
      | error e =>
        rw [hr] at hk
        obtain ⟨rfl, rfl⟩ := hk
        rw [List.append_nil]
        exact .anonymous hd hr
      | ok rancher =>
        rw [hr] at hk
        obtain ⟨first, x, rest, rfl, hx, hs⟩ := runs_answered_seq.1 hk
        obtain rfl := Proc.runs_ask.1 hx
        cases x with
        | error e =>
          obtain ⟨rfl, rfl⟩ := hs
          exact .refused hd hr e
        | ok stored =>
          have hs := runs_note_seq.1 hs
          obtain ⟨rfl, rfl⟩ := runs_pure.1 hs
          exact .created hd hr stored

/-- On the way only a namespace is read and a Rancher cluster is created. -/
theorem CreationCourse.call_eq {c : CapiCluster} {key : ObjectKey} {trace : List (Exchange W)}
    {result : Except ControllerError Requeue} (h : CreationCourse c key trace result) :
    ∀ x ∈ trace, (∃ ns, x.call = .getNamespace ns) ∨
      ∃ rancher, x.call = .createRancherCluster rancher := by
  have hreads {reads : List (Exchange W)} {decided : Except ControllerError Bool}
      (hr : EligibilityCourse c reads decided) : ∀ x ∈ reads,
      (∃ ns, x.call = .getNamespace ns) ∨ ∃ rancher, x.call = .createRancherCluster rancher := by
    cases hr <;> simp
  cases h with
  | undecided hr => exact hreads hr
  | ineligible hr => exact hreads hr
  | anonymous hr => exact hreads hr
  | refused hr =>
    simp only [List.forall_mem_append, List.forall_mem_singleton]
    exact ⟨hreads hr, .inr ⟨_, rfl⟩⟩
  | created hr =>
    simp only [List.forall_mem_append, List.forall_mem_singleton]
    exact ⟨hreads hr, .inr ⟨_, rfl⟩⟩

inductive ReconcileCourse (requeueAfter : Nat) (key : ObjectKey) :
    List (Exchange W) → Except ControllerError Requeue → Prop
  | unread (e : KubeError) :
      ReconcileCourse requeueAfter key [⟨.getCapiCluster key, .error e⟩] (.error (.kube e))
  | missing :
      ReconcileCourse requeueAfter key [⟨.getCapiCluster key, .ok none⟩] (.ok .immediately)
  | waiting {c : CapiCluster} (hc : c.isControlPlaneReady = false) :
      ReconcileCourse requeueAfter key [⟨.getCapiCluster key, .ok (some c)⟩]
        (.ok (.after requeueAfter))
  | homeless {c : CapiCluster} {e : ControllerError} (hc : c.isControlPlaneReady = true)
      (hk : rancherKey c = .error e) :
      ReconcileCourse requeueAfter key [⟨.getCapiCluster key, .ok (some c)⟩] (.error e)
  | rancherUnread {c : CapiCluster} {rk : ObjectKey} (hc : c.isControlPlaneReady = true)
      (hk : rancherKey c = .ok rk) (e : KubeError) :
      ReconcileCourse requeueAfter key
        [⟨.getCapiCluster key, .ok (some c)⟩, ⟨.getRancherCluster rk, .error e⟩] (.error (.kube e))
  | absent {c : CapiCluster} {rk : ObjectKey} {rest : List (Exchange W)}
      {result : Except ControllerError Requeue} (hc : c.isControlPlaneReady = true)
      (hk : rancherKey c = .ok rk) (h : CreationCourse c rk rest result) :
      ReconcileCourse requeueAfter key
        (⟨.getCapiCluster key, .ok (some c)⟩ :: ⟨.getRancherCluster rk, .ok none⟩ :: rest) result
  | marked {c : CapiCluster} {rk : ObjectKey} {rancher : RancherCluster}
      (hc : c.isControlPlaneReady = true) (hk : rancherKey c = .ok rk)
      (hd : rancher.isDeleting = true) (hm : c.isMarked = true) :
      ReconcileCourse requeueAfter key
        [⟨.getCapiCluster key, .ok (some c)⟩, ⟨.getRancherCluster rk, .ok (some rancher)⟩]
        (.ok .never)
  | marking {c : CapiCluster} {rk : ObjectKey} {rancher : RancherCluster}
      (hc : c.isControlPlaneReady = true) (hk : rancherKey c = .ok rk)
      (hd : rancher.isDeleting = true) (hm : c.isMarked = false) (x : Except KubeError Unit) :
      ReconcileCourse requeueAfter key
        [⟨.getCapiCluster key, .ok (some c)⟩, ⟨.getRancherCluster rk, .ok (some rancher)⟩,
          ⟨.patchCapiCluster key c.markPatch, x⟩] ((x.mapError .kube).map fun _ => .never)
  | present {c : CapiCluster} {rk : ObjectKey} {rancher : RancherCluster}
      {rest : List (Exchange W)} {result : Except ControllerError Requeue}
      (hc : c.isControlPlaneReady = true) (hk : rancherKey c = .ok rk)
      (hd : rancher.isDeleting = false) (h : RegisterCourse requeueAfter c rancher rest result) :
      ReconcileCourse requeueAfter key
        (⟨.getCapiCluster key, .ok (some c)⟩ :: ⟨.getRancherCluster rk, .ok (some rancher)⟩ :: rest)
        result

def conclude (key : ObjectKey) (before : CapiCluster)
    (moved : Except ControllerError (Requeue × CapiCluster)) : Import W Requeue := do
  let (requeue, after) := moved.toOption.getD (.never, before)
  let written ← ExceptT.lift (writeBack key before after).run
  match ControllerError.join (errorOf moved ++ errorOf written) with
  | some e => throw e
  | none => return requeue

/-- A cluster that has not changed is not written back. -/
theorem runs_conclude_unchanged {key : ObjectKey} {c : CapiCluster} {trace : List (Exchange W)}
    (result : Except ControllerError Requeue) {final : Except ControllerError Requeue}
    (h : Runs (conclude key c (result.map (·, c))) trace final) : trace = [] ∧ final = result := by
  have hw {after : CapiCluster} (ha : after = c) {t : List (Exchange W)}
      {w : Except ControllerError Unit} (hr : Runs (writeBack key c after) t w) :
      t = [] ∧ w = .ok () := by
    rw [ha, writeBack, clusterPatch_self] at hr
    exact runs_pure.1 hr
  cases result with
  | error e =>
    obtain ⟨first, w, rest, rfl, hf, hr⟩ := runs_lift_seq.1 h
    obtain ⟨rfl, rfl⟩ := hw rfl hf
    exact runs_throw.1 hr
  | ok requeue =>
    obtain ⟨first, w, rest, rfl, hf, hr⟩ := runs_lift_seq.1 h
    obtain ⟨rfl, rfl⟩ := hw rfl hf
    exact runs_pure.1 hr

theorem runs_conclude_marked {key : ObjectKey} {c : CapiCluster} {trace : List (Exchange W)}
    {final : Except ControllerError Requeue}
    (h : Runs (conclude key c (.ok (.never, c.marked))) trace final) :
    (c.isMarked = true ∧ trace = [] ∧ final = .ok .never) ∨
    (c.isMarked = false ∧ ∃ x : Except KubeError Unit,
      trace = [⟨.patchCapiCluster key c.markPatch, x⟩] ∧
        final = (x.mapError .kube).map fun _ => .never) := by
  obtain ⟨first, w, rest, rfl, hf, hr⟩ := runs_lift_seq.1 h
  have hf : Runs (writeBack key c c.marked) first w := hf
  rw [writeBack, clusterPatch_marked] at hf
  cases hm : c.isMarked with
  | true =>
    simp only [hm, if_true] at hf
    obtain ⟨rfl, rfl⟩ := runs_pure.1 hf
    exact .inl ⟨rfl, runs_pure.1 hr⟩
  | false =>
    simp only [hm, Bool.false_eq_true, if_false] at hf
    obtain ⟨x, hx, rfl⟩ := runs_answered.1 hf
    obtain rfl := Proc.runs_ask.1 hx
    cases x with
    | error e =>
      obtain ⟨rfl, rfl⟩ := runs_throw.1 hr
      exact .inr ⟨rfl, .error e, rfl, rfl⟩
    | ok _ =>
      obtain ⟨rfl, rfl⟩ := runs_pure.1 hr
      exact .inr ⟨rfl, .ok (), rfl, rfl⟩

theorem reconcileCourse {requeueAfter : Nat} {key : ObjectKey} {trace : List (Exchange W)}
    {result : Except ControllerError Requeue} (h : Runs (reconcile requeueAfter key) trace result) :
    ReconcileCourse requeueAfter key trace result := by
  obtain ⟨first, x, rest, rfl, hx, hk⟩ := runs_answered_seq.1 h
  obtain rfl := Proc.runs_ask.1 hx
  cases x with
  | error e =>
    obtain ⟨rfl, rfl⟩ := hk
    exact .unread e
  | ok found =>
    cases found with
    | none =>
      obtain ⟨rfl, rfl⟩ := runs_pure.1 hk
      exact .missing
    | some c =>
      dsimp only at hk
      cases hc : c.isControlPlaneReady with
      | false =>
        simp only [hc, Bool.not_false, if_true, runs_pure] at hk
        obtain ⟨rfl, rfl⟩ := hk
        exact .waiting hc
      | true =>
        simp only [hc, Bool.not_true, Bool.false_eq_true, if_false] at hk
        obtain ⟨steps, moved, rest, rfl, hm, hw⟩ := runs_lift_seq.1 hk
        have hw : Runs (conclude key c moved) rest result := hw
        have hm := runs_ofExcept_seq.1 hm
        cases hr : rancherKey c with
        | error e =>
          rw [hr] at hm
          obtain ⟨rfl, rfl⟩ := hm
          obtain ⟨rfl, rfl⟩ := runs_conclude_unchanged (.error e) hw
          exact .homeless hc hr
        | ok rk =>
          rw [hr] at hm
          obtain ⟨first, x, steps, rfl, hx, hs⟩ := runs_answered_seq.1 hm
          obtain rfl := Proc.runs_ask.1 hx
          cases x with
          | error e =>
            obtain ⟨rfl, rfl⟩ := hs
            obtain ⟨rfl, rfl⟩ := runs_conclude_unchanged (.error (.kube e)) hw
            exact .rancherUnread hc hr e
          | ok found =>
            cases found with
            | none =>
              obtain ⟨created, hcr, rfl⟩ := runs_map.1 hs
              obtain ⟨rfl, rfl⟩ := runs_conclude_unchanged created hw
              rw [List.append_nil]
              exact .absent hc hr (creationCourse hcr)
            | some rancher =>
              dsimp only at hs
              cases hd : rancher.isDeleting with
              | true =>
                simp only [hd, if_true] at hs
                obtain ⟨rfl, rfl⟩ := runs_pure.1 hs
                rcases runs_conclude_marked hw with ⟨hm, rfl, rfl⟩ | ⟨hm, x, rfl, rfl⟩
                · exact .marked hc hr hd hm
                · exact .marking hc hr hd hm x
              | false =>
                simp only [hd, Bool.false_eq_true, if_false] at hs
                obtain ⟨registered, hreg, rfl⟩ := runs_map.1 hs
                obtain ⟨rfl, rfl⟩ := runs_conclude_unchanged registered hw
                rw [List.append_nil]
                exact .present hc hr hd (registerCourse hreg)

end ClusterImport

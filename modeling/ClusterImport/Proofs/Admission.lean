import ClusterImport.Proofs.Reporting
import ClusterImport.Proofs.Routing
import ClusterImport.Proofs.StoreMemory
import ClusterImport.Proofs.ObjectCount
/-!
What the gate decides, and what it asks for that. Three tests look at the cluster alone; a cluster
that passes them is admitted on its own label or, if that does not say so, on the label of its
namespace, which is the only thing that is ever read. The reconcile asks anew whether the cluster is
ready and eligible and finds what the gate has found, as long as reads are answered alike: then the
Rancher cluster of an admitted cluster is created, if there is none.
-/
namespace ClusterImport

open Import Naming

variable {W σ : Type} {gate : Gate} {c : CapiCluster} {ns : String}

namespace CapiCluster

def HasReadyControlPlane (c : CapiCluster) : Prop :=
  ∃ s, c.status = some s ∧ (s.controlPlaneReady = true ∨
    ∃ d ∈ s.conditions, d.type = "ControlPlaneReady" ∧ d.status = "True")

theorem isControlPlaneReady_iff : c.isControlPlaneReady = true ↔ c.HasReadyControlPlane := by
  unfold isControlPlaneReady conditionIsTrue HasReadyControlPlane
  cases c.status <;> simp

theorem notImported_iff : Gate.notImported c = true ↔ ¬c.IsImported := by
  unfold Gate.notImported IsImported
  cases c.metadata.annotation? importedAnnotation <;> simp

end CapiCluster

namespace Gate

/-- The tests that look at the cluster alone. -/
structure Passes (gate : Gate) (c : CapiCluster) : Prop where
  filter : ∀ value, gate.watchFilter = some value →
    c.metadata.label? watchFilterLabel = some value
  unmarked : ¬c.IsImported
  ready : c.HasReadyControlPlane

theorem matchesFilter_iff : gate.matchesFilter c = true ↔
    ∀ value, gate.watchFilter = some value → c.metadata.label? watchFilterLabel = some value := by
  unfold matchesFilter
  cases gate.watchFilter <;> simp

theorem passes_iff : gate.Passes c ↔
    gate.matchesFilter c = true ∧ notImported c = true ∧ c.isControlPlaneReady = true := by
  rw [matchesFilter_iff, CapiCluster.notImported_iff, CapiCluster.isControlPlaneReady_iff]
  exact ⟨fun h => ⟨h.filter, h.unmarked, h.ready⟩, fun ⟨hf, hu, hr⟩ => ⟨hf, hu, hr⟩⟩

structure Asks (gate : Gate) (c : CapiCluster) (ns : String) : Prop where
  passes : gate.Passes c
  silent : ¬c.metadata.HasTruthyLabel
  home : c.metadata.inNamespace = some ns

theorem admits_of_passes (h : gate.Passes c) :
    (gate.admits c : Import W Bool) = shouldAutoImport c := by
  obtain ⟨hf, hi, hr⟩ := passes_iff.1 h
  simp only [admits, hf, hi, hr, Bool.not_true, Bool.false_eq_true, if_false]

theorem admits_of_not_passes (h : ¬gate.Passes c) :
    (gate.admits c : Import W Bool) = pure false := by
  rw [passes_iff] at h
  unfold admits
  cases hf : gate.matchesFilter c with
  | false => rfl
  | true =>
    cases hi : notImported c with
    | false => rfl
    | true =>
      cases hr : c.isControlPlaneReady with
      | false => rfl
      | true => exact absurd ⟨hf, hi, hr⟩ h

theorem admits_of_asks (h : gate.Asks c ns) :
    (gate.admits c : Import W Bool) =
      Import.getNamespace ns >>= fun found => pure (found.any (·.metadata.optsIn)) := by
  have ho : c.metadata.optsIn = false :=
    Bool.eq_false_iff.2 fun ho => h.silent (c.metadata.optsIn_iff.1 ho)
  rw [admits_of_passes h.passes, shouldAutoImport, ho, h.home]
  rfl

/-- Without the label of a namespace the decision is made at once. -/
theorem admits_of_not_asks (h : ∀ ns, ¬gate.Asks c ns) :
    ∃ decided, (gate.admits c : Import W Bool) = pure decided ∧
      (decided = true ↔ gate.Passes c ∧ c.metadata.HasTruthyLabel) := by
  by_cases hp : gate.Passes c
  · rw [admits_of_passes hp]
    cases ho : c.metadata.optsIn with
    | true =>
      refine ⟨true, by rw [shouldAutoImport, ho]; rfl, ?_⟩
      exact iff_of_true rfl ⟨hp, c.metadata.optsIn_iff.1 ho⟩
    | false =>
      have hs : ¬c.metadata.HasTruthyLabel := by
        rw [← c.metadata.optsIn_iff, ho]
        exact Bool.false_ne_true
      cases hn : c.metadata.inNamespace with
      | some ns => exact absurd ⟨hp, hs, hn⟩ (h ns)
      | none =>
        refine ⟨false, by rw [shouldAutoImport, ho, hn]; rfl, ?_⟩
        exact iff_of_false Bool.false_ne_true fun hd => hs hd.2
  · refine ⟨false, admits_of_not_passes hp, ?_⟩
    exact iff_of_false Bool.false_ne_true fun hd => hp hd.1

section Environment

variable (e : Environment W σ) (s : σ)

def verdict (gate : Gate) (c : CapiCluster) : Except ControllerError Bool :=
  ((gate.admits c : Import W Bool).run.run e s).1

def reads (gate : Gate) (c : CapiCluster) : List (Exchange W) :=
  (gate.admits c : Import W Bool).run.trace e s

variable {e s}

theorem verdict_of_asks (h : gate.Asks c ns) : gate.verdict e s c =
    ((e.answer (.getNamespace ns) s).1.mapError .kube).map (·.any (·.metadata.optsIn)) := by
  rw [verdict, admits_of_asks h]
  change (Proc.run e (ExceptT.bindCont _
    ((e.answer (.getNamespace ns) s).1.mapError ControllerError.kube)) _).1 = _
  cases (e.answer (.getNamespace ns) s).1 <;> rfl

theorem reads_of_asks (h : gate.Asks c ns) :
    gate.reads e s c = [⟨.getNamespace ns, (e.answer (.getNamespace ns) s).1⟩] := by
  rw [reads, admits_of_asks h]
  change _ :: Proc.trace e (ExceptT.bindCont _
    ((e.answer (.getNamespace ns) s).1.mapError ControllerError.kube)) _ = _
  cases (e.answer (.getNamespace ns) s).1 <;> rfl

theorem decided_of_not_asks (h : ∀ ns, ¬gate.Asks c ns) :
    gate.reads e s c = [] ∧ ∃ decided, gate.verdict e s c = .ok decided ∧
      (decided = true ↔ gate.Passes c ∧ c.metadata.HasTruthyLabel) := by
  obtain ⟨decided, hd, hiff⟩ := admits_of_not_asks (W := W) h
  refine ⟨by rw [reads, hd]; rfl, decided, by rw [verdict, hd]; rfl, hiff⟩

def Vouched (e : Environment W σ) (s : σ) (c : CapiCluster) : Prop :=
  ∃ ns n, c.metadata.inNamespace = some ns ∧ (e.answer (.getNamespace ns) s).1 = .ok (some n) ∧
    n.metadata.HasTruthyLabel

theorem verdict_eq_true_iff : gate.verdict e s c = .ok true ↔
    gate.Passes c ∧ (c.metadata.HasTruthyLabel ∨ Vouched e s c) := by
  by_cases h : ∃ ns, gate.Asks c ns
  · obtain ⟨ns, h⟩ := h
    rw [verdict_of_asks h, and_iff_right h.passes, or_iff_right h.silent]
    simp only [Vouched, h.home, Option.some.injEq, ← ObjectMeta.optsIn_iff]
    cases hx : (e.answer (.getNamespace ns) s).1 with
    | error cause => simp [Except.mapError, Except.map, hx]
    | ok found => cases found <;> simp [Except.mapError, Except.map, hx]
  · have h : ∀ ns, ¬gate.Asks c ns := not_exists.1 h
    obtain ⟨-, decided, hd, hiff⟩ := decided_of_not_asks (e := e) (s := s) h
    rw [hd, Except.ok.injEq, hiff]
    refine and_congr_right fun hp => ⟨.inl, fun ho => ho.elim id fun ⟨ns, _, hn, _⟩ => ?_⟩
    exact Classical.byContradiction fun hs => h ns ⟨hp, hs, hn⟩

theorem mem_reads_iff {x : Exchange W} : x ∈ gate.reads e s c ↔
    ∃ ns, gate.Asks c ns ∧ x = ⟨.getNamespace ns, (e.answer (.getNamespace ns) s).1⟩ := by
  by_cases h : ∃ ns, gate.Asks c ns
  · obtain ⟨ns, h⟩ := h
    rw [reads_of_asks h, List.mem_singleton]
    refine ⟨fun hx => ⟨ns, h, hx⟩, fun ⟨other, ho, hx⟩ => ?_⟩
    obtain rfl : other = ns := Option.some.inj (ho.home.symm.trans h.home)
    exact hx
  · obtain ⟨hnone, -⟩ := decided_of_not_asks (e := e) (s := s) (not_exists.1 h)
    rw [hnone]
    exact iff_of_false (List.not_mem_nil) fun ⟨ns, hn, _⟩ => h ⟨ns, hn⟩

theorem length_reads_le : (gate.reads e s c).length ≤ 1 := by
  by_cases h : ∃ ns, gate.Asks c ns
  · obtain ⟨ns, h⟩ := h
    rw [reads_of_asks h]
    exact Nat.le_refl 1
  · rw [(decided_of_not_asks (not_exists.1 h)).1]
    exact Nat.zero_le 1

theorem verdict_eq_error_iff {err : ControllerError} : gate.verdict e s c = .error err ↔
    ∃ ns cause, gate.Asks c ns ∧ (e.answer (.getNamespace ns) s).1 = .error cause ∧
      err = .kube cause := by
  by_cases h : ∃ ns, gate.Asks c ns
  · obtain ⟨ns, h⟩ := h
    rw [verdict_of_asks h]
    constructor
    · intro hv
      cases hx : (e.answer (.getNamespace ns) s).1 with
      | error cause =>
        rw [hx] at hv
        exact ⟨ns, cause, h, hx, (Except.error.inj hv).symm⟩
      | ok found =>
        rw [hx] at hv
        cases hv
    · rintro ⟨other, cause, ho, hx, rfl⟩
      obtain rfl : other = ns := Option.some.inj (ho.home.symm.trans h.home)
      rw [hx]
      rfl
  · obtain ⟨-, decided, hd, -⟩ := decided_of_not_asks (e := e) (s := s) (not_exists.1 h)
    rw [hd]
    exact iff_of_false nofun fun ⟨ns, _, hn, _⟩ => h ⟨ns, hn⟩

end Environment

end Gate

/-- Whatever is looked up is answered as it is in the state. -/
def Environment.Consistent (e : Environment W σ) (s : σ) (trace : List (Exchange W)) : Prop :=
  ∀ x ∈ trace, x.call.isLookup = true → x.answer = (e.answer x.call s).1

section Admitted

variable {e : Environment W σ} {s : σ} {uid : String} {requeueAfter : Nat}
  {trace : List (Exchange W)} (hv : gate.verdict e s c = .ok true)
  (hns : c.metadata.inNamespace = some ns) (hsame : e.Consistent s trace)
  (hcalm : ∀ x ∈ trace, x.failure? = none)
include hv hns hsame hcalm

/-- An admitted cluster is found to be eligible once more, by the same reads. -/
theorem EligibilityCourse.of_verdict {decided : Except ControllerError Bool}
    (h : EligibilityCourse c trace decided) :
    trace = gate.reads e s c ∧ decided = .ok true := by
  obtain ⟨hp, hgrounds⟩ := Gate.verdict_eq_true_iff.1 hv
  cases h with
  | own ho =>
    have hn (ns : String) (h : gate.Asks c ns) : False := h.silent (c.metadata.optsIn_iff.1 ho)
    exact ⟨(Gate.decided_of_not_asks hn).1.symm, rfl⟩
  | homeless _ hn => cases hn.symm.trans hns
  | unread _ _ cause => cases hcalm _ List.mem_cons_self
  | @read home ho hn found =>
    have hs : ¬c.metadata.HasTruthyLabel := by
      rw [← c.metadata.optsIn_iff, ho]
      exact Bool.false_ne_true
    have hfound : .ok found = (e.answer (.getNamespace home) s).1 :=
      hsame _ List.mem_cons_self rfl
    refine ⟨by rw [Gate.reads_of_asks ⟨hp, hs, hn⟩, hfound], ?_⟩
    obtain ⟨other, n, ho, hx, ht⟩ := hgrounds.resolve_left hs
    obtain rfl : other = home := Option.some.inj (ho.symm.trans hn)
    obtain rfl : found = some n := Except.ok.inj (hfound.trans hx)
    rw [Option.any_some, n.metadata.optsIn_iff.2 ht]

theorem CreationCourse.of_verdict (huid : c.metadata.uid = some uid)
    {result : Except ControllerError Requeue}
    (h : CreationCourse c ⟨ns, toRancher c.metadata.anyName⟩ trace result) :
    result = .ok .immediately ∧ ∃ stored, trace = gate.reads e s c ++
      [⟨.createRancherCluster (ownedCluster ns c.metadata.anyName uid), .ok stored⟩] := by
  have hrancher : rancherClusterFor c ⟨ns, toRancher c.metadata.anyName⟩ =
      .ok (ownedCluster ns c.metadata.anyName uid) := rancherClusterFor_of_uid huid
  cases h with
  | undecided h => cases (h.of_verdict hv hns hsame hcalm).2
  | ineligible h => cases (h.of_verdict hv hns hsame hcalm).2
  | anonymous _ hr => cases hr.symm.trans hrancher
  | refused _ _ cause => cases hcalm _ (List.mem_append_right _ List.mem_cons_self)
  | created h hr stored =>
    obtain rfl := Except.ok.inj (hr.symm.trans hrancher)
    obtain ⟨rfl, -⟩ := h.of_verdict hv hns (fun x hx => hsame x (List.mem_append_left _ hx))
      fun x hx => hcalm x (List.mem_append_left _ hx)
    exact ⟨rfl, stored, rfl⟩

theorem created_of_verdict (huid : c.metadata.uid = some uid)
    (hlive : (e.answer (.getCapiCluster c.metadata.key) s).1 = .ok (some c))
    (habsent : (e.answer (.getRancherCluster ⟨ns, toRancher c.metadata.anyName⟩) s).1 = .ok none)
    {result : Except ControllerError Requeue}
    (h : Runs (reconcile requeueAfter c.metadata.key) trace result) :
    result = .ok .immediately ∧ ∃ stored, trace =
      ⟨.getCapiCluster c.metadata.key, .ok (some c)⟩ ::
        ⟨.getRancherCluster ⟨ns, toRancher c.metadata.anyName⟩, .ok none⟩ ::
          (gate.reads e s c ++
            [⟨.createRancherCluster (ownedCluster ns c.metadata.anyName uid), .ok stored⟩]) := by
  obtain ⟨hp, -⟩ := Gate.verdict_eq_true_iff.1 hv
  have hready := CapiCluster.isControlPlaneReady_iff.2 hp.ready
  have hkey := rancherKey_of_home hns
  -- what is found at the two keys is what the state has there
  have hfound {found : Option CapiCluster}
      (hx : ⟨.getCapiCluster c.metadata.key, .ok found⟩ ∈ trace) : found = some c :=
    Except.ok.inj ((hsame _ hx rfl).trans hlive)
  have hnone {rk : ObjectKey} {found : Option RancherCluster} (hk : rancherKey c = .ok rk)
      (hx : ⟨.getRancherCluster rk, .ok found⟩ ∈ trace) : found = none := by
    obtain rfl := Except.ok.inj (hkey.symm.trans hk)
    exact Except.ok.inj ((hsame _ hx rfl).trans habsent)
  cases reconcileCourse h with
  | unread cause => cases hcalm _ List.mem_cons_self
  | missing => cases hfound List.mem_cons_self
  | waiting hc =>
    obtain rfl := Option.some.inj (hfound List.mem_cons_self)
    cases hc.symm.trans hready
  | homeless _ hk =>
    obtain rfl := Option.some.inj (hfound List.mem_cons_self)
    cases hk.symm.trans hkey
  | rancherUnread _ _ cause => cases hcalm _ (.tail _ List.mem_cons_self)
  | absent _ hk hcreate =>
    obtain rfl := Option.some.inj (hfound List.mem_cons_self)
    obtain rfl := Except.ok.inj (hk.symm.trans hkey)
    obtain ⟨rfl, stored, rfl⟩ := hcreate.of_verdict hv hns
      (fun x hx => hsame x (.tail _ (.tail _ hx))) (fun x hx => hcalm x (.tail _ (.tail _ hx))) huid
    exact ⟨rfl, stored, rfl⟩
  | marked _ hk =>
    obtain rfl := Option.some.inj (hfound List.mem_cons_self)
    cases hnone hk (.tail _ List.mem_cons_self)
  | marking _ hk =>
    obtain rfl := Option.some.inj (hfound List.mem_cons_self)
    cases hnone hk (.tail _ List.mem_cons_self)
  | present _ hk =>
    obtain rfl := Option.some.inj (hfound List.mem_cons_self)
    cases hnone hk (.tail _ List.mem_cons_self)

end Admitted

/-! In memory a reconcile looks up what is there at its start, as it writes nothing before. -/

def LookupsFirst (trace : List (Exchange W)) : Prop :=
  ∃ first rest, trace = first ++ rest ∧ (∀ x ∈ first, x.call.isLookup = true) ∧
    ∀ x ∈ rest, x.call.isLookup = false

theorem LookupsFirst.of_all {trace : List (Exchange W)}
    (h : ∀ x ∈ trace, x.call.isLookup = true) : LookupsFirst trace :=
  ⟨trace, [], (List.append_nil trace).symm, h, List.forall_mem_nil _⟩

theorem LookupsFirst.cons {x : Exchange W} {trace : List (Exchange W)}
    (h : LookupsFirst trace) (hx : x.call.isLookup = true) : LookupsFirst (x :: trace) := by
  obtain ⟨first, rest, rfl, hf, hr⟩ := h
  exact ⟨x :: first, rest, rfl, List.forall_mem_cons.2 ⟨hx, hf⟩, hr⟩

theorem LookupsFirst.of_none {trace : List (Exchange W)}
    (h : ∀ x ∈ trace, x.call.isLookup = false) : LookupsFirst trace :=
  ⟨[], trace, rfl, List.forall_mem_nil _, h⟩

theorem Call.not_isLookup_of_isRegistration {call : Call W} (h : call.isRegistration = true) :
    call.isLookup = false := by
  cases call <;> simp_all [isRegistration, isLookup]

theorem CreationCourse.lookupsFirst {rk : ObjectKey} {trace : List (Exchange W)}
    {result : Except ControllerError Requeue} (h : CreationCourse c rk trace result) :
    LookupsFirst trace := by
  have hlast {reads : List (Exchange W)} {decided : Except ControllerError Bool}
      (hd : EligibilityCourse c reads decided) (rancher : RancherCluster)
      (x : Except KubeError RancherCluster) :
      LookupsFirst (reads ++ [⟨.createRancherCluster rancher, x⟩]) :=
    ⟨reads, _, rfl, hd.lookups, List.forall_mem_singleton.2 rfl⟩
  cases h with
  | undecided h => exact .of_all h.lookups
  | ineligible h => exact .of_all h.lookups
  | anonymous h _ => exact .of_all h.lookups
  | refused h _ cause => exact hlast h _ (.error cause)
  | created h _ stored => exact hlast h _ (.ok stored)

theorem lookupsFirst_of_runs {requeueAfter : Nat} {key : ObjectKey} {trace : List (Exchange W)}
    {result : Except ControllerError Requeue} (h : Runs (reconcile requeueAfter key) trace result) :
    LookupsFirst trace := by
  cases reconcileCourse h with
  | absent _ _ hcreate => exact (hcreate.lookupsFirst.cons rfl).cons rfl
  | marking => exact (LookupsFirst.of_none (List.forall_mem_singleton.2 rfl)).cons rfl |>.cons rfl
  | present _ _ _ hregister =>
    have hrest := LookupsFirst.of_none fun x hx =>
      Call.not_isLookup_of_isRegistration (hregister.registration x hx)
    exact (hrest.cons rfl).cons rfl
  | _ => exact .of_all (by simp [Call.isLookup])

namespace InMemory

variable {α κ ω : Type} [DecidableEq κ] [DecidableEq ω] (clusters : InMemory σ κ ω)

/-- A lookup changes nothing that is held. -/
theorem memory_lookup {call : Call Unit} (h : call.isLookup = true) (s : σ) :
    clusters.memory (clusters.environment.answer call s).2 = clusters.memory s := by
  have hm := congrArg Prod.snd (clusters.memory_answer call s)
  refine hm.trans ?_
  unfold Regime.answer
  cases clusters.faults s call with
  | some e => rfl
  | none => cases call <;> first | rfl | cases h

theorem consistent_lookups (p : Proc Unit α) {s t : σ} {first rest : List (Exchange Unit)}
    (hm : clusters.memory t = clusters.memory s) (hf : clusters.faults t = clusters.faults s)
    (h : p.trace clusters.environment t = first ++ rest)
    (hfirst : ∀ x ∈ first, x.call.isLookup = true) :
    ∀ x ∈ first, x.answer = (clusters.environment.answer x.call s).1 := by
  induction p generalizing t first with
  | done a =>
    obtain ⟨rfl, -⟩ := List.append_eq_nil_iff.1 h.symm
    simp
  | call c next ih =>
    cases first with
    | nil => simp
    | cons x first =>
      obtain ⟨rfl, hrest⟩ := List.cons.inj h
      obtain ⟨hx, hfirst⟩ := List.forall_mem_cons.1 hfirst
      refine List.forall_mem_cons.2 ⟨?_, ih _ ?_ ?_ hrest hfirst⟩
      · have ht := congrArg Prod.fst (clusters.memory_answer c t)
        have hs := congrArg Prod.fst (clusters.memory_answer c s)
        rw [hm, hf] at ht
        exact ht.trans hs.symm
      · rw [clusters.memory_lookup hx, hm]
      · rw [clusters.faults_answer, hf]
  | record m next ih =>
    refine ih ?_ ?_ h hfirst
    · rw [clusters.memory_note, hm]
    · rw [clusters.faults_note, hf]

theorem consistent_reconcile (requeueAfter : Nat) (key : ObjectKey) (s : σ) :
    clusters.environment.Consistent s
      ((reconcile requeueAfter key : Import Unit Requeue).run.trace clusters.environment s) := by
  obtain ⟨first, rest, ht, hfirst, hrest⟩ :=
    lookupsFirst_of_runs (Proc.runs_trace clusters.environment (reconcile requeueAfter key).run s)
  intro x hx hlook
  rw [ht] at hx
  rcases List.mem_append.1 hx with hx | hx
  · exact clusters.consistent_lookups _ rfl rfl ht hfirst x hx
  · exact Bool.noConfusion ((hrest x hx).symm.trans hlook)

end InMemory

/-- The gate admits a cluster just if it passes the three tests and it or its namespace, as that is
answered, opts in. At most the namespace is read, just if nothing else decides, and the gate fails
just if that read does. An admitted cluster that is live, has a namespace and a uid and has no
Rancher cluster yet gets one by a reconcile that finds what the gate has found and in which no call
fails. -/
theorem gate_admits_importable (e : Environment W σ) (s : σ) (gate : Gate) (c : CapiCluster) :
    (gate.verdict e s c = .ok true ↔
      gate.Passes c ∧ (c.metadata.HasTruthyLabel ∨ Gate.Vouched e s c)) ∧
    (gate.reads e s c).length ≤ 1 ∧
    (∀ x, x ∈ gate.reads e s c ↔ ∃ ns, gate.Asks c ns ∧
      x = ⟨.getNamespace ns, (e.answer (.getNamespace ns) s).1⟩) ∧
    (∀ err, gate.verdict e s c = .error err ↔ ∃ ns cause,
      ⟨.getNamespace ns, .error cause⟩ ∈ gate.reads e s c ∧ err = .kube cause) ∧
    ∀ (requeueAfter : Nat) (ns uid : String) (t : σ), gate.verdict e s c = .ok true →
      c.metadata.inNamespace = some ns → c.metadata.uid = some uid →
      (e.answer (.getCapiCluster c.metadata.key) s).1 = .ok (some c) →
      (e.answer (.getRancherCluster ⟨ns, c.metadata.anyName ++ "-capi"⟩) s).1 = .ok none →
      e.Consistent s (e.episode requeueAfter c.metadata.key t).exchanges →
      (∀ x ∈ (e.episode requeueAfter c.metadata.key t).exchanges, x.failure? = none) →
        (e.episode requeueAfter c.metadata.key t).result = .ok .immediately ∧
        ∃ stored, (e.episode requeueAfter c.metadata.key t).exchanges =
          ⟨.getCapiCluster c.metadata.key, .ok (some c)⟩ ::
            ⟨.getRancherCluster ⟨ns, c.metadata.anyName ++ "-capi"⟩, .ok none⟩ ::
              (gate.reads e s c ++
                [⟨.createRancherCluster (ownedCluster ns c.metadata.anyName uid),
                  .ok stored⟩]) := by
  refine ⟨Gate.verdict_eq_true_iff, Gate.length_reads_le, fun x => Gate.mem_reads_iff,
    fun err => ?_, fun requeueAfter ns uid t hv hns huid hlive habsent hsame hcalm => ?_⟩
  · rw [Gate.verdict_eq_error_iff]
    refine exists_congr fun ns => exists_congr fun cause => ?_
    rw [← and_assoc]
    refine and_congr_left fun _ => ?_
    rw [Gate.mem_reads_iff]
    constructor
    · rintro ⟨hasks, hx⟩
      exact ⟨ns, hasks, by rw [hx]⟩
    · rintro ⟨other, hasks, hx⟩
      obtain ⟨hcall, hanswer⟩ := Exchange.mk.inj hx
      cases hcall
      exact ⟨hasks, (eq_of_heq hanswer).symm⟩
  · exact created_of_verdict hv hns hsame hcalm huid hlive habsent (Proc.runs_trace e _ t)

/-- Its own label says neither, and its namespace's is another word for true. -/
def coot : CapiCluster :=
  { ducks with metadata := {
      name := some "coot", inNamespace := some "pond", uid := some "u-2"
      labels := some (.ofList [(importLabel, "maybe"), (watchFilterLabel, "north")]) } }

theorem gate_admits_importable_pond :
    let pond : Namespace :=
      ⟨{ name := some "pond", labels := some (.single importLabel "T") }, none, none⟩
    let store : Store := { clusters := [("pond/coot", coot)], namespaces := [("pond", pond)] }
    let gate : Gate := ⟨some "north"⟩
    let episode := Store.environment.episode 30 coot.metadata.key store
    gate.verdict Store.environment store coot = .ok true ∧
      episode.result = .ok .immediately ∧ ∃ stored, episode.exchanges =
        [⟨.getCapiCluster ⟨"pond", "coot"⟩, .ok (some coot)⟩,
          ⟨.getRancherCluster ⟨"pond", "coot-capi"⟩, .ok none⟩,
          ⟨.getNamespace "pond", .ok (some pond)⟩,
          ⟨.createRancherCluster (ownedCluster "pond" "coot" "u-2"), .ok stored⟩] := by
  intro pond store gate episode
  obtain ⟨hiff, -, -, -, hcreated⟩ := gate_admits_importable Store.environment store gate coot
  have hpasses : gate.Passes coot := Gate.passes_iff.2 ⟨by decide, by decide, by decide⟩
  have hsilent : ¬coot.metadata.HasTruthyLabel := by
    rw [← ObjectMeta.optsIn_iff]
    decide
  have hasks : gate.Asks coot "pond" := ⟨hpasses, hsilent, rfl⟩
  have hopts : pond.metadata.HasTruthyLabel := (ObjectMeta.optsIn_iff _).1 (by decide)
  have hv := hiff.2 ⟨hpasses, .inr ⟨"pond", pond, rfl, rfl, hopts⟩⟩
  have hcalm : episode.exchanges.all (·.failure?.isNone) = true := by decide +kernel
  obtain ⟨hresult, stored, htrace⟩ := hcreated 30 "pond" "u-2" store hv rfl rfl rfl rfl
    (Store.inMemory.consistent_reconcile 30 coot.metadata.key store)
    fun x hx => Option.isNone_iff_eq_none.1 (List.all_eq_true.1 hcalm x hx)
  rw [Gate.reads_of_asks hasks] at htrace
  exact ⟨hv, hresult, stored, htrace⟩

end ClusterImport

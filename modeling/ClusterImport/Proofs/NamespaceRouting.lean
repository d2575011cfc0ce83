import ClusterImport.Proofs.Creation
import ClusterImport.Proofs.Traversal
import ClusterImport.Store
import ClusterImport.Watch
/-!
Where events of namespaces lead. A namespace that opts in leads to the CAPI clusters in it, in order
and as often as they are listed, and any other namespace leads nowhere. That is decided apart from
what a reconcile asks of a cluster, and the two agree: a cluster that does not opt in by itself is
eligible just if its namespace leads to it.
-/
namespace ClusterImport

def Namespace.residents (ns : Namespace) (clusters : List CapiCluster) : List CapiCluster :=
  clusters.filter fun c => c.metadata.inNamespace = some ns.metadata.anyName

theorem Namespace.mem_residents {ns : Namespace} {clusters : List CapiCluster} {c : CapiCluster} :
    c ∈ ns.residents clusters ↔
      c ∈ clusters ∧ c.metadata.inNamespace = some ns.metadata.anyName := by
  rw [residents, List.mem_filter, decide_eq_true_iff]

namespace ClusterRef

variable {ns : Namespace} {clusters : List CapiCluster} {refs : List ClusterRef}

structure Names (c : CapiCluster) (ref : ClusterRef) : Prop where
  inNamespace : ref.inNamespace = c.metadata.inNamespace
  name : c.metadata.name = some ref.name

theorem ofCapi_eq_some_iff {c : CapiCluster} {ref : ClusterRef} :
    ofCapi c = some ref ↔ Names c ref := by
  rw [ofCapi, Option.map_eq_some_iff]
  constructor
  · rintro ⟨name, hname, rfl⟩
    exact ⟨rfl, hname⟩
  · rintro ⟨hns, hname⟩
    exact ⟨ref.name, hname, by rw [← hns]⟩

theorem ofNamespace_of_not_optsIn (h : ns.metadata.optsIn = false) (clusters : List CapiCluster) :
    ofNamespace ns clusters = some [] := by
  rw [ofNamespace, h]
  rfl

theorem ofNamespace_of_optsIn (h : ns.metadata.optsIn = true) (clusters : List CapiCluster) :
    ofNamespace ns clusters = (ns.residents clusters).mapM ofCapi := by
  have hsame : clusters.filter (·.metadata.inNamespace == some ns.metadata.anyName) =
      ns.residents clusters := List.filter_congr fun c _ => beq_eq_decide _ _
  rw [ofNamespace, h, hsame]
  rfl

theorem ofNamespace_eq_some_iff (h : ns.metadata.optsIn = true) :
    ofNamespace ns clusters = some refs ↔ List.Forall₂ Names (ns.residents clusters) refs := by
  rw [ofNamespace_of_optsIn h, mapM_eq_some_iff]
  simp only [ofCapi_eq_some_iff]

theorem ofNamespace_eq_none_iff : ofNamespace ns clusters = none ↔
    ns.metadata.optsIn = true ∧ ∃ c ∈ ns.residents clusters, c.metadata.name = none := by
  cases h : ns.metadata.optsIn with
  | false => simp [ofNamespace_of_not_optsIn h]
  | true =>
    rw [ofNamespace_of_optsIn h, mapM_eq_none_iff]
    simp [ofCapi]

/-- A resident with a name is among what the namespace leads to just if the namespace opts in. -/
theorem mem_iff_optsIn {c : CapiCluster} {name : String}
    (hr : ofNamespace ns clusters = some refs) (hc : c ∈ ns.residents clusters)
    (hname : c.metadata.name = some name) :
    ⟨some ns.metadata.anyName, name⟩ ∈ refs ↔ ns.metadata.optsIn = true := by
  cases h : ns.metadata.optsIn with
  | false =>
    rw [ofNamespace_of_not_optsIn h, Option.some.injEq] at hr
    simp [← hr]
  | true =>
    have hall := (ofNamespace_eq_some_iff h).1 hr
    obtain ⟨ref, hmem, hnames⟩ := exists_mem_of_forall₂ hall hc
    obtain rfl : ref.name = name := Option.some.inj (hnames.name.symm.trans hname)
    have hns := hnames.inNamespace.trans (Namespace.mem_residents.1 hc).2
    simpa [← hns] using hmem

end ClusterRef

section Eligible

variable {W σ : Type} {e : Environment W σ} {s : σ} {ns : Namespace} {c : CapiCluster}

def eligibleIn (e : Environment W σ) (s : σ) (c : CapiCluster) : Except ControllerError Bool :=
  ((shouldAutoImport c : Import W Bool).run.run e s).1

def Environment.Shows (e : Environment W σ) (s : σ) (ns : Namespace) : Prop :=
  (e.answer (.getNamespace ns.metadata.anyName) s).1 = .ok (some ns)

theorem eligibleIn_of_optsIn (h : c.metadata.optsIn = true) : eligibleIn e s c = .ok true := by
  rw [eligibleIn, shouldAutoImport, h]
  rfl

theorem eligibleIn_of_shows (h : e.Shows s ns) (hc : c.metadata.optsIn = false)
    (hns : c.metadata.inNamespace = some ns.metadata.anyName) :
    eligibleIn e s c = .ok ns.metadata.optsIn := by
  rw [eligibleIn, shouldAutoImport, hc, hns]
  -- one call is made, and the decision is read off its answer
  change (Proc.run e (ExceptT.bindCont _
    ((e.answer (.getNamespace ns.metadata.anyName) s).1.mapError ControllerError.kube)) _).1 = _
  rw [h]
  rfl

theorem eligibleIn_of_namespace (h : e.Shows s ns)
    (hns : c.metadata.inNamespace = some ns.metadata.anyName) (ho : ns.metadata.optsIn = true) :
    eligibleIn e s c = .ok true := by
  cases hc : c.metadata.optsIn with
  | true => exact eligibleIn_of_optsIn hc
  | false => rw [eligibleIn_of_shows h hc hns, ho]

end Eligible

open ClusterRef

/-- A namespace leads to the clusters in it if it opts in, and there is no answer if one of them has
no name. Where the namespace can be read, each named cluster that it leads to is eligible, and of
those that do not opt in by themselves no other is. -/
theorem namespaceEvents_reach_eligible (ns : Namespace) (clusters : List CapiCluster) :
    (¬ns.metadata.HasTruthyLabel → ofNamespace ns clusters = some []) ∧
    (ns.metadata.HasTruthyLabel → ∀ refs, ofNamespace ns clusters = some refs ↔
      List.Forall₂ Names (ns.residents clusters) refs) ∧
    (ofNamespace ns clusters = none ↔
      ns.metadata.HasTruthyLabel ∧ ∃ c ∈ ns.residents clusters, c.metadata.name = none) ∧
    ∀ {W σ : Type} (e : Environment W σ) (s : σ), e.Shows s ns →
      ∀ c ∈ ns.residents clusters, ∀ name, c.metadata.name = some name →
        (ns.metadata.HasTruthyLabel → eligibleIn e s c = .ok true) ∧
        ∀ refs, ofNamespace ns clusters = some refs →
          (⟨some ns.metadata.anyName, name⟩ ∈ refs → eligibleIn e s c = .ok true) ∧
          (¬c.metadata.HasTruthyLabel →
            eligibleIn e s c = .ok (decide (⟨some ns.metadata.anyName, name⟩ ∈ refs))) := by
  simp only [← ObjectMeta.optsIn_iff, Bool.not_eq_true]
  refine ⟨fun h => ofNamespace_of_not_optsIn h clusters, fun h refs => ofNamespace_eq_some_iff h,
    ofNamespace_eq_none_iff, fun e s hs c hc name hname => ?_⟩
  have hns := (Namespace.mem_residents.1 hc).2
  refine ⟨eligibleIn_of_namespace hs hns, fun refs hr => ?_⟩
  have hmem := mem_iff_optsIn hr hc hname
  refine ⟨fun hin => eligibleIn_of_namespace hs hns (hmem.1 hin), fun ho => ?_⟩
  have hsame : ns.metadata.optsIn = decide (⟨some ns.metadata.anyName, name⟩ ∈ refs) :=
    Bool.eq_iff_iff.2 (hmem.symm.trans (decide_eq_true_iff).symm)
  rw [eligibleIn_of_shows hs ho hns, hsame]

def pondNamespace : Namespace where
  metadata := { name := some "pond", labels := some (.single importLabel "T") }
  spec := none
  status := none

/-- A cluster that opts out, which its namespace does not heed. -/
def geese : CapiCluster :=
  { ducks with metadata := {
      name := some "geese", inNamespace := some "pond"
      labels := some (.single importLabel "false") } }

/-- A cluster of another namespace stands between, and one is listed twice. -/
theorem namespaceEvents_reach_eligible_pond :
    let drakes : CapiCluster := { ducks with metadata := { inNamespace := some "lake" } }
    let clusters := [geese, drakes, ducks, geese]
    let refs : List ClusterRef := [⟨some "pond", "geese"⟩, ⟨some "pond", "ducks"⟩,
      ⟨some "pond", "geese"⟩]
    let store : Store := { namespaces := [("pond", pondNamespace)] }
    pondNamespace.metadata.HasTruthyLabel ∧ ofNamespace pondNamespace clusters = some refs ∧
      Store.environment.Shows store pondNamespace ∧
      geese ∈ pondNamespace.residents clusters ∧
      ¬geese.metadata.HasTruthyLabel ∧ eligibleIn Store.environment store geese = .ok true := by
  intro drakes clusters refs store
  obtain ⟨-, hrefs, -, hdecided⟩ := namespaceEvents_reach_eligible pondNamespace clusters
  have hpond : pondNamespace.metadata.HasTruthyLabel := (ObjectMeta.optsIn_iff _).1 (by decide)
  have hgeese : ¬geese.metadata.HasTruthyLabel := by
    rw [← ObjectMeta.optsIn_iff]
    decide
  have hr : ofNamespace pondNamespace clusters = some refs :=
    (hrefs hpond refs).2 (.cons ⟨rfl, rfl⟩ (.cons ⟨rfl, rfl⟩ (.cons ⟨rfl, rfl⟩ .nil)))
  have hmem : geese ∈ pondNamespace.residents clusters :=
    Namespace.mem_residents.2 ⟨by simp [clusters], rfl⟩
  obtain ⟨-, hfree⟩ := hdecided Store.environment store rfl geese hmem "geese" rfl
  refine ⟨hpond, hr, rfl, hmem, hgeese, ?_⟩
  exact (hfree refs hr).2 hgeese

end ClusterImport

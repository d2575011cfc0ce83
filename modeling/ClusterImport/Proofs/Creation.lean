import ClusterImport.Proofs.Course
/-!
When Rancher clusters are created. Calls may be answered in any way, also with objects that
contradict one another: a reconcile creates at most one Rancher cluster, for a CAPI cluster that it
has read to be ready, without a Rancher cluster and opted in, and it makes no other write then.
-/
namespace ClusterImport

open Import

variable {W : Type} {requeueAfter : Nat} {key : ObjectKey}

def ObjectMeta.HasTruthyLabel (m : ObjectMeta) : Prop :=
  ∃ value, m.label? importLabel = some value ∧ Flag.isTruthy value = true

theorem ObjectMeta.optsIn_iff (m : ObjectMeta) : m.optsIn = true ↔ m.HasTruthyLabel := by
  unfold optsIn HasTruthyLabel label? ImportLabel.read
  cases m.labels with
  | none => simp [OrderedDict.empty]
  | some d =>
    have hd : d.get? importLabel = Dict.get? importLabel d.entries := rfl
    cases hv : Dict.get? importLabel d.entries <;> simp [hd, hv]

namespace Call

/-- Whether the call reads an object of the management cluster other than a token. -/
def isLookup : Call W → Bool
  | .getCapiCluster _ | .getNamespace _ | .getRancherCluster _ => true
  | _ => false

def isCreation : Call W → Bool
  | .createRancherCluster _ => true
  | _ => false

theorem not_isCreation_of_isLookup {c : Call W} (h : c.isLookup = true) : c.isCreation = false := by
  cases c <;> simp_all [isLookup, isCreation]

theorem not_isCreation_of_isRegistration {c : Call W} (h : c.isRegistration = true) :
    c.isCreation = false := by
  cases c <;> simp_all [isRegistration, isCreation]

end Call

def ownedCluster (ns name uid : String) : RancherCluster where
  metadata := {
    name := some (name ++ "-capi")
    inNamespace := some ns
    ownerReferences := some [{
      apiVersion := "cluster.x-k8s.io/v1beta1", kind := "Cluster", name, uid
      blockOwnerDeletion := none, controller := none }]
    labels := some (.single "cluster-api.cattle.io/owned" "") }
  spec := { kubernetesVersion := none, rkeConfig := none }
  status := none

/-- What has been read of a CAPI cluster at the key before its Rancher cluster is created. -/
structure Grounds (key : ObjectKey) (reads : List (Exchange W)) (c : CapiCluster)
    (ns uid : String) : Prop where
  found : ⟨.getCapiCluster key, .ok (some c)⟩ ∈ reads
  ready : c.isControlPlaneReady = true
  home : c.metadata.inNamespace = some ns
  uid : c.metadata.uid = some uid
  absent : ⟨.getRancherCluster ⟨ns, c.metadata.anyName ++ "-capi"⟩, .ok none⟩ ∈ reads
  optedIn : c.metadata.HasTruthyLabel ∨
    ∃ n : Namespace, ⟨.getNamespace ns, .ok (some n)⟩ ∈ reads ∧ n.metadata.HasTruthyLabel

/-- A course in which a Rancher cluster is created at most once, on grounds, and by itself. -/
structure CreatesSafely (key : ObjectKey) (trace : List (Exchange W)) : Prop where
  grounds : ∀ before rancher x after,
    trace = before ++ ⟨.createRancherCluster rancher, x⟩ :: after →
      ∃ c ns uid, Grounds key before c ns uid ∧ rancher = ownedCluster ns c.metadata.anyName uid
  atMostOnce : trace.countP (·.call.isCreation) ≤ 1
  alone : (∃ x ∈ trace, x.call.isCreation = true) →
    ∀ x ∈ trace, x.call.isCreation = true ∨ x.call.isLookup = true

theorem rancherKey_ok {c : CapiCluster} {rk : ObjectKey} (h : rancherKey c = .ok rk) :
    ∃ ns, c.metadata.inNamespace = some ns ∧ rk = ⟨ns, c.metadata.anyName ++ "-capi"⟩ := by
  unfold rancherKey at h
  cases hn : c.metadata.inNamespace with
  | none => simp [hn] at h
  | some ns =>
    simp only [hn, Except.ok.injEq] at h
    exact ⟨ns, rfl, h.symm⟩

theorem rancherClusterFor_ok {c : CapiCluster} {ns : String} {rancher : RancherCluster}
    (h : rancherClusterFor c ⟨ns, c.metadata.anyName ++ "-capi"⟩ = .ok rancher) :
    ∃ uid, c.metadata.uid = some uid ∧ rancher = ownedCluster ns c.metadata.anyName uid := by
  unfold rancherClusterFor at h
  cases hu : c.metadata.uid with
  | none => simp [hu] at h
  | some uid =>
    simp only [hu, Except.ok.injEq] at h
    exact ⟨uid, rfl, h.symm⟩

/-- Eligibility is decided by lookups. -/
theorem EligibilityCourse.lookups {c : CapiCluster} {reads : List (Exchange W)}
    {result : Except ControllerError Bool} (h : EligibilityCourse c reads result) :
    ∀ x ∈ reads, x.call.isLookup = true := by
  cases h <;> simp [Call.isLookup]

/-- So is everything that is asked before a create. -/
theorem EligibilityCourse.all_lookups {c : CapiCluster} {rk : ObjectKey}
    {reads : List (Exchange W)} {result : Except ControllerError Bool}
    (h : EligibilityCourse c reads result) :
    ∀ x ∈ ⟨.getCapiCluster key, .ok (some c)⟩ :: ⟨.getRancherCluster rk, .ok none⟩ :: reads,
      x.call.isLookup = true := by
  simpa [Call.isLookup] using h.lookups

theorem EligibilityCourse.optedIn {c : CapiCluster} {ns : String} {reads : List (Exchange W)}
    (h : EligibilityCourse c reads (.ok true)) (hn : c.metadata.inNamespace = some ns) :
    c.metadata.HasTruthyLabel ∨
      ∃ n : Namespace, ⟨.getNamespace ns, .ok (some n)⟩ ∈ reads ∧ n.metadata.HasTruthyLabel := by
  generalize hr : Except.ok true = result at h
  cases h with
  | own ho => exact .inl (c.metadata.optsIn_iff.1 ho)
  | homeless => simp at hr
  | unread => simp at hr
  | read ho hn' found =>
    obtain rfl : _ = ns := Option.some.inj (hn'.symm.trans hn)
    cases found with
    | none => simp at hr
    | some n =>
      have ht : n.metadata.optsIn = true := by simpa using hr.symm
      exact .inr ⟨n, by simp, n.metadata.optsIn_iff.1 ht⟩

/-- Without a create there is nothing to show. -/
theorem CreatesSafely.of_none {trace : List (Exchange W)}
    (h : ∀ x ∈ trace, x.call.isCreation = false) : CreatesSafely key trace where
  grounds before rancher x after ht := by
    have := h ⟨.createRancherCluster rancher, x⟩ (by simp [ht])
    simp [Call.isCreation] at this
  atMostOnce := by
    rw [List.countP_eq_zero.2 fun x hx => by simp [h x hx]]
    exact Nat.zero_le 1
  alone := by
    rintro ⟨x, hx, hc⟩
    simp [h x hx] at hc

/-- An element that has a property comes after all that do not have it. -/
theorem split_past {α : Type} {P : α → Prop} {first rest before after : List α} {x : α}
    (hf : ∀ y ∈ first, ¬P y) (hx : P x) (h : first ++ rest = before ++ x :: after) :
    ∃ more, before = first ++ more ∧ rest = more ++ x :: after := by
  rcases List.append_eq_append_iff.1 h with ⟨more, rfl, hr⟩ | ⟨more, rfl, hr⟩
  · exact ⟨more, rfl, hr⟩
  · cases more with
    | nil => exact ⟨[], by simp, hr.symm⟩
    | cons y more =>
      obtain ⟨rfl, -⟩ := List.cons.inj hr
      exact absurd hx (hf x (by simp))

/-- Where only the last element can have a property, one that has it is the last. -/
theorem split_last {α : Type} {P : α → Prop} {first before after : List α} {x y : α}
    (hf : ∀ z ∈ first, ¬P z) (hx : P x) (h : first ++ [y] = before ++ x :: after) :
    before = first ∧ x = y ∧ after = [] := by
  obtain ⟨more, rfl, hm⟩ := split_past hf hx h
  cases more with
  | nil =>
    obtain ⟨rfl, rfl⟩ := List.cons.inj hm
    exact ⟨List.append_nil _, rfl, rfl⟩
  | cons z more => simp at hm

theorem not_isCreation_of_lookups {reads : List (Exchange W)}
    (hl : ∀ y ∈ reads, y.call.isLookup = true) : ∀ y ∈ reads, ¬y.call.isCreation = true := by
  intro y hy
  rw [Call.not_isCreation_of_isLookup (hl y hy)]
  exact Bool.false_ne_true

/-- One create at the end, after lookups that give grounds for it. -/
theorem CreatesSafely.of_last {reads : List (Exchange W)} {c : CapiCluster} {ns uid : String}
    (hl : ∀ x ∈ reads, x.call.isLookup = true) (hg : Grounds key reads c ns uid)
    (x : Except KubeError RancherCluster) :
    CreatesSafely key (reads ++
      [⟨.createRancherCluster (ownedCluster ns c.metadata.anyName uid), x⟩]) where
  grounds before rancher y after ht := by
    obtain ⟨rfl, he, -⟩ := split_last (not_isCreation_of_lookups hl) rfl ht
    cases he
    exact ⟨c, ns, uid, hg, rfl⟩
  atMostOnce := by
    have hz : reads.countP (·.call.isCreation) = 0 :=
      List.countP_eq_zero.2 (not_isCreation_of_lookups hl)
    rw [List.countP_append, hz]
    exact Nat.le_refl 1
  alone _ y hy := by
    rcases List.mem_append.1 hy with hy | hy
    · exact .inr (hl y hy)
    · obtain rfl := List.mem_singleton.1 hy
      exact .inl rfl

theorem CreationCourse.createsSafely {c : CapiCluster} {rk : ObjectKey} {rest : List (Exchange W)}
    {result : Except ControllerError Requeue} (hc : c.isControlPlaneReady = true)
    (hk : rancherKey c = .ok rk) (h : CreationCourse c rk rest result) :
    CreatesSafely key
      (⟨.getCapiCluster key, .ok (some c)⟩ :: ⟨.getRancherCluster rk, .ok none⟩ :: rest) := by
  have hnone {reads : List (Exchange W)} {decided : Except ControllerError Bool}
      (hr : EligibilityCourse c reads decided) : CreatesSafely key
        (⟨.getCapiCluster key, .ok (some c)⟩ :: ⟨.getRancherCluster rk, .ok none⟩ :: reads) :=
    .of_none fun x hx => Call.not_isCreation_of_isLookup (hr.all_lookups x hx)
  have hlast {reads : List (Exchange W)} {rancher : RancherCluster}
      (hr : EligibilityCourse c reads (.ok true)) (hf : rancherClusterFor c rk = .ok rancher)
      (x : Except KubeError RancherCluster) : CreatesSafely key
        (⟨.getCapiCluster key, .ok (some c)⟩ :: ⟨.getRancherCluster rk, .ok none⟩ ::
          (reads ++ [⟨.createRancherCluster rancher, x⟩])) := by
    obtain ⟨ns, hn, rfl⟩ := rancherKey_ok hk
    obtain ⟨uid, hu, rfl⟩ := rancherClusterFor_ok hf
    refine .of_last hr.all_lookups ⟨by simp, hc, hn, hu, by simp, ?_⟩ x
    rcases hr.optedIn hn with ho | ⟨n, hm, ho⟩
    · exact .inl ho
    · exact .inr ⟨n, by simp [hm], ho⟩
  cases h with
  | undecided hr => exact hnone hr
  | ineligible hr => exact hnone hr
  | anonymous hr => exact hnone hr
  | refused hr hf e => exact hlast hr hf (.error e)
  | created hr hf stored => exact hlast hr hf (.ok stored)

/-- What one reconcile preserves. -/
theorem createsSafely_of_runs {trace : List (Exchange W)} {result : Except ControllerError Requeue}
    (h : Runs (reconcile requeueAfter key) trace result) : CreatesSafely key trace := by
  cases reconcileCourse h with
  | absent hc hk hr => exact hr.createsSafely hc hk
  | present hc hk hd hr =>
    refine .of_none fun x hx => ?_
    rcases List.mem_cons.1 hx with rfl | hx
    · rfl
    rcases List.mem_cons.1 hx with rfl | hx
    · rfl
    exact Call.not_isCreation_of_isRegistration (hr.registration x hx)
  | _ => exact .of_none (by simp [Call.isCreation])

structure Episode (W : Type) where
  key : ObjectKey
  exchanges : List (Exchange W)
  result : Except ControllerError Requeue

inductive Reconciles (requeueAfter : Nat) : List (Episode W) → Prop
  | nil : Reconciles requeueAfter []
  | next {past : List (Episode W)} {episode : Episode W} (h : Reconciles requeueAfter past)
      (run : Runs (reconcile requeueAfter episode.key) episode.exchanges episode.result) :
      Reconciles requeueAfter (past ++ [episode])

theorem Reconciles.runs {episodes : List (Episode W)} (h : Reconciles requeueAfter episodes) :
    ∀ e ∈ episodes, Runs (reconcile requeueAfter e.key) e.exchanges e.result := by
  induction h with
  | nil => simp
  | next _ run ih =>
    intro e he
    rcases List.mem_append.1 he with he | he
    · exact ih e he
    · obtain rfl := List.mem_singleton.1 he
      exact run

theorem createsSafely_of_reconciles {episodes : List (Episode W)}
    (h : Reconciles requeueAfter episodes) :
    ∀ e ∈ episodes, CreatesSafely e.key e.exchanges :=
  fun e he => createsSafely_of_runs (h.runs e he)

def ducks : CapiCluster where
  metadata := {
    name := some "ducks", inNamespace := some "pond", uid := some "u-1"
    labels := some (.single importLabel "true") }
  spec := {}
  status := some {
    phase := none, infrastructureReady := true, controlPlaneReady := true, conditions := []
    observedGeneration := none }

def ducksImported : Episode Unit where
  key := ⟨"pond", "ducks"⟩
  exchanges := [⟨.getCapiCluster ⟨"pond", "ducks"⟩, .ok (some ducks)⟩,
    ⟨.getRancherCluster ⟨"pond", "ducks-capi"⟩, .ok none⟩,
    ⟨.createRancherCluster (ownedCluster "pond" "ducks" "u-1"),
      .ok (ownedCluster "pond" "ducks" "u-1")⟩]
  result := .ok .immediately

theorem runs_ducksImported :
    Runs (reconcile 30 ducksImported.key) ducksImported.exchanges ducksImported.result := by
  refine .call (c := .getCapiCluster ⟨"pond", "ducks"⟩) (Except.ok (some ducks)) ?_
  refine .call (c := .getRancherCluster ⟨"pond", "ducks-capi"⟩) (Except.ok none) ?_
  refine .call (c := .createRancherCluster (ownedCluster "pond" "ducks" "u-1"))
    (Except.ok (ownedCluster "pond" "ducks" "u-1")) ?_
  exact .record (.done _)

theorem createsSafely_ducksImported :
    Reconciles 30 [ducksImported, ducksImported] ∧
      ∀ e ∈ [ducksImported, ducksImported], CreatesSafely e.key e.exchanges :=
  have h : Reconciles 30 [ducksImported, ducksImported] :=
    .next (.next .nil runs_ducksImported) runs_ducksImported
  ⟨h, createsSafely_of_reconciles h⟩

end ClusterImport

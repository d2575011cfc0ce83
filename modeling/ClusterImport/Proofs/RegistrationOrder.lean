import ClusterImport.Proofs.Reporting
import ClusterImport.Proofs.Table
/-!
In what order an agent is registered. Calls may be answered in any way: nothing of a registration is
asked before the two clusters have been read and call for one, and every call of it is warranted by
answers in front of it. A token comes before the manifest, the manifest before the workload cluster,
and objects are created last and only if all of that has been had.
-/
namespace ClusterImport

open Import Manifest

variable {α W : Type} {requeueAfter : Nat} {key : ObjectKey}

namespace Call

def isTokenCreation : Call W → Bool
  | .createRegistrationToken _ => true
  | _ => false

def isFetch : Call W → Bool
  | .fetchManifest _ => true
  | _ => false

def isClientRequest : Call W → Bool
  | .workloadClient _ => true
  | _ => false

def isObjectCreation : Call W → Bool
  | .createObject _ _ => true
  | _ => false

end Call

/-- The token that has been read or, where there was none, created. -/
def Obtained (past : List (Exchange W)) (name ns : String) (token : RegistrationToken) : Prop :=
  ⟨.getRegistrationToken ⟨ns, name⟩, .ok (some token)⟩ ∈ past ∨
    ⟨.getRegistrationToken ⟨ns, name⟩, .ok none⟩ ∈ past ∧
      ⟨.createRegistrationToken (tokenFor name ns), .ok token⟩ ∈ past

/-- What must have been answered before a call for the agent of a cluster in a namespace, whose
management cluster has a name. No other calls are warranted. -/
def Warranted (c : CapiCluster) (ns name : String) (past : List (Exchange W)) : Call W → Prop
  | .getRegistrationToken target => target = ⟨ns, name⟩
  | .createRegistrationToken token =>
    token = {
        metadata := { name := some name, inNamespace := some ns }
        clusterName := name
        status := none } ∧
      ⟨.getRegistrationToken ⟨ns, name⟩, .ok none⟩ ∈ past ∧
      ∀ x ∈ past, x.call.isTokenCreation = false
  | .fetchManifest url =>
    url ≠ "" ∧ (∃ token status, Obtained past name ns token ∧ token.status = some status ∧
      status.manifestUrl = url) ∧ ∀ x ∈ past, x.call.isFetch = false
  | .workloadClient cluster =>
    cluster = c ∧ (∃ url text, ⟨.fetchManifest url, .ok text⟩ ∈ past) ∧
      ∀ x ∈ past, x.call.isClientRequest = false
  | .createObject client o =>
    ⟨.workloadClient c, .ok client⟩ ∈ past ∧
      ∃ url text, ⟨.fetchManifest url, .ok text⟩ ∈ past ∧
        o ∈ (contents text.toByteArray.toList).1
  | _ => False

def Each (P : List α → α → Prop) : List α → List α → Prop
  | _, [] => True
  | past, x :: rest => P past x ∧ Each P (past ++ [x]) rest

theorem each_append {P : List α → α → Prop} {past first second : List α} :
    Each P past (first ++ second) ↔ Each P past first ∧ Each P (past ++ first) second := by
  induction first generalizing past with
  | nil => simp [Each]
  | cons x first ih => simp [Each, ih, and_assoc]

theorem Each.at {P : List α → α → Prop} {past before after : List α} {x : α}
    (h : Each P past (before ++ x :: after)) : P (past ++ before) x :=
  (each_append.1 h).2.1

structure InOrder (c : CapiCluster) (ns name : String) (steps : List (Exchange W)) : Prop where
  warranted : ∀ past x after, steps = past ++ x :: after → Warranted c ns name past x.call
  /-- If anything fails in front of the creates of objects, there are none. -/
  halted : (∃ x ∈ steps, x.call.isObjectCreation = false ∧ x.failure?.isSome = true) →
    ∀ x ∈ steps, x.call.isObjectCreation = false

inductive RegistersSafely (key : ObjectKey) : List (Exchange W) → Prop
  | silent {trace : List (Exchange W)} (h : ∀ x ∈ trace, x.call.isRegistration = false) :
      RegistersSafely key trace
  | called {c : CapiCluster} {ns : String} {rancher : RancherCluster}
      {status : RancherClusterStatus} {steps : List (Exchange W)}
      (ready : c.isControlPlaneReady = true) (home : c.metadata.inNamespace = some ns)
      (staying : rancher.metadata.deletionTimestamp = none)
      (reported : rancher.status = some status)
      (named : status.clusterName ≠ "") (awaited : status.agentDeployed = false)
      (order : InOrder c ns status.clusterName steps) :
      RegistersSafely key (⟨.getCapiCluster key, .ok (some c)⟩ ::
        ⟨.getRancherCluster ⟨ns, c.metadata.anyName ++ "-capi"⟩, .ok (some rancher)⟩ :: steps)

theorem filter_not_isEmpty {o : Option String} {s : String}
    (h : o.filter (!·.isEmpty) = some s) : o = some s ∧ s ≠ "" := by
  obtain ⟨ho, hs⟩ := Option.filter_eq_some_iff.1 h
  refine ⟨ho, ?_⟩
  rintro rfl
  cases hs

theorem RegistrationToken.status_of_manifestUrl? {token : RegistrationToken} {url : String}
    (h : token.manifestUrl? = some url) :
    url ≠ "" ∧ ∃ status, token.status = some status ∧ status.manifestUrl = url := by
  obtain ⟨hs, hu⟩ := filter_not_isEmpty h
  exact ⟨hu, Option.map_eq_some_iff.1 hs⟩

theorem RancherCluster.status_of_managementName? {rancher : RancherCluster} {name : String}
    (h : rancher.managementName? = some name) :
    name ≠ "" ∧ ∃ status, rancher.status = some status ∧ status.clusterName = name := by
  obtain ⟨hs, hn⟩ := filter_not_isEmpty h
  exact ⟨hn, Option.map_eq_some_iff.1 hs⟩

section

variable {c : CapiCluster} {name ns : String} {steps past : List (Exchange W)}

/-- A token is read first, and created only if there is none. -/
theorem TokenCourse.warranted {got : Except ControllerError RegistrationToken}
    (h : TokenCourse name ns steps got) :
    Each (fun past x => Warranted c ns name past x.call) [] steps := by
  cases h with
  | unread => exact ⟨rfl, trivial⟩
  | found => exact ⟨rfl, trivial⟩
  | missing => exact ⟨rfl, ⟨rfl, by simp, by simp [Call.isTokenCreation]⟩, trivial⟩

theorem TokenCourse.obtained {token : RegistrationToken}
    (h : TokenCourse name ns steps (.ok token)) : Obtained steps name ns token := by
  generalize hr : (.ok token : Except ControllerError RegistrationToken) = got at h
  cases h with
  | unread => cases hr
  | found =>
    cases hr
    exact .inl (by simp)
  | missing x =>
    cases x with
    | error => cases hr
    | ok =>
      cases hr
      exact .inr (by simp)

theorem TokenCourse.tokens {got : Except ControllerError RegistrationToken}
    (h : TokenCourse name ns steps got) :
    ∀ x ∈ steps, x.call.isFetch = false ∧ x.call.isClientRequest = false ∧
      x.call.isObjectCreation = false := by
  cases h <;> simp [Call.isFetch, Call.isClientRequest, Call.isObjectCreation]

theorem TokenCourse.calm {token : RegistrationToken} (h : TokenCourse name ns steps (.ok token)) :
    ∀ x ∈ steps, x.failure? = none := by
  generalize hr : (.ok token : Except ControllerError RegistrationToken) = got at h
  cases h with
  | unread => cases hr
  | found => simp [Exchange.failure?]
  | missing x =>
    cases x with
    | error => cases hr
    | ok => simp [Exchange.failure?]

/-- The manifest is fetched once there is a token with an address. -/
theorem ManifestCourse.warranted {found : Except ControllerError (Option String)}
    (h : ManifestCourse name ns steps found) :
    Each (fun past x => Warranted c ns name past x.call) [] steps := by
  cases h with
  | tokenless h => exact h.warranted
  | unpublished h => exact h.warranted
  | @fetched first token url h hu x =>
    obtain ⟨hne, status, hs, hurl⟩ := RegistrationToken.status_of_manifestUrl? hu
    have hfirst : ∀ x ∈ first, x.call.isFetch = false := fun x hx => (h.tokens x hx).1
    exact each_append.2
      ⟨h.warranted, ⟨hne, ⟨token, status, h.obtained, hs, hurl⟩, hfirst⟩, trivial⟩

theorem ManifestCourse.fetches {found : Except ControllerError (Option String)}
    (h : ManifestCourse name ns steps found) :
    ∀ x ∈ steps, x.call.isClientRequest = false ∧ x.call.isObjectCreation = false := by
  cases h with
  | tokenless h => exact fun x hx => (h.tokens x hx).2
  | unpublished h => exact fun x hx => (h.tokens x hx).2
  | fetched h =>
    simp only [List.forall_mem_append, List.forall_mem_singleton]
    exact ⟨fun x hx => (h.tokens x hx).2, rfl, rfl⟩

theorem ManifestCourse.calm {found : Option String} (h : ManifestCourse name ns steps (.ok found)) :
    ∀ x ∈ steps, x.failure? = none := by
  generalize hr : (.ok found : Except ControllerError (Option String)) = result at h
  cases h with
  | tokenless => cases hr
  | unpublished h => exact h.calm
  | fetched h _ x =>
    cases x with
    | error => cases hr
    | ok =>
      simp only [List.forall_mem_append, List.forall_mem_singleton]
      exact ⟨h.calm, rfl⟩

/-- Objects of a manifest are created with the client that is there. -/
theorem each_createObject {client : W} {url text : String} {creates : List (Exchange W)}
    (h : ∀ x ∈ creates, ∃ o ∈ (contents text.toByteArray.toList).1, x.call = .createObject client o)
    (hc : ⟨.workloadClient c, .ok client⟩ ∈ past) (hf : ⟨.fetchManifest url, .ok text⟩ ∈ past) :
    Each (fun past x => Warranted c ns name past x.call) past creates := by
  induction creates generalizing past with
  | nil => trivial
  | cons x creates ih =>
    obtain ⟨⟨o, ho, hx⟩, hrest⟩ := List.forall_mem_cons.1 h
    refine ⟨?_, ih hrest (by simp [hc]) (by simp [hf])⟩
    dsimp only
    rw [hx]
    exact ⟨hc, url, text, hf, ho⟩

theorem InOrder.nil : InOrder (W := W) c ns name [] where
  warranted past x after h := by simp at h
  halted _ := by simp

/-- Steps without a create of an object. -/
theorem InOrder.of_each (h : Each (fun past x => Warranted c ns name past x.call) [] steps)
    (hn : ∀ x ∈ steps, x.call.isObjectCreation = false) : InOrder c ns name steps where
  warranted past x after he := by
    subst he
    exact h.at
  halted _ := hn

/-- Steps that have got as far as the client, and the creates. -/
theorem InOrder.of_applied {client : W} {text : String} {creates : List (Exchange W)}
    (h : ManifestCourse name ns steps (.ok (some text)))
    (hc : ∀ x ∈ creates, ∃ o ∈ (contents text.toByteArray.toList).1,
      x.call = .createObject client o) :
    InOrder c ns name (steps ++ ⟨.workloadClient c, .ok client⟩ :: creates) where
  warranted past x after he := by
    obtain ⟨url, hf⟩ := h.fetch_mem
    have hclient : ∀ x ∈ steps, x.call.isClientRequest = false := fun x hx => (h.fetches x hx).1
    have hcreates : Each (fun past x => Warranted c ns name past x.call)
        (steps ++ [⟨.workloadClient c, .ok client⟩]) creates :=
      each_createObject hc (by simp) (List.mem_append_left _ hf)
    have hall : Each (fun past x => Warranted c ns name past x.call) []
        (steps ++ ⟨.workloadClient c, .ok client⟩ :: creates) :=
      each_append.2 ⟨h.warranted, ⟨rfl, ⟨url, text, hf⟩, hclient⟩, hcreates⟩
    rw [he] at hall
    exact hall.at
  halted := by
    rintro ⟨x, hx, hn, hfailed⟩
    rcases List.mem_append.1 hx with hx | hx
    · simp [h.calm x hx] at hfailed
    rcases List.mem_cons.1 hx with rfl | hx
    · simp [Exchange.failure?] at hfailed
    · obtain ⟨o, -, ho⟩ := hc x hx
      simp [ho, Call.isObjectCreation] at hn

theorem RegisterCourse.order {rancher : RancherCluster} {result : Except ControllerError Requeue}
    (hn : c.metadata.inNamespace = some ns)
    (h : RegisterCourse requeueAfter c rancher steps result) :
    steps = [] ∨ ∃ status, rancher.status = some status ∧ status.clusterName ≠ "" ∧
      status.agentDeployed = false ∧ InOrder c ns status.clusterName steps := by
  have hns : c.metadata.inNamespace.getD "" = ns := by rw [hn, Option.getD_some]
  have hawaited {name : String} (hname : rancher.managementName? = some name)
      (hd : rancher.agentDeployed = false) (ho : InOrder c ns name steps) :
      ∃ status, rancher.status = some status ∧ status.clusterName ≠ "" ∧
        status.agentDeployed = false ∧ InOrder c ns status.clusterName steps := by
    obtain ⟨hne, status, hs, rfl⟩ := RancherCluster.status_of_managementName? hname
    refine ⟨status, hs, hne, ?_, ho⟩
    rwa [RancherCluster.agentDeployed, hs] at hd
  cases h with
  | unnamed => exact .inl rfl
  | deployed => exact .inl rfl
  | unfetched hname hd hm =>
    rw [hns] at hm
    exact .inr (hawaited hname hd (.of_each hm.warranted fun x hx => (hm.fetches x hx).2))
  | unpublished hname hd hm =>
    rw [hns] at hm
    exact .inr (hawaited hname hd (.of_each hm.warranted fun x hx => (hm.fetches x hx).2))
  | unreachable hname hd hm e =>
    rw [hns] at hm
    refine .inr (hawaited hname hd (.of_each ?_ ?_))
    · obtain ⟨url, hf⟩ := hm.fetch_mem
      exact each_append.2 ⟨hm.warranted,
        ⟨rfl, ⟨url, _, hf⟩, fun x hx => (hm.fetches x hx).1⟩, trivial⟩
    · simp only [List.forall_mem_append, List.forall_mem_singleton]
      exact ⟨fun x hx => (hm.fetches x hx).2, rfl⟩
  | applied hname hd hm ha =>
    rw [hns] at hm
    exact .inr (hawaited hname hd (.of_applied hm ha.creates))

end

/-- Without a Rancher cluster there is nothing to register. -/
theorem CreationCourse.not_registration {c : CapiCluster} {rk : ObjectKey}
    {steps : List (Exchange W)} {result : Except ControllerError Requeue}
    (h : CreationCourse c rk steps result) : ∀ x ∈ steps, x.call.isRegistration = false := by
  intro x hx
  rcases h.call_eq x hx with ⟨ns, hc⟩ | ⟨rancher, hc⟩ <;> simp [hc, Call.isRegistration]

/-- What one reconcile preserves. -/
theorem registersSafely_of_runs {trace : List (Exchange W)}
    {result : Except ControllerError Requeue}
    (h : Runs (reconcile requeueAfter key) trace result) : RegistersSafely key trace := by
  cases reconcileCourse h with
  | @present c rk rancher steps _ hc hk hd hr =>
    obtain ⟨ns, hn, rfl⟩ := rancherKey_ok hk
    rcases hr.order hn with rfl | ⟨status, hs, hne, hawaited, ho⟩
    · exact .silent (by simp [Call.isRegistration])
    · have hstays : rancher.metadata.deletionTimestamp = none := by
        simpa [RancherCluster.isDeleting, ObjectMeta.isDeleting] using hd
      exact .called hc hn hstays hs hne hawaited ho
  | absent _ _ hcr =>
    refine .silent ?_
    simp only [List.forall_mem_cons]
    exact ⟨rfl, rfl, hcr.not_registration⟩
  | _ => exact .silent (by simp [Call.isRegistration])

theorem registersSafely_of_reconciles {episodes : List (Episode W)}
    (h : Reconciles requeueAfter episodes) :
    ∀ e ∈ episodes, RegistersSafely e.key e.exchanges :=
  fun e he => registersSafely_of_runs (h.runs e he)

def ducksOn (s : Store) : Episode Unit where
  key := ⟨"pond", "ducks"⟩
  exchanges := (reconcile 30 ⟨"pond", "ducks"⟩).run.trace Store.environment s
  result := (s.run (reconcile 30 ⟨"pond", "ducks"⟩)).1

def ducksRegistered : List (Episode Unit) := [ducksOn { Store.pond with tokens := [] },
  ducksOn Store.pond]

theorem registersSafely_ducksRegistered :
    Reconciles 30 ducksRegistered ∧
      ducksRegistered.map (fun e => (e.exchanges.any (·.call.isTokenCreation),
        e.exchanges.any (·.call.isObjectCreation))) = [(true, false), (false, true)] ∧
      ∀ e ∈ ducksRegistered, RegistersSafely e.key e.exchanges := by
  have hruns (s : Store) :
      Runs (reconcile 30 (ducksOn s).key) (ducksOn s).exchanges (ducksOn s).result :=
    Proc.runs_trace Store.environment (reconcile 30 ⟨"pond", "ducks"⟩).run s
  have h : Reconciles 30 ducksRegistered := .next (.next .nil (hruns _)) (hruns _)
  exact ⟨h, by decide +kernel, registersSafely_of_reconciles h⟩

end ClusterImport

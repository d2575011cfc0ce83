import ClusterImport.Proofs.Application
import ClusterImport.Reconcile
/-!
The courses that the registration of an agent can take: the token first, then the manifest at the
address that it publishes, then the workload cluster. An address that is not published yet ends the
course, and nothing is asked of the workload cluster before the manifest is there.
-/
namespace ClusterImport

open Import

variable {W : Type}

def Call.isRegistration : Call W → Bool
  | .getRegistrationToken _ | .createRegistrationToken _ | .fetchManifest _ | .workloadClient _
  | .createObject _ _ => true
  | _ => false

inductive TokenCourse (name ns : String) :
    List (Exchange W) → Except ControllerError RegistrationToken → Prop
  | unread (e : KubeError) :
      TokenCourse name ns [⟨.getRegistrationToken ⟨ns, name⟩, .error e⟩] (.error (.kube e))
  | found (token : RegistrationToken) :
      TokenCourse name ns [⟨.getRegistrationToken ⟨ns, name⟩, .ok (some token)⟩] (.ok token)
  | missing (x : Except KubeError RegistrationToken) :
      TokenCourse name ns [⟨.getRegistrationToken ⟨ns, name⟩, .ok none⟩,
        ⟨.createRegistrationToken (tokenFor name ns), x⟩] (x.mapError .kube)

inductive ManifestCourse (name ns : String) :
    List (Exchange W) → Except ControllerError (Option String) → Prop
  | tokenless {steps : List (Exchange W)} {e : ControllerError}
      (h : TokenCourse name ns steps (.error e)) : ManifestCourse name ns steps (.error e)
  | unpublished {steps : List (Exchange W)} {token : RegistrationToken}
      (h : TokenCourse name ns steps (.ok token)) (hu : token.manifestUrl? = none) :
      ManifestCourse name ns steps (.ok none)
  | fetched {steps : List (Exchange W)} {token : RegistrationToken} {url : String}
      (h : TokenCourse name ns steps (.ok token)) (hu : token.manifestUrl? = some url)
      (x : Except FetchError String) :
      ManifestCourse name ns (steps ++ [⟨.fetchManifest url, x⟩]) ((x.mapError .fetch).map some)

def fetchPublished (token : RegistrationToken) : Import W (Option String) :=
  match token.manifestUrl? with
  | none => pure none
  | some url => do return some (← fetchManifest url)

theorem manifestCourse {name ns : String} {trace : List (Exchange W)}
    {result : Except ControllerError (Option String)}
    (h : Runs (registrationManifest name ns) trace result) :
    ManifestCourse name ns trace result := by
  have hfetch {steps later : List (Exchange W)} {token : RegistrationToken}
      (ht : TokenCourse name ns steps (.ok token))
      (hk : Runs (fetchPublished token) later result) :
      ManifestCourse name ns (steps ++ later) result := by
    unfold fetchPublished at hk
    cases hu : token.manifestUrl? with
    | none =>
      rw [hu] at hk
      obtain ⟨rfl, rfl⟩ := runs_pure.1 hk
      rw [List.append_nil]
      exact .unpublished ht hu
    | some url =>
      rw [hu] at hk
      obtain ⟨fetched, hf, rfl⟩ := runs_map.1 hk
      obtain ⟨x, hx, rfl⟩ := runs_answered.1 hf
      obtain rfl := Proc.runs_ask.1 hx
      exact .fetched ht hu x
  obtain ⟨first, x, later, rfl, hx, hk⟩ := runs_answered_seq.1 h
  obtain rfl := Proc.runs_ask.1 hx
  cases x with
  | error e =>
    obtain ⟨rfl, rfl⟩ := hk
    exact .tokenless (.unread e)
  | ok found =>
    cases found with
    | some token => exact hfetch (.found token) hk
    | none =>
      obtain ⟨second, x, last, rfl, hx, hs⟩ := runs_answered_seq.1 hk
      obtain rfl := Proc.runs_ask.1 hx
      cases x with
      | error e =>
        obtain ⟨rfl, rfl⟩ := hs
        exact .tokenless (.missing (.error e))
      | ok token =>
        have hm : ManifestCourse name ns ([_, _] ++ last) result :=
          hfetch (.missing (.ok token)) hs
        exact hm

theorem ManifestCourse.fetch_mem {name ns text : String} {steps : List (Exchange W)}
    (h : ManifestCourse name ns steps (.ok (some text))) :
    ∃ url, ⟨.fetchManifest url, .ok text⟩ ∈ steps := by
  generalize hr : (.ok (some text) : Except ControllerError (Option String)) = found at h
  cases h with
  | tokenless => cases hr
  | unpublished => cases hr
  | @fetched _ _ url _ _ x =>
    cases x with
    | error => cases hr
    | ok fetched =>
      cases hr
      exact ⟨url, by simp⟩

inductive RegisterCourse (requeueAfter : Nat) (c : CapiCluster) (rancher : RancherCluster) :
    List (Exchange W) → Except ControllerError Requeue → Prop
  | unnamed (hn : rancher.managementName? = none) :
      RegisterCourse requeueAfter c rancher [] (.ok (.after requeueAfter))
  | deployed {name : String} (hn : rancher.managementName? = some name)
      (hd : rancher.agentDeployed = true) : RegisterCourse requeueAfter c rancher [] (.ok .never)
  | unfetched {name : String} {steps : List (Exchange W)} {e : ControllerError}
      (hn : rancher.managementName? = some name) (hd : rancher.agentDeployed = false)
      (h : ManifestCourse name (c.metadata.inNamespace.getD "") steps (.error e)) :
      RegisterCourse requeueAfter c rancher steps (.error e)
  | unpublished {name : String} {steps : List (Exchange W)}
      (hn : rancher.managementName? = some name) (hd : rancher.agentDeployed = false)
      (h : ManifestCourse name (c.metadata.inNamespace.getD "") steps (.ok none)) :
      RegisterCourse requeueAfter c rancher steps (.ok (.after requeueAfter))
  | unreachable {name manifest : String} {steps : List (Exchange W)}
      (hn : rancher.managementName? = some name) (hd : rancher.agentDeployed = false)
      (h : ManifestCourse name (c.metadata.inNamespace.getD "") steps (.ok (some manifest)))
      (e : ControllerError) :
      RegisterCourse requeueAfter c rancher (steps ++ [⟨.workloadClient c, .error e⟩]) (.error e)
  | applied {name manifest : String} {steps creates : List (Exchange W)} {client : W}
      {outcome : Except ControllerError ApplyOutcome}
      (hn : rancher.managementName? = some name) (hd : rancher.agentDeployed = false)
      (h : ManifestCourse name (c.metadata.inNamespace.getD "") steps (.ok (some manifest)))
      (ha : Manifest.ApplyCourse client (Manifest.contents manifest.toByteArray.toList).1
        (Manifest.contents manifest.toByteArray.toList).2 {} creates outcome) :
      RegisterCourse requeueAfter c rancher (steps ++ ⟨.workloadClient c, .ok client⟩ :: creates)
        (outcome.map fun _ => .never)

theorem registerCourse {requeueAfter : Nat} {c : CapiCluster} {rancher : RancherCluster}
    {trace : List (Exchange W)} {result : Except ControllerError Requeue}
    (h : Runs (register requeueAfter c rancher) trace result) :
    RegisterCourse requeueAfter c rancher trace result := by
  unfold register at h
  cases hn : rancher.managementName? with
  | none =>
    simp only [hn, runs_pure] at h
    obtain ⟨rfl, rfl⟩ := h
    exact .unnamed hn
  | some name =>
    simp only [hn] at h
    cases hd : rancher.agentDeployed with
    | true =>
      simp only [hd, if_true, runs_pure] at h
      obtain ⟨rfl, rfl⟩ := h
      exact .deployed hn hd
    | false =>
      simp only [hd, Bool.false_eq_true, if_false] at h
      rcases runs_seq.1 h with ⟨e, hm, rfl⟩ | ⟨steps, found, later, rfl, hm, hk⟩
      · exact .unfetched hn hd (manifestCourse hm)
      · have hm := manifestCourse hm
        cases found with
        | none =>
          obtain ⟨rfl, rfl⟩ := runs_pure.1 hk
          rw [List.append_nil]
          exact .unpublished hn hd hm
        | some manifest =>
          obtain ⟨first, x, last, rfl, hx, hs⟩ := runs_answered_seq.1 hk
          obtain rfl := Proc.runs_ask.1 hx
          cases x with
          | error e =>
            obtain ⟨rfl, rfl⟩ := hs
            exact .unreachable hn hd hm e
          | ok client =>
            rcases runs_seq.1 hs with ⟨e, ha, rfl⟩ | ⟨creates, outcome, rest, rfl, ha, hr⟩
            · exact .applied hn hd hm (Manifest.applyCourse_apply ha)
            · have hr := runs_note_seq.1 hr
              obtain ⟨rfl, rfl⟩ := runs_pure.1 hr
              rw [List.append_nil]
              exact .applied hn hd hm (Manifest.applyCourse_apply ha)

theorem TokenCourse.registration {name ns : String} {trace : List (Exchange W)}
    {result : Except ControllerError RegistrationToken} (h : TokenCourse name ns trace result) :
    ∀ x ∈ trace, x.call.isRegistration = true := by
  cases h <;> simp [Call.isRegistration]

theorem ManifestCourse.registration {name ns : String} {trace : List (Exchange W)}
    {result : Except ControllerError (Option String)} (h : ManifestCourse name ns trace result) :
    ∀ x ∈ trace, x.call.isRegistration = true := by
  cases h with
  | tokenless h => exact h.registration
  | unpublished h => exact h.registration
  | fetched h =>
    simp only [List.forall_mem_append, List.forall_mem_singleton]
    exact ⟨h.registration, rfl⟩

theorem Manifest.ApplyCourse.registration {client : W} {objects : List Manifest.Object}
    {fault : Option ManifestError} {outcome : ApplyOutcome} {trace : List (Exchange W)}
    {result : Except ControllerError ApplyOutcome}
    (h : Manifest.ApplyCourse client objects fault outcome trace result) :
    ∀ x ∈ trace, x.call.isRegistration = true := by
  have he (answers : Manifest.Answers) :
      ∀ x ∈ answers.exchanges client, x.call.isRegistration = true := by
    intro x hx
    obtain ⟨p, -, rfl⟩ := List.mem_map.1 hx
    rfl
  cases h with
  | refused =>
    simp only [List.forall_mem_append, List.forall_mem_singleton]
    exact ⟨he _, rfl⟩
  | faulty => exact he _
  | applied => exact he _

/-- The registration of an agent does nothing else. -/
theorem RegisterCourse.registration {requeueAfter : Nat} {c : CapiCluster}
    {rancher : RancherCluster} {trace : List (Exchange W)}
    {result : Except ControllerError Requeue}
    (h : RegisterCourse requeueAfter c rancher trace result) :
    ∀ x ∈ trace, x.call.isRegistration = true := by
  cases h with
  | unnamed => simp
  | deployed => simp
  | unfetched _ _ h => exact h.registration
  | unpublished _ _ h => exact h.registration
  | unreachable _ _ h =>
    simp only [List.forall_mem_append, List.forall_mem_singleton]
    exact ⟨h.registration, rfl⟩
  | applied _ _ h ha =>
    simp only [List.forall_mem_append, List.forall_mem_cons]
    exact ⟨h.registration, rfl, ha.registration⟩

end ClusterImport

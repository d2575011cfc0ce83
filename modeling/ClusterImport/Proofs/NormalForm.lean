import ClusterImport.Proofs.WrittenBack
/-!
The normal form of the resource types. What is written of an object has only members that its type
knows, none of them null, none empty that is left out where it is, and the times of its metadata in
whole seconds. It is read back as an object that is written alike, and of which all that the import
asks is answered as of the first one.
-/
namespace ClusterImport

open Json Decode Encode

abbrev Form := Json → Prop

namespace Form

def given : Form := (· ≠ null)

def filled (form : Form) : Form := fun v => v ≠ .str "" ∧ v ≠ .arr [] ∧ form v

def wholeSecond : Form := fun v => ∃ t, timestamp v = some t ∧ t.nanos % 1000000000 = 0

def texts : Form := fun v => ∃ d : OrderedDict String, v = Encode.dict .str d.entries

def items (form : Form) : Form := fun v => ∃ l, v = .arr l ∧ ∀ w ∈ l, form w

def Each (forms : Dict Form) (ms : Dict Json) : Prop :=
  ∀ p ∈ ms, ∃ form ∈ Dict.get? p.1 forms, form p.2

def members (forms : Dict Form) : Form := fun v => ∃ ms, v = .obj ms ∧ Each forms ms

variable {α : Type} {forms : Dict Form} {form : Form} {key : String}

@[simp] theorem each_nil : Each forms [] := List.forall_mem_nil _

@[simp] theorem each_cons {v : Json} {ms : Dict Json} : Each forms ((key, v) :: ms) ↔
    (∃ form ∈ Dict.get? key forms, form v) ∧ Each forms ms :=
  List.forall_mem_cons

@[simp] theorem each_append {first second : Dict Json} :
    Each forms (first ++ second) ↔ Each forms first ∧ Each forms second :=
  List.forall_mem_append

@[simp] theorem each_present {write : α → Json} {o : Option α} :
    Each forms (present key write o) ↔
      ∀ a ∈ o, ∃ form ∈ Dict.get? key forms, form (write a) := by
  cases o <;> simp [present]

theorem each_nonEmpty {s : String} (h : Dict.get? key forms = some (filled given)) :
    Each forms (nonEmpty key s) := by
  unfold nonEmpty
  split
  · exact each_nil
  · rename_i hs
    refine each_cons.2 ⟨⟨_, h, fun he => hs ?_, by simp, by simp [given]⟩, each_nil⟩
    rw [Json.str.inj he]
    rfl

theorem each_nonEmptyList {write : α → Json} {l : List α}
    (h : Dict.get? key forms = some (filled (items form))) (hl : ∀ a ∈ l, form (write a)) :
    Each forms (nonEmptyList key write l) := by
  unfold nonEmptyList
  split
  · exact each_nil
  · rename_i hne
    refine each_cons.2 ⟨⟨_, h, by simp, fun he => hne ?_, _, rfl, List.forall_mem_map.2 hl⟩,
      each_nil⟩
    rw [List.map_eq_nil_iff.1 (Json.arr.inj he)]
    rfl

theorem texts_dict (d : OrderedDict String) : texts (Encode.dict .str d.entries) := ⟨d, rfl⟩

theorem items_list {d : Decoder α} {write : α → Json} {v : Json} {l : List α}
    (hl : Decode.list d v = some l) (h : ∀ w a, d w = some a → form (write a)) :
    items form (Encode.list write l) := by
  refine ⟨_, rfl, List.forall_mem_map.2 fun a ha => ?_⟩
  obtain ⟨item, hitem⟩ := Codec.mem_of_list hl ha
  exact h item a hitem

/-- An optional member that has been read is written in the form of what is read. -/
theorem of_maybe {d : Decoder α} {raw : Dict Json} {o : Option α} {write : α → Json}
    (ho : maybe d key raw = some o) (h : ∀ v a, d v = some a → form (write a)) :
    ∀ a ∈ o, form (write a) := by
  intro a ha
  rcases maybe_eq_some ho with ⟨rfl, -⟩ | ⟨v, b, rfl, -, -, hb⟩
  · cases ha
  · exact h v a (Option.some.inj ha ▸ hb)

theorem wholeSecond_time (v : Json) (t : Timestamp) (h : timestamp v = some t) :
    wholeSecond (.str t.renderSeconds) :=
  ⟨t.cut, Timestamp.ofText?_renderSeconds_cut (Rereads.valid_of_timestamp h),
    Nat.mul_mod_left _ _⟩

end Form

namespace OwnerReference

def form : Form := .members [("apiVersion", .given), ("blockOwnerDeletion", .given),
  ("controller", .given), ("kind", .given), ("name", .given), ("uid", .given)]

theorem form_encode (r : OwnerReference) : form r.encode := by
  refine ⟨_, rfl, ?_⟩
  simp [Dict.get?, Form.given]

end OwnerReference

namespace ManagedFields

def form : Form := .members [("apiVersion", .given), ("fieldsType", .given),
  ("fieldsV1", .given), ("manager", .given), ("operation", .given), ("subresource", .given),
  ("time", .wholeSecond)]

theorem form_encode {v : Json} {f : ManagedFields} (h : decode v = some f) : form f.encode := by
  obtain ⟨raw, -, -, -, hfields, -, -, -, htime⟩ := decode_eq_some.1 h
  have hgiven := ne_null_of_maybe_any hfields
  have htimes := Form.of_maybe htime Form.wholeSecond_time
  refine ⟨_, rfl, ?_⟩
  simpa [Dict.get?, Form.given] using ⟨hgiven, htimes⟩

end ManagedFields

namespace ObjectMeta

def form : Form := .members [("annotations", .texts), ("creationTimestamp", .wholeSecond),
  ("deletionGracePeriodSeconds", .given), ("deletionTimestamp", .wholeSecond),
  ("finalizers", .items .given), ("generateName", .given), ("generation", .given),
  ("labels", .texts), ("managedFields", .items ManagedFields.form), ("name", .given),
  ("namespace", .given), ("ownerReferences", .items OwnerReference.form),
  ("resourceVersion", .given), ("selfLink", .given), ("uid", .given)]

theorem form_encode {v : Json} {m : ObjectMeta} (h : decode v = some m) : form m.encode := by
  obtain ⟨raw, -, -, hcreation, -, hdeletion, hfinalizers, -, -, -, hmanaged, -, -, howners, -⟩ :=
    decode_eq_some.1 h
  have hcreations := Form.of_maybe hcreation Form.wholeSecond_time
  have hdeletions := Form.of_maybe hdeletion Form.wholeSecond_time
  have hfinalizer : ∀ l ∈ m.finalizers, Form.items .given (.strings l) :=
    Form.of_maybe hfinalizers fun _ _ hl => Form.items_list hl fun _ _ _ => by simp [Form.given]
  have hmanager : ∀ l ∈ m.managedFields,
      Form.items ManagedFields.form (Encode.list ManagedFields.encode l) :=
    Form.of_maybe hmanaged fun _ _ hl => Form.items_list hl fun _ _ => ManagedFields.form_encode
  have howner : ∀ l ∈ m.ownerReferences,
      Form.items OwnerReference.form (Encode.list OwnerReference.encode l) :=
    Form.of_maybe howners fun _ _ hl => Form.items_list hl fun _ r _ => r.form_encode
  refine ⟨_, rfl, ?_⟩
  simpa [Dict.get?, Form.given, Form.texts_dict, int] using
    ⟨hcreations, hdeletions, hfinalizer, hmanager, howner⟩

end ObjectMeta

namespace ApiEndpoint

def form : Form := .members [("host", .given), ("port", .given)]

theorem form_encode (e : ApiEndpoint) : form e.encode := by
  refine ⟨_, rfl, ?_⟩
  simp [Dict.get?, Form.given, int]

end ApiEndpoint

namespace ObjectReference

def form : Form := .members [("apiVersion", .given), ("kind", .given), ("name", .given),
  ("namespace", .given)]

theorem form_encode (r : ObjectReference) : form r.encode := by
  refine ⟨_, rfl, ?_⟩
  simp [Dict.get?, Form.given]

end ObjectReference

namespace CapiClusterSpec

def form : Form := .members [("controlPlaneEndpoint", ApiEndpoint.form),
  ("controlPlaneRef", ObjectReference.form), ("infrastructureRef", ObjectReference.form),
  ("paused", .given)]

theorem form_encode (s : CapiClusterSpec) : form s.encode := by
  refine ⟨_, rfl, ?_⟩
  simp [Dict.get?, Form.given, ApiEndpoint.form_encode, ObjectReference.form_encode]

end CapiClusterSpec

namespace Condition

def form : Form := .members [("lastTransitionTime", .given), ("message", .given),
  ("reason", .given), ("severity", .given), ("status", .given), ("type", .given)]

theorem form_encode (c : Condition) : form c.encode := by
  refine ⟨_, rfl, ?_⟩
  simp [Dict.get?, Form.given]

end Condition

namespace CapiClusterStatus

def form : Form := .members [("conditions", .filled (.items Condition.form)),
  ("controlPlaneReady", .given), ("infrastructureReady", .given), ("observedGeneration", .given),
  ("phase", .given)]

theorem form_encode (s : CapiClusterStatus) : form s.encode := by
  refine ⟨_, rfl, ?_⟩
  simp only [Form.each_append]
  refine ⟨⟨⟨Form.each_nonEmptyList rfl fun c _ => c.form_encode, ?_⟩, ?_⟩, ?_⟩ <;>
  simp [Dict.get?, Form.given, int]

end CapiClusterStatus

namespace RancherClusterSpec

def form : Form := .members [("kubernetesVersion", .given), ("rkeConfig", .given)]

theorem form_encode {v : Json} {s : RancherClusterSpec} (h : decode v = some s) :
    form s.encode := by
  obtain ⟨raw, -, -, hconfig⟩ := decode_eq_some.1 h
  refine ⟨_, rfl, ?_⟩
  simpa [Dict.get?, Form.given] using ne_null_of_maybe_any hconfig

end RancherClusterSpec

namespace RancherClusterStatus

def form : Form := .members [("agentDeployed", .given), ("clusterName", .filled .given),
  ("ready", .given)]

theorem form_encode (s : RancherClusterStatus) : form s.encode := by
  refine ⟨_, rfl, ?_⟩
  simp only [Form.each_append]
  refine ⟨⟨?_, Form.each_nonEmpty rfl⟩, ?_⟩ <;>
  simp [Dict.get?, Form.given]

end RancherClusterStatus

namespace RegistrationTokenStatus

def form : Form := .members [("command", .filled .given), ("insecureCommand", .filled .given),
  ("manifestUrl", .filled .given), ("token", .filled .given)]

theorem form_encode (s : RegistrationTokenStatus) : form s.encode := by
  refine ⟨_, rfl, ?_⟩
  simp only [Form.each_append]
  exact ⟨⟨⟨Form.each_nonEmpty rfl, Form.each_nonEmpty rfl⟩, Form.each_nonEmpty rfl⟩,
    Form.each_nonEmpty rfl⟩

end RegistrationTokenStatus

/-! Objects of the three types. -/

theorem Form.object {σ τ : Type} {spec status : Form} {writeSpec : σ → Json}
    {writeStatus : τ → Json} {raw : Dict Json} {m : ObjectMeta} {s : σ} {t : Option τ}
    (hm : required ObjectMeta.decode "metadata" raw = some m) (hs : spec (writeSpec s))
    (ht : ∀ a, status (writeStatus a)) (version kind : String) :
    members [("apiVersion", given), ("kind", given), ("metadata", ObjectMeta.form),
      ("spec", spec), ("status", status)]
      (.obj ([("apiVersion", .str version), ("kind", .str kind), ("metadata", m.encode),
        ("spec", writeSpec s)] ++ present "status" writeStatus t)) := by
  obtain ⟨v, -, hv⟩ := Option.bind_eq_some_iff.1 hm
  refine ⟨_, rfl, ?_⟩
  simp [Dict.get?, given, ObjectMeta.form_encode hv, hs, ht]

namespace CapiCluster

def form : Form := .members [("apiVersion", .given), ("kind", .given),
  ("metadata", ObjectMeta.form), ("spec", CapiClusterSpec.form), ("status", CapiClusterStatus.form)]

theorem form_encode {v : Json} {c : CapiCluster} (h : decode v = some c) : form c.encode := by
  obtain ⟨raw, -, hmetadata, -⟩ := decode_eq_some.1 h
  exact Form.object hmetadata c.spec.form_encode CapiClusterStatus.form_encode _ _

end CapiCluster

namespace RancherCluster

def form : Form := .members [("apiVersion", .given), ("kind", .given),
  ("metadata", ObjectMeta.form), ("spec", RancherClusterSpec.form),
  ("status", RancherClusterStatus.form)]

theorem form_encode {v : Json} {c : RancherCluster} (h : decode v = some c) : form c.encode := by
  obtain ⟨raw, -, hmetadata, hspec, -⟩ := decode_eq_some.1 h
  obtain ⟨w, -, hw⟩ := Option.bind_eq_some_iff.1 hspec
  exact Form.object hmetadata (RancherClusterSpec.form_encode hw) RancherClusterStatus.form_encode
    _ _

end RancherCluster

namespace RegistrationToken

def form : Form := .members [("apiVersion", .given), ("kind", .given),
  ("metadata", ObjectMeta.form), ("spec", .members [("clusterName", .given)]),
  ("status", RegistrationTokenStatus.form)]

theorem form_encode {v : Json} {t : RegistrationToken} (h : decode v = some t) :
    form t.encode := by
  obtain ⟨raw, -, hmetadata, -⟩ := decode_eq_some.1 h
  have hspec : Form.members [("clusterName", .given)]
      (.obj [("clusterName", .str t.clusterName)]) :=
    ⟨_, rfl, by simp [Dict.get?, Form.given]⟩
  exact Form.object hmetadata hspec RegistrationTokenStatus.form_encode _ _

end RegistrationToken

/-- The value that is written of `first` is a normal form: it is read back as `again`, of which it
is written once more. -/
structure NormalForm {α : Type} (read : Decoder α) (write : α → Json) (form : Form)
    (first again : α) : Prop where
  formed : form (write first)
  reread : read (write first) = some again
  rewritten : write again = write first

theorem Rereads.normalForm {α : Type} {d : Decoder α} {write : α → Json} {cut : α → α}
    {form : Form} {v : Json} {a : α} (h : Rereads d write cut) (hnull : d null = none)
    (hread : d v = some a) (hform : form (write a)) : NormalForm d write form a (cut a) where
  formed := hform
  reread := h.again hread fun he => by
    rw [he, hnull] at hread
    cases hread
  rewritten := h.same hread

/-- Metadata of which all that the import asks is answered alike. -/
structure ObjectMeta.AnswersAlike (m n : ObjectMeta) : Prop where
  inNamespace : n.inNamespace = m.inNamespace
  name : n.name = m.name
  uid : n.uid = m.uid
  resourceVersion : n.resourceVersion = m.resourceVersion
  labels : n.labels = m.labels
  annotations : n.annotations = m.annotations

theorem ObjectMeta.answersAlike_cut (m : ObjectMeta) : m.AnswersAlike m.cut :=
  ⟨rfl, rfl, rfl, rfl, rfl, rfl⟩

/-- An object that is read, of any of the types, is written in a normal form, and no answer that
the import goes by changes on the way. -/
theorem normalForm_of_decode (v : Json) :
    (∀ c, CapiCluster.decode v = some c →
      NormalForm CapiCluster.decode CapiCluster.encode CapiCluster.form c c.cut ∧
        c.metadata.AnswersAlike c.cut.metadata ∧
        c.cut.isControlPlaneReady = c.isControlPlaneReady ∧
        ∀ type, c.cut.conditionIsTrue type = c.conditionIsTrue type) ∧
    (∀ c, RancherCluster.decode v = some c →
      NormalForm RancherCluster.decode RancherCluster.encode RancherCluster.form c c.cut ∧
        c.metadata.AnswersAlike c.cut.metadata ∧
        c.cut.managementName? = c.managementName? ∧ c.cut.agentDeployed = c.agentDeployed ∧
        c.cut.isDeleting = c.isDeleting) ∧
    ∀ t, RegistrationToken.decode v = some t →
      NormalForm RegistrationToken.decode RegistrationToken.encode RegistrationToken.form t t.cut ∧
        t.metadata.AnswersAlike t.cut.metadata ∧ t.cut.manifestUrl? = t.manifestUrl? ∧
        t.cut.clusterName = t.clusterName := by
  refine ⟨fun c h => ⟨?_, c.metadata.answersAlike_cut, rfl, fun _ => rfl⟩,
    fun c h => ⟨?_, c.metadata.answersAlike_cut, rfl, rfl, ?_⟩,
    fun t h => ⟨?_, t.metadata.answersAlike_cut, rfl, rfl⟩⟩
  · exact CapiCluster.rereads.normalForm rfl h (CapiCluster.form_encode h)
  · exact RancherCluster.rereads.normalForm rfl h (RancherCluster.form_encode h)
  · exact Option.isSome_map
  · exact RegistrationToken.rereads.normalForm rfl h (RegistrationToken.form_encode h)

/-- A shore that no type knows, a pause that is null, conditions and a name that are empty, and the
quarter of a second of a time are not written. -/
theorem normalForm_of_decode_pond :
    let cluster := obj [("metadata", obj [("creationTimestamp", str "1970-01-02T00:00:01.25Z"),
        ("name", str "pond"), ("shore", str "rocky")]), ("spec", obj [("paused", null)]),
      ("status", obj [("conditions", arr []), ("controlPlaneReady", .bool true)])]
    let rancher := obj [("metadata", obj [("deletionTimestamp", str "1970-01-02T00:00:01.25Z")]),
      ("spec", obj []), ("status", obj [("agentDeployed", .bool true), ("clusterName", str "")])]
    let token := arr [obj [], obj [], obj [("manifestUrl", str "https://pond"), ("token", str "")]]
    let c : CapiCluster := ⟨{ creationTimestamp := some ⟨1, 1, 250000000⟩, name := some "pond" },
      {}, some ⟨none, false, true, [], none⟩⟩
    let r : RancherCluster := ⟨{ deletionTimestamp := some ⟨1, 1, 250000000⟩ }, {},
      some ⟨"", true, false⟩⟩
    let t : RegistrationToken := ⟨{}, "", some ⟨"https://pond", "", "", ""⟩⟩
    (CapiCluster.decode cluster = some c ∧
      c.encode = obj [("apiVersion", str "cluster.x-k8s.io/v1beta1"), ("kind", str "Cluster"),
        ("metadata", obj [("creationTimestamp", str "1970-01-02T00:00:01Z"), ("name", str "pond")]),
        ("spec", obj []), ("status", obj [("controlPlaneReady", .bool true),
          ("infrastructureReady", .bool false)])] ∧
      CapiCluster.decode c.encode = some c.cut ∧ c.cut.encode = c.encode) ∧
    (RancherCluster.decode rancher = some r ∧
      r.encode = obj [("apiVersion", str "provisioning.cattle.io/v1"), ("kind", str "Cluster"),
        ("metadata", obj [("deletionTimestamp", str "1970-01-02T00:00:01Z")]),
        ("spec", obj []), ("status", obj [("agentDeployed", .bool true), ("ready", .bool false)])] ∧
      RancherCluster.decode r.encode = some r.cut ∧ r.cut.isDeleting = r.isDeleting) ∧
    RegistrationToken.decode token = some t ∧
      t.encode = obj [("apiVersion", str "management.cattle.io/v3"),
        ("kind", str "ClusterRegistrationToken"), ("metadata", obj []),
        ("spec", obj [("clusterName", str "")]),
        ("status", obj [("manifestUrl", str "https://pond")])] ∧
      RegistrationToken.decode t.encode = some t.cut ∧ t.cut.manifestUrl? = t.manifestUrl? := by
  intro cluster rancher token c r t
  have htime : timestamp (str "1970-01-02T00:00:01.25Z") = some ⟨1, 1, 250000000⟩ := by
    decide +kernel
  have hcluster : CapiCluster.decode cluster = some c := by
    refine CapiCluster.decode_eq_some.2 ⟨_, rfl, ?_, rfl, rfl⟩
    simp [c, required, maybe, Dict.get?, ObjectMeta.decode_eq_some, Decode.members, htime,
      Decode.string]
  have hrancher : RancherCluster.decode rancher = some r := by
    refine RancherCluster.decode_eq_some.2 ⟨_, rfl, ?_, rfl, rfl⟩
    simp [r, required, maybe, Dict.get?, ObjectMeta.decode_eq_some, Decode.members, htime]
  have hsecond : Timestamp.renderSeconds ⟨1, 1, 250000000⟩ = "1970-01-02T00:00:01Z" := rfl
  obtain ⟨hc, -⟩ := (normalForm_of_decode cluster).1 c hcluster
  obtain ⟨hr, -, -, -, hdeleting⟩ := (normalForm_of_decode rancher).2.1 r hrancher
  obtain ⟨ht, -, hmanifest, -⟩ := (normalForm_of_decode token).2.2 t rfl
  refine ⟨⟨hcluster, ?_, hc.reread, hc.rewritten⟩, ⟨hrancher, ?_, hr.reread, hdeleting⟩,
    rfl, ?_, ht.reread, hmanifest⟩
  · have hversion : CapiCluster.resourceType.apiVersion = "cluster.x-k8s.io/v1beta1" := rfl
    simp [c, CapiCluster.encode, ObjectMeta.encode, CapiClusterSpec.encode,
      CapiClusterStatus.encode, present, nonEmptyList, hversion, hsecond]
    rfl
  · have hversion : RancherCluster.resourceType.apiVersion = "provisioning.cattle.io/v1" := rfl
    simp [r, RancherCluster.encode, ObjectMeta.encode, RancherClusterSpec.encode,
      RancherClusterStatus.encode, present, nonEmpty, hversion, hsecond]
    rfl
  · rfl

end ClusterImport

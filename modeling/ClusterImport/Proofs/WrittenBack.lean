import ClusterImport.Proofs.Reread
/-!
The resource types, written and read back. Each field of a value is read back from what is written
of it, so the value is; of times, those of the metadata are cut.
-/
namespace ClusterImport

open Json Decode Encode

namespace ManagedFields

def cut (f : ManagedFields) : ManagedFields := { f with time := f.time.map Timestamp.cut }

theorem rereads : Rereads decode encode cut where
  ne_null _ _ := nofun
  again {v f} h _ := by
    obtain ⟨raw, -, hversion, htype, hfields, hmanager, hoperation, hsubresource, htime⟩ :=
      decode_eq_some.1 h
    refine decode_eq_some.2 ⟨f.members, rfl, Rereads.string.maybe_exact hversion ?_,
      Rereads.string.maybe_exact htype ?_, Rereads.any.maybe_exact hfields ?_,
      Rereads.string.maybe_exact hmanager ?_, Rereads.string.maybe_exact hoperation ?_,
      Rereads.string.maybe_exact hsubresource ?_, Rereads.time.maybe htime ?_⟩ <;>
    simp [cut, members, encode, membersOrNone, Dict.get?_append, Dict.get?_present]
  same {v f} h := by
    obtain ⟨raw, -, -, -, -, -, -, -, htime⟩ := decode_eq_some.1 h
    rw [encode, encode, cut, Rereads.time.present htime]

end ManagedFields

namespace ObjectMeta

def cut (m : ObjectMeta) : ObjectMeta :=
  { m with
    creationTimestamp := m.creationTimestamp.map Timestamp.cut
    deletionTimestamp := m.deletionTimestamp.map Timestamp.cut
    managedFields := m.managedFields.map (List.map ManagedFields.cut) }

theorem rereads : Rereads decode encode cut where
  ne_null _ _ := nofun
  again {v m} h _ := by
    obtain ⟨raw, -, hannotations, hcreation, hgrace, hdeletion, hfinalizers, hgenerateName,
      hgeneration, hlabels, hmanaged, hname, hnamespace, howners, hversion, hlink, huid⟩ :=
      decode_eq_some.1 h
    have hstrings : Rereads (Decode.list string) .strings id := Rereads.string.list_exact rfl
    have howner := Rereads.owner.list_exact rfl
    have hmanager := ManagedFields.rereads.list rfl
    refine decode_eq_some.2 ⟨m.encode.membersOrNone, rfl,
      Rereads.texts.maybe_exact hannotations ?_, Rereads.time.maybe hcreation ?_,
      (Rereads.integer 64).maybe_exact hgrace ?_, Rereads.time.maybe hdeletion ?_,
      hstrings.maybe_exact hfinalizers ?_, Rereads.string.maybe_exact hgenerateName ?_,
      (Rereads.integer 64).maybe_exact hgeneration ?_, Rereads.texts.maybe_exact hlabels ?_,
      hmanager.maybe hmanaged ?_, Rereads.string.maybe_exact hname ?_,
      Rereads.string.maybe_exact hnamespace ?_, howner.maybe_exact howners ?_,
      Rereads.string.maybe_exact hversion ?_, Rereads.string.maybe_exact hlink ?_,
      Rereads.string.maybe_exact huid ?_⟩ <;>
    simp [cut, encode, membersOrNone, Dict.get?_append, Dict.get?_present]
  same {v m} h := by
    obtain ⟨raw, -, -, hcreation, -, hdeletion, -, -, -, -, hmanaged, -⟩ := decode_eq_some.1 h
    have hmanager := ManagedFields.rereads.list rfl
    rw [encode, encode, cut, Rereads.time.present hcreation, Rereads.time.present hdeletion,
      hmanager.present hmanaged]

end ObjectMeta

namespace ApiEndpoint

theorem rereads : Rereads decode encode id := by
  refine .exact (fun _ => nofun) fun v e h => ?_
  obtain ⟨raw, -, hhost, hport⟩ := decode_eq_some.1 h
  exact decode_eq_some.2 ⟨_, rfl, Rereads.string.orDefault rfl rfl hhost rfl,
    (Rereads.integer 32).orDefault rfl rfl hport rfl⟩

end ApiEndpoint

namespace ObjectReference

theorem rereads : Rereads decode encode id := by
  refine .exact (fun _ => nofun) fun v r h => ?_
  obtain ⟨raw, -, hversion, hkind, hname, hnamespace⟩ := decode_eq_some.1 h
  refine decode_eq_some.2 ⟨r.encode.membersOrNone, rfl, Rereads.string.maybe_exact hversion ?_,
    Rereads.string.maybe_exact hkind ?_, Rereads.string.maybe_exact hname ?_,
    Rereads.string.maybe_exact hnamespace ?_⟩ <;>
  simp [encode, membersOrNone, Dict.get?_append, Dict.get?_present]

end ObjectReference

namespace CapiClusterSpec

theorem rereads : Rereads decode encode id := by
  refine .exact (fun _ => nofun) fun v s h => ?_
  obtain ⟨raw, -, hpaused, hendpoint, hcontrolPlane, hinfrastructure⟩ := decode_eq_some.1 h
  refine decode_eq_some.2 ⟨s.encode.membersOrNone, rfl, Rereads.boolean.maybe_exact hpaused ?_,
    ApiEndpoint.rereads.maybe_exact hendpoint ?_,
    ObjectReference.rereads.maybe_exact hcontrolPlane ?_,
    ObjectReference.rereads.maybe_exact hinfrastructure ?_⟩ <;>
  simp [encode, membersOrNone, Dict.get?_append, Dict.get?_present]

end CapiClusterSpec

namespace Condition

theorem rereads : Rereads decode encode id := by
  refine .exact (fun _ => nofun) fun v c h => ?_
  obtain ⟨raw, -, htype, hstatus, hseverity, hreason, hmessage, htime⟩ := decode_eq_some.1 h
  refine decode_eq_some.2 ⟨c.encode.membersOrNone, rfl, Rereads.string.required rfl htype ?_,
    Rereads.string.required rfl hstatus ?_, Rereads.string.maybe_exact hseverity ?_,
    Rereads.string.maybe_exact hreason ?_, Rereads.string.maybe_exact hmessage ?_,
    Rereads.moment.maybe_exact htime ?_⟩ <;>
  simp [encode, membersOrNone, Dict.get?_append, Dict.get?_present, Dict.get?]

end Condition

namespace CapiClusterStatus

theorem rereads : Rereads decode encode id := by
  refine .exact (fun _ => nofun) fun v s h => ?_
  obtain ⟨raw, -, hphase, hinfrastructure, hcontrolPlane, hconditions, hgeneration⟩ :=
    decode_eq_some.1 h
  refine decode_eq_some.2 ⟨s.encode.membersOrNone, rfl, Rereads.string.maybe_exact hphase ?_,
    Rereads.boolean.orDefault rfl rfl hinfrastructure ?_,
    Rereads.boolean.orDefault rfl rfl hcontrolPlane ?_,
    Condition.rereads.orDefault_list rfl hconditions ?_,
    (Rereads.integer 64).maybe_exact hgeneration ?_⟩ <;>
  simp [encode, membersOrNone, Dict.get?_append, Dict.get?_present, Dict.get?,
    Dict.get?_nonEmptyList_of_ne]

end CapiClusterStatus

namespace RancherClusterSpec

theorem rereads : Rereads decode encode id := by
  refine .exact (fun _ => nofun) fun v s h => ?_
  obtain ⟨raw, -, hversion, hconfig⟩ := decode_eq_some.1 h
  refine decode_eq_some.2 ⟨s.encode.membersOrNone, rfl, Rereads.string.maybe_exact hversion ?_,
    Rereads.any.maybe_exact hconfig ?_⟩ <;>
  simp [encode, membersOrNone, Dict.get?_append, Dict.get?_present]

end RancherClusterSpec

namespace RancherClusterStatus

theorem rereads : Rereads decode encode id := by
  refine .exact (fun _ => nofun) fun v s h => ?_
  obtain ⟨raw, -, -, hagent, hready⟩ := decode_eq_some.1 h
  refine decode_eq_some.2 ⟨s.encode.membersOrNone, rfl, orDefault_text ?_,
    Rereads.boolean.orDefault rfl rfl hagent ?_, Rereads.boolean.orDefault rfl rfl hready ?_⟩ <;>
  simp [encode, membersOrNone, Dict.get?_append, Dict.get?, Dict.get?_nonEmpty_of_ne]

end RancherClusterStatus

namespace RegistrationTokenStatus

theorem rereads : Rereads decode encode id := by
  refine .exact (fun _ => nofun) fun v s h => decode_eq_some.2 ⟨s.encode.membersOrNone, rfl,
    orDefault_text ?_, orDefault_text ?_, orDefault_text ?_, orDefault_text ?_⟩ <;>
  simp [encode, membersOrNone, Dict.get?_append, Dict.get?_nonEmpty_of_ne]

end RegistrationTokenStatus

/-! Objects of the three types. Only times of the metadata are cut. -/

/-- A type whose objects are read and written by the three parts. -/
theorem rereads_object {α σ τ : Type} {read : Decoder α} {write : α → Json} {cut : α → α}
    {spec : Decoder σ} {status : Decoder τ} {writeSpec : σ → Json} {writeStatus : τ → Json}
    {metadata : α → ObjectMeta} {body : α → σ} {state : α → Option τ} {version kind : Json}
    (hs : Rereads spec writeSpec id) (hnull : spec null = none)
    (ht : Rereads status writeStatus id)
    (hread : ∀ {v a}, read v = some a ↔ ∃ ms, root v = some ms ∧
      required ObjectMeta.decode "metadata" ms = some (metadata a) ∧
      required spec "spec" ms = some (body a) ∧ maybe status "status" ms = some (state a))
    (hwrite : ∀ a, write a = .obj ([("apiVersion", version), ("kind", kind),
      ("metadata", (metadata a).encode), ("spec", writeSpec (body a))] ++
        present "status" writeStatus (state a)))
    (hcut : ∀ a, metadata (cut a) = (metadata a).cut ∧ body (cut a) = body a ∧
      state (cut a) = state a) : Rereads read write cut where
  ne_null a _ := by
    rw [hwrite]
    exact nofun
  again {v a} h _ := by
    obtain ⟨raw, -, hmetadata, hspec, hstatus⟩ := hread.1 h
    obtain ⟨hm, hb, ht'⟩ := hcut a
    rw [hread, hwrite, hm, hb, ht']
    refine ⟨_, rfl, ObjectMeta.rereads.required rfl hmetadata rfl, hs.required hnull hspec rfl,
      ht.maybe_exact hstatus ?_⟩
    simp [Dict.get?, Dict.get?_present]
  same {v a} h := by
    obtain ⟨raw, -, hmetadata, -⟩ := hread.1 h
    obtain ⟨hm, hb, ht'⟩ := hcut a
    rw [hwrite, hwrite, hm, hb, ht', ObjectMeta.rereads.same_required hmetadata]

namespace CapiCluster

def cut (c : CapiCluster) : CapiCluster := { c with metadata := c.metadata.cut }

theorem rereads : Rereads decode encode cut :=
  rereads_object CapiClusterSpec.rereads rfl CapiClusterStatus.rereads decode_eq_some (fun _ => rfl)
    fun _ => ⟨rfl, rfl, rfl⟩

end CapiCluster

namespace RancherCluster

def cut (c : RancherCluster) : RancherCluster := { c with metadata := c.metadata.cut }

theorem rereads : Rereads decode encode cut :=
  rereads_object RancherClusterSpec.rereads rfl RancherClusterStatus.rereads decode_eq_some (fun _ => rfl)
    fun _ => ⟨rfl, rfl, rfl⟩

end RancherCluster

namespace RegistrationToken

def cut (t : RegistrationToken) : RegistrationToken := { t with metadata := t.metadata.cut }

theorem rereads_spec : Rereads decodeSpec (fun s => .obj [("clusterName", .str s)]) id :=
  .exact (fun _ => nofun) fun _ _ _ => rfl

theorem rereads : Rereads decode encode cut :=
  rereads_object rereads_spec rfl RegistrationTokenStatus.rereads decode_eq_some (fun _ => rfl)
    fun _ => ⟨rfl, rfl, rfl⟩

end RegistrationToken

end ClusterImport

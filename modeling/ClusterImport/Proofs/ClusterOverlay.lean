import ClusterImport.Proofs.ClusterCodec
/-!
The patch of a CAPI cluster over the object that the cluster was read from. It is the difference of
two states without their status, and the version that is put into it does the same as if the second
state had the version of the first. What comes of merging it is read back as that state.
-/
namespace ClusterImport

open Json Decode Encode

/-- Values that an object can hold: integers of 64 bits and times of a clock. -/
structure ObjectMeta.Fits (m : ObjectMeta) : Prop where
  creationTimestamp : ∀ t ∈ m.creationTimestamp, t.Clock
  deletionGracePeriodSeconds : ∀ n ∈ m.deletionGracePeriodSeconds, InBits 64 n
  deletionTimestamp : ∀ t ∈ m.deletionTimestamp, t.Clock
  generation : ∀ n ∈ m.generation, InBits 64 n
  managedFields : ∀ fs ∈ m.managedFields, ∀ f ∈ fs, ∀ t ∈ f.time, t.Clock

namespace ObjectMeta

def settled (m : ObjectMeta) : ObjectMeta :=
  { m with managedFields := m.managedFields.map (·.map ManagedFields.settled) }

def FieldsGiven (m : ObjectMeta) : Prop :=
  ∀ fs ∈ m.managedFields, ∀ f ∈ fs, f.fieldsV1 ≠ some null

theorem fieldsGiven_of_decode {v : Json} {m : ObjectMeta} (h : decode v = some m) :
    m.FieldsGiven := by
  obtain ⟨ms, -, -, -, -, -, -, -, -, -, hmanaged, -⟩ := decode_eq_some.1 h
  intro fs hfs f hf
  rw [Option.mem_def.1 hfs] at hmanaged
  rcases maybe_eq_some hmanaged with ⟨hnone, -⟩ | ⟨_, _, hsome, -, -, hlist⟩
  · cases hnone
  · cases hsome
    obtain ⟨item, hitem⟩ := Codec.mem_of_list hlist hf
    exact ManagedFields.fieldsV1_ne_null hitem

theorem settled_eq_self {m : ObjectMeta} (h : m.FieldsGiven) : m.settled = m := by
  have hfields : m.managedFields.map (·.map ManagedFields.settled) = m.managedFields := by
    cases hm : m.managedFields with
    | none => rfl
    | some fs =>
      have hfs : fs.map ManagedFields.settled = fs.map id :=
        List.map_congr_left fun f hf => ManagedFields.settled_eq_self (h fs hm f hf)
      rw [Option.map_some, hfs, List.map_id]
  rw [settled, hfields]

theorem codec_fits {m : ObjectMeta} (h : m.Fits) : codec.Fits m :=
  ⟨fun _ _ => trivial, h.creationTimestamp, h.deletionGracePeriodSeconds, h.deletionTimestamp,
    fun _ _ _ _ => trivial, fun _ _ => trivial, h.generation, fun _ _ => trivial, h.managedFields,
    fun _ _ => trivial, fun _ _ => trivial, fun _ _ _ _ => trivial, fun _ _ => trivial,
    fun _ _ => trivial, fun _ _ => trivial⟩

theorem codec_settled (m : ObjectMeta) : codec.settled m = m.settled := by
  refine (Layout.codec_settled _).trans ?_
  simp only [layout, Layout.before_settled, Layout.optional_settled]
  simp only [Codec.text, Codec.integer, Codec.time, Codec.exact, Codec.texts, Codec.list,
    Codec.strings, Codec.owners, Codec.managed, Codec.plain, List.map_id_fun, Option.map_id_fun]
  rfl

end ObjectMeta

namespace CapiClusterSpec

theorem codec_fits {s : CapiClusterSpec} (h : ∀ e ∈ s.controlPlaneEndpoint, InBits 32 e.port) :
    codec.Fits s :=
  ⟨fun e he => ⟨trivial, h e he⟩, fun _ _ => ⟨fun _ _ => trivial, fun _ _ => trivial,
    fun _ _ => trivial, fun _ _ => trivial⟩, fun _ _ => ⟨fun _ _ => trivial, fun _ _ => trivial,
    fun _ _ => trivial, fun _ _ => trivial⟩, fun _ _ => trivial⟩

theorem codec_settled (s : CapiClusterSpec) : codec.settled s = s := by
  have hreference (r : ObjectReference) : ObjectReference.codec.settled r = r := by
    refine (Layout.codec_settled _).trans ?_
    simp only [ObjectReference.layout, Layout.before_settled, Layout.optional_settled]
    simp only [Codec.text, Codec.exact, Codec.plain, Option.map_id_fun]
    rfl
  have hendpoint (e : ApiEndpoint) : ApiEndpoint.codec.settled e = e := rfl
  refine (Layout.codec_settled _).trans ?_
  simp only [layout, Layout.before_settled, Layout.optional_settled, funext hreference,
    funext hendpoint, Option.map_id_fun']
  simp only [Codec.flag, Codec.exact, Codec.plain, Option.map_id_fun]
  rfl

end CapiClusterSpec

namespace CapiCluster

structure Fits (c : CapiCluster) : Prop where
  metadata : c.metadata.Fits
  port : ∀ e ∈ c.spec.controlPlaneEndpoint, InBits 32 e.port

def settled (c : CapiCluster) : CapiCluster := { c with metadata := c.metadata.settled }

def statusless (c : CapiCluster) : CapiCluster := { c with status := none }

def layout : Layout (Unit × ObjectMeta × CapiClusterSpec) :=
  (Layout.fixed [("apiVersion", .str resourceType.apiVersion), ("kind", .str resourceType.kind)]
      (by simp [isObject])).and
    ((Layout.mandatory "metadata" ObjectMeta.codec).and
      (.mandatory "spec" CapiClusterSpec.codec) (by decide)) (by decide)

def parts (c : CapiCluster) : Unit × ObjectMeta × CapiClusterSpec := ((), c.metadata, c.spec)

theorem layout_names : layout.names = ["apiVersion", "kind", "metadata", "spec"] := rfl

theorem pairwise_names : layout.names.Pairwise (· < ·) := by
  rw [layout_names]
  decide

theorem write_layout (c : CapiCluster) :
    layout.write c.parts = c.members c.metadata.encode := by
  rw [members, ← ObjectMeta.codec_write, ← CapiClusterSpec.codec_write]
  rfl

theorem encode_eq_write (c : CapiCluster) : c.statusless.encode = obj (layout.write c.parts) := by
  rw [write_layout]
  rfl

theorem decode_obj (ms : Dict Json) : decode (obj ms) = (layout.read ms).bind fun p =>
    (maybe CapiClusterStatus.decode "status" ms).map fun s => ⟨p.2.1, p.2.2, s⟩ := by
  simp only [layout, Layout.and, Layout.fixed, Layout.mandatory, Option.map_eq_bind,
    Function.comp_def, Option.bind_assoc, Option.bind_some, ObjectMeta.codec_read,
    CapiClusterSpec.codec_read]
  rfl

theorem decode_obj_eq_some {ms : Dict Json} {c : CapiCluster} : decode (obj ms) = some c ↔
    layout.read ms = some c.parts ∧
      maybe CapiClusterStatus.decode "status" ms = some c.status := by
  rw [decode_obj]
  constructor
  · intro h
    obtain ⟨p, hp, hrest⟩ := Option.bind_eq_some_iff.1 h
    obtain ⟨s, hs, rfl⟩ := Option.map_eq_some_iff.1 hrest
    exact ⟨hp, hs⟩
  · rintro ⟨hp, hs⟩
    rw [hp, Option.bind_some, hs, Option.map_some]
    rfl

theorem get?_write_metadata (c : CapiCluster) :
    Dict.get? "metadata" (layout.write c.parts) = some c.metadata.encode := by
  rw [write_layout, get?_metadata]

theorem get?_write_spec (c : CapiCluster) :
    Dict.get? "spec" (layout.write c.parts) = some c.spec.encode := by
  rw [write_layout]
  simp [members, Dict.get?]

theorem get?_status (c : CapiCluster) : Dict.get? "status" (layout.write c.parts) = none :=
  layout.get?_write_eq_none c.parts (by rw [layout_names]; decide)

theorem parts_settled (c : CapiCluster) : layout.settled c.parts = c.settled.parts := by
  rw [parts, settled, parts, ← ObjectMeta.codec_settled]
  exact congrArg (fun s => ((), _, s)) c.spec.codec_settled

/-- Merging the difference of two clusters into the object that the first was read from leads to an
object that the second is read from, as it settles. -/
theorem decode_overlay {raw : Dict Json} {before after : CapiCluster} (hraw : (obj raw).Ordered)
    (hshaped : layout.Shaped raw) (hread : decode (obj raw) = some before) (hfits : after.Fits) :
    ∃ c, decode (overlay (obj raw) before.statusless.encode after.statusless.encode) = some c ∧
      (c.statusless.encode == after.settled.statusless.encode) = true := by
  obtain ⟨hparts, hstatus⟩ := decode_obj_eq_some.1 hread
  have hfits : layout.Fits after.parts :=
    ⟨trivial, ObjectMeta.codec_fits hfits.metadata, CapiClusterSpec.codec_fits hfits.port⟩
  have hget := get?_overlay hraw.1 (layout.ordered_write pairwise_names after.parts)
    (layout.write before.parts)
  obtain ⟨p, hp, he⟩ := layout.follow _ hraw hshaped hparts hfits fun key _ => hget key
  have hkept := hget "status"
  rw [get?_status, get?_status, overlayMember_none] at hkept
  rw [encode_eq_write, encode_eq_write, overlay_obj]
  refine ⟨⟨p.2.1, p.2.2, before.status⟩, decode_obj_eq_some.2 ⟨hp, ?_⟩, ?_⟩
  · rw [maybe, hkept, ← maybe, hstatus]
  · rw [encode_eq_write, encode_eq_write, ← parts_settled]
    exact he

/-- The second state at the version of the first, if that has one. -/
def heldTo (after before : CapiCluster) : CapiCluster :=
  { after with metadata := { after.metadata with
    resourceVersion := before.metadata.resourceVersion.or after.metadata.resourceVersion } }

end CapiCluster

namespace ObjectMeta

theorem get?_members_of_ne (m : ObjectMeta) (version : Option String) {key : String}
    (h : key ≠ "resourceVersion") :
    Dict.get? key ({ m with resourceVersion := version } : ObjectMeta).members =
      Dict.get? key m.members := by
  simp [members, unannotated, encode, membersOrNone, Dict.get?_append, Dict.get?_present, Ne.symm h]

theorem get?_resourceVersion_eq (m : ObjectMeta) :
    Dict.get? "resourceVersion" m.members = m.resourceVersion.map .str := by
  simp [members, unannotated, encode, membersOrNone, Dict.get?_append, Dict.get?_present]

theorem resourceVersion_of_decode {v : Json} {m : ObjectMeta} (h : decode v = some m) :
    ∃ ms, v = obj ms ∧ maybe string "resourceVersion" ms = some m.resourceVersion := by
  obtain ⟨ms, hms, -, -, -, -, -, -, -, -, -, -, -, -, hversion, -⟩ := decode_eq_some.1 h
  cases v with
  | obj members =>
    cases hms
    exact ⟨_, rfl, hversion⟩
  | _ => cases hms

theorem ordered_members (m : ObjectMeta) : Dict.Ordered m.members :=
  m.steady_members.ordered pairwise_names

/-- Putting the version into a patch of the metadata is the same as leaving it alone. -/
theorem mergeMembers_version {raw : Dict Json} {m : ObjectMeta} {version : String}
    (hraw : raw.Ordered) (hversion : Dict.get? "resourceVersion" raw = some (.str version))
    (hm : m.resourceVersion = some version) (n : ObjectMeta) :
    mergeMembers raw (Dict.insert "resourceVersion" (.str version)
      (memberPatch m.members n.members)) =
      mergeMembers raw (memberPatch m.members
        ({ n with resourceVersion := some version } : ObjectMeta).members) := by
  have hn := n.ordered_members
  have hheld := ({ n with resourceVersion := some version } : ObjectMeta).ordered_members
  refine Dict.ext_get? (ordered_mergeMembers hraw _) (ordered_mergeMembers hraw _) fun key => ?_
  rw [get?_mergeMembers hraw (Dict.ordered_insert (ordered_memberPatch _ hn) _ _),
    get?_overlay hraw hheld]
  by_cases hk : key = "resourceVersion"
  · subst hk
    rw [Dict.get?_insert_self, hversion, get?_resourceVersion_eq, get?_resourceVersion_eq, hm,
      Option.map_some, overlayMember_changed (show Json.str version ≠ null by simp),
      overlay_of_diff_eq_none (diff_str_self version)]
    rfl
  · rw [Dict.get?_insert_of_ne hk, get?_memberPatch_eq hn, n.get?_members_of_ne (some version) hk,
      overlayMember]

end ObjectMeta

namespace CapiCluster

def change (before after : CapiCluster) : Dict Json :=
  memberPatch (layout.write before.parts) (layout.write after.parts)

theorem get?_change_metadata (before after : CapiCluster) :
    Dict.get? "metadata" (change before after) =
      diff (obj before.metadata.members) (obj after.metadata.members) := by
  rw [change, get?_memberPatch_eq (layout.ordered_write pairwise_names _), get?_write_metadata,
    get?_write_metadata, memberChange, ObjectMeta.encode_eq, ObjectMeta.encode_eq]

def versioned (before after : CapiCluster) (version : String) : Dict Json :=
  Dict.insert "metadata" (obj (Dict.insert "resourceVersion" (.str version)
    (memberPatch before.metadata.members after.metadata.members))) (change before after)

theorem getD_change_metadata (before after : CapiCluster) :
    (Dict.get? "metadata" (change before after)).getD (obj []) =
      obj (memberPatch before.metadata.members after.metadata.members) := by
  rw [get?_change_metadata, diff_obj_obj]
  split
  · rename_i hp
    rw [List.isEmpty_iff.1 hp]
    rfl
  · rfl

theorem clusterPatch_eq (before after : CapiCluster) : clusterPatch before after =
    if (change before after).isEmpty then none
    else some (obj (match before.metadata.resourceVersion with
      | none => change before after
      | some version => versioned before after version)) := by
  have hdiff : diff ({ before with status := none } : CapiCluster).encode
      ({ after with status := none } : CapiCluster).encode =
      if (change before after).isEmpty then none else some (obj (change before after)) := by
    rw [← statusless, ← statusless, encode_eq_write, encode_eq_write, diff_obj_obj]
    rfl
  rw [clusterPatch, hdiff]
  by_cases hc : (change before after).isEmpty = true
  · rw [if_pos hc, if_pos hc]
  · rw [if_neg hc, if_neg hc]
    cases before.metadata.resourceVersion with
    | none => rfl
    | some version =>
      simp only [getD_change_metadata]
      rfl

theorem clusterPatch_eq_none_iff (before after : CapiCluster) :
    clusterPatch before after = none ↔
      (before.statusless.encode == after.statusless.encode) = true := by
  rw [encode_eq_write, encode_eq_write, ← layout.diff_obj_eq_none pairwise_names, diff_obj_obj,
    clusterPatch_eq, change]
  split <;> simp

/-- The version that was read stands in the metadata as it was read. -/
theorem exists_metadata {raw : Dict Json} {c : CapiCluster} (h : decode (obj raw) = some c) :
    ∃ ms, Dict.get? "metadata" raw = some (obj ms) ∧
      ∀ version, c.metadata.resourceVersion = some version →
        Dict.get? "resourceVersion" ms = some (.str version) := by
  obtain ⟨_, hroot, hmetadata, -⟩ := parts_of_decode h
  cases hroot
  obtain ⟨v, hv, hm⟩ := Option.bind_eq_some_iff.1 hmetadata
  obtain ⟨ms, rfl, hread⟩ := ObjectMeta.resourceVersion_of_decode hm
  refine ⟨ms, hv, fun version hversion => ?_⟩
  rw [hversion] at hread
  rcases maybe_eq_some hread with ⟨hnone, -⟩ | ⟨w, s, hs, hw, -, hstring⟩
  · cases hnone
  · cases hs
    cases w with
    | str s =>
      cases hstring
      exact hw
    | _ => cases hstring

theorem get?_write_heldTo (before after : CapiCluster) {key : String} (h : key ≠ "metadata") :
    Dict.get? key (layout.write (after.heldTo before).parts) =
      Dict.get? key (layout.write after.parts) := by
  rw [write_layout, write_layout]
  simp [members, heldTo, Dict.get?, Ne.symm h]

theorem heldTo_of_none {before : CapiCluster} (h : before.metadata.resourceVersion = none)
    (after : CapiCluster) : after.heldTo before = after := by
  rw [heldTo, h, Option.none_or]

theorem metadata_heldTo {before : CapiCluster} {version : String}
    (h : before.metadata.resourceVersion = some version) (after : CapiCluster) :
    (after.heldTo before).metadata = { after.metadata with resourceVersion := some version } := by
  rw [heldTo, h, Option.some_or]

theorem ordered_versioned (before after : CapiCluster) (version : String) :
    Dict.Ordered (versioned before after version) :=
  Dict.ordered_insert (ordered_memberPatch _ (layout.ordered_write pairwise_names _)) _ _

/-- Merging the patch is merging the difference to the second state at the version of the first. -/
theorem merge_eq_overlay {raw : Dict Json} {before after : CapiCluster} {patch : Json}
    (hraw : (obj raw).Ordered) (hread : decode (obj raw) = some before)
    (h : clusterPatch before after = some patch) :
    merge (obj raw) patch =
      overlay (obj raw) before.statusless.encode (after.heldTo before).statusless.encode := by
  rw [clusterPatch_eq, Option.ite_none_left_eq_some] at h
  obtain ⟨-, hpatch⟩ := h
  obtain rfl := Option.some.inj hpatch
  rw [encode_eq_write, encode_eq_write, overlay_obj, merge_obj, membersOrNone]
  cases hv : before.metadata.resourceVersion with
  | none => rw [heldTo_of_none hv, change]
  | some version =>
    obtain ⟨ms, hms, hversion⟩ := exists_metadata hread
    have hn := layout.ordered_write pairwise_names (after.heldTo before).parts
    refine congrArg obj (Dict.ext_get? (ordered_mergeMembers hraw.1 _)
      (ordered_mergeMembers hraw.1 _) fun key => ?_)
    rw [get?_overlay hraw.1 hn, get?_mergeMembers hraw.1 (ordered_versioned before after version),
      versioned]
    by_cases hk : key = "metadata"
    · subst hk
      have hms' : Dict.Ordered ms := (ordered_of_mem hraw.2 (Dict.mem_of_get? hms)).1
      rw [Dict.get?_insert_self, hms, get?_write_metadata, get?_write_metadata,
        ObjectMeta.encode_eq, ObjectMeta.encode_eq, overlayMember_obj, metadata_heldTo hv,
        ← ObjectMeta.mergeMembers_version hms' (hversion version hv) hv]
      rfl
    · rw [Dict.get?_insert_of_ne hk, get?_write_heldTo before after hk, change,
        get?_memberPatch_eq (layout.ordered_write pairwise_names _), overlayMember]

theorem get?_status_patch {before after : CapiCluster} {patch : Json}
    (h : clusterPatch before after = some patch) : patch.get? "status" = none := by
  have hchange : Dict.get? "status" (change before after) = none := by
    rw [change, get?_memberPatch_eq (layout.ordered_write pairwise_names _), get?_status,
      get?_status, memberChange]
  rw [clusterPatch_eq, Option.ite_none_left_eq_some] at h
  obtain ⟨-, hpatch⟩ := h
  obtain rfl := Option.some.inj hpatch
  cases before.metadata.resourceVersion with
  | none => exact hchange
  | some version => exact (Dict.get?_insert_of_ne (by decide) _ _).trans hchange

theorem at?_version_patch {before after : CapiCluster} {patch : Json} {version : String}
    (hv : before.metadata.resourceVersion = some version)
    (h : clusterPatch before after = some patch) :
    at? ["metadata", "resourceVersion"] patch = some (.str version) := by
  rw [clusterPatch_eq, Option.ite_none_left_eq_some, hv] at h
  obtain ⟨-, hpatch⟩ := h
  obtain rfl := Option.some.inj hpatch
  change at? ["metadata", "resourceVersion"] (obj (versioned before after version)) = _
  rw [at?_pair, get?, versioned, Dict.get?_insert_self, Option.bind_some, get?,
    Dict.get?_insert_self]

theorem fieldsGiven_of_decode {v : Json} {c : CapiCluster} (h : decode v = some c) :
    c.metadata.FieldsGiven := by
  obtain ⟨_, -, hmetadata, -⟩ := parts_of_decode h
  obtain ⟨_, -, hm⟩ := Option.bind_eq_some_iff.1 hmetadata
  exact ObjectMeta.fieldsGiven_of_decode hm

theorem settled_heldTo {after : CapiCluster} (h : after.metadata.FieldsGiven)
    (before : CapiCluster) : (after.heldTo before).settled = after.heldTo before := by
  have hm : (after.heldTo before).metadata.settled = (after.heldTo before).metadata :=
    ObjectMeta.settled_eq_self h
  rw [settled, hm]

theorem fits_heldTo {after : CapiCluster} (h : after.Fits) (before : CapiCluster) :
    (after.heldTo before).Fits :=
  ⟨⟨h.metadata.creationTimestamp, h.metadata.deletionGracePeriodSeconds,
    h.metadata.deletionTimestamp, h.metadata.generation, h.metadata.managedFields⟩, h.port⟩

end CapiCluster

end ClusterImport

import ClusterImport.Proofs.ClusterOverlay
/-!
Writing a CAPI cluster back through its typed view. The patch is merged into the object that the
cluster was read from, which may say more than the types do. All that the types do not say anything
of is left as it was, in every structure that the second state still has. What no reading gives,
null fields of a manager, is lost on the way.
-/
namespace ClusterImport

open Json Decode Encode

namespace CapiCluster

/-- What the merge makes of the members of a structure. -/
theorem get?_overlay_part {raw : Dict Json} (hraw : (obj raw).Ordered) {before after : CapiCluster}
    {key : String} {v w x : Json} (hv : Dict.get? key raw = some v)
    (hw : Dict.get? key (layout.write before.parts) = some w)
    (hx : Dict.get? key (layout.write after.parts) = some x) (hne : x ≠ null) :
    (overlay (obj raw) before.statusless.encode after.statusless.encode).get? key =
      some (overlay v w x) := by
  rw [encode_eq_write, encode_eq_write, layout.get?_overlay_write pairwise_names hraw.1, hv, hw, hx,
    overlayMember_changed hne]

end CapiCluster

namespace CapiClusterSpec

theorem read_of_decode {ms : Dict Json} {s : CapiClusterSpec} (h : decode (obj ms) = some s) :
    layout.read ms = some s.parts := by
  rw [← codec_read] at h
  obtain ⟨p, hp, rfl⟩ := Option.map_eq_some_iff.1 h
  exact hp

theorem pairwise_names : layout.names.Pairwise (· < ·) := by decide

/-- What the object of a field has beside the members that its type knows stays there. -/
theorem at?_overlay_field {α : Type} {name key : String} {c : Codec α}
    {field : _ → Option α} (h : layout.Holds name c field) (hleaves : c.Leaves key)
    {raw : Dict Json} {before after : CapiClusterSpec} (hraw : (obj raw).Ordered)
    (hshaped : layout.Shaped raw) (hread : decode (obj raw) = some before)
    (hafter : at? [name] after.encode ≠ none) :
    at? [name, key] (overlay (obj raw) before.encode after.encode) = at? [name, key] (obj raw) := by
  rw [at?_single, encode_eq_write] at hafter
  rw [encode_eq_write, encode_eq_write]
  exact h.kept pairwise_names hleaves hraw hshaped (read_of_decode hread) hafter

end CapiClusterSpec

namespace CapiCluster

/-- Where the objects of a cluster are that have types, and the members that these know. -/
def structures : List (List String × List String) :=
  [([], ["apiVersion", "kind", "metadata", "spec", "status"]),
    (["metadata"], "annotations" :: ObjectMeta.unannotatedNames),
    (["spec"], ["controlPlaneEndpoint", "controlPlaneRef", "infrastructureRef", "paused"]),
    (["spec", "controlPlaneEndpoint"], ["host", "port"]),
    (["spec", "controlPlaneRef"], ["apiVersion", "kind", "name", "namespace"]),
    (["spec", "infrastructureRef"], ["apiVersion", "kind", "name", "namespace"])]

def Shaped (raw : Json) : Prop :=
  ∀ s ∈ structures, ∀ v, at? s.1 raw = some v → v = null ∨ ∃ members, v = obj members

theorem shaped_of_all_isObject {raw : Json}
    (h : ∀ s ∈ structures, (at? s.1 raw).all isObject = true) : Shaped raw := by
  intro s hs v hv
  have hobject := h s hs
  rw [hv] at hobject
  cases v with
  | obj members => exact .inr ⟨members, rfl⟩
  | _ => cases hobject

theorem exists_obj {raw : Json} {c : CapiCluster} (h : Shaped raw) (hread : decode raw = some c) :
    ∃ ms, raw = obj ms := by
  have hs := h _ List.mem_cons_self raw rfl
  refine hs.resolve_left ?_
  rintro rfl
  cases hread

theorem spec_of_decode {v : Json} {c : CapiCluster} (h : decode v = some c) :
    ∃ ms, root v = some ms ∧ required CapiClusterSpec.decode "spec" ms = some c.spec := by
  obtain ⟨ms, hms, -, hspec, -⟩ := decode_eq_some.1 h
  exact ⟨ms, hms, hspec⟩

theorem exists_spec {raw : Dict Json} {c : CapiCluster} (h : Shaped (obj raw))
    (hread : decode (obj raw) = some c) :
    ∃ ms, Dict.get? "spec" raw = some (obj ms) ∧ CapiClusterSpec.decode (obj ms) = some c.spec := by
  obtain ⟨_, hroot, hspec⟩ := spec_of_decode hread
  cases hroot
  obtain ⟨v, hv, hdecode⟩ := Option.bind_eq_some_iff.1 hspec
  have hs := h _ (List.mem_cons_of_mem _ (List.mem_cons_of_mem _ List.mem_cons_self)) v
    (by rw [at?, get?, hv]; rfl)
  obtain ⟨ms, rfl⟩ := hs.resolve_left (by rintro rfl; cases hdecode)
  exact ⟨ms, hv, hdecode⟩

theorem shaped_spec {raw : Dict Json} (h : Shaped (obj raw)) {ms : Dict Json}
    (hms : Dict.get? "spec" raw = some (obj ms)) : CapiClusterSpec.codec.Shaped (obj ms) := by
  have hobject {name : String} (hs : ["spec", name] ∈ structures.map (·.1)) (v : Json)
      (hv : Dict.get? name ms = some v) (hne : v ≠ null) : ∃ d, v = obj d := by
    obtain ⟨s, hs, hpath⟩ := List.mem_map.1 hs
    refine (h s hs v ?_).resolve_left hne
    rw [hpath, at?, get?, hms, Option.bind_some, at?, get?, hv]
    rfl
  refine ⟨ms, rfl, fun v hv hne => ?_, fun v hv hne => ?_, fun v hv hne => ?_, fun _ _ _ => trivial⟩
  · obtain ⟨d, hd⟩ := hobject (by decide) v hv hne
    exact ⟨d, hd, fun _ _ => trivial, fun _ _ => trivial⟩
  all_goals
    obtain ⟨d, hd⟩ := hobject (by decide) v hv hne
    exact ⟨d, hd, fun _ _ _ => trivial, fun _ _ _ => trivial, fun _ _ _ => trivial,
      fun _ _ _ => trivial⟩

theorem shaped_metadata (ms : Dict Json) : ObjectMeta.codec.Shaped (obj ms) := by
  refine ⟨ms, rfl, ?_⟩
  -- no member of the metadata is written as an object in which anything has to be kept
  iterate 14 refine ⟨fun _ _ _ => trivial, ?_⟩
  exact fun _ _ _ => trivial

theorem shaped_layout {raw : Dict Json} {c : CapiCluster} (h : Shaped (obj raw))
    (hread : decode (obj raw) = some c) : layout.Shaped raw := by
  obtain ⟨metadata, hmetadata, -⟩ := exists_metadata hread
  obtain ⟨spec, hspec, -⟩ := exists_spec h hread
  refine ⟨trivial, fun v hv => ?_, fun v hv => ?_⟩
  · rw [hmetadata] at hv
    cases hv
    exact shaped_metadata metadata
  · rw [hspec] at hv
    cases hv
    exact shaped_spec h hspec

section Merged

variable {raw : Dict Json} {before after : CapiCluster} (hraw : (obj raw).Ordered)
  (hread : decode (obj raw) = some before)
include hraw hread

theorem at?_overlay_metadata {key : String}
    (h : ¬Differ (Dict.get? key before.metadata.members) (Dict.get? key after.metadata.members)) :
    at? ["metadata", key] (overlay (obj raw) before.statusless.encode after.statusless.encode) =
      at? ["metadata", key] (obj raw) := by
  obtain ⟨ms, hms, -⟩ := exists_metadata hread
  have hordered : Dict.Ordered ms := (ordered_of_mem hraw.2 (Dict.mem_of_get? hms)).1
  rw [← ObjectMeta.write_layout, ← ObjectMeta.write_layout] at h
  rw [at?_pair, at?_pair, get?_overlay_part hraw hms before.get?_write_metadata
    after.get?_write_metadata nofun, get?, hms, ObjectMeta.encode_eq_write,
    ObjectMeta.encode_eq_write]
  exact ObjectMeta.layout.get?_overlay_of_not_differ (by decide) hordered h

variable (after) in
theorem overlay_spec (hshaped : Shaped (obj raw)) :
    ∃ ms, Dict.get? "spec" raw = some (obj ms) ∧ (obj ms).Ordered ∧
      CapiClusterSpec.decode (obj ms) = some before.spec ∧
      (overlay (obj raw) before.statusless.encode after.statusless.encode).get? "spec" =
        some (overlay (obj ms) before.spec.encode after.spec.encode) := by
  obtain ⟨ms, hms, hdecode⟩ := exists_spec hshaped hread
  refine ⟨ms, hms, ordered_of_mem hraw.2 (Dict.mem_of_get? hms), hdecode, ?_⟩
  exact get?_overlay_part hraw hms before.get?_write_spec after.get?_write_spec nofun

/-- Members that a type does not know stay where they are. -/
theorem at?_overlay (hshaped : Shaped (obj raw)) {s : List String × List String}
    (hs : s ∈ structures)
    (hafter : ∀ name, s.1 = ["spec", name] → at? [name] after.spec.encode ≠ none) {key : String}
    (hkey : key ∉ s.2) :
    at? (s.1 ++ [key]) (overlay (obj raw) before.statusless.encode after.statusless.encode) =
      at? (s.1 ++ [key]) (obj raw) := by
  obtain ⟨ms, hms, hordered, hdecode, hover⟩ := overlay_spec after hraw hread hshaped
  obtain ⟨_, heq, hfields⟩ := shaped_spec hshaped hms
  cases heq
  have hstep (path : List String) (hp : at? path (overlay (obj ms) before.spec.encode
      after.spec.encode) = at? path (obj ms)) :
      at? ("spec" :: path) (overlay (obj raw) before.statusless.encode after.statusless.encode) =
        at? ("spec" :: path) (obj raw) := by
    rw [at?, hover, Option.bind_some, hp, at?, get?, hms, Option.bind_some]
  have hfield {α : Type} {name : String} {c : Codec α} {field : _ → Option α}
      (h : CapiClusterSpec.layout.Holds name c field) (hleaves : c.Leaves key)
      (hne : at? [name] after.spec.encode ≠ none) :=
    hstep [name, key] (CapiClusterSpec.at?_overlay_field h hleaves hordered hfields hdecode hne)
  simp only [structures, List.mem_cons, List.not_mem_nil, or_false] at hs
  rcases hs with rfl | rfl | rfl | rfl | rfl | rfl
  · have hnames : key ∉ layout.names := by
      rw [layout_names]
      exact fun h => hkey (by simpa [or_assoc] using List.mem_append_left ["status"] h)
    rw [encode_eq_write, encode_eq_write, List.nil_append, at?_single, at?_single]
    exact layout.get?_overlay_of_notMem pairwise_names hraw.1 _ _ hnames
  · refine at?_overlay_metadata hraw hread ?_
    rw [Dict.get?_eq_none_of_keys before.metadata.steady_members.keys hkey,
      Dict.get?_eq_none_of_keys after.metadata.steady_members.keys hkey]
    exact id
  · refine hstep [key] ?_
    rw [CapiClusterSpec.encode_eq_write, CapiClusterSpec.encode_eq_write, at?_single, at?_single]
    exact CapiClusterSpec.layout.get?_overlay_of_notMem CapiClusterSpec.pairwise_names
      hordered.1 _ _ hkey
  · exact hfield (Layout.holds_before ..) (Layout.codec_leaves hkey) (hafter _ rfl)
  · exact hfield ((Layout.holds_before ..).before ..) (Layout.codec_leaves hkey) (hafter _ rfl)
  · exact hfield (((Layout.holds_before ..).before ..).before ..) (Layout.codec_leaves hkey)
      (hafter _ rfl)

end Merged

theorem at?_metadata_encode (c : CapiCluster) (key : String) :
    at? ["metadata", key] c.encode = Dict.get? key c.metadata.members := by
  rw [at?_pair, ← get?, ← c.metadata.encode_eq]
  rfl

end CapiCluster

/-- A cluster is written back through its typed view: there is no patch just if both states are
written alike, and else the patch has no status and the version of the first state. Merged into the
object that was read it leads to one that is read as the second state at that version, has the same
status, keeps the members that the types do not know in every structure that the second state still
has, and all metadata, lists in particular, that the second state does not change. A set of managed
fields that is null, as none is that was read, is read back as none. -/
theorem clusterPatch_through_view {raw : Json} {before after : CapiCluster} (hraw : raw.Ordered)
    (hshaped : CapiCluster.Shaped raw) (hread : CapiCluster.decode raw = some before)
    (hfits : after.Fits) :
    (clusterPatch before after = none ↔
      (before.statusless.encode == after.statusless.encode) = true) ∧
    before.metadata.FieldsGiven ∧
    ∀ patch, clusterPatch before after = some patch →
      patch.get? "status" = none ∧
      (∀ version, before.metadata.resourceVersion = some version →
        at? ["metadata", "resourceVersion"] patch = some (.str version)) ∧
      (∃ c, CapiCluster.decode (merge raw patch) = some c ∧
        (c.statusless.encode == (after.heldTo before).settled.statusless.encode) = true ∧
        (after.metadata.FieldsGiven →
          (c.statusless.encode == (after.heldTo before).statusless.encode) = true)) ∧
      (merge raw patch).isObject = true ∧
      (merge raw patch).get? "status" = raw.get? "status" ∧
      (∀ s ∈ CapiCluster.structures, at? s.1 after.encode ≠ none → ∀ key ∉ s.2,
        at? (s.1 ++ [key]) (merge raw patch) = at? (s.1 ++ [key]) raw) ∧
      ∀ key, key ≠ "resourceVersion" →
        ¬Differ (at? ["metadata", key] before.encode) (at? ["metadata", key] after.encode) →
        at? ["metadata", key] (merge raw patch) = at? ["metadata", key] raw := by
  obtain ⟨ms, rfl⟩ := CapiCluster.exists_obj hshaped hread
  refine ⟨CapiCluster.clusterPatch_eq_none_iff before after,
    CapiCluster.fieldsGiven_of_decode hread, fun patch hpatch => ?_⟩
  rw [CapiCluster.merge_eq_overlay hraw hread hpatch]
  obtain ⟨c, hc, hsettled⟩ := CapiCluster.decode_overlay hraw
    (CapiCluster.shaped_layout hshaped hread) hread (CapiCluster.fits_heldTo hfits before)
  refine ⟨CapiCluster.get?_status_patch hpatch,
    fun version hv => CapiCluster.at?_version_patch hv hpatch, ⟨c, hc, hsettled, fun hgiven => ?_⟩,
    ?_, ?_, fun s hs hafter key hkey => ?_, fun key hkey hdiffer => ?_⟩
  · rwa [CapiCluster.settled_heldTo hgiven] at hsettled
  · rw [CapiCluster.encode_eq_write, CapiCluster.encode_eq_write, overlay_obj]
    rfl
  · rw [CapiCluster.encode_eq_write, CapiCluster.encode_eq_write]
    exact CapiCluster.layout.get?_overlay_of_notMem CapiCluster.pairwise_names hraw.1 _ _ (by
      rw [CapiCluster.layout_names]
      decide)
  · refine CapiCluster.at?_overlay hraw hread hshaped hs (fun name hname => ?_) hkey
    rw [hname] at hafter
    exact hafter
  · rw [CapiCluster.at?_metadata_encode, CapiCluster.at?_metadata_encode] at hdiffer
    have hsame : Dict.get? key (after.heldTo before).metadata.members =
        Dict.get? key after.metadata.members :=
      after.metadata.get?_members_of_ne _ hkey
    exact CapiCluster.at?_overlay_metadata hraw hread (by rwa [hsame])

/-- The annotation is new, the kind of the control plane changes, and the version is taken away. The
members that no type knows are a shore, a depth, and how an owner is moored. -/
theorem clusterPatch_through_view_pond :
    let raw := obj [("metadata", obj [("name", str "pond"),
        ("ownerReferences", arr [obj [("moored", .bool true), ("uid", str "u-1")]]),
        ("resourceVersion", str "7"), ("shore", str "rocky")]),
      ("spec", obj [("controlPlaneRef", obj [("depth", .int 3), ("kind", str "Pump")])]),
      ("status", obj [("ripples", .int 2)])]
    let owner : OwnerReference := ⟨"", "", "", "u-1", none, none⟩
    let before : CapiCluster :=
      ⟨{ name := some "pond", ownerReferences := some [owner], resourceVersion := some "7" },
        { controlPlaneRef := some ⟨none, some "Pump", none, none⟩ },
        some ⟨none, false, false, [], none⟩⟩
    let after : CapiCluster :=
      ⟨{ annotations := some (.single "stocked" "true"), name := some "pond",
          ownerReferences := some [owner] },
        { controlPlaneRef := some ⟨none, some "Dam", none, none⟩ }, none⟩
    raw.Ordered ∧ CapiCluster.Shaped raw ∧ CapiCluster.decode raw = some before ∧ after.Fits ∧
      ∃ patch, clusterPatch before after = some patch ∧
        at? ["metadata", "resourceVersion"] patch = some (str "7") ∧
        (∃ c, CapiCluster.decode (merge raw patch) = some c ∧
          (c.statusless.encode == (after.heldTo before).statusless.encode) = true) ∧
        (merge raw patch).get? "status" = some (obj [("ripples", .int 2)]) ∧
        at? ["metadata", "shore"] (merge raw patch) = some (str "rocky") ∧
        at? ["spec", "controlPlaneRef", "depth"] (merge raw patch) = some (.int 3) ∧
        at? ["metadata", "ownerReferences"] (merge raw patch) =
          some (arr [obj [("moored", .bool true), ("uid", str "u-1")]]) := by
  intro raw owner before after
  have howner : Dict.Ordered [("moored", Json.bool true), ("uid", str "u-1")] :=
    Dict.ordered_iff_keys.2 (show ["moored", "uid"].Pairwise (· < ·) by decide)
  have hmetadata : ["name", "ownerReferences", "resourceVersion", "shore"].Pairwise (· < ·) := by
    decide
  have hreference : ["depth", "kind"].Pairwise (· < ·) := by decide
  have hkeys : ["metadata", "spec", "status"].Pairwise (· < ·) := by decide
  have hraw : raw.Ordered := ⟨Dict.ordered_iff_keys.2 hkeys,
    ⟨Dict.ordered_iff_keys.2 hmetadata, trivial, ⟨⟨howner, trivial, trivial, trivial⟩, trivial⟩,
      trivial, trivial, trivial⟩,
    ⟨List.pairwise_singleton _ _, ⟨Dict.ordered_iff_keys.2 hreference, trivial, trivial, trivial⟩,
      trivial⟩, ⟨List.pairwise_singleton _ _, trivial, trivial⟩, trivial⟩
  have hshaped : CapiCluster.Shaped raw := CapiCluster.shaped_of_all_isObject (by decide +kernel)
  have hread : CapiCluster.decode raw = some before := rfl
  have hfits : after.Fits := ⟨⟨nofun, nofun, nofun, nofun, nofun⟩, nofun⟩
  have hgiven : after.metadata.FieldsGiven := by simp [ObjectMeta.FieldsGiven, after]
  have hdiffer : (before.statusless.encode == after.statusless.encode) = false := by decide +kernel
  obtain ⟨hnone, -, hsome⟩ := clusterPatch_through_view hraw hshaped hread hfits
  cases hpatch : clusterPatch before after with
  | none => exact Bool.noConfusion (hdiffer.symm.trans (hnone.1 hpatch))
  | some patch =>
    obtain ⟨-, hversion, ⟨c, hc, -, hagain⟩, -, hstatus, hkept, hlist⟩ := hsome patch hpatch
    have hripples : raw.get? "status" = some (obj [("ripples", .int 2)]) := by
      simp [raw, get?, Dict.get?]
    have hshore : at? ["metadata", "shore"] raw = some (str "rocky") := by
      simp [raw, at?, get?, Dict.get?]
    have hdepth : at? ["spec", "controlPlaneRef", "depth"] raw = some (.int 3) := by
      simp [raw, at?, get?, Dict.get?]
    have howners : at? ["metadata", "ownerReferences"] raw =
        some (arr [obj [("moored", .bool true), ("uid", str "u-1")]]) := by
      simp [raw, at?, get?, Dict.get?]
    have hmetadata : at? ["metadata"] after.encode ≠ none := by
      simp [CapiCluster.encode, at?, get?, Dict.get?]
    have href : at? ["spec", "controlPlaneRef"] after.encode ≠ none := by
      simp [after, CapiCluster.encode, CapiClusterSpec.encode, present, at?, get?, Dict.get?]
    have hsame : Dict.get? "ownerReferences" before.metadata.members =
        Dict.get? "ownerReferences" after.metadata.members := by
      simp [before, after, ObjectMeta.members, ObjectMeta.unannotated, ObjectMeta.encode,
        membersOrNone, Dict.get?_append, Dict.get?_present]
    refine ⟨hraw, hshaped, hread, hfits, patch, rfl, hversion "7" rfl, ⟨c, hc, hagain hgiven⟩,
      hstatus.trans hripples, ?_, ?_, ?_⟩
    · exact (hkept (["metadata"], "annotations" :: ObjectMeta.unannotatedNames)
        (by simp [CapiCluster.structures]) hmetadata "shore" (by decide)).trans hshore
    · exact (hkept (["spec", "controlPlaneRef"], ["apiVersion", "kind", "name", "namespace"])
        (by simp [CapiCluster.structures]) href "depth" (by decide)).trans hdepth
    · refine (hlist "ownerReferences" (by decide) ?_).trans howners
      rw [CapiCluster.at?_metadata_encode, CapiCluster.at?_metadata_encode, hsame]
      exact not_differ_self _

/-- Null fields of a manager are written and do not come back, since a null member is read as one
that is missing. -/
theorem exists_unsettled :
    let raw := obj [("metadata", obj [("name", str "pond")]), ("spec", obj [])]
    let unowned : ManagedFields := ⟨none, none, none, none, none, none, none⟩
    let before : CapiCluster := ⟨{ name := some "pond" }, {}, none⟩
    let after : CapiCluster :=
      ⟨{ managedFields := some [{ unowned with fieldsV1 := some null }], name := some "pond" },
        {}, none⟩
    let found : CapiCluster := ⟨{ managedFields := some [unowned], name := some "pond" }, {}, none⟩
    raw.Ordered ∧ CapiCluster.Shaped raw ∧ CapiCluster.decode raw = some before ∧ after.Fits ∧
      ∃ patch, clusterPatch before after = some patch ∧
        CapiCluster.decode (merge raw patch) = some found ∧
        (found.statusless.encode == (after.heldTo before).statusless.encode) = false := by
  intro raw unowned before after found
  have hkeys : ["metadata", "spec"].Pairwise (· < ·) := by decide
  have hraw : raw.Ordered := ⟨Dict.ordered_iff_keys.2 hkeys,
    ⟨List.pairwise_singleton _ _, trivial, trivial⟩, ⟨List.Pairwise.nil, trivial⟩, trivial⟩
  have hshaped : CapiCluster.Shaped raw := CapiCluster.shaped_of_all_isObject (by decide +kernel)
  have hfits : after.Fits := ⟨⟨nofun, nofun, nofun, nofun, by simp [after]⟩, nofun⟩
  have hchanged : (before.statusless.encode == after.statusless.encode) = false := by
    decide +kernel
  have hdiffer : (found.statusless.encode == (after.heldTo before).statusless.encode) = false := by
    decide +kernel
  refine ⟨hraw, hshaped, rfl, hfits, ?_⟩
  cases hpatch : clusterPatch before after with
  | none =>
    have hsame := (CapiCluster.clusterPatch_eq_none_iff before after).1 hpatch
    exact Bool.noConfusion (hchanged.symm.trans hsame)
  | some patch =>
    refine ⟨patch, rfl, ?_, hdiffer⟩
    have hversion : CapiCluster.resourceType.apiVersion = "cluster.x-k8s.io/v1beta1" := rfl
    have hkind : CapiCluster.resourceType.kind = "Cluster" := rfl
    rw [CapiCluster.merge_eq_overlay hraw rfl hpatch, CapiCluster.heldTo_of_none rfl]
    simp [after, unowned, CapiCluster.statusless, CapiCluster.encode, ObjectMeta.encode,
      CapiClusterSpec.encode, ManagedFields.encode, Encode.list, present, hversion, hkind]
    rfl

end ClusterImport

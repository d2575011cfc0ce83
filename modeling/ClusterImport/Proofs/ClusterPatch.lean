import ClusterImport.Proofs.MergePatch
import ClusterImport.Reconcile
/-!
The patch that marks a CAPI cluster as imported. A cluster does not differ from itself, so nothing
is written where nothing has changed; the mark alone makes a patch of two members at most, and
merging it gives back the cluster with the mark and no other change.
-/
namespace ClusterImport

open Json Encode

/-- Members written under the names in order, none of which differs from itself. -/
structure Steady (names : List String) (d : Dict Json) : Prop where
  keys : (Dict.keys d).Sublist names
  members : ∀ p ∈ d, diff p.2 p.2 = none

namespace Steady

variable {α : Type} {names : List String} {d : Dict Json}

theorem ordered (h : Steady names d) (hn : names.Pairwise (· < ·)) : Dict.Ordered d :=
  Dict.ordered_iff_keys.2 (hn.sublist h.keys)

theorem diff_self (h : Steady names d) (hn : names.Pairwise (· < ·)) :
    diff (.obj d) (.obj d) = none := diff_obj_self (h.ordered hn) h.members

theorem nil : Steady [] [] := ⟨List.Sublist.refl _, by simp⟩

theorem present (key : String) (write : α → Json) (hw : ∀ a, diff (write a) (write a) = none)
    (o : Option α) (h : Steady names d) :
    Steady (key :: names) (Encode.present key write o ++ d) := by
  cases o with
  | none => exact ⟨h.keys.cons key, h.members⟩
  | some a =>
    refine ⟨h.keys.cons_cons key, fun p hp => ?_⟩
    rcases List.mem_cons.1 hp with rfl | hp
    · exact hw a
    · exact h.members p hp

theorem last (key : String) (write : α → Json) (hw : ∀ a, diff (write a) (write a) = none)
    (o : Option α) : Steady [key] (Encode.present key write o) := by
  simpa using nil.present key write hw o

theorem plain (key : String) (write : α → Json) (hw : ∀ a, (write a).isObject = false)
    (o : Option α) (h : Steady names d) :
    Steady (key :: names) (Encode.present key write o ++ d) :=
  h.present key write (fun a => diff_self_of_not_object (hw a)) o

end Steady

theorem diff_str_self (s : String) : diff (.str s) (.str s) = none := diff_self_of_not_object rfl

theorem diff_int_self (n : Int) : diff (.int n) (.int n) = none := diff_self_of_not_object rfl

theorem ordered_strings (d : OrderedDict String) :
    Dict.Ordered (d.entries.map fun (k, v) => (k, Json.str v)) :=
  List.pairwise_map.2 d.ordered

theorem diff_of_mem_strings {d : Dict String} {p : String × Json}
    (h : p ∈ d.map fun (k, v) => (k, Json.str v)) : diff p.2 p.2 = none := by
  obtain ⟨q, -, rfl⟩ := List.mem_map.1 h
  exact diff_str_self q.2

theorem diff_dict_self (d : OrderedDict String) :
    diff (Encode.dict .str d.entries) (Encode.dict .str d.entries) = none :=
  diff_obj_self (ordered_strings d) fun _ hp => diff_of_mem_strings hp

theorem ApiEndpoint.diff_encode_self (e : ApiEndpoint) : diff e.encode e.encode = none := by
  have h : Steady ["host", "port"] [("host", .str e.host), ("port", .int e.port)] :=
    (Steady.last "port" .int diff_int_self (some e.port)).present "host" .str diff_str_self
      (some e.host)
  exact h.diff_self (by decide)

theorem ObjectReference.diff_encode_self (r : ObjectReference) : diff r.encode r.encode = none := by
  have h := Steady.last "namespace" .str diff_str_self r.inNamespace
    |>.plain "name" .str (fun _ => rfl) r.name
    |>.plain "kind" .str (fun _ => rfl) r.kind
    |>.plain "apiVersion" .str (fun _ => rfl) r.apiVersion
  simpa only [encode, List.append_assoc] using h.diff_self (by decide)

theorem CapiClusterSpec.diff_encode_self (s : CapiClusterSpec) : diff s.encode s.encode = none := by
  have h := Steady.last "paused" .bool (fun _ => diff_self_of_not_object rfl) s.paused
    |>.present "infrastructureRef" _ ObjectReference.diff_encode_self s.infrastructureRef
    |>.present "controlPlaneRef" _ ObjectReference.diff_encode_self s.controlPlaneRef
    |>.present "controlPlaneEndpoint" _ ApiEndpoint.diff_encode_self s.controlPlaneEndpoint
  simpa only [encode, List.append_assoc] using h.diff_self (by decide)

namespace ObjectMeta

def unannotated (m : ObjectMeta) : Dict Json :=
  membersOrNone ({ m with annotations := none } : ObjectMeta).encode

def unannotatedNames : List String :=
  ["creationTimestamp", "deletionGracePeriodSeconds", "deletionTimestamp", "finalizers",
    "generateName", "generation", "labels", "managedFields", "name", "namespace",
    "ownerReferences", "resourceVersion", "selfLink", "uid"]

theorem steady_unannotated (m : ObjectMeta) : Steady unannotatedNames m.unannotated := by
  have h := Steady.last "uid" .str diff_str_self m.uid
    |>.plain "selfLink" .str (fun _ => rfl) m.selfLink
    |>.plain "resourceVersion" .str (fun _ => rfl) m.resourceVersion
    |>.plain "ownerReferences" (Encode.list OwnerReference.encode) (fun _ => rfl) m.ownerReferences
    |>.plain "namespace" .str (fun _ => rfl) m.inNamespace
    |>.plain "name" .str (fun _ => rfl) m.name
    |>.plain "managedFields" (Encode.list ManagedFields.encode) (fun _ => rfl) m.managedFields
    |>.present "labels" (fun d => Encode.dict .str d.entries) diff_dict_self m.labels
    |>.plain "generation" .int (fun _ => rfl) m.generation
    |>.plain "generateName" .str (fun _ => rfl) m.generateName
    |>.plain "finalizers" .strings (fun _ => rfl) m.finalizers
    |>.plain "deletionTimestamp" (.str ·.renderSeconds) (fun _ => rfl) m.deletionTimestamp
    |>.plain "deletionGracePeriodSeconds" .int (fun _ => rfl) m.deletionGracePeriodSeconds
    |>.plain "creationTimestamp" (.str ·.renderSeconds) (fun _ => rfl) m.creationTimestamp
  have hnone : Encode.present "annotations" (fun d : OrderedDict String =>
      Encode.dict .str d.entries) none = [] := rfl
  simpa only [unannotated, unannotatedNames, encode, membersOrNone, hnone, List.nil_append,
    List.append_assoc] using h

def members (m : ObjectMeta) : Dict Json :=
  present "annotations" (fun d => Encode.dict .str d.entries) m.annotations ++ m.unannotated

theorem encode_eq (m : ObjectMeta) : m.encode = .obj m.members := by
  simp [encode, members, unannotated, membersOrNone, present]

theorem steady_members (m : ObjectMeta) : Steady ("annotations" :: unannotatedNames) m.members :=
  m.steady_unannotated.present "annotations" _ diff_dict_self m.annotations

theorem pairwise_names : ("annotations" :: unannotatedNames).Pairwise (· < ·) := by decide

theorem diff_encode_self (m : ObjectMeta) : diff m.encode m.encode = none := by
  rw [encode_eq]
  exact m.steady_members.diff_self pairwise_names

theorem lt_of_mem_unannotated {m : ObjectMeta} {p : String × Json} (h : p ∈ m.unannotated) :
    "annotations" < p.1 := by
  have hp : p.1 ∈ unannotatedNames := m.steady_unannotated.keys.subset (List.mem_map_of_mem h)
  exact (List.pairwise_cons.1 pairwise_names).1 p.1 hp

/-- Annotations come first, so that new ones take the place of the old. -/
theorem insert_annotations (m : ObjectMeta) (v : Json) :
    Dict.insert "annotations" v m.members = ("annotations", v) :: m.unannotated := by
  unfold members
  cases m.annotations with
  | none =>
    rw [present, List.nil_append]
    exact Dict.insert_of_lt (fun _ hp => lt_of_mem_unannotated hp) v
  | some d => simp [present, Dict.insert]

theorem encode_annotated (m : ObjectMeta) (key value : String) :
    (m.setAnnotation key value).encode = .obj (Dict.insert "annotations"
      (Encode.dict .str ((m.annotations.getD .empty).insert key value).entries) m.members) := by
  rw [encode_eq, insert_annotations]
  rfl

theorem get?_annotations (m : ObjectMeta) :
    Dict.get? "annotations" m.members = m.annotations.map fun d => Encode.dict .str d.entries := by
  unfold members
  cases m.annotations with
  | none =>
    rw [present, List.nil_append]
    exact Dict.get?_eq_none_of_lt fun _ hp => lt_of_mem_unannotated hp
  | some d => simp [present, Dict.get?]

end ObjectMeta

theorem map_insert (key value : String) (d : Dict String) :
    (Dict.insert key value d).map (fun (k, v) => (k, Json.str v)) =
      Dict.insert key (.str value) (d.map fun (k, v) => (k, Json.str v)) := by
  induction d with
  | nil => rfl
  | cons p rest ih =>
    simp only [Dict.insert, List.map_cons]
    split
    · simp
    · split <;> simp [ih]

theorem get?_strings (key : String) (d : Dict String) :
    Dict.get? key (d.map fun (k, v) => (k, Json.str v)) = (Dict.get? key d).map .str := by
  induction d with
  | nil => rfl
  | cons p rest ih =>
    simp only [Dict.get?, List.map_cons]
    split
    · rfl
    · exact ih

theorem diff_str (a b : String) :
    diff (.str a) (.str b) = if a = b then none else some (.str b) := by
  have h : ((Json.str a == Json.str b) : Bool) = (a == b) := rfl
  simp [diff, h]

theorem diff_dict_insert (d : OrderedDict String) (key value : String) :
    diff (Encode.dict .str d.entries) (Encode.dict .str (d.insert key value).entries) =
      if d.get? key = some value then none else some (.obj [(key, .str value)]) := by
  unfold Encode.dict OrderedDict.insert OrderedDict.get?
  rw [map_insert, diff_insert (ordered_strings d) fun _ hp => diff_of_mem_strings hp, memberDiff,
    get?_strings]
  cases Dict.get? key d.entries with
  | none => simp
  | some old =>
    by_cases h : old = value <;> simp [diff_str, h]

theorem ObjectMeta.diff_annotated (m : ObjectMeta) (key value : String) :
    diff m.encode (m.setAnnotation key value).encode =
      if m.annotation? key = some value then none
      else some (.obj [("annotations", .obj [(key, .str value)])]) := by
  rw [encode_annotated, encode_eq,
    diff_insert (m.steady_members.ordered pairwise_names) m.steady_members.members, memberDiff,
    get?_annotations]
  unfold annotation?
  cases m.annotations with
  | none => simp [OrderedDict.insert, OrderedDict.empty, Encode.dict, Dict.insert]
  | some d =>
    have h := diff_dict_insert d key value
    by_cases hd : d.get? key = some value <;> simp [h, hd]

namespace CapiCluster

def marked (c : CapiCluster) : CapiCluster :=
  { c with metadata := c.metadata.setAnnotation importedAnnotation "true" }

def isMarked (c : CapiCluster) : Bool := c.metadata.annotation? importedAnnotation == some "true"

def markPatch (c : CapiCluster) : Json :=
  .obj [("metadata", .obj (("annotations", .obj [( importedAnnotation, .str "true")]) ::
    present "resourceVersion" .str c.metadata.resourceVersion))]

def members (metadata : Json) (c : CapiCluster) : Dict Json :=
  [("apiVersion", .str resourceType.apiVersion), ("kind", .str resourceType.kind),
    ("metadata", metadata), ("spec", c.spec.encode)]

theorem encode_statusless (c : CapiCluster) :
    ({ c with status := none } : CapiCluster).encode = .obj (c.members c.metadata.encode) := rfl

theorem ordered_members (metadata : Json) (c : CapiCluster) :
    Dict.Ordered (c.members metadata) := by
  have h : (["apiVersion", "kind", "metadata", "spec"] : List String).Pairwise (· < ·) := by decide
  exact Dict.ordered_iff_keys.2 h

theorem diff_member_self (c : CapiCluster) :
    ∀ p ∈ c.members c.metadata.encode, diff p.2 p.2 = none := by
  simp [members, diff_str_self, c.metadata.diff_encode_self, c.spec.diff_encode_self]

theorem insert_metadata (metadata new : Json) (c : CapiCluster) :
    Dict.insert "metadata" new (c.members metadata) = c.members new := by
  simp [members, Dict.insert, show ¬ ("metadata" < "apiVersion") by decide,
    show ¬ ("metadata" < "kind") by decide]

theorem get?_metadata (metadata : Json) (c : CapiCluster) :
    Dict.get? "metadata" (c.members metadata) = some metadata := by
  simp [members, Dict.get?]

end CapiCluster

/-- Nothing is written where nothing has changed. -/
theorem clusterPatch_self (c : CapiCluster) : clusterPatch c c = none := by
  have h : diff (.obj (c.members c.metadata.encode)) (.obj (c.members c.metadata.encode)) = none :=
    diff_obj_self (c.ordered_members _) c.diff_member_self
  simp [clusterPatch, CapiCluster.encode_statusless, h]

theorem clusterPatch_marked (c : CapiCluster) :
    clusterPatch c c.marked = if c.isMarked then none else some c.markPatch := by
  have hi : c.marked.members c.marked.metadata.encode =
      Dict.insert "metadata" c.marked.metadata.encode (c.members c.metadata.encode) :=
    (c.insert_metadata _ _).symm
  have hm : diff c.metadata.encode c.marked.metadata.encode = if c.isMarked then none else
      some (.obj [("annotations", .obj [( importedAnnotation, .str "true")])]) := by
    simp only [CapiCluster.isMarked, beq_iff_eq]
    exact c.metadata.diff_annotated importedAnnotation "true"
  have hd : diff (.obj (c.members c.metadata.encode))
      (.obj (c.marked.members c.marked.metadata.encode)) =
      (diff c.metadata.encode c.marked.metadata.encode).map fun p => .obj [("metadata", p)] := by
    rw [hi, diff_insert (c.ordered_members _) c.diff_member_self, memberDiff, c.get?_metadata]
  simp only [clusterPatch, CapiCluster.encode_statusless, hd, hm]
  cases hi : c.isMarked with
  | true => simp
  | false =>
    cases hv : c.metadata.resourceVersion with
    | none => simp [CapiCluster.markPatch, hv, present]
    | some version =>
      simp [CapiCluster.markPatch, hv, present, Dict.get?, Dict.insert,
        show ¬ ("resourceVersion" < "annotations") by decide]

/-- What the metadata says of its version is a member of it. -/
theorem ObjectMeta.get?_resourceVersion {m : ObjectMeta} {version : String}
    (h : m.resourceVersion = some version) :
    Dict.get? "resourceVersion" m.members = some (.str version) := by
  have hmem : ("resourceVersion", Json.str version) ∈ m.members := by
    simp [members, unannotated, encode, membersOrNone, h, present]
  exact Dict.get?_of_mem (m.steady_members.ordered pairwise_names) hmem

theorem merge_annotation (o : Option (OrderedDict String)) (key value : String) :
    merge ((o.map fun d => Encode.dict .str d.entries).getD .null) (.obj [(key, .str value)]) =
      Encode.dict .str ((o.getD .empty).insert key value).entries := by
  cases o with
  | none => rfl
  | some d =>
    rw [Option.map_some, Option.getD_some, Option.getD_some, Encode.dict, merge_obj,
      mergeMembers_str, Encode.dict, OrderedDict.insert, map_insert]
    rfl

theorem merge_metadata (c : CapiCluster) :
    merge c.metadata.encode (.obj (("annotations", .obj [( importedAnnotation, .str "true")]) ::
      present "resourceVersion" .str c.metadata.resourceVersion)) = c.marked.metadata.encode := by
  have hi : c.marked.metadata.encode = .obj (Dict.insert "annotations" _ c.metadata.members) :=
    c.metadata.encode_annotated importedAnnotation "true"
  rw [hi, c.metadata.encode_eq, merge_obj, membersOrNone, mergeMembers_obj,
    c.metadata.get?_annotations, merge_annotation]
  cases hv : c.metadata.resourceVersion with
  | none => rfl
  | some version =>
    -- the version is in the cluster already, so that writing it changes nothing
    have hget := c.metadata.get?_resourceVersion hv
    have hm := c.metadata.steady_members.ordered ObjectMeta.pairwise_names
    rw [present, mergeMembers_str, Dict.insert_eq_self (Dict.ordered_insert hm _ _)]
    · rfl
    · rw [Dict.get?_insert_of_ne (by decide), hget]

/-- Merging the mark into a cluster adds the mark and changes nothing else. -/
theorem merge_markPatch (c : CapiCluster) : merge c.encode c.markPatch = c.marked.encode := by
  have hins (old new : Json) : Dict.insert "metadata" new (c.members old ++
      present "status" CapiClusterStatus.encode c.status) =
      c.members new ++ present "status" CapiClusterStatus.encode c.status := by
    simp [CapiCluster.members, Dict.insert, show ¬ ("metadata" < "apiVersion") by decide,
      show ¬ ("metadata" < "kind") by decide]
  have hget (old : Json) : Dict.get? "metadata" (c.members old ++
      present "status" CapiClusterStatus.encode c.status) = some old := by
    simp [CapiCluster.members, Dict.get?]
  have he (d : CapiCluster) : d.encode = .obj (d.members d.metadata.encode ++
      present "status" CapiClusterStatus.encode d.status) := rfl
  rw [he c, he c.marked, CapiCluster.markPatch, merge_obj, membersOrNone, mergeMembers_obj, hget,
    Option.getD_some, merge_metadata, hins]
  rfl

end ClusterImport

import ClusterImport.Proofs.ClusterPatch
import ClusterImport.Proofs.FieldRead
/-!
What a CAPI cluster is read back as after it has been written. Times lose their fractions on the
way, and all that the import goes by stays: the namespace and the name, the annotations, and whether
the control plane is ready.
-/
namespace ClusterImport

variable {α β : Type}

namespace Dict

theorem get?_append (key : String) (first second : Dict α) :
    get? key (first ++ second) = (get? key first).or (get? key second) := by
  induction first with
  | nil => simp
  | cons p first ih =>
    simp only [List.cons_append, get?]
    split
    · rw [Option.some_or]
    · exact ih

theorem get?_present (key other : String) (write : α → Json) (o : Option α) :
    get? key (Encode.present other write o) = if other = key then o.map write else none := by
  cases o with
  | none => simp [Encode.present]
  | some a => simp [Encode.present, get?]

theorem get?_nonEmptyList_of_ne {key other : String} (h : other ≠ key) (write : α → Json)
    (l : List α) : get? key (Encode.nonEmptyList other write l) = none := by
  unfold Encode.nonEmptyList
  split
  · rfl
  · simp [get?, h]

/-- What is put into a dictionary under different keys is found there. -/
theorem get?_foldl_insert {d : Dict α} (h : d.Ordered) (key : String) (acc : Dict α) :
    get? key (d.foldl (fun d (k, v) => insert k v d) acc) = (get? key d).or (get? key acc) := by
  induction d generalizing acc with
  | nil => simp
  | cons p d ih =>
    obtain ⟨hp, hd⟩ := List.pairwise_cons.1 h
    rw [List.foldl_cons, ih hd, get?]
    by_cases hk : p.1 = key
    · subst hk
      rw [get?_eq_none_of_lt hp]
      simp
    · rw [if_neg hk, get?_insert_of_ne (Ne.symm hk)]

end Dict

theorem OrderedDict.get?_ofList (d : OrderedDict α) (key : String) :
    (OrderedDict.ofList d.entries).get? key = d.get? key := by
  have h := Dict.get?_foldl_insert d.ordered key []
  rwa [Dict.get?_nil, Option.or_none] at h

open Decode Encode

/-- An optional field is read back if its value is. -/
theorem maybe_written {d : Decoder α} {write : β → Json} {key : String} {ms : Dict Json}
    {o : Option β} {found : Option α} (hg : ms.get? key = o.map write)
    (hw : ∀ b, write b ≠ .null) (h : maybe d key ms = some found) :
    (o = none ∧ found = none) ∨ ∃ b a, o = some b ∧ found = some a ∧ d (write b) = some a := by
  unfold maybe at h
  rw [hg] at h
  cases o with
  | none => exact .inl ⟨rfl, (Option.some.inj h).symm⟩
  | some b =>
    have hn := hw b
    rw [Option.map_some] at h
    split at h
    · rename_i hv
      cases hv
    · rename_i hv
      exact absurd (Option.some.inj hv) hn
    · rename_i v _ hv
      obtain rfl := Option.some.inj hv
      obtain ⟨a, ha, rfl⟩ := Option.map_eq_some_iff.1 h
      exact .inr ⟨b, a, rfl, rfl, ha⟩

theorem maybe_string_written {key : String} {ms : Dict Json} {o found : Option String}
    (hg : ms.get? key = o.map .str) (h : maybe string key ms = some found) : found = o := by
  rcases maybe_written hg (fun _ => by simp) h with ⟨rfl, rfl⟩ | ⟨b, a, rfl, rfl, ha⟩
  · rfl
  · exact congrArg some (Option.some.inj ha).symm

theorem dict_string_written (d : Dict String) :
    Decode.dict string (Encode.dict .str d) = some d := by
  have h (d : Dict String) : ((d.map fun p => (p.1, Json.str p.2)).mapM fun p =>
      (string p.2).map (p.1, ·)) = some d := by
    induction d with
    | nil => rfl
    | cons p d ih =>
      rw [List.map_cons, List.mapM_cons, ih]
      rfl
  exact h d

namespace ObjectMeta

theorem get?_member (m : ObjectMeta) :
    Dict.get? "name" m.members = m.name.map .str ∧
      Dict.get? "generateName" m.members = m.generateName.map .str ∧
      Dict.get? "namespace" m.members = m.inNamespace.map .str := by
  refine ⟨?_, ?_, ?_⟩ <;>
    simp [members, unannotated, encode, Json.membersOrNone, Dict.get?_append, Dict.get?_present]

/-- The fields that the import goes by, as they are read. -/
theorem maybe_of_decode {v : Json} {m : ObjectMeta} (h : decode v = some m) :
    ∃ ms, Decode.members v = some ms ∧
      maybe (orderedDict string) "annotations" ms = some m.annotations ∧
      maybe string "generateName" ms = some m.generateName ∧
      maybe string "name" ms = some m.name ∧ maybe string "namespace" ms = some m.inNamespace := by
  obtain ⟨ms, hms, hannotations, -, -, -, -, hgenerateName, -, -, -, hname, hinNamespace, -⟩ :=
    decode_eq_some.1 h
  exact ⟨ms, hms, hannotations, hgenerateName, hname, hinNamespace⟩

structure Agrees (m n : ObjectMeta) : Prop where
  annotation : ∀ key, n.annotation? key = m.annotation? key
  anyName : n.anyName = m.anyName
  inNamespace : n.inNamespace = m.inNamespace

theorem agrees_of_decode {m n : ObjectMeta} (h : decode m.encode = some n) : Agrees m n := by
  rw [m.encode_eq] at h
  obtain ⟨ms, hms, hannotations, hgenerateName, hname, hinNamespace⟩ := maybe_of_decode h
  obtain rfl : m.members = ms := Option.some.inj hms
  obtain ⟨hgetName, hgetGenerateName, hgetNamespace⟩ := m.get?_member
  refine ⟨fun key => ?_, ?_, maybe_string_written hgetNamespace hinNamespace⟩
  · unfold annotation?
    rcases maybe_written m.get?_annotations (fun _ => by simp [Encode.dict]) hannotations with
      ⟨hm, hn⟩ | ⟨d, e, hm, hn, he⟩
    · rw [hm, hn]
    · rw [orderedDict, dict_string_written, Option.map_some] at he
      rw [hm, hn, ← Option.some.inj he, Option.bind_some, Option.bind_some, d.get?_ofList]
  · rw [anyName, anyName, maybe_string_written hgetName hname,
      maybe_string_written hgetGenerateName hgenerateName]

end ObjectMeta

theorem Condition.of_decode {c d : Condition} (h : decode c.encode = some d) :
    d.type = c.type ∧ d.status = c.status := by
  obtain ⟨_, hms, htype, hstatus, -⟩ := decode_eq_some.1 h
  cases hms
  constructor
  · simpa [required, Dict.get?_append, Dict.get?_present, Dict.get?, string] using htype.symm
  · simpa [required, Dict.get?_append, Dict.get?_present, Dict.get?, string] using hstatus.symm

theorem conditions_of_mapM {conditions read : List Condition}
    (h : (conditions.map (·.encode)).mapM Condition.decode = some read) :
    read.map (fun d => (d.type, d.status)) = conditions.map fun d => (d.type, d.status) := by
  induction conditions generalizing read with
  | nil =>
    cases h
    rfl
  | cons c conditions ih =>
    rw [List.map_cons, List.mapM_cons] at h
    obtain ⟨d, hd, h⟩ := Option.bind_eq_some_iff.1 h
    obtain ⟨rest, hrest, h⟩ := Option.bind_eq_some_iff.1 h
    cases h
    obtain ⟨htype, hstatus⟩ := Condition.of_decode hd
    rw [List.map_cons, List.map_cons, ih hrest, htype, hstatus]

/-- A list that is left out if it is empty. -/
theorem list_written {d : Decoder α} {write : β → Json} {key : String} {ms : Dict Json}
    {l : List β} {found : List α} (hg : ms.get? key = Dict.get? key (nonEmptyList key write l))
    (h : orDefault [] (Decode.list d) key ms = some found) :
    (l.map write).mapM d = some found := by
  unfold orDefault at h
  rw [hg] at h
  cases l with
  | nil => exact h
  | cons b l => simpa [nonEmptyList, Dict.get?, Decode.list] using h

namespace CapiClusterStatus

theorem of_decode {s t : CapiClusterStatus} (h : decode s.encode = some t) :
    t.controlPlaneReady = s.controlPlaneReady ∧
      t.conditions.map (fun d => (d.type, d.status)) =
        s.conditions.map fun d => (d.type, d.status) := by
  obtain ⟨_, hms, -, -, hready, hconditions, -⟩ := decode_eq_some.1 h
  cases hms
  constructor
  · simpa [orDefault, Dict.get?_append, Dict.get?_nonEmptyList_of_ne, Dict.get?, boolean]
      using hready.symm
  · refine conditions_of_mapM (list_written ?_ hconditions)
    simp [Dict.get?_append, Dict.get?_present, Dict.get?]

end CapiClusterStatus

namespace CapiCluster

structure Agrees (c d : CapiCluster) : Prop where
  metadata : ObjectMeta.Agrees c.metadata d.metadata
  ready : d.isControlPlaneReady = c.isControlPlaneReady

/-- The parts that the import goes by, as they are read. -/
theorem parts_of_decode {v : Json} {d : CapiCluster} (h : decode v = some d) :
    ∃ ms, root v = some ms ∧ required ObjectMeta.decode "metadata" ms = some d.metadata ∧
      maybe CapiClusterStatus.decode "status" ms = some d.status := by
  obtain ⟨ms, hms, hmetadata, -, hstatus⟩ := decode_eq_some.1 h
  exact ⟨ms, hms, hmetadata, hstatus⟩

theorem any_conditions {first second : List Condition} (type : String)
    (h : first.map (fun d => (d.type, d.status)) = second.map fun d => (d.type, d.status)) :
    first.any (fun d => d.type == type && d.status == "True") =
      second.any fun d => d.type == type && d.status == "True" := by
  have hmap (l : List Condition) : l.any (fun d => d.type == type && d.status == "True") =
      (l.map fun d => (d.type, d.status)).any fun p => p.1 == type && p.2 == "True" := by
    rw [List.any_map]
    rfl
  rw [hmap, hmap, h]

/-- A cluster is read back as one that the import treats alike. -/
theorem agrees_of_decode {c d : CapiCluster} (h : decode c.encode = some d) : Agrees c d := by
  obtain ⟨ms, hms, hmetadata, hstatus⟩ := parts_of_decode h
  obtain rfl : c.members c.metadata.encode ++ present "status" CapiClusterStatus.encode c.status =
    ms := Option.some.inj hms
  have hm : ObjectMeta.decode c.metadata.encode = some d.metadata := by
    simpa [required, members, Dict.get?] using hmetadata
  refine ⟨ObjectMeta.agrees_of_decode hm, ?_⟩
  have hg : Dict.get? "status" (c.members c.metadata.encode ++
      present "status" CapiClusterStatus.encode c.status) =
      c.status.map CapiClusterStatus.encode := by
    simp [members, Dict.get?_present, Dict.get?]
  unfold isControlPlaneReady conditionIsTrue
  rcases maybe_written hg (fun s => by simp [CapiClusterStatus.encode]) hstatus with
    ⟨hc, hd⟩ | ⟨s, t, hc, hd, ht⟩
  · rw [hc, hd]
  · obtain ⟨hready, hconditions⟩ := CapiClusterStatus.of_decode ht
    rw [hc, hd]
    simp only [Option.any_some, hready, any_conditions _ hconditions]

theorem isMarked_marked (c : CapiCluster) : c.marked.isMarked = true := by
  have h : c.marked.metadata.annotation? importedAnnotation = some "true" :=
    Dict.get?_insert_self _ _ _
  rw [isMarked, h]
  rfl

theorem Agrees.isMarked {c d : CapiCluster} (h : Agrees c d) : d.isMarked = c.isMarked := by
  rw [CapiCluster.isMarked, CapiCluster.isMarked, h.metadata.annotation]

theorem Agrees.rancherKey {c d : CapiCluster} (h : Agrees c d) :
    rancherKey d = rancherKey c := by
  rw [ClusterImport.rancherKey, ClusterImport.rancherKey, h.metadata.inNamespace,
    h.metadata.anyName]

end CapiCluster

end ClusterImport

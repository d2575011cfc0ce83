import ClusterImport.Proofs.Codec
import ClusterImport.Proofs.TimestampText
/-!
The codecs of a CAPI cluster: of the values of its fields, of its metadata and of its specification.
-/
namespace ClusterImport

open Json Decode Encode

variable {α : Type}

def InBits (bits : Nat) (n : Int) : Prop := -Int.pow 2 (bits - 1) ≤ n ∧ n < Int.pow 2 (bits - 1)

namespace Codec

def text : Codec String :=
  exact string .str (fun _ => True) (fun _ => nofun) (fun _ => rfl) (fun _ _ => rfl)

def flag : Codec Bool :=
  exact boolean .bool (fun _ => True) (fun _ => nofun) (fun _ => rfl) (fun _ _ => rfl)

def integer (bits : Nat) : Codec Int :=
  exact (Decode.integer bits) .int (InBits bits) (fun _ => nofun) (fun _ => rfl) fun n h => by
    have hn : (-Int.pow 2 (bits - 1) ≤ n && n < Int.pow 2 (bits - 1) : Bool) = true := by
      simpa [InBits] using h
    exact if_pos hn

/-- Times are written without fractions of a second. -/
def time : Codec Timestamp :=
  plain timestamp (.str ·.renderSeconds) Timestamp.Clock id (fun _ => nofun) (fun _ => rfl)
    (fun t h => by
      obtain ⟨u, hu, he⟩ := Timestamp.ofText?_renderSeconds h
      refine ⟨u, hu, ?_⟩
      rw [he]
      exact beq_self _)
    (fun _ _ _ _ h => h)

theorem list_reread {d : Decoder α} {write : α → Json} {settled : α → α} {l : List α}
    (h : ∀ a ∈ l, ∃ b, d (write a) = some b ∧ (write b == write (settled a)) = true) :
    ∃ found, (l.map write).mapM d = some found ∧
      eqvItems (found.map write) ((l.map settled).map write) = true := by
  induction l with
  | nil => exact ⟨[], rfl, rfl⟩
  | cons a l ih =>
    obtain ⟨b, hb, he⟩ := h a (by simp)
    obtain ⟨found, hfound, hes⟩ := ih fun x hx => h x (List.mem_cons_of_mem a hx)
    have hab : eqv (write b) (write (settled a)) = true := he
    refine ⟨b :: found, ?_, by simp only [List.map_cons, eqvItems, hab, hes, Bool.and_self]⟩
    rw [List.map_cons, List.mapM_cons, hb, hfound]
    rfl

theorem list_same {d : Decoder α} {write : α → Json} {settled : α → α}
    (h : ∀ raw a b, d raw = some a → (write a == write b) = true →
      (write a == write (settled b)) = true)
    {items : List Json} {found l : List α} (hread : items.mapM d = some found)
    (he : eqvItems (found.map write) (l.map write) = true) :
    eqvItems (found.map write) ((l.map settled).map write) = true := by
  induction items generalizing found l with
  | nil =>
    cases hread
    cases l with
    | nil => rfl
    | cons b l => cases he
  | cons item items ih =>
    rw [List.mapM_cons] at hread
    obtain ⟨a, ha, hrest⟩ := Option.bind_eq_some_iff.1 hread
    obtain ⟨as, has, hcons⟩ := Option.bind_eq_some_iff.1 hrest
    cases hcons
    cases l with
    | nil => cases he
    | cons b l =>
      simp only [List.map_cons, eqvItems, Bool.and_eq_true] at he ⊢
      exact ⟨h item a b ha he.1, ih has he.2⟩

/-- Every value of a list that is read is read from an item. -/
theorem mem_of_list {d : Decoder α} {v : Json} {l : List α} (h : Decode.list d v = some l) {a : α}
    (ha : a ∈ l) : ∃ item, d item = some a := by
  cases v with
  | arr items =>
    induction items generalizing l with
    | nil =>
      cases h
      cases ha
    | cons item items ih =>
      rw [Decode.list, List.mapM_cons] at h
      obtain ⟨b, hb, hrest⟩ := Option.bind_eq_some_iff.1 h
      obtain ⟨rest, hitems, hcons⟩ := Option.bind_eq_some_iff.1 hrest
      cases hcons
      rcases List.mem_cons.1 ha with rfl | ha
      · exact ⟨item, hb⟩
      · exact ih ha hitems
  | _ => cases h

def list (d : Decoder α) (write : α → Json) (Fits : α → Prop) (settled : α → α)
    (reread : ∀ a, Fits a → ∃ b, d (write a) = some b ∧ (write b == write (settled a)) = true)
    (same : ∀ raw a b, d raw = some a → (write a == write b) = true →
      (write a == write (settled b)) = true) : Codec (List α) :=
  plain (Decode.list d) (Encode.list write) (fun l => ∀ a ∈ l, Fits a) (List.map settled)
    (fun _ => nofun) (fun _ => rfl)
    (fun l h => list_reread fun a ha => reread a (h a ha))
    (fun raw a b hread he => by
      cases raw with
      | arr items => exact list_same same hread he
      | _ => cases hread)

end Codec

/-! Labels and annotations have no member of their own that is not modelled: what is read is what
stands there. -/

theorem OrderedDict.ofList_entries (d : OrderedDict α) : OrderedDict.ofList d.entries = d := by
  have he : (OrderedDict.ofList d.entries).entries = d.entries :=
    Dict.ext_get? (OrderedDict.ofList d.entries).ordered d.ordered d.get?_ofList
  cases d
  cases hd : OrderedDict.ofList _
  rw [hd] at he
  cases he
  rfl

theorem read_texts (d : OrderedDict String) :
    orderedDict string (Encode.dict .str d.entries) = some d := by
  rw [orderedDict, dict_string_written, Option.map_some, d.ofList_entries]

theorem mapM_string {ms : Dict Json} {d : Dict String}
    (h : ms.mapM (fun p => (string p.2).map (p.1, ·)) = some d) :
    ms = d.map fun p => (p.1, Json.str p.2) := by
  induction ms generalizing d with
  | nil =>
    cases h
    rfl
  | cons p ms ih =>
    rw [List.mapM_cons] at h
    obtain ⟨q, hq, hrest⟩ := Option.bind_eq_some_iff.1 h
    obtain ⟨e, he, hcons⟩ := Option.bind_eq_some_iff.1 hrest
    cases hcons
    obtain ⟨k, v⟩ := p
    cases v with
    | str s =>
      cases hq
      rw [List.map_cons, ← ih he]
    | _ => cases hq

theorem eq_of_read_texts {raw : Json} {d : OrderedDict String} (hraw : raw.Ordered)
    (h : orderedDict string raw = some d) : raw = Encode.dict .str d.entries := by
  obtain ⟨entries, he, rfl⟩ := Option.map_eq_some_iff.1 h
  cases raw with
  | obj ms =>
    obtain rfl := mapM_string he
    have hentries : Dict.Ordered entries := by
      simpa [Dict.Ordered, List.pairwise_map] using hraw.1
    exact congrArg (Encode.dict .str ·.entries)
      (OrderedDict.ofList_entries ⟨entries, hentries⟩).symm
  | _ => cases he

theorem overlay_texts (a b : OrderedDict String) :
    overlay (Encode.dict .str a.entries) (Encode.dict .str a.entries) (Encode.dict .str b.entries) =
      Encode.dict .str b.entries := by
  rw [Encode.dict, Encode.dict, overlay_obj]
  refine congrArg obj (Dict.ext_get? (ordered_mergeMembers (ordered_strings a) _)
    (ordered_strings b) fun key => ?_)
  rw [get?_overlay (ordered_strings a) (ordered_strings b), get?_strings, get?_strings]
  cases Dict.get? key a.entries with
  | none =>
    cases Dict.get? key b.entries with
    | none => rfl
    | some w => rfl
  | some v =>
    cases Dict.get? key b.entries with
    | none => rfl
    | some w =>
      rw [Option.map_some, Option.map_some,
        overlayMember_changed (show Json.str w ≠ null from nofun), overlay, diff_str]
      by_cases h : v = w
      · rw [if_pos h, h]
      · rw [if_neg h]
        rfl

def Codec.texts : Codec (OrderedDict String) where
  read := orderedDict string
  write d := Encode.dict .str d.entries
  Shaped _ := True
  Fits _ := True
  settled := id
  write_ne_null _ := nofun
  merge_null d := congrArg obj (mergeMembers_nil (ordered_strings d) fun p hp => by
    obtain ⟨q, -, rfl⟩ := List.mem_map.1 hp
    exact ⟨nofun, rfl⟩)
  diff_eq_none a b := diff_obj_eq_none_iff (ordered_strings a) (ordered_strings b)
    fun key v w _ hw => by
      rw [get?_strings] at hw
      obtain ⟨s, -, rfl⟩ := Option.map_eq_some_iff.1 hw
      exact diff_eq_none_of_not_object rfl v
  reread {d} _ := ⟨d, read_texts d, beq_self _⟩
  follow {raw a b} hraw _ hread _ := by
    refine ⟨b, ?_, beq_self _⟩
    rw [eq_of_read_texts hraw hread, overlay_texts, read_texts]

theorem OwnerReference.decode_encode (r : OwnerReference) : decode r.encode = some r := by
  obtain ⟨_, _, _, _, block, controller⟩ := r
  cases block <;> cases controller <;> rfl

namespace ManagedFields

/-- Null is no set of fields. -/
def settled (f : ManagedFields) : ManagedFields :=
  { f with fieldsV1 := f.fieldsV1.filter fun v => !v matches null }

def members (f : ManagedFields) : Dict Json := membersOrNone f.encode

theorem maybe_string {f : ManagedFields} {key : String} {o : Option String}
    (h : Dict.get? key f.members = o.map .str) : maybe string key f.members = some o := by
  cases o with
  | none => exact maybe_of_none h
  | some s => exact maybe_of_some h (by simp)

theorem maybe_strings (f : ManagedFields) :
    maybe string "apiVersion" f.members = some f.apiVersion ∧
      maybe string "fieldsType" f.members = some f.fieldsType ∧
      maybe string "manager" f.members = some f.manager ∧
      maybe string "operation" f.members = some f.operation ∧
      maybe string "subresource" f.members = some f.subresource := by
  refine ⟨?_, ?_, ?_, ?_, ?_⟩ <;> apply maybe_string <;>
    simp [members, encode, membersOrNone, Dict.get?_append, Dict.get?_present]

theorem get?_fieldsV1 (f : ManagedFields) : Dict.get? "fieldsV1" f.members = f.fieldsV1 := by
  simp [members, encode, membersOrNone, Dict.get?_append, Dict.get?_present]

theorem maybe_fieldsV1 (f : ManagedFields) :
    maybe any "fieldsV1" f.members = some f.settled.fieldsV1 := by
  have h := f.get?_fieldsV1
  rw [settled]
  cases hv : f.fieldsV1 with
  | none =>
    rw [hv] at h
    exact maybe_of_none h
  | some v =>
    rw [hv] at h
    cases v with
    | null => exact maybe_of_null h
    | _ => exact maybe_of_some h (by simp)

theorem maybe_time {f : ManagedFields} (hf : ∀ t ∈ f.time, t.Clock) :
    ∃ time, maybe timestamp "time" f.members = some time ∧
      present "time" (.str ·.renderSeconds) time =
        present "time" (.str ·.renderSeconds) f.time := by
  have h : Dict.get? "time" f.members = f.time.map (Json.str ·.renderSeconds) := by
    simp [members, encode, membersOrNone, Dict.get?_append, Dict.get?_present]
  cases ht : f.time with
  | none =>
    rw [ht] at h
    exact ⟨none, maybe_of_none h, rfl⟩
  | some t =>
    obtain ⟨u, hu, he⟩ := Timestamp.ofText?_renderSeconds (hf t ht)
    rw [ht] at h
    refine ⟨some u, ?_, by simp [present, he]⟩
    rw [maybe_of_some h (by simp), show timestamp (.str t.renderSeconds) = some u from hu,
      Option.map_some]

theorem decode_encode {f : ManagedFields} (hf : ∀ t ∈ f.time, t.Clock) :
    ∃ g, decode f.encode = some g ∧ g.encode = f.settled.encode := by
  obtain ⟨hversion, htype, hmanager, hoperation, hsubresource⟩ := f.maybe_strings
  obtain ⟨time, htime, hwritten⟩ := maybe_time hf
  refine ⟨{ f.settled with time }, ?_, ?_⟩
  · have hencode : f.encode = .obj f.members := rfl
    simp only [hencode, decode, Decode.members, Option.bind_eq_bind, Option.bind_some, hversion,
      htype, f.maybe_fieldsV1, hmanager, hoperation, hsubresource, htime]
    rfl
  · rw [encode, encode, hwritten]
    rfl

theorem fieldsV1_ne_null {v : Json} {f : ManagedFields} (h : decode v = some f) :
    f.fieldsV1 ≠ some null := by
  obtain ⟨ms, -, -, -, hfields, -⟩ := decode_eq_some.1 h
  exact fun hn => ne_null_of_maybe_any hfields null hn rfl

theorem settled_eq_self {f : ManagedFields} (h : f.fieldsV1 ≠ some null) : f.settled = f := by
  obtain ⟨_, _, fields, _, _, _, _⟩ := f
  cases fields with
  | none => rfl
  | some v =>
    cases v with
    | null => exact absurd rfl h
    | _ => rfl

/-- A value that is written like one that was read is settled. -/
theorem settled_of_same {f g : ManagedFields} (hf : f.fieldsV1 ≠ some null)
    (he : (f.encode == g.encode) = true) : g.settled = g := by
  have hrel := get?_of_eqvMembers (a := f.members) (b := g.members) he "fieldsV1"
  rw [get?_fieldsV1, get?_fieldsV1] at hrel
  have hg : g.fieldsV1 ≠ some null := by
    intro hnull
    rw [hnull] at hrel
    generalize f.fieldsV1 = o at hf hrel
    cases hrel with
    | some hv =>
      rename_i v
      cases v with
      | null => exact hf rfl
      | _ => cases hv
  exact settled_eq_self hg

end ManagedFields

namespace Codec

def strings : Codec (List String) :=
  list string .str (fun _ => True) id (fun s _ => ⟨s, rfl, beq_self _⟩) (fun _ _ _ _ h => h)

def owners : Codec (List OwnerReference) :=
  list OwnerReference.decode OwnerReference.encode (fun _ => True) id
    (fun r _ => ⟨r, r.decode_encode, beq_self _⟩) (fun _ _ _ _ h => h)

def managed : Codec (List ManagedFields) :=
  list ManagedFields.decode ManagedFields.encode (fun f => ∀ t ∈ f.time, t.Clock)
    ManagedFields.settled
    (fun f h => by
      obtain ⟨g, hg, he⟩ := ManagedFields.decode_encode h
      exact ⟨g, hg, he ▸ beq_self _⟩)
    (fun v f g hread he => by
      rwa [ManagedFields.settled_of_same (ManagedFields.fieldsV1_ne_null hread) he])

end Codec

namespace ApiEndpoint

def layout : Layout (String × Int) :=
  (Layout.defaulted "host" "" .text (fun _ => rfl) fun _ => rfl).and
    (.defaulted "port" 0 (.integer 32) (fun _ => rfl) fun _ => rfl) (by decide)

def codec : Codec ApiEndpoint :=
  layout.codec (by decide) (fields ["host", "port"]) (fun _ => rfl)
    (fun p => ⟨p.1, p.2⟩) (fun e => (e.host, e.port)) fun _ => rfl

theorem codec_read : codec.read = decode := by
  funext v
  simp only [codec, layout, Layout.codec, Layout.and, Layout.defaulted, Option.map_eq_bind,
    Function.comp_def, Option.bind_assoc, Option.bind_some]
  rfl

theorem codec_write : codec.write = encode := rfl

end ApiEndpoint

namespace ObjectReference

def layout : Layout (Option String × Option String × Option String × Option String) :=
  Layout.optional "namespace" .text
    |>.before "name" .text (by decide)
    |>.before "kind" .text (by decide)
    |>.before "apiVersion" .text (by decide)

def codec : Codec ObjectReference :=
  layout.codec (by decide) (fields ["apiVersion", "kind", "name", "namespace"]) (fun _ => rfl)
    (fun (a, k, n, s) => ⟨a, k, n, s⟩) (fun r => (r.apiVersion, r.kind, r.name, r.inNamespace))
    fun _ => rfl

theorem codec_read : codec.read = decode := by
  funext v
  refine (Layout.codec_read v).trans ?_
  simp only [layout, Layout.before_read_bind]
  rfl

theorem codec_write : codec.write = encode := by
  funext r
  refine (Layout.codec_write _).trans ?_
  simp only [layout, Layout.before_write, encode, List.append_assoc]
  rfl

end ObjectReference

namespace CapiClusterSpec

def layout : Layout
    (Option ApiEndpoint × Option ObjectReference × Option ObjectReference × Option Bool) :=
  Layout.optional "paused" .flag
    |>.before "infrastructureRef" ObjectReference.codec (by decide)
    |>.before "controlPlaneRef" ObjectReference.codec (by decide)
    |>.before "controlPlaneEndpoint" ApiEndpoint.codec (by decide)

def parts (s : CapiClusterSpec) :=
  (s.controlPlaneEndpoint, s.controlPlaneRef, s.infrastructureRef, s.paused)

def codec : Codec CapiClusterSpec :=
  layout.codec (by decide)
    (fields ["paused", "controlPlaneEndpoint", "controlPlaneRef", "infrastructureRef"])
    (fun _ => rfl) (fun (e, c, i, p) => ⟨p, e, c, i⟩)
    parts fun _ => rfl

theorem codec_read : codec.read = decode := by
  funext v
  have hflag : maybe Codec.flag.read "paused" = maybe boolean "paused" := rfl
  refine (Layout.codec_read v).trans ?_
  simp only [layout, Layout.before_read_bind, Layout.optional_read, ApiEndpoint.codec_read,
    ObjectReference.codec_read, hflag]
  refine congrArg _ (funext fun ms => ?_)
  -- the flag is read first and written last
  change _ = (maybe boolean "paused" ms).bind _
  cases maybe boolean "paused" ms with
  | none => simp
  | some p => rfl

theorem codec_write : codec.write = encode := by
  funext s
  refine (Layout.codec_write _).trans ?_
  simp only [layout, Layout.before_write, encode, List.append_assoc,
    ApiEndpoint.codec_write, ObjectReference.codec_write]
  rfl

theorem encode_eq_write (s : CapiClusterSpec) : s.encode = obj (layout.write s.parts) :=
  (congrFun codec_write s).symm

end CapiClusterSpec

namespace ObjectMeta

def layout : Layout (Option (OrderedDict String) × Option Timestamp × Option Int ×
    Option Timestamp × Option (List String) × Option String × Option Int ×
    Option (OrderedDict String) × Option (List ManagedFields) × Option String × Option String ×
    Option (List OwnerReference) × Option String × Option String × Option String) :=
  Layout.optional "uid" .text
    |>.before "selfLink" .text (by decide)
    |>.before "resourceVersion" .text (by decide)
    |>.before "ownerReferences" .owners (by decide)
    |>.before "namespace" .text (by decide)
    |>.before "name" .text (by decide)
    |>.before "managedFields" .managed (by decide)
    |>.before "labels" .texts (by decide)
    |>.before "generation" (.integer 64) (by decide)
    |>.before "generateName" .text (by decide)
    |>.before "finalizers" .strings (by decide)
    |>.before "deletionTimestamp" .time (by decide)
    |>.before "deletionGracePeriodSeconds" (.integer 64) (by decide)
    |>.before "creationTimestamp" .time (by decide)
    |>.before "annotations" .texts (by decide)

def parts (m : ObjectMeta) := (m.annotations, m.creationTimestamp, m.deletionGracePeriodSeconds,
  m.deletionTimestamp, m.finalizers, m.generateName, m.generation, m.labels, m.managedFields,
  m.name, m.inNamespace, m.ownerReferences, m.resourceVersion, m.selfLink, m.uid)

def codec : Codec ObjectMeta :=
  layout.codec (by decide) Decode.members (fun _ => rfl)
    (fun (annotations, creationTimestamp, deletionGracePeriodSeconds, deletionTimestamp, finalizers,
        generateName, generation, labels, managedFields, name, inNamespace, ownerReferences,
        resourceVersion, selfLink, uid) =>
      { annotations, creationTimestamp, deletionGracePeriodSeconds, deletionTimestamp, finalizers,
        generateName, generation, labels, managedFields, name, inNamespace, ownerReferences,
        resourceVersion, selfLink, uid })
    parts fun _ => rfl

theorem codec_read : codec.read = decode := by
  funext v
  refine (Layout.codec_read v).trans (congrArg (Option.bind _) (funext fun ms => ?_))
  -- one step for each member in front of the last
  iterate 14
    refine (Layout.before_read_bind _ _ _ ms _).trans
      (congrArg (Option.bind _) (funext fun _ => ?_))
  rfl

theorem codec_write : codec.write = encode := by
  funext m
  refine (Layout.codec_write _).trans ?_
  simp only [layout, Layout.before_write, encode, List.append_assoc]
  rfl

theorem encode_eq_write (m : ObjectMeta) : m.encode = obj (layout.write m.parts) :=
  (congrFun codec_write m).symm

theorem write_layout (m : ObjectMeta) : layout.write m.parts = m.members :=
  Json.obj.inj (m.encode_eq_write.symm.trans m.encode_eq)

end ObjectMeta

end ClusterImport

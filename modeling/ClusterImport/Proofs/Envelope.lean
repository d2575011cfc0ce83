import ClusterImport.Manifest.Object
import ClusterImport.Proofs.ReadBack
import ClusterImport.Proofs.Traversal
import Mathlib.Data.List.TakeWhile
/-!
The envelope of a manifest object and what is sent of it. The envelope is looked up in the value as
it stands, and the metadata that is sent has been read as metadata; whatever types and values the
members have, both say the same: version, kind, namespace and names.
-/
namespace ClusterImport

open Decode

namespace Manifest

def IsText (v : Option Json) (s : String) : Prop := v = some (.str s) ∧ s ≠ ""

structure Describes (members : Dict Json) : Prop where
  apiVersion : ∃ s, IsText (members.get? "apiVersion") s
  kind : ∃ s, IsText (members.get? "kind") s
  metadata : ∃ raw, members.get? "metadata" = some raw ∧
    (∃ s, IsText (raw.get? "name") s ∨ IsText (raw.get? "generateName") s) ∧
    ∃ metadata, ObjectMeta.decode raw = some metadata

namespace Object

theorem text?_eq_some_iff {v : Option Json} {s : String} : text? v = some s ↔ IsText v s := by
  unfold text? IsText
  cases v with
  | none => simp
  | some v =>
    cases v with
    | str t =>
      simp only [Option.bind_some, Json.str?, Option.filter_eq_some_iff, Option.some.injEq,
        Json.str.injEq, Bool.not_eq_true', String.isEmpty_eq_false_iff]
    | _ => simp [Json.str?]

theorem isSome_text?_iff {v : Option Json} : (text? v).isSome = true ↔ ∃ s, IsText v s := by
  rw [Option.isSome_iff_exists]
  exact exists_congr fun s => text?_eq_some_iff

structure ReadFrom (o : Object) (members : Dict Json) (raw : Json) (metadata : ObjectMeta) :
    Prop where
  found : members.get? "metadata" = some raw
  fits : ObjectMeta.decode raw = some metadata
  apiVersion : text? (members.get? "apiVersion") = some o.apiVersion
  kind : text? (members.get? "kind") = some o.kind
  name : o.name = text? (raw.get? "name")
  generateName : o.generateName = text? (raw.get? "generateName")
  inNamespace : o.inNamespace = text? (raw.get? "namespace")
  named : (o.name.or o.generateName).isSome = true
  payload : o.payload = Dict.insert "metadata" metadata.encode members

theorem isSome_or_iff {name generateName : Option String} :
    (name.or generateName).isSome = true ↔ (name.isNone && generateName.isNone) = false := by
  cases name <;> simp

theorem elim_error_eq_ok_iff {found : Option String} {fault : ObjectFault} {s : String} :
    found.elim (.error fault) .ok = Except.ok s ↔ found = some s := by
  cases found <;> simp

theorem ofJson_eq_ok_iff {v : Json} {o : Object} :
    ofJson v = .ok o ↔ ∃ members raw metadata, v = .obj members ∧
      ReadFrom o members raw metadata := by
  constructor
  · intro ho
    obtain ⟨apiVersion, ha, hrest⟩ := bind_eq_ok_iff.1 ho
    obtain ⟨kind, hk, h⟩ := bind_eq_ok_iff.1 hrest
    clear ho hrest
    rw [elim_error_eq_ok_iff] at ha hk
    dsimp only [bind, Except.bind] at h
    split at h
    · cases h
    · rename_i hnamed
      split at h
      · rename_i members metadata hmetadata
        obtain ⟨raw, hraw, hfits⟩ := Option.bind_eq_some_iff.1 hmetadata
        rw [hraw, Option.bind_some, Option.bind_some] at hnamed
        rw [hraw] at h
        cases h
        exact ⟨members, raw, metadata, rfl, hraw, hfits, ha, hk, rfl, rfl, rfl,
          isSome_or_iff.2 (eq_false_of_ne_true hnamed), rfl⟩
      · cases h
  · rintro ⟨members, raw, metadata, rfl, h⟩
    have hnamed := h.named
    rw [h.name, h.generateName] at hnamed
    have ho : o = ⟨o.apiVersion, o.kind, text? (raw.get? "name"), text? (raw.get? "generateName"),
        text? (raw.get? "namespace"), Dict.insert "metadata" metadata.encode members⟩ := by
      rw [← h.name, ← h.generateName, ← h.inNamespace, ← h.payload]
    have hget (key : String) : Json.get? key (.obj members) = Dict.get? key members := rfl
    rw [ho]
    simp only [ofJson, hget, h.found, h.apiVersion, h.kind, Option.elim_some, Option.bind_some,
      h.fits, bind, Except.bind, isSome_or_iff.1 hnamed, Bool.false_eq_true, if_false]
    rfl

/-- An optional text that is read is what stands there, and one that is empty counts as none. -/
theorem text?_of_maybe {key : String} {members : Dict Json} {found : Option String}
    (h : maybe string key members = some found) :
    text? (members.get? key) = text? (found.map .str) := by
  unfold maybe at h
  split at h
  · rename_i hg
    obtain rfl := Option.some.inj h
    rw [hg]
    rfl
  · rename_i hg
    obtain rfl := Option.some.inj h
    rw [hg]
    rfl
  · rename_i v _ hg
    obtain ⟨s, hs, rfl⟩ := Option.map_eq_some_iff.1 h
    cases v with
    | str t =>
      obtain rfl := Option.some.inj hs
      rw [hg]
      rfl
    | _ => cases hs

/-- Names and namespace are the same in the metadata that has been read and written. -/
theorem text?_encode {raw : Json} {metadata : ObjectMeta}
    (h : ObjectMeta.decode raw = some metadata) :
    text? (metadata.encode.get? "name") = text? (raw.get? "name") ∧
      text? (metadata.encode.get? "generateName") = text? (raw.get? "generateName") ∧
      text? (metadata.encode.get? "namespace") = text? (raw.get? "namespace") := by
  obtain ⟨members, hmembers, -, hgenerateName, hname, hinNamespace⟩ :=
    ObjectMeta.maybe_of_decode h
  obtain rfl : raw = .obj members := by
    cases raw with
    | obj ms => rw [Option.some.inj hmembers]
    | _ => cases hmembers
  obtain ⟨hwname, hwgenerateName, hwinNamespace⟩ := metadata.get?_member
  rw [metadata.encode_eq]
  refine ⟨?_, ?_, ?_⟩
  · exact (congrArg text? hwname).trans (text?_of_maybe hname).symm
  · exact (congrArg text? hwgenerateName).trans (text?_of_maybe hgenerateName).symm
  · exact (congrArg text? hwinNamespace).trans (text?_of_maybe hinNamespace).symm

/-- What stands after the last slash has none. -/
theorem takeWhile_reverse_of_slash {front back : List Char} (h : '/' ∉ back) :
    ((front ++ '/' :: back).reverse.takeWhile (· != '/')).reverse = back := by
  have hall : ∀ c ∈ back.reverse, (c != '/') = true := by
    intro c hc
    exact bne_iff_ne.2 fun e => h (e ▸ List.mem_reverse.1 hc)
  rw [List.reverse_append, List.reverse_cons, List.append_assoc,
    List.takeWhile_append_of_pos hall]
  simp

theorem groupVersion_of_slash {o : Object} {front back : List Char}
    (ho : o.apiVersion.toList = front ++ '/' :: back) (h : '/' ∉ back) :
    o.groupVersion = (String.ofList front, String.ofList back) := by
  have hne : back.length ≠ (front ++ '/' :: back).length := by simp; omega
  have hfront : (front ++ '/' :: back).length - back.length - 1 = front.length := by simp; omega
  simp only [groupVersion, ho, takeWhile_reverse_of_slash h, if_neg hne, hfront, List.take_left]

theorem groupVersion_of_no_slash {o : Object} (h : '/' ∉ o.apiVersion.toList) :
    o.groupVersion = ("", o.apiVersion) := by
  have hall : ∀ c ∈ o.apiVersion.toList.reverse, (c != '/') = true := by
    intro c hc
    exact bne_iff_ne.2 fun e => h (e ▸ List.mem_reverse.1 hc)
  simp [groupVersion, List.takeWhile_eq_self_iff.2 hall]

def joinedVersion (o : Object) : String :=
  if '/' ∈ o.apiVersion.toList then o.groupVersion.1 ++ "/" ++ o.groupVersion.2
  else o.groupVersion.2

/-- Group and version give the version that they were cut from; without a slash the group is
empty. -/
structure Cut (o : Object) : Prop where
  joined : o.joinedVersion = o.apiVersion
  version : '/' ∉ o.groupVersion.2.toList
  group : '/' ∉ o.apiVersion.toList → o.groupVersion.1 = ""

theorem cut (o : Object) : Cut o := by
  by_cases h : '/' ∈ o.apiVersion.toList
  · obtain ⟨back, front, hsplit, hback⟩ := List.eq_append_cons_of_mem (List.mem_reverse.2 h)
    have ho : o.apiVersion.toList = front.reverse ++ '/' :: back.reverse := by
      simpa using congrArg List.reverse hsplit
    have hno : '/' ∉ back.reverse := by simpa using hback
    have hcut := groupVersion_of_slash ho hno
    refine ⟨?_, ?_, fun hn => absurd h hn⟩
    · rw [joinedVersion, if_pos h, hcut, ← String.toList_inj, ho]
      simp
    · rw [hcut, String.toList_ofList]
      exact hno
  · have hcut := groupVersion_of_no_slash h
    refine ⟨?_, ?_, fun _ => ?_⟩
    · rw [joinedVersion, if_neg h, hcut]
    · rwa [hcut]
    · rw [hcut]

theorem displayName_eq {o : Object} (h : (o.name.or o.generateName).isSome = true) :
    o.name.or o.generateName = some o.displayName := by
  obtain ⟨s, hs⟩ := Option.isSome_iff_exists.1 h
  rw [displayName, hs]
  rfl

structure Agrees (o : Object) (members : Dict Json) (metadata : ObjectMeta) : Prop where
  written : o.payload.get? "metadata" = some metadata.encode
  others : ∀ key, key ≠ "metadata" → o.payload.get? key = members.get? key
  apiVersion : o.payload.get? "apiVersion" = some (.str o.apiVersion)
  kind : o.payload.get? "kind" = some (.str o.kind)
  name : ∀ s, o.name = some s ↔ IsText (metadata.encode.get? "name") s
  generateName : ∀ s, o.generateName = some s ↔ IsText (metadata.encode.get? "generateName") s
  inNamespace : ∀ s, o.inNamespace = some s ↔ IsText (metadata.encode.get? "namespace") s
  ordered : Dict.Ordered members → Dict.Ordered o.payload
  groupVersion : o.Cut
  displayName : o.displayName ≠ "" ∧
    (o.name = some o.displayName ∨ o.name = none ∧ o.generateName = some o.displayName)

namespace ReadFrom

variable {o : Object} {members : Dict Json} {raw : Json} {metadata : ObjectMeta}

theorem agrees (h : ReadFrom o members raw metadata) : Agrees o members metadata := by
  obtain ⟨hname, hgenerateName, hinNamespace⟩ := text?_encode h.fits
  have hothers (key : String) (hk : key ≠ "metadata") :
      Dict.get? key o.payload = Dict.get? key members := by
    rw [h.payload, Dict.get?_insert_of_ne hk]
  have htext {s : String} (hs : o.name = some s ∨ o.generateName = some s) : s ≠ "" := by
    rcases hs with hs | hs
    · exact (text?_eq_some_iff.1 (h.name ▸ hs)).2
    · exact (text?_eq_some_iff.1 (h.generateName ▸ hs)).2
  have hdisplay := Option.or_eq_some_iff.1 (displayName_eq h.named)
  exact {
    written := by rw [h.payload, Dict.get?_insert_self]
    others := hothers
    apiVersion := (hothers _ (by decide)).trans (text?_eq_some_iff.1 h.apiVersion).1
    kind := (hothers _ (by decide)).trans (text?_eq_some_iff.1 h.kind).1
    name := fun s => by rw [h.name, ← hname, text?_eq_some_iff]
    generateName := fun s => by rw [h.generateName, ← hgenerateName, text?_eq_some_iff]
    inNamespace := fun s => by rw [h.inNamespace, ← hinNamespace, text?_eq_some_iff]
    ordered := fun hd => by
      rw [h.payload]
      exact Dict.ordered_insert hd _ _
    groupVersion := o.cut
    displayName := ⟨htext (hdisplay.imp_right And.right), hdisplay⟩ }

theorem describes (h : ReadFrom o members raw metadata) : Describes members := by
  refine ⟨⟨_, text?_eq_some_iff.1 h.apiVersion⟩, ⟨_, text?_eq_some_iff.1 h.kind⟩,
    raw, h.found, ⟨o.displayName, ?_⟩, metadata, h.fits⟩
  rcases Option.or_eq_some_iff.1 (displayName_eq h.named) with hn | ⟨-, hg⟩
  · exact .inl (text?_eq_some_iff.1 (h.name ▸ hn))
  · exact .inr (text?_eq_some_iff.1 (h.generateName ▸ hg))

end ReadFrom

theorem exists_readFrom {members : Dict Json} (h : Describes members) :
    ∃ o raw metadata, ReadFrom o members raw metadata := by
  obtain ⟨⟨apiVersion, ha⟩, ⟨kind, hk⟩, raw, hraw, ⟨s, hs⟩, metadata, hm⟩ := h
  have hnamed : ((text? (raw.get? "name")).or (text? (raw.get? "generateName"))).isSome = true := by
    rw [Option.isSome_or, Bool.or_eq_true, isSome_text?_iff, isSome_text?_iff]
    exact hs.imp (⟨s, ·⟩) (⟨s, ·⟩)
  exact ⟨⟨apiVersion, kind, text? (raw.get? "name"), text? (raw.get? "generateName"),
    text? (raw.get? "namespace"), Dict.insert "metadata" metadata.encode members⟩, raw, metadata,
    hraw, hm, text?_eq_some_iff.2 ha, text?_eq_some_iff.2 hk, rfl, rfl, rfl, hnamed, rfl⟩

/-- A value is an object just if its members describe one, and what the envelope says of an object
is what its payload says: the members as they are, but with the metadata as it has been read. -/
theorem envelope_agrees (v : Json) :
    ((∃ o, ofJson v = .ok o) ↔ ∃ members, v = .obj members ∧ Describes members) ∧
    ∀ o, ofJson v = .ok o → ∃ members raw metadata, v = .obj members ∧
      Dict.get? "metadata" members = some raw ∧ ObjectMeta.decode raw = some metadata ∧
      Agrees o members metadata := by
  refine ⟨⟨?_, ?_⟩, fun o ho => ?_⟩
  · rintro ⟨o, ho⟩
    obtain ⟨members, raw, metadata, rfl, h⟩ := ofJson_eq_ok_iff.1 ho
    exact ⟨members, rfl, h.describes⟩
  · rintro ⟨members, rfl, h⟩
    obtain ⟨o, raw, metadata, ho⟩ := exists_readFrom h
    exact ⟨o, ofJson_eq_ok_iff.2 ⟨members, raw, metadata, rfl, ho⟩⟩
  · obtain ⟨members, raw, metadata, hv, h⟩ := ofJson_eq_ok_iff.1 ho
    exact ⟨members, raw, metadata, hv, h.found, h.fits, h.agrees⟩

def feederMetadata : Json :=
  .obj [("colour", .str "grey"), ("generateName", .str "feeder-"), ("labels", .null),
    ("name", .str ""), ("namespace", .str "pond")]

def feeder : Dict Json :=
  [("apiVersion", .str "apps/v1"), ("kind", .str "Deployment"), ("metadata", feederMetadata),
    ("spec", .arr [.null])]

/-- The server completes the name of a feeder; its namespace is the pond. -/
theorem envelope_agrees_feeder : Describes feeder ∧ ∃ o metadata, ofJson (.obj feeder) = .ok o ∧
    Agrees o feeder metadata ∧ o.displayName = "feeder-" ∧ o.inNamespace = some "pond" ∧
      o.groupVersion = ("apps", "v1") := by
  obtain ⟨haccept, hagrees⟩ := envelope_agrees (.obj feeder)
  have hfeeder : Describes feeder := by
    refine ⟨⟨"apps/v1", rfl, by decide⟩, ⟨"Deployment", rfl, by decide⟩, feederMetadata, rfl,
      ⟨"feeder-", .inr ⟨rfl, by decide⟩⟩, ?_⟩
    exact Option.isSome_iff_exists.1 (by decide)
  obtain ⟨o, ho⟩ := haccept.2 ⟨feeder, rfl, hfeeder⟩
  obtain ⟨members, raw, metadata, hv, -, -, h⟩ := hagrees o ho
  obtain rfl := Json.obj.inj hv
  have hread : (ofJson (.obj feeder)).toOption.map (fun o =>
      (o.displayName, o.inNamespace, o.groupVersion)) =
        some ("feeder-", some "pond", ("apps", "v1")) := by decide
  rw [ho] at hread
  simp only [Except.toOption, Option.map_some, Option.some.injEq, Prod.mk.injEq] at hread
  obtain ⟨hdisplay, hin, hgroup⟩ := hread
  exact ⟨hfeeder, o, metadata, ho, h, hdisplay, hin, hgroup⟩

end Object

end Manifest

end ClusterImport

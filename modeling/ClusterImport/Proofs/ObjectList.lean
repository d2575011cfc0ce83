import ClusterImport.Proofs.DocumentJoin
import ClusterImport.Proofs.Traversal
/-!
Lists of objects in a manifest. A list stands for its items: each is read as one object, as it would
be in a document of its own, and one that is no object spoils the whole document. What applies a
manifest depends on the objects of the stream and on the fault that ends it, so a list and a stream
of its items are applied in one and the same way.
-/
namespace ClusterImport

instance {W : Type} : LawfulMonad (Proc W) :=
  LawfulMonad.mk' _ (fun p => Proc.bind_done p) (fun _ _ => rfl) Proc.bind_assoc

namespace Manifest

variable {W : Type}

section Application

def endedBy (fault : Option ManifestError) (outcome : ApplyOutcome) : Import W ApplyOutcome :=
  match fault with
  | some f => throw (.manifest f)
  | none => pure outcome

theorem createAll_append (client : W) (first second : List Object) (outcome : ApplyOutcome) :
    createAll client (first ++ second) outcome =
      createAll client first outcome >>= createAll client second := by
  induction first generalizing outcome with
  | nil => exact (pure_bind outcome _).symm
  | cons o first ih =>
    rw [List.cons_append, createAll, createAll, bind_assoc]
    refine bind_congr fun x => ?_
    cases x with
    | ok _ => exact ih _
    | error e =>
      by_cases he : e.isAlreadyExists = true
      · simp only [he, if_true]
        exact ih _
      · simp only [he]
        rfl

theorem applyDocuments_eq (client : W) (documents : List String) (number : Nat)
    (outcome : ApplyOutcome) : applyDocuments client documents number outcome =
      createAll client (parseAll documents number).1 outcome >>=
        endedBy (parseAll documents number).2 := by
  induction documents generalizing number outcome with
  | nil => exact (pure_bind outcome _).symm
  | cons raw rest ih =>
    rw [applyDocuments, parseAll]
    cases parseDocument raw number with
    | error f => rfl
    | ok objects =>
      simp only [createAll_append, bind_assoc, ← ih]
      rfl

/-- The creates of a stream are those of its objects, and then the fault that ends it counts. -/
theorem apply_eq (client : W) (octets : List UInt8) : apply client octets =
    createAll client (contents octets).1 {} >>= endedBy (contents octets).2 := by
  rw [apply, contents]
  simp only [applyDocuments_eq, bind_assoc]
  refine bind_congr fun outcome => ?_
  cases (parseAll (DocumentReader.ofOctets octets).readAll.1 1).2 with
  | some f => rfl
  | none =>
    cases (DocumentReader.ofOctets octets).readAll.2 <;> rfl

theorem apply_congr {octets other : List UInt8} (h : contents octets = contents other)
    (client : W) : apply client octets = apply client other := by
  rw [apply_eq, apply_eq, h]

theorem contents_of_readText {text : String} {texts : List String}
    (h : readText text = (texts, none)) : contents text.toByteArray.toList = parseAll texts 1 := by
  rw [readText] at h
  rw [contents, h]
  exact Prod.ext rfl Option.or_none

end Application

structure Holds (raw : String) (v : Json) : Prop where
  content : hasContent raw = true
  value : Yaml.read? raw = some v

/-- A value whose kind ends in `List` and whose items are an array. -/
structure IsList (v : Json) (items : List Json) : Prop where
  kind : ∃ kind : String, v.get? "kind" = some (.str kind) ∧ "List".toList <:+ kind.toList
  items : v.get? "items" = some (.arr items)

theorem endsWith_iff {s ending : String} :
    s.endsWith ending = true ↔ ending.toList <:+ s.toList := by
  rw [String.endsWith_eq_endsWith_toSlice, String.Slice.endsWith_string_iff, String.copy_toSlice]

theorem listItems?_eq_some_iff {v : Json} {items : List Json} :
    listItems? v = some items ↔ IsList v items := by
  have hkind : ((v.get? "kind").bind Json.str?).any (·.endsWith "List") = true ↔
      ∃ kind : String, v.get? "kind" = some (.str kind) ∧ "List".toList <:+ kind.toList := by
    simp only [Option.any_eq_true, Option.bind_eq_some_iff, endsWith_iff]
    constructor
    · rintro ⟨kind, ⟨k, hk, hs⟩, hend⟩
      cases k with
      | str t =>
        obtain rfl := Option.some.inj hs
        exact ⟨t, hk, hend⟩
      | _ => cases hs
    · rintro ⟨kind, hk, hend⟩
      exact ⟨kind, ⟨_, hk, rfl⟩, hend⟩
  unfold listItems?
  split
  · rename_i found hitems
    rw [Option.ite_none_right_eq_some, hkind]
    constructor
    · rintro ⟨hk, hsame⟩
      exact ⟨hk, by rw [hitems, Option.some.inj hsame]⟩
    · rintro ⟨hk, hi⟩
      rw [hitems] at hi
      exact ⟨hk, congrArg some (Json.arr.inj (Option.some.inj hi))⟩
  · rename_i hno
    exact ⟨nofun, fun h => absurd h.items (hno items)⟩

namespace Holds

variable {raw : String} {v : Json} {items : List Json}

theorem parseDocument_eq (h : Holds raw v) (number : Nat) :
    parseDocument raw number = (objectsOf v).mapError (.object number) := by
  rw [parseDocument, h.content, h.value]
  rfl

theorem parseDocument_list (h : Holds raw v) (hv : IsList v items) (number : Nat) :
    parseDocument raw number = (items.mapM Object.ofJson).mapError (.object number) := by
  rw [h.parseDocument_eq, objectsOf.eq_def, listItems?_eq_some_iff.2 hv]
  cases v with
  | obj => rfl
  | _ => cases hv.items

/-- A value that is no list is read as one object, if it is one. -/
theorem parseDocument_single (h : Holds raw v) (hv : ∀ items, ¬IsList v items) (number : Nat)
    {o : Object} : parseDocument raw number = .ok [o] ↔ Object.ofJson v = .ok o := by
  have hno : listItems? v = none :=
    Option.eq_none_iff_forall_ne_some.2 fun items hi => hv items (listItems?_eq_some_iff.1 hi)
  rw [h.parseDocument_eq]
  cases v with
  | obj members =>
    simp only [objectsOf, hno]
    cases Object.ofJson (.obj members) <;> simp [Except.map, Except.mapError]
  | _ => constructor <;> nofun

end Holds

structure Expands (raw : String) (number : Nat) (items : List Json) : Prop where
  objects : ∀ objects, parseDocument raw number = .ok objects ↔
    List.Forall₂ (fun item o => Object.ofJson item = .ok o) items objects
  accepted : (∃ objects, parseDocument raw number = .ok objects) ↔
    ∀ item ∈ items, ∃ o, Object.ofJson item = .ok o
  refused : ∀ f, parseDocument raw number = .error f ↔ ∃ before item after reason,
    items = before ++ item :: after ∧ (∀ i ∈ before, ∃ o, Object.ofJson i = .ok o) ∧
      Object.ofJson item = .error reason ∧ f = .object number reason

theorem Holds.expands {raw : String} {v : Json} {items : List Json} (h : Holds raw v)
    (hv : IsList v items) (number : Nat) : Expands raw number items := by
  have hobjects (objects : List Object) : parseDocument raw number = .ok objects ↔
      List.Forall₂ (fun item o => Object.ofJson item = .ok o) items objects := by
    rw [h.parseDocument_list hv, mapError_eq_ok_iff, mapM_eq_ok_iff]
  refine ⟨hobjects, ?_, fun f => ?_⟩
  · rw [exists_congr hobjects, exists_forall₂_iff]
  · rw [h.parseDocument_list hv, mapError_eq_error_iff]
    simp only [mapM_eq_error_iff]
    constructor
    · rintro ⟨reason, ⟨before, item, after, hsplit, hbefore, hitem⟩, rfl⟩
      exact ⟨before, item, after, reason, hsplit, hbefore, hitem, rfl⟩
    · rintro ⟨before, item, after, reason, hsplit, hbefore, hitem, rfl⟩
      exact ⟨reason, ⟨before, item, after, hsplit, hbefore, hitem⟩, rfl⟩

structure Alone (item : Json) (text : String) : Prop where
  holds : Holds text item
  single : ∀ items, ¬IsList item items

theorem parseAll_alone {items : List Json} {texts : List String} {objects : List Object}
    (ht : List.Forall₂ Alone items texts)
    (ho : List.Forall₂ (fun item o => Object.ofJson item = .ok o) items objects) (number : Nat) :
    parseAll texts number = (objects, none) := by
  induction ht generalizing objects number with
  | nil =>
    obtain rfl := List.forall₂_nil_left_iff.1 ho
    rfl
  | @cons item text items texts halone _ ih =>
    obtain ⟨o, rest, hitem, hrest, rfl⟩ := List.forall₂_cons_left_iff.1 ho
    rw [parseAll, (halone.holds.parseDocument_single halone.single number).2 hitem]
    simp only [ih hrest, List.singleton_append]

/-- A list in a document comes to its items: each is read as one object, lists among them too, and
an item that is no list as in a document of its own. Whatever the cluster answers, the list is
applied as the stream of its items is. -/
theorem list_stands_for_items {raw : String} {v : Json} {items : List Json} (h : Holds raw v)
    (hv : IsList v items) :
    (∀ number, Expands raw number items) ∧
    (∀ item text number o, Alone item text →
      (parseDocument text number = .ok [o] ↔ Object.ofJson item = .ok o)) ∧
    ∀ (W : Type) (client : W) lead documents, Plain raw → (∀ line ∈ lead, SeparatorLine line) →
      (∀ p ∈ documents, Plain p.1 ∧ ∀ line ∈ p.2, SeparatorLine line) → Separated documents →
      List.Forall₂ Alone items (documents.map Prod.fst) →
      (∀ item ∈ items, ∃ o, Object.ofJson item = .ok o) →
      apply client raw.toByteArray.toList =
        apply client (String.join lead ++ joined documents).toByteArray.toList := by
  refine ⟨h.expands hv, fun item text number o ha =>
    ha.holds.parseDocument_single ha.single number, ?_⟩
  intro W client lead documents hplain hlead hd hs halone hall
  obtain ⟨objects, ho⟩ := exists_forall₂_iff.2 hall
  have hlist : contents raw.toByteArray.toList = (objects, none) := by
    rw [contents_of_readText (readText_of_yields (linesOfText_plain hplain)), parseAll,
      ((h.expands hv 1).objects objects).2 ho]
    simp [parseAll]
  have hparts : contents (String.join lead ++ joined documents).toByteArray.toList =
      (objects, none) := by
    rw [contents_of_readText (readText_of_separated hlead hd hs), parseAll_alone halone ho]
  exact apply_congr (hlist.trans hparts.symm) client

def small (kind name : String) : Json :=
  .obj [("apiVersion", .str "v1"), ("kind", .str kind), ("metadata", .obj [("name", .str name)])]

def listOf (items : List Json) : Json := .obj [("items", .arr items), ("kind", .str "List")]

theorem isList_listOf (items : List Json) : IsList (listOf items) items :=
  ⟨⟨"List", rfl, List.suffix_refl _⟩, rfl⟩

def podText : String := "apiVersion: v1
kind: Pod
metadata: {name: duck}
"

def nodeText : String := "apiVersion: v1
kind: Node
metadata: {name: pond}"

def pairText : String := "kind: List
items:
- apiVersion: v1
  kind: Pod
  metadata: {name: duck}
- apiVersion: v1
  kind: Node
  metadata: {name: pond}
"

def pair : List Json := [small "Pod" "duck", small "Node" "pond"]

set_option maxRecDepth 2000 in
theorem holds_pairText : Holds pairText (listOf pair) :=
  ⟨by decide +kernel, by with_unfolding_all rfl⟩

theorem alone_podText : Alone (small "Pod" "duck") podText :=
  ⟨⟨by decide, by with_unfolding_all rfl⟩, fun _ h => nomatch h.items⟩

theorem alone_nodeText : Alone (small "Node" "pond") nodeText :=
  ⟨⟨by decide, by with_unfolding_all rfl⟩, fun _ h => nomatch h.items⟩

/-- A list of two, and the two in a stream that begins with a separator. -/
theorem list_stands_for_items_pair :
    Expands pairText 3 pair ∧ (∃ o, parseDocument podText 1 = .ok [o]) ∧
      apply () pairText.toByteArray.toList =
        apply () (String.join ["---\n"] ++
          joined [(podText, ["---\n"]), (nodeText, [])]).toByteArray.toList := by
  have haccept : ∀ item ∈ pair, ∃ o, Object.ofJson item = .ok o :=
    List.forall_mem_cons.2 ⟨⟨_, rfl⟩, List.forall_mem_cons.2 ⟨⟨_, rfl⟩, nofun⟩⟩
  obtain ⟨hexpands, hsingle, happly⟩ := list_stands_for_items holds_pairText
    (isList_listOf pair)
  obtain ⟨o, ho⟩ := haccept (small "Pod" "duck") (by simp [pair])
  have hdashes : ∀ line ∈ ["---\n"], SeparatorLine line :=
    List.forall_mem_singleton.2 separatorLine_plain
  have hplain : Plain pairText ∧ Plain podText ∧ Plain nodeText := by
    refine ⟨⟨?_, ?_⟩, ⟨?_, ?_⟩, ?_, ?_⟩ <;> decide +kernel
  obtain ⟨hpair, hpod, hnode⟩ := hplain
  refine ⟨hexpands 3, ⟨o, (hsingle _ _ 1 o alone_podText).2 ho⟩, ?_⟩
  refine happly Unit () ["---\n"] _ hpair hdashes ?_ ?_
    (.cons alone_podText (.cons alone_nodeText .nil)) haccept
  · exact List.forall_mem_cons.2
      ⟨⟨hpod, hdashes⟩, List.forall_mem_cons.2 ⟨⟨hnode, nofun⟩, nofun⟩⟩
  · have hends : podText.toList.getLast? = some '\n' := by decide
    exact ⟨.inl hends, .inl (by simp), .inr ⟨rfl, rfl⟩, .inr rfl, trivial⟩

def duckText : String :=
  "# ducks\rkind: List\ritems:\r- apiVersion: v1\r  kind: Namespace\r  metadata: {name: pond}\r"

/-- A text may hold a list and come to nothing. Content is looked for in the lines that line feeds
end, and there is but one here, a comment; the value is read from all of the lines. -/
theorem exists_hidden_list : ¬∀ (raw : String) (number : Nat) (v : Json) (items : List Json)
    (objects : List Object), Yaml.read? raw = some v → IsList v items →
      List.Forall₂ (fun item o => Object.ofJson item = .ok o) items objects →
      parseDocument raw number = .ok objects := by
  intro h
  have hread : Yaml.read? duckText = some (listOf [small "Namespace" "pond"]) := by
    with_unfolding_all rfl
  have hnone : parseDocument duckText 1 = .ok [] := by
    have hc : hasContent duckText = false := by decide
    rw [parseDocument, hc]
    rfl
  have hsome := h duckText 1 _ _ _ hread (isList_listOf _) (.cons rfl .nil)
  rw [hnone] at hsome
  cases hsome

end Manifest

end ClusterImport

import ClusterImport.Proofs.ClusterCodec
import ClusterImport.Proofs.TimestampReread
import ClusterImport.Proofs.Traversal
/-!
Values that are read back. What has been read from any value, whatever else stood there, is written
in one form, and what is read from that form is the same but for what is cut off: fractions of the
times that are written in whole seconds. What is cut is written alike, so that the form is the only
one.
-/
namespace ClusterImport

open Json Decode Encode

variable {α β : Type}

/-- What has been read is read back, cut, from what is written of it. Null, where it stands for
nothing, is not asked for. -/
structure Rereads (d : Decoder α) (write : α → Json) (cut : α → α) : Prop where
  ne_null {v : Json} {a : α} : d v = some a → v ≠ null → write a ≠ null
  again {v : Json} {a : α} : d v = some a → v ≠ null → d (write a) = some (cut a)
  same {v : Json} {a : α} : d v = some a → write (cut a) = write a

namespace Rereads

variable {d : Decoder α} {write : α → Json} {cut : α → α}

/-- Nothing is cut off. -/
theorem exact (hnull : ∀ a, write a ≠ null) (h : ∀ v a, d v = some a → d (write a) = some a) :
    Rereads d write id where
  ne_null _ _ := hnull _
  again hv _ := h _ _ hv
  same _ := rfl

theorem string : Rereads Decode.string .str id := exact (by simp) fun _ _ _ => rfl

theorem boolean : Rereads Decode.boolean .bool id := exact (by simp) fun _ _ _ => rfl

theorem integer (bits : Nat) : Rereads (Decode.integer bits) .int id := by
  refine exact (by simp [Json.int]) fun v n h => ?_
  unfold Decode.integer at h
  split at h
  · split at h
    · rename_i hn
      obtain rfl := Option.some.inj h
      exact if_pos hn
    · cases h
  · cases h

/-- A value that is kept as it is. -/
theorem any : Rereads Decode.any id id where
  ne_null h hv := Option.some.inj h ▸ hv
  again _ _ := rfl
  same _ := rfl

theorem texts : Rereads (orderedDict Decode.string) (fun t => Encode.dict .str t.entries) id :=
  exact (by simp [Encode.dict]) fun _ t _ => read_texts t

theorem valid_of_timestamp {v : Json} {t : Timestamp} (h : timestamp v = some t) : t.Valid := by
  cases v with
  | str s => exact Timestamp.valid_of_ofText? h
  | _ => cases h

/-- A time with its fraction. -/
theorem moment : Rereads timestamp (.str ·.render) id :=
  exact (by simp) fun _ _ h => Timestamp.ofText?_render (valid_of_timestamp h)

/-- A time in whole seconds. -/
theorem time : Rereads timestamp (.str ·.renderSeconds) Timestamp.cut where
  ne_null := by simp
  again h _ := Timestamp.ofText?_renderSeconds_cut (valid_of_timestamp h)
  same {_ t} _ := congrArg Json.str t.renderSeconds_cut

theorem owner : Rereads OwnerReference.decode OwnerReference.encode id :=
  exact (by simp [OwnerReference.encode]) fun _ r _ => r.decode_encode

/-- A list of values none of which is null. -/
theorem list (h : Rereads d write cut) (hnull : d null = none) :
    Rereads (Decode.list d) (Encode.list write) (List.map cut) where
  ne_null := by simp [Encode.list]
  again {v l} hv hne := by
    cases v with
    | arr items =>
      have hitems := mapM_eq_some_iff.1 (show items.mapM d = some l from hv)
      clear hv hne
      change (l.map write).mapM d = some (l.map cut)
      induction hitems with
      | nil => rfl
      | @cons item a items l ha _ ih =>
        have hitem : item ≠ null := fun he => by
          rw [he, hnull] at ha
          cases ha
        rw [List.map_cons, List.mapM_cons, h.again ha hitem, ih]
        rfl
    | _ => cases hv
  same {v l} hv := by
    cases v with
    | arr items =>
      have hitems := mapM_eq_some_iff.1 (show items.mapM d = some l from hv)
      clear hv
      refine congrArg Json.arr ?_
      induction hitems with
      | nil => rfl
      | cons ha _ ih => rw [List.map_cons, List.map_cons, List.map_cons, h.same ha, ih]
    | _ => cases hv

theorem list_exact (h : Rereads d write id) (hnull : d null = none) :
    Rereads (Decode.list d) (Encode.list write) id := by
  have hlist := h.list hnull
  rwa [List.map_id_fun] at hlist

/-! Members of an object: it is enough that a member is what has been written of it. -/

variable {raw ms : Dict Json} {key : String}

theorem maybe (h : Rereads d write cut) {o : Option α} (hr : Decode.maybe d key raw = some o)
    (hg : Dict.get? key ms = o.map write) : Decode.maybe d key ms = some (o.map cut) := by
  rcases maybe_eq_some hr with ⟨rfl, -⟩ | ⟨v, a, rfl, -, hv, ha⟩
  · exact maybe_of_none hg
  · rw [maybe_of_some hg (h.ne_null ha hv), h.again ha hv]
    rfl

theorem maybe_exact (h : Rereads d write id) {o : Option α} (hr : Decode.maybe d key raw = some o)
    (hg : Dict.get? key ms = o.map write) : Decode.maybe d key ms = some o := by
  rw [h.maybe hr hg, Option.map_id, id]

theorem present (h : Rereads d write cut) {o : Option α} (hr : Decode.maybe d key raw = some o)
    (name : String) : Encode.present name write (o.map cut) = Encode.present name write o := by
  rcases maybe_eq_some hr with ⟨rfl, -⟩ | ⟨v, a, rfl, -, hv, ha⟩
  · rfl
  · rw [Option.map_some, Encode.present, Encode.present, h.same ha]

theorem required (h : Rereads d write cut) (hnull : d null = none) {a : α}
    (hr : Decode.required d key raw = some a) (hg : Dict.get? key ms = some (write a)) :
    Decode.required d key ms = some (cut a) := by
  obtain ⟨v, -, ha⟩ := Option.bind_eq_some_iff.1 hr
  have hv : v ≠ null := fun he => by
    rw [he, hnull] at ha
    cases ha
  rw [Decode.required, hg, Option.bind_some, h.again ha hv]

theorem same_required (h : Rereads d write cut) {a : α}
    (hr : Decode.required d key raw = some a) : write (cut a) = write a := by
  obtain ⟨v, -, ha⟩ := Option.bind_eq_some_iff.1 hr
  exact h.same ha

/-- A member that is always written and has a default where it is missing. -/
theorem orDefault (h : Rereads d write id) {default : α}
    (hdefault : d (write default) = some default) (hnull : d null = none) {a : α}
    (hr : Decode.orDefault default d key raw = some a)
    (hg : Dict.get? key ms = some (write a)) : Decode.orDefault default d key ms = some a := by
  rw [orDefault_of_some hg]
  cases hk : Dict.get? key raw with
  | none =>
    rw [orDefault_of_none hk] at hr
    exact Option.some.inj hr ▸ hdefault
  | some v =>
    rw [orDefault_of_some hk] at hr
    refine h.again hr fun he => ?_
    rw [he, hnull] at hr
    cases hr

/-- A list that is left out if it is empty. -/
theorem orDefault_list (h : Rereads d write id) (hnull : d null = none) {l : List α}
    (hr : Decode.orDefault [] (Decode.list d) key raw = some l)
    (hg : Dict.get? key ms = Dict.get? key (nonEmptyList key write l)) :
    Decode.orDefault [] (Decode.list d) key ms = some l := by
  cases l with
  | nil => exact orDefault_of_none hg
  | cons a l =>
    refine (h.list_exact hnull).orDefault rfl rfl hr (hg.trans ?_)
    exact Layout.get?_singleton key _

end Rereads

/-- A text that may be left out is not found under another name. -/
theorem Dict.get?_nonEmpty_of_ne {key other : String} (h : other ≠ key) (s : String) :
    get? key (nonEmpty other s) = none := by
  unfold nonEmpty
  split
  · rfl
  · simp [get?, h]

/-- A text that is left out if it is empty. -/
theorem orDefault_text {ms : Dict Json} {key s : String}
    (hg : Dict.get? key ms = Dict.get? key (nonEmpty key s)) :
    orDefault "" string key ms = some s := by
  unfold nonEmpty at hg
  split at hg
  · rename_i hs
    rw [orDefault_of_none hg, String.isEmpty_iff.1 hs]
  · rw [orDefault_of_some (hg.trans (Layout.get?_singleton key _))]
    rfl

end ClusterImport

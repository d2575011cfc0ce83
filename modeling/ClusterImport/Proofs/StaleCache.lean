import ClusterImport.Proofs.Creation
import ClusterImport.Store
import ClusterImport.Watch
/-!
The gate in front of a reconcile, which sees a cached version of the cluster. The reconcile reads
the live version itself and asks again whether it is ready and opts in, but only the gate asks for
the annotation of an import: a Rancher cluster is never created from an annotated snapshot, and may
be created again from one that is older than the annotation.
-/
namespace ClusterImport

open Import

variable {W : Type} {requeueAfter : Nat} {gate : Gate}

/-- Whether the cluster carries the annotation of an import, with any value. -/
def CapiCluster.IsImported (c : CapiCluster) : Prop :=
  ∃ value, c.metadata.annotation? importedAnnotation = some value

theorem CapiCluster.notImported_eq_false {c : CapiCluster} (h : c.IsImported) :
    Gate.notImported c = false := by
  obtain ⟨value, hv⟩ := h
  rw [Gate.notImported, hv]
  rfl

/-- What the gate does: it admits only a cluster that passes every test, and asks nothing about one
that fails before the last. -/
inductive GateCourse (gate : Gate) (c : CapiCluster) :
    List (Exchange W) → Except ControllerError Bool → Prop
  | filtered (hf : gate.matchesFilter c = false) : GateCourse gate c [] (.ok false)
  | imported (hi : Gate.notImported c = false) : GateCourse gate c [] (.ok false)
  | waiting (hr : c.isControlPlaneReady = false) : GateCourse gate c [] (.ok false)
  | judged {reads : List (Exchange W)} {decided : Except ControllerError Bool}
      (hf : gate.matchesFilter c = true) (hi : Gate.notImported c = true)
      (hr : c.isControlPlaneReady = true) (h : EligibilityCourse c reads decided) :
      GateCourse gate c reads decided

theorem gateCourse {c : CapiCluster} {trace : List (Exchange W)}
    {result : Except ControllerError Bool} (h : Runs (gate.admits c) trace result) :
    GateCourse gate c trace result := by
  unfold Gate.admits at h
  cases hf : gate.matchesFilter c with
  | false =>
    simp only [hf, Bool.not_false, if_true, runs_pure] at h
    obtain ⟨rfl, rfl⟩ := h
    exact .filtered hf
  | true =>
    cases hi : Gate.notImported c with
    | false =>
      simp only [hf, hi, Bool.not_true, Bool.not_false, Bool.false_eq_true, if_true, if_false,
        runs_pure] at h
      obtain ⟨rfl, rfl⟩ := h
      exact .imported hi
    | true =>
      cases hr : c.isControlPlaneReady with
      | false =>
        simp only [hf, hi, hr, Bool.not_true, Bool.not_false, Bool.false_eq_true, if_true, if_false,
          runs_pure] at h
        obtain ⟨rfl, rfl⟩ := h
        exact .waiting hr
      | true =>
        simp only [hf, hi, hr, Bool.not_true, Bool.false_eq_true, if_false] at h
        exact .judged hf hi hr (eligibilityCourse h)

theorem GateCourse.lookups {c : CapiCluster} {reads : List (Exchange W)}
    {decided : Except ControllerError Bool} (h : GateCourse gate c reads decided) :
    ∀ x ∈ reads, x.call.isLookup = true := by
  cases h with
  | judged _ _ _ h => exact h.lookups
  | _ => simp

theorem GateCourse.of_imported {c : CapiCluster} {reads : List (Exchange W)}
    {decided : Except ControllerError Bool} (h : GateCourse gate c reads decided)
    (hc : c.IsImported) : reads = [] ∧ decided = .ok false := by
  cases h with
  | judged _ hi => simp [CapiCluster.notImported_eq_false hc] at hi
  | _ => exact ⟨rfl, rfl⟩

/-- A reconcile behind the gate: what the gate asks comes first, and the reconcile follows only if
the gate admits the cached cluster. -/
theorem runs_gatedReconcile {cached : CapiCluster} {trace : List (Exchange W)}
    {result : Except ControllerError Requeue}
    (h : Runs (gatedReconcile gate requeueAfter cached) trace result) :
    ∃ reads decided rest, trace = reads ++ rest ∧ GateCourse gate cached reads decided ∧
      match decided with
      | .error e => rest = [] ∧ result = .error e
      | .ok false => rest = [] ∧ result = .ok .never
      | .ok true => Runs (reconcile requeueAfter cached.metadata.key) rest result := by
  rcases runs_seq.1 h with ⟨e, hg, rfl⟩ | ⟨reads, decided, rest, rfl, hg, hk⟩
  · exact ⟨trace, .error e, [], by simp, gateCourse hg, rfl, rfl⟩
  · refine ⟨reads, .ok decided, rest, rfl, gateCourse hg, ?_⟩
    cases decided with
    | false =>
      have hk := runs_note_seq.1 hk
      exact runs_pure.1 hk
    | true =>
      simp only [Bool.not_true, Bool.false_eq_true, if_false] at hk
      obtain ⟨first, x, last, rfl, hx, hs⟩ := runs_lift_seq.1 hk
      cases x with
      | ok requeue =>
        have hs := runs_note_seq.1 hs
        obtain ⟨rfl, rfl⟩ := runs_pure.1 hs
        rwa [List.append_nil]
      | error e =>
        have hs := runs_note_seq.1 hs
        obtain ⟨rfl, rfl⟩ := runs_throw.1 hs
        rwa [List.append_nil]

theorem Grounds.mono {key : ObjectKey} {reads more : List (Exchange W)} {c : CapiCluster}
    {ns uid : String} (h : Grounds key reads c ns uid) : Grounds key (more ++ reads) c ns uid where
  found := List.mem_append_right more h.found
  ready := h.ready
  home := h.home
  uid := h.uid
  absent := List.mem_append_right more h.absent
  optedIn := h.optedIn.imp_right fun ⟨n, hn, ho⟩ => ⟨n, List.mem_append_right more hn, ho⟩

/-- The versions of the CAPI cluster at each key, the oldest first. -/
structure History where
  version : ObjectKey → Nat → CapiCluster
  key_version : ∀ key n, (version key n).metadata.key = key

structure Turn (W : Type) where
  key : ObjectKey
  seen : Nat
  live : Nat
  exchanges : List (Exchange W)
  result : Except ControllerError Requeue

/-- The cache may be behind but not ahead, and of the cluster at the key only the live version is
read. -/
structure Turn.Follows (history : History) (gate : Gate) (requeueAfter : Nat) (t : Turn W) :
    Prop where
  seen_le_live : t.seen ≤ t.live
  reads_live : ∀ c, ⟨.getCapiCluster t.key, .ok (some c)⟩ ∈ t.exchanges →
    c = history.version t.key t.live
  run : Runs (gatedReconcile gate requeueAfter (history.version t.key t.seen)) t.exchanges t.result

inductive Turns (history : History) (gate : Gate) (requeueAfter : Nat) : List (Turn W) → Prop
  | nil : Turns history gate requeueAfter []
  | next {past : List (Turn W)} {t : Turn W} (h : Turns history gate requeueAfter past)
      (ht : t.Follows history gate requeueAfter) : Turns history gate requeueAfter (past ++ [t])

/-- An imported snapshot ends the turn at once. A Rancher cluster is created for the live version
that was read, and from a snapshot without the annotation: one from before it was set, if the
live version has it. -/
structure Turn.CreatesUnmarked (history : History) (t : Turn W) : Prop where
  skipped : (history.version t.key t.seen).IsImported → t.exchanges = [] ∧ t.result = .ok .never
  grounds : ∀ before rancher x after,
    t.exchanges = before ++ ⟨.createRancherCluster rancher, x⟩ :: after →
      ∃ ns uid, Grounds t.key before (history.version t.key t.live) ns uid ∧
        rancher = ownedCluster ns (history.version t.key t.live).metadata.anyName uid
  outdated : (∃ x ∈ t.exchanges, x.call.isCreation = true) →
    ∀ mark ≤ t.live, (∀ n, mark ≤ n → n ≤ t.live → (history.version t.key n).IsImported) →
      t.seen < mark

theorem Turn.Follows.createsUnmarked {history : History} {t : Turn W}
    (h : t.Follows history gate requeueAfter) : t.CreatesUnmarked history := by
  obtain ⟨reads, decided, rest, ht, hg, hk⟩ := runs_gatedReconcile h.run
  rw [history.key_version] at hk
  have hskip (hi : (history.version t.key t.seen).IsImported) :
      t.exchanges = [] ∧ t.result = .ok .never := by
    obtain ⟨rfl, rfl⟩ := hg.of_imported hi
    obtain ⟨rfl, hr⟩ := hk
    exact ⟨ht, hr⟩
  have hlook : ∀ x ∈ reads, ¬x.call.isCreation = true := fun x hx => by
    rw [Call.not_isCreation_of_isLookup (hg.lookups x hx)]
    exact Bool.false_ne_true
  refine ⟨hskip, fun before rancher x after hs => ?_, fun ⟨x, hx, hc⟩ mark _ hm => ?_⟩
  · obtain ⟨more, rfl, rfl⟩ := split_past hlook rfl (ht.symm.trans hs)
    have hrun : Runs (reconcile requeueAfter t.key)
        (more ++ ⟨.createRancherCluster rancher, x⟩ :: after) t.result := by
      match decided with
      | .error e => simp at hk
      | .ok false => simp at hk
      | .ok true => exact hk
    obtain ⟨c, ns, uid, hgr, rfl⟩ := (createsSafely_of_runs hrun).grounds _ _ _ _ rfl
    -- the cluster that was found is the live version, whatever the gate was shown
    have hc : c = history.version t.key t.live := by
      refine h.reads_live c ?_
      rw [hs]
      exact List.mem_append_left _ (List.mem_append_right _ hgr.found)
    subst hc
    exact ⟨ns, uid, hgr.mono, rfl⟩
  · refine Nat.lt_of_not_le fun hle => ?_
    obtain ⟨hn, -⟩ := hskip (hm t.seen hle h.seen_le_live)
    rw [hn] at hx
    cases hx

theorem createsUnmarked_of_turns {history : History} {turns : List (Turn W)}
    (h : Turns history gate requeueAfter turns) : ∀ t ∈ turns, t.CreatesUnmarked history := by
  induction h with
  | nil => simp
  | next _ ht ih =>
    intro t hmem
    rcases List.mem_append.1 hmem with hmem | hmem
    · exact ih t hmem
    · obtain rfl := List.mem_singleton.1 hmem
      exact ht.createsUnmarked

def markedOnce : History where
  version key n :=
    let c := { ducks with
      metadata := { ducks.metadata with
        name := some key.name, inNamespace := some key.inNamespace } }
    if n = 0 then c else c.marked
  key_version key n := by
    dsimp only
    split <;> rfl

def leaving : RancherCluster where
  metadata := { deletionTimestamp := some ⟨20000, 0, 0⟩ }
  spec := {}
  status := none

def ducksMarked : Turn Unit where
  key := ⟨"pond", "ducks"⟩
  seen := 0
  live := 0
  exchanges := [⟨.getCapiCluster ⟨"pond", "ducks"⟩, .ok (some ducks)⟩,
    ⟨.getRancherCluster ⟨"pond", "ducks-capi"⟩, .ok (some leaving)⟩,
    ⟨.patchCapiCluster ⟨"pond", "ducks"⟩ ducks.markPatch, .ok ()⟩]
  result := .ok .never

/-- The Rancher cluster is gone, and the cache does not have the annotation yet. -/
def ducksReimported : Turn Unit where
  key := ⟨"pond", "ducks"⟩
  seen := 0
  live := 1
  exchanges := [⟨.getCapiCluster ⟨"pond", "ducks"⟩, .ok (some ducks.marked)⟩,
    ⟨.getRancherCluster ⟨"pond", "ducks-capi"⟩, .ok none⟩,
    ⟨.createRancherCluster (ownedCluster "pond" "ducks" "u-1"),
      .ok (ownedCluster "pond" "ducks" "u-1")⟩]
  result := .ok .immediately

theorem follows_ducksMarked : ducksMarked.Follows markedOnce ⟨none⟩ 30 where
  seen_le_live := Nat.le_refl 0
  reads_live c hc := by
    have hc : c = ducks := by simpa [ducksMarked] using hc
    exact hc
  run := by
    refine .call (c := .getCapiCluster ⟨"pond", "ducks"⟩) (Except.ok (some ducks)) ?_
    refine .call (c := .getRancherCluster ⟨"pond", "ducks-capi"⟩) (Except.ok (some leaving)) ?_
    refine .call (c := .patchCapiCluster ⟨"pond", "ducks"⟩ ducks.markPatch) (Except.ok ()) ?_
    exact .record (.done _)

theorem follows_ducksReimported : ducksReimported.Follows markedOnce ⟨none⟩ 30 where
  seen_le_live := Nat.zero_le 1
  reads_live c hc := by
    have hc : c = ducks.marked := by simpa [ducksReimported] using hc
    exact hc
  run := by
    refine .call (c := .getCapiCluster ⟨"pond", "ducks"⟩) (Except.ok (some ducks.marked)) ?_
    refine .call (c := .getRancherCluster ⟨"pond", "ducks-capi"⟩) (Except.ok none) ?_
    refine .call (c := .createRancherCluster (ownedCluster "pond" "ducks" "u-1"))
      (Except.ok (ownedCluster "pond" "ducks" "u-1")) ?_
    exact .record (.record (.done _))

/-- The annotation of the live cluster does not keep it from being imported again. -/
theorem reimported_through_stale_cache :
    Turns markedOnce ⟨none⟩ 30 [ducksMarked, ducksReimported] ∧
      (markedOnce.version ducksReimported.key ducksReimported.live).IsImported ∧
      ∃ x ∈ ducksReimported.exchanges, x.call.isCreation = true := by
  refine ⟨.next (.next .nil follows_ducksMarked) follows_ducksReimported, ⟨"true", ?_⟩, ?_⟩
  · decide
  · exact ⟨_, .tail _ (.tail _ (.head _)), rfl⟩

def ducksSkipped : Turn Unit where
  key := ⟨"pond", "ducks"⟩
  seen := 1
  live := 1
  exchanges := []
  result := .ok .never

theorem follows_ducksSkipped : ducksSkipped.Follows markedOnce ⟨none⟩ 30 where
  seen_le_live := Nat.le_refl 1
  reads_live c hc := by simp [ducksSkipped] at hc
  run := .record (.done _)

theorem createsUnmarked_ducks :
    Turns markedOnce ⟨none⟩ 30 [ducksMarked, ducksReimported, ducksSkipped] ∧
      ∀ t ∈ [ducksMarked, ducksReimported, ducksSkipped], t.CreatesUnmarked markedOnce :=
  have h : Turns markedOnce ⟨none⟩ 30 [ducksMarked, ducksReimported, ducksSkipped] :=
    .next (.next (.next .nil follows_ducksMarked) follows_ducksReimported) follows_ducksSkipped
  ⟨h, createsUnmarked_of_turns h⟩

end ClusterImport

import ClusterImport.Proofs.StaleCache
/-!
When a CAPI cluster is written to. Calls may be answered in any way: a reconcile patches its own
cluster and no other, at most once and as its last call, for no reason but a Rancher cluster that is
being deleted, and the patch holds the mark and the version that was read and nothing else.
-/
namespace ClusterImport

open Import

variable {W : Type} {requeueAfter : Nat} {key : ObjectKey} {trace : List (Exchange W)}
  {result : Except ControllerError Requeue}

namespace Call

def isPatch : Call W → Bool
  | .patchCapiCluster _ _ => true
  | _ => false

def isClusterRead : Call W → Bool
  | .getCapiCluster _ | .getRancherCluster _ => true
  | _ => false

end Call

def patchesOf (trace : List (Exchange W)) : List (Call W) :=
  (trace.map (·.call)).filter (·.isPatch)

theorem patchesOf_eq_nil (h : ∀ x ∈ trace, x.call.isPatch = false) : patchesOf trace = [] := by
  refine List.filter_eq_nil_iff.2 fun c hc => ?_
  obtain ⟨x, hx, rfl⟩ := List.mem_map.1 hc
  simp [h x hx]

def markBody : Option String → Json
  | some version => .obj [("metadata", .obj [("annotations", .obj [("imported", .str "true")]),
      ("resourceVersion", .str version)])]
  | none => .obj [("metadata", .obj [("annotations", .obj [("imported", .str "true")])])]

theorem CapiCluster.markPatch_eq (c : CapiCluster) :
    c.markPatch = markBody c.metadata.resourceVersion := by
  unfold markPatch
  cases c.metadata.resourceVersion <;> rfl

/-- What has been read says that the cluster at the key is to be marked: it is ready, the Rancher
cluster in its place is being deleted, and it is not marked yet. -/
structure MarkDue (key : ObjectKey) (trace : List (Exchange W)) (c : CapiCluster) : Prop where
  found : ⟨.getCapiCluster key, .ok (some c)⟩ ∈ trace
  ready : c.isControlPlaneReady = true
  leaving : ∃ (ns : String) (rancher : RancherCluster), c.metadata.inNamespace = some ns ∧
    ⟨.getRancherCluster ⟨ns, c.metadata.anyName ++ "-capi"⟩, .ok (some rancher)⟩ ∈ trace ∧
    rancher.metadata.deletionTimestamp.isSome = true
  unmarked : c.metadata.annotation? "imported" ≠ some "true"

theorem CapiCluster.isMarked_eq_true_iff {c : CapiCluster} :
    c.isMarked = true ↔ c.metadata.annotation? "imported" = some "true" := beq_iff_eq

/-- Without a Rancher cluster there is a lookup of the namespace, and a create at most. -/
theorem CreationCourse.calls {c : CapiCluster} {rk : ObjectKey}
    (h : CreationCourse c rk trace result) :
    ∀ x ∈ trace, x.call.isPatch = false ∧ x.call.isClusterRead = false := by
  intro x hx
  rcases h.call_eq x hx with ⟨ns, hc⟩ | ⟨rancher, hc⟩ <;>
    simp [hc, Call.isPatch, Call.isClusterRead]

theorem RegisterCourse.calls {c : CapiCluster} {rancher : RancherCluster}
    (h : RegisterCourse requeueAfter c rancher trace result) :
    ∀ x ∈ trace, x.call.isPatch = false ∧ x.call.isClusterRead = false := by
  intro x hx
  have hr := h.registration x hx
  revert hr
  cases x.call <;> simp [Call.isRegistration, Call.isPatch, Call.isClusterRead]

inductive MarkingCourse (key : ObjectKey) (c : CapiCluster) :
    List (Exchange W) → Except ControllerError Requeue → Prop
  | intro {rk : ObjectKey} {rancher : RancherCluster} (hc : c.isControlPlaneReady = true)
      (hk : rancherKey c = .ok rk) (hd : rancher.isDeleting = true) (hm : c.isMarked = false)
      (x : Except KubeError Unit) :
      MarkingCourse key c
        [⟨.getCapiCluster key, .ok (some c)⟩, ⟨.getRancherCluster rk, .ok (some rancher)⟩,
          ⟨.patchCapiCluster key c.markPatch, x⟩] ((x.mapError .kube).map fun _ => .never)

/-- There is such a course for any answers that call for it. -/
theorem MarkingCourse.runs {c : CapiCluster} (h : MarkingCourse key c trace result) :
    Runs (reconcile requeueAfter key) trace result := by
  cases h with
  | @intro rk rancher hc hk hd hm x =>
    have hmoved : Runs (W := W) (transition requeueAfter c) [⟨.getRancherCluster rk, .ok (some rancher)⟩]
        (.ok (.never, c.marked)) := by
      refine runs_ofExcept_seq.2 ?_
      rw [hk]
      refine runs_answered_seq.2 ⟨[_], .ok (some rancher), [], rfl, Proc.runs_ask.2 rfl, ?_⟩
      simp only [hd, if_true]
      exact runs_pure.2 ⟨rfl, rfl⟩
    have hwritten : Runs (W := W) (writeBack key c c.marked) [⟨.patchCapiCluster key c.markPatch, x⟩]
        (x.mapError .kube) := by
      rw [writeBack, clusterPatch_marked, hm]
      exact runs_answered.2 ⟨x, Proc.runs_ask.2 rfl, rfl⟩
    refine runs_answered_seq.2 ⟨[_], .ok (some c), _, rfl, Proc.runs_ask.2 rfl, ?_⟩
    simp only [hc, Bool.not_true, Bool.false_eq_true, if_false]
    refine runs_lift_seq.2 ⟨[_], _, _, rfl, hmoved, ?_⟩
    refine runs_lift_seq.2 ⟨[_], _, [], rfl, hwritten, ?_⟩
    cases x with
    | error e => exact runs_throw.2 ⟨rfl, rfl⟩
    | ok _ => exact runs_pure.2 ⟨rfl, rfl⟩

/-- Where the mark is due, the first two calls are the reads that say so. -/
theorem MarkDue.reads {c d : CapiCluster} {rk : ObjectKey}
    {x : Except KubeError (Option RancherCluster)} {rest : List (Exchange W)}
    (h : MarkDue key (⟨.getCapiCluster key, .ok (some c)⟩ :: ⟨.getRancherCluster rk, x⟩ :: rest) d)
    (hr : ∀ y ∈ rest, y.call.isClusterRead = false) :
    d = c ∧ ∃ rancher, x = .ok (some rancher) ∧ rancher.isDeleting = true := by
  have hnot {y : Exchange W} (hy : y.call.isClusterRead = true) : y ∉ rest := fun hm => by
    simp [hr y hm] at hy
  obtain ⟨ns, rancher, -, hl, hd⟩ := h.leaving
  have hf : d = c := by
    simpa [hnot (y := ⟨.getCapiCluster key, .ok (some d)⟩) rfl] using h.found
  rcases List.mem_cons.1 hl with hl | hl
  · simp at hl
  rcases List.mem_cons.1 hl with hl | hl
  · cases hl
    exact ⟨hf, rancher, rfl, hd⟩
  · exact absurd hl (hnot rfl)

/-- Every other course sends no patch, and has not read all that calls for one. -/
theorem ReconcileCourse.marking_or_not (h : ReconcileCourse requeueAfter key trace result) :
    (∃ c, MarkingCourse key c trace result) ∨
      (∀ x ∈ trace, x.call.isPatch = false) ∧ ∀ c, ¬MarkDue key trace c := by
  cases h with
  | marking hc hk hd hm x => exact .inl ⟨_, .intro hc hk hd hm x⟩
  | @marked c rk rancher hc hk hd hm =>
    refine .inr ⟨by simp [Call.isPatch], fun d hdue => hdue.unmarked ?_⟩
    obtain ⟨rfl, -⟩ := hdue.reads (by simp)
    exact CapiCluster.isMarked_eq_true_iff.1 hm
  | @absent c rk rest _ hc hk hr =>
    refine .inr ⟨?_, fun d hdue => ?_⟩
    · simp only [List.forall_mem_cons]
      exact ⟨rfl, rfl, fun x hx => (hr.calls x hx).1⟩
    · obtain ⟨-, rancher, hx, -⟩ := hdue.reads fun x hx => (hr.calls x hx).2
      simp at hx
  | @present c rk rancher rest _ hc hk hd hr =>
    refine .inr ⟨?_, fun d hdue => ?_⟩
    · simp only [List.forall_mem_cons]
      exact ⟨rfl, rfl, fun x hx => (hr.calls x hx).1⟩
    · obtain ⟨-, leaving, hx, hl⟩ := hdue.reads fun x hx => (hr.calls x hx).2
      obtain rfl : rancher = leaving := by simpa using hx
      simp [hd] at hl
  | _ =>
    refine .inr ⟨by simp [Call.isPatch], fun d hdue => ?_⟩
    obtain ⟨ns, rancher, -, hl, -⟩ := hdue.leaving
    simp at hl

theorem MarkingCourse.due {c : CapiCluster} (h : MarkingCourse key c trace result) :
    MarkDue key trace c := by
  cases h with
  | @intro rk rancher hc hk hd hm x =>
    obtain ⟨ns, hn, rfl⟩ := rancherKey_ok hk
    refine ⟨by simp, hc, ⟨ns, rancher, hn, by simp, hd⟩, fun ht => ?_⟩
    rw [CapiCluster.isMarked_eq_true_iff.2 ht] at hm
    cases hm

theorem MarkingCourse.patches {c : CapiCluster} (h : MarkingCourse key c trace result) :
    patchesOf trace = [.patchCapiCluster key (markBody c.metadata.resourceVersion)] := by
  cases h with
  | intro hc hk hd hm x =>
    rw [← c.markPatch_eq]
    rfl

theorem MarkingCourse.eq_of_due {c d : CapiCluster} (h : MarkingCourse key c trace result)
    (hd : MarkDue key trace d) : d = c := by
  cases h with
  | intro => exact (hd.reads (by simp [Call.isClusterRead])).1

/-- A reconcile patches a cluster if, and only if, it has read that the mark is due. It sends one
patch then, to the key itself, and merging that into what was read adds the mark and nothing
else. -/
theorem patches_of_runs (h : Runs (reconcile requeueAfter key) trace result) :
    (∀ c, MarkDue key trace c →
      patchesOf trace = [.patchCapiCluster key (markBody c.metadata.resourceVersion)] ∧
      Json.merge c.encode (markBody c.metadata.resourceVersion) =
        ({ c with metadata := c.metadata.setAnnotation "imported" "true" } : CapiCluster).encode) ∧
    ((¬∃ c, MarkDue key trace c) → patchesOf trace = []) := by
  rcases (reconcileCourse h).marking_or_not with ⟨c, hm⟩ | ⟨hnone, hdue⟩
  · refine ⟨fun d hd => ?_, fun hnot => absurd ⟨c, hm.due⟩ hnot⟩
    obtain rfl := hm.eq_of_due hd
    exact ⟨hm.patches, by rw [← d.markPatch_eq, merge_markPatch]; rfl⟩
  · exact ⟨fun c hd => absurd hd (hdue c), fun _ => patchesOf_eq_nil hnone⟩

def swans : CapiCluster where
  metadata := { ducks.metadata with
    name := some "swans", resourceVersion := some "1000"
    annotations := some (.ofList [("note", "x"), ("imported", "false")])
    finalizers := some ["keep"] }
  spec := { paused := some false }
  status := ducks.status

theorem patches_swans :
    let trace : List (Exchange Unit) := [⟨.getCapiCluster ⟨"pond", "swans"⟩, .ok (some swans)⟩,
      ⟨.getRancherCluster ⟨"pond", "swans-capi"⟩, .ok (some leaving)⟩,
      ⟨.patchCapiCluster ⟨"pond", "swans"⟩ swans.markPatch, .error .service⟩]
    Runs (reconcile 30 ⟨"pond", "swans"⟩) trace (.error (.kube .service)) ∧
      MarkDue ⟨"pond", "swans"⟩ trace swans ∧
      patchesOf trace = [.patchCapiCluster ⟨"pond", "swans"⟩ (.obj [("metadata", .obj
        [("annotations", .obj [("imported", .str "true")]), ("resourceVersion", .str "1000")])])] := by
  intro trace
  have hr : Runs (reconcile 30 ⟨"pond", "swans"⟩) trace (.error (.kube .service)) :=
    (MarkingCourse.intro rfl rfl rfl rfl (.error .service)).runs
  have hd : MarkDue ⟨"pond", "swans"⟩ trace swans :=
    ⟨by simp [trace], rfl, ⟨"pond", leaving, rfl, by simp [trace, swans, ducks, ObjectMeta.anyName],
      rfl⟩, by decide⟩
  exact ⟨hr, hd, ((patches_of_runs hr).1 swans hd).1⟩

end ClusterImport

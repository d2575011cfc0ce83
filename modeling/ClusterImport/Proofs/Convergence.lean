import ClusterImport.Proofs.Application
import ClusterImport.Proofs.Replay
import ClusterImport.Recorder
/-!
Applications that are interrupted. Failures may stop the application of a manifest anywhere, and
again when it is repeated; once a run is not disturbed, the workload cluster holds what one run would
have left, and every object that was missing has been created once.
-/
namespace ClusterImport

open Manifest

variable {σ κ φ W : Type}

def Exchange.created? : Exchange W → Option Object
  | ⟨.createObject _ o, .ok _⟩ => some o
  | _ => none

inductive CreateStep (failure? : Option KubeError) (id : κ) (present : List κ) :
    Except KubeError Unit → List κ → Prop
  | failed {e : KubeError} (h : failure? = some e) :
      CreateStep failure? id present (.error e) present
  | occupied {e : KubeError} (hf : failure? = none) (h : id ∈ present)
      (he : e.isAlreadyExists = true) : CreateStep failure? id present (.error e) present
  | created (hf : failure? = none) (h : id ∉ present) :
      CreateStep failure? id present (.ok ()) (id :: present)

theorem CreateStep.of_calm {failure? : Option KubeError} {id : κ} {present after : List κ}
    {x : Except KubeError Unit} (h : CreateStep failure? id present x after)
    (hc : failure? = none) : tolerated x = true ∧ id ∈ after := by
  cases h with
  | failed hf => simp [hc] at hf
  | occupied _ hm he => exact ⟨he, hm⟩
  | created => exact ⟨rfl, List.mem_cons_self⟩

/-- A workload cluster in memory, which tells objects apart by an identity and where the creates of
objects can be made to fail. -/
structure MemoryCluster (σ κ φ : Type) where
  environment : Environment Unit σ
  ident : Object → κ
  present : σ → List κ
  failure? : σ → Object → Option KubeError
  inject : φ → σ → σ
  calm : φ
  create (s : σ) (o : Object) (h : o.name.isSome = true) :
    CreateStep (failure? s o) (ident o) (present s) (environment.answer (.createObject () o) s).1
      (present (environment.answer (.createObject () o) s).2)
  failure?_create (s : σ) (o : Object) :
    failure? (environment.answer (.createObject () o) s).2 = failure? s
  present_note (m : Measurement) (s : σ) : present (environment.note m s) = present s
  failure?_note (m : Measurement) (s : σ) : failure? (environment.note m s) = failure? s
  present_inject (f : φ) (s : σ) : present (inject f s) = present s
  failure?_calm (s : σ) (o : Object) : failure? (inject calm s) o = none

namespace MemoryCluster

variable (cluster : MemoryCluster σ κ φ) {s t u : σ} {objects : List Object}
  {trace first second : List (Exchange Unit)}

def created (trace : List (Exchange Unit)) : List κ :=
  (trace.filterMap (·.created?)).map cluster.ident

structure Grown (objects : List Object) (s : σ) (trace : List (Exchange Unit)) (t : σ) : Prop where
  nodup : (cluster.created trace).Nodup
  missing : ∀ id ∈ cluster.created trace, id ∉ cluster.present s
  wanted : ∀ id ∈ cluster.created trace, id ∈ objects.map cluster.ident
  present : ∀ id, id ∈ cluster.present t ↔ id ∈ cluster.present s ∨ id ∈ cluster.created trace

variable {cluster}

theorem Grown.of_none (hc : cluster.created trace = [])
    (h : cluster.present t = cluster.present s) : cluster.Grown objects s trace t where
  nodup := by simp [hc]
  missing := by simp [hc]
  wanted := by simp [hc]
  present id := by simp [hc, h]

theorem Grown.trans (h : cluster.Grown objects s first t)
    (k : cluster.Grown objects t second u) : cluster.Grown objects s (first ++ second) u := by
  have hc : cluster.created (first ++ second) =
      cluster.created first ++ cluster.created second := by
    simp [created, List.filterMap_append]
  refine ⟨?_, ?_, ?_, fun id => ?_⟩
  · rw [hc, List.nodup_append]
    refine ⟨h.nodup, k.nodup, ?_⟩
    -- what the first part has created is there when the second begins
    rintro a ha b hb rfl
    exact k.missing a hb ((h.present a).2 (.inr ha))
  · rw [hc, List.forall_mem_append]
    exact ⟨h.missing, fun id hi hs => k.missing id hi ((h.present id).2 (.inl hs))⟩
  · rw [hc, List.forall_mem_append]
    exact ⟨h.wanted, k.wanted⟩
  · rw [hc, k.present, h.present, List.mem_append, or_assoc]

/-- What one create adds. -/
theorem Grown.of_step {o : Object} {x : Except KubeError Unit} {failure? : Option KubeError}
    (ho : o ∈ objects)
    (h : CreateStep failure? (cluster.ident o) (cluster.present s) x (cluster.present t)) :
    cluster.Grown objects s [⟨.createObject () o, x⟩] t := by
  generalize hp : cluster.present t = after at h
  cases h with
  | failed => exact .of_none rfl hp
  | occupied => exact .of_none rfl hp
  | created _ hm =>
    have hc : cluster.created [⟨.createObject () o, .ok ()⟩] = [cluster.ident o] := rfl
    refine ⟨by simp [hc], by simpa [hc] using hm, ?_, fun id => ?_⟩
    · simpa [hc] using ⟨o, ho, rfl⟩
    · rw [hp, hc, List.mem_cons, List.mem_singleton, or_comm]

variable {α : Type}

/-- What a procedure that only creates some objects adds. -/
theorem grown_trace (p : Proc Unit α) (hn : ∀ o ∈ objects, o.name.isSome = true)
    (h : ∀ x ∈ p.trace cluster.environment s, ∃ o ∈ objects, x.call = .createObject () o) :
    cluster.Grown objects s (p.trace cluster.environment s) (p.run cluster.environment s).2 := by
  induction p generalizing s with
  | done a => exact .of_none rfl rfl
  | call c next ih =>
    obtain ⟨o, ho, rfl⟩ : ∃ o ∈ objects, c = .createObject () o := h _ List.mem_cons_self
    have hrest := ih _ fun x hx => h x (List.mem_cons_of_mem _ hx)
    exact (Grown.of_step ho (cluster.create s o (hn o ho))).trans hrest
  | record m next ih =>
    have hnote : cluster.Grown objects s [] (cluster.environment.note m s) :=
      .of_none rfl (cluster.present_note m s)
    exact hnote.trans (ih h)

/-- Where no failure is set, every object that is to be created is there in the end. -/
theorem tolerated_trace (p : Proc Unit α) (hn : ∀ o ∈ objects, o.name.isSome = true)
    (h : ∀ x ∈ p.trace cluster.environment s, ∃ o ∈ objects, x.call = .createObject () o)
    (hc : ∀ o, cluster.failure? s o = none) {o : Object} {y : Except KubeError Unit}
    (hy : ⟨.createObject () o, y⟩ ∈ p.trace cluster.environment s) :
    tolerated y = true ∧ cluster.ident o ∈ cluster.present (p.run cluster.environment s).2 := by
  induction p generalizing s with
  | done a => simp [Proc.trace] at hy
  | call c next ih =>
    obtain ⟨o', ho', rfl⟩ : ∃ o ∈ objects, c = .createObject () o := h _ List.mem_cons_self
    have hrest := fun x hx => h x (List.mem_cons_of_mem _ hx)
    have hcalm : ∀ o, cluster.failure?
        (cluster.environment.answer (.createObject () o') s).2 o = none := by
      rw [cluster.failure?_create]
      exact hc
    rcases List.mem_cons.1 hy with hy | hy
    · cases hy
      obtain ⟨ht, hp⟩ := (cluster.create s o (hn o ho')).of_calm (hc o)
      have hgrown := grown_trace (next _) hn hrest
      exact ⟨ht, (hgrown.present _).2 (.inl hp)⟩
    · exact ih _ hrest hcalm hy
  | record m next ih =>
    refine ih h (fun o => ?_) hy
    rw [cluster.failure?_note]
    exact hc o

end MemoryCluster

namespace Manifest.ApplyCourse

variable {client : W} {objects : List Object} {fault : Option ManifestError}
  {outcome : ApplyOutcome} {trace : List (Exchange W)} {result : Except ControllerError ApplyOutcome}

/-- Without a fault and without a refusal all objects are applied. -/
theorem applied_of_tolerated (h : ApplyCourse client objects none outcome trace result)
    (ht : ∀ o y, ⟨.createObject client o, y⟩ ∈ trace → tolerated y = true) :
    (∃ reached, result = .ok reached) ∧
      ∀ o ∈ objects, ∃ y, ⟨.createObject client o, y⟩ ∈ trace := by
  cases h with
  | @refused answers o after e _ _ he =>
    have htol : tolerated (.error e) = true := ht o (.error e) (by simp)
    simp [tolerated, saysExists, he, Except.isOk, Except.toBool] at htol
  | faulty hf => cases hf
  | applied _ ho =>
    refine ⟨⟨_, rfl⟩, fun o hm => ?_⟩
    rw [← ho] at hm
    obtain ⟨p, hp, rfl⟩ := List.mem_map.1 hm
    exact ⟨p.2, List.mem_map_of_mem hp⟩

end Manifest.ApplyCourse

namespace MemoryCluster

variable (cluster : MemoryCluster σ κ φ) (octets : List UInt8)

def application (f : φ) (s : σ) :
    List (Exchange Unit) × Except ControllerError ApplyOutcome × σ :=
  let p := (apply () octets).run
  (p.trace cluster.environment (cluster.inject f s),
    p.run cluster.environment (cluster.inject f s))

def applications : List φ → σ → List (Exchange Unit) × σ
  | [], s => ([], s)
  | f :: rest, s =>
    let (trace, _, t) := cluster.application octets f s
    let (more, u) := applications rest t
    (trace ++ more, u)

variable {octets} {s : σ}

theorem applications_append (first second : List φ) :
    cluster.applications octets (first ++ second) s =
      ((cluster.applications octets first s).1 ++
          (cluster.applications octets second (cluster.applications octets first s).2).1,
        (cluster.applications octets second (cluster.applications octets first s).2).2) := by
  induction first generalizing s with
  | nil => rfl
  | cons f first ih => simp [applications, ih]

theorem course_application (f : φ) (s : σ) :
    ApplyCourse () (contents octets).1 (contents octets).2 {}
      (cluster.application octets f s).1 (cluster.application octets f s).2.1 :=
  applyCourse_apply (Proc.runs_trace cluster.environment _ _)

theorem grown_application (hn : ∀ o ∈ (contents octets).1, o.name.isSome = true) (f : φ) (s : σ) :
    cluster.Grown (contents octets).1 s (cluster.application octets f s).1
      (cluster.application octets f s).2.2 := by
  have hset : cluster.Grown (contents octets).1 s [] (cluster.inject f s) :=
    .of_none rfl (cluster.present_inject f s)
  exact hset.trans (grown_trace _ hn (cluster.course_application f s).creates)

theorem grown_applications (hn : ∀ o ∈ (contents octets).1, o.name.isSome = true)
    (rounds : List φ) (s : σ) :
    cluster.Grown (contents octets).1 s (cluster.applications octets rounds s).1
      (cluster.applications octets rounds s).2 := by
  induction rounds generalizing s with
  | nil => exact .of_none rfl rfl
  | cons f rounds ih => exact (cluster.grown_application hn f s).trans (ih _)

variable {cluster}

/-- A run without failures succeeds, and all objects are there then. -/
theorem calm_application (hf : (contents octets).2 = none)
    (hn : ∀ o ∈ (contents octets).1, o.name.isSome = true) (s : σ) :
    (∃ outcome, (cluster.application octets cluster.calm s).2.1 = .ok outcome ∧
      outcome.created + outcome.alreadyExisting = (contents octets).1.length) ∧
    ∀ o ∈ (contents octets).1,
      cluster.ident o ∈ cluster.present (cluster.application octets cluster.calm s).2.2 := by
  have hcourse : ApplyCourse () (contents octets).1 none {} _ _ :=
    hf ▸ cluster.course_application cluster.calm s
  have hcalm (o : Object) (y : Except KubeError Unit)
      (hy : ⟨.createObject () o, y⟩ ∈ (cluster.application octets cluster.calm s).1) :=
    tolerated_trace _ hn hcourse.creates (cluster.failure?_calm s) hy
  obtain ⟨⟨outcome, ho⟩, hall⟩ := hcourse.applied_of_tolerated fun o y hy => (hcalm o y hy).1
  refine ⟨⟨outcome, ho, ?_⟩, fun o hm => ?_⟩
  · rw [ho] at hcourse
    exact hcourse.total
  · obtain ⟨y, hy⟩ := hall o hm
    exact (hcalm o y hy).2

/-- What repeated applications come to once one of them is not disturbed. -/
structure Converges [DecidableEq κ] (cluster : MemoryCluster σ κ φ) (octets : List UInt8) (s : σ)
    (rounds : List φ) : Prop where
  /-- The last one succeeds, and counts every object of the manifest. -/
  last : ∃ outcome, (cluster.application octets cluster.calm
      (cluster.applications octets rounds s).2).2.1 = .ok outcome ∧
    outcome.created + outcome.alreadyExisting = (contents octets).1.length
  /-- The objects are those that one undisturbed application leaves. -/
  same : ∀ id,
    id ∈ cluster.present (cluster.applications octets (rounds ++ [cluster.calm]) s).2 ↔
      id ∈ cluster.present (cluster.application octets cluster.calm s).2.2
  /-- Each object that was missing has been created once, and no other. -/
  once : ∀ id,
    (cluster.created (cluster.applications octets (rounds ++ [cluster.calm]) s).1).count id =
      if id ∈ (contents octets).1.map cluster.ident ∧ id ∉ cluster.present s then 1 else 0

theorem present_of_calm (hf : (contents octets).2 = none)
    (hn : ∀ o ∈ (contents octets).1, o.name.isSome = true) {t : σ} {trace : List (Exchange Unit)}
    (h : cluster.Grown (contents octets).1 s trace (cluster.application octets cluster.calm t).2.2)
    (id : κ) :
    id ∈ cluster.present (cluster.application octets cluster.calm t).2.2 ↔
      id ∈ cluster.present s ∨ id ∈ (contents octets).1.map cluster.ident := by
  constructor
  · intro hi
    exact ((h.present id).1 hi).imp_right (h.wanted id)
  · rintro (hi | hi)
    · exact (h.present id).2 (.inl hi)
    · obtain ⟨o, ho, rfl⟩ := List.mem_map.1 hi
      exact (calm_application hf hn t).2 o ho

theorem converges [DecidableEq κ] (hf : (contents octets).2 = none)
    (hn : ∀ o ∈ (contents octets).1, o.name.isSome = true) (s : σ) (rounds : List φ) :
    cluster.Converges octets s rounds := by
  have hgrown := cluster.grown_applications hn (rounds ++ [cluster.calm]) s
  have hend : (cluster.applications octets (rounds ++ [cluster.calm]) s).2 =
      (cluster.application octets cluster.calm (cluster.applications octets rounds s).2).2.2 := by
    rw [applications_append]
    rfl
  have hpresent := present_of_calm hf hn (hend ▸ hgrown)
  refine ⟨(calm_application hf hn _).1, fun id => ?_, fun id => ?_⟩
  · rw [hend, hpresent, present_of_calm hf hn (cluster.grown_application hn cluster.calm s)]
  · have hid : id ∈ cluster.created (cluster.applications octets (rounds ++ [cluster.calm]) s).1 ↔
        id ∈ (contents octets).1.map cluster.ident ∧ id ∉ cluster.present s := by
      refine ⟨fun hi => ⟨hgrown.wanted id hi, hgrown.missing id hi⟩, fun hi => ?_⟩
      have hthere := (hpresent id).2 (.inr hi.1)
      rw [← hend, hgrown.present] at hthere
      exact hthere.resolve_left hi.2
    simp only [hgrown.nodup.count, hid]

end MemoryCluster

theorem Manifest.Object.displayName_of_name {o : Object} {name : String} (h : o.name = some name) :
    o.displayName = name := by
  simp [displayName, h]

namespace Store

def workloadIdent (o : Object) : WorkloadKey := ⟨o.kind, o.inNamespace.getD "", o.displayName⟩

def createFailure? (s : Store) (o : Object) : Option KubeError :=
  (s.failure? "remote_create" s!"{o.kind}/{o.displayName}").map .api

theorem createStep_createObject (s : Store) {o : Object} (h : o.name.isSome = true) :
    CreateStep none (workloadIdent o) s.workload (s.createObject o).1
      (s.createObject o).2.workload := by
  obtain ⟨name, hname⟩ := Option.isSome_iff_exists.1 h
  have hid : workloadIdent o = ⟨o.kind, o.inNamespace.getD "", name⟩ := by
    rw [workloadIdent, Object.displayName_of_name hname]
  simp only [createObject, hname, ← hid, List.contains_iff_mem]
  by_cases hm : workloadIdent o ∈ s.workload
  · rw [if_pos hm]
    exact .occupied rfl hm rfl
  · rw [if_neg hm]
    exact .created rfl hm

theorem createStep_answer (s : Store) {o : Object} (h : o.name.isSome = true) :
    CreateStep (s.createFailure? o) (workloadIdent o) s.workload
      (answer (.createObject () o) s).1 (answer (.createObject () o) s).2.workload := by
  dsimp only [answer, attempt]
  generalize hl : s.logged "remote_create" s!"{o.kind}/{o.displayName}"
    [.str (o.inNamespace.getD "")] = t
  have hw : s.workload = t.workload := by
    subst hl
    rfl
  have hf : s.createFailure? o =
      (t.failure? "remote_create" s!"{o.kind}/{o.displayName}").map .api := by
    subst hl
    rfl
  rw [hf, hw]
  cases t.failure? "remote_create" s!"{o.kind}/{o.displayName}" with
  | some e => exact .failed rfl
  | none => exact t.createStep_createObject h

theorem failures_answer_createObject (s : Store) (o : Object) :
    (answer (.createObject () o) s).2.failures = s.failures := by
  dsimp only [answer, attempt]
  split
  · rfl
  · exact failures_createObject _ _

def workloadCluster : MemoryCluster Store WorkloadKey (List Failure) where
  environment := environment
  ident := workloadIdent
  present := workload
  failure? := createFailure?
  inject failures s := { s with failures }
  calm := []
  create s _ h := s.createStep_answer h
  failure?_create s o := by
    funext other
    have hf : (environment.answer (.createObject () o) s).2.failures = s.failures :=
      s.failures_answer_createObject o
    rw [createFailure?, createFailure?, Store.failure?, Store.failure?, hf]
  present_note _ _ := rfl
  failure?_note _ _ := rfl
  present_inject _ _ := rfl
  failure?_calm _ _ := rfl

end Store

namespace Recorder

def workloadIdent (o : Object) : String × String := (o.kind, o.displayName)

def createFailure? (r : Recorder) (o : Object) : Option KubeError :=
  if r.failing.contains (workloadIdent o) then
    some (.api (.failure 500 "InternalError" "admission webhook failed"))
  else none

theorem createStep_answer (r : Recorder) {o : Object} (h : o.name.isSome = true) :
    CreateStep (r.createFailure? o) (workloadIdent o) r.existing
      (answer (.createObject () o) r).1 (answer (.createObject () o) r).2.existing := by
  have hn : o.name.isNone = false := by simpa using h
  have hid : workloadIdent o = (o.kind, o.displayName) := rfl
  simp only [answer, createObject, createFailure?, hn, ← hid, List.contains_iff_mem,
    Bool.false_eq_true, if_false]
  by_cases hf : workloadIdent o ∈ r.failing
  · rw [if_pos hf, if_pos hf]
    exact .failed rfl
  · rw [if_neg hf, if_neg hf]
    by_cases hm : workloadIdent o ∈ r.existing
    · rw [if_pos hm]
      exact .occupied rfl hm rfl
    · rw [if_neg hm]
      exact .created rfl hm

theorem failing_answer_createObject (r : Recorder) (o : Object) :
    (answer (.createObject () o) r).2.failing = r.failing := by
  simp only [answer, createObject]
  split
  · rfl
  · split
    · rfl
    · split <;> rfl

def workloadCluster : MemoryCluster Recorder (String × String) (List (String × String)) where
  environment := environment
  ident := workloadIdent
  present := existing
  failure? := createFailure?
  inject failing r := { r with failing }
  calm := []
  create r _ h := r.createStep_answer h
  failure?_create r o := by
    funext other
    have hf : (environment.answer (.createObject () o) r).2.failing = r.failing :=
      r.failing_answer_createObject o
    rw [createFailure?, createFailure?, hf]
  present_note _ _ := rfl
  failure?_note _ _ := rfl
  present_inject _ _ := rfl
  failure?_calm _ _ := rfl

end Recorder

/-- On the store and on the recording clients, interrupted applications of a manifest with names
converge, whatever failures are set. Nor does it matter if a failure says that an object is there
already: the object is passed over in that run only. -/
theorem applications_converge {octets : List UInt8} (hf : (contents octets).2 = none)
    (hn : ∀ o ∈ (contents octets).1, o.name.isSome = true) :
    (∀ (s : Store) (rounds : List (List Failure)),
      Store.workloadCluster.Converges octets s rounds) ∧
    ∀ (r : Recorder) (rounds : List (List (String × String))),
      Recorder.workloadCluster.Converges octets r rounds :=
  ⟨fun s rounds => MemoryCluster.converges hf hn s rounds,
    fun r rounds => MemoryCluster.converges hf hn r rounds⟩

/-- A namespace, a secret in it, and the namespace again. -/
def pondManifest : List UInt8 := String.toByteArray "
apiVersion: v1
kind: Namespace
metadata: {name: pond}
---
apiVersion: v1
kind: Secret
metadata: {name: feed, namespace: pond}
---
apiVersion: v1
kind: Namespace
metadata: {name: pond}
" |>.toList

theorem contents_pondManifest : (contents pondManifest).2 = none ∧
    (contents pondManifest).1.map (fun o => (o.kind, o.name)) =
      [("Namespace", some "pond"), ("Secret", some "feed"), ("Namespace", some "pond")] := by
  decide +kernel

/-- The secret is there, and creates fail for everything first and for the secret then. -/
theorem applications_converge_pond :
    (contents pondManifest).2 = none ∧
    (∀ o ∈ (contents pondManifest).1, o.name.isSome = true) ∧
    Store.workloadCluster.Converges pondManifest { workload := [⟨"Secret", "pond", "feed"⟩] }
      [[⟨"remote_create", "", .failure 500 "InternalError" "down"⟩],
        [⟨"remote_create", "Secret/feed", .failure 403 "Forbidden" "denied"⟩]] ∧
    Recorder.workloadCluster.Converges pondManifest { existing := [("Secret", "feed")] }
      [[("Namespace", "pond")], [("Secret", "feed")]] := by
  have hall : ∀ p ∈ (contents pondManifest).1.map (fun o => (o.kind, o.name)),
      p.2.isSome = true := by
    rw [contents_pondManifest.2]
    decide
  have hn : ∀ o ∈ (contents pondManifest).1, o.name.isSome = true := List.forall_mem_map.1 hall
  have h := applications_converge contents_pondManifest.1 hn
  exact ⟨contents_pondManifest.1, hn, h.1 _ _, h.2 _ _⟩

end ClusterImport

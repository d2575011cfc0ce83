import ClusterImport.Proofs.Trace
import ClusterImport.Store
import Mathlib.Data.Finset.Insert
import Mathlib.Logic.Function.Basic
/-!
What clusters in memory have in common. They hold objects by place, they serve a call from what they
hold, and they may fail it; a call that fails changes nothing. Where they differ is in how a place
is made of a key, in what a create says where something is, and in whether a patch takes effect.
-/
namespace ClusterImport

open Manifest (Object)

variable {W α σ κ ω : Type}

abbrev Call.Fault : Call W → Type
  | fetchManifest _ => FetchError
  | workloadClient _ => ControllerError
  | _ => KubeError

def Call.failed : (c : Call W) → c.Fault → c.Answer
  | getCapiCluster _, e => .error e
  | getNamespace _, e => .error e
  | patchCapiCluster _ _, e => .error e
  | getRancherCluster _, e => .error e
  | createRancherCluster _, e => .error e
  | getRegistrationToken _, e => .error e
  | createRegistrationToken _, e => .error e
  | fetchManifest _, e => .error e
  | workloadClient _, e => .error e
  | createObject _ _, e => .error e

abbrev Faults := (c : Call Unit) → Option c.Fault

structure Memory (κ ω : Type) where
  clusters : κ → Option CapiCluster
  ranchers : κ → Option RancherCluster
  tokens : κ → Option RegistrationToken
  namespaces : String → Option Namespace
  manifests : String → Option String
  workload : Finset ω

structure Regime (κ ω : Type) where
  place : ObjectKey → κ
  /-- What an object on the workload cluster is known by, unless the server completes its name. -/
  ident? : Object → Option ω
  /-- The answer to a create where something is, if it does not take its place. -/
  refusal? : ObjectKey → Option KubeError
  present : Object → KubeError
  merges : Bool
  isAlreadyExists_present : ∀ o, (present o).isAlreadyExists = true

namespace Regime

/-- A create leaves `n`, unless it is refused. -/
def created (refusal : Option KubeError) (a : α) (m n : Memory κ ω) :
    Except KubeError α × Memory κ ω :=
  match refusal with
  | some e => (.error e, m)
  | none => (.ok a, n)

theorem eq_of_created {refusal : Option KubeError} {a b : α} {m n l : Memory κ ω}
    (h : (.ok b, n) = created refusal a m l) : n = l := by
  unfold created at h
  split at h
  · cases h
  · exact (Prod.mk.inj h).2

variable [DecidableEq κ] [DecidableEq ω] (r : Regime κ ω)

def occupied? (key : ObjectKey) (held : Option α) : Option KubeError :=
  held.bind fun _ => r.refusal? key

/-- A cluster with a patch merged in. A result that is no cluster changes nothing. -/
def patched (patch : Json) (c : CapiCluster) : CapiCluster :=
  if r.merges then (CapiCluster.decode (Json.merge c.encode patch)).getD c else c

def withRancher (rancher : RancherCluster) (m : Memory κ ω) : Memory κ ω :=
  { m with ranchers := Function.update m.ranchers (r.place rancher.metadata.key) (some rancher) }

def withToken (token : RegistrationToken) (m : Memory κ ω) : Memory κ ω :=
  { m with tokens := Function.update m.tokens (r.place token.metadata.key) (some token) }

def withPatch (key : ObjectKey) (patch : Json) (m : Memory κ ω) : Memory κ ω :=
  let place := r.place key
  let changed := (m.clusters place).map (r.patched patch)
  { m with clusters := Function.update m.clusters place changed }

variable {r} {m : Memory κ ω} {key : ObjectKey} {patch : Json}

omit [DecidableEq ω] in
theorem withPatch_of_none (h : m.clusters (r.place key) = none) : r.withPatch key patch m = m := by
  simp only [withPatch, h, Option.map_none]
  rw [← h, Function.update_eq_self]

omit [DecidableEq ω] in
theorem withPatch_of_same {c : CapiCluster} (h : m.clusters (r.place key) = some c)
    (hp : r.patched patch c = c) : r.withPatch key patch m = m := by
  simp only [withPatch, h, Option.map_some, hp]
  rw [← h, Function.update_eq_self]

omit [DecidableEq ω] in
theorem withPatch_of_not_merges (h : r.merges = false) : r.withPatch key patch m = m := by
  cases hc : m.clusters (r.place key) with
  | none => exact withPatch_of_none hc
  | some c => exact withPatch_of_same hc (by simp [patched, h])

variable (r)

def serve : (c : Call Unit) → Memory κ ω → c.Answer × Memory κ ω
  | .getCapiCluster key, m => (.ok (m.clusters (r.place key)), m)
  | .getNamespace name, m => (.ok (m.namespaces name), m)
  | .patchCapiCluster key patch, m => (.ok (), r.withPatch key patch m)
  | .getRancherCluster key, m => (.ok (m.ranchers (r.place key)), m)
  | .createRancherCluster rancher, m =>
    let key := rancher.metadata.key
    created (r.occupied? key (m.ranchers (r.place key))) rancher m (r.withRancher rancher m)
  | .getRegistrationToken key, m => (.ok (m.tokens (r.place key)), m)
  | .createRegistrationToken token, m =>
    let key := token.metadata.key
    created (r.occupied? key (m.tokens (r.place key))) token m (r.withToken token m)
  | .fetchManifest url, m =>
    match m.manifests url with
    | some text => (.ok text, m)
    | none => (.error (.status url 404), m)
  | .workloadClient _, m => (.ok (), m)
  | .createObject () o, m =>
    match r.ident? o with
    | none => (.ok (), m)
    | some id =>
      if id ∈ m.workload then (.error (r.present o), m)
      else (.ok (), { m with workload := insert id m.workload })

def answer (faults : Faults) (c : Call Unit) (m : Memory κ ω) : c.Answer × Memory κ ω :=
  match faults c with
  | some e => (c.failed e, m)
  | none => r.serve c m

def environment (faults : Faults) : Environment Unit (Memory κ ω) := ⟨r.answer faults, fun _ m => m⟩

def Attends (m : Memory κ ω) (x : Exchange Unit) (n : Memory κ ω) : Prop :=
  (x.answer, n) = r.serve x.call m ∨ ∃ e, x.answer = x.call.failed e ∧ n = m

theorem attends_answer (faults : Faults) (c : Call Unit) (m : Memory κ ω) :
    r.Attends m ⟨c, (r.answer faults c m).1⟩ (r.answer faults c m).2 := by
  unfold answer
  cases faults c with
  | none => exact .inl rfl
  | some e => exact .inr ⟨e, rfl, rfl⟩

inductive Leaves : Memory κ ω → List (Exchange Unit) → Memory κ ω → Prop
  | nil (m : Memory κ ω) : Leaves m [] m
  | cons {m n l : Memory κ ω} {x : Exchange Unit} {rest : List (Exchange Unit)}
      (h : r.Attends m x n) (hr : Leaves n rest l) : Leaves m (x :: rest) l

variable {r} {l n : Memory κ ω} {x : Exchange Unit} {first second : List (Exchange Unit)}

@[simp] theorem leaves_nil : r.Leaves m [] n ↔ n = m := by
  constructor
  · intro h
    cases h
    rfl
  · rintro rfl
    exact .nil n

theorem leaves_cons :
    r.Leaves m (x :: second) n ↔ ∃ l, r.Attends m x l ∧ r.Leaves l second n := by
  constructor
  · intro h
    cases h with
    | cons h hr => exact ⟨_, h, hr⟩
  · rintro ⟨l, h, hr⟩
    exact .cons h hr

theorem leaves_append :
    r.Leaves m (first ++ second) n ↔ ∃ l, r.Leaves m first l ∧ r.Leaves l second n := by
  induction first generalizing m with
  | nil => simp
  | cons x first ih =>
    simp only [List.cons_append, leaves_cons, ih]
    constructor
    · rintro ⟨a, h, b, hf, hs⟩
      exact ⟨b, ⟨a, h, hf⟩, hs⟩
    · rintro ⟨b, ⟨a, h, hf⟩, hs⟩
      exact ⟨a, h, b, hf, hs⟩

end Regime

structure InMemory (σ κ ω : Type) [DecidableEq κ] [DecidableEq ω] where
  environment : Environment Unit σ
  regime : Regime κ ω
  memory : σ → Memory κ ω
  faults : σ → Faults
  memory_answer (c : Call Unit) (s : σ) :
    ((environment.answer c s).1, memory (environment.answer c s).2) =
      regime.answer (faults s) c (memory s)
  faults_answer (c : Call Unit) (s : σ) : faults (environment.answer c s).2 = faults s
  memory_note (x : Measurement) (s : σ) : memory (environment.note x s) = memory s
  faults_note (x : Measurement) (s : σ) : faults (environment.note x s) = faults s

namespace InMemory

variable [DecidableEq κ] [DecidableEq ω] (clusters : InMemory σ κ ω)

/-- A run is one of the regime, as far as the memory goes. -/
theorem run_eq (p : Proc Unit α) (s : σ) :
    ((p.run clusters.environment s).1, clusters.memory (p.run clusters.environment s).2) =
      p.run (clusters.regime.environment (clusters.faults s)) (clusters.memory s) ∧
    clusters.faults (p.run clusters.environment s).2 = clusters.faults s := by
  induction p generalizing s with
  | done a => exact ⟨rfl, rfl⟩
  | call c next ih =>
    have ha := clusters.memory_answer c s
    obtain ⟨hr, hf⟩ := ih (clusters.environment.answer c s).1 (clusters.environment.answer c s).2
    rw [clusters.faults_answer] at hr hf
    refine ⟨?_, hf⟩
    simp only [Proc.run, Regime.environment, ← ha]
    exact hr
  | record x next ih =>
    obtain ⟨hr, hf⟩ := ih (clusters.environment.note x s)
    rw [clusters.faults_note] at hr hf
    rw [clusters.memory_note] at hr
    exact ⟨hr, hf⟩

/-- What a run leaves is what the memory keeps of its course. -/
theorem leaves_trace (p : Proc Unit α) (s : σ) :
    clusters.regime.Leaves (clusters.memory s) (p.trace clusters.environment s)
      (clusters.memory (p.run clusters.environment s).2) := by
  induction p generalizing s with
  | done a => exact .nil _
  | call c next ih =>
    refine .cons ?_ (ih _ _)
    obtain ⟨hx, hn⟩ := Prod.mk.inj (clusters.memory_answer c s)
    rw [hx, hn]
    exact clusters.regime.attends_answer _ c _
  | record x next ih =>
    have hr := ih (clusters.environment.note x s)
    rw [clusters.memory_note] at hr
    exact hr

end InMemory

def Regime.inMemory [DecidableEq κ] [DecidableEq ω] (r : Regime κ ω) (faults : Faults) :
    InMemory (Memory κ ω) κ ω where
  environment := r.environment faults
  regime := r
  memory := id
  faults _ := faults
  memory_answer _ _ := rfl
  faults_answer _ _ := rfl
  memory_note _ _ := rfl
  faults_note _ _ := rfl

end ClusterImport

import ClusterImport.Proofs.Creation
import ClusterImport.Proofs.Interleaving
import ClusterImport.Store
/-!
One Rancher cluster for each CAPI cluster. Reconciles race with one another and with others who add,
change and delete clusters. The place of a Rancher cluster is made of the key that is reconciled, and
the store creates nothing where something is; so no two keys share a place, and who comes second
fails.
-/
namespace ClusterImport

open Import

/-- A Rancher cluster in the store, with the reconcile that has created it, if one has. -/
structure Entry (ι : Type) where
  cluster : RancherCluster
  creator : Option ι

structure Fleet (ι : Type) where
  clusters : ObjectKey → Option CapiCluster
  ranchers : ObjectKey → Option (Entry ι)
  home : ∀ key c, clusters key = some c →
    c.metadata.inNamespace = some key.inNamespace ∧ c.metadata.name = some key.name

namespace Fleet

variable {ι : Type} {s : Fleet ι} {key k : ObjectKey} {held : Option (Entry ι)}

def setRancher (s : Fleet ι) (key : ObjectKey) (held : Option (Entry ι)) : Fleet ι :=
  { s with ranchers := fun k => if k = key then held else s.ranchers k }

@[simp] theorem setRancher_self : (s.setRancher key held).ranchers key = held := if_pos rfl

theorem setRancher_of_ne (h : k ≠ key) :
    (s.setRancher key held).ranchers k = s.ranchers k := if_neg h

end Fleet

def Call.isAboutClusters {W : Type} : Call W → Bool
  | .getCapiCluster _ | .patchCapiCluster _ _ | .getRancherCluster _ | .createRancherCluster _ => true
  | _ => false

/-- The answers to a reconcile. A create may fail, and where something is it does; where one takes
effect, the server may complete the cluster, and any answer may arrive. -/
inductive Attends {ι W : Type} (i : ι) : Fleet ι → Exchange W → Fleet ι → Prop
  | read {s : Fleet ι} {key : ObjectKey} {x : Except KubeError (Option CapiCluster)}
      (h : ∀ found, x = .ok found → found = s.clusters key) :
      Attends i s ⟨.getCapiCluster key, x⟩ s
  | patched {s t : Fleet ι} (key : ObjectKey) (patch : Json) (x : Except KubeError Unit)
      (h : t.ranchers = s.ranchers) : Attends i s ⟨.patchCapiCluster key patch, x⟩ t
  | readRancher {s : Fleet ι} {key : ObjectKey} {x : Except KubeError (Option RancherCluster)}
      (h : ∀ found, x = .ok found → found = (s.ranchers key).map (·.cluster)) :
      Attends i s ⟨.getRancherCluster key, x⟩ s
  | refused {s : Fleet ι} (cluster : RancherCluster) (e : KubeError) :
      Attends i s ⟨.createRancherCluster cluster, .error e⟩ s
  | created {s : Fleet ι} {cluster stored : RancherCluster}
      (hfree : s.ranchers cluster.metadata.key = none)
      (ho : stored.metadata.ownerReferences = cluster.metadata.ownerReferences)
      (x : Except KubeError RancherCluster) :
      Attends i s ⟨.createRancherCluster cluster, x⟩
        (s.setRancher cluster.metadata.key (some ⟨stored, some i⟩))
  | other {s : Fleet ι} {x : Exchange W} (h : x.call.isAboutClusters = false) : Attends i s x s

/-- What others do: anything to the CAPI clusters, and to a Rancher cluster what leaves its owners
alone. -/
inductive Disturbance
  | changeClusters
  | addRancher (key : ObjectKey) (cluster : RancherCluster)
  | changeRancher (key : ObjectKey) (cluster : RancherCluster)
  | deleteRancher (key : ObjectKey)

def Disturbance.Leads {ι : Type} (s t : Fleet ι) : Disturbance → Prop
  | changeClusters => t.ranchers = s.ranchers
  | addRancher key cluster =>
    s.ranchers key = none ∧ t = s.setRancher key (some ⟨cluster, none⟩)
  | changeRancher key cluster => ∃ entry, s.ranchers key = some entry ∧
    cluster.metadata.ownerReferences = entry.cluster.metadata.ownerReferences ∧
    t = s.setRancher key (some ⟨cluster, entry.creator⟩)
  | deleteRancher key => t = s.setRancher key none

def fleetService (ι W : Type) : Service ι W (Fleet ι) Disturbance where
  answers i s x t := Attends i s x t
  changes s d t := d.Leads s t

def rancherPlace (key : ObjectKey) : ObjectKey := ⟨key.inNamespace, key.name ++ "-capi"⟩

theorem rancherPlace_injective {key k : ObjectKey} (h : rancherPlace key = rancherPlace k) :
    key = k := by
  obtain ⟨ns, name⟩ := key
  obtain ⟨ms, other⟩ := k
  simp only [rancherPlace, ObjectKey.mk.injEq] at h
  obtain ⟨rfl, hn⟩ := h
  obtain rfl := (String.append_left_inj _).1 hn
  rfl

variable {ι W : Type} {requeueAfter : Nat} {key k : ObjectKey} {s t : Fleet ι}
  {m : Moment ι W (Fleet ι) Disturbance} {moments : List (Moment ι W (Fleet ι) Disturbance)}

/-- Where a create stands in a reconcile: it is the last call, after lookups only. -/
theorem create_last {before after : List (Exchange W)} {cluster : RancherCluster}
    {x : Except KubeError RancherCluster} {result : Except ControllerError Requeue}
    (h : Runs (reconcile requeueAfter key) (before ++ ⟨.createRancherCluster cluster, x⟩ :: after)
      result) :
    (∀ y ∈ before, y.call.isLookup = true) ∧ after = [] ∧
      result = (x.mapError .kube).map fun _ => .immediately := by
  have hnone {reads : List (Exchange W)} (hl : ∀ y ∈ reads, ¬y.call.isCreation = true)
      (he : before ++ ⟨.createRancherCluster cluster, x⟩ :: after = reads) : False :=
    hl ⟨.createRancherCluster cluster, x⟩ (by simp [← he]) rfl
  generalize ht : before ++ ⟨.createRancherCluster cluster, x⟩ :: after = trace at h hnone
  cases reconcileCourse h with
  | @absent c rk rest _ hc hk hr =>
    cases hr with
    | undecided hd => exact (hnone (not_isCreation_of_lookups hd.all_lookups) rfl).elim
    | ineligible hd => exact (hnone (not_isCreation_of_lookups hd.all_lookups) rfl).elim
    | anonymous hd => exact (hnone (not_isCreation_of_lookups hd.all_lookups) rfl).elim
    | refused hd _ e =>
      obtain ⟨rfl, he, rfl⟩ := split_last (not_isCreation_of_lookups hd.all_lookups) rfl ht.symm
      cases he
      exact ⟨hd.all_lookups, rfl, rfl⟩
    | created hd _ stored =>
      obtain ⟨rfl, he, rfl⟩ := split_last (not_isCreation_of_lookups hd.all_lookups) rfl ht.symm
      cases he
      exact ⟨hd.all_lookups, rfl, rfl⟩
  | @present c rk rancher rest _ _ _ _ hr =>
    refine (hnone (fun y hy => ?_) rfl).elim
    simp only [List.mem_cons] at hy
    rcases hy with rfl | rfl | hy
    · simp [Call.isCreation]
    · simp [Call.isCreation]
    · simp [Call.not_isCreation_of_isRegistration (hr.registration y hy)]
  | _ => exact (hnone (by simp [Call.isCreation]) rfl).elim

inductive RancherStep (k : ObjectKey) (m : Moment ι W (Fleet ι) Disturbance) : Prop
  | same (h : m.after.ranchers k = m.before.ranchers k)
  | created (i : ι) (cluster stored : RancherCluster) (x : Except KubeError RancherCluster)
      (he : m.event = .asked i ⟨.createRancherCluster cluster, x⟩) (hk : cluster.metadata.key = k)
      (hfree : m.before.ranchers k = none)
      (ho : stored.metadata.ownerReferences = cluster.metadata.ownerReferences)
      (h : m.after.ranchers k = some ⟨stored, some i⟩)
  | added (cluster : RancherCluster) (he : m.event = .changed (.addRancher k cluster))
      (h : m.after.ranchers k = some ⟨cluster, none⟩)
  | changed (cluster : RancherCluster) (entry : Entry ι)
      (he : m.event = .changed (.changeRancher k cluster))
      (hentry : m.before.ranchers k = some entry)
      (ho : cluster.metadata.ownerReferences = entry.cluster.metadata.ownerReferences)
      (h : m.after.ranchers k = some ⟨cluster, entry.creator⟩)
  | deleted (he : m.event = .changed (.deleteRancher k)) (h : m.after.ranchers k = none)

theorem rancherStep (h : (fleetService ι W).Allows m) (k : ObjectKey) : RancherStep k m := by
  obtain ⟨before, event, after⟩ := m
  cases event with
  | asked i x =>
    have h : Attends i before x after := h
    cases h with
    | patched _ _ _ hr => exact .same (congrFun hr k)
    | @created cluster stored hfree ho x =>
      by_cases hk : k = cluster.metadata.key
      · subst hk
        exact .created i cluster stored x rfl rfl hfree ho Fleet.setRancher_self
      · exact .same (Fleet.setRancher_of_ne hk)
    | _ => exact .same rfl
  | changed d =>
    have h : d.Leads before after := h
    cases d with
    | changeClusters => exact .same (congrFun h k)
    | addRancher key cluster =>
      obtain ⟨-, rfl⟩ := h
      by_cases hk : k = key
      · subst hk
        exact .added cluster rfl Fleet.setRancher_self
      · exact .same (Fleet.setRancher_of_ne hk)
    | changeRancher key cluster =>
      obtain ⟨entry, hentry, ho, rfl⟩ := h
      by_cases hk : k = key
      · subst hk
        exact .changed cluster entry rfl hentry ho Fleet.setRancher_self
      · exact .same (Fleet.setRancher_of_ne hk)
    | deleteRancher key =>
      have h : after = before.setRancher key none := h
      subst h
      by_cases hk : k = key
      · subst hk
        exact .deleted rfl Fleet.setRancher_self
      · exact .same (Fleet.setRancher_of_ne hk)

/-- What is read of a CAPI cluster is what is stored. -/
theorem Moment.stored_of_read {i : ι} {c : CapiCluster} (h : (fleetService ι W).Allows m)
    (he : m.event = .asked i ⟨.getCapiCluster key, .ok (some c)⟩) :
    m.before.clusters key = some c := by
  simp only [Service.Allows, he, fleetService] at h
  generalize m.after = t at h
  cases h with
  | read hx => exact (hx _ rfl).symm
  | other h => simp [Call.isAboutClusters] at h

/-- What becomes of a create. -/
theorem Moment.create_cases {i : ι} {cluster : RancherCluster}
    {x : Except KubeError RancherCluster} (h : (fleetService ι W).Allows m)
    (he : m.event = .asked i ⟨.createRancherCluster cluster, x⟩) :
    (m.after = m.before ∧ ∃ e, x = .error e) ∨
      (m.before.ranchers cluster.metadata.key = none ∧
        m.after.ranchers cluster.metadata.key ≠ none) := by
  simp only [Service.Allows, he, fleetService] at h
  generalize m.after = t at h
  cases h with
  | refused _ e => exact .inl ⟨rfl, e, rfl⟩
  | created hfree => exact .inr ⟨hfree, by simp⟩
  | other h => simp [Call.isAboutClusters] at h

def Moment.Founds (m : Moment ι W (Fleet ι) Disturbance) (k : ObjectKey) (i : ι)
    (entry : Entry ι) : Prop :=
  ∃ cluster x, m.event = .asked i ⟨.createRancherCluster cluster, x⟩ ∧ cluster.metadata.key = k ∧
    entry.cluster.metadata.ownerReferences = cluster.metadata.ownerReferences

theorem RancherStep.founded {entry : Entry ι} {i : ι} (h : RancherStep k m)
    (he : m.after.ranchers k = some entry) (hi : entry.creator = some i) :
    m.Founds k i entry ∨ ∃ old, m.before.ranchers k = some old ∧ old.creator = some i ∧
      entry.cluster.metadata.ownerReferences = old.cluster.metadata.ownerReferences := by
  cases h with
  | same h => exact .inr ⟨entry, h.symm.trans he, hi, rfl⟩
  | created j cluster stored x hasked hk _ ho h =>
    obtain rfl := Option.some.inj (h.symm.trans he)
    obtain rfl := Option.some.inj hi
    exact .inl ⟨cluster, x, hasked, hk, ho⟩
  | added cluster _ h =>
    obtain rfl := Option.some.inj (h.symm.trans he)
    simp at hi
  | changed cluster old _ hold ho h =>
    obtain rfl := Option.some.inj (h.symm.trans he)
    exact .inr ⟨old, hold, hi, ho⟩
  | deleted _ h => simp [h] at he

/-- An entry with a creator comes from a create on the way, or it has been there before. -/
theorem founded_of_evolves (h : (fleetService ι W).Evolves s moments t) {entry : Entry ι} {i : ι}
    (he : t.ranchers k = some entry) (hi : entry.creator = some i) :
    (∃ m ∈ moments, m.Founds k i entry) ∨ ∃ old, s.ranchers k = some old ∧
      old.creator = some i ∧
      entry.cluster.metadata.ownerReferences = old.cluster.metadata.ownerReferences := by
  induction h with
  | nil => exact .inr ⟨entry, he, hi, rfl⟩
  | @cons m rest t hm _ ih =>
    rcases ih he with ⟨n, hn, hfounds⟩ | ⟨old, hold, hj, ho⟩
    · exact .inl ⟨n, List.mem_cons_of_mem m hn, hfounds⟩
    · rcases (rancherStep hm k).founded hold hj with ⟨cluster, x, hasked, hk, hc⟩ | ⟨older, ha, hj, hc⟩
      · exact .inl ⟨m, by simp, cluster, x, hasked, hk, ho.trans hc⟩
      · exact .inr ⟨older, ha, hj, ho.trans hc⟩

/-- What is there stays there until it is deleted. -/
theorem occupied_of_evolves (h : (fleetService ι W).Evolves s moments t)
    (hs : s.ranchers k ≠ none)
    (hd : ∀ m ∈ moments, m.event ≠ .changed (.deleteRancher k)) : t.ranchers k ≠ none := by
  induction h with
  | nil => exact hs
  | @cons m rest t hm _ ih =>
    simp only [List.forall_mem_cons] at hd
    refine ih ?_ hd.2
    cases rancherStep hm k with
    | same h => rwa [h]
    | deleted he => exact absurd he hd.1
    | created _ _ _ _ _ _ _ _ h => simp [h]
    | added _ _ h => simp [h]
    | changed _ _ _ _ _ h => simp [h]

/-- A create at a key that succeeds: it is answered so, or it takes effect. -/
def Moment.Creates (m : Moment ι W (Fleet ι) Disturbance) (k : ObjectKey) : Prop :=
  ∃ i cluster x, m.event = .asked i ⟨.createRancherCluster cluster, x⟩ ∧
    cluster.metadata.key = k ∧ (m.after ≠ m.before ∨ ∃ stored, x = .ok stored)

theorem Moment.Creates.fills (h : m.Creates k) (hm : (fleetService ι W).Allows m) :
    m.before.ranchers k = none ∧ m.after.ranchers k ≠ none := by
  obtain ⟨i, cluster, x, he, rfl, hx⟩ := h
  rcases m.create_cases hm he with ⟨hs, e, rfl⟩ | hfilled
  · simp [hs] at hx
  · exact hfilled

section Reconciling

variable [DecidableEq ι] {keys : ι → ObjectKey} {start final : Fleet ι}
  {before after : List (Moment ι W (Fleet ι) Disturbance)} {i : ι} {cluster : RancherCluster}
  {x : Except KubeError RancherCluster}

/-- A reconcile creates the Rancher cluster of the CAPI cluster that it has read at its key. -/
theorem created_for
    (h : Interleaving (fleetService ι W) (reconciling requeueAfter keys) start
      (before ++ m :: after) final)
    (hm : m.event = .asked i ⟨.createRancherCluster cluster, x⟩) :
    ∃ read ∈ before, ∃ c uid, read.event = .asked i ⟨.getCapiCluster (keys i), .ok (some c)⟩ ∧
      c.metadata.uid = some uid ∧
      cluster = ownedCluster (keys i).inNamespace (keys i).name uid := by
  obtain ⟨rest, result, hr⟩ := h.exists_runs hm
  obtain ⟨c, ns, uid, hg, rfl⟩ := (createsSafely_of_runs hr).grounds _ _ _ _ rfl
  obtain ⟨read, hmem, hread⟩ := exists_moment hg.found
  obtain ⟨hfirst, -, -⟩ := h.evolves.at_moment
  have hstored := read.stored_of_read (hfirst.allows read hmem) hread
  -- what is stored at the key has the key's own namespace and name
  obtain ⟨hns, hname⟩ := read.before.home _ _ hstored
  refine ⟨read, hmem, c, uid, hread, hg.uid, ?_⟩
  obtain rfl : (keys i).inNamespace = ns := Option.some.inj (hns.symm.trans hg.home)
  rw [ObjectMeta.anyName, hname]
  rfl

structure OnePerCluster (requeueAfter : Nat) (keys : ι → ObjectKey)
    (moments : List (Moment ι W (Fleet ι) Disturbance)) (final : Fleet ι) : Prop where
  /-- What a reconcile has created is in the place of the CAPI cluster that it has read at its key,
  and belongs to that cluster and no other. -/
  placed : ∀ k entry i, final.ranchers k = some entry → entry.creator = some i →
    k = rancherPlace (keys i) ∧ ∃ m ∈ moments, ∃ c owner,
      m.event = .asked i ⟨.getCapiCluster (keys i), .ok (some c)⟩ ∧
      entry.cluster.metadata.ownerReferences = some [owner] ∧
      owner.name = (keys i).name ∧ some owner.uid = c.metadata.uid
  /-- Reconciles of different keys never create at one place. -/
  apart : ∀ m ∈ moments, ∀ n ∈ moments, ∀ i j cluster other x y,
    m.event = .asked i ⟨.createRancherCluster cluster, x⟩ →
    n.event = .asked j ⟨.createRancherCluster other, y⟩ →
    cluster.metadata.key = other.metadata.key → keys i = keys j
  /-- No call of a reconcile changes a Rancher cluster that is there. -/
  untouched : ∀ m ∈ moments, ∀ i x k entry, m.event = .asked i x →
    m.before.ranchers k = some entry → m.after.ranchers k = some entry
  /-- Between two creates that succeed at a key, somebody else deletes there. -/
  once : ∀ before m between n after k, moments = before ++ m :: (between ++ n :: after) →
    m.Creates k → n.Creates k → ∃ d ∈ between, d.event = .changed (.deleteRancher k)
  /-- A reconcile that finds the place taken has failed and ended, and has only read before. -/
  occupied : ∀ m ∈ moments, ∀ i cluster x,
    m.event = .asked i ⟨.createRancherCluster cluster, x⟩ →
    m.before.ranchers cluster.metadata.key ≠ none →
    m.after = m.before ∧ ∃ e reads, x = .error e ∧
      exchangesOf i moments = reads ++ [⟨.createRancherCluster cluster, .error e⟩] ∧
      (∀ y ∈ reads, y.call.isLookup = true) ∧
      FailedWith requeueAfter (keys i) (exchangesOf i moments) e

theorem key_ownedCluster (key : ObjectKey) (uid : String) :
    (ownedCluster key.inNamespace key.name uid).metadata.key = rancherPlace key := rfl

theorem failed_of_occupied
    (h : Interleaving (fleetService ι W) (reconciling requeueAfter keys) start
      (before ++ m :: after) final)
    (hm : m.event = .asked i ⟨.createRancherCluster cluster, x⟩)
    (ho : m.before.ranchers cluster.metadata.key ≠ none) :
    m.after = m.before ∧ ∃ e reads, x = .error e ∧
      exchangesOf i (before ++ m :: after) = reads ++ [⟨.createRancherCluster cluster, .error e⟩] ∧
      (∀ y ∈ reads, y.call.isLookup = true) ∧
      FailedWith requeueAfter (keys i) (exchangesOf i (before ++ m :: after)) e := by
  obtain ⟨-, hallow, -⟩ := h.evolves.at_moment
  rcases m.create_cases hallow hm with ⟨hs, e, rfl⟩ | ⟨hfree, -⟩
  · obtain ⟨rest, result, hr⟩ := h.exists_runs hm
    obtain ⟨hall, hfailed⟩ := h.ended hm fun _ _ _ hr => (create_last hr).2
    exact ⟨hs, e, _, rfl, hall, (create_last hr).1, hfailed⟩
  · exact absurd hfree ho

/-- No order of the calls gives a CAPI cluster two Rancher clusters, or two CAPI clusters one. -/
theorem onePerCluster_of_interleaving
    (hstart : ∀ k entry, start.ranchers k = some entry → entry.creator = none)
    (h : Interleaving (fleetService ι W) (reconciling requeueAfter keys) start moments final) :
    OnePerCluster requeueAfter keys moments final where
  placed k entry i he hi := by
    rcases founded_of_evolves h.evolves he hi with
      ⟨m, hm, cluster, x, hasked, hk, ho⟩ | ⟨old, hold, hj, -⟩
    · obtain ⟨before, after, rfl⟩ := List.append_of_mem hm
      obtain ⟨read, hmem, c, uid, hread, hu, rfl⟩ := created_for h hasked
      refine ⟨hk.symm.trans (key_ownedCluster _ _), read, by simp [hmem], c, _, hread, ho, rfl, ?_⟩
      exact hu.symm
    · simp [hstart k old hold] at hj
  apart m hm n hn i j cluster other x y hi hj hk := by
    obtain ⟨before, after, hs⟩ := List.append_of_mem hm
    obtain ⟨before', after', ht⟩ := List.append_of_mem hn
    obtain ⟨-, -, -, uid, -, -, rfl⟩ := created_for (hs ▸ h) hi
    obtain ⟨-, -, -, uid', -, -, rfl⟩ := created_for (ht ▸ h) hj
    exact rancherPlace_injective hk
  untouched m hm i x k entry he hentry := by
    cases rancherStep (h.evolves.allows m hm) k with
    | same h => exact h.trans hentry
    | created _ _ _ _ _ _ hfree => simp [hfree] at hentry
    | added _ hd => simp [hd] at he
    | changed _ _ hd => simp [hd] at he
    | deleted hd => simp [hd] at he
  once before m between n after k hs hm hn := by
    subst hs
    obtain ⟨-, hallow, hafter⟩ := h.evolves.at_moment
    obtain ⟨hbetween, hallow', -⟩ := hafter.at_moment
    refine Classical.byContradiction fun hnot => ?_
    have hkept := occupied_of_evolves hbetween (hm.fills hallow).2
      fun d hd he => hnot ⟨d, hd, he⟩
    exact hkept (hn.fills hallow').1
  occupied m hm i cluster x he ho := by
    obtain ⟨before, after, rfl⟩ := List.append_of_mem hm
    exact failed_of_occupied h he ho

end Reconciling

def ducksKey : ObjectKey := ⟨"pond", "ducks"⟩

def ducksOwned : RancherCluster := ownedCluster "pond" "ducks" "u-1"

theorem runs_ducks (x : Except KubeError RancherCluster) :
    Runs (W := Unit) (reconcile 30 ducksKey) [⟨.getCapiCluster ducksKey, .ok (some ducks)⟩,
      ⟨.getRancherCluster (rancherPlace ducksKey), .ok none⟩,
      ⟨.createRancherCluster ducksOwned, x⟩] ((x.mapError .kube).map fun _ => .immediately) := by
  refine .call (c := .getCapiCluster ducksKey) (Except.ok (some ducks)) ?_
  refine .call (c := .getRancherCluster (rancherPlace ducksKey)) (Except.ok none) ?_
  refine .call (c := .createRancherCluster ducksOwned) x ?_
  cases x with
  | error e => exact .done _
  | ok stored => exact .record (.done _)

def ducksFleet : Fleet (Fin 3) where
  clusters key := if key = ducksKey then some ducks else none
  ranchers _ := none
  home key c h := by
    by_cases hk : key = ducksKey
    · simp only [hk, if_true, Option.some.injEq] at h
      subst h hk
      exact ⟨rfl, rfl⟩
    · simp [hk] at h

def ducksTaken : Fleet (Fin 3) :=
  ducksFleet.setRancher (rancherPlace ducksKey) (some ⟨ducksOwned, some 1⟩)

def ducksFreed : Fleet (Fin 3) := ducksTaken.setRancher (rancherPlace ducksKey) none

def ducksRetaken : Fleet (Fin 3) :=
  ducksFreed.setRancher (rancherPlace ducksKey) (some ⟨ducksOwned, some 2⟩)

def placeTaken : KubeError := .api (.failure 409 "AlreadyExists" "pond/ducks-capi already exists")

/-- Two reconciles find the place free. One creates and the other fails; after a deletion a third
creates again. -/
def ducksRace : List (Moment (Fin 3) Unit (Fleet (Fin 3)) Disturbance) := [
  ⟨ducksFleet, .asked 0 ⟨.getCapiCluster ducksKey, .ok (some ducks)⟩, ducksFleet⟩,
  ⟨ducksFleet, .asked 1 ⟨.getCapiCluster ducksKey, .ok (some ducks)⟩, ducksFleet⟩,
  ⟨ducksFleet, .asked 0 ⟨.getRancherCluster (rancherPlace ducksKey), .ok none⟩, ducksFleet⟩,
  ⟨ducksFleet, .asked 1 ⟨.getRancherCluster (rancherPlace ducksKey), .ok none⟩, ducksFleet⟩,
  ⟨ducksFleet, .asked 1 ⟨.createRancherCluster ducksOwned, .ok ducksOwned⟩, ducksTaken⟩,
  ⟨ducksTaken, .asked 0 ⟨.createRancherCluster ducksOwned, .error placeTaken⟩, ducksTaken⟩,
  ⟨ducksTaken, .changed (.deleteRancher (rancherPlace ducksKey)), ducksFreed⟩,
  ⟨ducksFreed, .asked 2 ⟨.getCapiCluster ducksKey, .ok (some ducks)⟩, ducksFreed⟩,
  ⟨ducksFreed, .asked 2 ⟨.getRancherCluster (rancherPlace ducksKey), .ok none⟩, ducksFreed⟩,
  ⟨ducksFreed, .asked 2 ⟨.createRancherCluster ducksOwned, .ok ducksOwned⟩, ducksRetaken⟩]

theorem onePerCluster_ducksRace :
    Interleaving (fleetService (Fin 3) Unit) (reconciling 30 fun _ => ducksKey) ducksFleet ducksRace
        ducksRetaken ∧
      OnePerCluster 30 (fun _ => ducksKey) ducksRace ducksRetaken := by
  have h : Interleaving (fleetService (Fin 3) Unit) (reconciling 30 fun _ => ducksKey) ducksFleet
      ducksRace ducksRetaken := by
    constructor
    · refine Service.evolves_cons.2 ⟨rfl, Attends.read (by rintro _ ⟨⟩; rfl), ?_⟩
      refine Service.evolves_cons.2 ⟨rfl, Attends.read (by rintro _ ⟨⟩; rfl), ?_⟩
      refine Service.evolves_cons.2 ⟨rfl, Attends.readRancher (by rintro _ ⟨⟩; rfl), ?_⟩
      refine Service.evolves_cons.2 ⟨rfl, Attends.readRancher (by rintro _ ⟨⟩; rfl), ?_⟩
      refine Service.evolves_cons.2 ⟨rfl, Attends.created rfl rfl _, ?_⟩
      refine Service.evolves_cons.2 ⟨rfl, Attends.refused _ _, ?_⟩
      refine Service.evolves_cons.2 ⟨rfl, rfl, ?_⟩
      refine Service.evolves_cons.2 ⟨rfl, Attends.read (by rintro _ ⟨⟩; rfl), ?_⟩
      refine Service.evolves_cons.2 ⟨rfl, Attends.readRancher (by rintro _ ⟨⟩; rfl), ?_⟩
      exact Service.evolves_cons.2 ⟨rfl, Attends.created rfl rfl _, .nil _⟩
    · intro i
      match i with
      | 0 => exact (runs_ducks (.error placeTaken)).begins
      | 1 => exact (runs_ducks (.ok ducksOwned)).begins
      | 2 => exact (runs_ducks (.ok ducksOwned)).begins
  exact ⟨h, onePerCluster_of_interleaving (by simp [ducksFleet]) h⟩

end ClusterImport

import ClusterImport.Proofs.Creation
import ClusterImport.Proofs.Replay
/-!
The table of an import. What is stored decides the state that an import is in, by tests in a fixed
order, and each state has a row: when to come back, what is read, what is written, and what the
clusters hold afterwards. Without failures a reconcile does what its row says and nothing else.
-/
namespace ClusterImport

open Import

inductive ImportState
  | missing
  | notReady
  | ineligible (c : CapiCluster)
  | eligible (c : CapiCluster)
  | deleting (c : CapiCluster)
  | unnamed (c : CapiCluster)
  | deployed (c : CapiCluster)
  | tokenless (c : CapiCluster) (name : String)
  | unpublished (c : CapiCluster) (name : String)
  | published (c : CapiCluster) (name url : String)

namespace CapiCluster

def home (c : CapiCluster) : String := c.metadata.inNamespace.getD ""

def rancherHome (c : CapiCluster) : ObjectKey := ⟨c.home, c.metadata.anyName ++ "-capi"⟩

def owned (c : CapiCluster) : RancherCluster :=
  ownedCluster c.home c.metadata.anyName (c.metadata.uid.getD "")

end CapiCluster

namespace Store

def isEligible (s : Store) (c : CapiCluster) : Bool :=
  c.metadata.optsIn || (s.namespaces.get? c.home).any (·.metadata.optsIn)

def registerState (s : Store) (c : CapiCluster) (rancher : RancherCluster) : ImportState :=
  match rancher.managementName? with
  | none => .unnamed c
  | some name =>
    if rancher.agentDeployed then .deployed c
    else match s.tokens.get? (ObjectKey.render ⟨c.home, name⟩) with
      | none => .tokenless c name
      | some token =>
        match token.manifestUrl? with
        | none => .unpublished c name
        | some url => .published c name url

def importState (s : Store) (key : ObjectKey) : ImportState :=
  match s.clusters.get? key.render with
  | none => .missing
  | some c =>
    if !c.isControlPlaneReady then .notReady
    else match s.ranchers.get? c.rancherHome.render with
      | none => if s.isEligible c then .eligible c else .ineligible c
      | some rancher => if rancher.isDeleting then .deleting c else s.registerState c rancher

def objectsAt (s : Store) (url : String) : List Manifest.Object :=
  (Manifest.contents ((s.manifests.get? url).getD "").toByteArray.toList).1

def withRancher (s : Store) (c : CapiCluster) : Store :=
  { s with ranchers := Dict.insert c.rancherHome.render c.owned s.ranchers }

def withMark (s : Store) (key : ObjectKey) (c : CapiCluster) : Store :=
  match CapiCluster.decode c.marked.encode with
  | some stored => { s with clusters := Dict.insert key.render stored s.clusters }
  | none => s

def withToken (s : Store) (c : CapiCluster) (name : String) : Store :=
  { s with tokens := Dict.insert (ObjectKey.render ⟨c.home, name⟩) (tokenFor name c.home) s.tokens }

def withObjects (s : Store) (objects : List Manifest.Object) : Store :=
  objects.foldl (fun s o => (s.createObject o).2) s

end Store

structure Row where
  requeue : Requeue
  reads : List (Call Unit)
  writes : List (Call Unit)
  after : Store

namespace ImportState

variable (key : ObjectKey) (c : CapiCluster)

def clusterReads : List (Call Unit) := [.getCapiCluster key, .getRancherCluster c.rancherHome]

def eligibilityReads : List (Call Unit) :=
  if c.metadata.optsIn then [] else [.getNamespace c.home]

def tokenReads (name : String) : List (Call Unit) := [.getRegistrationToken ⟨c.home, name⟩]

def row (s : Store) (requeueAfter : Nat) : ImportState → Row
  | missing => ⟨.immediately, [.getCapiCluster key], [], s⟩
  | notReady => ⟨.after requeueAfter, [.getCapiCluster key], [], s⟩
  | ineligible c => ⟨.never, clusterReads key c ++ eligibilityReads c, [], s⟩
  | eligible c => ⟨.immediately, clusterReads key c ++ eligibilityReads c,
      [.createRancherCluster c.owned], s.withRancher c⟩
  | deleting c => ⟨.never, clusterReads key c,
      if c.isMarked then [] else [.patchCapiCluster key c.markPatch],
      if c.isMarked then s else s.withMark key c⟩
  | unnamed c => ⟨.after requeueAfter, clusterReads key c, [], s⟩
  | deployed c => ⟨.never, clusterReads key c, [], s⟩
  | tokenless c name => ⟨.after requeueAfter, clusterReads key c ++ tokenReads c name,
      [.createRegistrationToken (tokenFor name c.home)], s.withToken c name⟩
  | unpublished c name => ⟨.after requeueAfter, clusterReads key c ++ tokenReads c name, [], s⟩
  | published c name url => ⟨.never,
      clusterReads key c ++ tokenReads c name ++ [.fetchManifest url, .workloadClient c],
      (s.objectsAt url).map (.createObject ()), s.withObjects (s.objectsAt url)⟩

end ImportState

def Store.row (s : Store) (requeueAfter : Nat) (key : ObjectKey) : Row :=
  (s.importState key).row key s requeueAfter

/-- No call fails, every cluster has a namespace and a uid, and every address that a token publishes
serves a manifest without a fault. -/
structure Store.FailureFree (s : Store) : Prop where
  failures : s.failures = []
  home : ∀ key c, s.clusters.get? key = some c → ∃ ns, c.metadata.inNamespace = some ns
  uid : ∀ key c, s.clusters.get? key = some c → ∃ uid, c.metadata.uid = some uid
  published : ∀ key token url, s.tokens.get? key = some token → token.manifestUrl? = some url →
    ∃ text, s.manifests.get? url = some text ∧
      (Manifest.contents text.toByteArray.toList).2 = none

namespace Store

variable {b t : Store} {key : ObjectKey} {c : CapiCluster} {requeueAfter : Nat}

/-- Eligibility as it is read off the store. -/
theorem eligible_of_replays (hb : b.Quiet) (hn : c.metadata.inNamespace = some c.home)
    {reads rest : List (Exchange Unit)} {decided : Except ControllerError Bool}
    (h : EligibilityCourse c reads decided) (hr : Replays b (reads ++ rest) t) :
    decided = .ok (b.isEligible c) ∧ reads.map (·.call) = ImportState.eligibilityReads c ∧
      Replays b rest t := by
  unfold isEligible ImportState.eligibilityReads
  cases h with
  | own ho => simpa [ho] using hr
  | homeless _ hh => simp [hh] at hn
  | unread _ _ e =>
    obtain ⟨hx, -⟩ := hb.getNamespace.1 hr
    cases hx
  | read ho hns found =>
    obtain rfl := Option.some.inj (hns.symm.trans hn)
    obtain ⟨hx, hs⟩ := hb.getNamespace.1 hr
    cases hx
    exact ⟨by rw [ho]; rfl, by rw [ho]; rfl, hs⟩

/-- The token that is there, or the one that is created. -/
theorem token_of_replays (hb : b.Quiet) {name : String} {steps rest : List (Exchange Unit)}
    {got : Except ControllerError RegistrationToken} (h : TokenCourse name c.home steps got)
    (hr : Replays b (steps ++ rest) t) :
    match b.tokens.get? (ObjectKey.render ⟨c.home, name⟩) with
    | none => got = .ok (tokenFor name c.home) ∧
        steps.map (·.call) = ImportState.tokenReads c name ++
          [.createRegistrationToken (tokenFor name c.home)] ∧
        Replays (b.withToken c name) rest t
    | some token => got = .ok token ∧ steps.map (·.call) = ImportState.tokenReads c name ∧
        Replays b rest t := by
  cases h with
  | unread e =>
    obtain ⟨hx, -⟩ := hb.getRegistrationToken.1 hr
    cases hx
  | found token =>
    obtain ⟨hx, hs⟩ := hb.getRegistrationToken.1 hr
    rw [← Except.ok.inj hx]
    exact ⟨rfl, rfl, hs⟩
  | missing x =>
    obtain ⟨hx, hs⟩ := hb.getRegistrationToken.1 hr
    rw [← Except.ok.inj hx]
    obtain ⟨rfl, hk⟩ := hb.createRegistrationToken.1 hs
    exact ⟨rfl, rfl, hk⟩

inductive Search (b : Store) (c : CapiCluster) (name : String) :
    Except ControllerError (Option String) → List (Call Unit) → Store → Prop
  | tokenless (hg : b.tokens.get? (ObjectKey.render ⟨c.home, name⟩) = none) :
      Search b c name (.ok none) (ImportState.tokenReads c name ++
        [.createRegistrationToken (tokenFor name c.home)]) (b.withToken c name)
  | unpublished {token : RegistrationToken}
      (hg : b.tokens.get? (ObjectKey.render ⟨c.home, name⟩) = some token)
      (hu : token.manifestUrl? = none) :
      Search b c name (.ok none) (ImportState.tokenReads c name) b
  | published {token : RegistrationToken} {url text : String}
      (hg : b.tokens.get? (ObjectKey.render ⟨c.home, name⟩) = some token)
      (hu : token.manifestUrl? = some url) (hm : b.manifests.get? url = some text) :
      Search b c name (.ok (some text)) (ImportState.tokenReads c name ++ [.fetchManifest url]) b

theorem search_of_replays (hb : b.Quiet) (hp : b.FailureFree) {name : String}
    {steps rest : List (Exchange Unit)} {found : Except ControllerError (Option String)}
    (h : ManifestCourse name c.home steps found) (hr : Replays b (steps ++ rest) t) :
    ∃ u, Search b c name found (steps.map (·.call)) u ∧ Replays u rest t := by
  cases h with
  | tokenless ht =>
    have ht := token_of_replays hb ht hr
    split at ht
    · cases ht.1
    · cases ht.1
  | unpublished ht hu =>
    have ht := token_of_replays hb ht hr
    cases hg : b.tokens.get? (ObjectKey.render ⟨c.home, name⟩) with
    | none =>
      rw [hg] at ht
      obtain ⟨-, hc, hk⟩ := ht
      exact ⟨_, by rw [hc]; exact .tokenless hg, hk⟩
    | some stored =>
      rw [hg] at ht
      obtain ⟨hx, hc, hk⟩ := ht
      cases hx
      exact ⟨_, by rw [hc]; exact .unpublished hg hu, hk⟩
  | @fetched first token url ht hu x =>
    rw [List.append_assoc] at hr
    have ht := token_of_replays hb ht hr
    cases hg : b.tokens.get? (ObjectKey.render ⟨c.home, name⟩) with
    | none =>
      -- the token that has just been created publishes nothing
      rw [hg] at ht
      cases ht.1
      cases hu
    | some stored =>
      rw [hg] at ht
      obtain ⟨hx, hc, hk⟩ := ht
      cases hx
      obtain ⟨text, hm, -⟩ := hp.published _ _ _ hg hu
      obtain ⟨rfl, hl⟩ := (hb.fetchManifest hm).1 hk
      exact ⟨_, by rw [List.map_append, hc]; exact .published hg hu hm, hl⟩

/-- The workload cluster accepts every object that it does not have yet. -/
theorem tolerated_createObject (s : Store) (o : Manifest.Object) :
    Manifest.tolerated (s.createObject o).1 = true := by
  unfold createObject
  split
  · rfl
  · dsimp only
    split <;> rfl

theorem creates_of_replays (hb : b.Quiet) {answers : Manifest.Answers}
    {rest : List (Exchange Unit)} (hr : Replays b (answers.exchanges () ++ rest) t) :
    (b.withObjects (answers.map Prod.fst)).Quiet ∧
      Replays (b.withObjects (answers.map Prod.fst)) rest t := by
  induction answers generalizing b with
  | nil => exact ⟨hb, hr⟩
  | cons p answers ih =>
    obtain ⟨-, hs⟩ := hb.createObject.1 hr
    exact ih (hb.create p.1) hs

/-- A manifest without a fault is applied as a whole. -/
theorem objects_of_replays (hb : b.Quiet) {objects : List Manifest.Object}
    {creates : List (Exchange Unit)} {outcome : Except ControllerError ApplyOutcome}
    (h : Manifest.ApplyCourse () objects none {} creates outcome) (hr : Replays b creates t) :
    (∃ applied, outcome = .ok applied) ∧
      creates.map (·.call) = objects.map (.createObject ()) ∧ t = b.withObjects objects := by
  cases h with
  | @refused answers o _ e _ _ he =>
    obtain ⟨hq, hs⟩ := creates_of_replays hb hr
    obtain ⟨hx, -⟩ := hq.createObject.1 hs
    have ht := tolerated_createObject (b.withObjects (answers.map Prod.fst)) o
    rw [← hx] at ht
    exact absurd (he.symm.trans ht) Bool.false_ne_true
  | faulty hf => cases hf
  | @applied answers _ ho _ =>
    have hr : Replays b (answers.exchanges () ++ []) t := by rwa [List.append_nil]
    obtain ⟨-, hs⟩ := creates_of_replays hb hr
    refine ⟨⟨_, rfl⟩, ?_, by rw [← ho]; exact hs⟩
    rw [← ho, Manifest.Answers.exchanges, List.map_map, List.map_map]
    rfl

structure Follows (b : Store) (key : ObjectKey) (requeueAfter : Nat) (state : ImportState)
    (result : Except ControllerError Requeue) (trace : List (Exchange Unit)) (t : Store) :
    Prop where
  result : result = .ok (state.row key b requeueAfter).requeue
  calls : trace.map (·.call) =
    (state.row key b requeueAfter).reads ++ (state.row key b requeueAfter).writes
  after : t = (state.row key b requeueAfter).after

/-- The registration of an agent, once the two clusters have been read. -/
theorem follows_register (hb : b.Quiet) (hp : b.FailureFree) {rancher : RancherCluster}
    {steps : List (Exchange Unit)} {result : Except ControllerError Requeue}
    (h : RegisterCourse requeueAfter c rancher steps result) (hr : Replays b steps t)
    (x : Except KubeError (Option CapiCluster)) (y : Except KubeError (Option RancherCluster)) :
    b.Follows key requeueAfter (b.registerState c rancher) result
      (⟨.getCapiCluster key, x⟩ :: ⟨.getRancherCluster c.rancherHome, y⟩ :: steps) t := by
  have hsearch {name : String} {first rest : List (Exchange Unit)}
      {found : Except ControllerError (Option String)}
      (hm : ManifestCourse name (c.metadata.inNamespace.getD "") first found)
      (hr : Replays b (first ++ rest) t) : ∃ calls u, first.map (·.call) = calls ∧
        Search b c name found calls u ∧ Replays u rest t := by
    obtain ⟨u, hs, hk⟩ := search_of_replays hb hp hm hr
    exact ⟨_, u, rfl, hs, hk⟩
  cases h with
  | unnamed hn =>
    have hs : b.registerState c rancher = .unnamed c := by simp [registerState, hn]
    rw [hs]
    exact ⟨rfl, by simp [ImportState.row, ImportState.clusterReads], hr⟩
  | deployed hn hd =>
    have hs : b.registerState c rancher = .deployed c := by simp [registerState, hn, hd]
    rw [hs]
    exact ⟨rfl, by simp [ImportState.row, ImportState.clusterReads], hr⟩
  | unfetched hn hd hm =>
    rw [← List.append_nil steps] at hr
    obtain ⟨calls, u, -, hf, -⟩ := hsearch hm hr
    cases hf
  | @unpublished name _ hn hd hm =>
    rw [← List.append_nil steps] at hr
    obtain ⟨calls, u, hc, hf, hk⟩ := hsearch hm hr
    cases hf with
    | tokenless hg =>
      have hs : b.registerState c rancher = .tokenless c name := by
        simp [registerState, hn, hd, hg]
      rw [hs]
      exact ⟨rfl, by simp [hc, ImportState.row, ImportState.clusterReads], hk⟩
    | unpublished hg hu =>
      have hs : b.registerState c rancher = .unpublished c name := by
        simp [registerState, hn, hd, hg, hu]
      rw [hs]
      exact ⟨rfl, by simp [hc, ImportState.row, ImportState.clusterReads], hk⟩
  | unreachable hn hd hm e =>
    obtain ⟨calls, u, -, hf, hk⟩ := hsearch hm hr
    cases hf with
    | published =>
      obtain ⟨hx, -⟩ := hb.workloadClient.1 hk
      cases hx
  | @applied name manifest first creates client outcome hn hd hm ha =>
    obtain ⟨calls, u, hc, hf, hk⟩ := hsearch hm hr
    cases hf with
    | @published token url _ hg hu ht =>
      have hs : b.registerState c rancher = .published c name url := by
        simp [registerState, hn, hd, hg, hu]
      obtain ⟨-, hw⟩ := hb.workloadClient.1 hk
      obtain ⟨text, hm, hfault⟩ := hp.published _ _ _ hg hu
      obtain rfl : manifest = text := Option.some.inj (ht.symm.trans hm)
      rw [hfault] at ha
      obtain ⟨⟨applied, rfl⟩, hcalls, ho⟩ := objects_of_replays hb ha hw
      have hobjects : b.objectsAt url =
          (Manifest.contents manifest.toByteArray.toList).1 := by
        rw [objectsAt, ht]
        rfl
      rw [hs]
      refine ⟨rfl, ?_, by rw [ho, ← hobjects]; rfl⟩
      simp [hc, hcalls, hobjects, ImportState.row, ImportState.clusterReads]

/-- What follows when the cluster has no Rancher cluster. -/
theorem follows_creation (hb : b.Quiet) (hn : c.metadata.inNamespace = some c.home)
    (hu : ∃ uid, c.metadata.uid = some uid) {steps : List (Exchange Unit)}
    {result : Except ControllerError Requeue} (h : CreationCourse c c.rancherHome steps result)
    (hr : Replays b steps t) (x : Except KubeError (Option CapiCluster))
    (y : Except KubeError (Option RancherCluster)) :
    b.Follows key requeueAfter (if b.isEligible c then .eligible c else .ineligible c) result
      (⟨.getCapiCluster key, x⟩ :: ⟨.getRancherCluster c.rancherHome, y⟩ :: steps) t := by
  cases h with
  | undecided hd =>
    rw [← List.append_nil steps] at hr
    cases (eligible_of_replays hb hn hd hr).1
  | ineligible hd =>
    rw [← List.append_nil steps] at hr
    obtain ⟨hx, hc, ht⟩ := eligible_of_replays hb hn hd hr
    rw [← Except.ok.inj hx]
    exact ⟨rfl, by simp [hc, ImportState.row, ImportState.clusterReads], ht⟩
  | anonymous _ hf =>
    obtain ⟨uid, hu⟩ := hu
    simp [rancherClusterFor, hu] at hf
  | refused hd _ e =>
    obtain ⟨-, -, hs⟩ := eligible_of_replays hb hn hd hr
    obtain ⟨hx, -⟩ := hb.createRancherCluster.1 hs
    cases hx
  | created hd hf stored =>
    obtain ⟨hx, hc, hs⟩ := eligible_of_replays hb hn hd hr
    obtain ⟨uid, hu, rfl⟩ := rancherClusterFor_ok hf
    obtain ⟨-, ht⟩ := hb.createRancherCluster.1 hs
    have ho : c.owned = ownedCluster c.home c.metadata.anyName uid := by
      rw [CapiCluster.owned, hu]
      rfl
    rw [← Except.ok.inj hx]
    rw [← ho] at ht
    exact ⟨rfl, by simp [hc, ho, ImportState.row, ImportState.clusterReads], ht⟩

theorem rancherKey_home {rk : ObjectKey} (h : rancherKey c = .ok rk) :
    c.metadata.inNamespace = some c.home ∧ rk = c.rancherHome := by
  obtain ⟨ns, hn, rfl⟩ := rancherKey_ok h
  have hh : c.home = ns := by rw [CapiCluster.home, hn, Option.getD_some]
  exact ⟨by rw [hh, hn], by rw [CapiCluster.rancherHome, hh]⟩

theorem patchCluster_markPatch (hc : b.clusters.get? key.render = some c) :
    b.patchCluster key.render c.markPatch = b.withMark key c := by
  have hm : Json.merge c.encode c.markPatch = c.marked.encode := merge_markPatch c
  unfold patchCluster Store.withMark
  cases hd : CapiCluster.decode c.marked.encode with
  | none => simp [hc, hm, hd]
  | some stored => simp [hc, hm, hd]

theorem Quiet.withMark (hb : b.Quiet) : (b.withMark key c).bare = b.withMark key c := by
  obtain ⟨-, hb⟩ := hb
  unfold Store.withMark
  split
  · rw [← hb]
    rfl
  · exact hb

/-- A cluster that is read is the stored one, and its Rancher cluster is looked for at home. -/
theorem found_of_replays (hb : b.Quiet) {rk : ObjectKey} (hk : rancherKey c = .ok rk)
    {x : Except KubeError (Option RancherCluster)} {rest : List (Exchange Unit)}
    (hr : Replays b
      (⟨.getCapiCluster key, .ok (some c)⟩ :: ⟨.getRancherCluster rk, x⟩ :: rest) t) :
    b.clusters.get? key.render = some c ∧ c.metadata.inNamespace = some c.home ∧
      rk = c.rancherHome ∧ x = .ok (b.ranchers.get? c.rancherHome.render) ∧
      Replays b rest t := by
  obtain ⟨hc, hs⟩ := hb.getCapiCluster.1 hr
  obtain ⟨hn, rfl⟩ := rancherKey_home hk
  obtain ⟨hx, hl⟩ := hb.getRancherCluster.1 hs
  exact ⟨(Except.ok.inj hc).symm, hn, rfl, hx, hl⟩

/-- A reconcile that the store answers does what the row of its state says. -/
theorem follows_reconcile (hb : b.Quiet) (hp : b.FailureFree) {trace : List (Exchange Unit)}
    {result : Except ControllerError Requeue} (h : ReconcileCourse requeueAfter key trace result)
    (hr : Replays b trace t) :
    b.Follows key requeueAfter (b.importState key) result trace t := by
  cases h with
  | unread e => cases (hb.getCapiCluster.1 hr).1
  | missing =>
    obtain ⟨hx, ht⟩ := hb.getCapiCluster.1 hr
    have hs : b.importState key = .missing := by simp [importState, ← Except.ok.inj hx]
    rw [hs]
    exact ⟨rfl, rfl, ht⟩
  | waiting hready =>
    obtain ⟨hx, ht⟩ := hb.getCapiCluster.1 hr
    have hs : b.importState key = .notReady := by simp [importState, ← Except.ok.inj hx, hready]
    rw [hs]
    exact ⟨rfl, rfl, ht⟩
  | @homeless c _ _ hk =>
    obtain ⟨hx, -⟩ := hb.getCapiCluster.1 hr
    obtain ⟨ns, hn⟩ := hp.home _ c (Except.ok.inj hx).symm
    simp [rancherKey, hn] at hk
  | rancherUnread _ hk e => cases (found_of_replays hb hk hr).2.2.2.1
  | @absent c rk rest _ hready hk hcr =>
    obtain ⟨hc, hn, rfl, hx, hs⟩ := found_of_replays hb hk hr
    have hst : b.importState key =
        if b.isEligible c then .eligible c else .ineligible c := by
      simp [importState, hc, hready, ← Except.ok.inj hx]
    rw [hst]
    exact follows_creation hb hn (hp.uid _ c hc) hcr hs _ _
  | @marked c rk rancher hready hk hd hm =>
    obtain ⟨hc, -, rfl, hx, hs⟩ := found_of_replays hb hk hr
    have hst : b.importState key = .deleting c := by
      simp [importState, hc, hready, ← Except.ok.inj hx, hd]
    rw [hst]
    exact ⟨rfl, by simp [ImportState.row, ImportState.clusterReads, hm], by
      simp [ImportState.row, hm, show t = b from hs]⟩
  | @marking c rk rancher hready hk hd hm x =>
    obtain ⟨hc, -, rfl, hx, hs⟩ := found_of_replays hb hk hr
    have hst : b.importState key = .deleting c := by
      simp [importState, hc, hready, ← Except.ok.inj hx, hd]
    obtain ⟨rfl, hw⟩ := hb.patchCapiCluster.1 hs
    rw [patchCluster_markPatch hc, hb.withMark] at hw
    rw [hst]
    exact ⟨rfl, by simp [ImportState.row, ImportState.clusterReads, hm], by
      simp [ImportState.row, hm, show t = _ from hw]⟩
  | @present c rk rancher rest _ hready hk hd hreg =>
    obtain ⟨hc, -, rfl, hx, hs⟩ := found_of_replays hb hk hr
    have hst : b.importState key = b.registerState c rancher := by
      simp [importState, hc, hready, ← Except.ok.inj hx, hd]
    rw [hst]
    exact follows_register hb hp hreg hs _ _

theorem FailureFree.quiet {s : Store} (h : s.FailureFree) : s.bare.Quiet := .of_bare h.failures

theorem FailureFree.bare {s : Store} (h : s.FailureFree) : s.bare.FailureFree :=
  ⟨h.failures, h.home, h.uid, h.published⟩

/-- Without failures a reconcile returns what its row says, makes the calls of the row and no
others, and leaves the clusters as the row says. -/
theorem reconcile_row {s : Store} (h : s.FailureFree) (requeueAfter : Nat) (key : ObjectKey) :
    (s.run (reconcile requeueAfter key)).1 = .ok (s.bare.row requeueAfter key).requeue ∧
      ((reconcile requeueAfter key).run.trace environment s).map (·.call) =
        (s.bare.row requeueAfter key).reads ++ (s.bare.row requeueAfter key).writes ∧
      (s.run (reconcile requeueAfter key)).2.bare = (s.bare.row requeueAfter key).after := by
  have hr : ReconcileCourse requeueAfter key ((reconcile requeueAfter key).run.trace environment s)
      (s.run (reconcile requeueAfter key)).1 :=
    reconcileCourse (Proc.runs_trace environment (reconcile requeueAfter key).run s)
  have hs : Replays s.bare ((reconcile requeueAfter key).run.trace environment s)
      (s.run (reconcile requeueAfter key)).2.bare :=
    replays_trace (reconcile requeueAfter key).run h.failures
  obtain ⟨hresult, hcalls, hafter⟩ := follows_reconcile h.quiet h.bare hr hs
  exact ⟨hresult, hcalls, hafter⟩

def pond : Store where
  clusters := [("pond/ducks", ducks)]
  ranchers := [("pond/ducks-capi", {
    metadata := { name := some "ducks-capi", inNamespace := some "pond" }
    spec := {}
    status := some { clusterName := "c-1", agentDeployed := false, ready := false } })]
  tokens := [("pond/c-1", { tokenFor "c-1" "pond" with
    status := some { manifestUrl := "u", token := "", command := "", insecureCommand := "" } })]
  manifests := [("u", "kind: Pod\napiVersion: v1\nmetadata: \x7bname: agent\x7d\n")]

theorem failureFree_pond : pond.FailureFree where
  failures := rfl
  home key c h := by
    obtain ⟨-, rfl⟩ : "pond/ducks" = key ∧ ducks = c := by simpa [pond, Dict.get?] using h
    exact ⟨"pond", rfl⟩
  uid key c h := by
    obtain ⟨-, rfl⟩ : "pond/ducks" = key ∧ ducks = c := by simpa [pond, Dict.get?] using h
    exact ⟨"u-1", rfl⟩
  published key token url h hu := by
    obtain ⟨-, rfl⟩ : "pond/c-1" = key ∧ _ = token := by simpa [pond, Dict.get?] using h
    cases hu
    exact ⟨_, rfl, by decide +kernel⟩

theorem reconcile_row_pond :
    pond.FailureFree ∧ (pond.run (reconcile 30 ⟨"pond", "ducks"⟩)).1 = .ok .never ∧
      ((reconcile 30 ⟨"pond", "ducks"⟩).run.trace environment pond).map (·.call) =
        [.getCapiCluster ⟨"pond", "ducks"⟩, .getRancherCluster ⟨"pond", "ducks-capi"⟩,
          .getRegistrationToken ⟨"pond", "c-1"⟩, .fetchManifest "u", .workloadClient ducks] ++
          (pond.objectsAt "u").map (.createObject ()) ∧
      (pond.run (reconcile 30 ⟨"pond", "ducks"⟩)).2.workload = [⟨"Pod", "", "agent"⟩] := by
  obtain ⟨hresult, hcalls, hafter⟩ := reconcile_row failureFree_pond 30 ⟨"pond", "ducks"⟩
  have hs : pond.bare.importState ⟨"pond", "ducks"⟩ = .published ducks "c-1" "u" := rfl
  have hw : (pond.bare.withObjects (pond.bare.objectsAt "u")).workload =
      [⟨"Pod", "", "agent"⟩] := by decide +kernel
  rw [row, hs] at hresult hcalls hafter
  exact ⟨failureFree_pond, hresult, hcalls, (congrArg workload hafter).trans hw⟩

end Store

end ClusterImport

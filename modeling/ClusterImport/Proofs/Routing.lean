import ClusterImport.Proofs.Ownership
import ClusterImport.Watch
/-!
Where events of Rancher clusters lead. Taking the suffix off a name undoes putting it on, so the
Rancher cluster of a CAPI cluster leads back to it. The way from a Rancher cluster to a CAPI cluster
and back ends where it began for the names that have the suffix, and for no others.
-/
namespace ClusterImport

namespace Naming

theorem stripSuffix?_eq_some_iff {suffix s stem : List Char} :
    stripSuffix? suffix s = some stem ↔ s = stem ++ suffix := by
  unfold stripSuffix?
  split
  · rename_i h
    obtain ⟨t, rfl⟩ := List.isSuffixOf_iff_suffix.1 h
    have ht : (t ++ suffix).take ((t ++ suffix).length - suffix.length) = t := by simp
    rw [ht, Option.some.injEq, List.append_left_inj]
  · rename_i h
    constructor
    · intro hs
      cases hs
    · rintro rfl
      exact absurd (List.isSuffixOf_iff_suffix.2 (List.suffix_append _ _)) h

theorem toCapi_toRancher (name : String) : toCapi (toRancher name) = name := by
  have h : stripSuffix? rancherSuffix (toRancher name).toList = some name.toList :=
    stripSuffix?_eq_some_iff.2 String.toList_append
  rw [toCapi, h]
  exact String.ofList_toList

/-- A name without the suffix gets one on the way. -/
theorem toRancher_toCapi_iff {name : String} :
    toRancher (toCapi name) = name ↔ ∃ stem, name = stem ++ "-capi" := by
  constructor
  · intro h
    exact ⟨toCapi name, h.symm⟩
  · rintro ⟨stem, rfl⟩
    exact congrArg toRancher (toCapi_toRancher stem)

end Naming

open Naming

variable {c d : CapiCluster} {ns : String}

theorem rancherKey_of_home (h : c.metadata.inNamespace = some ns) :
    rancherKey c = .ok ⟨ns, toRancher c.metadata.anyName⟩ := by
  rw [rancherKey, h]

theorem rancherClusterFor_of_uid {uid : String} (h : c.metadata.uid = some uid) :
    rancherClusterFor c ⟨ns, toRancher c.metadata.anyName⟩ =
      .ok (ownedCluster ns c.metadata.anyName uid) := by
  rw [rancherClusterFor, h]
  rfl

theorem ofRancher_ownedCluster (ns name uid : String) :
    ClusterRef.ofRancher (ownedCluster ns name uid) = some ⟨some ns, name⟩ := by
  have h : toCapi (ownedCluster ns name uid).metadata.anyName = name := toCapi_toRancher name
  rw [ClusterRef.ofRancher, h]
  rfl

def ClusterRef.IsTo (ref : ClusterRef) (c : CapiCluster) : Prop :=
  c.metadata.inNamespace = ref.inNamespace ∧ c.metadata.anyName = ref.name

theorem ClusterRef.IsTo.rancherKey {name : String} (h : ClusterRef.IsTo ⟨some ns, name⟩ c) :
    rancherKey c = .ok ⟨ns, toRancher name⟩ := by
  obtain ⟨hns, hname⟩ := h
  have hname : c.metadata.anyName = name := hname
  rw [rancherKey_of_home hns, hname]

theorem eq_of_rancherKey_eq {key : ObjectKey} (hc : rancherKey c = .ok key)
    (hd : rancherKey d = .ok key) :
    c.metadata.inNamespace = d.metadata.inNamespace ∧
      c.metadata.anyName = d.metadata.anyName := by
  obtain ⟨ns, hns, rfl⟩ := rancherKey_ok hc
  obtain ⟨ms, hms, hkey⟩ := rancherKey_ok hd
  have hsame : (⟨ns, c.metadata.anyName⟩ : ObjectKey) = ⟨ms, d.metadata.anyName⟩ :=
    rancherPlace_injective hkey
  obtain ⟨rfl, hname⟩ := ObjectKey.mk.inj hsame
  exact ⟨hns.trans hms.symm, hname⟩

/-- The Rancher cluster that is made for a CAPI cluster leads back to it. Any Rancher cluster leads
to CAPI clusters that look for theirs where it is if, and only if, its name has the suffix. No two
CAPI clusters look in one place. -/
theorem rancherEvents_lead_back :
    (∀ (c : CapiCluster) (ns uid : String), c.metadata.inNamespace = some ns →
      c.metadata.uid = some uid → ∃ key rancher, rancherKey c = .ok key ∧
        rancherClusterFor c key = .ok rancher ∧
        ClusterRef.ofRancher rancher = some ⟨some ns, c.metadata.anyName⟩) ∧
    (∀ (rancher : RancherCluster) (ns : String), rancher.metadata.inNamespace = some ns →
      ∃ ref, ClusterRef.ofRancher rancher = some ref ∧ ∀ c, ref.IsTo c →
        (rancherKey c = .ok ⟨ns, rancher.metadata.anyName⟩ ↔
          ∃ stem, rancher.metadata.anyName = stem ++ "-capi")) ∧
    ∀ (c d : CapiCluster) (key : ObjectKey), rancherKey c = .ok key → rancherKey d = .ok key →
      c.metadata.inNamespace = d.metadata.inNamespace ∧
        c.metadata.anyName = d.metadata.anyName := by
  refine ⟨fun c ns uid hns huid => ?_, fun rancher ns hns => ?_, fun c d key hc hd => ?_⟩
  · exact ⟨_, _, rancherKey_of_home hns, rancherClusterFor_of_uid huid,
      ofRancher_ownedCluster ns c.metadata.anyName uid⟩
  · refine ⟨⟨some ns, toCapi rancher.metadata.anyName⟩, by rw [ClusterRef.ofRancher, hns]; rfl,
      fun c hc => ?_⟩
    rw [hc.rancherKey, Except.ok.injEq, ObjectKey.mk.injEq, ← toRancher_toCapi_iff]
    exact and_iff_right rfl
  · exact eq_of_rancherKey_eq hc hd

/-- A cluster that is named as a Rancher cluster, and one of Rancher's own without the suffix. -/
theorem rancherEvents_lead_back_suffixed :
    let decoy : CapiCluster :=
      { ducks with metadata := { ducks.metadata with name := none, generateName := some "ducks-capi" } }
    let own : RancherCluster :=
      { ownedCluster "pond" "local" "u" with
        metadata := { name := some "local", inNamespace := some "pond" } }
    (∃ key rancher, rancherKey decoy = .ok key ∧ rancherClusterFor decoy key = .ok rancher ∧
      ClusterRef.ofRancher rancher = some ⟨some "pond", "ducks-capi"⟩) ∧
    (∃ ref, ClusterRef.ofRancher own = some ref ∧ ∀ c, ref.IsTo c →
      rancherKey c ≠ .ok ⟨"pond", "local"⟩) ∧
    ∀ d, rancherKey d = .ok ⟨"pond", "ducks-capi-capi"⟩ → d.metadata.anyName = "ducks-capi" := by
  intro decoy own
  obtain ⟨hback, hsuffix, hkeys⟩ := rancherEvents_lead_back
  refine ⟨hback decoy "pond" "u-1" rfl rfl, ?_, fun d hd => ?_⟩
  · obtain ⟨ref, href, hiff⟩ := hsuffix own "pond" rfl
    refine ⟨ref, href, fun c hc hkey => ?_⟩
    obtain ⟨stem, hstem⟩ := (hiff c hc).1 hkey
    have hlast : "-capi".toList <:+ "local".toList :=
      ⟨stem.toList, by rw [← String.toList_append, ← hstem]; rfl⟩
    exact absurd hlast (by decide)
  · exact (hkeys d decoy _ hd rfl).2

end ClusterImport

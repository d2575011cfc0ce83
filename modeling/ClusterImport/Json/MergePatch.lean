import ClusterImport.Json.Basic
/-!
Merge patches in the sense of RFC 7386. A patch gives the members that change, null for one that
goes; arrays and scalars are replaced as a whole.
-/
namespace ClusterImport.Json

def removed (old new patch : Dict Json) : Dict Json :=
  old.foldl (fun p (k, _) => if Dict.contains k new then p else Dict.insert k null p) patch

mutual

/-- The patch that leads from one value to another, or nothing if they are equal. -/
def diff (old : Json) : Json → Option Json
  | obj new =>
    match old with
    | obj members =>
      let patch := removed members new (changed members new)
      if patch.isEmpty then none else some (obj patch)
    | _ => some (obj new)
  | v => if old == v then none else some v

def changed (old : Dict Json) : List (String × Json) → Dict Json
  | [] => []
  | (k, v) :: rest =>
    match Dict.get? k old with
    | none => (k, v) :: changed old rest
    | some o =>
      match diff o v with
      | none => changed old rest
      | some d => (k, d) :: changed old rest

end

def membersOrNone : Json → Dict Json
  | obj members => members
  | _ => []

mutual

def merge (target : Json) : Json → Json
  | obj patch => obj (mergeMembers target.membersOrNone patch)
  | v => v

def mergeMembers (target : Dict Json) : List (String × Json) → Dict Json
  | [] => target
  | (k, null) :: rest => mergeMembers (Dict.erase k target) rest
  | (k, v) :: rest =>
    mergeMembers (Dict.insert k (merge ((Dict.get? k target).getD null) v) target) rest

end

end ClusterImport.Json

/-!
Request targets. A target is a path with an optional query, an authority on its own, or a scheme
with an authority and a path. A hash sign cuts off the rest of a path or query, which is not
looked at.
-/
namespace ClusterImport

structure Uri where
  scheme : Option (List Char)
  authority : List Char
  path : List Char
  query : Option (List Char)
deriving DecidableEq, Repr

namespace Uri

/-- Characters of a path. Those outside ASCII are taken as they are. -/
def isPathChar (c : Char) : Bool :=
  let n := c.toNat
  n == 0x21 || (0x24 ≤ n && n ≤ 0x3b) || n == 0x3d || (0x40 ≤ n && n ≤ 0x5f) ||
    (0x61 ≤ n && n ≤ 0x7a) || n == 0x7c || 0x7e ≤ n || c == '"' || c == '\x7b' || c == '\x7d'

def isQueryChar (c : Char) : Bool :=
  let n := c.toNat
  n == 0x21 || (0x24 ≤ n && n ≤ 0x3b) || n == 0x3d || 0x3f ≤ n

def isSchemeChar (c : Char) : Bool := c.isAlphanum || c == '+' || c == '-' || c == '.'

def isAuthorityChar (c : Char) : Bool := c.isAlphanum || "!$&'()*+,-.;=_~".toList.contains c

def utf8Length (s : List Char) : Nat := s.foldl (fun n c => n + c.utf8Size) 0

def maxLength : Nat := 65534

def beforeHash (s : List Char) : List Char := s.takeWhile (· != '#')

def pathAndQuery? (s : List Char) : Option (List Char × Option (List Char)) :=
  let path := s.takeWhile fun c => c != '?' && c != '#'
  if !path.all isPathChar then none
  else match s.drop path.length with
    | '?' :: rest =>
      let query := beforeHash rest
      if query.all isQueryChar then some (path, some query) else none
    | _ => some (path, none)

/-- What has been seen of an authority. A bracketed address and the part before an at sign have
their own colons and escapes. -/
structure AuthorityScan where
  colons : Nat
  opened : Bool
  closed : Bool
  escaped : Bool
  endsUser : Bool

def AuthorityScan.step (a : AuthorityScan) (c : Char) : Option AuthorityScan :=
  match c with
  | ':' => if a.colons ≥ 8 then none else some { a with colons := a.colons + 1, endsUser := false }
  | '[' => if a.escaped || a.opened then none else some { a with opened := true, endsUser := false }
  | ']' =>
    if !a.opened || a.closed then none
    else some { a with closed := true, colons := 0, escaped := false, endsUser := false }
  | '@' => some { a with colons := 0, escaped := false, endsUser := true }
  | '%' => some { a with escaped := true, endsUser := false }
  | c => if isAuthorityChar c then some { a with endsUser := false } else none

def authority? (s : List Char) : Option (List Char × List Char) := do
  let text := s.takeWhile fun c => c != '/' && c != '?' && c != '#'
  let a ← text.foldlM AuthorityScan.step ⟨0, false, false, false, false⟩
  if a.opened != a.closed || a.colons > 1 || a.endsUser || a.escaped then none
  some (text, s.drop text.length)

def scheme? (s : List Char) : Option (List Char × List Char) :=
  let name := s.takeWhile isSchemeChar
  match s.drop name.length with
  | ':' :: '/' :: '/' :: rest => some (name, rest)
  | _ => none

def ofChars? (s : List Char) : Option Uri :=
  if s.isEmpty || utf8Length s > maxLength then none
  else if s = ['*'] then some ⟨none, [], ['*'], none⟩
  else if s.head? == some '/' then
    (pathAndQuery? s).map fun (path, query) => ⟨none, [], path, query⟩
  else match scheme? s with
    | none => do
      let (authority, rest) ← authority? s
      if rest.isEmpty then some ⟨none, authority, [], none⟩ else none
    | some (scheme, rest) => do
      if scheme.length > 64 then none
      let (authority, rest) ← authority? rest
      if authority.isEmpty then none
      let (path, query) ← pathAndQuery? rest
      some ⟨some scheme, authority, if path.isEmpty then ['/'] else path, query⟩

end Uri

end ClusterImport

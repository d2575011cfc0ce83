import ClusterImport.Json.Writer
import ClusterImport.Yaml.Scalar
/-!
JSON values as YAML blocks. Members and items stand on lines of their own, items at the column of
their key; empty collections are written in brackets. A text is quoted if it would not read back as
the same text.
-/
namespace ClusterImport.Yaml

/-- Whether a text can stand alone: it begins with no indicator, holds neither the end of a key nor
the start of a comment, and stands for no other value. -/
def isPlain (s : String) : Bool :=
  let readsAsText := match Scalar.plain? s with
    | some (.str t) => s == t
    | _ => false
  let begins := s.toList.head?.any fun c => !"-?:,[]\x7b\x7d#&*!|>'\"%@\x60 ".toList.contains c
  let ends := s.toList.getLast?.any fun c => c != ' ' && c != ':'
  readsAsText && begins && ends && (s.splitOn ": ").length == 1 && (s.splitOn " #").length == 1
    && s.toList.all fun c => 0x20 ≤ c.toNat

def quoteSingle (s : String) : String :=
  String.ofList ('\'' :: s.toList.flatMap (fun c => if c = '\'' then ['\'', '\''] else [c]) ++ ['\''])

def scalarText : Json → String
  | .obj _ => "\x7b\x7d"
  | .arr _ => "[]"
  | .str s => if isPlain s then s else quoteSingle s
  | v => v.render

mutual

def valueLines : Json → List String
  | .obj (m :: ms) => memberLines (m :: ms)
  | .arr (x :: xs) => itemLines (x :: xs)
  | v => [scalarText v]

def memberLines : List (String × Json) → List String
  | [] => []
  | (k, .obj (m :: ms)) :: rest =>
    (k ++ ":") :: (memberLines (m :: ms)).map ("  " ++ ·) ++ memberLines rest
  | (k, .arr (x :: xs)) :: rest => (k ++ ":") :: itemLines (x :: xs) ++ memberLines rest
  | (k, v) :: rest => (k ++ ": " ++ scalarText v) :: memberLines rest

def itemLines : List Json → List String
  | [] => []
  | v :: rest =>
    (match valueLines v with
      | [] => []
      | l :: ls => ("- " ++ l) :: ls.map ("  " ++ ·)) ++ itemLines rest

end

def render (v : Json) : String := String.join ((valueLines v).map (· ++ "\n"))

end ClusterImport.Yaml

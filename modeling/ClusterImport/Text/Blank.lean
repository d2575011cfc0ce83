/-!
White space is the Unicode property `White_Space`. Trimming removes it at the ends of a text and
keeps what lies between.
-/
namespace ClusterImport.Text

def isBlank (c : Char) : Bool :=
  let n := c.toNat
  (9 ≤ n && n ≤ 13) || n == 0x20 || n == 0x85 || n == 0xa0 || n == 0x1680 ||
    (0x2000 ≤ n && n ≤ 0x200a) || n == 0x2028 || n == 0x2029 || n == 0x202f || n == 0x205f ||
    n == 0x3000

def trimStart (s : List Char) : List Char := s.dropWhile isBlank

def trimEnd (s : List Char) : List Char := (s.reverse.dropWhile isBlank).reverse

def trim (s : List Char) : List Char := trimEnd (trimStart s)

def allBlank (s : String) : Bool := s.toList.all isBlank

def trimmed (s : String) : String := String.ofList (trim s.toList)

def trimmedEnd (s : String) : String := String.ofList (trimEnd s.toList)

end ClusterImport.Text

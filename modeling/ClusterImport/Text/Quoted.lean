import ClusterImport.Text.Combining
/-!
Quoted texts in messages: double quotes around the text, with escapes for the quote, the backslash,
the common controls, and as `\u{…}` for each character that cannot be shown on its own.
-/
namespace ClusterImport.Text

def escapeChar (c : Char) : List Char :=
  match c with
  | '\x00' => ['\\', '0']
  | '\t' => ['\\', 't']
  | '\r' => ['\\', 'r']
  | '\n' => ['\\', 'n']
  | '"' => ['\\', '"']
  | '\\' => ['\\', '\\']
  | c =>
    if isPrintable c && !isCombining c then [c]
    else ['\\', 'u', '\x7b'] ++ Nat.toDigits 16 c.toNat ++ ['\x7d']

def quotedChars (s : List Char) : List Char := '"' :: s.flatMap escapeChar ++ ['"']

def quoted (s : String) : String := String.ofList (quotedChars s.toList)

end ClusterImport.Text

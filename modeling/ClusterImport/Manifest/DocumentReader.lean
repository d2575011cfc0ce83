import ClusterImport.Error
import ClusterImport.Text.Blank
import ClusterImport.Text.Lines
/-!
Documents of a manifest stream. A line that begins with `---` separates documents; only white space
or a comment may follow on it. Documents are kept as they are written, and empty ones are passed
over. Reading can go on after an error: the line that caused it is gone, with what was read of its
document.
-/
namespace ClusterImport.Manifest

inductive Line
  | unreadable
  | separator
  | malformed (text : String)
  | content (text : String)
deriving DecidableEq, Repr

namespace Line

def ofText (text : String) : Line :=
  match text.toList with
  | '-' :: '-' :: '-' :: rest =>
    let rest := Text.trim rest
    if rest.isEmpty || rest.head? == some '#' then separator else malformed text
  | _ => content text

def ofOctets (octets : List UInt8) : Line :=
  match String.fromUTF8? ⟨octets.toArray⟩ with
  | some text => ofText text
  | none => unreadable

end Line

def linesOf (octets : List UInt8) : List Line :=
  (Text.cutAfter (· == 10) octets).map Line.ofOctets

/-- The lines still to be read, and how many have been read as text. -/
structure DocumentReader where
  lines : List Line
  count : Nat
  ended : Bool
deriving DecidableEq, Repr

inductive Outcome
  | document (text : String)
  | fault (e : ManifestError)
  | ended
deriving DecidableEq, Repr

namespace DocumentReader

def ofOctets (octets : List UInt8) : DocumentReader := ⟨linesOf octets, 0, false⟩

/-- Reads lines up to the end of a document that is not empty; `text` is what is read of it. An
unreadable line is not counted. -/
def read (text : String) (count : Nat) : List Line → Outcome × DocumentReader
  | [] => (if text.isEmpty then .ended else .document text, ⟨[], count, true⟩)
  | .unreadable :: rest => (.fault (.read .notUtf8), ⟨rest, count, false⟩)
  | .malformed line :: rest =>
    (.fault (.separator (count + 1) (Text.trimmedEnd line)), ⟨rest, count + 1, false⟩)
  | .separator :: rest =>
    if text.isEmpty then read text (count + 1) rest
    else (.document text, ⟨rest, count + 1, false⟩)
  | .content line :: rest => read (text ++ line) (count + 1) rest

def next (r : DocumentReader) : Outcome × DocumentReader :=
  if r.ended then (.ended, r) else read "" r.count r.lines

def size (r : DocumentReader) : Nat := r.lines.length + if r.ended then 0 else 1

theorem size_read_lt (text : String) (count : Nat) (lines : List Line) :
    (read text count lines).2.size < lines.length + 1 := by
  induction lines generalizing text count with
  | nil => simp [read, size]
  | cons l rest ih =>
    cases l with
    | unreadable => simp [read, size]
    | malformed line => simp [read, size]
    | separator =>
      by_cases h : text.isEmpty
      · simpa [read, h] using Nat.lt_succ_of_lt (ih text (count + 1))
      · simp [read, h, size]
    | content line => simpa [read] using Nat.lt_succ_of_lt (ih (text ++ line) (count + 1))

theorem size_next_lt {r : DocumentReader} (h : r.ended = false) : r.next.2.size < r.size := by
  simpa [next, h, size] using size_read_lt "" r.count r.lines

theorem ended_eq_false_of_next_document {r : DocumentReader} {text : String}
    (h : r.next.1 = .document text) : r.ended = false := by
  cases hr : r.ended with
  | false => rfl
  | true => simp [next, hr] at h

def readAll (r : DocumentReader) : List String × Option ManifestError :=
  match h : r.next.1 with
  | .document text =>
    have : r.next.2.size < r.size := size_next_lt (ended_eq_false_of_next_document h)
    let (texts, fault) := readAll r.next.2
    (text :: texts, fault)
  | .fault e => ([], some e)
  | .ended => ([], none)
termination_by r.size

end DocumentReader

end ClusterImport.Manifest

import ClusterImport.Decimal.Text
import ClusterImport.Text.Blank
import ClusterImport.Time.Calendar
/-!
Points in time as RFC 3339 texts. Reading is lenient: fields may be short, white space may stand
before them, and a space may separate date and time. Writing is in UTC, with whole seconds or with
as many thousands of fraction digits as are needed.
-/
namespace ClusterImport

/-- A second of a day in UTC. Of a leap second, the count of nanoseconds goes on past a second. -/
structure Timestamp where
  days : Int
  second : Nat
  nanos : Nat
deriving DecidableEq, Repr

namespace Timestamp

/-- An unsigned number of at most `width` digits, after white space. -/
def field? (width : Nat) (s : List Char) : Option (Nat × List Char) :=
  let s := Text.trimStart s
  let ds := (s.take width).takeWhile Char.isDigit
  if ds.isEmpty then none else some (decimalValue ds, s.drop ds.length)

/-- A year has up to four digits, or any number of them after a sign. -/
def year? (s : List Char) : Option (Int × List Char) :=
  match Text.trimStart s with
  | '-' :: rest => (unsigned rest).map fun (n, s) => (-(n : Int), s)
  | '+' :: rest => (unsigned rest).map fun (n, s) => ((n : Int), s)
  | s => (field? 4 s).map fun (n, s) => ((n : Int), s)
where
  unsigned (s : List Char) : Option (Nat × List Char) :=
    let ds := s.takeWhile Char.isDigit
    if ds.isEmpty then none else some (decimalValue ds, s.drop ds.length)

def mark? (c : Char) (s : List Char) : Option (List Char) :=
  match s with
  | d :: rest => if d = c then some rest else none
  | [] => none

def markAfterBlank? (c : Char) (s : List Char) : Option (List Char) := mark? c (Text.trimStart s)

/-- Nanoseconds after a point; digits past the ninth are passed over. -/
def fraction? (s : List Char) : Option (Nat × List Char) :=
  match s with
  | '.' :: rest =>
    let ds := rest.takeWhile Char.isDigit
    if ds.isEmpty then none
    else some (decimalValue (ds ++ List.replicate 9 '0' |>.take 9), rest.drop ds.length)
  | s => some (0, s)

def twoDigits? : List Char → Option (Nat × List Char)
  | a :: b :: rest => do
    let x ← digitIn? 10 a
    let y ← digitIn? 10 b
    some (x * 10 + y, rest)
  | _ => none

def sign? : List Char → Option (Bool × List Char)
  | '+' :: rest => some (false, rest)
  | '-' :: rest => some (true, rest)
  | '\u2212' :: rest => some (true, rest)
  | _ => none

/-- Seconds east of UTC: a letter, the word itself, or hours and minutes. -/
def offset? (s : List Char) : Option (Int × List Char) :=
  let s := Text.trimStart s
  if (s.take 3).map Char.toUpper == ['U', 'T', 'C'] then some (0, s.drop 3)
  else match s with
    | 'Z' :: rest | 'z' :: rest => some (0, rest)
    | s => do
      let (west, s) ← sign? s
      let (hours, s) ← twoDigits? s
      let (minutes, s) ← twoDigits? (s.dropWhile fun c => c == ':' || Text.isBlank c)
      if hours > 23 || minutes > 59 then none
      let seconds : Int := hours * 3600 + minutes * 60
      some (if west then -seconds else seconds, s)

def inRange (d : Date) : Bool := -262143 ≤ d.year && d.year ≤ 262142

/-- A local time with its distance from UTC. Of second sixty the nanoseconds go past a second. -/
def ofLocal? (d : Date) (hour minute second nanos : Nat) (offset : Int) : Option Timestamp :=
  if !d.isValid || !inRange d || hour > 23 || minute > 59 || second > 60 then none
  else
    let (second, nanos) := if second = 60 then (59, nanos + 1000000000) else (second, nanos)
    let moment : Int := hour * 3600 + minute * 60 + second - offset
    let days := d.toDays + moment.fdiv 86400
    if inRange (Date.ofDays days) then some ⟨days, (moment.fmod 86400).toNat, nanos⟩ else none

def ofChars? (s : List Char) : Option Timestamp := do
  let (year, s) ← year? s
  let (month, s) ← field? 2 (← markAfterBlank? '-' s)
  let (day, s) ← field? 2 (← markAfterBlank? '-' s)
  let s ← ((mark? 'T' s).or (mark? 't' s)).or (mark? ' ' s)
  let (hour, s) ← field? 2 s
  let (minute, s) ← field? 2 (← markAfterBlank? ':' s)
  let (second, s) ← field? 2 (← markAfterBlank? ':' s)
  let (nanos, s) ← fraction? s
  let (offset, s) ← offset? s
  if !(Text.trimStart s).isEmpty then none
  ofLocal? ⟨year, month, day⟩ hour minute second nanos offset

def ofText? (s : String) : Option Timestamp := ofChars? s.toList

def padded (width n : Nat) : String :=
  let ds := Nat.toDigits 10 n
  String.ofList (List.replicate (width - ds.length) '0' ++ ds)

def yearText (y : Int) : String :=
  if 0 ≤ y && y ≤ 9999 then padded 4 y.toNat
  else if y < 0 then "-" ++ padded 4 y.natAbs
  else "+" ++ padded 4 y.natAbs

def fractionText (nanos : Nat) : String :=
  let n := nanos % 1000000000
  if n = 0 then ""
  else if n % 1000000 = 0 then "." ++ padded 3 (n / 1000000)
  else if n % 1000 = 0 then "." ++ padded 6 (n / 1000)
  else "." ++ padded 9 n

def secondsText (t : Timestamp) : String :=
  let d := Date.ofDays t.days
  let second := t.second % 60 + t.nanos / 1000000000
  s!"{yearText d.year}-{padded 2 d.month}-{padded 2 d.day}T{padded 2 (t.second / 3600)}:" ++
    s!"{padded 2 (t.second / 60 % 60)}:{padded 2 second}"

def renderSeconds (t : Timestamp) : String := t.secondsText ++ "Z"

def render (t : Timestamp) : String := t.secondsText ++ fractionText t.nanos ++ "Z"

end Timestamp

end ClusterImport

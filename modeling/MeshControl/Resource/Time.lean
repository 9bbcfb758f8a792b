/-!
Instants as the cluster writes them: RFC 3339 text, read with any offset and written back in
UTC to whole seconds (`Time.render`) or to microseconds (`Time.renderMicros`). Reading is
relaxed: single-digit fields, blanks between the parts and `UTC` for the offset are accepted.
-/

namespace MeshControl

/-- An instant: seconds since 1970-01-01T00:00:00Z and nanoseconds within the second. -/
structure Time where
  seconds : Int
  nanos : Nat
  deriving DecidableEq, Repr

namespace Time

/-- Days since 1970-01-01 of a date of the proleptic Gregorian calendar. -/
def daysOfDate (y : Int) (m d : Nat) : Int :=
  let y := if m ≤ 2 then y - 1 else y
  let era := y / 400
  let yoe := y - era * 400
  let mp : Int := if m > 2 then (m : Int) - 3 else (m : Int) + 9
  let doy := (153 * mp + 2) / 5 + (d : Int) - 1
  let doe := yoe * 365 + yoe / 4 - yoe / 100 + doy
  era * 146097 + doe - 719468

/-- The date (year, month, day) of a count of days since 1970-01-01. -/
def dateOfDays (z : Int) : Int × Nat × Nat :=
  let z := z + 719468
  let era := z / 146097
  let doe := z - era * 146097
  let yoe := (doe - doe / 1460 + doe / 36524 - doe / 146096) / 365
  let y := yoe + era * 400
  let doy := doe - (365 * yoe + yoe / 4 - yoe / 100)
  let mp := (5 * doy + 2) / 153
  let d := doy - (153 * mp + 2) / 5 + 1
  let m := if mp < 10 then mp + 3 else mp - 9
  ((if m ≤ 2 then y + 1 else y), m.toNat, d.toNat)

/-- Whether a year has a 29th of February. -/
def leapYear (y : Int) : Bool := (y % 4 == 0 && y % 100 != 0) || y % 400 == 0

/-- The number of days of a month. -/
def monthDays (y : Int) (m : Nat) : Nat :=
  if m == 2 then (if leapYear y then 29 else 28)
  else if m == 4 || m == 6 || m == 9 || m == 11 then 30 else 31

/-- A number written with at least `width` digits. -/
def padded (width : Nat) (n : Nat) : String :=
  let s := toString n
  String.ofList (List.replicate (width - s.length) '0') ++ s

/-- A year as RFC 3339 text writes it: four digits from 0 to 9999, and otherwise a sign and
at least four digits. -/
def yearText (y : Int) : String :=
  if 0 ≤ y && y ≤ 9999 then padded 4 y.toNat
  else (if y < 0 then "-" else "+") ++ padded 4 y.natAbs

/-- The nanoseconds past the second shown: an instant within a leap second carries one
second more than a billion nanoseconds, and shows the second as 60. -/
def shownNanos (t : Time) : Nat := t.nanos % 1000000000

/-- The date and time of day, in UTC, as RFC 3339 text without fraction or offset. -/
def stamp (t : Time) : String :=
  let days := t.seconds / 86400
  let secs := (t.seconds % 86400).toNat
  let (y, m, d) := dateOfDays days
  let second := secs % 60 + (if t.nanos ≥ 1000000000 then 1 else 0)
  yearText y ++ "-" ++ padded 2 m ++ "-" ++ padded 2 d ++ "T" ++
    padded 2 (secs / 3600) ++ ":" ++ padded 2 (secs / 60 % 60) ++ ":" ++ padded 2 second

/-- RFC 3339 text in UTC with whole seconds: `2020-01-01T00:00:00Z`. -/
def render (t : Time) : String := t.stamp ++ "Z"

/-- RFC 3339 text in UTC with microseconds: `2020-01-01T00:00:00.000000Z`. -/
def renderMicros (t : Time) : String := t.stamp ++ "." ++ padded 6 (t.shownNanos / 1000) ++ "Z"

/-- Why a text is no RFC 3339 instant. -/
inductive ParseError where
  | outOfRange
  | impossible
  | invalid
  | tooShort
  | tooLong

/-- The words for each cause. -/
def ParseError.message : ParseError → String
  | .outOfRange => "input is out of range"
  | .impossible => "no possible date and time matching input"
  | .invalid => "input contains invalid characters"
  | .tooShort => "premature end of input"
  | .tooLong => "trailing input"

/-- Whether a character is white space in the Unicode sense. -/
def isSpace (c : Char) : Bool :=
  let n := c.toNat
  (9 ≤ n && n ≤ 13) || n == 32 || n == 0x85 || n == 0xA0 || n == 0x1680 ||
    (0x2000 ≤ n && n ≤ 0x200A) || n == 0x2028 || n == 0x2029 || n == 0x202F || n == 0x205F ||
    n == 0x3000

/-- Drops the white space at the start. -/
def trimStart (cs : List Char) : List Char := cs.dropWhile isSpace

/-- The largest signed 64-bit number. -/
def longMax : Nat := Nat.pow 2 63 - 1

/-- Reads one to `most` ASCII digits as a number, which must fit 64 signed bits. -/
def number (most : Nat) (cs : List Char) : Except ParseError (Nat × List Char) :=
  if cs.isEmpty then .error .tooShort
  else
    let ds := (cs.take most).takeWhile Char.isDigit
    if ds.isEmpty then .error .invalid
    else
      let v := ds.foldl (fun acc c => acc * 10 + (c.toNat - 48)) 0
      if v > longMax then .error .outOfRange else .ok (v, cs.drop ds.length)

/-- Reads a field of at most `most` digits after any white space; its value must lie in
`lo..=hi`. -/
def field (most lo hi : Nat) (cs : List Char) : Except ParseError (Nat × List Char) := do
  let (v, rest) ← number most (trimStart cs)
  if v < lo || v > hi then throw .outOfRange
  return (v, rest)

/-- Expects one character, after any white space. -/
def literal (c : Char) (cs : List Char) : Except ParseError (List Char) :=
  match trimStart cs with
  | [] => .error .tooShort
  | d :: rest => if d == c then .ok rest else .error .invalid

/-- Reads a year after any white space: up to four digits, or a sign and any number of
digits; it must fit 32 signed bits. -/
def year (cs : List Char) : Except ParseError (Int × List Char) := do
  let (y, rest) ← match trimStart cs with
    | '-' :: rest => do
      let (v, rest) ← number rest.length rest
      pure (-(v : Int), rest)
    | '+' :: rest => do
      let (v, rest) ← number rest.length rest
      pure ((v : Int), rest)
    | cs => do
      let (v, rest) ← number 4 cs
      pure ((v : Int), rest)
  if y < -(Nat.pow 2 31 : Int) || y ≥ (Nat.pow 2 31 : Int) then throw .outOfRange
  return (y, rest)

/-- Reads the fraction of a second after its point: one to nine digits, scaled to
nanoseconds; further digits are skipped. -/
def nanosecond (cs : List Char) : Except ParseError (Nat × List Char) := do
  let (v, rest) ← number 9 cs
  let taken := cs.length - rest.length
  return (v * Nat.pow 10 (9 - taken), rest.dropWhile Char.isDigit)

/-- Reads an offset from UTC in seconds: `Z`, or a sign (`+`, `-` or the minus sign U+2212),
two digits of hours, any colons or white space, and two digits of minutes below 60. -/
def offset (cs : List Char) : Except ParseError (Int × List Char) := do
  let (negative, cs) ← match cs with
    | 'Z' :: rest | 'z' :: rest => return (0, rest)
    | '+' :: rest => pure (false, rest)
    | '-' :: rest => pure (true, rest)
    | '\u2212' :: rest => pure (true, rest)
    | [] => throw ParseError.tooShort
    | _ => throw ParseError.invalid
  -- Two bytes must follow: a lone character of one byte is too short.
  let twoBytes (cs : List Char) : Bool :=
    match cs with
    | [] => false
    | [c] => c.utf8Size > 1
    | _ => true
  let digitPair (cs : List Char) : Option (Nat × Nat) :=
    match cs with
    | a :: b :: _ => if a.isDigit && b.isDigit then some (a.toNat - 48, b.toNat - 48) else none
    | _ => none
  if !twoBytes cs then throw .tooShort
  let some (h1, h2) := digitPair cs | throw .invalid
  let cs := (cs.drop 2).dropWhile fun c => c == ':' || isSpace c
  if !twoBytes cs then throw .tooShort
  let some (m1, m2) := digitPair cs | throw .invalid
  if m1 ≥ 6 then throw .outOfRange
  let seconds : Int := ((h1 * 10 + h2) * 3600 + (m1 * 10 + m2) * 60 : Nat)
  return (if negative then -seconds else seconds, cs.drop 2)

/-- The earliest and latest days an instant may fall on: -262143-01-01 and +262142-12-31. -/
def firstDay : Int := daysOfDate (-262143) 1 1

/-- The latest day an instant may fall on. -/
def lastDay : Int := daysOfDate 262142 12 31

/-- Reads an instant the relaxed way: a date, `T`, `t` or a space, a time of day with an
optional fraction, and `Z`, `UTC` or an offset, with white space allowed before each number
and separator and at either end. Fields are checked as they are read; the date must exist
and lie between the years -262143 and 262142, before and after taking away the offset. A
leap second (second 60) is kept as a billion nanoseconds more within second 59. -/
def parse (text : String) : Except ParseError Time := do
  let cs := text.toList
  let (y, cs) ← year cs
  let cs ← literal '-' cs
  let (mo, cs) ← field 2 1 12 cs
  let cs ← literal '-' cs
  let (d, cs) ← field 2 1 31 cs
  let cs ← match cs with
    | [] => throw ParseError.tooShort
    | c :: rest => if c == 'T' || c == 't' || c == ' ' then pure rest else throw ParseError.invalid
  let (h, cs) ← field 2 0 23 cs
  let cs ← literal ':' cs
  let (mi, cs) ← field 2 0 59 cs
  let cs ← literal ':' cs
  let (s, cs) ← field 2 0 60 cs
  let (nanos, cs) ← match cs with
    | '.' :: rest => nanosecond rest
    | _ => pure (0, cs)
  let cs := trimStart cs
  let (off, cs) ← match cs with
    | a :: b :: c :: rest =>
      if a.toLower == 'u' && b.toLower == 't' && c.toLower == 'c' then pure ((0 : Int), rest)
      else offset cs
    | _ => offset cs
  if !(trimStart cs).isEmpty then throw .tooLong
  if y < -262143 || y > 262142 || d > monthDays y mo then throw .outOfRange
  if off ≤ -86400 || off ≥ 86400 then throw .outOfRange
  let leap := if s == 60 then 1000000000 else 0
  let wall := daysOfDate y mo d * 86400 + (h * 3600 + mi * 60 + min s 59 : Nat)
  let utc := wall - off
  if utc / 86400 < firstDay || utc / 86400 > lastDay then throw .impossible
  return ⟨utc, nanos + leap⟩

end Time

end MeshControl

/-!
Shortest decimal text of a double: the fewest significant digits that read back to the same
double, and of two such the nearer. The search runs in exact natural-number arithmetic over
the double's significand and binary exponent, one decimal grid per digit count.
-/

namespace MeshControl.Decimal

/-- A finite nonzero double as `significand * 2 ^ exponent`; `narrowBelow` marks a power of
two whose gap to the next smaller double is half the gap above. -/
structure Binary where
  significand : Nat
  exponent : Int
  narrowBelow : Bool

/-- Splits the bits of a finite double (sign ignored) into significand and exponent. -/
def Binary.ofBits (bits : UInt64) : Binary :=
  let field := ((bits >>> 52) &&& 0x7ff).toNat
  let mantissa := (bits &&& 0xfffffffffffff).toNat
  if field == 0 then ⟨mantissa, -1074, false⟩
  else ⟨mantissa + Nat.pow 2 52, (field : Int) - 1075, mantissa == 0 && field > 1⟩

/-- Compares `c * 10 ^ k` with `x * 2 ^ q` exactly. -/
def compareScaled (c : Nat) (k : Int) (x : Nat) (q : Int) : Ordering :=
  compare (c * Nat.pow 10 k.toNat * Nat.pow 2 (-q).toNat) (x * Nat.pow 2 q.toNat * Nat.pow 10 (-k).toNat)

/-- `⌊x * 2 ^ q / 10 ^ k⌋`. -/
def floorScaled (x : Nat) (q : Int) (k : Int) : Nat :=
  (x * Nat.pow 2 q.toNat * Nat.pow 10 (-k).toNat) / (Nat.pow 2 (-q).toNat * Nat.pow 10 k.toNat)

/-- The number of decimal digits of a positive natural number. -/
def digitCount (n : Nat) : Nat := (Nat.toDigits 10 n).length

/-- The decimal exponent of the leading digit of `x * 2 ^ q` (positive), searched downward
from `-1` for values below one. -/
def leadingExponent (x : Nat) (q : Int) : Int :=
  let whole := floorScaled x q 0
  if whole ≥ 1 then (digitCount whole : Int) - 1
  else
    -- Below one: the first negative power of ten not above the value.
    let rec search : Nat → Int → Int
      | 0, j => j
      | fuel + 1, j => if floorScaled x q j ≥ 1 then j else search fuel (j - 1)
    search 400 (-1)

/-- Digits and exponent of the shortest decimal that reads back to the double `b`:
the value is `digits * 10 ^ exponent`. -/
def shortest (b : Binary) : Nat × Int :=
  -- Work in units of 2^(exponent-2): the value is 4m and its rounding interval is
  -- (4m - 2, 4m + 2), narrower below a power of two, ends included for even m.
  let q := b.exponent - 2
  let v := 4 * b.significand
  let upper := v + 2
  let lower := if b.narrowBelow then v - 1 else v - 2
  let closed := b.significand % 2 == 0
  let inside (c : Nat) (k : Int) : Bool :=
    let lo := compareScaled c k lower q
    let hi := compareScaled c k upper q
    (lo == .gt || (closed && lo == .eq)) && (hi == .lt || (closed && hi == .eq))
  let top := leadingExponent v q
  let rec attempt : Nat → Nat → Nat × Int
    | 0, _ => (b.significand, b.exponent)
    | fuel + 1, n =>
      let k := top - (n : Int) + 1
      let lo := floorScaled v q k
      let loIn := inside lo k
      let hiIn := inside (lo + 1) k
      if loIn && hiIn then
        -- Both neighbours read back: the nearer wins, a tie goes to the even one.
        match compareScaled (2 * lo + 1) k (2 * v) q with
        | .gt => (lo, k)
        | .lt => (lo + 1, k)
        | .eq => if lo % 2 == 0 then (lo, k) else (lo + 1, k)
      else if loIn then (lo, k)
      else if hiIn then (lo + 1, k)
      else attempt fuel (n + 1)
  attempt 17 1

/-- Removes trailing zero digits, raising the exponent to match. -/
def normalize (digits : Nat) (exponent : Int) : Nat × Int :=
  let rec go : Nat → Nat → Int → Nat × Int
    | 0, d, e => (d, e)
    | fuel + 1, d, e => if d ≠ 0 && d % 10 == 0 then go fuel (d / 10) (e + 1) else (d, e)
  go 400 digits exponent

/-- How a double is written: where positional notation ends, and the exponent mark. -/
structure Style where
  /-- The largest count of digits before the point still written positionally. -/
  maxWhole : Nat
  /-- The largest count of zeros after the point still written positionally. -/
  maxLeadingZeros : Nat
  /-- Whether a positive exponent is written with a plus sign. -/
  signedExponent : Bool

/-- The style of JSON output: positional from 1e-5 up to below 1e16, integers keep ".0",
and a positive exponent has its sign (`1e+16`). -/
def Style.json : Style := ⟨16, 4, true⟩

/-- The style of YAML output and metric samples: as JSON, but a positive exponent has no
sign (`1e16`). -/
def Style.yaml : Style := ⟨16, 4, false⟩

/-- The text of digits `ds` times `10 ^ k`, in the given style. -/
def layout (style : Style) (ds : String) (k : Int) : String :=
  let len : Int := ds.length
  let point := len + k
  let zeros (n : Int) : String := String.ofList (List.replicate n.toNat '0')
  if 0 ≤ k && point ≤ style.maxWhole then ds ++ zeros k ++ ".0"
  else if 0 < point && point ≤ style.maxWhole then
    String.ofList (ds.toList.take point.toNat) ++ "." ++ String.ofList (ds.toList.drop point.toNat)
  else if -(style.maxLeadingZeros : Int) ≤ point && point ≤ 0 then "0." ++ zeros (-point) ++ ds
  else
    let mark := "e" ++ (if style.signedExponent && point > 1 then "+" else "") ++ toString (point - 1)
    if len == 1 then ds ++ mark
    else String.ofList (ds.toList.take 1) ++ "." ++ String.ofList (ds.toList.drop 1) ++ mark

/-- The shortest text of a finite double in the given style; zero keeps its sign. -/
def render (style : Style) (f : Float) : String :=
  let bits := f.toBits
  let sign := if bits >>> 63 == 1 then "-" else ""
  let b := Binary.ofBits bits
  if b.significand == 0 then sign ++ "0.0"
  else
    let (d, e) := shortest b
    let (d, e) := normalize d e
    sign ++ layout style (toString d) e

end MeshControl.Decimal

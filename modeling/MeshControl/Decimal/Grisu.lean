/-!
Decimal text of a double by the Grisu2 digit generation: the double and the edges of its
rounding interval are scaled by a cached power of ten into 64-bit fixed point, digits are
cut from the upper edge until the rest falls inside the interval, and the last digit is
moved toward the double while it stays inside. The digits always read back to the same
double but are not always the shortest (`0.1 + 0.2` gives `0.30000000000000007`). Words of
64 bits are modelled by natural numbers; every step stays below `2 ^ 64`, except the one
product that a word truncates, which is taken modulo `2 ^ 64`.
-/

namespace MeshControl.Decimal

/-- A number `f * 2 ^ e` with a significand of at most 64 bits. -/
structure Scaled where
  f : Nat
  e : Int

namespace Scaled

/-- The product of two scaled numbers, keeping the upper 64 bits of the significands'
product rounded half up. -/
def mul (a b : Scaled) : Scaled :=
  ⟨(a.f * b.f + Nat.pow 2 63) / Nat.pow 2 64, a.e + b.e + 64⟩

/-- Shifts the significand left until its top bit is bit 63. -/
def normalize (a : Scaled) : Scaled :=
  let s := 63 - a.f.log2
  ⟨a.f * Nat.pow 2 s, a.e - s⟩

/-- The scaled form of a positive finite double: the stored significand with its hidden
bit, or a subnormal's significand at the lowest exponent. -/
def ofFloat (x : Float) : Scaled :=
  let bits := x.toBits
  let field := ((bits >>> 52) &&& 0x7ff).toNat
  let mantissa := (bits &&& 0xfffffffffffff).toNat
  if field == 0 then ⟨mantissa, -1074⟩ else ⟨mantissa + Nat.pow 2 52, (field : Int) - 1075⟩

/-- The edges of the rounding interval of `v` at a common exponent, the upper one with its
top bit at bit 63: `(2f + 1) / 2` above, and `(2f - 1) / 2` below, or `(4f - 1) / 4` below a
power of two whose lower neighbour is nearer. -/
def boundaries (v : Scaled) : Scaled × Scaled :=
  let plus0 : Scaled := ⟨2 * v.f + 1, v.e - 1⟩
  -- Bring bit 53 up, then ten bits more.
  let s := 53 - plus0.f.log2 + 10
  let plus : Scaled := ⟨plus0.f * Nat.pow 2 s, plus0.e - s⟩
  let minus0 : Scaled :=
    if v.f == Nat.pow 2 52 then ⟨4 * v.f - 1, v.e - 2⟩ else ⟨2 * v.f - 1, v.e - 1⟩
  let minus : Scaled := ⟨minus0.f * Nat.pow 2 (minus0.e - plus.e).toNat, plus.e⟩
  (minus, plus)

end Scaled

/-- The power `10 ^ k` as a 64-bit significand with its top bit set, rounded to nearest. -/
def cachedPower (k : Int) : Scaled :=
  let roundDiv (a d : Nat) : Nat := (2 * a + d) / (2 * d)
  if k ≥ 0 then
    let n := Nat.pow 10 k.toNat
    let b := n.log2
    if b ≥ 63 then ⟨roundDiv n (Nat.pow 2 (b - 63)), (b : Int) - 63⟩
    else ⟨n * Nat.pow 2 (63 - b), (b : Int) - 63⟩
  else
    let d := Nat.pow 10 k.natAbs
    let q := d.log2 + 64
    ⟨roundDiv (Nat.pow 2 q) d, -(q : Int)⟩

/-- The cached power of ten for an upper edge with binary exponent `e`, among `10 ^ -348`,
`10 ^ -340`, …, `10 ^ 340`: the first one past `⌈(-61 - e) · log₁₀ 2⌉ - 348`, which brings
the scaled edge's exponent between -60 and -32. Also the decimal exponent `K` the digits
then stand at, the power's negated exponent. -/
def powerFor (e : Int) : Scaled × Int :=
  let n := -61 - e
  -- The ceiling of n · 0.30102999566398114, in exact integer arithmetic.
  let scale : Int := 100000000000000000
  let k := -((-(n * 30102999566398114)) / scale) + 347
  let index := k / 8 + 1
  let exponent := -348 + 8 * index
  (cachedPower exponent, -exponent)

/-- The number of decimal digits of the integral part, counted as nine at most. -/
def integralDigits (p : Nat) : Nat :=
  if p < 10 then 1 else if p < 100 then 2 else if p < 1000 then 3 else if p < 10000 then 4
  else if p < 100000 then 5 else if p < 1000000 then 6 else if p < 10000000 then 7
  else if p < 100000000 then 8 else 9

/-- Moves the last digit (the head of the reversed digits) down by one while the value stays
inside the interval (`rest + unit ≤ delta`) and gets nearer to the double, whose distance
below the upper edge is `toward`. The interval is below ten units wide, so ten rounds
always finish. -/
def roundToward (delta rest unit toward : Nat) (reversed : List Nat) : List Nat :=
  let rec go : Nat → Nat → List Nat → List Nat
    | 0, _, ds => ds
    | fuel + 1, rest, ds =>
      if rest < toward && delta - rest ≥ unit &&
          (rest + unit < toward || toward - rest > rest + unit - toward) then
        match ds with
        | d :: more => go fuel (rest + unit) ((d - 1) :: more)
        | [] => []
      else ds
  go 10 rest reversed

/-- Cuts digits from the upper edge `mp` (exponent between -60 and -32), with the double
at `w` and the interval `delta` wide below `mp`: the digits and the power of ten the last
one stands at, relative to the scaling. The integral part gives its digits first; when it
runs out before the rest falls inside the interval, digits of the fraction follow, at most
twenty since the interval is at least one unit wide. -/
def generate (w mp : Scaled) (delta : Nat) : List Nat × Int :=
  let s := (-mp.e).toNat
  let one := Nat.pow 2 s
  let toward := mp.f - w.f
  let p2 := mp.f % one
  let push (d : Nat) (ds : List Nat) : List Nat := if d != 0 || !ds.isEmpty then d :: ds else ds
  let rec fraction : Nat → Int → Nat → Nat → List Nat → List Nat × Int
    | 0, kappa, _, _, ds => (ds.reverse, kappa)
    | fuel + 1, kappa, p2, delta, ds =>
      let p2 := p2 * 10
      let delta := delta * 10
      let ds := push (p2 / one) ds
      let p2 := p2 % one
      let kappa := kappa - 1
      if p2 < delta then
        let index := (-kappa).toNat
        let scaled := if index < 9 then toward * Nat.pow 10 index % Nat.pow 2 64 else 0
        ((roundToward delta p2 one scaled ds).reverse, kappa)
      else fraction fuel kappa p2 delta ds
  let rec integral : Nat → Nat → List Nat → List Nat × Int
    | 0, _, ds => fraction 20 0 p2 delta ds
    | kappa + 1, p1, ds =>
      let unit := Nat.pow 10 kappa
      let ds := push (p1 / unit) ds
      let p1 := p1 % unit
      let rest := p1 * one + p2
      if rest ≤ delta then ((roundToward delta rest (unit * one) toward ds).reverse, kappa)
      else integral kappa p1 ds
  let p1 := mp.f / one
  integral (integralDigits p1) p1 []

/-- The Grisu2 digits of a positive finite double and the power of ten of the last one. -/
def grisu (x : Float) : List Nat × Int :=
  let v := Scaled.ofFloat x
  let (minus, plus) := v.boundaries
  let (c, k) := powerFor plus.e
  let w := v.normalize.mul c
  let wp := plus.mul c
  let wm := minus.mul c
  let wp : Scaled := ⟨wp.f - 1, wp.e⟩
  let wm : Scaled := ⟨wm.f + 1, wm.e⟩
  let (digits, kappa) := generate w wp (wp.f - wm.f)
  (digits, k + kappa)

/-- The decimal exponent written after `e`: a minus sign when negative, no plus sign. -/
def exponentText (k : Int) : String :=
  (if k < 0 then "-" else "") ++ toString k.natAbs

/-- Lays out digits standing for `digits * 10 ^ k`: positionally with at most 21 digits
before the point (a whole number ends in `.0`) or at most five zeros after it, and otherwise
as one digit, the others after a point, and an exponent. -/
def quickLayout (digits : List Nat) (k : Int) : String :=
  let ds := String.ofList (digits.map fun d => Char.ofNat (48 + d))
  let length : Int := digits.length
  let kk := length + k
  let zeros (n : Int) : String := String.ofList (List.replicate n.toNat '0')
  if 0 ≤ k && kk ≤ 21 then ds ++ zeros k ++ ".0"
  else if 0 < kk && kk ≤ 21 then
    String.ofList (ds.toList.take kk.toNat) ++ "." ++ String.ofList (ds.toList.drop kk.toNat)
  else if -6 < kk && kk ≤ 0 then "0." ++ zeros (-kk) ++ ds
  else if length == 1 then ds ++ "e" ++ exponentText (kk - 1)
  else
    String.ofList (ds.toList.take 1) ++ "." ++ String.ofList (ds.toList.drop 1) ++ "e" ++
      exponentText (kk - 1)

/-- The text of a double by Grisu2 digits: `NaN`, `inf` and `-inf` for the values that are
not finite, `0.0` or `-0.0` for zero, and otherwise the sign and the laid-out digits. -/
def quickText (x : Float) : String :=
  if x.isNaN then "NaN"
  else if x.isInf then (if x > 0 then "inf" else "-inf")
  else
    let negative := x.toBits >>> 63 == 1
    let sign := if negative then "-" else ""
    if x == 0 then sign ++ "0.0"
    else
      let (digits, k) := grisu (if negative then -x else x)
      sign ++ quickLayout digits k

end MeshControl.Decimal

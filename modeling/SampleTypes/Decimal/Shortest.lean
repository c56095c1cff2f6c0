/-!
# The shortest decimal of a binary float

A finite binary float is `m * 2 ^ q`; every real number nearer to it than to its neighbours rounds
to it.  Its shortest decimal is the decimal with the fewest digits in that interval, and of several
the one nearest to the float.  All arithmetic is exact, on natural numbers.

For a count of digits, the decimals of that many digits near the float form a grid with a power of
ten as its step; if a point of the grid lies in the interval, then so does one of the float's two
neighbours on the grid.  So it is enough to try those two, for one digit, two digits and so on;
seventeen digits are always enough.  Of two neighbours that are equally near, the one with an even
last digit is taken.
-/

namespace SampleTypes.Decimal

/-- A fraction of natural numbers together with the ends of its rounding interval. -/
structure Rounding where
  /-- Numerator of the lower end. -/
  low : Nat
  /-- Numerator of the number itself. -/
  mid : Nat
  /-- Numerator of the upper end. -/
  high : Nat
  /-- The common denominator. -/
  denominator : Nat
  /-- The ends themselves still round to the number. -/
  closed : Bool

/-- A natural number with a power of ten: `digits * 10 ^ exponent`. -/
structure Scaled where
  digits : Nat
  exponent : Int
deriving Repr, DecidableEq

/-- The interval of the finite, positive float whose bits are given. -/
def Rounding.ofBits (bits : UInt64) : Rounding :=
  let fraction := bits.toNat % Nat.pow 2 52
  let biased := bits.toNat / Nat.pow 2 52 % Nat.pow 2 11
  let m := if biased = 0 then fraction else fraction + Nat.pow 2 52
  -- the float is `m * 2 ^ (e - 1075)`; in quarters, `4 * m * 2 ^ (e - 1077)`
  let e := if biased = 0 then 1 else biased
  let below := if fraction = 0 ∧ 1 < biased then 1 else 2
  let up := Nat.pow 2 (e - 1077)
  { low := (4 * m - below) * up
    mid := 4 * m * up
    high := (4 * m + 2) * up
    denominator := Nat.pow 2 (1077 - e)
    closed := m % 2 = 0 }

/-- `digits * 10 ^ exponent` as a fraction over `denominator * 10 ^ k`, with that `k`. -/
def Rounding.compare (r : Rounding) (s : Scaled) : Nat × Nat :=
  (s.digits * r.denominator * Nat.pow 10 s.exponent.toNat, Nat.pow 10 (-s.exponent).toNat)

/-- The decimal rounds to the number. -/
def Rounding.contains (r : Rounding) (s : Scaled) : Bool :=
  let (n, scale) := r.compare s
  if r.closed then r.low * scale ≤ n && n ≤ r.high * scale
  else r.low * scale < n && n < r.high * scale

/-- How far the decimal is from the number, in units common to one exponent. -/
def Rounding.distance (r : Rounding) (s : Scaled) : Nat :=
  let (n, scale) := r.compare s
  (n - r.mid * scale) + (r.mid * scale - n)

/-- The least power of ten above the number, as an exponent. -/
def Rounding.magnitude (r : Rounding) : Int :=
  if r.denominator ≤ r.mid then (Nat.toDigits 10 (r.mid / r.denominator)).length
  else
    let zeros := (List.range 400).find? fun j => r.denominator ≤ r.mid * Nat.pow 10 (j + 1)
    Int.negOfNat (zeros.getD 400)

/-- The better of the number's two neighbours among the decimals of `count` digits, if one fits. -/
def Rounding.withDigits (r : Rounding) (count : Nat) : Option Scaled :=
  let exponent := r.magnitude - count
  let (step, scale) := r.compare ⟨1, exponent⟩
  let below := r.mid * scale / step
  let above : Scaled :=
    if below + 1 = Nat.pow 10 count then ⟨Nat.pow 10 (count - 1), exponent + 1⟩
    else ⟨below + 1, exponent⟩
  let candidates := [⟨below, exponent⟩, above].filter r.contains
  match candidates with
  | [a, b] =>
    match Ord.compare (r.distance a) (r.distance b) with
    | .lt => some a
    | .gt => some b
    | .eq => some (if below % 2 = 0 then a else b)
  | [a] => some a
  | _ => none

/-- The shortest decimal that rounds to the number. -/
def Rounding.shortest (r : Rounding) : Scaled :=
  ((List.range 17).findSome? fun n => r.withDigits (n + 1)).getD ⟨0, 0⟩

/-- A decimal written without an exponent: at least one digit before the point and one after. -/
def Scaled.positional (s : Scaled) : String :=
  let digits := Nat.toDigits 10 s.digits
  if 0 ≤ s.exponent then String.ofList (digits ++ List.replicate s.exponent.toNat '0' ++ ['.', '0'])
  else
    let places := (-s.exponent).toNat
    let padded := List.replicate (places + 1 - digits.length) '0' ++ digits
    let whole := padded.length - places
    String.ofList (padded.take whole ++ '.' :: padded.drop whole)

/--
A decimal written with an exponent: one digit before the point, and a point only if more follow.
The exponent has a sign, above zero too.
-/
def Scaled.scientific (s : Scaled) : String :=
  let digits := Nat.toDigits 10 s.digits
  let exponent := s.exponent + digits.length - 1
  let fraction := if digits.length ≤ 1 then [] else '.' :: digits.drop 1
  let sign := if 0 ≤ exponent then "+" else "-"
  String.ofList (digits.take 1 ++ fraction) ++ "e" ++ sign ++ toString exponent.natAbs

/--
A decimal from `0.00001` up to below `10 ^ 16` is written without an exponent, any other with one.
-/
def Scaled.text (s : Scaled) : String :=
  let magnitude := s.exponent + (Nat.toDigits 10 s.digits).length
  if -5 < magnitude ∧ magnitude ≤ 16 then s.positional else s.scientific

/-- The text of a finite float, with a sign when its sign bit is set. -/
def floatText (x : Float) : String :=
  let bits := x.toBits
  let magnitude := bits.toNat % Nat.pow 2 63
  let sign := if bits.toNat = magnitude then "" else "-"
  if magnitude = 0 then sign ++ "0.0"
  else sign ++ (Rounding.ofBits magnitude.toUInt64).shortest.text

example : (Scaled.text ⟨125, -2⟩, Scaled.text ⟨1, 15⟩, Scaled.text ⟨1, 16⟩)
    = ("1.25", "1000000000000000.0", "1e+16") := by decide +kernel
example : (Scaled.text ⟨12, -6⟩, Scaled.text ⟨12, -7⟩, Scaled.text ⟨1, -7⟩)
    = ("0.000012", "1.2e-6", "1e-7") := by decide +kernel
example : (Rounding.ofBits 0x4306b7fcf56cbf62).shortest = ⟨7993433206026042, -1⟩
    ∧ (Rounding.ofBits 0x4306b7fcf56cbf66).shortest = ⟨7993433206026048, -1⟩ := by decide +kernel

end SampleTypes.Decimal

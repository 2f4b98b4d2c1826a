/-!
Finite binary64 numbers as exact values, and how a decimal is read as one.

* `Binary64`: a sign, a mantissa and a power of two;
* `ofRatio`: the binary64 number nearest to a quotient, a tie going to the even
  mantissa; nothing when the quotient is too large;
* `ofDecimal`: a significand of at most 64 bits, then one multiplication or
  division by a power of ten, each step rounded. Exact for the decimals people
  write; the last bit may differ from the nearest number for long ones.
-/

namespace BareMetal

/-- The finite binary64 number `± mantissa * 2 ^ exponent`. -/
structure Binary64 where
  /-- Whether the sign bit is set; zero has a sign too. -/
  negative : Bool
  /-- Below `2 ^ 53`. -/
  mantissa : Nat
  /-- At least `-1074`. -/
  exponent : Int
  deriving DecidableEq, Repr

namespace Binary64

/-- Zero with a clear sign bit. -/
def zero : Binary64 := ⟨false, 0, 0⟩

/-- The quotient rounded to the nearest natural number, a half going to the even one. -/
def roundDiv (num den : Nat) : Nat :=
  let q := num / den
  let r := num % den
  if 2 * r < den ∨ (2 * r = den ∧ q % 2 = 0) then q else q + 1

/-- `2 ^ e` as a fraction, numerator first. -/
def pow2 (e : Int) : Nat × Nat :=
  if 0 ≤ e then (Nat.pow 2 e.toNat, 1) else (1, Nat.pow 2 (-e).toNat)

/-- The binary64 number nearest to `num / den`; `none` above the largest one. -/
def ofRatio (num den : Nat) : Option Binary64 :=
  if num = 0 then some zero
  else
    let guess : Int := (Nat.log2 num : Int) - (Nat.log2 den : Int) - 52
    let (up, down) := pow2 (guess + 52)
    -- `guess` makes the mantissa at least `2 ^ 52` unless it is one too large
    let e := max (if num * down < den * up then guess - 1 else guess) (-1074)
    let (scaleUp, scaleDown) := pow2 e
    let m := roundDiv (num * scaleDown) (den * scaleUp)
    let (m, e) := if m = Nat.pow 2 53 then (Nat.pow 2 52, e + 1) else (m, e)
    if e > 971 then none else some ⟨false, m, e⟩

/-- The absolute value as a fraction, numerator first. -/
def ratio (x : Binary64) : Nat × Nat :=
  let (up, down) := pow2 x.exponent
  (x.mantissa * up, down)

/-- The product rounded, without its sign. -/
def mul (x y : Binary64) : Option Binary64 :=
  ofRatio (x.ratio.1 * y.ratio.1) (x.ratio.2 * y.ratio.2)

/-- The quotient rounded, without its sign; the divisor is not zero. -/
def div (x y : Binary64) : Option Binary64 :=
  ofRatio (x.ratio.1 * y.ratio.2) (x.ratio.2 * y.ratio.1)

/-- `10 ^ k` rounded. -/
def pow10 (k : Nat) : Option Binary64 :=
  ofRatio (Nat.pow 10 k) 1

/-- The absolute value of `significand * 10 ^ exponent`, read in steps: the significand is rounded,
then multiplied or divided by a rounded power of ten. Below `10 ^ -308` the division takes two
steps, and below `10 ^ -616` nothing is left. -/
def magnitude (significand : Nat) (exponent : Int) : Option Binary64 := do
  let f ← ofRatio significand 1
  if f.mantissa = 0 then
    return zero
  else if exponent > 308 then
    none
  else if exponent ≥ 0 then
    f.mul (← pow10 exponent.toNat)
  else if exponent ≥ -308 then
    f.div (← pow10 (-exponent).toNat)
  else if exponent ≥ -616 then
    let g ← f.div (← pow10 308)
    g.div (← pow10 (-exponent - 308).toNat)
  else
    return zero

/-- The number written as a sign, a significand and a power of ten; `none` when it is too large. -/
def ofDecimal (negative : Bool) (significand : Nat) (exponent : Int) : Option Binary64 :=
  (magnitude significand exponent).map (fun x => { x with negative := negative })

/-- The natural number nearest to the absolute value, for numbers without a fraction their value. -/
def toNat (x : Binary64) : Nat :=
  roundDiv x.ratio.1 x.ratio.2

end Binary64

end BareMetal

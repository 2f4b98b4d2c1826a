import BareMetal.Binary64

/-!
The shortest decimal of a binary64 number, and how it is laid out as text.

* `Binary64.shortest`: the fewest significant digits that read back as the
  number, and of those the decimal nearest to it;
* `DecimalLayout`: where a format switches between positional text and text with
  an exponent;
* `DecimalLayout.render`: the text of a number in such a format.
-/

namespace BareMetal

namespace Binary64

/-! ### The fewest digits that read back -/

/-- The largest `k` with `10 ^ k ≤ num / den`, for a positive quotient of at least `10 ^ -400`. -/
def decade (num den : Nat) : Int :=
  if den ≤ num then ((toString (num / den)).length : Int) - 1
  else -(((List.range 400).find? (fun j => den ≤ num * Nat.pow 10 j)).getD 400 : Int)

/-- One grid of decimals around a number: all fractions are brought to one denominator, in which
`unit` is a step of the grid, `value` the number and `low` to `high` what reads back as it. -/
structure Grid where
  /-- A step of the grid. -/
  unit : Nat
  /-- The number. -/
  value : Nat
  /-- The smallest value that reads back as the number. -/
  low : Nat
  /-- The largest value that reads back as the number. -/
  high : Nat
  /-- Whether `low` and `high` themselves read back as the number. -/
  closed : Bool

/-- Whether `a` steps of the grid read back as the number. -/
def Grid.holds (g : Grid) (a : Nat) : Bool :=
  let x := a * g.unit
  (decide (g.low < x) || (g.closed && x == g.low)) &&
    (decide (x < g.high) || (g.closed && x == g.high))

/-- The number of steps nearest to the number, if a neighbour on the grid reads back; a tie goes to
the even one. -/
def Grid.nearest? (g : Grid) : Option Nat :=
  let a := g.value / g.unit
  let below := g.value - a * g.unit
  let above := (a + 1) * g.unit - g.value
  match g.holds a, g.holds (a + 1) with
  | true, true => some (if below < above ∨ (below = above ∧ a % 2 = 0) then a else a + 1)
  | true, false => some a
  | false, true => some (a + 1)
  | false, false => none

/-- The grid whose steps are `10 ^ power`. -/
def grid (x : Binary64) (power : Int) : Grid :=
  let (up, down) := pow2 x.exponent
  let (tens, tenths) :=
    if 0 ≤ power then (Nat.pow 10 power.toNat, 1) else (1, Nat.pow 10 (-power).toNat)
  let narrow := x.mantissa == Nat.pow 2 52 && decide (x.exponent > -1074)
  ⟨4 * down * tens, 4 * x.mantissa * up * tenths,
    (4 * x.mantissa - (if narrow then 1 else 2)) * up * tenths,
    (4 * x.mantissa + 2) * up * tenths, x.mantissa % 2 == 0⟩

/-- Takes the zeros off the end of the digits. -/
def dropZeros : Nat → Nat → Int → Nat × Int
  | 0, digits, power => (digits, power)
  | n + 1, digits, power =>
    if digits % 10 = 0 ∧ digits ≠ 0 then dropZeros n (digits / 10) (power + 1) else (digits, power)

/-- The digits of the shortest decimal that reads back as the number, and the power of ten of the
last of them. Seventeen digits are always enough. -/
def shortest (x : Binary64) : Nat × Int :=
  if x.mantissa = 0 then (0, 0)
  else
    let k := decade x.ratio.1 x.ratio.2
    let found := (List.range 17).findSome? (fun (n : Nat) =>
      let power := k - n
      (x.grid power).nearest?.map (fun digits => (digits, power)))
    match found with
    | some (digits, power) => dropZeros 17 digits power
    | none => (0, 0)

end Binary64

/-! ### Text -/

/-- Where a format of decimals writes an exponent. -/
structure DecimalLayout where
  /-- The smallest exponent of the leading digit that is written positionally. -/
  least : Int
  /-- The largest exponent of the leading digit that is written positionally. -/
  greatest : Int

namespace DecimalLayout

/-- An exponent, always with its sign. -/
def exponentText (e : Int) : String :=
  (if e < 0 then "e-" else "e+") ++ toString e.natAbs

/-- The text of a number: positional with at least one decimal while the exponent is in range,
otherwise the first digit, the others as decimals and the exponent. -/
def render (f : DecimalLayout) (x : Binary64) : String :=
  let (value, power) := x.shortest
  let digits := toString value
  let lead : Int := power + digits.length - 1
  let text :=
    if f.least ≤ lead ∧ lead ≤ f.greatest then
      if 0 ≤ power then digits ++ "".pushn '0' power.toNat ++ ".0"
      else if 0 ≤ lead then
        String.ofList (digits.toList.take (lead.toNat + 1)) ++ "." ++
          String.ofList (digits.toList.drop (lead.toNat + 1))
      else "0." ++ "".pushn '0' ((-lead).toNat - 1) ++ digits
    else
      String.ofList (digits.toList.take 1) ++
        (if digits.length = 1 then "" else "." ++ String.ofList (digits.toList.drop 1)) ++
        exponentText lead
  (if x.negative then "-" else "") ++ text

end DecimalLayout

end BareMetal

import FlowPilot.Number.Binary64

/-!
# Shortest decimals

The fewest significant digits that read back as the same double, and of those the ones nearest to
it. For each number of digits the two neighbours of the value on that decimal grid are tried; the
first grid with a neighbour that reads back wins.

## Main definitions

* `Shortest.digits`: the digits as a whole number and the power of ten of the last one.
* `Binary64.toText`: positional notation from `1e-5` up to `1e16`, scientific outside.
-/

namespace FlowPilot

namespace Shortest

/-- The numbers that round to one double, as fractions over a common denominator. -/
structure Interval where
  low : Nat
  /-- the double itself -/
  value : Nat
  high : Nat
  den : Nat
  /-- whether the ends belong to the interval -/
  closed : Bool

/-- The interval around a positive double. -/
def Interval.around (m : Nat) (e : Int) : Interval :=
  -- Below a power of two the doubles are twice as dense, unless it is the least normal one.
  let below := if m = Nat.pow 2 52 ∧ Binary64.minExponent < e then 1 else 2
  let (unit, den) := Binary64.fraction 1 (e - 2)
  ⟨(4 * m - below) * unit, 4 * m * unit, (4 * m + 2) * unit, den, m % 2 == 0⟩

/-- Whether the decimal `d * 10 ^ k` rounds to the double of the interval. -/
def Interval.holds (i : Interval) (d : Nat) (k : Int) : Bool :=
  let (n, scale) := if 0 ≤ k then (d * Nat.pow 10 k.toNat, 1) else (d, Nat.pow 10 (-k).toNat)
  let x := n * i.den
  if i.closed then i.low * scale ≤ x && x ≤ i.high * scale
  else i.low * scale < x && x < i.high * scale

/-- The number of digits before the point of a fraction; zero or less when it is below one. -/
def magnitude (num den : Nat) : Int :=
  if den ≤ num then (Nat.toDigits 10 (num / den)).length
  else
    let places := (Nat.toDigits 10 (den / num)).length
    -- `1 / 10 ^ places < num / den ≤ 1 / 10 ^ (places - 1)`
    if num * Nat.pow 10 (places - 1) = den then 2 - (places : Int) else 1 - (places : Int)

/-- The neighbours of the value among the multiples of `10 ^ k`, the nearer one first. -/
def neighbours (i : Interval) (k : Int) : List Nat :=
  let (n, d) :=
    if 0 ≤ k then (i.value, i.den * Nat.pow 10 k.toNat)
    else (i.value * Nat.pow 10 (-k).toNat, i.den)
  let q := n / d
  let r := n % d
  if 2 * r < d ∨ (2 * r = d ∧ q % 2 = 0) then [q, q + 1] else [q + 1, q]

/-- Tries grids of ever more digits, `left` of them. -/
def search (i : Interval) (k : Int) : (left : Nat) → Nat × Int
  -- Seventeen digits always read back, so the nearest neighbour needs no test.
  | 0 => ((neighbours i k).headD 0, k)
  | left + 1 =>
    match (neighbours i k).find? (i.holds · k) with
    | some d => (d, k)
    | none => search i (k - 1) left

/-- Moves trailing zeros from the digits into the power of ten; `left` bounds their number. -/
def dropZeros (d : Nat) (k : Int) : (left : Nat) → Nat × Int
  | 0 => (d, k)
  | left + 1 => if d % 10 = 0 ∧ d ≠ 0 then dropZeros (d / 10) (k + 1) left else (d, k)

/-- The shortest digits of the double `m * 2 ^ e` and the power of ten of the last digit. -/
def digits (m : Nat) (e : Int) : Nat × Int :=
  let i := Interval.around m e
  let (d, k) := search i (magnitude i.value i.den - 1) 16
  dropZeros d k 20

end Shortest

namespace Binary64

/-- Positional or scientific notation of `d * 10 ^ k`. The notation is scientific when the point
would stand more than sixteen places behind the first digit, or if more than four zeros would
follow it; then the exponent has a sign. -/
def decimalText (d : Nat) (k : Int) : List Char :=
  let ds := Nat.toDigits 10 d
  let point := (ds.length : Int) + k
  let zeros (n : Int) := List.replicate n.toNat '0'
  if 0 ≤ k ∧ point ≤ 16 then ds ++ zeros k ++ ['.', '0']
  else if 0 < point ∧ point ≤ 16 then ds.take point.toNat ++ ['.'] ++ ds.drop point.toNat
  else if -5 < point ∧ point ≤ 0 then ['0', '.'] ++ zeros (-point) ++ ds
  else
    let mantissa := match ds with
      | [c] => [c]
      | c :: cs => c :: '.' :: cs
      | [] => []
    let sign := if point < 1 then '-' else '+'
    mantissa ++ 'e' :: sign :: Nat.toDigits 10 (point - 1).natAbs

def toText : Binary64 → String
  | finite s m e =>
    let body := if m = 0 then ['0', '.', '0'] else
      let (d, k) := Shortest.digits m e
      decimalText d k
    String.ofList (if s then '-' :: body else body)
  | infinite s => if s then "-inf" else "inf"
  | undefined => "NaN"

end Binary64

end FlowPilot

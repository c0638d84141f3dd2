import FlowPilot.Number.Binary64
import FlowPilot.Text.Case

/-!
# Reading numbers

## Main definitions

* `natural?`: a whole number written with an optional plus sign.
* `binary64?`: a decimal number with optional sign, point and exponent, or a name for an infinity
  or the undefined value.
-/

namespace FlowPilot

/-- A decimal digit from `0` to `9`. -/
def isDigit (c : Char) : Bool := '0' ≤ c && c ≤ '9'

def digitValue (c : Char) : Nat := c.toNat - 48

/-- The whole number that digits write, most significant first. -/
def digitsValue (cs : List Char) : Nat := cs.foldl (fun n c => 10 * n + digitValue c) 0

/-- The greatest whole number of sixty-four bits. -/
def maxWord : Nat := Nat.pow 2 64 - 1

/-- A whole number of at most sixty-four bits: digits after an optional plus sign. -/
def natural? (s : String) : Option Nat :=
  let ds := match s.toList with
    | '+' :: rest => rest
    | cs => cs
  if ds.isEmpty || !ds.all isDigit then none
  else
    let n := digitsValue ds
    if n ≤ maxWord then some n else none

namespace Binary64

/-- The double nearest to `± d * 10 ^ k`. Magnitudes far outside the range are decided by the
number of digits, without forming the power. -/
def ofDecimal (negative : Bool) (d : Nat) (k : Int) : Binary64 :=
  -- The number of digits before the point.
  let top := ((Nat.toDigits 10 d).length : Int) + k
  if d = 0 ∨ top < -400 then zero negative
  else if 400 < top then infinite negative
  else if 0 ≤ k then ofRatio negative (d * Nat.pow 10 k.toNat) 1
  else ofRatio negative d (Nat.pow 10 (-k).toNat)

end Binary64

def signed (cs : List Char) : Bool × List Char :=
  match cs with
  | '-' :: rest => (true, rest)
  | '+' :: rest => (false, rest)
  | _ => (false, cs)

/-- The exponent after the digits of a number, which must end there. -/
def exponent? : List Char → Option Int
  | [] => some 0
  | c :: cs =>
    if c = 'e' ∨ c = 'E' then
      let (negative, ds) := signed cs
      if ds.isEmpty || !ds.all isDigit then none
      else
        let n : Int := digitsValue ds
        some (if negative then -n else n)
    else none

/-- An unsigned decimal: digits, a point among them or not, at least one digit, an exponent. -/
def unsignedDecimal? (negative : Bool) (cs : List Char) : Option Binary64 :=
  let whole := cs.takeWhile isDigit
  let rest := cs.dropWhile isDigit
  let (places, rest) := match rest with
    | '.' :: after => (after.takeWhile isDigit, after.dropWhile isDigit)
    | _ => ([], rest)
  if whole.isEmpty && places.isEmpty then none
  else (exponent? rest).map fun e =>
    Binary64.ofDecimal negative (digitsValue (whole ++ places)) (e - places.length)

/-- A double from its text. -/
def binary64? (s : String) : Option Binary64 :=
  let (negative, cs) := signed s.toList
  match unsignedDecimal? negative cs with
  | some x => some x
  | none =>
    match String.ofList (cs.map Text.asciiSmall) with
    | "nan" => some .undefined
    | "inf" | "infinity" => some (.infinite negative)
    | _ => none

end FlowPilot

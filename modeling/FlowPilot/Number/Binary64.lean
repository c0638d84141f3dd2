/-!
# Double precision numbers, exactly

A finite double is a sign, a mantissa and a power of two, so its value is an exact fraction and
every operation is "compute exactly, then round to the nearest double, a tie going to the even
mantissa".

## Main definitions

* `Binary64`: finite values, infinities and the undefined value.
* `Binary64.ofRatio`: the double nearest to a fraction.
* `Binary64.mul`, `Binary64.div`: rounded product and quotient.
* `Binary64.le`, `Binary64.floorUpTo`: order and whole part.
-/

namespace FlowPilot

/-- A double precision number. A finite one has the value `± mantissa * 2 ^ exponent`. -/
inductive Binary64
  | finite (negative : Bool) (mantissa : Nat) (exponent : Int)
  | infinite (negative : Bool)
  | undefined
  deriving DecidableEq, Repr

namespace Binary64

def minExponent : Int := -1074

def maxExponent : Int := 971

/-- The quotient rounded to the nearest whole number, a tie going to the even one. -/
def roundHalfEven (num den : Nat) : Nat :=
  let q := num / den
  let r := num % den
  if 2 * r < den then q else if den < 2 * r then q + 1 else q + q % 2

/-- The fraction `num / den / 2 ^ e` as numerator and denominator. -/
def scaleDown (num den : Nat) (e : Int) : Nat × Nat :=
  if 0 ≤ e then (num, den * Nat.pow 2 e.toNat) else (num * Nat.pow 2 (-e).toNat, den)

def zero (negative : Bool) : Binary64 := finite negative 0 minExponent

/-- The double nearest to `± num / den`. -/
def ofRatio (negative : Bool) (num den : Nat) : Binary64 :=
  if num = 0 then zero negative
  else
    let guess : Int := (num.log2 : Int) - (den.log2 : Int) - 52
    let (n, d) := scaleDown num den guess
    -- The guess from the two lengths may be one too great.
    let exact := if n < d * Nat.pow 2 52 then guess - 1 else guess
    -- Numbers below the normal range keep the least exponent and lose digits instead.
    let e := max exact minExponent
    let (n, d) := scaleDown num den e
    let m := roundHalfEven n d
    -- Rounding up may carry into a new leading digit.
    let (m, e) := if m = Nat.pow 2 53 then (Nat.pow 2 52, e + 1) else (m, e)
    if maxExponent < e then infinite negative else finite negative m e

/-- The double nearest to a whole number. -/
def ofNat (n : Nat) : Binary64 := ofRatio false n 1

def ofInt (i : Int) : Binary64 := ofRatio (decide (i < 0)) i.natAbs 1

/-- The power of ten as a double; infinite from the 309th on. -/
def tenTo (n : Nat) : Binary64 := if n ≤ 308 then ofNat (Nat.pow 10 n) else infinite false

/-- A mantissa times a power of two as a fraction. -/
def fraction (m : Nat) (e : Int) : Nat × Nat :=
  if 0 ≤ e then (m * Nat.pow 2 e.toNat, 1) else (m, Nat.pow 2 (-e).toNat)

def neg : Binary64 → Binary64
  | finite s m e => finite (!s) m e
  | infinite s => infinite (!s)
  | undefined => undefined

/-- The rounded product. -/
def mul : Binary64 → Binary64 → Binary64
  | finite s m e, finite s' m' e' =>
    let (n, d) := fraction (m * m') (e + e')
    ofRatio (s != s') n d
  | infinite s, finite s' m _ => if m = 0 then undefined else infinite (s != s')
  | finite s m _, infinite s' => if m = 0 then undefined else infinite (s != s')
  | infinite s, infinite s' => infinite (s != s')
  | _, _ => undefined

/-- The rounded quotient. -/
def div : Binary64 → Binary64 → Binary64
  | finite s m e, finite s' m' e' =>
    if m' = 0 then (if m = 0 then undefined else infinite (s != s'))
    else
      let (n, d) := fraction m (e - e')
      ofRatio (s != s') n (d * m')
  | finite s _ _, infinite s' => zero (s != s')
  | infinite s, finite s' _ _ => infinite (s != s')
  | _, _ => undefined

def isFinite : Binary64 → Bool
  | finite .. => true
  | _ => false

def isZero : Binary64 → Bool
  | finite _ m _ => m == 0
  | _ => false

/-- A finite value in units of the least positive double. -/
def units (negative : Bool) (m : Nat) (e : Int) : Int :=
  let n : Nat := m * Nat.pow 2 (e - minExponent).toNat
  if negative then -(n : Int) else n

/-- The order of the values; the undefined one is not comparable. -/
def le : Binary64 → Binary64 → Bool
  | undefined, _ => false
  | _, undefined => false
  | infinite s, infinite s' => s || !s'
  | infinite s, finite .. => s
  | finite .., infinite s' => !s'
  | finite s m e, finite s' m' e' => decide (units s m e ≤ units s' m' e')

/-- The whole part of a number that is at least zero, but no more than `limit`; zero for negative
and undefined numbers. -/
def floorUpTo (limit : Nat) : Binary64 → Nat
  | finite s m e =>
    if s then 0
    else
      let (n, d) := fraction m e
      min (n / d) limit
  | infinite s => if s then 0 else limit
  | undefined => 0

end Binary64

end FlowPilot

import FlowPilot.Json.Basic

/-!
# Reading JSON texts

A text is one value with blanks around it. Arrays and objects may be nested 127 deep. A number
with a point or an exponent, one of more than sixty-four bits and a negative zero are doubles. A
double is the whole number of its leading digits, as a double, multiplied or divided by a power of
ten, so it can be off by one place for long digit strings.

## Main definitions

* `Json.parse?`: the value of a text, unless the text is malformed.
-/

namespace FlowPilot.Json

/-- Blanks between the parts of a JSON text. -/
def isSpacing (c : Char) : Bool := c == ' ' || c == '\n' || c == '\t' || c == '\r'

/-- The text from its first character that is no spacing. -/
def skipSpacing (cs : List Char) : List Char := cs.dropWhile isSpacing

/-! ### Numbers -/

/-- Leading digits, folded into a whole number while it stays within sixty-four bits; the count of
digits taken and what follows. -/
def takeDigits (significand taken : Nat) : List Char → Nat × Nat × List Char
  | [] => (significand, taken, [])
  | c :: cs =>
    if isDigit c && significand * 10 + digitValue c ≤ maxWord then
      takeDigits (significand * 10 + digitValue c) (taken + 1) cs
    else (significand, taken, c :: cs)

/-- `significand * 10 ^ exponent`, one power of ten at a time from 308 on; nothing when it is too
large for a double. -/
def scaled? (f : Binary64) (exponent : Int) : (left : Nat) → Option Binary64
  | 0 => none
  | left + 1 =>
    if exponent.natAbs ≤ 308 then
      if 0 ≤ exponent then
        let product := f.mul (.tenTo exponent.natAbs)
        if product.isFinite then some product else none
      else some (f.div (.tenTo exponent.natAbs))
    else if f.isZero then some f
    else if 0 ≤ exponent then none
    else scaled? (f.div (.tenTo 308)) (exponent + 308) left

/-- A double from its sign, leading digits and power of ten. -/
def real? (negative : Bool) (significand : Nat) (exponent : Int) : Option Json :=
  (scaled? (.ofNat significand) exponent (exponent.natAbs / 308 + 2)).map fun f =>
    number (.real (if negative then f.neg else f))

/-- The greatest exponent that is added up; beyond it only the sign counts. -/
def maxExponentText : Nat := Nat.pow 2 31 - 1

/-- A number after its `e`. -/
def exponentPart? (negative : Bool) (significand : Nat) (start : Int) (cs : List Char) :
    Option (Json × List Char) :=
  let (down, cs) := signed cs
  let ds := cs.takeWhile isDigit
  let rest := cs.dropWhile isDigit
  if ds.isEmpty then none
  else
    let e := digitsValue ds
    -- Zero times any power is zero, and a power far below one is zero as well.
    if maxExponentText < e then
      if significand ≠ 0 && !down then none
      else some (number (.real (.zero negative)), rest)
    else (real? negative significand (if down then start - e else start + e)).map (·, rest)

/-- Whether an exponent starts here, and what follows its letter. -/
def afterExponentMark? : List Char → Option (List Char)
  | c :: cs => if c = 'e' ∨ c = 'E' then some cs else none
  | [] => none

/-- A number after its point. -/
def fractionPart? (negative : Bool) (significand : Nat) (start : Int) (cs : List Char) :
    Option (Json × List Char) :=
  let (significand, taken, rest) := takeDigits significand 0 cs
  let exponent := start - taken
  -- Digits that no longer fit are dropped without a change of the exponent.
  let dropped := rest.takeWhile isDigit
  let rest := rest.dropWhile isDigit
  if taken = 0 ∧ dropped = [] then none
  else match afterExponentMark? rest with
    | some after => exponentPart? negative significand exponent after
    | none => (real? negative significand exponent).map (·, rest)

/-- A whole number in an integer type of sixty-four bits, else a double. -/
def integer (negative : Bool) (significand : Nat) : Json :=
  if !negative then number (.int significand)
  else if 0 < significand ∧ significand ≤ Nat.pow 2 63 then number (.int (-(significand : Int)))
  else number (.real (.ofRatio true significand 1))

def unsignedNumber? (negative : Bool) (cs : List Char) : Option (Json × List Char) :=
  let whole? : Option (Nat × Nat × List Char) :=
    match cs with
    -- A leading zero stands alone.
    | '0' :: rest =>
      if (rest.head?.map isDigit).getD false then none else some (0, 0, rest)
    | c :: _ =>
      if isDigit c then
        let (significand, _, rest) := takeDigits 0 0 cs
        some (significand, (rest.takeWhile isDigit).length, rest.dropWhile isDigit)
      else none
    | [] => none
  match whole? with
  | none => none
  | some (significand, dropped, rest) =>
    match rest with
    | '.' :: after => fractionPart? negative significand dropped after
    | _ =>
      match afterExponentMark? rest with
      | some after => exponentPart? negative significand dropped after
      | none =>
        if dropped = 0 then some (integer negative significand, rest)
        else (real? negative significand dropped).map (·, rest)

def number? (cs : List Char) : Option (Json × List Char) :=
  match cs with
  | '-' :: rest => unsignedNumber? true rest
  | _ => unsignedNumber? false cs

/-! ### Strings -/

def hexValue? (c : Char) : Option Nat :=
  if isDigit c then some (digitValue c)
  else if 'a' ≤ c ∧ c ≤ 'f' then some (c.toNat - 87)
  else if 'A' ≤ c ∧ c ≤ 'F' then some (c.toNat - 55)
  else none

def hexUnit? : List Char → Option (Nat × List Char)
  | a :: b :: c :: d :: rest => do
    let a ← hexValue? a
    let b ← hexValue? b
    let c ← hexValue? c
    let d ← hexValue? d
    some (((a * 16 + b) * 16 + c) * 16 + d, rest)
  | _ => none

/-- A character written in base sixteen, after its `u`: one unit, or a pair of surrogates. -/
def unicodeEscape? (cs : List Char) : Option (Char × List Char) := do
  let (unit, rest) ← hexUnit? cs
  -- The second half of a pair cannot come first.
  if 0xDC00 ≤ unit ∧ unit ≤ 0xDFFF then none
  else if 0xD800 ≤ unit ∧ unit ≤ 0xDBFF then
    match rest with
    | '\\' :: 'u' :: rest =>
      let (low, rest) ← hexUnit? rest
      if 0xDC00 ≤ low ∧ low ≤ 0xDFFF then
        some (Char.ofNat (0x10000 + (unit - 0xD800) * 0x400 + (low - 0xDC00)), rest)
      else none
    | _ => none
  else some (Char.ofNat unit, rest)

/-- A character after its backslash. -/
def escape? : List Char → Option (Char × List Char)
  | '"' :: rest => some ('"', rest)
  | '\\' :: rest => some ('\\', rest)
  | '/' :: rest => some ('/', rest)
  | 'b' :: rest => some ('\x08', rest)
  | 'f' :: rest => some ('\x0c', rest)
  | 'n' :: rest => some ('\n', rest)
  | 'r' :: rest => some ('\r', rest)
  | 't' :: rest => some ('\t', rest)
  | 'u' :: rest => unicodeEscape? rest
  | _ => none

/-- The rest of a string, `done` being what is read of it, last character first. At most `left`
characters are read. -/
def stringRest? (done : List Char) : (left : Nat) → List Char → Option (String × List Char)
  | 0, _ => none
  | _, [] => none
  | left + 1, c :: cs =>
    match c with
    | '"' => some (String.ofList done.reverse, cs)
    | '\\' =>
      match escape? cs with
      | some (c, rest) => stringRest? (c :: done) left rest
      | none => none
    | c => if c.toNat < 32 then none else stringRest? (c :: done) left cs

def string? (cs : List Char) : Option (String × List Char) := stringRest? [] (cs.length + 1) cs

/-! ### Values -/

mutual

/-- A value, nested at most `depth - 1` deep. Every call takes one from `left`. -/
def value? (depth : Nat) : (left : Nat) → List Char → Option (Json × List Char)
  | 0, _ => none
  | left + 1, cs =>
    match skipSpacing cs with
    | [] => none
    | 'n' :: 'u' :: 'l' :: 'l' :: rest => some (null, rest)
    | 't' :: 'r' :: 'u' :: 'e' :: rest => some (bool true, rest)
    | 'f' :: 'a' :: 'l' :: 's' :: 'e' :: rest => some (bool false, rest)
    | '"' :: rest => (string? rest).map fun (s, rest) => (text s, rest)
    | '[' :: rest =>
      if depth ≤ 1 then none
      else match skipSpacing rest with
        | ']' :: rest => some (array [], rest)
        | rest => (items? (depth - 1) left rest).map fun (items, rest) => (array items, rest)
    | '\x7b' :: rest =>
      if depth ≤ 1 then none
      else match skipSpacing rest with
        | '\x7d' :: rest => some (object [], rest)
        | rest =>
          (members? (depth - 1) left rest).map fun (members, rest) => (ofMembers members, rest)
    | cs => number? cs

/-- The items of an array up to its closing bracket; at least one. -/
def items? (depth : Nat) : (left : Nat) → List Char → Option (List Json × List Char)
  | 0, _ => none
  | left + 1, cs =>
    match value? depth left cs with
    | none => none
    | some (item, rest) =>
      match skipSpacing rest with
      | ',' :: rest => (items? depth left rest).map fun (items, rest) => (item :: items, rest)
      | ']' :: rest => some ([item], rest)
      | _ => none

/-- The members of an object up to its closing brace; at least one. -/
def members? (depth : Nat) : (left : Nat) → List Char → Option (Members × List Char)
  | 0, _ => none
  | left + 1, cs =>
    match skipSpacing cs with
    | '"' :: rest =>
      match string? rest with
      | none => none
      | some (key, rest) =>
        match skipSpacing rest with
        | ':' :: rest =>
          match value? depth left rest with
          | none => none
          | some (value, rest) =>
            match skipSpacing rest with
            | ',' :: rest =>
              (members? depth left rest).map fun (members, rest) => ((key, value) :: members, rest)
            | '\x7d' :: rest => some ([(key, value)], rest)
            | _ => none
        | _ => none
    | _ => none

end

/-- The value of a JSON text, unless the text is malformed. -/
def parse? (s : String) : Option Json :=
  let cs := s.toList
  -- Each place of the text is reached by two calls at most, one for an item and one for its value.
  match value? 128 (2 * cs.length + 2) cs with
  | some (value, rest) => if (skipSpacing rest).isEmpty then some value else none
  | none => none

end FlowPilot.Json

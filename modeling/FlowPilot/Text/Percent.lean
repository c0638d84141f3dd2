/-!
# Percent-encoding

## Main definitions

* `percentEncode`: letters, digits and `- . _ ~` stay, every other byte of the UTF-8 form is
  written as a percent sign and two capital base-sixteen digits.
-/

namespace FlowPilot.Text

/-- The bytes that need no encoding. -/
def isUnreserved (b : UInt8) : Bool :=
  let c := Char.ofNat b.toNat
  ('a' ≤ c && c ≤ 'z') || ('A' ≤ c && c ≤ 'Z') || ('0' ≤ c && c ≤ '9')
    || c == '-' || c == '.' || c == '_' || c == '~'

def capitalHexDigit (n : Nat) : Char :=
  if n < 10 then Char.ofNat (0x30 + n) else Char.ofNat (0x37 + n)

def percentByte (b : UInt8) : List Char :=
  if isUnreserved b then [Char.ofNat b.toNat]
  else ['%', capitalHexDigit (b.toNat / 16), capitalHexDigit (b.toNat % 16)]

/-- A text with every byte but the unreserved ones encoded. -/
def percentEncode (s : String) : String :=
  String.ofList (s.toUTF8.toList.flatMap percentByte)

end FlowPilot.Text

import FlowPilot.Text.Category

/-!
# Quoted texts

A text between double quotes on one line: quotes, backslashes and control characters are escaped,
and so is every character without a shape of its own.

## Main definitions

* `quoted`: one text.
* `quotedList`: a bracketed list of texts.
-/

namespace FlowPilot.Text

/-- The digits of a number in base sixteen, least digit last. -/
def hexDigits (n : Nat) : List Char := Nat.toDigits 16 n

/-- A character as it stands inside double quotes. -/
def quotedChar (c : Char) : List Char :=
  match c with
  | '\x00' => ['\\', '0']
  | '\t' => ['\\', 't']
  | '\n' => ['\\', 'n']
  | '\r' => ['\\', 'r']
  | '"' => ['\\', '"']
  | '\\' => ['\\', '\\']
  | c =>
    if c.toNat < 0x7F ∧ 0x20 ≤ c.toNat then [c]
    else if extendsGrapheme c || !isGraphic c then
      ['\\', 'u', '\x7b'] ++ hexDigits c.toNat ++ ['\x7d']
    else [c]

def quoted (s : String) : String :=
  String.ofList ('"' :: s.toList.flatMap quotedChar ++ ['"'])

/-- Quoted texts in brackets, separated by commas. -/
def quotedList (items : List String) : String :=
  "[" ++ ", ".intercalate (items.map quoted) ++ "]"

end FlowPilot.Text

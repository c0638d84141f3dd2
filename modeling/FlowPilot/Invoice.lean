import FlowPilot.Number.Reading

/-!
# Invoice numbers

An invoice number has fifteen digits in groups of three, three and nine. It is taken from the plan,
or else cut from the access key, whose digits 25 to 39 are the invoice number.

## Main definitions

* `Invoice.number`: the grouped number, or nothing at all.
* `Invoice.compact`: a number without its hyphens.
-/

namespace FlowPilot.Invoice

def digitsOf (s : String) : List Char := s.toList.filter isDigit

/-- Fifteen digits in groups of three, three and nine. -/
def grouped? (ds : List Char) : Option String :=
  if ds.length = 15 then
    some (String.ofList (ds.take 3 ++ '-' :: (ds.drop 3).take 3 ++ '-' :: ds.drop 6))
  else none

/-- The invoice number inside an access key of forty-nine digits. -/
def ofAccessKey? (key : String) : Option String :=
  let ds := digitsOf key
  if ds.length = 49 then grouped? ((ds.drop 24).take 15) else none

/-- The grouped number from the number itself, else from the access key, else the empty text. -/
def number (number accessKey : String) : String :=
  ((grouped? (digitsOf number)).orElse fun _ => ofAccessKey? accessKey).getD ""

def compact (number : String) : String := String.ofList (number.toList.filter (· != '-'))

end FlowPilot.Invoice

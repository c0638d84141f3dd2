import FlowPilot.Pattern.CharSet
import FlowPilot.Pattern.Script.Table

/-!
# Properties by name

A pattern may name a set of characters by a general category, a script or a property. Blanks,
underscores, hyphens and case do not count in such names.

## Main definitions

* `CharSet.ofPropertyName?`: the set with a name.
* `CharSet.ofPropertyValue?`: the set of the characters for which a property has a value.
-/

namespace FlowPilot.CharSet

open Text (Category)

/-- A name without what does not count in it. -/
def plainName (name : List Char) : String :=
  let cs := (name.filter fun c => c.toNat < 128 && !Text.isBlank c && c != '_' && c != '-').map
    Text.asciiSmall
  match cs with
  | ['i', 's', 'c'] => "isc"
  | 'i' :: 's' :: rest => String.ofList rest
  | cs => String.ofList cs

/-- The names of the general categories and of their groups. -/
def categoryNames : List (List String × List Category) :=
  [(["c", "other"], [.control, .format, .surrogate, .privateUse, .unassigned]),
   (["cc", "control", "cntrl"], [.control]),
   (["cf", "format"], [.format]),
   (["cn", "unassigned"], [.unassigned]),
   (["co", "privateuse"], [.privateUse]),
   (["l", "letter"], [.capital, .small, .titlecase, .modifierLetter, .otherLetter]),
   (["lc", "casedletter"], [.capital, .small, .titlecase]),
   (["ll", "lowercaseletter"], [.small]),
   (["lm", "modifierletter"], [.modifierLetter]),
   (["lo", "otherletter"], [.otherLetter]),
   (["lt", "titlecaseletter"], [.titlecase]),
   (["lu", "uppercaseletter"], [.capital]),
   (["m", "mark", "combiningmark"], [.nonspacingMark, .spacingMark, .enclosingMark]),
   (["mc", "spacingmark"], [.spacingMark]),
   (["me", "enclosingmark"], [.enclosingMark]),
   (["mn", "nonspacingmark"], [.nonspacingMark]),
   (["n", "number"], [.decimalDigit, .letterNumber, .otherNumber]),
   (["nd", "decimalnumber", "digit"], [.decimalDigit]),
   (["nl", "letternumber"], [.letterNumber]),
   (["no", "othernumber"], [.otherNumber]),
   (["p", "punctuation", "punct"],
    [.connector, .dash, .openBracket, .closeBracket, .initialQuote, .finalQuote,
     .otherPunctuation]),
   (["pc", "connectorpunctuation"], [.connector]),
   (["pd", "dashpunctuation"], [.dash]),
   (["pe", "closepunctuation"], [.closeBracket]),
   (["pf", "finalpunctuation"], [.finalQuote]),
   (["pi", "initialpunctuation"], [.initialQuote]),
   (["po", "otherpunctuation"], [.otherPunctuation]),
   (["ps", "openpunctuation"], [.openBracket]),
   (["s", "symbol"], [.mathSymbol, .currency, .modifierSymbol, .otherSymbol]),
   (["sc", "currencysymbol"], [.currency]),
   (["sk", "modifiersymbol"], [.modifierSymbol]),
   (["sm", "mathsymbol"], [.mathSymbol]),
   (["so", "othersymbol"], [.otherSymbol]),
   (["z", "separator"], [.space, .lineSeparator, .paragraphSeparator]),
   (["zl", "lineseparator"], [.lineSeparator]),
   (["zp", "paragraphseparator"], [.paragraphSeparator]),
   (["zs", "spaceseparator"], [.space])]

/-- The set with one of several names. -/
def named? {α : Type} (table : List (List String × α)) (name : String) : Option α :=
  (table.find? fun (names, _) => names.contains name).map (·.2)

def ofCategoryName? (name : String) : Option CharSet :=
  match name with
  | "any" => some all
  | "ascii" => some (ranges [(0, 0x7F)])
  | "assigned" => some (complement (categories [.unassigned]))
  | name => (named? categoryNames name).map categories

/-- Letters of every kind: by category, as letter numbers or enclosed in circles and squares. -/
def letters : CharSet :=
  union (categories
      [.capital, .small, .titlecase, .modifierLetter, .otherLetter, .letterNumber])
    (ranges Text.enclosedLetters)

/-- The names of the properties that a character has or has not. -/
def propertyNames : List (List String × CharSet) :=
  [(["whitespace", "space", "wspace"], blank),
   (["lowercase", "lower"], small),
   (["uppercase", "upper"], capital),
   (["alphabetic", "alpha"], letters),
   (["cased"], union (union small capital) (categories [.titlecase])),
   (["asciihexdigit", "ahex"], ofChars [('0', '9'), ('A', 'F'), ('a', 'f')]),
   (["joincontrol", "joinc"], ranges [(0x200C, 0x200D)])]

/-- The set with a name: a property, a general category or a script. -/
def ofPropertyName? (name : List Char) : Option CharSet :=
  let name := plainName name
  (named? propertyNames name).or
    ((ofCategoryName? name).or ((named? Script.table name).map ranges))

/-- The set of the characters for which a property has a value. -/
def ofPropertyValue? (property value : List Char) : Option CharSet :=
  match plainName property with
  | "generalcategory" | "gc" | "category" => ofCategoryName? (plainName value)
  | "script" | "sc" => (named? Script.table (plainName value)).map ranges
  | _ => Option.none

end FlowPilot.CharSet

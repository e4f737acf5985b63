import GatewayTelemetry.Pattern.CharSet
import GatewayTelemetry.Unicode.GeneralCategory
import GatewayTelemetry.Unicode.Property
import GatewayTelemetry.Unicode.Script

/-!
# The standard table of properties

The standard table has the general categories, which are all properties that one letter names, the
scripts, and the properties of letters, of their cases, and of blanks. Other properties are those of
a larger table.
-/

namespace GatewayTelemetry
namespace Pattern

open Unicode (CodeRange GeneralCategory)

/-- A name as it is looked up: in small letters, without spaces, hyphens, underscores and a leading
`is`. Without `is`, the name `isc` would be another one. -/
def looseName (name : List Char) : List Char :=
  let isPrefixed := (name.take 2).map Char.toLower = ['i', 's']
  let rest := if isPrefixed then name.drop 2 else name
  let letters := rest.filter fun c => ¬(c = ' ' ∨ c = '_' ∨ c = '-') ∧ c.toNat < 0x80
  let letters := letters.map Char.toLower
  if isPrefixed ∧ letters = ['c'] then ['i', 's', 'c'] else letters

/-- What stands before and after the first `!=` in a text. -/
def splitAtUnequal? : List Char → Option (List Char × List Char)
  | [] => none
  | '!' :: '=' :: rest => some ([], rest)
  | c :: rest => (splitAtUnequal? rest).map fun (before, after) => (c :: before, after)

/-- What stands before and after a sign that is first in a text. -/
def splitAt? (sign : Char) (text : List Char) : Option (List Char × List Char) :=
  match text.dropWhile (· != sign) with
  | [] => none
  | _ :: after => some (text.takeWhile (· != sign), after)

/-- The name of a property and the value behind it, if there is one. Whether the signs between them
say that the value is another one makes no difference. -/
def nameAndValue? (text : List Char) : Option (List Char × List Char) :=
  (splitAtUnequal? text).or ((splitAt? ':' text).or (splitAt? '=' text))

def assigned : CharSet :=
  .ofRanges (GeneralCategory.all.flatMap GeneralCategory.codes)

/-- The code points with a general category, or with one of a group of them. What is not assigned
belongs to the group of other characters. -/
def categoryCodes? (name : String) : Option (List CodeRange) :=
  if name = "any" then some [⟨0, 0x10ffff⟩]
  else if name = "ascii" then some [⟨0, 0x7f⟩]
  else if name = "assigned" then some assigned.ranges
  else if name = "cn" ∨ name = "unassigned" then some assigned.complement.ranges
  else if name = "c" ∨ name = "other" then
    some (GeneralCategory.others.flatMap GeneralCategory.codes ++ assigned.complement.ranges)
  else
    (GeneralCategory.named.find? fun entry => entry.1.contains name).map fun entry =>
      entry.2.flatMap GeneralCategory.codes

def binaryCodes? (name : String) : Option (List CodeRange) :=
  if name = "alphabetic" ∨ name = "alpha" then some Unicode.letters
  else if name = "uppercase" ∨ name = "upper" then
    some (GeneralCategory.uppercaseLetter.codes ++ GeneralCategory.capitalSigns)
  else if name = "lowercase" ∨ name = "lower" then
    some (GeneralCategory.lowercaseLetter.codes ++ GeneralCategory.smallSigns)
  else if name = "whitespace" ∨ name = "wspace" ∨ name = "space" then some CharSet.space.ranges
  else none

def standardProperties : Unicode.Properties where
  find? text :=
    match nameAndValue? text with
    | some (name, value) =>
      let name := String.ofList (looseName name)
      let value := String.ofList (looseName value)
      if name = "gc" ∨ name = "generalcategory" then categoryCodes? value
      else if name = "sc" ∨ name = "script" then Unicode.scriptCodes? value
      else none
    | none =>
      let name := String.ofList (looseName text)
      (binaryCodes? name).or ((categoryCodes? name).or (Unicode.scriptCodes? name))

end Pattern
end GatewayTelemetry

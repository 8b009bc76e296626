import QualityGate.Unicode.Binary
import QualityGate.Unicode.Casing
import QualityGate.Unicode.Script

/-!
# Character properties by name

The classes that a pattern may name: general categories and their groups, scripts, and some
properties that hold or do not.  Names are compared loosely: without regard to case, blanks,
hyphens, underscores and an `is` in front.
-/

namespace QualityGate.Unicode

/-- Alphabetic characters. -/
def alphabetic : CharSet :=
  (categories ["Lu", "Ll", "Lt", "Lm", "Lo", "Nl"]).union otherAlphabetic

/-- Characters of words: alphabetic characters, marks, decimal digits, connecting punctuation, and
the two joiners. -/
def wordChars : CharSet :=
  (alphabetic.union (categories ["Mn", "Mc", "Me", "Nd", "Pc"])).union ⟨[(0x200C, 0x200D)]⟩

/-- White space. -/
def whiteSpace : CharSet := CharSet.ofTable
  "9-D 20 85 A0 1680 2000-200A 2028-2029 202F 205F 3000"

/-- The assigned code points. -/
def assigned : CharSet := categories (categoryTables.map (·.1))

/-- The groups of general categories and the categories, under all their names in loose form. -/
def categoryNames : List (List String × List String) := [
  (["lu", "uppercaseletter"], ["Lu"]), (["ll", "lowercaseletter"], ["Ll"]),
  (["lt", "titlecaseletter"], ["Lt"]), (["lm", "modifierletter"], ["Lm"]),
  (["lo", "otherletter"], ["Lo"]), (["mn", "nonspacingmark"], ["Mn"]),
  (["mc", "spacingmark"], ["Mc"]), (["me", "enclosingmark"], ["Me"]),
  (["nd", "decimalnumber", "digit"], ["Nd"]), (["nl", "letternumber"], ["Nl"]),
  (["no", "othernumber"], ["No"]), (["pc", "connectorpunctuation"], ["Pc"]),
  (["pd", "dashpunctuation"], ["Pd"]), (["ps", "openpunctuation"], ["Ps"]),
  (["pe", "closepunctuation"], ["Pe"]), (["pi", "initialpunctuation"], ["Pi"]),
  (["pf", "finalpunctuation"], ["Pf"]), (["po", "otherpunctuation"], ["Po"]),
  (["sm", "mathsymbol"], ["Sm"]), (["sc", "currencysymbol"], ["Sc"]),
  (["sk", "modifiersymbol"], ["Sk"]), (["so", "othersymbol"], ["So"]),
  (["zs", "spaceseparator"], ["Zs"]), (["zl", "lineseparator"], ["Zl"]),
  (["zp", "paragraphseparator"], ["Zp"]), (["cc", "control", "cntrl"], ["Cc"]),
  (["cf", "format"], ["Cf"]), (["co", "privateuse"], ["Co"]),
  (["lc", "casedletter"], ["Lu", "Ll", "Lt"]),
  (["l", "letter"], ["Lu", "Ll", "Lt", "Lm", "Lo"]),
  (["m", "mark", "combiningmark"], ["Mn", "Mc", "Me"]),
  (["n", "number"], ["Nd", "Nl", "No"]),
  (["p", "punctuation", "punct"], ["Pc", "Pd", "Ps", "Pe", "Pi", "Pf", "Po"]),
  (["s", "symbol"], ["Sm", "Sc", "Sk", "So"]),
  (["z", "separator"], ["Zs", "Zl", "Zp"])]

/-- Characters that identifiers may start with. -/
def identifierStart : CharSet :=
  (categories ["Lu", "Ll", "Lt", "Lm", "Lo", "Nl"]).union
    (CharSet.ofTable "1885-1886 2118 212E 309B-309C")

/-- Characters that identifiers may go on with. -/
def identifierContinue : CharSet :=
  (identifierStart.union (categories ["Mn", "Mc", "Nd", "Pc"])).union
    (CharSet.ofTable "B7 387 1369-1371 19DA")

/-- Characters that start no identifier once texts are normalized. -/
def notNormalStart : CharSet := CharSet.ofTable
  "37A E33 EB3 309B-309C FC5E-FC63 FDFA-FDFB FE70 FE72 FE74 FE76 FE78 FE7A FE7C FE7E FF9E-FF9F"

/-- Characters that are in no identifier once texts are normalized. -/
def notNormalContinue : CharSet := CharSet.ofTable
  "37A 309B-309C FC5E-FC63 FDFA-FDFB FE70 FE72 FE74 FE76 FE78 FE7A FE7C FE7E"

/-- The properties that hold or do not, under all their names in loose form. -/
def binaryProperty? (name : String) : Option CharSet :=
  if name ∈ ["alphabetic", "alpha"] then some alphabetic
  else if name ∈ ["lowercase", "lower"] then some ((category "Ll").union otherLowercase)
  else if name ∈ ["uppercase", "upper"] then some ((category "Lu").union otherUppercase)
  else if name ∈ ["whitespace", "wspace", "space"] then some whiteSpace
  else if name = "cased" then some cased
  else if name ∈ ["caseignorable", "ci"] then some caseIgnorable
  else if name ∈ ["idstart", "ids"] then some identifierStart
  else if name ∈ ["idcontinue", "idc"] then some identifierContinue
  else if name ∈ ["xidstart", "xids"] then some (identifierStart.diff notNormalStart)
  else if name ∈ ["xidcontinue", "xidc"] then some (identifierContinue.diff notNormalContinue)
  else tabulated? name

/-- A name in loose form. -/
def looseName (name : List Char) : String :=
  let kept := (name.filter fun c => c.toNat < 0x80 ∧ c ≠ ' ' ∧ c ≠ '_' ∧ c ≠ '-').map Char.toLower
  match name, kept with
  | a :: b :: _, _ :: _ :: rest =>
    if a.toLower = 'i' ∧ b.toLower = 's' then
      if rest = ['c'] then "isc" else String.ofList rest
    else String.ofList kept
  | _, _ => String.ofList kept

/-- A general category or a group of them, by a name in loose form. -/
def categoryByName? (name : String) : Option CharSet :=
  if name = "any" then some .full
  else if name = "assigned" then some assigned
  else if name = "ascii" then some ⟨[(0, 0x7F)]⟩
  else if name ∈ ["cn", "unassigned"] then some assigned.complement
  else if name ∈ ["c", "other"] then
    some ((categories ["Cc", "Cf", "Co"]).union assigned.complement)
  else (categoryNames.find? fun (names, _) => name ∈ names).map fun (_, parts) => categories parts

/-- A script, by a name in loose form. -/
def scriptByName? (name : String) : Option CharSet :=
  let name := if name = "qaac" then "coptic" else if name = "qaai" then "inherited" else name
  (scriptTables.find? fun (short, long, _) =>
    looseName short.toList = name ∨ looseName long.toList = name).map fun (_, _, table) =>
      CharSet.ofTable table

/-- The class that a single name denotes. -/
def classByName? (name : List Char) : Option CharSet :=
  let name := looseName name
  (binaryProperty? name).or ((categoryByName? name).or (scriptByName? name))

/-- The class of the characters for which a property has a value. -/
def classByValue? (property value : List Char) : Option CharSet :=
  let property := looseName property
  let value := looseName value
  if property ∈ ["gc", "generalcategory"] then categoryByName? value
  else if property ∈ ["sc", "script", "scx", "scriptextensions"] then scriptByName? value
  else none

end QualityGate.Unicode

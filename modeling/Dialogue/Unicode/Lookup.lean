import Dialogue.Unicode.Age
import Dialogue.Unicode.Break
import Dialogue.Unicode.Property
import Dialogue.Unicode.ScriptExtension

/-! Properties and their values by name. -/
namespace Dialogue.Unicode

/-- The set of a property that holds or does not hold, by its simplified name. -/
def property? (name : String) : Option CharSet :=
  match name with
  | "alpha" | "alphabetic" => some alphabetic
  | "cased" => some cased
  | "ci" | "caseignorable" => some caseIgnorable
  | "cwcf" | "changeswhencasefolded" => some changesCasefolded
  | "cwcm" | "changeswhencasemapped" => some changesCasemapped
  | "cwl" | "changeswhenlowercased" => some changesLowercased
  | "cwt" | "changeswhentitlecased" => some changesTitlecased
  | "cwu" | "changeswhenuppercased" => some changesUppercased
  | "grbase" | "graphemebase" => some graphemeBase
  | "grext" | "graphemeextend" => some graphemeExtend
  | "idc" | "idcontinue" => some identifierContinue
  | "ids" | "idstart" => some identifierStart
  | "lower" | "lowercase" => some lowercase
  | "math" => some math
  | "oalpha" | "otheralphabetic" => some otherAlphabetic
  | "olower" | "otherlowercase" => some otherLowercase
  | "oupper" | "otheruppercase" => some otherUppercase
  | "upper" | "uppercase" => some uppercase
  | "wspace" | "space" | "whitespace" => some Text.blank
  | "xidc" | "xidcontinue" => some stableIdentifierContinue
  | "xids" | "xidstart" => some stableIdentifierStart
  | _ => (propertyTables.find? (·.1.contains name)).map (readRanges ·.2)

/-- Names are compared without case, spaces, hyphens and underscores, and without
an initial `is`. -/
def simplify (name : List Char) : String :=
  let body := if ((name.take 2).map Char.toLower) = ['i', 's'] then name.drop 2 else name
  let simple := (body.filter fun c => c.toNat < 0x80 && !(" _-".toList.contains c)).map Char.toLower
  if body ≠ name ∧ simple = ['c'] then "isc" else String.ofList simple

/-- Short names of general categories that also abbreviate other properties. -/
def categoryFirst : List String :=
  ["cf", "sc", "lc"]

/-- The set of a lone name: a property, else a general category, else a script. -/
def named? (name : List Char) : Option CharSet :=
  let n := simplify name
  if categoryFirst.contains n then category? n
  else property? n <|> category? n <|> script? n

/-- The set of a property and one of its values, by their simplified names. -/
def value? (name value : String) : Option CharSet :=
  match name with
  | "age" => age? value
  | "gc" | "generalcategory" => category? value
  | "gcb" | "graphemeclusterbreak" => graphemeBreak? value
  | "sb" | "sentencebreak" => sentenceBreak? value
  | "sc" | "script" => script? value
  | "scx" | "scriptextensions" => scriptExtension? value
  | "wb" | "wordbreak" => wordBreak? value
  | _ => none

def valued? (name value : List Char) : Option CharSet :=
  value? (simplify name) (simplify value)

end Dialogue.Unicode

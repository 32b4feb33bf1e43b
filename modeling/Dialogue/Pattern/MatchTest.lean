import Dialogue.Error
import Dialogue.Expression.Layout
import Dialogue.Expression.Matching
import Dialogue.Expression.Reader
import Dialogue.Pattern.Wildcard

/-!
Patterns as tests of whole inputs. Wildcards and spaces of a pattern are replaced by expression text,
everything else in it is expression text already, and the result is anchored at both ends.
-/
namespace Dialogue

/-- The text with every `c` replaced by `replacement`. -/
def replaceChar (c : Char) (replacement cs : List Char) : List Char :=
  cs.flatMap fun x => if x = c then replacement else [x]

/-- What stands in an expression for a space: any white space, or none. -/
def spaceExpression : List Char := "\\s*".toList

/-- The expression text of a trimmed pattern: one replacement for each wildcard,
then one for spaces. -/
def replaceSymbols (cs : List Char) : List Char :=
  replaceChar ' ' spaceExpression
    (Wildcard.all.foldl (fun cs w => replaceChar w.symbol w.expression.toList cs) cs)

def anchored (cs : List Char) : List Char :=
  "^(?:".toList ++ cs ++ ")$".toList

/-- The anchored expression text of a pattern. -/
def patternExpression (pattern : String) : List Char :=
  anchored (replaceSymbols (Text.trimmed pattern.toList))

/-- A test of whole inputs, with the pattern and the expression text that it comes from. -/
structure MatchTest where
  pattern : String
  text : String
  expression : Expression
deriving DecidableEq, Repr

namespace MatchTest

def accepts (t : MatchTest) (input : String) : Bool :=
  t.expression.occursIn input.toList

/-- The test of a pattern whose expression is valid and no larger than `limit`, if one is given. -/
def ofPatternWithin (limit : Option Nat) (pattern : String) : Except Error MatchTest :=
  let cs := patternExpression pattern
  match Expression.read cs with
  | some e =>
    if limit.all e.fits then .ok ⟨pattern, String.ofList cs, e⟩ else .error (.badPattern pattern)
  | none => .error (.badPattern pattern)

/-- The largest expression that is accepted: ten mebibytes. -/
def sizeLimit : Nat := 10 * 1024 * 1024

/-- The test of a pattern, or the fault that its expression text is not valid or too large. -/
def ofPattern (pattern : String) : Except Error MatchTest :=
  ofPatternWithin (some sizeLimit) pattern

end MatchTest

end Dialogue

import Dialogue.Markup.Document

/-! Everything that can go wrong in loading rules and answering. -/
namespace Dialogue

/-- Why a category element is no rule. -/
inductive CategoryFault where
  | noPattern (markup : String)
  | noTemplate (pattern : String)
deriving DecidableEq, Repr

def CategoryFault.message : CategoryFault → String
  | .noPattern markup => "no <pattern> in " ++ markup
  | .noTemplate pattern => "no <template> for pattern '" ++ pattern ++ "'"

inductive Error where
  /-- A choice without candidates. -/
  | emptyChoice
  /-- Rules that refer to each other too deeply. -/
  | tooDeep (depth limit : Nat)
  | badPattern (pattern : String)
  | source (fault : Markup.Fault)
  | badCategory (fault : CategoryFault)
deriving DecidableEq, Repr

def Error.message : Error → String
  | .emptyChoice => "random choice has no <li> candidates"
  | .tooDeep depth limit =>
    "srai recursion depth " ++ toString depth ++ " exceeds limit " ++ toString limit
  | .badPattern pattern =>
    "pattern '" ++ pattern ++ "' does not translate to a valid expression"
  | .source fault => fault.message
  | .badCategory fault => "malformed category: " ++ fault.message

end Dialogue

import Dialogue.Error
import Dialogue.Markup.Print
import Dialogue.Rules.Index
import Dialogue.Session.Draws
import Dialogue.Session.Predicates
import Dialogue.Text.Basic

/-!
Rendering of templates. What a template means is said over any renderer: it chooses, looks rules up, assigns
or faults, and puts texts together. The rendering that runs uses up random words and makes a list of
assignments; it never looks at what was assigned before. A fault keeps the words used and the assignments
made before it.
-/
namespace Dialogue

open Markup (Node Element)

/-- Settings of an interpreter. -/
structure Options where
  /-- Searched when a topic has no match; the only topic that `<srai>` looks in. -/
  defaultTopic : String := "default"
  /-- The answer when nothing matches or nothing is rendered. -/
  defaultResponse : String := "I have no answer for that."
  /-- The answer in place of a rule that `<srai>` does not find. -/
  errorResponse : String := "Something is wrong with my brain."
  /-- How many `<srai>` may be entered inside each other. -/
  maxSraiDepth : Nat := 32
deriving DecidableEq, Repr

/-- What a renderer does besides putting texts together. -/
class Renderer (m : Type → Type) where
  fail {α : Type} (e : Error) : m α
  /-- A random number below `n`. -/
  choose (n : Nat) : m Nat
  /-- The rule for what an `<srai>` asks for, if there is one. -/
  lookup (rules : String → Option Category) (target : String) : m (Option Category)
  assign (name value : String) : m Unit

/-! ## The rendering that runs -/

/-- The end of a rendering: its text or fault, the stream left, and the assignments in order. -/
structure Outcome (α : Type) where
  result : Except Error α
  draws : Draws
  assignments : List (String × String)

/-- A rendering, from the stream it starts with. -/
def Rendering (α : Type) : Type :=
  Draws → Outcome α

namespace Rendering

def pure {α : Type} (a : α) : Rendering α :=
  fun d => ⟨.ok a, d, []⟩

def fail {α : Type} (e : Error) : Rendering α :=
  fun d => ⟨.error e, d, []⟩

/-- One rendering after another; a fault in the first leaves the second out. -/
def bind {α β : Type} (m : Rendering α) (f : α → Rendering β) : Rendering β :=
  fun d =>
    let first := m d
    match first.result with
    | .error e => ⟨.error e, first.draws, first.assignments⟩
    | .ok a =>
      let second := f a first.draws
      { second with assignments := first.assignments ++ second.assignments }

instance : Monad Rendering where
  pure := pure
  bind := bind

def assign (name value : String) : Rendering Unit :=
  fun d => ⟨.ok (), d, [(name, value)]⟩

def choose (n : Nat) : Rendering Nat :=
  fun d => let (i, d) := d.below n; ⟨.ok i, d, []⟩

instance : Renderer Rendering where
  fail := fail
  choose := choose
  lookup rules target := pure (rules target)
  assign := assign

end Rendering

/-! ## Texts -/

/-- Text without its line breaks; from the left, two different characters next to each other are one of them. -/
def dropBreaks : List Char → List Char
  | '\r' :: '\n' :: cs => dropBreaks cs
  | '\n' :: '\r' :: cs => dropBreaks cs
  | '\r' :: cs => dropBreaks cs
  | '\n' :: cs => dropBreaks cs
  | c :: cs => c :: dropBreaks cs
  | [] => []

/-- Each pair of spaces, from the left, becomes one. -/
def joinSpaces : List Char → List Char
  | ' ' :: ' ' :: cs => ' ' :: joinSpaces cs
  | c :: cs => c :: joinSpaces cs
  | [] => []

/-- Text as it is answered: no line breaks, and pairs of spaces joined in one pass. -/
def tidyText (s : String) : String :=
  String.ofList (joinSpaces (dropBreaks s.toList))

/-- What an `<srai>` asks for: its content as pattern text. -/
def sraiTarget (children : List Node) : String :=
  Text.trim ({ name := "srai", children } : Element).contentSource

/-! ## Templates and rules -/

section
variable {m : Type → Type} [Monad m] [Renderer m]

/-- The content of one of the `<li>` children, as markup. -/
def renderChoice (candidates : List Element) : m String :=
  match candidates with
  | [] => Renderer.fail .emptyChoice
  | c :: cs => do
    let i ← Renderer.choose (cs.length + 1)
    return ((c :: cs)[i]?.getD c).contentMarkup

mutual
/-- Renders a node; `consult` renders the rule that an `<srai>` asks for. -/
def renderNode (consult : String → m String) : Node → m String
  | .text value => return tidyText value
  | .element name attributes children =>
    if name = "template" then renderNodes consult children
    else if name = "random" then
      renderChoice (({ name, attributes, children } : Element).elementsNamed "li")
    else if name = "srai" then consult (sraiTarget children)
    else if name = "set" then
      match attributes with
      | [] => return ""
      | (_, predicate) :: _ => do
        let value ← renderNodes consult children
        Renderer.assign predicate value
        return ""
    else if name = "think" then do
      let _ ← renderNodes consult children
      return ""
    else return ""

def renderNodes (consult : String → m String) : List Node → m String
  | [] => return ""
  | n :: ns => do
    let first ← renderNode consult n
    let rest ← renderNodes consult ns
    return first ++ rest
end

def renderTemplate (consult : String → m String) (template : Element) : m String :=
  renderNodes consult template.children

/-- Renders a rule's element; no rule and an empty text are both answered by the
default response. -/
def renderRule (options : Options) (consult : String → m String) (node? : Option Element) : m String :=
  match node? with
  | none => return options.defaultResponse
  | some node =>
    match Category.template? node with
    | none => return options.defaultResponse
    | some template => do
      let text ← renderTemplate consult template
      return if text.isEmpty then options.defaultResponse else text

end

section
variable {σ : Type} [RuleStore σ]

/-- Renders the rule that an `<srai>` asks for, with at most `remaining` entered from here on. -/
def Renderer.consult (m : Type → Type) [Monad m] [Renderer m] (store : σ) (options : Options) :
    Nat → String → m String
  | 0, _ => Renderer.fail (.tooDeep (options.maxSraiDepth + 1) options.maxSraiDepth)
  | remaining + 1, target => do
    match ← Renderer.lookup (RuleStore.category? store options.defaultTopic) target with
    | some c => renderRule options (Renderer.consult m store options remaining) (some c.node)
    | none => return options.errorResponse

/-- The rules as the rendering that runs consults them. -/
def consult (store : σ) (options : Options) : Nat → String → Rendering String :=
  Renderer.consult Rendering store options

/-- The rules that templates may ask for at the start of an answer. -/
def consultAny (store : σ) (options : Options) : String → Rendering String :=
  consult store options options.maxSraiDepth
end

end Dialogue

import Dialogue.Session.Rendering
import Dialogue.Session.Search

/-! Interpreters: an index of rules with options, random words and the tests made so far. -/
namespace Dialogue

open Markup (Element)

structure Interpreter (σ : Type := Index) where
  index : σ
  options : Options := {}
  draws : Draws := .ofSeed 0
  cache : TestCache := {}

/-- The pattern that stands for any input. -/
def catchAll : String := "*"

/-- A match with a report: the input as tested, the pattern, its topic if one was
found, the searches. -/
structure Explanation where
  input : String
  pattern : String
  topic? : Option String
  searches : List SearchReport
deriving DecidableEq, Repr

/-- An answer and the pattern it was found by. -/
structure Reply where
  pattern : String
  text : String
deriving DecidableEq, Repr

/-- The end of a turn: the answer or fault, what is remembered then, and the interpreter then. -/
structure Turn (α : Type) (σ : Type := Index) where
  result : Except Error α
  predicates : Predicates
  interpreter : Interpreter σ

namespace Explanation

/-- The match that searches report. -/
def ofSearches (input : String) (searches : List SearchReport) : Explanation :=
  match searches.findSome? fun s => s.matched?.map (s.topic, ·) with
  | some (topic, pattern) => { input, pattern, topic? := some topic, searches }
  | none => { input, pattern := catchAll, topic? := none, searches }

end Explanation

namespace Interpreter

variable {σ : Type} [RuleStore σ]

/-- The pattern for an input, or `*` if there is none; the answer before it has no influence yet. -/
def patternFor (bot : Interpreter σ) (input topic _that : String) : String × Interpreter σ :=
  let (found?, cache) := RuleStore.find? bot.index bot.cache input topic bot.options.defaultTopic
  ((found?.map (·.pattern)).getD catchAll, { bot with cache })

def explain (bot : Interpreter σ) (input topic _that : String) : Explanation × Interpreter σ :=
  let (searches, cache) := RuleStore.trace bot.index bot.cache input topic bot.options.defaultTopic
  (.ofSearches (normalize input) searches, { bot with cache })

/-- Runs a rendering and remembers what it assigns. -/
def run (bot : Interpreter σ) (predicates : Predicates) (rendering : Rendering String) : Turn String σ :=
  let o := rendering bot.draws
  ⟨o.result, predicates.setAll o.assignments, { bot with draws := o.draws }⟩

/-- Renders a rule's element. -/
def renderRule (bot : Interpreter σ) (node? : Option Element) (predicates : Predicates) : Turn String σ :=
  bot.run predicates (Dialogue.renderRule bot.options (consultAny bot.index bot.options) node?)

/-- Renders a bare template; an empty text stays empty. -/
def renderTemplate (bot : Interpreter σ) (template : Element) (predicates : Predicates) : Turn String σ :=
  bot.run predicates (Dialogue.renderTemplate (consultAny bot.index bot.options) template)

/-- Renders the rule under a topic and a pattern, else the one for any input in
the default topic. -/
def renderPattern (bot : Interpreter σ) (pattern topic _that : String) (predicates : Predicates) :
    Turn String σ :=
  let category? :=
    RuleStore.category? bot.index topic pattern <|>
      RuleStore.category? bot.index bot.options.defaultTopic catchAll
  bot.renderRule (category?.map (·.node)) predicates

/-- Finds the rule for an input and renders it. -/
def respond (bot : Interpreter σ) (input topic that : String) (predicates : Predicates) : Turn Reply σ :=
  let (found?, cache) := RuleStore.find? bot.index bot.cache input topic bot.options.defaultTopic
  let found := found?.getD ⟨bot.options.defaultTopic, catchAll⟩
  let turn := { bot with cache }.renderPattern found.pattern found.topic that predicates
  { turn with result := turn.result.map (⟨found.pattern, ·⟩) }

end Interpreter

end Dialogue

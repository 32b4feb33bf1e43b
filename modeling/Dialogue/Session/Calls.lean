import Dialogue.Session.Interpreter

/-!
Calls of one interpreter, one after another. Each is made for a user, and every user has predicates of
their own.
-/
namespace Dialogue

open Markup (Element)

inductive Call where
  | matchPattern (input topic that : String)
  | explain (input topic that : String)
  | respond (input topic that : String)
  | renderPattern (pattern topic that : String)
  | renderRule (node? : Option Element)
  | renderTemplate (template : Element)
deriving DecidableEq, Repr

/-- Whether a call matches and renders nothing. -/
def Call.onlyMatches : Call → Bool
  | .matchPattern .. | .explain .. => true
  | _ => false

inductive Answer where
  | pattern (pattern : String)
  | explanation (explanation : Explanation)
  | reply (reply : Reply)
  | text (text : String)
deriving DecidableEq, Repr

def Turn.map {α β σ : Type} (f : α → β) (turn : Turn α σ) : Turn β σ :=
  { turn with result := turn.result.map f }

structure Request where
  user : String
  call : Call
deriving DecidableEq, Repr

/-- What a call shows: its result, what its user's predicates are then, and where the stream of
random words is then. -/
structure Record where
  result : Except Error Answer
  predicates : Predicates
  draws : Draws

/-- An interpreter and the predicates of its users. -/
structure Sessions (σ : Type := Index) where
  bot : Interpreter σ
  memory : String → Predicates

variable {σ : Type} [RuleStore σ]

def Interpreter.perform (bot : Interpreter σ) (predicates : Predicates) : Call → Turn Answer σ
  | .matchPattern input topic that =>
    let (pattern, bot) := bot.patternFor input topic that
    ⟨.ok (.pattern pattern), predicates, bot⟩
  | .explain input topic that =>
    let (explanation, bot) := bot.explain input topic that
    ⟨.ok (.explanation explanation), predicates, bot⟩
  | .respond input topic that => (bot.respond input topic that predicates).map .reply
  | .renderPattern pattern topic that => (bot.renderPattern pattern topic that predicates).map .text
  | .renderRule node? => (bot.renderRule node? predicates).map .text
  | .renderTemplate template => (bot.renderTemplate template predicates).map .text

namespace Sessions

def step (s : Sessions σ) (r : Request) : Record × Sessions σ :=
  let turn := s.bot.perform (s.memory r.user) r.call
  (⟨turn.result, turn.predicates, turn.interpreter.draws⟩,
    ⟨turn.interpreter, fun user => if user = r.user then turn.predicates else s.memory user⟩)

/-- What all calls show, in order, and what they leave behind. -/
def run (s : Sessions σ) : List Request → List Record × Sessions σ
  | [] => ([], s)
  | r :: rs =>
    let (record, s) := s.step r
    let (records, s) := run s rs
    (record :: records, s)

/-- A fresh interpreter. -/
def start (store : σ) (options : Options) (seed : UInt64) (memory : String → Predicates) : Sessions σ :=
  ⟨{ index := store, options, draws := .ofSeed seed }, memory⟩

end Sessions

end Dialogue

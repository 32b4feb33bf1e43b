import Dialogue.Pattern.MatchTest
import Dialogue.Rules.Index
import Dialogue.Text.Basic
import Dialogue.Text.Case

/-!
Finding the rule for an input: the first pattern of the topic, or else of the default topic, whose test
accepts the input. Tests are kept once they are made, also those of patterns that have none.
-/
namespace Dialogue

/-- What inputs become before they are tested: uppercase, without white space around. -/
def normalize (input : String) : String :=
  String.ofList (Text.trimmed (Text.uppercase input.toList))

/-- Tests made so far, by pattern. -/
structure TestCache where
  entries : List (String × Option MatchTest) := []

namespace TestCache

/-- The test of a pattern, made now if it was not made before. -/
def test? (cache : TestCache) (pattern : String) : Option MatchTest × TestCache :=
  match cache.entries.lookup pattern with
  | some test? => (test?, cache)
  | none =>
    let test? := (MatchTest.ofPattern pattern).toOption
    (test?, ⟨(pattern, test?) :: cache.entries⟩)

/-- The first pattern whose test accepts a normalized input. -/
def find? (cache : TestCache) (input : String) : List String → Option String × TestCache
  | [] => (none, cache)
  | pattern :: patterns =>
    let (test?, cache) := cache.test? pattern
    if test?.any (·.accepts input) then (some pattern, cache) else cache.find? input patterns

end TestCache

/-- A pattern that accepts the input and the topic it is in. -/
structure Hit where
  topic : String
  pattern : String
deriving DecidableEq, Repr

/-- What happened in one topic: patterns tested, patterns without a test, and the
one that accepted. -/
structure SearchReport where
  topic : String
  tried : Nat := 0
  skipped : Nat := 0
  matched? : Option String := none
deriving DecidableEq, Repr

/-- Searches the patterns of a topic in order and counts them. -/
def TestCache.trace (cache : TestCache) (input : String) (search : SearchReport) :
    List String → SearchReport × TestCache
  | [] => (search, cache)
  | pattern :: patterns =>
    match cache.test? pattern with
    | (none, cache) => cache.trace input { search with skipped := search.skipped + 1 } patterns
    | (some test, cache) =>
      let search := { search with tried := search.tried + 1 }
      if test.accepts input then ({ search with matched? := some pattern }, cache)
      else cache.trace input search patterns

namespace RuleStore

variable {σ : Type} [RuleStore σ]

/-- Searches a topic, then the default topic if that is another one. -/
def find? (store : σ) (cache : TestCache) (input topic defaultTopic : String) :
    Option Hit × TestCache :=
  let input := normalize input
  match cache.find? input (patterns store topic) with
  | (some pattern, cache) => (some ⟨topic, pattern⟩, cache)
  | (none, cache) =>
    if topic = defaultTopic then (none, cache)
    else
      let (pattern?, cache) := cache.find? input (patterns store defaultTopic)
      (pattern?.map (⟨defaultTopic, ·⟩), cache)

/-- Searches as `find?` does, with a report of each topic searched. -/
def trace (store : σ) (cache : TestCache) (input topic defaultTopic : String) :
    List SearchReport × TestCache :=
  let input := normalize input
  let (first, cache) := cache.trace input { topic } (patterns store topic)
  if first.matched?.isSome || topic = defaultTopic then ([first], cache)
  else
    let (second, cache) := cache.trace input { topic := defaultTopic } (patterns store defaultTopic)
    ([first, second], cache)

end RuleStore

end Dialogue

import Dialogue.Expression.ByteRange
import Dialogue.Expression.Shape

/-!
The states of an automaton over bytes, in the order in which they are laid out, and what they cost
beyond their own size.
-/
namespace Dialogue

/-- Bytes for a state, for a labelled transition, and for a choice of next state. -/
def stateCost : Nat := 32
def transitionCost : Nat := 8
def choiceCost : Nat := 4

inductive Blueprint where
  /-- A number of states and what they cost beyond their own. -/
  | states (count extra : Nat)
  /-- One state for each byte. -/
  | literal (bytes : List Nat)
  /-- The states of a set, given by sequences of byte ranges. -/
  | set (seqs : List (List ByteRange))
  | both (a b : Blueprint)
  | times (n : Nat) (p : Blueprint)
deriving DecidableEq, Repr

namespace Blueprint

def all : List Blueprint → Blueprint
  | [] => .states 0 0
  | [p] => p
  | p :: ps => .both p (all ps)

/-- A state with some choices of the next one. -/
def fork (choices : Nat) : Blueprint :=
  .states 1 (choiceCost * choices)

/-- A state that is passed without a choice. -/
def joint : Blueprint :=
  .states 1 0

def literalBytes? : Blueprint → Option (List Nat)
  | .literal bytes => some bytes
  | _ => none

/-- The words that go on after their first byte, by that byte. -/
def afterByte (byte : Nat) (words : List (List Nat)) : List (List Nat) :=
  words.filterMap fun
    | b :: rest => if b = byte then some rest else none
    | [] => none

/-- Words in stretches that each end where a word ends, the last where the list does. -/
def splitEnds : List (List Nat) → List (List (List Nat))
  | [] => [[]]
  | w :: ws =>
    match splitEnds ws with
    | stretch :: rest => if w.isEmpty then [] :: stretch :: rest else (w :: stretch) :: rest
    | [] => [[w]]

/-- The stretches of a list of words; ends before any word count once. -/
def stretches (words : List (List Nat)) : List (List (List Nat)) :=
  let more := words.dropWhile (·.isEmpty)
  if more.length = words.length then splitEnds more else [] :: splitEnds more

/-- A tree that decides between words byte by byte. Where a word ends, the tree chooses between
ending and going on with the words that come later. -/
def tree : Nat → List (List Nat) → Blueprint
  | 0, _ => .states 0 0
  | depth + 1, words =>
    let parts := stretches words
    let nodes := parts.map fun words =>
      let bytes := (words.filterMap List.head?).eraseDups
      let subtrees := bytes.map fun b =>
        let rest := afterByte b words
        if rest.all (·.isEmpty) then .states 0 0 else tree depth rest
      let node := match bytes.length with
        | 0 => .states 0 0
        | 1 => .states 1 0
        | n => .states 1 (transitionCost * n)
      (bytes.length, .both (all subtrees) node)
    let choices := (nodes.filter (0 < ·.1)).length + (parts.length - 1)
    .both (all (nodes.map (·.2))) (fork choices)

/-- A choice. The first two branches come before the states that they share; if all are
literals, they are a tree. -/
def choice (forward : Bool) (ps : List Blueprint) : Blueprint :=
  match ps with
  | [] => joint
  | [p] => p
  | p :: q :: rest =>
    match ps.mapM literalBytes? with
    | some words =>
      let words := if forward then words else words.map List.reverse
      .both joint (tree ((words.map List.length).foldl max 0 + 1) words)
    | none => .both p (.both q (.both (fork ps.length) (.both joint (all rest))))

/-- A repetition of something that has a match without characters or not. -/
def many (p : Blueprint) (neverEmpty : Bool) (min : Nat) (max : Option Nat) : Blueprint :=
  match min, max with
  | 0, some 1 => .both (fork 2) (.both p joint)
  | 0, none =>
    if neverEmpty then .both (fork 2) p
    else .both p (.both (fork 2) (.both (fork 2) joint))
  | n, none => .both (.times n p) (fork 2)
  | n, some m =>
    if n = m then .times n p
    else
      .both (if n = 0 then joint else .times n p)
        (.both joint (.times (m - n) (.both (fork 2) p)))

def ofRanges (ranges : List (Nat × Nat)) : Blueprint :=
  if ranges.all (·.2 < 0x80) then .states 2 (transitionCost * ranges.length)
  else .set (ByteRange.ofRanges ranges)

/-- The blueprints of the branches of a shape. Captures are kept forward only. -/
def branchesOf (forward : Bool) : Shape → List Blueprint
  | .empty => [joint]
  | .literal codes => [.literal (codes.flatMap utf8Bytes)]
  | .set ranges => [ofRanges ranges]
  | .look _ => [joint]
  | .many s min max _ =>
    let p := choice forward (branchesOf forward s)
    [many p (s.leastLength?.any (0 < ·)) min max]
  | .capture _ s =>
    let p := choice forward (branchesOf forward s)
    [if forward then .both joint (.both p joint) else p]
  | .seq a b =>
    let p := choice forward (branchesOf forward a)
    let q := choice forward (branchesOf forward b)
    [if forward then .both p q else .both q p]
  | .alt a b => choice forward (branchesOf forward a) :: branchesOf forward b

def ofShape (forward : Bool) (s : Shape) : Blueprint :=
  choice forward (branchesOf forward s)

end Blueprint

end Dialogue

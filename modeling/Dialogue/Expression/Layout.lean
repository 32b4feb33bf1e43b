import Dialogue.Expression.Blueprint
import Std.Data.TreeMap.Basic

/-!
Laying out a blueprint within a limit of bytes. A set beyond ASCII shares states where its sequences of
bytes go on alike; states are known by their number, so what was laid out before a set decides which of
its states a table forgets. An expression that takes too much memory as an automaton, forward or backward,
is refused.
-/
namespace Dialogue

/-- A table with a fixed number of slots. The slot of a key depends on the key alone, and an entry takes the
place of the one before it, so that the table forgets but stays small. -/
structure SlotTable where
  slots : UInt64
  entries : Std.TreeMap Nat (List Nat × Nat)

namespace SlotTable

def empty (slots : UInt64) : SlotTable := ⟨slots, .empty⟩

/-- The hash of a key: its numbers are mixed in one by one. -/
def hash (key : List Nat) : UInt64 :=
  key.foldl (fun h n => (h ^^^ n.toUInt64) * 1099511628211) 14695981039346656037

def slot (t : SlotTable) (key : List Nat) : Nat :=
  (hash key % t.slots).toNat

/-- The value of a key whose entry is still there. -/
def find? (t : SlotTable) (key : List Nat) : Option Nat :=
  match t.entries.get? (t.slot key) with
  | some (k, value) => if k = key then some value else none
  | none => none

def insert (t : SlotTable) (key : List Nat) (value : Nat) : SlotTable :=
  { t with entries := t.entries.insert (t.slot key) (key, value) }

end SlotTable

/-- What has been laid out. The number of states is also the name of the next one. -/
structure Layout where
  states : Nat := 0
  bytes : Nat := 0
deriving DecidableEq, Repr

namespace Layout

/-- More states and what they cost beyond their own size, if the limit allows it. -/
def add (limit : Nat) (l : Layout) (count extra : Nat) : Option Layout :=
  let bytes := l.bytes + stateCost * count + extra
  if bytes ≤ limit then some ⟨l.states + count, bytes⟩ else none

/-- The state of a key: the one in the table, or a new one that goes into it. -/
def share (limit extra : Nat) (key : List Nat) (t : SlotTable) (l : Layout) :
    Option (Nat × SlotTable × Layout) :=
  match t.find? key with
  | some state => some (state, t, l)
  | none => (l.add limit 1 extra).map fun l' => (l.states, t.insert key l.states, l')

/-- Slots of the table for states with the same transitions. -/
def forwardSlots : UInt64 := 10000

/-- A state that accepts the sequences and goes on to `target`, after the states behind it. -/
def addNode (limit target : Nat) :
    Nat → List (List ByteRange) → SlotTable → Layout → Option (Nat × SlotTable × Layout)
  | 0, _, t, l => some (target, t, l)
  | depth + 1, seqs, t, l => do
    let groups := ByteRange.groupHeads seqs
    let (key, t, l) ← groups.foldlM (fun (key, t, l) g => do
      let (state, t, l) ←
        if g.2.all (·.isEmpty) then some (target, t, l) else addNode limit target depth g.2 t l
      some (state :: g.1.2 :: g.1.1 :: key, t, l)) ([], t, l)
    share limit (transitionCost * groups.length) key.reverse t l

/-- A set forward: equal states are shared. -/
def addForward (limit : Nat) (seqs : List (List ByteRange)) (l : Layout) : Option Layout := do
  let next ← l.add limit 1 0
  let (_, _, l) ← addNode limit l.states 4 seqs (.empty forwardSlots) next
  some l

/-- Slots of the table for states with the same range and the same next state. -/
def backwardSlots : UInt64 := 1000

/-- A set backward: a choice of all sequences, which share their beginnings. -/
def addBackward (limit : Nat) (seqs : List (List ByteRange)) (l : Layout) : Option Layout := do
  let next ← l.add limit 2 (choiceCost * seqs.length)
  let (_, l) ← seqs.foldlM (fun (t, l) seq => do
    let (_, t, l) ← seq.foldlM (fun (state, t, l) r => share limit 0 [state, r.1, r.2] t l)
      (next.states - 1, t, l)
    some (t, l)) (SlotTable.empty backwardSlots, next)
  some l

/-- `n` rounds of `f`, as long as each succeeds. -/
def repeatedly (f : Layout → Option Layout) : Nat → Layout → Option Layout
  | 0, l => some l
  | n + 1, l =>
    match f l with
    | some l => repeatedly f n l
    | none => none

/-- Lays out a blueprint after what has been laid out. -/
def addBlueprint (limit : Nat) (forward : Bool) : Blueprint → Layout → Option Layout
  | .states count extra, l => l.add limit count extra
  | .literal bytes, l => l.add limit bytes.length 0
  | .set seqs, l => if forward then addForward limit seqs l else addBackward limit seqs l
  | .both a b, l => (addBlueprint limit forward a l).bind fun l => addBlueprint limit forward b l
  | .times n p, l => repeatedly (fun l => addBlueprint limit forward p l) n l

end Layout

/-! ## Whole expressions -/

namespace Blueprint

/-- What skips any bytes before a match. -/
def skipping : Blueprint :=
  .both (fork 2) (.states 2 transitionCost)

/-- The automaton of a shape: a start, which skips bytes unless every match is bound
to its end of the text, the shape, forward as a capture, and a final state. -/
def ofWhole (forward : Bool) (s : Shape) : Blueprint :=
  let bound := if forward then s.opensWith .start else s.closesWith .stop
  let start := if bound then joint else skipping
  let body := ofShape forward s
  .both start (.both (if forward then .both joint (.both body joint) else body) joint)

end Blueprint

/-- Whether the automata of an expression fit into `limit` bytes both ways. -/
def Expression.fits (limit : Nat) (e : Expression) : Bool :=
  let s := Shape.ofExpression e
  [true, false].all fun forward =>
    (Layout.addBlueprint limit forward (Blueprint.ofWhole forward s) ⟨0, 0⟩).isSome

end Dialogue

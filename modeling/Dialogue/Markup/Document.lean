import Dialogue.Markup.Event
import Dialogue.Markup.Tree

/-! Building one tree from the events of a source text. -/
namespace Dialogue.Markup

/-- Why a source text is no document. -/
inductive Fault where
  | unreadable (fault : ReadFault)
  | malformed (fault : DocumentFault)
deriving DecidableEq, Repr

def Fault.message : Fault → String
  | .unreadable f => "xml: " ++ f.message
  | .malformed f => "malformed document: " ++ f.message

/-- A tree under construction: the open elements, innermost first with their children latest first,
and the root. -/
structure Draft where
  opened : List Element := []
  root? : Option Element := none
deriving DecidableEq, Repr

namespace Draft

/-- Adds a finished element to the innermost open one, or takes it as the root. -/
def attach (d : Draft) (e : Element) : Except Fault Draft :=
  match d.opened with
  | parent :: rest =>
    .ok { d with opened := { parent with children := e.toNode :: parent.children } :: rest }
  | [] =>
    match d.root? with
    | none => .ok { d with root? := some e }
    | some _ => .error (.malformed (.secondRoot e.name))

/-- Text joins the text just before it; empty text is none. -/
def addText (value : String) : List Node → List Node
  | .text last :: nodes => if value = "" then .text last :: nodes else .text (last ++ value) :: nodes
  | nodes => if value = "" then nodes else .text value :: nodes

/-- Text outside the root is dropped. -/
def write (d : Draft) (value : String) : Draft :=
  match d.opened with
  | [] => d
  | parent :: rest =>
    { d with opened := { parent with children := addText value parent.children } :: rest }

def elementOf (tag : Tag) : Except Fault Element := do
  let attributes ← tag.attributes.mapError .unreadable
  .ok { name := String.ofList tag.name, attributes }

def close (d : Draft) (name : String) : Except Fault Draft :=
  match d.opened with
  | [] => .error (.malformed (.unexpectedClose name))
  | e :: rest =>
    if e.name = name then
      attach { d with opened := rest } { e with children := e.children.reverse }
    else .error (.malformed (.mismatchedClose e.name name))

def step (d : Draft) : Event → Except Fault Draft
  | .opening tag => do
    let e ← elementOf tag
    .ok { d with opened := e :: d.opened }
  | .empty tag => do
    let e ← elementOf tag
    d.attach e
  | .closing name => d.close (String.ofList name)
  | .text raw =>
    if d.opened.isEmpty then .ok d
    else do
      let cs ← (decode raw).mapError (Fault.unreadable ∘ .reference)
      .ok (d.write (String.ofList cs))
  | .cdata content => .ok (d.write (String.ofList content))
  | .aside => .ok d

def finish (d : Draft) : Except Fault Element :=
  match d.opened with
  | e :: _ => .error (.malformed (.unclosed e.name))
  | [] =>
    match d.root? with
    | some root => .ok root
    | none => .error (.malformed .noRoot)

end Draft

/-- The tree of a reading: of a fault in the events and the fault that ends them,
the first counts. -/
def Reading.tree (r : Reading) : Except Fault Element := do
  let d ← r.events.foldlM Draft.step {}
  match r.fault? with
  | some fault => .error (.unreadable fault)
  | none => d.finish

def parse (source : String) : Except Fault Element :=
  (readEvents [] source.toList).tree

end Dialogue.Markup

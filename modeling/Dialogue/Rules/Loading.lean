import Dialogue.Error
import Dialogue.Markup.Print
import Dialogue.Rules.Index
import Dialogue.Text.Basic

/-!
Reading rules from a document. A rule takes its topic from its own `<topic>`, else from the `<topic>`
around it, else it belongs to the default topic.
-/
namespace Dialogue

open Markup (Element)

/-- The trimmed text of an element. -/
def trimmedText (e : Element) : String :=
  Text.trim e.wholeText

/-- The rule of a category element inside a topic. -/
def Category.read (topic : String) (e : Element) : Except Error Category :=
  match e.firstNamed? "pattern" with
  | none => .error (.badCategory (.noPattern e.markup))
  | some p =>
    match e.firstNamed? "template" with
    | none => .error (.badCategory (.noTemplate (trimmedText p)))
    | some _ =>
      .ok {
        topic := ((e.firstNamed? "topic").map trimmedText).getD topic
        pattern := trimmedText p
        that := ((e.firstNamed? "that").map trimmedText).getD ""
        node := e }

/-- What a child of the root contributes, in document order: rules, or faults in their place. -/
def entriesOf (defaultTopic : String) (e : Element) : List (Except Error Category) :=
  if e.name = "category" then [Category.read defaultTopic e]
  else if e.name = "topic" then
    match e.attribute? "name" with
    | none => [.error (.source (.malformed .unnamedTopic))]
    | some name => (e.elementsNamed "category").map (Category.read name)
  else []

/-- The entries of a document, whose root must be `<aiml>`. -/
def entries (defaultTopic source : String) : Except Error (List (Except Error Category)) :=
  match Markup.parse source with
  | .error fault => .error (.source fault)
  | .ok root =>
    if root.name = "aiml" then .ok (root.elements.flatMap (entriesOf defaultTopic))
    else .error (.source (.malformed (.wrongRoot root.name)))

namespace Index

/-- Adds entries up to the first fault; the number counts the rules added. -/
def insertAll (index : Index) (count : Nat) : List (Except Error Category) → Except Error Nat × Index
  | [] => (.ok count, index)
  | .error e :: _ => (.error e, index)
  | .ok c :: rest => insertAll (index.insert c) (count + 1) rest

/-- Adds the rules of a document and answers how many there are; rules before a fault stay. -/
def load (index : Index) (defaultTopic source : String) : Except Error Nat × Index :=
  match entries defaultTopic source with
  | .error e => (.error e, index)
  | .ok es => index.insertAll 0 es

/-- The index of a document alone. -/
def ofSource (defaultTopic source : String) : Except Error Index :=
  match Index.empty.load defaultTopic source with
  | (.ok _, index) => .ok index
  | (.error e, _) => .error e

end Index

end Dialogue

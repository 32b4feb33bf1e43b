/-! Markup trees: elements with ordered attributes and children, and runs of text. -/
namespace Dialogue.Markup

inductive Node where
  | text (value : String)
  | element (name : String) (attributes : List (String × String)) (children : List Node)
deriving Repr

mutual
def Node.decEq : (a b : Node) → Decidable (a = b)
  | .text v, .text w => if h : v = w then isTrue (by rw [h]) else isFalse (by simp [h])
  | .text _, .element .. => isFalse (by simp)
  | .element .., .text _ => isFalse (by simp)
  | .element m as cs, .element n bs ds =>
    if h : m = n ∧ as = bs then
      match Node.decEqList cs ds with
      | isTrue hc => isTrue (by rw [h.1, h.2, hc])
      | isFalse hc => isFalse (by simp [hc])
    else isFalse (by simp only [Node.element.injEq]; exact fun e => h ⟨e.1, e.2.1⟩)

def Node.decEqList : (as bs : List Node) → Decidable (as = bs)
  | [], [] => isTrue rfl
  | [], _ :: _ => isFalse (by simp)
  | _ :: _, [] => isFalse (by simp)
  | a :: as, b :: bs =>
    match Node.decEq a b, Node.decEqList as bs with
    | isTrue h, isTrue hs => isTrue (by rw [h, hs])
    | isFalse h, _ => isFalse (by simp [h])
    | _, isFalse hs => isFalse (by simp [hs])
end

instance : DecidableEq Node := Node.decEq

structure Element where
  name : String
  attributes : List (String × String) := []
  children : List Node := []
deriving Repr, DecidableEq

namespace Node

/-- The node as an element; a run of text is none. -/
def element? : Node → Option Element
  | .text _ => none
  | .element name attributes children => some ⟨name, attributes, children⟩

end Node

mutual
/-- All text below a node, in document order. -/
def Node.wholeText : Node → String
  | .text value => value
  | .element _ _ children => Node.wholeTextOfAll children

def Node.wholeTextOfAll : List Node → String
  | [] => ""
  | n :: ns => n.wholeText ++ Node.wholeTextOfAll ns
end

namespace Element

def toNode (e : Element) : Node :=
  .element e.name e.attributes e.children

def elements (e : Element) : List Element :=
  e.children.filterMap Node.element?

theorem toNode_mem_of_mem_elements {e child : Element} (h : child ∈ e.elements) :
    child.toNode ∈ e.children := by
  obtain ⟨n, hn, hc⟩ := List.mem_filterMap.mp h
  cases n with
  | text => cases hc
  | element name attributes children =>
      obtain rfl := Option.some.inj hc
      exact hn

/-- The child elements of one name, in document order. -/
def elementsNamed (e : Element) (name : String) : List Element :=
  e.elements.filter (·.name == name)

/-- The first child element of a name. -/
def firstNamed? (e : Element) (name : String) : Option Element :=
  e.elements.find? (·.name == name)

/-- The value of the first attribute with a key. -/
def attribute? (e : Element) (key : String) : Option String :=
  e.attributes.lookup key

/-- All text below an element, in document order. -/
def wholeText (e : Element) : String :=
  Node.wholeTextOfAll e.children

end Element

end Dialogue.Markup

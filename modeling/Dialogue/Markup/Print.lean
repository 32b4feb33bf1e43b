import Dialogue.Markup.Tree

/-! Writing trees back as markup. -/
namespace Dialogue.Markup

def escapeTextChar : Char → List Char
  | '<' => "&lt;".toList
  | '>' => "&gt;".toList
  | '&' => "&amp;".toList
  | c => [c]

def escapeAttributeChar : Char → List Char
  | '\'' => "&apos;".toList
  | '"' => "&quot;".toList
  | c => escapeTextChar c

/-- Text between tags keeps its quotes. -/
def escapeText (cs : List Char) : List Char :=
  cs.flatMap escapeTextChar

def escapeAttribute (cs : List Char) : List Char :=
  cs.flatMap escapeAttributeChar

def writeAttribute (a : String × String) : List Char :=
  ' ' :: a.1.toList ++ '=' :: '"' :: escapeAttribute a.2.toList ++ ['"']

def writeTag (name : String) (attributes : List (String × String)) : List Char :=
  name.toList ++ attributes.flatMap writeAttribute

mutual
/-- An element without children is written as one empty tag. -/
def Node.write : Node → List Char
  | .text value => escapeText value.toList
  | .element name attributes [] => '<' :: writeTag name attributes ++ ['/', '>']
  | .element name attributes (child :: children) =>
    '<' :: writeTag name attributes ++ '>' ::
      (child.write ++ Node.writeAll children ++ '<' :: '/' :: name.toList ++ ['>'])

def Node.writeAll : List Node → List Char
  | [] => []
  | n :: ns => n.write ++ Node.writeAll ns
end

def Node.markup (n : Node) : String :=
  String.ofList n.write

/-- Text children are taken as they are, element children as markup. -/
def Node.source : Node → List Char
  | .text value => value.toList
  | n => n.write

namespace Element

def markup (e : Element) : String :=
  e.toNode.markup

/-- The children as markup, without the tag around them. -/
def contentMarkup (e : Element) : String :=
  String.ofList (Node.writeAll e.children)

/-- The children as pattern text: text unescaped, elements as markup. -/
def contentSource (e : Element) : String :=
  String.ofList (e.children.flatMap Node.source)

end Element

end Dialogue.Markup

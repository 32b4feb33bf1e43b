import Dialogue.Markup.Fault
import Dialogue.Text.Basic

/-! Resolving the references of character data: the five named entities and character numbers. -/
namespace Dialogue.Markup

def byteCount : List Char → Nat
  | [] => 0
  | c :: cs => c.utf8Size + byteCount cs

def entity? : List Char → Option Char
  | ['l', 't'] => some '<'
  | ['g', 't'] => some '>'
  | ['a', 'm', 'p'] => some '&'
  | ['a', 'p', 'o', 's'] => some '\''
  | ['q', 'u', 'o', 't'] => some '"'
  | _ => none

/-- Reads on from the value of the digits so far; the first fault from the left is
the one reported. -/
def readDigits (base : Nat) : Nat → List Char → Except NumberFault Nat
  | value, [] => .ok value
  | value, c :: cs =>
    match Text.digit? base c with
    | none => .error .invalidDigit
    | some d =>
      if UInt32.size ≤ value * base + d then .error .tooLarge else readDigits base (value * base + d) cs

def readNumber (base : Nat) : List Char → Except NumberFault Nat
  | [] => .error .noDigits
  | '+' :: _ => .error .signed
  | '-' :: _ => .error .signed
  | cs => readDigits base 0 cs

/-- The character of a number written in decimal, or after `x` in hexadecimal. -/
def numbered (cs : List Char) : Except NumberFault Char := do
  let n ← match cs with
    | 'x' :: hex => readNumber 16 hex
    | _ => readNumber 10 cs
  if n = 0 then .error .null
  else if h : n.isValidChar then .ok (Char.ofNatAux n h)
  else .error (.notACodePoint n)

/-- The character that `name` stands for between `&` at byte `start` and its `;`. -/
def resolve (start : Nat) (name : List Char) : Except ReferenceFault Char :=
  match name with
  | '#' :: number => (numbered number).mapError .number
  | _ =>
    match entity? name with
    | some c => .ok c
    | none => .error (.unknownEntity (start + 1) (start + 1 + byteCount name) (String.ofList name))

mutual
/-- Resolves references from byte `pos` on, in a text of `size` bytes. -/
def decodeFrom (size pos : Nat) : List Char → Except ReferenceFault (List Char)
  | [] => .ok []
  | c :: cs =>
    if c = '&' then decodeName size pos [] cs
    else (c :: ·) <$> decodeFrom size (pos + c.utf8Size) cs

/-- Inside a reference that starts at byte `start`; `seen` is its name so far,
latest character first. -/
def decodeName (size start : Nat) (seen : List Char) : List Char → Except ReferenceFault (List Char)
  | [] => .error (.unterminated start size)
  | c :: cs =>
    if c = ';' then do
      let x ← resolve start seen.reverse
      (x :: ·) <$> decodeFrom size (start + byteCount seen + 2) cs
    else if c = '&' then .error (.unterminated start size)
    else decodeName size start (c :: seen) cs
end

def decode (cs : List Char) : Except ReferenceFault (List Char) :=
  decodeFrom (byteCount cs) 0 cs

end Dialogue.Markup

import Dialogue.Session.Interpreter

/-! Reports of how inputs were matched, and how long it took. -/
namespace Dialogue.Console

inductive Style where
  | heading
  | hit
  | warning
  | topic
  | muted
deriving DecidableEq, Repr

/-- The escape sequence that turns a style on. -/
def Style.code : Style → String
  | .heading => "\x1b[1;36m"
  | .hit => "\x1b[1;32m"
  | .warning => "\x1b[33m"
  | .topic => "\x1b[34m"
  | .muted => "\x1b[2m"

/-- Text in a style, if styles are wanted. -/
def paint (color : Bool) (style : Style) (s : String) : String :=
  if color then style.code ++ s ++ "\x1b[0m" else s

def lines (ls : List String) : String :=
  String.join (ls.map (· ++ "\n"))

/-- Decimal digits after a point, without zeros at the end; `places` digits stand for `n`. -/
def fraction (places n : Nat) : String :=
  let digits := (Nat.toDigits 10 n).leftpad places '0'
  let kept := (digits.reverse.dropWhile (· = '0')).reverse
  if kept.isEmpty then "" else "." ++ String.ofList kept

/-- A number of units of which each is `10` to the power `places` parts. -/
def scaled (places n : Nat) : String :=
  let unit := Nat.pow 10 places
  toString (n / unit) ++ fraction places (n % unit)

/-- Nanoseconds in the largest unit of which there is one at least. -/
def durationText (ns : Nat) : String :=
  if 1000000000 ≤ ns then scaled 9 ns ++ "s"
  else if 1000000 ≤ ns then scaled 6 ns ++ "ms"
  else if 1000 ≤ ns then scaled 3 ns ++ "µs"
  else scaled 0 ns ++ "ns"

/-- How long each search took, and all of them, as text. -/
structure Timing where
  searches : List String
  total : String
deriving DecidableEq, Repr

def loadedReport (color : Bool) (file : String) (topics categories : Nat) : String :=
  lines [
    " ".intercalate [
      paint color .heading "⚙  Loaded", paint color .warning file ++ " ",
      paint color .muted "topics:", paint color .topic (toString topics) ++ " ",
      paint color .muted "categories:", paint color .topic (toString categories)]]

def searchLine (color : Bool) (search : SearchReport) (elapsed : String) : String :=
  let outcome := match search.matched? with
    | some pattern => paint color .hit ("✓ " ++ pattern)
    | none => paint color .muted "✗ no match"
  let skipped :=
    if 0 < search.skipped then paint color .warning (" (" ++ toString search.skipped ++ " skipped)")
    else ""
  "  " ++ paint color .topic (search.topic ++ ":") ++ " " ++ outcome ++ " " ++
    paint color .muted ("tried " ++ toString search.tried) ++ skipped ++ "  " ++
    paint color .muted elapsed

def patternKind (pattern : String) : String :=
  let wildcards := WildcardSet.ofPattern pattern
  if wildcards.isLiteral then "literal" else wildcards.describe

def resultLines (color : Bool) (details : Explanation) : List String :=
  match details.topic? with
  | some topic =>
    ["  " ++ " ".intercalate [
      paint color .hit details.pattern, paint color .muted "│ topic:", paint color .topic topic,
      paint color .muted ("│ " ++ patternKind details.pattern)]]
  | none =>
    ["  " ++ paint color .muted
        ("No pattern matched, falling back to \"" ++ catchAll ++ "\""),
      "",
      paint color .warning "Possible reasons:",
      "  • Patterns are expected in uppercase",
      "  • The rule lives in a topic that is not active",
      "  • The pattern failed to translate (see warnings)"]

def matchReport (color : Bool) (input : String) (details : Explanation) (timing : Timing) : String :=
  lines (
    ["", paint color .heading ("⚙  Matching: \"" ++ input ++ "\""),
      "  " ++ paint color .muted "normalized:" ++ " " ++ details.input,
      "", paint color .muted "━━━ Topics ━━━"] ++
    List.zipWith (searchLine color) details.searches timing.searches ++
    ["", paint color .muted "━━━ Result ━━━"] ++
    resultLines color details ++
    ["", paint color .muted "━━━ Timing ━━━",
      "  Total: " ++ paint color .hit timing.total, ""])

end Dialogue.Console

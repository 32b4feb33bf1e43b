import Dialogue.Console.Conversation

/-! The program: arguments, files, the two outputs, and the clock. -/
namespace Dialogue.Console

def readFile (file : String) : IO (Except FileFault (List UInt8)) := do
  try
    let bytes ← IO.FS.readBinFile file
    return .ok bytes.toList
  catch
    | .noFileOrDirectory .. => return .error .notFound
    | .permissionDenied .. => return .error .permissionDenied
    -- a path through a file cannot be opened, a directory cannot be read
    | .inappropriateType (some _) .. => return .error .notADirectory
    | .inappropriateType none .. => return .error .isADirectory
    | .invalidArgument _ _ "name too long" => return .error .nameTooLong
    | e => return .error (.other (toString e))

def write (output : Output) : IO Unit := do
  let err ← IO.getStderr
  err.putStr output.err
  err.flush
  let out ← IO.getStdout
  out.putStr output.out
  out.flush

/-- Runs an action and takes its time. -/
def timed {α : Type} (action : Unit → α) : IO (α × Nat) := do
  let start ← IO.monoNanosNow
  let a ← IO.lazyPure action
  let stop ← IO.monoNanosNow
  return (a, stop - start)

/-- The time that each search of a line takes. -/
def timeOf (c : Conversation) (line : String) : IO Timing := do
  let ((details, _), total) ← timed fun _ => c.bot.explain line c.topic c.that
  let mut searches := []
  for search in details.searches do
    let (_, elapsed) ← timed fun _ =>
      c.bot.cache.trace details.input { topic := search.topic } (c.bot.index.patterns search.topic)
    searches := searches ++ [durationText elapsed]
  return { searches, total := durationText total }

/-- Answers lines as they come; `pending` is the beginning of a line. -/
partial def converse (c : Conversation) (pending : List UInt8) : IO UInt32 := do
  let chunk ← (← IO.getStdin).read 4096
  let ended := chunk.isEmpty
  let bytes := pending ++ chunk.toList
  let complete := (bytes.reverse.dropWhile (· ≠ 10)).reverse
  let rest := (bytes.reverse.takeWhile (· ≠ 10)).reverse
  let mut c := c
  for line in splitLines (if ended then bytes else complete) do
    match textOf? line with
    | none =>
      write { err := "error: " ++ notText ++ "\n" }
      return 1
    | some text =>
      let timing ← if c.trace then timeOf c text else pure ⟨[], ""⟩
      let (next, output) := c.turn (fun _ => timing) text
      write output
      c := next
  if ended then return 0 else converse c rest

/-- Runs the program and answers its exit code. -/
def program (arguments : List String) : IO UInt32 := do
  let entropy ← IO.getRandomBytes 8
  let seed := entropy.toList.foldl (fun n b => n * 256 + b.toUInt64) 0
  let color ← (← IO.getStdout).isTty
  let content ← match Request.read color arguments with
    | .ok (.talk settings) => readFile settings.file
    | _ => pure (.error .notFound)
  match start color arguments (fun _ => content) seed with
  | .over ending =>
    write ending.output
    return ending.code.toUInt32
  | .talking conversation output =>
    write output
    converse conversation []

end Dialogue.Console

def main (arguments : List String) : IO UInt32 :=
  Dialogue.Console.program arguments

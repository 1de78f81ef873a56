import Famicom.Headless

/-!
# The program

The headless runner on the files of the system.
-/

namespace Famicom.Headless

/-- Why a file could not be read or written. The system gives some causes one name, so their
numbers tell them apart. -/
def reasonOf : IO.Error → String
  | .noFileOrDirectory .. => Storage.Refusal.notFound.message
  | .inappropriateType _ 20 _ => Storage.Refusal.notFolder.message
  | .inappropriateType .. => Storage.Refusal.isFolder.message
  | .invalidArgument _ 36 _ => Storage.Refusal.nameTooLong.message
  | e => toString e

/-- Prints an outcome and returns its exit code. -/
def conclude (o : CommandLine.Outcome) : IO UInt32 := do
  IO.print o.output
  match o.complaint with
  | none => return o.code
  | some text =>
    IO.eprintln text
    return o.code

end Famicom.Headless

open Famicom

def main (words : List String) : IO UInt32 := do
  match Headless.plan words with
  | .error outcome => Headless.conclude outcome
  | .ok options =>
    let content ← try
        pure (.ok (← IO.FS.readBinFile options.image))
      catch e => pure (.error (Headless.reasonOf e))
    let play := Headless.play options content
    IO.sleep (play.delay / Console.millisecond).toUInt32
    let written ← match play.screenshot with
      | none => pure (.ok ())
      | some (path, content) =>
        try
          IO.FS.writeBinFile path content
          pure (.ok ())
        catch e => pure (.error (Headless.reasonOf e))
    Headless.conclude (Headless.finish play written)

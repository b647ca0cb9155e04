/-
# AdmissionGate.Main -- the command line

Check a captured review: `check [FILE]`.  Without a file, or with `-`, the review is
read from standard input.  `WHITELISTED_USERS` lists the users that may change
managed resources, and `ADMISSION_LOG_VERBOSITY` sets how much the gate logs.
-/
import AdmissionGate.Check
import AdmissionGate.Encoding.Encode

open AdmissionGate

namespace AdmissionGate.Main

/-- The text that a string of characters spells. -/
def settingOf (name : String) : IO (Option Text) := do
  return (← IO.getEnv name).map Text.ofString

/-- Write a text in UTF-8. -/
def write (stream : IO.FS.Stream) (t : Text) : IO Unit := do
  stream.write ⟨(Encoding.encode .utf8 t).toArray⟩
  stream.flush

/-- The bytes of standard input from here on. -/
partial def readAll (stream : IO.FS.Stream) (read : ByteArray) : IO ByteArray := do
  let more ← stream.read 65536
  if more.isEmpty then return read
  readAll stream (read ++ more)

/-- The input that the arguments name. -/
def input (arguments : List String) : IO (Check.Source × Bytes) := do
  match arguments with
  | [] | "-" :: _ => return (.stream, (← readAll (← IO.getStdin) .empty).toList)
  | path :: _ => return (.file, (← IO.FS.readBinFile path).toList)

end AdmissionGate.Main

/-- Check a review; a fault without an exit code ends the program with 1. -/
def main (arguments : List String) : IO UInt32 := do
  let users ← Main.settingOf "WHITELISTED_USERS"
  let verbosity ← Main.settingOf "ADMISSION_LOG_VERBOSITY"
  let (source, bytes) ← Main.input arguments
  let report := Check.run ⟨users, verbosity⟩ source bytes
  Main.write (← IO.getStdout) report.output
  let errors ← IO.getStderr
  Main.write errors report.errors
  match report.ending with
  | .exit code => return UInt32.ofNat code
  | .fault cause =>
    Main.write errors (cause.message ++ "\n")
    return 1

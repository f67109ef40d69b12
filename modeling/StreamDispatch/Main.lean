import StreamDispatch.Cli.Run
import StreamDispatch.Node.Peers
import Std.Time.Format

/-!
# The `stream-dispatcher` program

Reads the command line, runs it against this machine (its files and clock; every worker and
power strip is reached over the network, and none answers), prints what the run printed and
exits with its status.
-/

namespace StreamDispatch.Program

open Time

/-- The text the system gives for a file that cannot be read. -/
def readFailure : IO.Error → String
  | .noFileOrDirectory _ _ _ => "No such file or directory (os error 2)"
  | .permissionDenied _ _ _ => "Permission denied (os error 13)"
  | e => toString e

/-- The text of a file, or why it cannot be read. -/
def fileText (path : String) : IO (Except String String) := do
  try pure (.ok (← IO.FS.readFile path))
  catch e => pure (.error (readFailure e))

/-- The present instant. -/
def present : IO Instant := do
  let ts ← Std.Time.Timestamp.now
  pure (Instant.ofUnixNanos ts.toNanosecondsSinceUnixEpoch.val)

/-- A job id: 32 hexadecimal digits in groups of 8, 4, 4, 4 and 12, drawn from a start value
and the job's number. -/
def jobId (start n : Nat) : String :=
  let v := (start * 6364136223846793005 + (n + 1) * 1442695040888963407) % Nat.pow 2 128
  let hex := String.ofList ((Nat.toDigits 16 (v + Nat.pow 2 128)).drop 1)
  let part (i k : Nat) : String := ((hex.drop i).take k).toString
  part 0 8 ++ "-" ++ part 8 4 ++ "-4" ++ part 13 3 ++ "-" ++ part 16 4 ++ "-" ++ part 20 12

end StreamDispatch.Program

open StreamDispatch in
/-- Runs the program with the given arguments. -/
def main (args : List String) : IO UInt32 := do
  let seedFile : Option String := Cli.seedArgument args
  let contents ← match seedFile with
    | some path => Program.fileText path
    | none => pure (.error "")
  let now ← Program.present
  let start ← IO.monoNanosNow
  let host : Cli.Host := {
    fileText := fun path => if some path = seedFile then contents else .error ""
    canListen := fun _ => true
    now := now
    answer := unreachableWorkers
    switch := unreachableStrips
    jobIdOf := Program.jobId start }
  let out := host.run args
  IO.print out.stdout
  IO.eprint out.stderr
  pure out.exit.toUInt32

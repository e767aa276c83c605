import ReleaseControl.CommandLine.Report
import Std.Time.Zoned

/-!
# The command line

Reads what a command needs, and writes its report.
-/

open ReleaseControl

namespace ReleaseControl

/-- The rest of a stream. -/
partial def readStream (s : IO.FS.Stream) (read : ByteArray) : IO ByteArray := do
  let more ← s.read 65536
  if more.isEmpty then return read else readStream s (read ++ more)

/-- The text of a file, or of the standard input, if it can be read. -/
def readText? (file : String) : IO (Option String) := do
  try
    if file = standardInput then
      return String.fromUTF8? (← readStream (← IO.getStdin) .empty)
    else
      return some (← IO.FS.readFile file)
  catch _ => return none

def readClock : IO Instant := do
  let nanos := (← Std.Time.Timestamp.now).toNanosecondsSinceUnixEpoch.val.toNat
  return (Instant.ofUnix? nanos).getD default

/-- The report of a command. Without a cluster there is nobody to ask for a status. -/
def Command.run : Command → IO Report
  | .summarize file => do
    let text ← readText? file
    return Report.summary (← readClock) file text
  | .status _ _ => return Report.ofError .noCluster
  | .definition => return Report.definition

end ReleaseControl

/-- Runs the command that the arguments ask for. -/
def main (args : List String) : IO UInt32 := do
  let report ← match Command.ofArguments args with
    | .ok command => command.run
    | .error r => pure (Report.refusal r)
  IO.print report.output
  IO.eprint report.complaint
  return report.exitCode.toUInt32

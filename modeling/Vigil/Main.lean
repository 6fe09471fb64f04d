import Std.Time.DateTime.Timestamp
import Vigil.Daemon

/-!
# The command

Runs the daemon over the files of the working directory. Lines of the standard input
tell it what to do: `reload` reads the configuration again, and `stop` or the end of
the input ends it. Files are read into a tree before the daemon looks at them, and what
the daemon changes in the tree is changed in the directory.
-/

namespace Vigil.Main

/-- The components of a path from the root. -/
def placeOf (path : String) : Place := (Files.components path).filter (· ≠ "")

/-- The path of a place. -/
def pathOf (place : Place) : String := "/" ++ "/".intercalate place

/-- Whether something can be opened at a path. -/
def canOpen (path : String) : IO Bool := do
  try
    discard (IO.FS.Handle.mk path .read)
    return true
  catch _ => return false

/-- Adds a file to a tree, and its directory, as far as they are there. -/
def readInto (directory : Place) (files : Files) (path : String) : IO Files := do
  let full := Config.join (pathOf directory) path
  let parent := Config.directory full
  let files := if ← canOpen parent then { files with made := placeOf parent :: files.made } else files
  try
    let bytes ← IO.FS.readBinFile full
    return files.place [] full bytes.toList
  catch _ => return files

/-- The tree of the paths that the daemon looks at, beginning with some of them. -/
partial def readTree (environment : Environment) (host : Host) (known : List String) : IO Host := do
  let files ← known.foldlM (readInto host.directory) (Files.withDirectory host.directory)
  let host := { host with files := files }
  let all := (known ++ Daemon.paths environment host).eraseDups
  if all.length = known.length then return host else readTree environment host all

/-- Makes the changes between two trees in the directory. -/
def writeTree (before after : Files) : IO Unit := do
  for place in before.contents.keys do
    unless after.contents.contains place do IO.FS.removeFile (pathOf place)
  for (place, bytes) in after.contents.entries do
    if before.contents.get? place ≠ some bytes then
      IO.FS.writeBinFile (pathOf place) ⟨bytes.toArray⟩

/-- Prints lines. -/
def say (lines : List String) : IO Unit := lines.forM fun line => IO.println line

/-- Prints the lines of a step and writes the files that it changed. -/
def finish (before : Daemon) (step : Daemon × List String) : IO Daemon := do
  say step.2
  writeTree before.run.host.files step.1.run.host.files
  return step.1

/-- The number of the process. -/
def processId : IO Nat := do
  let status ← IO.FS.readFile "/proc/self/stat"
  return ((String.ofList (status.toList.takeWhile Char.isDigit)).toNat?).getD 0

/-- Reads a line of the standard input beside the daemon. -/
def awaitLine : IO (Task (Except IO.Error String)) := IO.asTask do (← IO.getStdin).getLine

/-- Reads the configuration again. -/
def reload (daemon : Daemon) : IO Daemon := do
  let known := daemon.run.reactor.options.pidfile.toList
  let host ← readTree daemon.environment daemon.run.host known
  let current := daemon.changeFiles fun _ => host.files
  finish current current.reload

/-- Lets the daemon run until it is told to stop. -/
partial def serve (daemon : Daemon) (start : Nat) (line : Task (Except IO.Error String)) :
    IO Unit := do
  IO.sleep 50
  let elapsed := (← IO.monoMsNow) - start
  let daemon ← finish daemon (daemon.advance (elapsed - daemon.run.clock))
  if ← IO.hasFinished line then
    match line.get with
    | .ok "reload\n" => serve (← reload daemon) start (← awaitLine)
    | .ok "" | .ok "stop\n" | .error _ => discard (finish daemon daemon.stop)
    | .ok _ => serve daemon start (← awaitLine)
  else serve daemon start line

/-- Starts the daemon; the code is that of the command. -/
def run : IO UInt32 := do
  let environment : Environment :=
    ⟨← IO.getEnv "BEACON_CONFIG", ← IO.getEnv "BEACON_GRAPHITE_URL", ← IO.getEnv "BEACON_PIDFILE",
      ← IO.getEnv "RUST_LOG"⟩
  let directory := placeOf (← IO.currentDir).toString
  let empty : Host := ⟨Files.withDirectory directory, directory, ← processId⟩
  let host ← readTree environment empty []
  let now := (← Std.Time.Timestamp.now).toMillisecondsSinceUnixEpoch.val
  match Daemon.start environment host now with
  | (lines, .error fault) =>
      say lines
      IO.eprintln ("Error: " ++ fault.message)
      return 1
  | (lines, .ok daemon) =>
      say lines
      writeTree host.files daemon.run.host.files
      serve daemon (← IO.monoMsNow) (← awaitLine)
      return 0

end Vigil.Main

/-- Runs the daemon. -/
def main : IO UInt32 := Vigil.Main.run

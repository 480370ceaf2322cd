import MailQuery.Cli.Run
import Std.Time.DateTime.Timestamp

/-!
# The program

The outer layer: it reads the files that a run needs, runs the command on them, writes what has changed and
prints the answer.
-/

namespace MailQuery.Cli

/-- A number that changes with the content of a file. It takes the place of the moment at which the file was
last changed, which is not asked for here. -/
def contentStamp (data : Bytes) : Int64 :=
  Int64.ofNat (Binary.ofLittleEndian ((Digest.sha256 data).take 7))

/-- The disk with what a path leads to. What can be opened but not read is a directory. -/
def readPath (disk : Disk) (path : String) : IO Disk := do
  if path.isEmpty then return disk
  match ← (IO.FS.readBinFile path).toBaseIO with
  | .ok data =>
    let bytes := data.toList
    return disk.write path.toList ⟨bytes, contentStamp bytes⟩
  | .error (.noFileOrDirectory ..) => return disk
  | .error _ => return disk.makeDirectory path.toList

/-- Writes the files of a disk that another one does not have. A file that cannot be written is left
out. -/
def writeChanges (before after : Disk) : IO Unit := do
  for (path, file) in after.files do
    if (before.file? path).map (·.data) != some file.data then
      let parent := String.ofList (Path.splitLast path).2.reverse
      if !parent.isEmpty then
        let _ ← (IO.FS.createDirAll parent).toBaseIO
      let _ ← (IO.FS.writeBinFile (String.ofList path) file.data.toByteArray).toBaseIO

/-- A directory below the one that a variable names, or below the home directory. -/
def directoryOf (name inHome : String) : IO String := do
  match ← IO.getEnv name with
  | some dir => return dir ++ "/mailsearch"
  | none => return ((← IO.getEnv "HOME").getD ".") ++ inHome ++ "/mailsearch"

/-- What is known when the program starts. -/
def environment : IO Environment := do
  let now ← Std.Time.Timestamp.now
  let directory := (← IO.getEnv "PWD").getD "/"
  let settings ← directoryOf "XDG_CONFIG_HOME" "/.config"
  let configPath := (← IO.getEnv "MAILSEARCH_CONFIG").getD (settings ++ "/config.toml")
  let cacheDirectory ← directoryOf "XDG_CACHE_HOME" "/.cache"
  return { now := Int64.ofInt now.toSecondsSinceUnixEpoch.val, directory, configPath, cacheDirectory }

end MailQuery.Cli

open MailQuery Cli

/-- Runs the program on its arguments. -/
def main (args : List String) : IO UInt32 := do
  let env ← environment
  let settings ← readPath .empty env.configPath
  let mut disk := settings
  for path in pathsOf env (configAt env settings) args do
    disk ← readPath disk path
  let start ← IO.monoNanosNow
  let result := run env disk args
  writeChanges disk result.disk
  let nanos := (← IO.monoNanosNow) - start
  IO.print (result.output ⟨toString (nanos / 1000000), durationText nanos⟩)
  match result.failure with
  | some failure => IO.eprint ("Error: " ++ failure.message ++ "\n")
  | none => if result.code = 2 then IO.eprint "error: wrong arguments\n"
  return UInt32.ofNat result.code

import Std.Time.DateTime.Timestamp
import WaybillBoard.CommandLine.Run

/-!
The program: reads what the arguments need, carries them out and prints.
-/

namespace WaybillBoard.CommandLine

def variableNames : List String :=
  ["KA9S_CONFIG_DIR", "KA9S_API_URL", "KA9S_REQUEST_TIMEOUT", "KA9S_DEFAULT_NAMESPACE",
    "XDG_CONFIG_HOME", "HOME"]

def environment : IO Environment :=
  variableNames.filterMapM fun name => do return (← IO.getEnv name).map (name, ·)

def contentOf (path : String) : IO FileContent := do
  try
    let content ← IO.FS.readBinFile path
    return .octets content.toList
  catch
    | .noFileOrDirectory .. => return .missing
    | _ => return .directory

def now : IO Time.Instant := do
  let nanos := (← Std.Time.Timestamp.now).toNanosecondsSinceUnixEpoch.val
  return ⟨nanos / Time.nanosPerSecond, (nanos % Time.nanosPerSecond).toNat⟩

/-- The machine with the files that an invocation may read. -/
def machine (i : Invocation) : IO Machine := do
  let env ← environment
  let paths := ConfigFile.pathIn env :: i.fromFile.toList
  let files ← paths.mapM fun path => do return (path, ← contentOf path)
  return { env, file := fun path => (files.lookup path).getD .missing, now := ← now }

/-- Writes beside the file first, so that it is never there in part. -/
def save (env : Environment) (file : ConfigFile) : IO Unit := do
  match file.content with
  | .octets content =>
    let directory := ConfigFile.directory env
    IO.FS.createDirAll (if directory.isEmpty then "." else directory)
    let beside := file.path ++ ".new"
    IO.FS.writeBinFile beside content.toByteArray
    IO.FS.rename beside file.path
  | _ => return

def usageText : String :=
  "Usage: ka9s [OPTIONS] [COMMAND]\n\nCommands:\n"
    ++ "  status   Print Waybill status once and exit\n"
    ++ "  config   Configuration management: get, set, list, path, validate\n"
    ++ "  version  Show version information\n  help     Print this message\n\nOptions:\n"
    ++ "  --api-url, --namespace (-n), --from-file, --refresh, --debug (-d), --help (-h)\n\n"
    ++ "Options of status:\n"
    ++ "  --query (-q), --filter (-f), --expand (-e), --output (-o)\n"

def usage (u : Usage) : IO UInt32 := do
  match u with
  | .help =>
    (← IO.getStdout).putStr usageText
    return 0
  | .mistake =>
    (← IO.getStderr).putStr usageText
    return 2

def perform (i : Invocation) : IO UInt32 := do
  let m ← machine i
  let e := m.run i
  if let some file := e.saved then save m.env file
  (← IO.getStdout).putStr e.out
  (← IO.getStderr).putStr e.err
  return e.code.toUInt32

end WaybillBoard.CommandLine

open WaybillBoard.CommandLine in
def main (args : List String) : IO UInt32 := do
  match Invocation.read args with
  | .error u => usage u
  | .ok i => perform i

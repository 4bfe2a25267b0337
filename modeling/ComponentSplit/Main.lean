import ComponentSplit.Command.Split
import ComponentSplit.Settings.Environment

namespace ComponentSplit.Program

def settingVariables : List String :=
  ["SFC_MAX_CONCURRENT_DOCUMENTS", "SFC_OUTPUT_ENCODING", "SFC_FALLBACK_EXTENSION"]

def readSettingVariables : IO (List (String × String)) := do
  let values ← settingVariables.mapM fun name => do
    return (← IO.getEnv name).map fun value => (name, value)
  return values.filterMap id

/-- The files below a directory, with their places. -/
partial def readTree (directory : Place) : IO (List (Place × ByteArray)) := do
  let mut found := []
  for entry in ← (← IO.currentDir) / ("/" ++ "/".intercalate directory) |>.readDir do
    let place := directory ++ [entry.fileName]
    if ← entry.path.isDir then found := found ++ (← readTree place)
    else found := found ++ [(place, ← IO.FS.readBinFile entry.path)]
  return found

/-- Write the files that are not as they were before. -/
def writeChanges (before after : FileTree) : IO Unit := do
  for (place, bytes) in after.files do
    if before.file? place != some bytes then
      IO.FS.createDirAll ("/" ++ "/".intercalate place.dropLast)
      IO.FS.writeBinFile ("/" ++ "/".intercalate place) bytes

/-- Run the command line on the files below the working directory. -/
def run (args : List String) : IO UInt32 := do
  let cwd : Place := Place.ofPath [] (← IO.currentDir).toString.toList
  let tree : FileTree := { cwd, files := ← readTree cwd }
  let dotenv := (tree.file? (cwd ++ [".env"])).bind String.fromUTF8?
  match Settings.ofEnvironment (← readSettingVariables) dotenv with
  | .error faults =>
    for fault in faults do
      IO.eprintln ("bad setting: " ++ ".".intercalate fault.field)
    return 1
  | .ok settings =>
    match Command.run "component-split" tree settings settings.maxConcurrentDocuments args with
    | .error failure =>
      IO.eprintln failure.message
      return 1
    | .ok ending =>
      for entry in ending.log do
        if entry.level != .debug then IO.eprintln s!"{entry.level.name} {entry.message}"
      IO.print ending.output
      IO.eprint ending.errors
      writeChanges tree ending.tree
      return ending.code.toUInt32

end ComponentSplit.Program

def main (args : List String) : IO UInt32 := ComponentSplit.Program.run args

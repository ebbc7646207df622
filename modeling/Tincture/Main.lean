import Tincture.CommandLine.Sources

/-!
# The program

The files that a run asks for are read from the disk into a tree, the run is made on that tree, and
what it leads to is printed.
-/

open Tincture

/-- The tree with the file or directory that the disk holds at a path, if there is one. -/
def gatherEntry (files : FileTree) (path : String) : IO FileTree := do
  try
    let content := FileContent.ofBytes (← IO.FS.readBinFile path)
    return (files.put path content).toOption.getD files
  catch e => match e with
    | .inappropriateType .. => return (files.makeDirectory path).toOption.getD files
    | _ => return files

/-- The tree with what the disk holds at a path, and on the way to it. -/
def gather (files : FileTree) (path : String) : IO FileTree :=
  let root := if Path.isAbsolute path then "/" else ""
  let steps := (Path.segments path).map String.ofList
  (List.range steps.length).foldlM
    (fun files n => gatherEntry files (root ++ "/".intercalate (steps.take (n + 1)))) files

/-- The tree with the files of a directory. -/
def gatherDirectory (files : FileTree) (path : String) : IO FileTree := do
  try
    let entries ← (← IO.FS.realPath path).readDir
    entries.foldlM (fun files entry => gather files (Path.join path entry.fileName)) files
  catch _ => return files

/-- The directory that holds the configurations of all programs. -/
def findConfigHome : IO (Option String) := do
  match ← IO.getEnv "XDG_CONFIG_HOME" with
  | some home => return some home
  | none => return (← IO.getEnv "HOME").map (Path.join · ".config")

/-- What a run with these arguments can see: its files are gathered once for the arguments, and once
more for the configuration that they lead to. -/
def survey (arguments : List String) : IO Surroundings := do
  let configHome ← findConfigHome
  let working := (Path.segments (← IO.currentDir).toString).map String.ofList
  let files ← (configHome.map Config.themesDirectory).toList.foldlM gatherDirectory
    { workingDirectory := working }
  let files ← (Run.sources { files, configHome } arguments).foldlM gather files
  let files ← (Run.sources { files, configHome } arguments).foldlM gather files
  return { files, configHome }

def main (arguments : List String) : IO UInt32 := do
  let surroundings ← survey arguments
  let result := run surroundings arguments
  if let (some home, .ok _) := (surroundings.configHome, Arguments.ofList arguments) then
    try IO.FS.createDirAll (Config.logsDirectory home) catch _ => pure ()
  IO.print (String.ofList result.output)
  for line in result.messages do
    IO.eprintln line
  return result.code

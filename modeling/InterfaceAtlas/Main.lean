import InterfaceAtlas.CommandLine.Help
import InterfaceAtlas.CommandLine.Run
import InterfaceAtlas.Go.File
import InterfaceAtlas.Yaml.Document
import Std.Time

/-!
# The program

The outer layer: it takes a picture of the part of the disk that a request looks at, runs the
request on it, and prints what the run has to say.
-/

namespace InterfaceAtlas.Disk

/-- The node at a path of the disk, and the paths that could not be read. Of files with other names
than `wanted` only the existence is recorded. -/
partial def picture (wanted : String → Bool) (path : String) : IO (FileNode × List String) := do
  let place := (← IO.currentDir) / path
  match (← place.metadata.toBaseIO) with
  | .error _ => return (.link "", [])
  | .ok found =>
    if found.type matches .dir then
      match (← place.readDir.toBaseIO) with
      | .error _ => return (.directory [], [path])
      | .ok held =>
        let mut entries := []
        let mut denied := []
        for e in held.toList do
          let inner := Path.join path e.fileName
          if (← e.path.symlinkMetadata.toBaseIO).toOption.any (·.type matches .symlink) then
            let target := (← (IO.FS.realPath e.path).toBaseIO).toOption.map toString
            entries := (e.fileName, .link (target.getD "")) :: entries
          else
            let (node, refused) ← picture wanted inner
            entries := (e.fileName, node) :: entries
            denied := refused ++ denied
        return (.directory entries, denied)
    else if wanted path then
      match (← (IO.FS.readBinFile place).toBaseIO) with
      | .ok content => return (.file content.toList, [])
      | .error _ => return (.file [], [path])
    else return (.file [], [])

/-- The file system with a picture of what is at a path. -/
def addPicture (fs : FileSystem) (wanted : String → Bool) (path : String) : IO FileSystem := do
  if Path.isUnusable path || !(← ((← IO.currentDir) / path).pathExists) then return fs
  let (node, denied) ← picture wanted path
  return denied.foldl FileSystem.deny (fs.put path node)

/-- The empty file system with the working directory of the program. -/
def blank : IO FileSystem := do
  let names := (Path.components (toString (← IO.currentDir))).filter (· != "")
  return { workingDirectory := names }

/-- The variables of the environment. -/
def environment : IO Environment := do
  return { excludeDirs := ← IO.getEnv "GO_IFACE_EXCLUDE_DIRS"
           skipErrorFiles := ← IO.getEnv "GO_IFACE_SKIP_ERROR_FILES"
           logLevel := ← IO.getEnv "GO_IFACE_LOG_LEVEL"
           strict := ← IO.getEnv "STRICT_CONFIG_VALIDATION" }

/-- A fresh name for a query: twelve hexadecimal digits. -/
def freshQuery : IO String := do
  let bytes ← IO.getRandomBytes 6
  return String.ofList (bytes.toList.flatMap fun b => Text.Quoted.hexDigits 2 b.toNat)

/-- The time of the day, to the millisecond. -/
def currentTime : IO String := do
  return (← Std.Time.PlainDateTime.now).format "uuuu-MM-dd HH:mm:ss,SSS"

/-- The surroundings of a run without files: Go files are parsed, settings are written in YAML, and
the output takes every text. -/
def bareSurroundings (time query : String) : CommandLine.Surroundings :=
  { files := {}, parser := Go.parse, loader := Yaml.loader, takes := fun _ => true, time, query }

/-- The surroundings of a request: first the file of settings, then, with the settings known, the
sources that its first argument leads to. -/
def surroundings (request : CommandLine.Request) : IO CommandLine.Surroundings := do
  let start := { bareSurroundings (← currentTime) (← freshQuery) with
    files := ← blank, environment := ← environment }
  let withSettings ← (request.options.config.filter (· != "")).elim (pure start.files)
    (Disk.addPicture start.files fun _ => true)
  let known := { start with files := withSettings }
  match (request.settings known).value, request.arguments with
  | .ok settings, some path :: _ =>
    let scope := if request.command matches .findFileImplementations
      then Path.containing path else path
    return { known with files := ← Disk.addPicture withSettings settings.isSource scope }
  | _, _ => return known

end InterfaceAtlas.Disk

open InterfaceAtlas in
/-- Runs a command line on the disk. -/
def main (arguments : List String) : IO UInt32 := do
  let run ← match CommandLine.Request.read arguments with
    | .ok request => request.run <$> Disk.surroundings request
    | .error _ => pure (CommandLine.run (Disk.bareSurroundings "" "") arguments)
  if run.outcome matches .misuse _ then IO.eprintln CommandLine.usageLine
  for line in run.diagnostics do IO.eprintln line
  if run.outcome matches .help then IO.println CommandLine.helpText
  IO.print run.outcome.output
  return run.outcome.status.toUInt32

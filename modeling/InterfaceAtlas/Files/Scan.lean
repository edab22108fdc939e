import InterfaceAtlas.Files.Source

/-!
# Scans

A scan looks for source files under a root: a directory and its sub-directories in the order of
their names, depth first. Where a directory cannot be listed the scan stops, and goes on with what
lies in the root itself.

A scan is the list of its steps, and whoever reads a part of it has seen exactly the steps of that
part. Its counters are counts of steps.
-/

namespace InterfaceAtlas

/-! ## Walks -/

/-- A step of a walk over directories. -/
inductive WalkStep where
  /-- A candidate file. -/
  | file (path : String)
  /-- A directory that settings exclude. -/
  | passedOver (path : String)
  /-- A directory that cannot be listed. -/
  | failed (path : String) (fault : PathFault)
deriving DecidableEq, Repr, Inhabited

namespace WalkStep

/-- Whether the step ends the walk. -/
def isFailure : WalkStep → Bool
  | failed _ _ => true
  | _ => false

end WalkStep

/-- The members of a list up to the first that passes a test, which is included. -/
def takeThrough {α : Type} (test : α → Bool) : List α → List α
  | [] => []
  | a :: more => if test a then [a] else a :: takeThrough test more

namespace FileSystem

/-- Things by name in the order of the names. -/
def byName {α : Type} (xs : List (String × α)) : List (String × α) :=
  xs.mergeSort fun a b => decide (a.1 ≤ b.1)

mutual

/-- The steps below an entry of a directory, as if no step could end the walk. -/
def entrySteps (fs : FileSystem) (settings : Settings) (directory name : String) :
    FileNode → List WalkStep
  | .directory entries =>
    let path := Path.join directory name
    if settings.excludesDirectory name then [.passedOver path]
    else if fs.denies path then [.failed path (.refused .denied)]
    else (byName (entriesSteps fs settings path entries)).flatMap Prod.snd
  | _ => if settings.isCandidate name then [.file (Path.join directory name)] else []

/-- The steps below each of the entries of a directory, by name. -/
def entriesSteps (fs : FileSystem) (settings : Settings) (directory : String) :
    List (String × FileNode) → List (String × List WalkStep)
  | [] => []
  | (name, node) :: more =>
    (name, entrySteps fs settings directory name node) :: entriesSteps fs settings directory more

end

/-- The walk from a root on, up to the first directory that cannot be listed. -/
def walk (fs : FileSystem) (settings : Settings) (root : String) : List WalkStep :=
  match fs.list root with
  | .error fault => [.failed root fault]
  | .ok entries =>
    takeThrough WalkStep.isFailure
      ((byName (entriesSteps fs settings root entries)).flatMap Prod.snd)

/-- The candidate files that lie in a directory itself. -/
def flatFiles (fs : FileSystem) (settings : Settings) (directory : String) :
    Except PathFault (List String) :=
  (fs.list directory).map fun entries =>
    ((byName entries).filter fun (name, node) =>
      !node.isDirectory && settings.isCandidate name).map fun (name, _) => Path.join directory name

end FileSystem

/-! ## Scans -/

/-- A step of a scan. -/
inductive ScanStep where
  /-- A source file. -/
  | found (path : String)
  /-- A directory that settings exclude. -/
  | passedOver (path : String)
  /-- The walk failed, and the root alone is looked at from now on. -/
  | fellBack (root path : String) (reason : Refusal)
  /-- The root cannot be listed. -/
  | unlistable (root : String) (reason : Refusal)
  /-- The root is no path. -/
  | broken
deriving DecidableEq, Repr, Inhabited

namespace ScanStep

/-- The file that a step found. -/
def path? : ScanStep → Option String
  | found path => some path
  | _ => none

/-- Whether a step found a file. -/
def isFound (s : ScanStep) : Bool := s.path?.isSome

/-- Whether the scan fell back to the root alone. -/
def isFallback : ScanStep → Bool
  | fellBack _ _ _ => true
  | _ => false

/-- What a step says. -/
def events : ScanStep → List Event
  | found _ => []
  | passedOver path => [.say ⟨.debug, .walker, "Skipping directory: " ++ path⟩]
  | fellBack root path reason =>
    [.say ⟨.warning, .walker,
      "Directory walk of " ++ root ++ " failed (" ++ reason.message path
        ++ "); falling back to a flat scan"⟩]
  | unlistable root reason =>
    [.say ⟨.warning, .walker, "Cannot list " ++ root ++ ": " ++ reason.message root⟩]
  | broken => []

end ScanStep

namespace FileSystem

/-- The step of a scan of `root` that a step of its walk is. -/
def scanStep (root : String) : WalkStep → ScanStep
  | .file path => .found path
  | .passedOver path => .passedOver path
  | .failed path (.refused reason) => .fellBack root path reason
  | .failed _ .unusable => .broken

/-- The scan of the files in the root itself that were not found before. -/
def flatScan (fs : FileSystem) (settings : Settings) (root : String) (before : List String) :
    List ScanStep :=
  match fs.flatFiles settings root with
  | .ok paths => (paths.filter fun path => !before.contains path).map .found
  | .error (.refused reason) => [.unlistable root reason]
  | .error .unusable => [.broken]

/-- The scan of a root. A root that is a file is a scan of its own. -/
def scan (fs : FileSystem) (settings : Settings) (root : String) (recursive : Bool) :
    List ScanStep :=
  if fs.isFile root then
    if settings.isCandidate (Path.baseName root) then [.found root] else []
  else if recursive then
    let steps := (fs.walk settings root).map (scanStep root)
    if steps.any ScanStep.isFallback then
      steps ++ fs.flatScan settings root (steps.filterMap ScanStep.path?)
    else steps
  else fs.flatScan settings root []

end FileSystem

/-! ## Scans with loading -/

/-- A step of a scan that loads the files it finds. -/
inductive LoadStep where
  /-- A step that found no file. -/
  | other (step : ScanStep)
  /-- A file, and what came of loading it. -/
  | loaded (path : String) (outcome : Logged (Except UnusablePath (Option Source)))

namespace LoadStep

/-- The source that a step yields. -/
def source? : LoadStep → Option Source
  | other _ => none
  | loaded _ outcome =>
    match outcome.value with
    | .ok source => source
    | .error _ => none

/-- Whether a step yields a source. -/
def isParsed (s : LoadStep) : Bool := s.source?.isSome

/-- Whether a step loads a file that does not count. -/
def isSkipped : LoadStep → Bool
  | other _ => false
  | loaded _ outcome =>
    match outcome.value with
    | .ok none => true
    | _ => false

/-- Whether a step found a file. -/
def isFound : LoadStep → Bool
  | other _ => false
  | loaded _ _ => true

/-- Whether the scan fell back to the root alone. -/
def isFallback : LoadStep → Bool
  | other step => step.isFallback
  | loaded _ _ => false

/-- What a step says. -/
def events : LoadStep → List Event
  | other step => step.events
  | loaded _ outcome => outcome.events

/-- The fault that a step ends the scan with. -/
def fault? : LoadStep → Option UnusablePath
  | other .broken => some .nullCharacter
  | other _ => none
  | loaded _ outcome =>
    match outcome.value with
    | .ok _ => none
    | .error fault => some fault

end LoadStep

/-- The counters of a scan. -/
structure ScanCounts where
  seen : Nat := 0
  parsed : Nat := 0
  skipped : Nat := 0
  fellBack : Bool := false
deriving DecidableEq, Repr, Inhabited

namespace ScanCounts

/-- The counters after some steps of a scan. -/
def ofScan (steps : List ScanStep) : ScanCounts :=
  { seen := steps.countP ScanStep.isFound
    fellBack := steps.any ScanStep.isFallback }

/-- The counters after some steps of a scan with loading. -/
def ofLoads (steps : List LoadStep) : ScanCounts :=
  { seen := steps.countP LoadStep.isFound
    parsed := steps.countP LoadStep.isParsed
    skipped := steps.countP LoadStep.isSkipped
    fellBack := steps.any LoadStep.isFallback }

/-- The counters as diagnostics show them. -/
def display (c : ScanCounts) : String :=
  "ScanStats(seen=" ++ Decimal.ofInt c.seen ++ ", parsed=" ++ Decimal.ofInt c.parsed
    ++ ", skipped=" ++ Decimal.ofInt c.skipped ++ ", fallback=" ++ Value.writeBool c.fellBack ++ ")"

end ScanCounts

namespace FileSystem

/-- The scan of a root with loading. -/
def loads (fs : FileSystem) (parser : Parser) (settings : Settings) (root : String)
    (recursive : Bool) : List LoadStep :=
  (fs.scan settings root recursive).map fun step =>
    match step with
    | .found path => .loaded path (Source.load parser fs settings path)
    | other => .other other

end FileSystem

/-- The steps that are taken to get `n` of the things that pass a test. -/
def takeUntil {α : Type} (test : α → Bool) : Nat → List α → List α
  | 0, _ => []
  | _ + 1, [] => []
  | n + 1, a :: more => a :: takeUntil test (if test a then n else n + 1) more

/-- What `f` makes of each source of a scan, one source after the other. -/
def eachSource {β : Type} (f : Source → Logged β) :
    List LoadStep → Logged (Except UnusablePath (List β))
  | [] => pure (.ok [])
  | step :: more => do
    Logged.mk () step.events
    match step.fault? with
    | some fault => return .error fault
    | none =>
      match step.source? with
      | some source =>
        let b ← f source
        return (← eachSource f more).map (b :: ·)
      | none => eachSource f more

end InterfaceAtlas

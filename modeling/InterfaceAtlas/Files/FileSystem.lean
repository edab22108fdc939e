import InterfaceAtlas.Decimal.Positional
import InterfaceAtlas.Files.Path
import InterfaceAtlas.Text.Quoted

/-!
# File systems

A file system is a tree of directories, files and symbolic links, with a working directory and a set
of paths that may not be listed or opened. Paths are resolved one component at a time; links are
followed, but not more than forty of them.
-/

namespace InterfaceAtlas

/-- What a directory holds under a name. -/
inductive FileNode where
  | file (content : List UInt8)
  | link (target : String)
  | directory (entries : List (String × FileNode))
deriving Repr, Inhabited

namespace FileNode

/-- Whether the node is a directory itself. A link to one is not. -/
def isDirectory : FileNode → Bool
  | directory _ => true
  | _ => false

end FileNode

/-- The reasons for which the system refuses a path. -/
inductive Refusal where
  | missing
  | denied
  | notDirectory
  | isDirectory
  | tooManyLinks
deriving DecidableEq, Repr, Inhabited

namespace Refusal

/-- The system's number for a refusal. -/
def number : Refusal → Nat
  | missing => 2
  | denied => 13
  | notDirectory => 20
  | isDirectory => 21
  | tooManyLinks => 40

/-- The system's words for a refusal. -/
def words : Refusal → String
  | missing => "No such file or directory"
  | denied => "Permission denied"
  | notDirectory => "Not a directory"
  | isDirectory => "Is a directory"
  | tooManyLinks => "Too many levels of symbolic links"

/-- What is said when a path is refused. -/
def message (r : Refusal) (path : String) : String :=
  "[Errno " ++ Decimal.ofInt r.number ++ "] " ++ r.words ++ ": " ++ Text.Quoted.render path

end Refusal

/-- Why a path cannot be used. -/
inductive PathFault where
  /-- The system refuses the path. -/
  | refused (reason : Refusal)
  /-- The text is no path: it holds a null character. -/
  | unusable
deriving DecidableEq, Repr, Inhabited

/-- A file system. -/
structure FileSystem where
  /-- The entries of the root. -/
  entries : List (String × FileNode) := []
  /-- The names that lead from the root to the working directory. -/
  workingDirectory : List String := []
  /-- The normal spellings of the paths that may not be listed or opened. -/
  denied : List String := []
deriving Repr, Inhabited

namespace FileSystem

/-- The entries of a directory, with those of the directories it lies in behind it. -/
abbrev Trail := List (List (String × FileNode))

/-- The number of links followed on the way to one file. -/
def linkLimit : Nat := 40

/-- The trail at the root. -/
def rootTrail (fs : FileSystem) : Trail := [fs.entries]

/-- The trail one directory up; the root is above itself. -/
def up : Trail → Trail
  | _ :: above :: more => above :: more
  | trail => trail

/-- The entries of the directory a trail ends in. -/
def here (trail : Trail) : List (String × FileNode) := trail.head?.getD []

/-- The node at the end of a list of components, from a trail on, with at most `links` links
followed. -/
def follow (fs : FileSystem) (links : Nat) (trail : Trail) :
    List String → Except Refusal FileNode
  | [] => .ok (.directory (here trail))
  | c :: rest =>
    if c == "" || c == "." then follow fs links trail rest
    else if c == ".." then follow fs links (up trail) rest
    else match (here trail).lookup c with
      | none => .error .missing
      | some (.directory entries) => follow fs links (entries :: trail) rest
      | some (.file content) => if rest.isEmpty then .ok (.file content) else .error .notDirectory
      | some (.link target) =>
        match links with
        | 0 => .error .tooManyLinks
        | links + 1 =>
          follow fs links (if Path.isAbsolute target then fs.rootTrail else trail)
            (Path.components target ++ rest)
termination_by components => (links, components.length)

/-- The trail at the working directory. -/
def startTrail (fs : FileSystem) : Trail :=
  fs.workingDirectory.foldl (fun trail name =>
    match (here trail).lookup name with
    | some (.directory entries) => entries :: trail
    | _ => trail) fs.rootTrail

/-- The node that a path leads to, with links followed. -/
def resolve (fs : FileSystem) (path : String) : Except Refusal FileNode :=
  if path == "" then .error .missing
  else follow fs linkLimit (if Path.isAbsolute path then fs.rootTrail else fs.startTrail)
    (Path.components path)

/-- Whether a path may not be listed or opened. -/
def denies (fs : FileSystem) (path : String) : Bool := fs.denied.contains (Path.normal path)

/-- Whether a path leads to a file. -/
def isFile (fs : FileSystem) (path : String) : Bool :=
  !Path.isUnusable path && match fs.resolve path with
    | .ok (.file _) => true
    | _ => false

/-- The entries of a directory, in no particular order. -/
def list (fs : FileSystem) (path : String) : Except PathFault (List (String × FileNode)) :=
  if Path.isUnusable path then .error .unusable
  else if fs.denies path then .error (.refused .denied)
  else match fs.resolve path with
    | .ok (.directory entries) => .ok entries
    | .ok _ => .error (.refused .notDirectory)
    | .error reason => .error (.refused reason)

/-- The content of a file. -/
def read (fs : FileSystem) (path : String) : Except PathFault (List UInt8) :=
  if Path.isUnusable path then .error .unusable
  else if fs.denies path then .error (.refused .denied)
  else match fs.resolve path with
    | .ok (.file content) => .ok content
    | .ok _ => .error (.refused .isDirectory)
    | .error reason => .error (.refused reason)

/-! ## Changes -/

/-- The entries with the node under `name` made from the one that was there; none takes it away. -/
def alterEntry (name : String) (f : Option FileNode → Option FileNode) :
    List (String × FileNode) → List (String × FileNode)
  | [] => ((f none).map fun n => (name, n)).toList
  | (other, node) :: more =>
    if other == name then ((f (some node)).map fun n => (name, n)).toList ++ more
    else (other, node) :: alterEntry name f more

/-- The entries with the node at the end of some names made from the one that was there. Directories
on the way are made where they are missing, if there is something to put into them. -/
def alterAt (f : Option FileNode → Option FileNode) :
    List String → List (String × FileNode) → List (String × FileNode)
  | [], entries => entries
  | [name], entries => alterEntry name f entries
  | name :: more, entries =>
    alterEntry name (fun held =>
      match held with
      | some (.directory inner) => some (.directory (alterAt f more inner))
      | other =>
        if (f none).isSome then some (.directory (alterAt f more [])) else other) entries

/-- The names on the way to a path, from the root on. -/
def namesTo (fs : FileSystem) (path : String) : List String :=
  ((Path.components path).foldl (Path.pushComponent true)
    (if Path.isAbsolute path then [] else fs.workingDirectory.reverse)).reverse

/-- The file system with a node put at a path. -/
def put (fs : FileSystem) (path : String) (node : FileNode) : FileSystem :=
  { fs with entries := alterAt (fun _ => some node) (fs.namesTo path) fs.entries }

/-- The file system with a directory at a path; one that is there keeps its entries. -/
def makeDirectory (fs : FileSystem) (path : String) : FileSystem :=
  { fs with
    entries := alterAt (fun held => some (held.getD (.directory []))) (fs.namesTo path) fs.entries }

/-- The file system without what is at a path. -/
def remove (fs : FileSystem) (path : String) : FileSystem :=
  { fs with entries := alterAt (fun _ => none) (fs.namesTo path) fs.entries }

/-- The file system in which a path may not be listed or opened. -/
def deny (fs : FileSystem) (path : String) : FileSystem :=
  { fs with denied := fs.denied ++ [Path.normal path] }

end FileSystem

end InterfaceAtlas

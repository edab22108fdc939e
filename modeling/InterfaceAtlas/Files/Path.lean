import InterfaceAtlas.Text.Blank

/-!
# Paths

A path is text with slashes. Paths are kept as spelled wherever they are shown; `Path.normal` gives
the spelling under which two paths are compared.
-/

namespace InterfaceAtlas.Path

/-- The pieces between the slashes, empty ones included. -/
def components (path : String) : List String :=
  (Text.splitAt '/' path.toList).map String.ofList

/-- Whether a path starts at the root. -/
def isAbsolute (path : String) : Bool := path.toList.head? == some '/'

/-- Whether a text can be no path at all: it holds a null character. -/
def isUnusable (path : String) : Bool := path.toList.contains '\x00'

/-- The path of the entry `name` of a directory. -/
def join (directory name : String) : String :=
  if directory == "" || directory.toList.getLast? == some '/' then directory ++ name
  else directory ++ "/" ++ name

/-- The characters behind the last slash. -/
def lastPiece (cs : List Char) : List Char := (cs.reverse.takeWhile (· != '/')).reverse

/-- The characters up to the last slash, that slash included. -/
def beforeLast (cs : List Char) : List Char := (cs.reverse.dropWhile (· != '/')).reverse

/-- The name behind the last slash. -/
def baseName (path : String) : String := String.ofList (lastPiece path.toList)

/-- What stands before the last slash, without the slashes at its end unless there is nothing
else. -/
def parent (path : String) : String :=
  let head := beforeLast path.toList
  if head.all (· == '/') then String.ofList head
  else String.ofList (head.reverse.dropWhile (· == '/')).reverse

/-- The directory that a file stands in. -/
def containing (path : String) : String := if parent path == "" then "." else parent path

/-- One component put on the stack of those before it: `..` takes one away. -/
def pushComponent (absolute : Bool) (stack : List String) (c : String) : List String :=
  if c == "" || c == "." then stack
  else if c == ".." then
    match stack with
    | [] => if absolute then [] else [".."]
    | top :: rest => if top == ".." then ".." :: top :: rest else rest
  else c :: stack

/-- The slashes that an absolute path starts with: exactly two are kept, any other number counts as
one. -/
def leadingSlashes (path : String) : String :=
  match (path.toList.takeWhile (· == '/')).length with
  | 0 => ""
  | 2 => "//"
  | _ => "/"

/-- The shortest spelling of a path, by its text alone. -/
def normal (path : String) : String :=
  let stack := (components path).foldl (pushComponent (isAbsolute path)) []
  let text := leadingSlashes path ++ "/".intercalate stack.reverse
  if text == "" then "." else text

end InterfaceAtlas.Path

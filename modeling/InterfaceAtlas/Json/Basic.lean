import InterfaceAtlas.Decimal.Positional
import InterfaceAtlas.Text.Quoted

/-!
# JSON

Answers go over the wire as one line of compact JSON: no blanks, members in the order of the
object, and of the characters only quotes, backslashes and those below U+0020 escaped.
-/

namespace InterfaceAtlas

/-- A JSON value. Members of an object keep their order. -/
inductive Json where
  | null
  | bool (b : Bool)
  | int (n : Int)
  | float (x : Float)
  | text (s : String)
  | list (items : List Json)
  | object (members : List (String × Json))
deriving Inhabited

namespace Json

/-- A character as it stands inside a JSON string. -/
def escape (c : Char) : List Char :=
  if c = '\x22' then ['\x5c', '\x22']
  else if c = '\x5c' then ['\x5c', '\x5c']
  else if c = '\n' then ['\x5c', 'n']
  else if c = '\r' then ['\x5c', 'r']
  else if c = '\t' then ['\x5c', 't']
  else if c = '\x08' then ['\x5c', 'b']
  else if c = '\x0c' then ['\x5c', 'f']
  else if c.toNat < 0x20 then '\x5c' :: 'u' :: Text.Quoted.hexDigits 4 c.toNat
  else [c]

/-- A text as a JSON string. -/
def writeText (s : String) : List Char :=
  '\x22' :: s.toList.flatMap escape ++ ['\x22']

/-- A floating-point number; those that are not finite have names. -/
def writeFloat (x : Float) : String :=
  if x.isNaN then "NaN"
  else if x.isInf then (if x < 0 then "-Infinity" else "Infinity")
  else Decimal.ofFloat x

mutual

/-- The characters of a value. -/
def write : Json → List Char
  | null => ['n', 'u', 'l', 'l']
  | bool true => ['t', 'r', 'u', 'e']
  | bool false => ['f', 'a', 'l', 's', 'e']
  | int n => (Decimal.ofInt n).toList
  | float x => (writeFloat x).toList
  | text s => writeText s
  | list items => '[' :: writeItems items ++ [']']
  | object members => '\x7b' :: writeMembers members ++ ['\x7d']

/-- The items of a list, with commas between them. -/
def writeItems : List Json → List Char
  | [] => []
  | [v] => write v
  | v :: more => write v ++ ',' :: writeItems more

/-- The members of an object, with commas between them. -/
def writeMembers : List (String × Json) → List Char
  | [] => []
  | [(key, v)] => writeText key ++ ':' :: write v
  | (key, v) :: more => writeText key ++ ':' :: write v ++ ',' :: writeMembers more

end

/-- A value as one line of compact JSON. -/
def encode (v : Json) : String := String.ofList v.write

/-- A list of texts. -/
def texts (names : List String) : Json := list (names.map text)

/-- A natural number. -/
def nat (n : Nat) : Json := int n

/-- The member `key` of an object. -/
def get? (key : String) : Json → Option Json
  | object members => members.lookup key
  | _ => none

end Json

end InterfaceAtlas

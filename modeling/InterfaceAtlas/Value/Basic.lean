import InterfaceAtlas.Json.Basic
import InterfaceAtlas.Value.Calendar

/-!
# Values of settings

A settings file holds values of many kinds, and most messages about them show the value itself.
`Value.display` is that text: a text stands as it is, everything else as it would be written down,
with the texts inside it in quotes.
-/

namespace InterfaceAtlas

/-- A value of a settings file. -/
inductive Value where
  | null
  | bool (b : Bool)
  | int (n : Int)
  | float (x : Float)
  | text (s : String)
  | bytes (bs : List UInt8)
  | date (d : Date)
  | moment (t : Moment)
  | list (items : List Value)
  | pair (first second : Value)
  | set (items : List Value)
  | map (entries : List (Value × Value))
deriving Inhabited

/-- Why something that is written as a value is none. -/
inductive ValueFault where
  /-- A number or date is out of its range. -/
  | outOfRange (message : String)
  /-- A word marked as a truth value is none. -/
  | noTruthValue
  /-- A text marked as a date is none. -/
  | noDate
  /-- A text marked as a number has no digits. -/
  | noDigits
deriving DecidableEq, Repr, Inhabited

namespace Value

/-! ## Kinds -/

/-- The name of the kind of a value. -/
def kindName : Value → String
  | null => "NoneType"
  | bool _ => "bool"
  | int _ => "int"
  | float _ => "float"
  | text _ => "str"
  | bytes _ => "bytes"
  | date _ => "date"
  | moment _ => "datetime"
  | list _ => "list"
  | pair _ _ => "tuple"
  | set _ => "set"
  | map _ => "dict"

/-- Whether a value counts as given: zero, nothing and all that is empty do not. -/
def isGiven : Value → Bool
  | null => false
  | bool b => b
  | int n => n != 0
  | float x => x != 0.0
  | text s => s != ""
  | bytes bs => !bs.isEmpty
  | list items => !items.isEmpty
  | set items => !items.isEmpty
  | map entries => !entries.isEmpty
  | date _ => true
  | moment _ => true
  | pair _ _ => true

/-- The integer equal to a floating-point number, if there is one. -/
def wholeNumber? (x : Float) : Option Int :=
  if x.isNaN || x.isInf then none
  else
    let bits := x.toBits.toNat
    let b := Binary.ofBits (bits % Nat.pow 2 63)
    let (p, q) := Decimal.scaled b.mantissa 2 b.exponent
    let size : Int := (p / q : Nat)
    if p % q = 0 then some (if bits / Nat.pow 2 63 = 1 then -size else size) else none

/-- The integer equal to a value; truth values count as zero and one. -/
def integer? : Value → Option Int
  | bool b => some (if b then 1 else 0)
  | int n => some n
  | float x => wholeNumber? x
  | _ => none

/-- Whether two values are the same key: numbers are compared by their amount. -/
def sameKey (a b : Value) : Bool :=
  match integer? a, integer? b with
  | some m, some n => m == n
  | none, none =>
    match a, b with
    | null, null => true
    | float x, float y => x == y
    | text s, text t => s == t
    | bytes s, bytes t => s == t
    | date d, date e => d == e
    | moment t, moment u => t == u
    | _, _ => false
  | _, _ => false

/-! ## Text -/

/-- An offset as messages write it down: whole days, then seconds. -/
def writeOffset (seconds : Int) : String :=
  if seconds = 0 then "datetime.timezone.utc"
  else
    let days := seconds.fdiv 86400
    let rest := seconds.fmod 86400
    let parts := (if days = 0 then [] else ["days=" ++ Decimal.ofInt days])
      ++ (if rest = 0 then [] else ["seconds=" ++ Decimal.ofInt rest])
    "datetime.timezone(datetime.timedelta(" ++ ", ".intercalate parts ++ "))"

/-- Numbers with commas between them. -/
def writeNumbers (ns : List Nat) : String :=
  ", ".intercalate (ns.map fun n : Nat => Decimal.ofInt n)

/-- The parts of a time of a day that are written down: seconds and microseconds only as far as
they are not zero. -/
def clockFields (t : Moment) : List Nat :=
  [t.hour, t.minute]
    ++ (if t.second = 0 && t.micro = 0 then [] else [t.second])
    ++ (if t.micro = 0 then [] else [t.micro])

/-- A time as messages write it down. -/
def writeMoment (t : Moment) : String :=
  "datetime.datetime(" ++ writeNumbers (t.date.fields ++ clockFields t)
    ++ (match t.offset with
      | none => ""
      | some seconds => ", tzinfo=" ++ writeOffset seconds)
    ++ ")"

/-- One of the two words for truth. -/
def writeBool (b : Bool) : String := if b then "True" else "False"

mutual

/-- A value as messages write it down. -/
def write : Value → String
  | null => "None"
  | bool b => writeBool b
  | int n => Decimal.ofInt n
  | float x => Decimal.ofFloat x
  | text s => Text.Quoted.render s
  | bytes bs => Text.Quoted.renderBytes bs
  | date d => "datetime.date(" ++ writeNumbers d.fields ++ ")"
  | moment t => writeMoment t
  | list items => "[" ++ ", ".intercalate (writeAll items) ++ "]"
  | pair a b => "(" ++ write a ++ ", " ++ write b ++ ")"
  | set [] => "set()"
  | set items => "\x7b" ++ ", ".intercalate (writeAll items) ++ "\x7d"
  | map entries => "\x7b" ++ ", ".intercalate (writeEntries entries) ++ "\x7d"

/-- Each of several values as messages write it down. -/
def writeAll : List Value → List String
  | [] => []
  | v :: more => write v :: writeAll more

/-- Each of several entries as messages write it down. -/
def writeEntries : List (Value × Value) → List String
  | [] => []
  | (key, v) :: more => (write key ++ ": " ++ write v) :: writeEntries more

end

/-- A value as messages show it. -/
def display : Value → String
  | text s => s
  | date d => d.text
  | moment t => t.text
  | v => write v

/-! ## Values from JSON -/

mutual

/-- The value that a JSON value stands for. -/
def ofJson : Json → Value
  | .null => null
  | .bool b => bool b
  | .int n => int n
  | .float x => float x
  | .text s => text s
  | .list items => list (ofItems items)
  | .object members => map (ofMembers members)

/-- The values that JSON values stand for. -/
def ofItems : List Json → List Value
  | [] => []
  | v :: more => ofJson v :: ofItems more

/-- The entries that the members of a JSON object stand for. -/
def ofMembers : List (String × Json) → List (Value × Value)
  | [] => []
  | (key, v) :: more => (text key, ofJson v) :: ofMembers more

end

end Value

end InterfaceAtlas

import InterfaceAtlas.Text.Blank
import InterfaceAtlas.Yaml.Cursor

/-!
# Tags

The tag of a node says what kind of value it holds. A plain scalar without a tag gets one by its
form: words for truth and nothing, numbers, dates, and two signs with a meaning of their own.
-/

namespace InterfaceAtlas.Yaml

/-- The kinds of values. -/
inductive Tag where
  | null
  | bool
  | int
  | float
  | text
  | timestamp
  | binary
  | sequence
  | mapping
  | set
  | orderedMap
  | pairs
  /-- The key `<<`, whose value is merged into the mapping. -/
  | merge
  /-- The key `=`. -/
  | default
  | unknown (name : String)
deriving DecidableEq, Repr, Inhabited

namespace Tag

/-- What the names of the common tags start with. -/
def commonStart : String := "tag:yaml.org,2002:"

/-- The common tags by the rest of their name. -/
def common : List (String × Tag) :=
  [("null", null), ("bool", bool), ("int", int), ("float", float), ("str", text),
    ("timestamp", timestamp), ("binary", binary), ("seq", sequence), ("map", mapping), ("set", set),
    ("omap", orderedMap), ("pairs", pairs), ("merge", merge), ("value", default)]

/-- The tag with a full name. -/
def ofName (name : String) : Tag :=
  if commonStart.toList.isPrefixOf name.toList then
    (common.lookup (String.ofList (name.toList.drop commonStart.toList.length))).getD (unknown name)
  else unknown name

/-! ## The form of plain scalars -/

/-- Words for truth. -/
def truthWords : List String :=
  ["yes", "Yes", "YES", "no", "No", "NO", "true", "True", "TRUE", "false", "False", "FALSE", "on",
    "On", "ON", "off", "Off", "OFF"]

/-- Words for nothing. -/
def nullWords : List String := ["", "~", "null", "Null", "NULL"]

/-- What follows the sign of a number. -/
def unsigned : List Char → List Char
  | '-' :: rest => rest
  | '+' :: rest => rest
  | cs => cs

/-- Whether all characters are of a class or underscores, and there is one. -/
def isRun (p : Char → Bool) (cs : List Char) : Bool :=
  !cs.isEmpty && cs.all fun c => p c || c == '_'

/-- Whether the characters are digits and underscores, a digit first. -/
def isDigits : List Char → Bool
  | [] => false
  | c :: cs => c.isDigit && cs.all fun d => d.isDigit || d == '_'

/-- Whether the characters are digits and underscores, if there are any. -/
def isFraction (cs : List Char) : Bool := cs.all fun d => d.isDigit || d == '_'

/-- Whether the characters count from 0 to 59. -/
def isSixtieth : List Char → Bool
  | [a] => a.isDigit
  | [a, b] => '0' ≤ a && a ≤ '5' && b.isDigit
  | _ => false

/-- Whether the characters are a number to the base of sixty, with at least one colon. -/
def isSexagesimal (first : List Char → Bool) (cs : List Char) : Bool :=
  match Text.splitAt ':' cs with
  | head :: rest => first head && !rest.isEmpty && rest.all isSixtieth
  | [] => false

/-- Whether the characters are a decimal number without needless zeros. -/
def isWhole : List Char → Bool
  | ['0'] => true
  | c :: cs => '1' ≤ c && c ≤ '9' && isFraction cs
  | [] => false

/-- Whether a plain scalar is an integer. -/
def isInt (cs : List Char) : Bool :=
  match unsigned cs with
  | '0' :: 'b' :: ds => isRun (fun c => c == '0' || c == '1') ds
  | '0' :: 'x' :: ds => isRun (fun c => c.isDigit || 'a' ≤ c.toLower && c.toLower ≤ 'f') ds
  | '0' :: d :: ds => isRun (fun c => '0' ≤ c && c ≤ '7') (d :: ds)
  | cs => isWhole cs || isSexagesimal (fun head => head != ['0'] && isWhole head) cs

/-- Whether the characters are an exponent, which has a sign, or nothing. -/
def isExponent : List Char → Bool
  | [] => true
  | e :: sign :: ds =>
    (e == 'e' || e == 'E') && (sign == '-' || sign == '+') && !ds.isEmpty && ds.all Char.isDigit
  | _ => false

/-- Whether the characters are a fraction with an exponent or without. -/
def isFractionExponent (cs : List Char) : Bool :=
  isExponent (cs.dropWhile fun d => d.isDigit || d == '_')

/-- Whether a plain scalar is a floating-point number. -/
def isFloat (cs : List Char) : Bool :=
  let body := unsigned cs
  let whole := body.takeWhile (· != '.')
  match body.dropWhile (· != '.') with
  | '.' :: fraction =>
    isDigits whole && isFractionExponent fraction
      || isSexagesimal isDigits whole && isFraction fraction
      || whole.isEmpty && [".inf", ".Inf", ".INF"].contains (String.ofList body)
      || cs.head? == some '.' && (
        (fraction.head?.map Char.isDigit).getD false && isFractionExponent fraction
          || [".nan", ".NaN", ".NAN"].contains (String.ofList cs))
  | _ => false

/-- Whether the characters are digits, as many as allowed. -/
def isCount (least most : Nat) (cs : List Char) : Bool :=
  least ≤ cs.length && cs.length ≤ most && cs.all Char.isDigit

/-- The three parts of a date. -/
def dateParts? (cs : List Char) : Option (List Char × List Char × List Char) :=
  match Text.splitAt '-' cs with
  | [year, month, day] =>
    if isCount 4 4 year && isCount 1 2 month && isCount 1 2 day then some (year, month, day)
    else none
  | _ => none

/-- The date at the front and what follows it. -/
def cutDate (cs : List Char) : List Char × List Char :=
  cs.span fun c => c.isDigit || c == '-'

/-- What follows the mark between a date and a time. -/
def afterDateMark? : List Char → Option (List Char)
  | [] => none
  | c :: cs =>
    if c == 'T' || c == 't' then some cs
    else if c == ' ' || c == '\t' then some (cs.dropWhile fun d => d == ' ' || d == '\t')
    else none

/-- A zone: nothing, the letter for universal time, or hours and minutes with a sign. -/
inductive Zone where
  | none
  | universal
  | offset (negative : Bool) (hours minutes : List Char)
deriving DecidableEq, Repr, Inhabited

/-- The zone that characters stand for. -/
def zone? (cs : List Char) : Option Zone :=
  match cs with
  | [] => some .none
  | _ =>
    match cs.dropWhile fun d => d == ' ' || d == '\t' with
    | ['Z'] => some .universal
    | sign :: rest =>
      if sign == '-' || sign == '+' then
        match Text.splitAt ':' rest with
        | [hours] => if isCount 1 2 hours then some (.offset (sign == '-') hours []) else .none
        | [hours, minutes] =>
          if isCount 1 2 hours && isCount 2 2 minutes then
            some (.offset (sign == '-') hours minutes)
          else .none
        | _ => .none
      else .none
    | [] => .none

/-- The parts of a time: hour, minute, second, fraction and zone. -/
structure Clock where
  hour : List Char
  minute : List Char
  second : List Char
  fraction : List Char
  zone : Zone
deriving DecidableEq, Repr, Inhabited

/-- The time that characters stand for. -/
def clock? (cs : List Char) : Option Clock := do
  let (hour, afterHour) := cs.span Char.isDigit
  let (minute, afterMinute) := (afterHour.drop 1).span Char.isDigit
  let (second, afterSecond) := (afterMinute.drop 1).span Char.isDigit
  let (fraction, afterFraction) := match afterSecond with
    | '.' :: rest => rest.span Char.isDigit
    | rest => ([], rest)
  let zone ← zone? afterFraction
  if isCount 1 2 hour && isCount 2 2 minute && isCount 2 2 second && afterHour.head? == some ':'
      && afterMinute.head? == some ':' then
    return { hour, minute, second, fraction, zone }
  else none

/-- Whether a plain scalar is a date, or a date with a time. A date alone is written in full. -/
def isTimestamp (cs : List Char) : Bool :=
  let (date, rest) := cutDate cs
  match dateParts? date with
  | some (_, month, day) =>
    if rest.isEmpty then month.length == 2 && day.length == 2
    else ((afterDateMark? rest).bind clock?).isSome
  | none => false

/-- The tag that a plain scalar has by its form. -/
def ofPlain (s : String) : Tag :=
  if truthWords.contains s then bool
  else if isFloat s.toList then float
  else if isInt s.toList then int
  else if s == "<<" then merge
  else if nullWords.contains s then null
  else if isTimestamp s.toList then timestamp
  else if s == "=" then default
  else text

end Tag

end InterfaceAtlas.Yaml

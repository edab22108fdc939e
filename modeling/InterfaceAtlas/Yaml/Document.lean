import InterfaceAtlas.Decimal.Nearest
import InterfaceAtlas.Settings.Loader
import InterfaceAtlas.Yaml.Node

/-!
# Documents

The value of a node goes by its tag. Of two entries with one key the later one counts, in the place
of the earlier. The entries under a key `<<` come in front of the mapping's own.
-/

namespace InterfaceAtlas.Yaml

/-! ## Numbers -/

/-- The digits of a base: a number in that base; none if there is another character. -/
def digitsIn? (base : Nat) (cs : List Char) : Option Nat :=
  if cs.isEmpty then none
  else cs.foldl (fun n? c => do
    let d ← hexDigit? c
    if d < base then return (← n?) * base + d else none) (some 0)

/-- An integer in a base, with a sign or without. -/
def integerIn (base : Nat) (cs : List Char) : Result Int :=
  let body := Text.trim cs
  match digitsIn? base (Tag.unsigned body) with
  | some n => .ok (if body.head? == some '-' then -(n : Int) else n)
  | none => misfit (.outOfRange ("invalid literal for int() with base " ++ Decimal.ofInt base
      ++ ": " ++ Text.Quoted.render (String.ofList cs)))

/-- The sum of places that each count sixty times the one behind it. -/
def sexagesimal (places : List Int) : Int := places.foldl (fun n d => n * 60 + d) 0

/-- The integer that a scalar stands for. -/
def integer (s : String) : Result Int := do
  let cs := s.toList.filter (· != '_')
  let body := Tag.unsigned cs
  let size ← match body with
    | [] => misfit .noDigits
    | ['0'] => pure 0
    | '0' :: 'b' :: ds => integerIn 2 ds
    | '0' :: 'x' :: ds => integerIn 16 ds
    | '0' :: _ => integerIn 8 body
    | _ =>
      if body.contains ':' then sexagesimal <$> (Text.splitAt ':' body).mapM (integerIn 10)
      else integerIn 10 body
  return if cs.head? == some '-' then -size else size

/-- The number of an exponent; none if the characters are no exponent. -/
def exponent? : List Char → Option Int
  | [] => some 0
  | e :: cs =>
    if e != 'e' then none
    else do
      let n ← digitsIn? 10 (Tag.unsigned cs)
      return if cs.head? == some '-' then -(n : Int) else n

/-- The unsigned floating-point number that characters stand for. -/
def unsignedFloat? (cs : List Char) : Option Float := do
  let (whole, rest) := cs.span Char.isDigit
  let (fraction, rest) := match rest with
    | '.' :: r => r.span Char.isDigit
    | r => ([], r)
  if whole.isEmpty && fraction.isEmpty then none
  else
    let e ← exponent? rest
    return Decimal.nearest ⟨Decimal.ofDigits (whole ++ fraction), e - fraction.length⟩

/-- A floating-point number in decimals. -/
def floatOf (cs : List Char) : Result Float :=
  let body := Text.trim cs
  let size := if ["inf", "infinity"].contains (String.ofList (Tag.unsigned body)) then
      some (1.0 / 0.0)
    else if Tag.unsigned body == ['n', 'a', 'n'] then some (0.0 / 0.0)
    else unsignedFloat? (Tag.unsigned body)
  match size with
  | some x => .ok (if body.head? == some '-' then -x else x)
  | none => misfit (.outOfRange ("could not convert string to float: "
      ++ Text.Quoted.render (String.ofList cs)))

/-- The sum of places that each count sixty times the one behind it, the last one first. -/
def sexagesimalFloat (places : List Float) : Float :=
  (places.reverse.foldl (fun (x, base) d => (x + d * base, base * 60.0)) (0.0, 1.0)).1

/-- The floating-point number that a scalar stands for. -/
def float (s : String) : Result Float := do
  let cs := (s.toList.filter (· != '_')).map Char.toLower
  let body := Tag.unsigned cs
  let size ← if cs.isEmpty then misfit .noDigits
    else if body == ['.', 'i', 'n', 'f'] then pure (1.0 / 0.0)
    else if body == ['.', 'n', 'a', 'n'] then pure (0.0 / 0.0)
    else if body.contains ':' then sexagesimalFloat <$> (Text.splitAt ':' body).mapM floatOf
    else floatOf body
  return if cs.head? == some '-' then -size else size

/-! ## Dates -/

/-- The number of digits. -/
def count (ds : List Char) : Nat := Decimal.ofDigits ds

/-- The fraction of a second in microseconds. -/
def micros (ds : List Char) : Nat :=
  count ((ds ++ List.replicate 6 '0').take 6)

/-- The offset of a zone, in seconds. -/
def zoneOffset : Tag.Zone → Option Int
  | .none => none
  | .universal => some 0
  | .offset negative hours minutes =>
    let seconds : Int := count hours * 3600 + count minutes * 60
    some (if negative then -seconds else seconds)

/-- The date or time that a scalar stands for. The offset of a zone is less than a day. -/
def timestamp (s : String) : Result Value := do
  let (date, rest) := Tag.cutDate s.toList
  match Tag.dateParts? date with
  | none => misfit .noDate
  | some (year, month, day) =>
    let d : Date := ⟨count year, count month, count day⟩
    if rest.isEmpty then
      match d.fault? with
      | some message => misfit (.outOfRange message)
      | none => return .date d
    else match (Tag.afterDateMark? rest).bind Tag.clock? with
      | none => misfit .noDate
      | some clock =>
        let t : Moment :=
          { date := d, hour := count clock.hour, minute := count clock.minute,
            second := count clock.second, micro := micros clock.fraction,
            offset := zoneOffset clock.zone }
        match t.offsetFault?.or t.fault? with
        | some message => misfit (.outOfRange message)
        | none => return .moment t

/-! ## Bytes -/

/-- The value of a digit to the base of sixty-four. -/
def digit64? (c : Char) : Option Nat :=
  if 'A' ≤ c && c ≤ 'Z' then some (c.toNat - 65)
  else if 'a' ≤ c && c ≤ 'z' then some (c.toNat - 71)
  else if c.isDigit then some (c.toNat + 4)
  else if c == '+' then some 62
  else if c == '/' then some 63
  else none

/-- The bytes of groups of four digits. -/
def bytesOf64 : List Nat → Option (List UInt8)
  | a :: b :: c :: d :: rest => do
    let n := ((a * 64 + b) * 64 + c) * 64 + d
    return (n / 65536).toUInt8 :: (n / 256 % 256).toUInt8 :: (n % 256).toUInt8 :: (← bytesOf64 rest)
  | [a, b, c] =>
    let n := (a * 64 + b) * 64 + c
    some [(n / 1024).toUInt8, (n / 4 % 256).toUInt8]
  | [a, b] => some [((a * 64 + b) / 16).toUInt8]
  | [] => some []
  | [_] => none

/-- The bytes that a scalar stands for. What is no digit is passed over. -/
def bytes (s : String) : Result Value :=
  let digits := (s.toList.takeWhile (· != '=')).filterMap digit64?
  let padding := (s.toList.filter (· == '=')).length
  if s.toList.all (fun c => c.toNat < 0x80) && (digits.length + padding) % 4 = 0 then
    match bytesOf64 digits with
    | some bs => .ok (.bytes bs)
    | none => refuse "failed to decode bytes"
  else refuse "failed to decode bytes"

/-! ## Values -/

/-- The truth value of a word, in any case. -/
def truth? (s : String) : Option Bool :=
  let word := String.ofList (s.toList.map Char.toLower)
  if ["yes", "true", "on"].contains word then some true
  else if ["no", "false", "off"].contains word then some false
  else none

/-- The value of a scalar. -/
def scalarValue (tag : Tag) (s : String) : Result Value :=
  match tag with
  | .null => .ok .null
  | .bool =>
    match truth? s with
    | some b => .ok (.bool b)
    | none => misfit .noTruthValue
  | .int => do return .int (← integer s)
  | .float => do return .float (← float s)
  | .text => .ok (.text s)
  | .timestamp => timestamp s
  | .binary => bytes s
  | _ => refuse "could not determine a constructor for the tag"

/-- The entries with a value put under a key: in the place of the same key, or at the end. -/
def putEntry (key value : Value) : List (Value × Value) → List (Value × Value)
  | [] => [(key, value)]
  | (k, v) :: more =>
    if k.sameKey key then (k, value) :: more else (k, v) :: putEntry key value more

/-- Entries with one value for each key. -/
def mappingOf (entries : List (Value × Value)) : List (Value × Value) :=
  entries.foldl (fun m (key, value) => putEntry key value m) []

mutual

/-- The value of a node. -/
def value : Node → Result Value
  | .scalar tag s => scalarValue tag s
  | .sequence tag items =>
    match tag with
    | .sequence => do return .list (← values items)
    | .orderedMap => do return .list (← pairValues items)
    | .pairs => do return .list (← pairValues items)
    | _ => refuse "could not determine a constructor for the tag"
  | .mapping tag entries =>
    match tag with
    | .mapping => do return .map (mappingOf (← entryValues entries))
    | .set => do return .set ((mappingOf (← entryValues entries)).map Prod.fst)
    | _ => refuse "could not determine a constructor for the tag"

/-- The values of nodes. -/
def values : List Node → Result (List Value)
  | [] => .ok []
  | n :: more => do return (← value n) :: (← values more)

/-- The values of mappings that have one entry each. -/
def pairValues : List Node → Result (List Value)
  | [] => .ok []
  | .mapping _ [(k, v)] :: more => do
    return .pair (← value k) (← value v) :: (← pairValues more)
  | _ :: _ => refuse "expected a mapping of length 1"

/-- The entries of a mapping, those merged into it in front. -/
def entryValues (entries : List (Node × Node)) : Result (List (Value × Value)) := do
  return (← mergedEntries entries) ++ (← ownEntries entries)

/-- The entries that are merged into a mapping. -/
def mergedEntries : List (Node × Node) → Result (List (Value × Value))
  | [] => .ok []
  | (.scalar .merge _, .mapping _ entries) :: more => do
    let merged ← mergedEntries entries
    let own ← ownEntries entries
    return merged ++ own ++ (← mergedEntries more)
  | (.scalar .merge _, .sequence _ items) :: more => do
    return (← mergedMappings items) ++ (← mergedEntries more)
  | (.scalar .merge _, _) :: _ => refuse "expected a mapping or list of mappings for merging"
  | _ :: more => mergedEntries more

/-- The entries of several mappings to be merged, those of the last one in front. -/
def mergedMappings : List Node → Result (List (Value × Value))
  | [] => .ok []
  | .mapping _ entries :: more => do
    let merged ← mergedEntries entries
    let own ← ownEntries entries
    return (← mergedMappings more) ++ merged ++ own
  | _ :: _ => refuse "expected a mapping for merging"

/-- The entries of a mapping itself. -/
def ownEntries : List (Node × Node) → Result (List (Value × Value))
  | [] => .ok []
  | (.scalar tag s, v) :: more =>
    if tag == .merge then ownEntries more
    else do
      let key ← scalarValue (if tag == .default then .text else tag) s
      return (key, ← value v) :: (← ownEntries more)
  | (_, _) :: _ => refuse "found an unhashable key"

end

/-- The value that a text holds; null if there is none. -/
def load (text : List Char) : Result Value := do
  match ← document? text with
  | none => return .null
  | some n => value n

/-! ## Files -/

/-- A text with every line end written as a line feed. -/
def withLineFeeds : List Char → List Char
  | '\r' :: '\n' :: rest => '\n' :: withLineFeeds rest
  | '\r' :: rest => '\n' :: withLineFeeds rest
  | c :: rest => c :: withLineFeeds rest
  | [] => []

namespace Fault

/-- A fault of a text as one of the file that holds it. -/
def toLoadFault : Fault → LoadFault
  | malformed reason => .malformed reason
  | badValue fault => .badValue fault

end Fault

/-- The loader of files with a YAML text. It reads a file to its end before it looks at the text. -/
def loader : Loader where
  load s := if s.rest.isEmpty then (load (withLineFeeds s.front)).mapError Fault.toLoadFault
    else .error .notText
  load_whole text h := by
    rw [List.isEmpty_nil, if_pos rfl] at h
    cases hload : load (withLineFeeds text) with
    | ok v =>
      rw [hload] at h
      cases h
    | error fault =>
      rw [hload] at h
      cases fault with
      | malformed reason => cases h
      | badValue fault => cases h

end InterfaceAtlas.Yaml

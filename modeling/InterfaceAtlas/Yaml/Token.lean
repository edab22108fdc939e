import InterfaceAtlas.Yaml.Scalar

/-!
# Tokens

A text is cut into tokens. Indentation becomes visible in them: a block starts where a line is
indented deeper than the block around it, and ends where a line is indented less. A key in front of
a colon is known as one only when the colon comes; its mark is then entered where the key started.
-/

namespace InterfaceAtlas.Yaml

/-- A piece of a text. -/
inductive Token where
  /-- `%YAML` with its major version. -/
  | version (major : Nat)
  /-- `%TAG` with a handle and what it stands for. -/
  | tagHandle (handle expansion : String)
  /-- A directive that means nothing here. -/
  | directive
  | documentStart
  | documentEnd
  | sequenceStart
  | mappingStart
  | blockEnd
  | listOpen
  | listClose
  | braceOpen
  | braceClose
  | entry
  | comma
  | key
  | value
  | reference (name : String)
  | anchor (name : String)
  /-- A tag: its handle, if it is written with one, and the rest. -/
  | tag (handle : Option String) (suffix : String)
  | scalar (text : String) (plain : Bool)
deriving DecidableEq, Repr, Inhabited

/-! ## Directives, anchors and tags -/

/-- The number in a version. -/
def versionNumber (c : Cursor) : Result (Nat × Cursor) :=
  let (digits, behind) := c.span Char.isDigit
  if digits.isEmpty then refuse "expected a digit"
  else .ok (digits.foldl (fun n d => n * 10 + (d.toNat - 48)) 0, behind)

/-- A character of a tag that stands for itself or starts an escape. -/
def isUriChar (c : Char) : Bool :=
  c.isAlphanum || "-;/?:@&=+$,_.!~*'()[]%".toList.contains c

/-- The bytes of a run of escapes. -/
def uriBytes : List Char → Result (List UInt8 × Nat)
  | '%' :: a :: b :: rest =>
    match hexNumber? [a, b] with
    | some n => do
      let (more, length) ← uriBytes rest
      return (n.toUInt8 :: more, length + 3)
    | none => refuse "expected two hexadecimal digits"
  | '%' :: _ => refuse "expected two hexadecimal digits"
  | _ => .ok ([], 0)

/-- The text of a tag behind its handle. -/
def uriUpTo : Nat → Cursor → List Char → Result (List Char × Cursor)
  | 0, c, text => .ok (text, c)
  | n + 1, c, text =>
    match c.peek with
    | some '%' => do
      let (bytes, length) ← uriBytes c.rest
      match Text.Utf8.decode? bytes with
      | some chars => uriUpTo n (c.advance length) (text ++ chars)
      | none => refuse "found escapes that are no text"
    | some ch => if isUriChar ch then uriUpTo n c.next (text ++ [ch]) else .ok (text, c)
    | none => .ok (text, c)

/-- The text of a tag, which is not empty. -/
def uri (c : Cursor) : Result (String × Cursor) := do
  let (text, behind) ← uriUpTo (c.rest.length + 1) c []
  if text.isEmpty then refuse "expected a tag" else return (String.ofList text, behind)

/-- The handle of a tag: an exclamation mark, or a name between two of them. -/
def handle (c : Cursor) : Result (String × Cursor) :=
  if c.peek != some '!' then refuse "expected an exclamation mark"
  else if c.peekAt 1 == some ' ' then .ok ("!", c.next)
  else
    let (name, behind) := c.next.span isNameChar
    if behind.peek == some '!' then .ok (String.ofList ('!' :: name ++ ['!']), behind.next)
    else refuse "expected an exclamation mark"

/-- A directive, from the percent sign on. -/
def directiveToken (c : Cursor) : Result (Token × Cursor) := do
  let (name, behind) := c.next.span isNameChar
  if name.isEmpty || !endsField behind.peek then refuse "expected the name of a directive"
  else if String.ofList name == "YAML" then
    let (major, afterMajor) ← versionNumber behind.skipSpaces
    if afterMajor.peek != some '.' then refuse "expected a digit or a point"
    else
      let (_, afterMinor) ← versionNumber afterMajor.next
      if endsField afterMinor.peek then return (.version major, ← afterMinor.skipComment)
      else refuse "expected a digit or a space"
  else if String.ofList name == "TAG" then
    let (h, afterHandle) ← handle behind.skipSpaces
    if afterHandle.peek != some ' ' then refuse "expected a space"
    else
      let (expansion, afterAll) ← uri afterHandle.skipSpaces
      if endsField afterAll.peek then return (.tagHandle h expansion, ← afterAll.skipComment)
      else refuse "expected a space"
  else return (.directive, ← behind.skipLine.skipComment)

/-- The name of an anchor or alias, from the mark in front of it on. -/
def anchorName (c : Cursor) : Result (String × Cursor) :=
  let (name, behind) := c.next.span isNameChar
  if name.isEmpty then refuse "expected a name"
  else if endsWord behind.peek || isOneOf "?:,]\x7d%@\x60" behind.peek then
    .ok (String.ofList name, behind)
  else refuse "expected a name"

/-- Whether a tag has a handle with a name: a second exclamation mark before the next space. -/
def hasHandle (c : Cursor) : Bool :=
  (c.rest.drop 1).takeWhile (fun ch => ch != ' ' && !isBreak ch) |>.contains '!'

/-- A tag, from its exclamation mark on. -/
def tagToken (c : Cursor) : Result (Token × Cursor) := do
  let (token, behind) ←
    if c.peekAt 1 == some '<' then do
      let (suffix, behind) ← uri (c.advance 2)
      if behind.peek == some '>' then pure (Token.tag none suffix, behind.next)
      else refuse "expected a closing bracket"
    else if endsWord (c.peekAt 1) then pure (Token.tag none "!", c.next)
    else do
      let (h, afterHandle) ← if hasHandle c then handle c else pure ("!", c.next)
      let (suffix, behind) ← uri afterHandle
      pure (Token.tag (some h) suffix, behind)
  if endsField behind.peek then return (token, behind) else refuse "expected a space"

/-! ## The state of cutting -/

/-- A place where a key may have started. -/
structure PossibleKey where
  /-- The number of tokens in front of it. -/
  before : Nat
  /-- It must be a key, since the line is indented like the keys of the block. -/
  required : Bool
  index : Nat
  line : Nat
  column : Nat
deriving Repr, Inhabited

/-- What is known while a text is cut. -/
structure Cutting where
  cursor : Cursor
  tokens : List Token := []
  /-- The number of brackets and braces that are open. -/
  depth : Nat := 0
  /-- The columns of the blocks that are open, the innermost first. -/
  indents : List Nat := []
  /-- A key may start here. -/
  keyAllowed : Bool := true
  /-- The place where a key may have started, for each depth. -/
  possibleKeys : List (Nat × PossibleKey) := []
deriving Repr, Inhabited

namespace Cutting

/-- The state with one more token. -/
def push (s : Cutting) (t : Token) : Cutting := { s with tokens := s.tokens ++ [t] }

/-- The state with a token entered behind the first `n`. -/
def enter (s : Cutting) (n : Nat) (t : Token) : Cutting :=
  { s with tokens := s.tokens.take n ++ t :: s.tokens.drop n }

/-- The state with the cursor moved. -/
def moveTo (s : Cutting) (c : Cursor) : Cutting := { s with cursor := c }

/-- The place where a key may have started at this depth. -/
def possibleKey? (s : Cutting) : Option PossibleKey := s.possibleKeys.lookup s.depth

/-- The state in which no key may have started at this depth. A key that must be one is a fault. -/
def dropKey (s : Cutting) : Result Cutting :=
  match s.possibleKey? with
  | some k =>
    if k.required then refuse "could not find expected ':'"
    else .ok { s with possibleKeys := s.possibleKeys.filter fun (d, _) => d != s.depth }
  | none => .ok s

/-- The state in which a key may have started here, if one is allowed. -/
def saveKey (s : Cutting) : Result Cutting := do
  if s.keyAllowed then
    let s ← s.dropKey
    let c := s.cursor
    let k : PossibleKey :=
      { before := s.tokens.length
        required := s.depth == 0 && s.indents.head? == some c.column
        index := c.index, line := c.line, column := c.column }
    return { s with possibleKeys := (s.depth, k) :: s.possibleKeys }
  else return s

/-- Whether a place is too far back for a key: on another line, or more than 1024 characters. -/
def isStale (c : Cursor) (k : PossibleKey) : Bool := k.line != c.line || 1024 < c.index - k.index

/-- The state without the places that are too far back for a key. -/
def dropStale (s : Cutting) : Result Cutting :=
  if s.possibleKeys.any fun (_, k) => isStale s.cursor k && k.required then
    refuse "could not find expected ':'"
  else .ok { s with possibleKeys := s.possibleKeys.filter fun (_, k) => !isStale s.cursor k }

/-- The state with all blocks closed that are indented deeper than a column. -/
def closeTo (s : Cutting) (isDeeper : Nat → Bool) : Cutting :=
  if s.depth != 0 then s
  else
    { s with
      indents := s.indents.dropWhile isDeeper
      tokens := s.tokens ++ (s.indents.takeWhile isDeeper).map fun _ => Token.blockEnd }

/-- Whether a column is deeper than the innermost block. -/
def isDeeper (s : Cutting) (column : Nat) : Bool :=
  match s.indents with
  | [] => true
  | n :: _ => n < column

/-- The state with a block opened at a column behind the first `n` tokens, if it is deeper than the
innermost one. -/
def openBlock (s : Cutting) (n : Nat) (column : Nat) (t : Token) : Cutting :=
  if s.isDeeper column then { s.enter n t with indents := column :: s.indents } else s

/-! ## Steps -/

/-- The state behind blanks, comments and line ends. A line end outside of brackets allows a key. -/
def skipToNext : Nat → Cutting → Cutting
  | 0, s => s
  | n + 1, s =>
    let spaces := s.cursor.skipSpaces
    let here := if spaces.peek == some '#' then spaces.skipLine else spaces
    match here.lineBreak? with
    | some (_, behind) =>
      skipToNext n { s with cursor := behind, keyAllowed := s.depth == 0 || s.keyAllowed }
    | none => { s with cursor := here }

/-- The state behind a byte order mark at the start of the text. -/
def skipMark (s : Cutting) : Cutting :=
  if s.cursor.index == 0 && s.cursor.peek == some '\ufeff' then s.moveTo s.cursor.next else s

/-- The state in which everything is closed and no key may start. -/
def finish (s : Cutting) : Result Cutting := do
  let s ← (s.closeTo fun _ => true).dropKey
  return { s with keyAllowed := false }

/-- A document mark. -/
def documentMark (s : Cutting) (t : Token) : Result Cutting := do
  let s ← s.finish
  return (s.push t).moveTo (s.cursor.advance 3)

/-- An opening bracket or brace. -/
def opening (s : Cutting) (t : Token) : Result Cutting := do
  let s ← s.saveKey
  return { s.push t with depth := s.depth + 1, keyAllowed := true, cursor := s.cursor.next }

/-- A closing bracket or brace. -/
def closing (s : Cutting) (t : Token) : Result Cutting := do
  let s ← s.dropKey
  if s.depth == 0 then refuse "found a closing bracket that was not opened"
  else return { s.push t with depth := s.depth - 1, keyAllowed := false, cursor := s.cursor.next }

/-- A comma. -/
def separator (s : Cutting) : Result Cutting := do
  let s ← s.dropKey
  return { s.push .comma with keyAllowed := true, cursor := s.cursor.next }

/-- A dash in front of an item. -/
def blockEntry (s : Cutting) : Result Cutting := do
  if s.depth == 0 && !s.keyAllowed then refuse "sequence entries are not allowed here"
  else
    let s := if s.depth == 0 then s.openBlock s.tokens.length s.cursor.column .sequenceStart else s
    let s ← s.dropKey
    return { s.push .entry with keyAllowed := true, cursor := s.cursor.next }

/-- A question mark in front of a key. -/
def keyMark (s : Cutting) : Result Cutting := do
  if s.depth == 0 && !s.keyAllowed then refuse "mapping keys are not allowed here"
  else
    let s := if s.depth == 0 then s.openBlock s.tokens.length s.cursor.column .mappingStart else s
    let s ← s.dropKey
    return { s.push .key with keyAllowed := s.depth == 0, cursor := s.cursor.next }

/-- A colon in front of a value. What may have been a key in front of it is one now. -/
def valueMark (s : Cutting) : Result Cutting := do
  match s.possibleKey? with
  | some k =>
    let s := { s with possibleKeys := s.possibleKeys.filter fun (d, _) => d != s.depth }
    let s := s.enter k.before .key
    let s := if s.depth == 0 then s.openBlock k.before k.column .mappingStart else s
    return { s.push .value with keyAllowed := false, cursor := s.cursor.next }
  | none =>
    if s.depth == 0 && !s.keyAllowed then refuse "mapping values are not allowed here"
    else
      let s := if s.depth == 0 then s.openBlock s.tokens.length s.cursor.column .mappingStart else s
      let s ← s.dropKey
      return { s.push .value with keyAllowed := s.depth == 0, cursor := s.cursor.next }

/-- A token that may start a key. -/
def keyable (s : Cutting) (read : Cursor → Result (Token × Cursor)) : Result Cutting := do
  let s ← s.saveKey
  let (t, behind) ← read s.cursor
  return { s.push t with keyAllowed := false, cursor := behind }

/-- A quoted scalar. -/
def quoted (s : Cutting) (double : Bool) : Result Cutting :=
  s.keyable fun c => do
    let (text, behind) ← quotedScalar double c
    return (.scalar (String.ofList text) false, behind)

/-- A block scalar. -/
def block (s : Cutting) (folded : Bool) : Result Cutting := do
  let s ← s.dropKey
  let (text, behind) ← blockScalar folded s.indents.head? s.cursor
  return { s.push (.scalar (String.ofList text) false) with keyAllowed := true, cursor := behind }

/-- A plain scalar. A key may start behind it if its last line ended. -/
def plain (s : Cutting) : Result Cutting := do
  let s ← s.saveKey
  let indent := match s.indents.head? with
    | some n => n + 1
    | none => 0
  let (text, behind, broken) := plainScalar (s.depth != 0) indent s.cursor
  return { s.push (.scalar (String.ofList text) true) with keyAllowed := broken, cursor := behind }

/-- Whether a plain scalar may start here. -/
def startsPlain (s : Cutting) (ch : Char) : Bool :=
  !(endsWord (some ch) || isOneOf "-?:,[]\x7b\x7d#&*!|>'\x22%@\x60" (some ch))
    || !endsWord (s.cursor.peekAt 1) && (ch == '-' || s.depth == 0 && (ch == '?' || ch == ':'))

/-- The state behind the next token. -/
def token (s : Cutting) (ch : Char) : Result Cutting :=
  let c := s.cursor
  let wordEnds := endsWord (c.peekAt 1)
  if ch == '%' && c.column == 0 then do
    let s ← s.finish
    let (t, behind) ← directiveToken s.cursor
    return (s.push t).moveTo behind
  else if c.column == 0 && c.atDocumentMark then
    s.documentMark (if ch == '-' then .documentStart else .documentEnd)
  else if ch == '[' then s.opening .listOpen
  else if ch == '\x7b' then s.opening .braceOpen
  else if ch == ']' then s.closing .listClose
  else if ch == '\x7d' then s.closing .braceClose
  else if ch == ',' then s.separator
  else if ch == '-' && wordEnds then s.blockEntry
  else if ch == '?' && (s.depth != 0 || wordEnds) then s.keyMark
  else if ch == ':' && (s.depth != 0 || wordEnds) then s.valueMark
  else if ch == '*' then s.keyable fun c => do
    let (name, behind) ← anchorName c
    return (.reference name, behind)
  else if ch == '&' then s.keyable fun c => do
    let (name, behind) ← anchorName c
    return (.anchor name, behind)
  else if ch == '!' then s.keyable tagToken
  else if ch == '|' && s.depth == 0 then s.block false
  else if ch == '>' && s.depth == 0 then s.block true
  else if ch == '\x27' then s.quoted false
  else if ch == '\x22' then s.quoted true
  else if s.startsPlain ch then s.plain
  else refuse "found a character that cannot start any token"

/-- The tokens from a state on, at most `n` steps further. -/
def run : Nat → Cutting → Result (List Token)
  | 0, s => .ok s.tokens
  | n + 1, s => do
    let s ← (skipToNext (s.cursor.rest.length + 1) s.skipMark).dropStale
    let column := s.cursor.column
    let s := s.closeTo fun indent => column < indent
    match s.cursor.peek with
    | none => return (← s.finish).tokens
    | some ch => run n (← s.token ch)

end Cutting

/-- The tokens of a text. -/
def tokens (text : List Char) : Result (List Token) :=
  if text.all isAllowed then Cutting.run (text.length + 1) { cursor := { rest := text } }
  else refuse "special characters are not allowed"

end InterfaceAtlas.Yaml

import InterfaceAtlas.Value.Basic

/-!
# Places in a YAML text

A cursor is what is left of a text, with the line and column where it starts. Faults of a text are
of two kinds: it does not keep to the rules, or a value has the right form and no meaning.
-/

namespace InterfaceAtlas.Yaml

/-- Why a text has no value. -/
inductive Fault where
  /-- The text does not keep to the rules. -/
  | malformed (reason : String)
  /-- What is written as a value is none. -/
  | badValue (fault : ValueFault)
deriving DecidableEq, Repr, Inhabited

/-- A reading that can fail. -/
abbrev Result (α : Type) := Except Fault α

/-- The text does not keep to the rules. -/
def refuse {α : Type} (reason : String) : Result α := .error (.malformed reason)

/-- What is written as a value is none. -/
def misfit {α : Type} (fault : ValueFault) : Result α := .error (.badValue fault)

/-! ## Characters -/

/-- Whether a character ends a line. -/
def isBreak (c : Char) : Bool := c == '\n' || c == '\x85' || c == '\u2028' || c == '\u2029'

/-- Whether a character may stand in a text. -/
def isAllowed (c : Char) : Bool :=
  let n := c.toNat
  n == 0x09 || n == 0x0a || n == 0x0d || 0x20 ≤ n && n ≤ 0x7e || n == 0x85
    || 0xa0 ≤ n && n ≤ 0xfffd || 0x10000 ≤ n

/-- Whether a line ends here: at a line end, or at the end of the text. -/
def endsLine : Option Char → Bool
  | none => true
  | some c => isBreak c

/-- Whether a word ends here: at a blank, or where a line ends. -/
def endsWord : Option Char → Bool
  | none => true
  | some c => c == ' ' || c == '\t' || isBreak c

/-- Whether a space or the end of the line is here. -/
def endsField (c : Option Char) : Bool := c == some ' ' || endsLine c

/-- Whether one of the characters of a text is here. -/
def isOneOf (set : String) : Option Char → Bool
  | none => false
  | some c => set.toList.contains c

/-- Whether a character may stand in the name of an anchor or a directive. -/
def isNameChar (c : Char) : Bool := c.isAlphanum || c == '-' || c == '_'

/-! ## Cursors -/

/-- What is left of a text, and where it starts. -/
structure Cursor where
  rest : List Char
  index : Nat := 0
  line : Nat := 0
  column : Nat := 0
deriving Repr, Inhabited

namespace Cursor

/-- The next character. -/
def peek (c : Cursor) : Option Char := c.rest.head?

/-- The character `k` places on. -/
def peekAt (c : Cursor) (k : Nat) : Option Char := c.rest[k]?

/-- The cursor behind the next character. A byte order mark takes no column. -/
def next (c : Cursor) : Cursor :=
  match c.rest with
  | [] => c
  | ch :: rest =>
    if isBreak ch then { rest, index := c.index + 1, line := c.line + 1, column := 0 }
    else { rest, index := c.index + 1, line := c.line,
           column := if ch == '\ufeff' then c.column else c.column + 1 }

/-- The cursor `k` characters on. -/
def advance (c : Cursor) : Nat → Cursor
  | 0 => c
  | k + 1 => c.next.advance k

/-- The run of characters of a class, and the cursor behind it. -/
def span (c : Cursor) (p : Char → Bool) : List Char × Cursor :=
  let run := c.rest.takeWhile p
  (run, c.advance run.length)

/-- The cursor behind a run of characters of a class. -/
def skip (c : Cursor) (p : Char → Bool) : Cursor := (c.span p).2

/-- The cursor behind the spaces. -/
def skipSpaces (c : Cursor) : Cursor := c.skip (· == ' ')

/-- The cursor at the end of the line. -/
def skipLine (c : Cursor) : Cursor := c.skip fun ch => !isBreak ch

/-- The line end that is here, as it counts in a text, and the cursor behind it. -/
def lineBreak? (c : Cursor) : Option (Char × Cursor) :=
  match c.peek with
  | some ch =>
    if ch == '\n' || ch == '\x85' then some ('\n', c.next)
    else if isBreak ch then some (ch, c.next)
    else none
  | none => none

/-- Whether three dashes or three dots stand here as a word. -/
def atDocumentMark (c : Cursor) : Bool :=
  (c.rest.take 3 == ['-', '-', '-'] || c.rest.take 3 == ['.', '.', '.']) && endsWord (c.peekAt 3)

/-- The cursor behind the rest of a line that may only hold a comment. -/
def skipComment (c : Cursor) : Result Cursor :=
  let here := c.skipSpaces
  let there := if here.peek == some '#' then here.skipLine else here
  match there.peek with
  | none => .ok there
  | some _ =>
    match there.lineBreak? with
    | some (_, behind) => .ok behind
    | none => refuse "expected a comment or a line break"

end Cursor

end InterfaceAtlas.Yaml

import InterfaceAtlas.Text.Utf8
import InterfaceAtlas.Yaml.Cursor

/-!
# Scalars

The five ways to write a text: plain, in single or double quotes, and as a literal or folded block.
A line end inside a text that is not literal counts as a space, and a blank line as a line end.

The loops over lines take at most as many turns as there are characters left.
-/

namespace InterfaceAtlas.Yaml

open Cursor

/-- The value of a hexadecimal digit. -/
def hexDigit? (c : Char) : Option Nat :=
  if c.isDigit then some (c.toNat - 48)
  else if 'a' ≤ c && c ≤ 'f' then some (c.toNat - 87)
  else if 'A' ≤ c && c ≤ 'F' then some (c.toNat - 55)
  else none

/-- The number that hexadecimal digits stand for; none if there is another character. -/
def hexNumber? (cs : List Char) : Option Nat :=
  cs.foldl (fun n? c => do return (← n?) * 16 + (← hexDigit? c)) (some 0)

/-! ## Folding -/

/-- What a line end and the blank lines behind it stand for: one space, or the blank lines. -/
def fold (first : Char) (blank : List Char) : List Char :=
  if first != '\n' then first :: blank
  else if blank.isEmpty then [' ']
  else blank

/-! ## Plain scalars -/

/-- Whether a plain scalar stops before a character with another one behind it. -/
def stopsPlain (inFlow : Bool) (ch : Char) (behind : Option Char) : Bool :=
  endsWord (some ch)
    || ch == ':' && (endsWord behind || inFlow && isOneOf ",[]\x7b\x7d" behind)
    || inFlow && isOneOf ",?[]\x7b\x7d" (some ch)

/-- The length of the part of a plain scalar on one line, up to the first blank. -/
def plainLength (inFlow : Bool) : List Char → Nat
  | [] => 0
  | ch :: rest => if stopsPlain inFlow ch rest.head? then 0 else plainLength inFlow rest + 1

/-- The blank lines and the indentation in front of the next line of a plain scalar; none if a
document mark comes first. -/
def plainBreaks : Nat → Cursor → List Char → Option (List Char × Cursor)
  | 0, c, blank => some (blank, c)
  | n + 1, c, blank =>
    if c.peek == some ' ' then plainBreaks n c.next blank
    else match c.lineBreak? with
      | some (ch, behind) =>
        if behind.atDocumentMark then none else plainBreaks n behind (blank ++ [ch])
      | none => some (blank, c)

/-- What stands between two parts of a plain scalar. -/
structure PlainGap where
  text : List Char
  cursor : Cursor
  /-- The gap spans a line end. -/
  broken : Bool

/-- The gap behind a part of a plain scalar. -/
def plainGap (c : Cursor) : PlainGap :=
  let (spaces, behind) := c.span (· == ' ')
  match behind.lineBreak? with
  | none => ⟨spaces, behind, false⟩
  | some (first, below) =>
    if below.atDocumentMark then ⟨[], below, true⟩
    else match plainBreaks (below.rest.length + 1) below [] with
      | none => ⟨[], below.skip fun ch => ch == ' ' || isBreak ch, true⟩
      | some (blank, at_) => ⟨fold first blank, at_, true⟩

/-- A plain scalar from its first part on. The flag tells whether the line ended behind it. -/
def plainUpTo (inFlow : Bool) (indent : Nat) :
    Nat → Cursor → List Char → Bool → List Char × Cursor × Bool
  | 0, c, text, broken => (text, c, broken)
  | n + 1, c, text, broken =>
    if c.peek == some '#' then (text, c, broken)
    else
      let length := plainLength inFlow c.rest
      if length == 0 then (text, c, broken)
      else
        let whole := text ++ c.rest.take length
        let gap := plainGap (c.advance length)
        if gap.text.isEmpty || gap.cursor.peek == some '#'
            || !inFlow && gap.cursor.column < indent then (whole, gap.cursor, gap.broken)
        else
          -- The gap counts only if another part follows.
          if gap.cursor.peek == some '#' || plainLength inFlow gap.cursor.rest == 0 then
            (whole, gap.cursor, gap.broken)
          else plainUpTo inFlow indent n gap.cursor (whole ++ gap.text) false

/-- A plain scalar, the cursor behind it, and whether its last line ended. Its lines are indented by
at least `indent`. -/
def plainScalar (inFlow : Bool) (indent : Nat) (c : Cursor) : List Char × Cursor × Bool :=
  plainUpTo inFlow indent (c.rest.length + 1) c [] false

/-! ## Quoted scalars -/

/-- What the letter behind a backslash stands for. -/
def escapeLetters : List (Char × Char) :=
  [('0', '\x00'), ('a', '\x07'), ('b', '\x08'), ('t', '\t'), ('\t', '\t'), ('n', '\n'),
    ('v', '\x0b'), ('f', '\x0c'), ('r', '\r'), ('e', '\x1b'), (' ', ' '), ('\x22', '\x22'),
    ('\x5c', '\x5c'), ('/', '/'), ('N', '\x85'), ('_', '\xa0'), ('L', '\u2028'), ('P', '\u2029')]

/-- The number of digits behind the letter of a numeric escape. -/
def escapeWidths : List (Char × Nat) := [('x', 2), ('u', 4), ('U', 8)]

/-- The blank lines inside a quoted scalar. -/
def quotedBreaks : Nat → Cursor → List Char → Result (List Char × Cursor)
  | 0, c, blank => .ok (blank, c)
  | n + 1, c, blank =>
    if c.atDocumentMark then refuse "found a document separator in a quoted scalar"
    else
      let here := c.skip fun ch => ch == ' ' || ch == '\t'
      match here.lineBreak? with
      | some (ch, behind) => quotedBreaks n behind (blank ++ [ch])
      | none => .ok (blank, here)

/-- The blanks between two words of a quoted scalar. -/
def quotedGap (c : Cursor) : Result (List Char × Cursor) :=
  let (blanks, behind) := c.span fun ch => ch == ' ' || ch == '\t'
  match behind.peek, behind.lineBreak? with
  | none, _ => refuse "found the end of the text in a quoted scalar"
  | _, some (first, below) => do
    let (blank, there) ← quotedBreaks (below.rest.length + 1) below []
    return (fold first blank, there)
  | _, none => .ok (blanks, behind)

/-- The character of a numeric escape. -/
def numericEscape (width : Nat) (c : Cursor) : Result (Char × Cursor) :=
  let digits := c.rest.take width
  match hexNumber? digits with
  | some n =>
    if digits.length < width then refuse "expected hexadecimal digits"
    else if 0x110000 ≤ n then misfit (.outOfRange "chr() arg not in range(0x110000)")
    else .ok (Char.ofNat n, c.advance width)
  | none => refuse "expected hexadecimal digits"

/-- What an escape stands for, with the cursor behind the backslash. -/
def escapeSequence (c : Cursor) : Result (List Char × Cursor) :=
  match c.peek with
  | none => refuse "found an unknown escape character"
  | some ch =>
    match escapeLetters.lookup ch, escapeWidths.lookup ch with
    | some meant, _ => .ok ([meant], c.next)
    | none, some width => do
      let (meant, behind) ← numericEscape width c.next
      return ([meant], behind)
    | none, none =>
      match c.lineBreak? with
      | some (_, below) => quotedBreaks (below.rest.length + 1) below []
      | none => refuse "found an unknown escape character"

/-- Whether a character ends the run of ordinary characters of a quoted scalar. -/
def stopsQuoted (ch : Char) : Bool :=
  ch == '\x27' || ch == '\x22' || ch == '\x5c' || ch == ' ' || ch == '\t' || isBreak ch

/-- A word of a quoted scalar: all up to a blank or the closing quote. -/
def quotedWord (double : Bool) : Nat → Cursor → List Char → Result (List Char × Cursor)
  | 0, c, text => .ok (text, c)
  | n + 1, c, text => do
    let (run, here) := c.span fun ch => !stopsQuoted ch
    let text := text ++ run
    match here.peek with
    | some ch =>
      if !double && ch == '\x27' && here.peekAt 1 == some '\x27' then
        quotedWord double n (here.advance 2) (text ++ ['\x27'])
      else if double && ch == '\x27' || !double && (ch == '\x22' || ch == '\x5c') then
        quotedWord double n here.next (text ++ [ch])
      else if double && ch == '\x5c' then
        let (meant, behind) ← escapeSequence here.next
        quotedWord double n behind (text ++ meant)
      else return (text, here)
    | none => return (text, here)

/-- The words and gaps of a quoted scalar, up to the closing quote. -/
def quotedUpTo (double : Bool) (quote : Char) :
    Nat → Cursor → List Char → Result (List Char × Cursor)
  | 0, _, _ => refuse "found the end of the text in a quoted scalar"
  | n + 1, c, text => do
    if c.peek == some quote then return (text, c.next)
    else
      let (gap, here) ← quotedGap c
      let (word, there) ← quotedWord double (here.rest.length + 1) here []
      quotedUpTo double quote n there (text ++ gap ++ word)

/-- A quoted scalar, from its opening quote on. -/
def quotedScalar (double : Bool) (c : Cursor) : Result (List Char × Cursor) := do
  let quote := if double then '\x22' else '\x27'
  let (word, here) ← quotedWord double (c.rest.length + 1) c.next []
  quotedUpTo double quote (c.rest.length + 1) here word

/-! ## Block scalars -/

/-- What becomes of the line ends behind a block. -/
inductive Chomping where
  | clip
  | strip
  | keep
deriving DecidableEq, Repr, Inhabited

/-- The mark for the line ends behind a block, if it is here. -/
def chompingMark (c : Cursor) : Chomping × Cursor :=
  match c.peek with
  | some '+' => (.keep, c.next)
  | some '-' => (.strip, c.next)
  | _ => (.clip, c)

/-- The digit for the indentation of a block, if it is here. -/
def indentMark (c : Cursor) : Result (Option Nat × Cursor) :=
  match c.peek with
  | some ch =>
    if ch == '0' then refuse "expected an indentation indicator in the range 1-9"
    else if ch.isDigit then .ok (some (ch.toNat - 48), c.next)
    else .ok (none, c)
  | none => .ok (none, c)

/-- The head of a block: its two marks in any order, and the rest of the line. -/
def blockHead (c : Cursor) : Result (Chomping × Option Nat × Cursor) := do
  let (first, afterFirst) := chompingMark c
  let (increment, afterIndent) ← indentMark afterFirst
  let (chomping, afterMarks) :=
    if first == .clip && increment.isSome then chompingMark afterIndent else (first, afterIndent)
  if endsField afterMarks.peek then return (chomping, increment, ← afterMarks.skipComment)
  else refuse "expected chomping or indentation indicators"

/-- The blank lines in front of a block, and the deepest column that their spaces reach. -/
def blockIndentation : Nat → Cursor → List Char → Nat → List Char × Nat × Cursor
  | 0, c, blank, deepest => (blank, deepest, c)
  | n + 1, c, blank, deepest =>
    if c.peek == some ' ' then blockIndentation n c.next blank (max deepest c.next.column)
    else match c.lineBreak? with
      | some (ch, behind) => blockIndentation n behind (blank ++ [ch]) deepest
      | none => (blank, deepest, c)

/-- The cursor behind spaces, but not beyond a column. -/
def indentTo (column : Nat) (c : Cursor) : Cursor :=
  c.advance (min (c.rest.takeWhile (· == ' ')).length (column - c.column))

/-- The blank lines inside a block. -/
def blockBreaks (indent : Nat) : Nat → Cursor → List Char → List Char × Cursor
  | 0, c, blank => (blank, c)
  | n + 1, c, blank =>
    match c.lineBreak? with
    | some (ch, behind) => blockBreaks indent n (indentTo indent behind) (blank ++ [ch])
    | none => (blank, c)

/-- The blank lines inside a block, from a place where spaces may stand. -/
def blockGap (indent : Nat) (c : Cursor) : List Char × Cursor :=
  blockBreaks indent (c.rest.length + 1) (indentTo indent c) []

/-- Whether a line of the block is here. -/
def atBlockLine (indent : Nat) (c : Cursor) : Bool := c.column == indent && !c.rest.isEmpty

/-- Whether a blank is here. -/
def atBlank (c : Cursor) : Bool := c.peek == some ' ' || c.peek == some '\t'

/-- The lines of a block. Gives the text, the last line end, the blank lines behind it, and the
cursor behind everything. -/
def blockLines (folded : Bool) (indent : Nat) :
    Nat → Cursor → List Char → List Char → List Char × List Char × List Char × Cursor
  | 0, c, text, blank => (text, [], blank, c)
  | n + 1, c, text, blank =>
    let (line, lineEnd) := c.span fun ch => !isBreak ch
    let text := text ++ blank ++ line
    let (ending, below) := match lineEnd.lineBreak? with
      | some (ch, behind) => ([ch], behind)
      | none => ([], lineEnd)
    let (gap, here) := blockGap indent below
    if atBlockLine indent here then
      if folded && ending == ['\n'] && !atBlank c && !atBlank here then
        blockLines folded indent n here (if gap.isEmpty then text ++ [' '] else text) gap
      else blockLines folded indent n here (text ++ ending) gap
    else (text, ending, gap, here)

/-- A block scalar, from the mark in front of it on. `parent` is the indentation of the block that
it belongs to. -/
def blockScalar (folded : Bool) (parent : Option Nat) (c : Cursor) :
    Result (List Char × Cursor) := do
  let (chomping, increment, start) ← blockHead c.next
  let least := match parent with
    | some n => n + 1
    | none => 1
  let (indent, blank, here) := match increment with
    | none =>
      let (blank, deepest, here) := blockIndentation (start.rest.length + 1) start [] 0
      (max least deepest, blank, here)
    | some k =>
      let (blank, here) := blockGap (least + k - 1) start
      (least + k - 1, blank, here)
  let (text, ending, gap, behind) :=
    if atBlockLine indent here then blockLines folded indent (here.rest.length + 1) here [] blank
    else ([], [], blank, here)
  return (text ++ (if chomping == .strip then [] else ending)
    ++ (if chomping == .keep then gap else []), behind)

end InterfaceAtlas.Yaml

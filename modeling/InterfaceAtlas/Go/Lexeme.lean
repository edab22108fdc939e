import InterfaceAtlas.Syntax.Node
import InterfaceAtlas.Text.Identifier

/-!
# Lexemes of Go

A source text is cut into lexemes. Words, numbers, string and rune literals are as long as the text
allows; every other visible character is a lexeme of its own, because which characters form an
operator depends on the place (`a <- b` sends, `(a <- b)` compares `a` with `-b`). Line feeds are
lexemes too, since they end statements where the grammar lets a statement end. Blanks and comments
are dropped, and so is a line feed inside a comment.
-/

namespace InterfaceAtlas.Go

open Text.Utf8 (Glyph)

/-- What a lexeme is. -/
inductive LexemeKind where
  /-- A name or a keyword. -/
  | word (spelling : String)
  /-- A number of any form. -/
  | number
  /-- A string literal, raw or interpreted. -/
  | string
  /-- A rune literal. -/
  | rune
  /-- One character of punctuation, or one that has no place in the language. -/
  | mark (char : Char)
  /-- The end of a line. -/
  | newline
deriving DecidableEq, Repr, Inhabited

/-- A lexeme and the span it covers. -/
structure Lexeme where
  kind : LexemeKind
  start : Point
  stop : Point
deriving DecidableEq, Repr, Inhabited

/-! ## Runs of characters -/

/-- Whether a glyph is a character that satisfies `p`. -/
def shows (p : Char → Bool) (g : Glyph) : Bool := g.char?.any p

/-- The number of leading glyphs that satisfy `p`. -/
def run (p : Glyph → Bool) : List Glyph → Nat
  | [] => 0
  | g :: gs => if p g then run p gs + 1 else 0

/-- Whether the glyphs start with the given characters. -/
def startsWith : List Char → List Glyph → Bool
  | [], _ => true
  | _ :: _, [] => false
  | c :: cs, g :: gs => g.char? == some c && startsWith cs gs

/-- Whether the first `n` glyphs exist and satisfy `p`. -/
def allShow (p : Char → Bool) (n : Nat) (gs : List Glyph) : Bool :=
  (gs.take n).length == n && (gs.take n).all (shows p)

/-- White space within a line. -/
def isGap (c : Char) : Bool := c == ' ' || c == '\t' || c == '\r' || c == '\x0b' || c == '\x0c'

/-- A digit of the base sixteen. -/
def isHex (c : Char) : Bool := c.isDigit || ('a' ≤ c && c ≤ 'f') || ('A' ≤ c && c ≤ 'F')

/-- A digit of the base eight. -/
def isOctal (c : Char) : Bool := '0' ≤ c && c ≤ '7'

/-- A digit of the base two. -/
def isBinary (c : Char) : Bool := c == '0' || c == '1'

/-! ## Comments -/

/-- The length of the rest of a block comment, closing mark included. -/
def blockCommentTail : List Glyph → Option Nat
  | [] => none
  | g :: gs =>
    if startsWith ['*', '/'] (g :: gs) then some 2 else (blockCommentTail gs).map (· + 1)

/-- The length of the comment at the start; none where none starts, or where it has no end. -/
def comment (gs : List Glyph) : Option Nat :=
  if startsWith ['/', '/'] gs then some (run (fun g => g.char? != some '\n') gs)
  else if startsWith ['/', '*'] gs then (blockCommentTail (gs.drop 2)).map (· + 2)
  else none

/-! ## Numbers

Every function here gives the length of the longest number of its form at the start of the text,
zero where there is none. -/

/-- More digits, each with at most one underscore before it. -/
def moreDigits (p : Char → Bool) : List Glyph → Nat
  | g :: h :: gs =>
    if shows p g then moreDigits p (h :: gs) + 1
    else if g.char? == some '_' && shows p h then moreDigits p gs + 2
    else 0
  | [g] => if shows p g then 1 else 0
  | [] => 0

/-- Digits with single underscores between them. -/
def digits (p : Char → Bool) : List Glyph → Nat
  | [] => 0
  | g :: gs => if shows p g then moreDigits p gs + 1 else 0

/-- `first` glyphs and then, if `len rest` is not zero, that many more; else nothing. -/
def followedBy (first : Nat) (len : List Glyph → Nat) (gs : List Glyph) : Nat :=
  if first == 0 then 0
  else match len (gs.drop first) with
    | 0 => 0
    | n + 1 => first + (n + 1)

/-- One glyph that satisfies `p`. -/
def one (p : Char → Bool) : List Glyph → Nat
  | [] => 0
  | g :: _ => if shows p g then 1 else 0

/-- An exponent: its letter, an optional sign and decimal digits. -/
def exponent (letter : Char → Bool) (gs : List Glyph) : Nat :=
  let mark := one letter gs
  let sign := one (fun c => c == '+' || c == '-') (gs.drop mark)
  if mark == 0 then 0 else followedBy (mark + sign) (digits Char.isDigit) gs

/-- A zero, one of two letters, an optional underscore and digits of a base. -/
def based (letter : Char → Bool) (p : Char → Bool) (gs : List Glyph) : Nat :=
  let lead := one (· == '0') gs
  let mark := one letter (gs.drop lead)
  if lead == 0 || mark == 0 then 0
  else followedBy (2 + one (· == '_') (gs.drop 2)) (digits p) gs

/-- An octal number, with or without the letter. -/
def octal (gs : List Glyph) : Nat :=
  let lead := one (· == '0') gs
  let mark := one (fun c => c == 'o' || c == 'O') (gs.drop lead)
  if lead == 0 then 0
  else followedBy (1 + mark + one (· == '_') (gs.drop (1 + mark))) (digits isOctal) gs

/-- The lengths of the whole numbers at the start. -/
def integers (gs : List Glyph) : List Nat :=
  [ based (fun c => c == 'b' || c == 'B') isBinary gs,
    based (fun c => c == 'x' || c == 'X') isHex gs,
    octal gs,
    one (· == '0') gs,
    if one (· == '0') gs == 0 then digits Char.isDigit gs else 0 ]

/-- The lengths of the decimal fractions at the start. -/
def decimals (gs : List Glyph) : List Nat :=
  let isE := fun c => c == 'e' || c == 'E'
  let whole := digits Char.isDigit gs
  let dot := one (· == '.') (gs.drop whole)
  let fraction := digits Char.isDigit (gs.drop (whole + dot))
  let mantissa := whole + dot + fraction
  [ followedBy whole (exponent isE) gs,
    if dot == 0 || whole + fraction == 0 then 0 else mantissa + exponent isE (gs.drop mantissa) ]

/-- The length of the hexadecimal fraction at the start. -/
def hexFraction (gs : List Glyph) : Nat :=
  let mark := one (fun c => c == 'x' || c == 'X') (gs.drop 1)
  let gap := one (· == '_') (gs.drop 2)
  let whole := digits isHex (gs.drop (2 + gap))
  let dot := one (· == '.') (gs.drop (2 + gap + whole))
  let fraction := digits isHex (gs.drop (2 + gap + whole + dot))
  if one (· == '0') gs == 0 || mark == 0 || whole + fraction == 0 || (whole == 0 && gap == 1) then 0
  else followedBy (2 + gap + whole + dot + (if dot == 0 then 0 else fraction))
    (exponent fun c => c == 'p' || c == 'P') gs

/-- The longest number at the start, with or without the mark of an imaginary part. -/
def number (gs : List Glyph) : Nat :=
  let reals := hexFraction gs :: (integers gs ++ decimals gs)
  let imaginary := (digits Char.isDigit gs :: reals).map fun n =>
    followedBy n (one (· == 'i')) gs
  (reals ++ imaginary).foldl Nat.max 0

/-! ## Literals in quotes -/

/-- The length of the rest of an interpreted string, closing quote included. A backslash takes the
next character along; `\x`, `\u` and `\U` need two, four and eight digits. -/
def interpretedTail : List Glyph → Option Nat
  | [] => none
  | g :: gs =>
    match g.char? with
    | some '\x22' => some 1
    | some '\n' => none
    | some '\x5c' =>
      match gs with
      | [] => none
      | h :: hs =>
        let complete := match h.char? with
          | some 'x' => allShow isHex 2 hs
          | some 'u' => allShow isHex 4 hs
          | some 'U' => allShow isHex 8 hs
          | _ => true
        if complete then (interpretedTail hs).map (· + 2) else none
    | _ => (interpretedTail gs).map (· + 1)

/-- The length of the rest of a raw string, closing quote included. -/
def rawTail : List Glyph → Option Nat
  | [] => none
  | g :: gs => if g.char? == some '\x60' then some 1 else (rawTail gs).map (· + 1)

/-- The length of what a rune literal may hold between its quotes. -/
def runeBody : List Glyph → Nat
  | [] => 0
  | g :: gs =>
    match g.char? with
    | some '\x5c' =>
      if startsWith ['x'] gs && allShow isHex 2 (gs.drop 1) then 4
      else if allShow isOctal 3 gs then 4
      else if startsWith ['u'] gs && allShow isHex 4 (gs.drop 1) then 6
      else if startsWith ['U'] gs && allShow isHex 8 (gs.drop 1) then 10
      else if one (fun c => "abfnrtv\x5c\x27\x22".contains c) gs == 1 then 2
      else 0
    | some '\x27' => 0
    | some _ => 1
    | none => 0

/-- The length of the rune literal at the start. -/
def rune (gs : List Glyph) : Nat :=
  if startsWith ['\x27'] gs then
    match runeBody (gs.drop 1) with
    | 0 => 0
    | n + 1 => followedBy (n + 2) (one (· == '\x27')) gs
  else 0

/-! ## The lexemes of a text -/

/-- The text of glyphs that are all characters. -/
def spelling (gs : List Glyph) : String := String.ofList (gs.filterMap Glyph.char?)

/-- What stands at the start of `g :: gs`: the kind of a lexeme, or none for what is dropped, and
the number of glyphs it covers. -/
def scan (g : Glyph) (gs : List Glyph) : Option LexemeKind × Nat :=
  match g.char? with
  | none => (some (.mark Text.Utf8.replacement), 1)
  | some c =>
    if c == '\n' then (some .newline, 1)
    else if isGap c then (none, 1)
    else if Text.Identifier.isStart c then
      let n := run (shows Text.Identifier.isContinue) gs + 1
      (some (.word (spelling ((g :: gs).take n))), n)
    else match number (g :: gs) with
      | n + 1 => (some .number, n + 1)
      | 0 =>
        if c == '/' then
          match comment (g :: gs) with
          | some n => (none, n)
          | none => (some (.mark c), 1)
        else if c == '\x22' then
          match interpretedTail gs with
          | some n => (some .string, n + 1)
          | none => (some (.mark c), 1)
        else if c == '\x60' then
          match rawTail gs with
          | some n => (some .string, n + 1)
          | none => (some (.mark c), 1)
        else match rune (g :: gs) with
          | n + 1 => (some .rune, n + 1)
          | 0 => (some (.mark c), 1)

/-- The point behind a glyph. -/
def pointAfter (p : Point) (g : Glyph) : Point := p.after (g.char? == some '\n') g.width

/-- The lexemes of a text at `p` whose first `covered` glyphs belong to a lexeme already read. -/
def lexemesFrom : Nat → Point → List Glyph → List Lexeme
  | _, _, [] => []
  | covered + 1, p, g :: gs => lexemesFrom covered (pointAfter p g) gs
  | 0, p, g :: gs =>
    match scan g gs with
    | (some kind, n) =>
      ⟨kind, p, ((g :: gs).take n).foldl pointAfter p⟩ :: lexemesFrom (n - 1) (pointAfter p g) gs
    | (none, n) => lexemesFrom (n - 1) (pointAfter p g) gs

/-- The byte order mark, which may stand at the very start of a text. -/
def byteOrderMark : Char := '\ufeff'

/-- The lexemes of a source text. -/
def lexemes (source : List UInt8) : List Lexeme :=
  match Text.Utf8.glyphs source with
  | g :: gs =>
    lexemesFrom (if g.char? == some byteOrderMark then 1 else 0) Point.origin (g :: gs)
  | [] => []

end InterfaceAtlas.Go

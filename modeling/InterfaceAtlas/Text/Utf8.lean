/-!
# UTF-8

Bytes to characters and back.

* `Utf8.encode` writes characters as bytes.
* `Utf8.glyphs` cuts any byte string into glyphs: well-formed scalars, and faults that each cover
  the longest prefix some scalar could start with. Nothing is lost: the widths add up to the
  number of bytes.
* `Utf8.decode?` reads a byte string that has no fault; `Utf8.decodeLossy` puts one replacement
  character in the place of each fault.
* `Utf8.stream` is what one meets who reads the bytes from the front and cannot get over a fault.
-/

namespace InterfaceAtlas.Text.Utf8

/-- The character shown in the place of a fault. -/
def replacement : Char := '\ufffd'

/-! ## Writing -/

/-- The bytes of one character. -/
def encodeChar (c : Char) : List UInt8 :=
  let n := c.toNat
  if n < 0x80 then [n.toUInt8]
  else if n < 0x800 then [(0xc0 + n / 0x40).toUInt8, (0x80 + n % 0x40).toUInt8]
  else if n < 0x10000 then
    [(0xe0 + n / 0x1000).toUInt8, (0x80 + n / 0x40 % 0x40).toUInt8, (0x80 + n % 0x40).toUInt8]
  else
    [(0xf0 + n / 0x40000).toUInt8, (0x80 + n / 0x1000 % 0x40).toUInt8,
      (0x80 + n / 0x40 % 0x40).toUInt8, (0x80 + n % 0x40).toUInt8]

/-- The bytes of a text. -/
def encode (cs : List Char) : List UInt8 := cs.flatMap encodeChar

/-! ## Reading -/

/-- One step of reading: a character, or a fault where no character can be read, and the number of
bytes it covers. -/
structure Glyph where
  char? : Option Char
  width : Nat
deriving DecidableEq, Repr, Inhabited

/-- A byte that may continue a scalar at all. -/
def isTail (b : UInt8) : Bool := 0x80 ≤ b && b ≤ 0xbf

/-- The second bytes that may follow the lead byte `b` of a scalar of three or four bytes. The
bounds shut out overlong forms, surrogates and values above U+10FFFF. -/
def secondByte (lead b : UInt8) : Bool :=
  if lead == 0xe0 then 0xa0 ≤ b && b ≤ 0xbf
  else if lead == 0xed then 0x80 ≤ b && b ≤ 0x9f
  else if lead == 0xf0 then 0x90 ≤ b && b ≤ 0xbf
  else if lead == 0xf4 then 0x80 ≤ b && b ≤ 0x8f
  else isTail b

/-- The six low bits of a continuation byte. -/
def low6 (b : UInt8) : Nat := b.toNat % 0x40

/-- The glyph at the start of `b :: rest`. -/
def glyph (b : UInt8) (rest : List UInt8) : Glyph :=
  if b < 0x80 then ⟨some (Char.ofNat b.toNat), 1⟩
  else if b < 0xc2 then ⟨none, 1⟩
  else if b < 0xe0 then
    match rest with
    | b₁ :: _ => if isTail b₁ then ⟨some (Char.ofNat ((b.toNat - 0xc0) * 0x40 + low6 b₁)), 2⟩
        else ⟨none, 1⟩
    | [] => ⟨none, 1⟩
  else if b < 0xf0 then
    match rest with
    | b₁ :: more =>
      if secondByte b b₁ then
        match more with
        | b₂ :: _ =>
          if isTail b₂ then
            ⟨some (Char.ofNat (((b.toNat - 0xe0) * 0x40 + low6 b₁) * 0x40 + low6 b₂)), 3⟩
          else ⟨none, 2⟩
        | [] => ⟨none, 2⟩
      else ⟨none, 1⟩
    | [] => ⟨none, 1⟩
  else if b < 0xf5 then
    match rest with
    | b₁ :: more =>
      if secondByte b b₁ then
        match more with
        | b₂ :: more' =>
          if isTail b₂ then
            match more' with
            | b₃ :: _ =>
              if isTail b₃ then
                ⟨some (Char.ofNat ((((b.toNat - 0xf0) * 0x40 + low6 b₁) * 0x40 + low6 b₂) * 0x40
                  + low6 b₃)), 4⟩
              else ⟨none, 3⟩
            | [] => ⟨none, 3⟩
          else ⟨none, 2⟩
        | [] => ⟨none, 2⟩
      else ⟨none, 1⟩
    | [] => ⟨none, 1⟩
  else ⟨none, 1⟩

/-- The glyphs of a byte string whose first `covered` bytes belong to a glyph already read. -/
def glyphsFrom : Nat → List UInt8 → List Glyph
  | _, [] => []
  | covered + 1, _ :: rest => glyphsFrom covered rest
  | 0, b :: rest =>
    let g := glyph b rest
    g :: glyphsFrom (g.width - 1) rest

/-- The glyphs of a byte string, in order. -/
def glyphs (bytes : List UInt8) : List Glyph := glyphsFrom 0 bytes

/-- The text of a byte string without faults. -/
def decode? (bytes : List UInt8) : Option (List Char) := (glyphs bytes).mapM Glyph.char?

/-- A byte string as a text that is read from the front. -/
structure Stream where
  /-- The characters in front of the first fault. -/
  front : List Char
  /-- The bytes from the first fault on; none if there is no fault. -/
  rest : List UInt8 := []
deriving DecidableEq, Repr, Inhabited

/-- The stream of a byte string whose first `covered` bytes belong to a glyph already read. -/
def streamFrom : Nat → List UInt8 → Stream
  | _, [] => { front := [] }
  | covered + 1, _ :: rest => streamFrom covered rest
  | 0, b :: rest =>
    let g := glyph b rest
    match g.char? with
    | none => { front := [], rest := b :: rest }
    | some c =>
      let s := streamFrom (g.width - 1) rest
      { s with front := c :: s.front }

/-- The stream of a byte string. -/
def stream (bytes : List UInt8) : Stream := streamFrom 0 bytes

/-- The text of a byte string, with one replacement character for each fault. -/
def decodeLossy (bytes : List UInt8) : List Char :=
  (glyphs bytes).map fun g => g.char?.getD replacement

end InterfaceAtlas.Text.Utf8

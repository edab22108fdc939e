import InterfaceAtlas.Text.Ranges

/-!
# White space

Settings and arguments are taken without the white space around them. White space is meant in the
wide sense: blanks, line ends, the four information separators, and all space separators.
-/

namespace InterfaceAtlas.Text

/-- The code points of white space. -/
def blankRanges : List (Nat × Nat) := [
  (0x09, 0x0d), (0x1c, 0x20), (0x85, 0x85), (0xa0, 0xa0), (0x1680, 0x1680), (0x2000, 0x200a),
  (0x2028, 0x2029), (0x202f, 0x202f), (0x205f, 0x205f), (0x3000, 0x3000)]

/-- Whether a character is white space. -/
def isBlank (c : Char) : Bool := inRanges blankRanges c.toNat

/-- The characters without the white space at both ends. -/
def trim (cs : List Char) : List Char :=
  ((cs.dropWhile isBlank).reverse.dropWhile isBlank).reverse

/-- The text without the white space at both ends. -/
def strip (s : String) : String := String.ofList (trim s.toList)

/-- Whether a text is empty up to white space. -/
def isBlankText (s : String) : Bool := s.toList.all isBlank

/-- The pieces of a text between the characters `sep`. There is always at least one. -/
def splitAt (sep : Char) : List Char → List (List Char)
  | [] => [[]]
  | c :: cs =>
    if c = sep then [] :: splitAt sep cs
    else match splitAt sep cs with
      | [] => [[c]]
      | piece :: rest => (c :: piece) :: rest

end InterfaceAtlas.Text

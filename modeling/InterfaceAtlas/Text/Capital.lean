/-!
# Capital and small letters

Level names are read in capitals and flags in small letters, and both are words of ASCII letters.
So `capitals` replaces every character whose capital form consists of ASCII letters, and leaves all
others alone: a text with another character is no level name before or after. Small letters need
ASCII alone, since no other character has one of the letters of a flag as its small form.
-/

namespace InterfaceAtlas.Text

/-- The capital form of a character, where that form is made of ASCII letters. -/
def capital (c : Char) : List Char :=
  if c = 'ß' then ['S', 'S']
  else if c = 'ı' then ['I']
  else if c = 'ſ' then ['S']
  else if c = 'ﬀ' then ['F', 'F']
  else if c = 'ﬁ' then ['F', 'I']
  else if c = 'ﬂ' then ['F', 'L']
  else if c = 'ﬃ' then ['F', 'F', 'I']
  else if c = 'ﬄ' then ['F', 'F', 'L']
  else if c = 'ﬅ' then ['S', 'T']
  else if c = 'ﬆ' then ['S', 'T']
  else [c.toUpper]

/-- The text in capitals. -/
def capitals (s : String) : String := String.ofList (s.toList.flatMap capital)

/-- The text in small letters. -/
def small (s : String) : String := String.ofList (s.toList.map Char.toLower)

end InterfaceAtlas.Text

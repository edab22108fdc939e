/-!
# Points of a source text

A point is a line and a column, both counted from zero; columns count bytes, and only a line feed
starts a new line.
-/

namespace InterfaceAtlas

/-- A place in a source text. -/
structure Point where
  row : Nat
  column : Nat
deriving DecidableEq, Repr, Inhabited

namespace Point

/-- The first point of a text. -/
def origin : Point := ⟨0, 0⟩

/-- The order of the text: by line, then by column. -/
def le (p q : Point) : Prop := p.row < q.row ∨ p.row = q.row ∧ p.column ≤ q.column

instance : LE Point := ⟨le⟩

instance (p q : Point) : Decidable (p ≤ q) :=
  inferInstanceAs (Decidable (p.row < q.row ∨ p.row = q.row ∧ p.column ≤ q.column))

/-- The point behind a character of `width` bytes. -/
def after (p : Point) (lineFeed : Bool) (width : Nat) : Point :=
  if lineFeed then ⟨p.row + 1, 0⟩ else ⟨p.row, p.column + width⟩

end Point

end InterfaceAtlas

import InterfaceAtlas.Go.Reading

/-!
# Grammatical categories

The rules of the grammar call each other in a circle: types hold expressions (the length of an
array), expressions hold types and, in function literals, statements. The categories of the circle
are listed here; a rule is written over a function `rules` that reads any category, and the circle
is closed in `Go.File`.
-/

namespace InterfaceAtlas.Go

/-- What may stand behind an expression, as far as it decides how the expression is read. -/
structure Follow where
  /-- The end of a statement: a line feed ends the expression. -/
  line : Bool := false
  /-- A block: a brace behind a plain name opens the block and not a literal. -/
  block : Bool := false
  /-- A send: `<-` is one operator. -/
  send : Bool := false
  /-- A step: `++` and `--` are operators. -/
  step : Bool := false
deriving DecidableEq, Repr, Inhabited

/-- The parts of the grammar that other parts refer to. -/
inductive Category where
  /-- A type; a line feed ends it if `line`. -/
  | type (line : Bool)
  /-- An expression before what `follow` allows. -/
  | expression (follow : Follow)
  /-- The braced body of a composite literal. -/
  | literalBody
  /-- A parenthesised list of parameters. -/
  | parameters
  /-- A braced list of statements. -/
  | block
  /-- One statement. -/
  | statement
  /-- A list of statements up to what closes it. -/
  | statements
deriving DecidableEq, Repr, Inhabited

/-- A reading for every category. -/
abbrev Rules := Category → Reading Node

end InterfaceAtlas.Go

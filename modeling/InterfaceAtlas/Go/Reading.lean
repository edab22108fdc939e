import InterfaceAtlas.Go.Lexeme

/-!
# Readings

A reading takes lexemes from the front of a list in every way that its rule allows: the result
lists what was read with the lexemes that are left. Rules of the grammar are readings, written in
`do` notation; a rule that fits nowhere gives the empty list.

Where a construct may end, a line feed ends it; anywhere else a line feed is white space. The
functions that look ahead take this as an argument `line`: true where a line feed counts.
-/

namespace InterfaceAtlas.Go

/-- The ways to read an `α` from the front of a list of lexemes. -/
def Reading (α : Type) : Type := List Lexeme → List (α × List Lexeme)

namespace Reading

instance : Monad Reading where
  pure a := fun s => [(a, s)]
  bind r f := fun s => (r s).flatMap fun (a, rest) => f a rest

/-- Fits nowhere. -/
def fail {α : Type} : Reading α := fun _ => []

/-- All ways of both readings, those of the first in front. -/
def either {α : Type} (r q : Reading α) : Reading α := fun s => r s ++ q s

/-- The ways of `r`, or those of `q` if `r` has none. -/
def orElse {α : Type} (r q : Reading α) : Reading α := fun s =>
  match r s with
  | [] => q s
  | found => found

/-- Of the ways that leave the same lexemes, the first. -/
def distinct {α : Type} (r : Reading α) : Reading α := fun s =>
  match r s with
  | [] => []
  | [way] => [way]
  | ways =>
    (ways.foldl (fun kept way =>
      if kept.any fun w => w.2.length == way.2.length then kept else way :: kept) []).reverse

/-- Goes on only if `holds`. -/
def require (holds : Bool) : Reading Unit := if holds then pure () else fail

/-- The kind of the next lexeme, which stays; none at the end. -/
def peek : Reading (Option LexemeKind) := fun s => [(s.head?.map Lexeme.kind, s)]

/-- Skips line feeds where they are white space. -/
def onward (line : Bool) : Reading Unit := fun s =>
  [((), if line then s else s.dropWhile fun l => l.kind == .newline)]

/-! ## Single lexemes -/

/-- The leaf for a lexeme. -/
def leaf (kind : String) (named : Bool) (spelling : String) (l : Lexeme) : Node :=
  .mk { kind, named, text := some (Text.Utf8.encode spelling.toList),
        start := l.start, stop := l.stop } []

/-- The punctuation mark `c`. -/
def mark (c : Char) : Reading Node
  | l :: rest =>
    if l.kind == .mark c then [(leaf (String.singleton c) false (String.singleton c) l, rest)]
    else []
  | [] => []

/-- The punctuation mark `c`, on a later line too unless `line`. -/
def markOn (line : Bool) (c : Char) : Reading Node := do
  onward line
  mark c

/-- Adjacent marks that spell `chars`, and the lexemes behind them. -/
def spell : List Char → List Lexeme → Option (List Lexeme)
  | [], s => some s
  | [c], l :: rest => if l.kind == .mark c then some rest else none
  | c :: cs, l :: m :: rest =>
    if l.kind == .mark c && m.start == l.stop then spell cs (m :: rest) else none
  | _, _ => none

/-- The first of `operators` that stands here. A longer one goes before its own start. -/
def operatorHere (operators : List String) (s : List Lexeme) : Option String :=
  operators.find? fun o => (spell o.toList s).isSome

/-- The operator `o`. -/
def operator (o : String) : Reading Node := fun s =>
  match s, spell o.toList s with
  | l :: _, some rest =>
    let stop := ((s.take o.length).getLast?.map Lexeme.stop).getD l.stop
    [(.mk { kind := o, named := false, text := some (Text.Utf8.encode o.toList),
            start := l.start, stop } [], rest)]
  | _, _ => []

/-- The words that are never names. -/
def keywords : List String :=
  ["break", "case", "chan", "const", "continue", "default", "defer", "else", "fallthrough", "for",
    "func", "go", "goto", "if", "import", "interface", "map", "package", "range", "return",
    "select", "struct", "switch", "type", "var"]

/-- The names that are literals where an expression is read. -/
def literalNames : List String := ["nil", "true", "false", "iota"]

/-- The names of the calls whose first argument is a type. -/
def typeCallNames : List String := ["new", "make"]

/-- Whether the first word of `s`, behind parentheses and stars, is the name of a literal or of a
call with a type. Where both an expression and a type can stand, such a name is no type. -/
def startsWithLiteralName (s : List Lexeme) : Bool :=
  let skipped : LexemeKind → Bool
    | .newline => true
    | .mark c => c == '(' || c == '*'
    | _ => false
  match (s.dropWhile fun l => skipped l.kind).head?.map Lexeme.kind with
  | some (.word w) => literalNames.contains w || typeCallNames.contains w
  | _ => false

/-- Goes on unless the bracket here holds a literal name first. -/
def noLiteralInBracket : Reading Unit := fun s =>
  if startsWithLiteralName (s.drop 1) then [] else [((), s)]

/-- Goes on unless a name and a bracket that holds a literal name first stand here. -/
def noLiteralArgument : Reading Unit := fun s =>
  match s with
  | n :: rest =>
    let isName := match n.kind with
      | .word w => !keywords.contains w
      | _ => false
    match rest.dropWhile fun l => l.kind == .newline with
    | l :: inside =>
      if isName && l.kind == .mark '[' && startsWithLiteralName inside then [] else [((), s)]
    | [] => [((), s)]
  | [] => [((), s)]

/-- The keyword `w`. -/
def keyword (w : String) : Reading Node
  | l :: rest => if l.kind == .word w then [(leaf w false w l, rest)] else []
  | [] => []

/-- A name, as a leaf of the given kind. -/
def name (kind : String) : Reading Node
  | l :: rest =>
    match l.kind with
    | .word w => if keywords.contains w then [] else [(leaf kind true w l, rest)]
    | _ => []
  | [] => []

/-- A literal of one lexeme. -/
def literalLexeme : Reading Node
  | l :: rest =>
    match l.kind with
    | .number => [(leaf "number" true "" l, rest)]
    | .string => [(leaf "string" true "" l, rest)]
    | .rune => [(leaf "rune" true "" l, rest)]
    | _ => []
  | [] => []

/-- A string literal. -/
def stringLiteral : Reading Node
  | l :: rest => if l.kind == .string then [(leaf "string" true "" l, rest)] else []
  | [] => []

/-- Whether a lexeme ends a statement, a field, an element or a declaration. -/
def isTerminator : LexemeKind → Bool
  | .newline => true
  | .mark c => c == ';' || c == '\x00'
  | _ => false

/-- The lexeme that ends a statement, a field, an element or a declaration. -/
def terminator : Reading Unit
  | l :: rest => if isTerminator l.kind then [((), rest)] else []
  | [] => []

/-! ## Sequences -/

/-- At most `n + 1` items with `separator` between them: as many as can be read. -/
def chainUpTo (separator item : Reading (List Node)) : Nat → Reading (List Node)
  | 0 => item
  | n + 1 => do
    let first ← item
    orElse
      (do
        let between ← separator
        let others ← chainUpTo separator item n
        return first ++ between ++ others)
      (return first)

/-- Items with `separator` between them: as many as can be read. -/
def chain (separator item : Reading (List Node)) : Reading (List Node) := fun s =>
  chainUpTo separator item s.length s

/-- At most `n` items one behind the other: as many as can be read. -/
def manyUpTo (item : Reading Node) : Nat → Reading (List Node)
  | 0 => return []
  | n + 1 =>
    orElse
      (do
        let first ← item
        let others ← manyUpTo item n
        return first :: others)
      (return [])

/-- Items one behind the other: as many as can be read. -/
def many (item : Reading Node) : Reading (List Node) := fun s => manyUpTo item s.length s

/-- What `r` reads, if it reads anything here. -/
def optional (r : Reading Node) : Reading (List Node) :=
  orElse (do return [← r]) (return [])

/-- One node as a list. -/
def only (r : Reading Node) : Reading (List Node) := do return [← r]

/-- Items with commas between them; line feeds are white space. -/
def commaChain (item : Reading (List Node)) : Reading (List Node) :=
  chain (only (markOn false ',')) item

/-- Items with commas between them and perhaps one behind the last. -/
def commaList (item : Reading (List Node)) : Reading (List Node) := do
  let items ← commaChain item
  return items ++ (← optional (markOn false ','))

/-- Items that each but the last need a terminator behind them, up to the closing mark. -/
def terminatedUpTo (item : Reading Node) (closing : Char) : Nat → Reading (List Node)
  | 0 => fail
  | n + 1 => do
    let first ← item
    either
      (do return [first, ← mark closing])
      (do
        terminator
        onward false
        orElse
          (do return [first, ← mark closing])
          (do return first :: (← terminatedUpTo item closing n)))

/-- Items between brackets, each but the last with a terminator behind it. -/
def terminated (opening closing : Char) (item : Reading Node) : Reading (List Node) := do
  let opened ← markOn false opening
  onward false
  orElse
    (do return [opened, ← mark closing])
    (fun s => (do return opened :: (← terminatedUpTo item closing s.length)) s)

end Reading

end InterfaceAtlas.Go

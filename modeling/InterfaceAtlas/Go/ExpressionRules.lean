import InterfaceAtlas.Go.TypeRules

/-!
# Expressions

Operators are not grouped by precedence: an expression is a flat row of operands and operators,
which accepts the same texts and keeps the order of what stands inside the operands.

A type can start an expression: a literal `T{…}`, a conversion `T(x)` or an instance `T[A, B]`.
A name alone is read as an expression first. Behind a name with a package or with type arguments
both readings stay open, and there the reading as a type lets the rest stand on a later line.
-/

namespace InterfaceAtlas.Go

open Reading Node

variable (rules : Rules)

/-! ## Operators -/

/-- The operators that assign, longer ones before their own starts. -/
def assignmentOperators : List String :=
  ["<<=", ">>=", "&^=", "*=", "/=", "%=", "&=", "+=", "-=", "|=", "^=", "="]

/-- The operators between two operands, longer ones before their own starts. -/
def binaryOperators : List String :=
  ["||", "&&", "==", "!=", "<=", ">=", "<<", ">>", "&^", "<", ">", "+", "-", "*", "/", "%", "&",
    "|", "^"]

/-- The operators before an operand. -/
def unaryOperators : List String := ["<-", "+", "-", "!", "^", "*", "&"]

/-- What can stand behind an operand, longer marks before their own starts: the longest is taken,
so `a <- b` is no comparison where a send may stand. -/
def marksBehind (follow : Follow) : List String :=
  ["<<=", ">>=", "&^="]
    ++ (if follow.send then ["<-"] else [])
    ++ (if follow.step then ["++", "--"] else [])
    ++ ["*=", "/=", "%=", "||", "&&", "==", "!=", "<=", ">=", "<<", ">>", "&^", "&=", "+=", "-=",
      "|=", "^=", "<", ">", "+", "-", "*", "/", "%", "&", "|", "^"]

/-- The operator between two operands that stands here, if any. -/
def binaryHere (follow : Follow) : Reading (Option String) := fun s =>
  [((operatorHere (marksBehind follow) s).filter binaryOperators.contains, s)]

/-! ## Parts of operands -/

/-- Arguments of a call. -/
def callArguments : Reading Node := do
  let opened ← mark '('
  let argument : Reading (List Node) := do
    let e ← rules (.expression {})
    onward false
    return e :: (← optional (operator "..."))
  let items ← orElse (commaList argument) (return [])
  let closed ← markOn false ')'
  return branch "argument_list" (opened :: items ++ [closed])

/-- Arguments of a call whose first argument is a type. -/
def typeCallArguments : Reading Node := do
  let opened ← mark '('
  let items ← orElse
    (do
      let t ← rules (.type false)
      let others ← many (do
        let comma ← markOn false ','
        let e ← rules (.expression {})
        return branch "argument" [comma, e])
      return t :: others ++ (← optional (markOn false ',')))
    (return [])
  let closed ← markOn false ')'
  return branch "argument_list" (opened :: items ++ [closed])

/-- The bracketed index or bounds behind an operand. -/
def indexBrackets : Reading (List Node) := do
  let opened ← mark '['
  onward false
  let lower ← optional (rules (.expression {}))
  onward false
  let closed : Reading (List Node) := only (markOn false ']')
  let colon : Reading Node := markOn false ':'
  let bound : Reading Node := rules (.expression {})
  match ← peek with
  | some (.mark ']') =>
    require (!lower.isEmpty)
    return opened :: lower ++ (← closed)
  | some (.mark ':') =>
    let first ← colon
    let upper ← optional bound
    onward false
    match ← peek with
    | some (.mark ':') =>
      require (!upper.isEmpty)
      let second ← colon
      let capacity ← bound
      return opened :: lower ++ first :: upper ++ second :: capacity :: (← closed)
    | _ => return opened :: lower ++ first :: upper ++ (← closed)
  | _ => fail

/-- The bracketed types of an instance. -/
def instanceBrackets : Reading (List Node) := do
  let opened ← mark '['
  let types ← commaList (only (rules (.type false)))
  let closed ← markOn false ']'
  return opened :: types ++ [closed]

/-- The bracketed types of an instance that is not called at once: with a call behind it the
bracket reads as type arguments, unless a literal name forbids that. -/
def uncalledInstance (line : Bool) : Reading (List Node) := fun s =>
  if startsWithLiteralName (s.drop 1) then instanceBrackets rules s
  else
    let uncalled : Reading (List Node) := do
      let brackets ← instanceBrackets rules
      onward line
      let k ← peek
      require (k != some (.mark '('))
      return brackets
    uncalled s

/-- Type arguments behind an operand and the call they belong to, which starts on a later line
if `later`. -/
def instanceCall (later : Bool) : Reading (List Node) := do
  noLiteralInBracket
  let arguments ← typeArguments rules
  let k ← peek
  require (!later || k == some .newline)
  onward false
  return [arguments, ← callArguments rules]

/-- Everything that may stand behind an operand, as often as it does: selectors, assertions,
indices and calls. `isType` holds as long as what was read is also the name of a type. A dot before
`(type)` stays, as only a type switch goes on there. -/
def suffixesUpTo (follow : Follow) : Nat → Bool → Reading (List Node)
  | 0, _ => return []
  | n + 1, isType => do
    onward follow.line
    match ← peek with
    | some (.mark '.') =>
      fun s =>
        if (spell ['.', '.', '.'] s).isSome then [([], s)]
        else
          let behind := (s.drop 1).dropWhile fun l => l.kind == .newline
          let inside := (behind.drop 1).dropWhile fun l => l.kind == .newline
          match behind.head?.map Lexeme.kind, inside.head?.map Lexeme.kind with
          | some (.mark '('), some (.word "type") => [([], s)]
          | some (.mark '('), _ =>
            (do
              let dot ← mark '.'
              let opened ← markOn false '('
              let t ← rules (.type false)
              let closed ← markOn false ')'
              return dot :: opened :: t :: closed :: (← suffixesUpTo follow n false)) s
          | _, _ =>
            (do
              let dot ← mark '.'
              onward false
              let field ← name "field_identifier"
              return dot :: field :: (← suffixesUpTo follow n false)) s
    | some (.mark '[') =>
      let brackets ← distinct (either
        (orElse (indexBrackets rules)
          (either (instanceCall rules false)
            (if isType then uncalledInstance rules follow.line else fail)))
        (instanceCall rules true))
      return brackets ++ (← suffixesUpTo follow n false)
    | some (.mark '(') =>
      let arguments ← callArguments rules
      return arguments :: (← suffixesUpTo follow n false)
    | _ => return []

/-- Everything that may stand behind an operand. -/
def suffixes (follow : Follow) (isType : Bool) : Reading (List Node) := fun s =>
  suffixesUpTo rules follow (s.length + 1) isType s

/-! ## Types as operands -/

/-- Whether a composite literal may have this type. -/
def isLiteralType (t : Node) : Bool :=
  ["map_type", "slice_type", "array_type", "implicit_length_array_type", "struct_type",
    "type_identifier", "generic_type", "qualified_type"].contains t.kind

/-- What makes an expression of the type `t`: the body of a literal, the operand of a conversion
or the types of an instance. -/
def typeTail (t : Node) : Reading (List Node) := do
  onward false
  match ← peek with
  | some (.mark '{') =>
    require (isLiteralType t)
    return [t, ← rules .literalBody]
  | some (.mark '(') =>
    require (t.kind != "implicit_length_array_type")
    let opened ← mark '('
    let e ← rules (.expression {})
    let comma ← optional (markOn false ',')
    let closed ← markOn false ')'
    return t :: opened :: e :: comma ++ [closed]
  | some (.mark '[') =>
    require (t.kind != "implicit_length_array_type")
    return t :: (← instanceBrackets rules)
  | _ => fail

/-- An operand that starts with a type that is no name. -/
def typeOperand (t : Reading Node) : Reading (List Node) := do
  typeTail rules (← t)

/-- An array type whose length is that of its literal. -/
def openArrayType : Reading Node := do
  let opened ← mark '['
  onward false
  let dots ← operator "..."
  let closed ← markOn false ']'
  let element ← rules (.type false)
  return branch "implicit_length_array_type" [opened, dots, closed, element.inField "element"]

/-- An operand that starts with a named type that has a package or arguments. A conversion on the
same line is left out: it reads as a call. -/
def namedTypeOperand (follow : Follow) : Reading (List Node) := do
  let n ← name "type_identifier"
  let t ← either
    (do
      let t ← qualifiedTail follow.line n
      withArguments rules false t)
    (do
      onward follow.line
      let arguments ← typeArguments rules
      return branch "generic_type" [n.inField "type", arguments.inField "type_arguments"])
  match ← peek with
  | some (.mark '(') => fail
  | some (.mark '[') => return t :: (← uncalledInstance rules follow.line)
  | _ => typeTail rules t

/-! ## Operands -/

/-- A function literal, or a function type as an operand. -/
def functionOperand (follow : Follow) : Reading (List Node) := do
  let t ← functionType rules false
  onward false
  match ← peek with
  | some (.mark '{') =>
    let body ← rules .block
    return branch "func_literal" (t.children ++ [body]) :: (← suffixes rules follow false)
  | _ =>
    let tail ← typeTail rules t
    return tail ++ (← suffixes rules follow false)

/-- An operand in parentheses: an expression, or a type that is converted or instantiated. -/
def parenthesizedOperand (follow : Follow) : Reading (List Node) := fun s =>
  let inner : Reading Node := do
    let opened ← mark '('
    let e ← rules (.expression {})
    let closed ← markOn false ')'
    return branch "parenthesized_expression" [opened, e, closed]
  let asExpression := inner s
  let asType : Reading (List Node) := do
    noLiteralInBracket
    let t ← parenthesizedType rules
    let k ← peek
    require (asExpression.isEmpty || k == some .newline || k == some (.mark '['))
    let tail ← typeTail rules t
    return tail ++ (← suffixes rules follow false)
  (asExpression.flatMap fun (e, rest) =>
    (do return e :: (← suffixes rules follow false) : Reading (List Node)) rest) ++ asType s

/-- An operand that starts with a name. -/
def nameOperand (follow : Follow) : Reading (List Node) := do
  let asLiteral : Reading (List Node) := do
    let n ← name "type_identifier"
    onward follow.line
    require (!follow.block)
    let k ← peek
    require (k == some (.mark '{'))
    return n :: (← rules .literalBody) :: (← suffixes rules follow false)
  let asExpression : Reading (List Node) := do
    let n ← name "identifier"
    return n :: (← suffixes rules follow true)
  let asType : Reading (List Node) := do
    let t ← namedTypeOperand rules follow
    return t ++ (← suffixes rules follow false)
  distinct (either (orElse asLiteral asExpression) asType)

/-- An operand with all that belongs to it. -/
def operand (follow : Follow) : Reading (List Node) := do
  onward false
  let more (r : Reading (List Node)) : Reading (List Node) := do
    let first ← r
    return first ++ (← suffixes rules follow false)
  match ← peek with
  | some .number => more (only literalLexeme)
  | some .string => more (only literalLexeme)
  | some .rune => more (only literalLexeme)
  | some (.mark '(') => parenthesizedOperand rules follow
  | some (.mark '[') =>
    more (typeOperand rules (orElse (openArrayType rules) (sequenceType rules false)))
  | some (.mark '~') => more (typeOperand rules (rules (.type false)))
  | some (.mark '*') => more (typeOperand rules (rules (.type false)))
  | some (.mark '<') => more (typeOperand rules (rules (.type false)))
  | some (.word "func") => functionOperand rules follow
  | some (.word w) =>
    if ["map", "chan", "struct", "interface"].contains w then
      more (typeOperand rules (rules (.type false)))
    else if literalNames.contains w then more (only (name "literal"))
    else if typeCallNames.contains w then
      let n ← name "identifier"
      onward follow.line
      match ← peek with
      | some (.mark '(') =>
        let arguments ← typeCallArguments rules
        return n :: arguments :: (← suffixes rules follow false)
      | _ => return n :: (← suffixes rules follow false)
    else nameOperand rules follow
  | _ => fail

/-- Operands with operators before and between them, at most `n` of them. -/
def operandsUpTo (follow : Follow) : Nat → Reading (List Node)
  | 0 => fail
  | n + 1 => do
    onward false
    let unary : Reading (Option String) := fun s => [(operatorHere unaryOperators s, s)]
    match ← unary with
    | some o =>
      let sign ← operator o
      return sign :: (← operandsUpTo follow n)
    | none =>
      let first ← operand rules follow
      onward follow.line
      match ← binaryHere follow with
      | some o =>
        let between ← operator o
        return first ++ between :: (← operandsUpTo follow n)
      | none => return first

/-- An expression before what `follow` allows. -/
def expressionRule (follow : Follow) : Reading Node := distinct fun s =>
  (do return branch "expression" (← operandsUpTo rules follow (s.length + 1))) s

/-- Expressions with commas between them, before what `follow` allows. -/
def expressionList (follow : Follow) : Reading (List Node) :=
  chain (only (markOn follow.line ',')) (only (rules (.expression follow)))

/-! ## Bodies of literals -/

/-- An element of a composite literal, perhaps with its key. -/
def literalElement : Reading (List Node) := do
  let value : Reading Node := do
    onward false
    match ← peek with
    | some (.mark '{') => rules .literalBody
    | _ => rules (.expression {})
  let first ← value
  onward false
  orElse
    (do
      let colon ← mark ':'
      return [branch "keyed_element" [first, colon, ← value]])
    (return [first])

/-- The braced body of a composite literal. -/
def literalBodyRule : Reading Node := do
  let opened ← markOn false '{'
  let items ← orElse (commaList (literalElement rules)) (optional (markOn false ','))
  let closed ← markOn false '}'
  return branch "literal_value" (opened :: items ++ [closed])

end InterfaceAtlas.Go

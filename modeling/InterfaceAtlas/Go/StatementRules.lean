import InterfaceAtlas.Go.ExpressionRules

/-!
# Statements

Statements and the declarations that may stand among them. A statement ends at a line feed, a
semicolon or a NUL; inside the head of `if`, `for` and `switch` only a semicolon separates.
-/

namespace InterfaceAtlas.Go

open Reading Node

variable (rules : Rules)

/-! ## Declarations -/

/-- One specification, or several in parentheses. -/
def specifications (item : Reading Node) : Reading (List Node) := do
  onward false
  match ← peek with
  | some (.mark '(') => terminated '(' ')' item
  | _ => only item

/-- Names with commas between them; a line feed behind the last ends them if `line`. -/
def nameList (line : Bool) : Reading (List Node) :=
  chain (only (markOn line ',')) (do
    onward false
    return [(← name "identifier").inField "name"])

/-- The values behind an equals sign. -/
def values : Reading (List Node) := do
  let equals ← operator "="
  let es ← expressionList rules { line := true }
  return [equals, (branch "expression_list" es).inField "value"]

/-- Constants with their type and values, all of which may be left out. -/
def constSpec : Reading Node := do
  let names ← nameList true
  let rest ← orElse (values rules)
    (orElse
      (do
        let k ← peek
        require (k != some .newline)
        let t ← rules (.type false)
        onward false
        return t.inField "type" :: (← values rules))
      (return []))
  return branch "const_spec" (names ++ rest)

/-- Variables with a type, with values or with both. -/
def varSpec : Reading Node := do
  let names ← nameList false
  onward false
  let rest ← orElse (values rules) (do
    let t ← rules (.type true)
    return t.inField "type" :: (← orElse (values rules) (return [])))
  return branch "var_spec" (names ++ rest)

/-- A type with its name: an alias or a type of its own. Brackets behind the name hold type
parameters or the length of an array. -/
def typeSpec : Reading Node := do
  let n ← name "type_identifier"
  onward false
  let newName (parameters : List Node) : Reading Node := do
    let equals ← markOn false '='
    let t ← rules (.type true)
    return branch "type_alias"
      (n.inField "name" :: parameters.map (inField "type_parameters")
        ++ [equals, t.inField "type"])
  let own (parameters : List Node) : Reading Node := do
    let t ← rules (.type true)
    return branch "type_spec"
      (n.inField "name" :: parameters.map (inField "type_parameters") ++ [t.inField "type"])
  let generic : Reading Node := do
    noLiteralInBracket
    let parameters ← typeParameters rules
    onward false
    either (newName [parameters]) (own [parameters])
  distinct (either (newName []) (either (own []) generic))

/-- A declaration of constants, variables or types. -/
def declaration : Reading Node := do
  match ← peek with
  | some (.word "const") =>
    let word ← keyword "const"
    return branch "const_declaration" (word :: (← specifications (constSpec rules)))
  | some (.word "var") =>
    let word ← keyword "var"
    return branch "var_declaration" (word :: (← specifications (varSpec rules)))
  | some (.word "type") =>
    let word ← keyword "type"
    return branch "type_declaration" (word :: (← specifications (typeSpec rules)))
  | _ => fail

/-! ## Simple statements -/

/-- A statement that is an expression, a send, a step or an assignment. Its first expression
stands before what `head` allows, the last before what `tail` allows. -/
def simpleStatement (head tail : Follow) : Reading Node := do
  let first ← rules (.expression head)
  onward head.line
  let here : Reading (Option String) := fun s =>
    [(operatorHere (["<-", "++", "--", ":="] ++ assignmentOperators ++ [","]) s, s)]
  let assign (left : List Node) (sign : String) : Reading Node := do
    let kind := if sign == ":=" then "short_var_declaration" else "assignment_statement"
    let o ← operator sign
    let right ← expressionList rules tail
    return branch kind
      [(branch "expression_list" left).inField "left", o,
        (branch "expression_list" right).inField "right"]
  match ← here with
  | some "<-" =>
    let arrow ← operator "<-"
    let value ← rules (.expression tail)
    return branch "send_statement" [first, arrow, value]
  | some "++" => return branch "inc_statement" [first, ← operator "++"]
  | some "--" => return branch "dec_statement" [first, ← operator "--"]
  | some "," =>
    let comma ← mark ','
    let others ← commaChain (only (rules (.expression {})))
    onward false
    let sign : Reading (Option String) := fun s =>
      [(operatorHere (":=" :: assignmentOperators) s, s)]
    match ← sign with
    | some o => assign (first :: comma :: others) o
    | none => fail
  | some o => assign [first] o
  | none => return branch "expression_statement" [first]

/-- Whether a statement is an expression and nothing else. -/
def isExpressionStatement (n : Node) : Bool := n.kind == "expression_statement"

/-- A first part of a head, before a block or a semicolon. -/
def headStatement : Reading Node :=
  simpleStatement rules { block := true, send := true, step := true } {}

/-! ## Conditions and loops -/

/-- A block on this line or a later one. -/
def body : Reading Node := do
  onward false
  return (← rules .block).inField "body"

/-- An `if` with an optional first statement and its alternatives, at most `n` of them. -/
def ifUpTo : Nat → Reading Node
  | 0 => fail
  | n + 1 => do
    let word ← keyword "if"
    let first ← headStatement rules
    onward false
    let condition ← orElse
      (do
        let semicolon ← mark ';'
        let e ← rules (.expression { block := true })
        return [first, semicolon, e])
      (do
        require (isExpressionStatement first)
        return first.children)
    let consequence ← body rules
    let alternative ← orElse
      (do
        let word ← keyword "else"
        onward false
        let other ← orElse (ifUpTo n) (rules .block)
        return [word, other])
      (return [])
    return branch "if_statement" (word :: condition ++ consequence :: alternative)

/-- The part of a range clause that starts with its keyword. -/
def rangeTail : Reading (List Node) := do
  onward false
  let word ← keyword "range"
  return [word, ← rules (.expression { block := true })]

/-- The part of a `for` clause behind its first statement. -/
def forTail : Reading (List Node) := do
  let first ← markOn false ';'
  let condition ← optional (rules (.expression {}))
  let second ← markOn false ';'
  let post ← optional
    (simpleStatement rules { block := true, send := true, step := true } { block := true })
  return first :: condition ++ second :: post

/-- The head of a range loop with variables: their list, a sign and the range. -/
def rangeHead : Reading (List Node) := do
  let first ← rules (.expression { block := true, send := true, step := true })
  onward false
  let others ← orElse
    (do
      let comma ← mark ','
      return comma :: (← commaChain (only (rules (.expression {})))))
    (return [])
  onward false
  let sign ← orElse (operator ":=") (operator "=")
  return first :: others ++ sign :: (← rangeTail rules)

/-- A loop. -/
def forStatement : Reading Node := do
  let word ← keyword "for"
  onward false
  let head ← match ← peek with
    | some (.mark '{') => pure []
    | some (.mark ';') => forTail rules
    | some (.word "range") => rangeTail rules
    | _ =>
      orElse (rangeHead rules) (do
        let first ← headStatement rules
        onward false
        orElse
          (do return first :: (← forTail rules))
          (do
            require (isExpressionStatement first)
            return [first]))
  return branch "for_statement" (word :: head ++ [← body rules])

/-! ## Switches -/

/-- A list of statements, if one follows. -/
def clauseBody : Reading (List Node) := do
  onward false
  optional (rules .statements)

/-- A clause of a switch: its keyword with what `guard` reads, a colon and statements. -/
def clause (kind : String) (guard : Reading (List Node)) : Reading Node := do
  onward false
  match ← peek with
  | some (.word "case") =>
    let word ← keyword "case"
    let items ← guard
    let colon ← markOn false ':'
    return branch kind (word :: items ++ colon :: (← clauseBody rules))
  | some (.word "default") =>
    let word ← keyword "default"
    let colon ← markOn false ':'
    return branch "default_case" (word :: colon :: (← clauseBody rules))
  | _ => fail

/-- The braced clauses of a switch. -/
def clauses (kind : String) (guard : Reading (List Node)) : Reading (List Node) := do
  let opened ← markOn false '{'
  let items ← many (clause rules kind guard)
  let closed ← markOn false '}'
  return opened :: items ++ [closed]

/-- The guard of a type switch behind its operand: `.(type)`. -/
def typeGuardTail : Reading (List Node) := do
  let dot ← markOn false '.'
  let opened ← markOn false '('
  onward false
  let word ← keyword "type"
  let closed ← markOn false ')'
  return [dot, opened, word, closed]

/-- The guard of a type switch, perhaps with the name it declares. Only an operand without
operators may stand before `.(type)`. `first` says that no statement stands before the guard. -/
def typeGuard (first : Bool) : Reading (List Node) := do
  let binding : Reading (List Node) := do
    let n ← rules (.expression { block := true, send := first, step := first })
    let others ← orElse
      (do
        let comma ← markOn false ','
        return comma :: (← commaChain (only (rules (.expression {})))))
      (return [])
    onward false
    let sign ← operator ":="
    return n :: others ++ [sign]
  let declared ← orElse binding (return [])
  let value ← operand rules { block := declared.isEmpty }
  return declared ++ value ++ (← typeGuardTail)

/-- A first statement and its semicolon, if they follow. -/
def switchInitializer : Reading (List Node) :=
  orElse
    (do
      let first ← headStatement rules
      return [first, ← markOn false ';'])
    (return [])

/-- A switch on a type or on a value. -/
def switchStatement : Reading Node := do
  let word ← keyword "switch"
  onward false
  let first ← switchInitializer rules
  either
    (do
      let guard ← typeGuard rules first.isEmpty
      let cases ← clauses rules "type_case" (commaChain (only (rules (.type false))))
      return branch "type_switch_statement" (word :: first ++ guard ++ cases))
    (do
      onward false
      let value ← match ← peek with
        | some (.mark '{') => pure []
        | _ =>
          let noStatement := first.isEmpty
          only (rules (.expression { block := true, send := noStatement, step := noStatement }))
      let cases ← clauses rules "expression_case" (expressionList rules {})
      return branch "expression_switch_statement" (word :: first ++ value ++ cases))

/-- What a clause of a `select` waits for: a send, or a receive with an optional target. -/
def communication : Reading (List Node) := do
  let first ← rules (.expression { send := true })
  onward false
  let sign : Reading (Option String) := fun s => [(operatorHere ["<-", ":=", "=", ","] s, s)]
  match ← sign with
  | some "<-" =>
    let arrow ← operator "<-"
    return [first, arrow, ← rules (.expression {})]
  | some "," =>
    let comma ← mark ','
    let others ← commaChain (only (rules (.expression {})))
    onward false
    let o ← orElse (operator ":=") (operator "=")
    return first :: comma :: others ++ [o, ← rules (.expression {})]
  | some o => return [first, ← operator o, ← rules (.expression {})]
  | none => return [first]

/-- A `select`. -/
def selectStatement : Reading Node := do
  let word ← keyword "select"
  return branch "select_statement"
    (word :: (← clauses rules "communication_case" (communication rules)))

/-! ## Statements -/

/-- Whether an expression may start with this lexeme. -/
def startsExpression : LexemeKind → Bool
  | .word w => !keywords.contains w || ["struct", "interface", "map", "chan", "func"].contains w
  | .number => true
  | .string => true
  | .rune => true
  | .mark c => "(~[<+-!^*&".contains c
  | .newline => false

/-- A label with its colon, on one line. -/
def label : Reading (List Node) := do
  let n ← name "label_name"
  require (!(literalNames ++ typeCallNames).any fun w => n.text == w)
  fun s => if (operatorHere [":=", ":"] s) == some ":" then
    (do return [n, ← mark ':'] : Reading (List Node)) s else []

/-- A jump with an optional label on the same line. -/
def jump (word kind : String) : Reading Node := do
  let w ← keyword word
  return branch kind (w :: (← optional (name "label_name")))

/-- One statement. -/
def statementRule : Reading Node := do
  onward false
  match ← peek with
  | some (.mark '{') => rules .block
  | some (.mark ';') => return branch "empty_statement" [← mark ';']
  | some (.word "const") => declaration rules
  | some (.word "var") => declaration rules
  | some (.word "type") => declaration rules
  | some (.word "return") =>
    let word ← keyword "return"
    match ← peek with
    | some k =>
      if startsExpression k then
        let es ← expressionList rules { line := true }
        return branch "return_statement" [word, branch "expression_list" es]
      else return branch "return_statement" [word]
    | none => return branch "return_statement" [word]
  | some (.word "go") =>
    let word ← keyword "go"
    return branch "go_statement" [word, ← rules (.expression { line := true })]
  | some (.word "defer") =>
    let word ← keyword "defer"
    return branch "defer_statement" [word, ← rules (.expression { line := true })]
  | some (.word "if") => fun s => ifUpTo rules s.length s
  | some (.word "for") => forStatement rules
  | some (.word "switch") => switchStatement rules
  | some (.word "select") => selectStatement rules
  | some (.word "fallthrough") =>
    return branch "fallthrough_statement" [← keyword "fallthrough"]
  | some (.word "break") => jump "break" "break_statement"
  | some (.word "continue") => jump "continue" "continue_statement"
  | some (.word "goto") =>
    let word ← keyword "goto"
    onward false
    return branch "goto_statement" [word, ← name "label_name"]
  | _ =>
    orElse
      (do
        let l ← label
        return branch "labeled_statement" (l ++ [← rules .statement]))
      (simpleStatement rules { line := true, send := true, step := true } { line := true })

/-- Whether a list of statements ends before this lexeme. -/
def closesStatements : Option LexemeKind → Bool
  | some (.mark c) => c == '}'
  | some (.word w) => w == "case" || w == "default"
  | _ => false

/-- A label with no statement, which may only end a list of statements. -/
def emptyLabel : Reading Node := do
  let l ← label
  onward false
  let k ← peek
  require (closesStatements k)
  return branch "labeled_statement" l

/-- A list of statements: each but the last needs a terminator behind it. -/
def statementsRule : Reading Node := distinct do
  onward false
  orElse
    (do return branch "statement_list" [← emptyLabel])
    (do
      let first ← rules .statement
      match ← peek with
      | some k =>
        if isTerminator k then
          terminator
          onward false
          let next ← peek
          if closesStatements next then return branch "statement_list" [first]
          else return branch "statement_list" (first :: (← rules .statements).children)
        else return branch "statement_list" [first]
      | none => fail)

/-- A braced list of statements. -/
def blockRule : Reading Node := do
  let opened ← markOn false '{'
  onward false
  match ← peek with
  | some (.mark '}') => return branch "block" [opened, ← mark '}']
  | _ =>
    let statements ← rules .statements
    return branch "block" [opened, statements, ← markOn false '}']

end InterfaceAtlas.Go

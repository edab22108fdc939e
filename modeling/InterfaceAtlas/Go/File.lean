import InterfaceAtlas.Go.StatementRules

/-!
# Source files

`Go.parse` reads a source text into a tree. The tree of a text that keeps to the grammar has no
error; of any other text as many top-level items as can be read are kept, and each line where none
can be read becomes an error node.
-/

namespace InterfaceAtlas.Go

open Reading Node

/-! ## The circle of rules -/

/-- The rule of one category, over the rules of all. -/
def ruleOf (rules : Rules) : Rules
  | .type line => typeRule rules line
  | .expression follow => expressionRule rules follow
  | .literalBody => literalBodyRule rules
  | .parameters => parametersRule rules
  | .block => blockRule rules
  | .statement => statementRule rules
  | .statements => statementsRule rules

/-- The rules, followed at most `depth` deep into one another. -/
def rulesUpTo : Nat → Rules
  | 0 => fun _ => fail
  | depth + 1 => ruleOf (rulesUpTo depth)

/-- A depth that no text of `n` lexemes exceeds: at most four categories are entered before a
lexeme is taken. -/
def depthFor (n : Nat) : Nat := 4 * n + 4

/-! ## Top-level items -/

/-- A package clause. -/
def packageClause : Reading Node := do
  let word ← keyword "package"
  onward false
  return branch "package_clause" [word, ← name "package_identifier"]

/-- One imported package with the name it gets. -/
def importSpec : Reading Node := do
  onward false
  let n ← optional (orElse (mark '.') (name "package_identifier"))
  onward false
  return branch "import_spec" (n ++ [← stringLiteral])

/-- An import declaration. -/
def importDeclaration : Reading Node := do
  let word ← keyword "import"
  return branch "import_declaration" (word :: (← specifications importSpec))

/-- The body of a function, if it starts on this line. -/
def functionBody (rules : Rules) : Reading (List Node) := do
  match ← peek with
  | some (.mark '{') => return [(← rules .block).inField "body"]
  | _ => return []

/-- A function declaration. -/
def functionDeclaration (rules : Rules) : Reading Node := do
  let func ← keyword "func"
  onward false
  let n ← name "identifier"
  onward false
  let generic ← optional (typeParameters rules)
  let parameters ← rules .parameters
  let out ← result rules true
  let block ← functionBody rules
  return branch "function_declaration"
    (func :: n.inField "name" :: generic.map (inField "type_parameters")
      ++ parameters.inField "parameters" :: out ++ block)

/-- A method declaration: a function with a receiver. -/
def methodDeclaration (rules : Rules) : Reading Node := do
  let func ← keyword "func"
  onward false
  let receiver ← rules .parameters
  onward false
  let n ← name "field_identifier"
  let parameters ← rules .parameters
  let out ← result rules true
  let block ← functionBody rules
  return branch "method_declaration"
    (func :: receiver.inField "receiver" :: n.inField "name" :: parameters.inField "parameters"
      :: out ++ block)

/-- The start of a method declaration, up to the parenthesis behind its name. -/
def methodHead (rules : Rules) : Reading Node := do
  let func ← keyword "func"
  onward false
  let receiver ← rules .parameters
  onward false
  let n ← name "field_identifier"
  return branch "method_head" [func, receiver, n, ← markOn false '(']

/-- A declaration that only the top level of a file has. -/
def topDeclaration (rules : Rules) : Reading Node := do
  match ← peek with
  | some (.word "package") => packageClause
  | some (.word "import") => importDeclaration
  | some (.word "func") => functionDeclaration rules
  | _ => fail

/-- An item of a file. What starts like a method declaration is one. -/
def item (rules : Rules) : Reading Node := fun s =>
  if (methodHead rules s).isEmpty then
    distinct (orElse (topDeclaration rules) (rules .statement)) s
  else distinct (methodDeclaration rules) s

/-- Whether a declaration or a statement ends with a list of values, which may be that of its last
part. -/
def endsInValues (n : Node) : Bool :=
  lastIsList n || (n.children.getLast?.map lastIsList).getD false
where
  /-- Whether the last part is a list of values. -/
  lastIsList (n : Node) : Bool :=
    (n.children.getLast?.map fun c => c.kind == "expression_list").getD false

/-- Whether the end of the file may stand behind an item in the place of its terminator: behind
a declaration of the top level, a constant, and a statement that ends with a list of values. -/
def mayEndFile (n : Node) : Bool :=
  ["package_clause", "import_declaration", "function_declaration", "method_declaration",
    "const_declaration", "short_var_declaration", "assignment_statement"].contains n.kind
  || (["return_statement", "var_declaration"].contains n.kind && endsInValues n)

/-! ## Files -/

/-- The items of a text that keeps to the grammar, at most `n` of them. -/
def itemsUpTo (rules : Rules) : Nat → List Lexeme → Option (List Node)
  | 0, _ => none
  | n + 1, s =>
    match s.dropWhile fun l => l.kind == .newline with
    | [] => some []
    | l :: rest =>
      (item rules (l :: rest)).findSome? fun (node, left) =>
        match left with
        | [] => if mayEndFile node then some [node] else none
        | t :: others =>
          if isTerminator t.kind then (itemsUpTo rules n others).map (node :: ·) else none

/-- Whether an item ends with its own last word: one that ends with a value might have gone on. -/
def endsFirmly (n : Node) : Bool :=
  ["package_clause", "import_declaration", "function_declaration", "method_declaration",
    "type_declaration", "block", "if_statement", "for_statement", "expression_switch_statement",
    "type_switch_statement", "select_statement"].contains n.kind
  || (["var_declaration", "const_declaration"].contains n.kind && !endsInValues n)

/-- The node that stands for what cannot be read. -/
def unreadable (l : Lexeme) : Node :=
  .mk { kind := "ERROR", hasError := true, start := l.start, stop := l.stop } []

/-- The items that can be read from a text with errors, at most `n` of them. A line where no item
can be read becomes an error node, and so does the place where a value runs into the next item. A
terminator that is merely missing leaves no node. -/
def recoverUpTo (rules : Rules) : Nat → List Lexeme → List Node
  | 0, _ => []
  | n + 1, s =>
    match s.dropWhile fun l => l.kind == .newline with
    | [] => []
    | l :: rest =>
      match item rules (l :: rest) with
      | (node, []) :: _ => [node]
      | (node, t :: others) :: _ =>
        if isTerminator t.kind then node :: recoverUpTo rules n others
        else if endsFirmly node then node :: recoverUpTo rules n (t :: others)
        else node :: unreadable t :: recoverUpTo rules n (t :: others)
      | [] => unreadable l :: recoverUpTo rules n (rest.dropWhile fun l => l.kind != .newline)

/-- The tree of a source text. -/
def parse (source : List UInt8) : Node :=
  let ls := lexemes source
  let rules := rulesUpTo (depthFor ls.length)
  match itemsUpTo rules (ls.length + 1) ls with
  | some items => branch "source_file" items
  | none =>
    .mk { (branch "source_file" []).label with hasError := true }
      (recoverUpTo rules (ls.length + 1) ls)

end InterfaceAtlas.Go

import InterfaceAtlas.Go.Category

/-!
# Types

The rules for types, parameters and type parameters.
-/

namespace InterfaceAtlas.Go

open Reading Node

variable (rules : Rules)

/-! ## Names and type arguments -/

/-- A union of types, `A | B`; a line feed ends it if `line`. -/
def typeElement (line : Bool) : Reading Node := do
  let parts ← chain (only (markOn line '|')) (only (rules (.type line)))
  return branch "type_elem" parts

/-- The bracketed arguments of a generic type. -/
def typeArguments : Reading Node := do
  let opened ← mark '['
  let arguments ← commaList (only (typeElement rules false))
  let closed ← markOn false ']'
  return branch "type_arguments" (opened :: arguments ++ [closed])

/-- The type `base` itself, or with arguments if they follow. -/
def withArguments (line : Bool) (base : Node) : Reading Node :=
  either
    (do
      onward line
      let arguments ← typeArguments rules
      return branch "generic_type" [base.inField "type", arguments.inField "type_arguments"])
    (return base)

/-- Whether a selector starts here: a dot that does not start an ellipsis. -/
def dotHere : Reading Unit := fun s =>
  if (spell ['.'] s).isSome && (spell ['.', '.', '.'] s).isNone then [((), s)] else []

/-- The rest of a qualified type behind its package name. -/
def qualifiedTail (line : Bool) (package : Node) : Reading Node := do
  onward line
  dotHere
  let dot ← mark '.'
  onward false
  let n ← name "type_identifier"
  return branch "qualified_type" [package.inField "package", dot, n.inField "name"]

/-- A type name, perhaps with its package. -/
def typeName (line : Bool) : Reading Node := fun s =>
  orElse
    (do qualifiedTail line (← name "package_identifier"))
    (name "type_identifier") s

/-- A named type, perhaps with its package and with arguments. -/
def namedType (line : Bool) : Reading Node := do
  withArguments rules line (← typeName line)

/-! ## Functions -/

/-- Whether a type without parentheses may start with this lexeme. -/
def startsSimpleType : LexemeKind → Bool
  | .word w =>
    !keywords.contains w || ["struct", "interface", "map", "chan", "func"].contains w
  | .mark c => c == '*' || c == '[' || c == '~' || c == '<'
  | _ => false

/-- The result of a function, if one follows: parameters or one type. -/
def result (line : Bool) : Reading (List Node) := do
  onward line
  match ← peek with
  | some (.mark '(') => return [(← rules .parameters).inField "result"]
  | some k =>
    if startsSimpleType k then return [(← rules (.type line)).inField "result"] else return []
  | none => return []

/-- A function type. -/
def functionType (line : Bool) : Reading Node := do
  let func ← keyword "func"
  onward false
  let parameters ← rules .parameters
  let out ← result rules line
  return branch "function_type" (func :: parameters.inField "parameters" :: out)

/-! ## Composite types -/

/-- The names of a field, `a, b`, and whether there is more than one. -/
def fieldNames : Reading (List Node × Bool) := do
  let first ← name "field_identifier"
  orElse
    (do
      let comma ← mark ','
      let others ← commaChain (do
        onward false
        return [(← name "field_identifier").inField "name"])
      return (first.inField "name" :: comma :: others, true))
    (return ([first.inField "name"], false))

/-- A field of a struct. One name alone on its line is an embedded type. -/
def fieldDeclaration : Reading Node := do
  let body ← either
    (do
      let (names, several) ← fieldNames
      onward (!several)
      let k ← peek
      require (k != some .newline)
      let t ← rules (.type true)
      return names ++ [t.inField "type"])
    (do
      let star ← optional (mark '*')
      onward star.isEmpty
      let t ← either
        (do
          if star.isEmpty then noLiteralArgument
          namedType rules true)
        (do
          let k ← peek
          require (k == some (.mark '~'))
          rules (.type false))
      require (["type_identifier", "qualified_type", "generic_type"].contains t.kind)
      return star ++ [t.inField "type"])
  let tag ← optional stringLiteral
  return branch "field_declaration" (body ++ tag)

/-- A struct type. -/
def structType : Reading Node := do
  let struct ← keyword "struct"
  let fields ← terminated '{' '}' (fieldDeclaration rules)
  return branch "struct_type" [struct, branch "field_declaration_list" fields]

/-- A method of an interface. -/
def methodElement : Reading Node := do
  let n ← name "field_identifier"
  let parameters ← do
    let k ← peek
    require (k == some (.mark '('))
    rules .parameters
  let out ← result rules true
  return branch "method_elem" (n.inField "name" :: parameters.inField "parameters" :: out)

/-- An interface type. -/
def interfaceType : Reading Node := do
  let interface ← keyword "interface"
  let elements ← terminated '{' '}' (orElse (methodElement rules) (typeElement rules true))
  return branch "interface_type" (interface :: elements)

/-- The type behind a bracketed length: a slice, or an array. -/
def sequenceType (line : Bool) : Reading Node := do
  let opened ← mark '['
  onward false
  orElse
    (do
      let closed ← mark ']'
      let element ← rules (.type line)
      return branch "slice_type" [opened, closed, element.inField "element"])
    (do
      let length ← rules (.expression {})
      let closed ← markOn false ']'
      let element ← rules (.type line)
      return branch "array_type"
        [opened, length.inField "length", closed, element.inField "element"])

/-- A map type. -/
def mapType (line : Bool) : Reading Node := do
  let map ← keyword "map"
  let opened ← markOn false '['
  let key ← rules (.type false)
  let closed ← markOn false ']'
  let value ← rules (.type line)
  return branch "map_type" [map, opened, key.inField "key", closed, value.inField "value"]

/-- A channel type, of any direction. -/
def channelType (line : Bool) : Reading Node :=
  either
    (do
      let chan ← keyword "chan"
      onward false
      let arrow ← optional (operator "<-")
      let value ← rules (.type line)
      return branch "channel_type" (chan :: arrow ++ [value.inField "value"]))
    (do
      let arrow ← operator "<-"
      onward false
      let chan ← keyword "chan"
      let value ← rules (.type line)
      return branch "channel_type" [arrow, chan, value.inField "value"])

/-- A type in parentheses. -/
def parenthesizedType : Reading Node := do
  let opened ← mark '('
  let t ← rules (.type false)
  let closed ← markOn false ')'
  return branch "parenthesized_type" [opened, t, closed]

/-- A type; a line feed ends it if `line`. -/
def typeRule (line : Bool) : Reading Node := do
  onward false
  match ← peek with
  | some (.word "struct") => structType rules
  | some (.word "interface") => interfaceType rules
  | some (.word "map") => mapType rules line
  | some (.word "chan") => channelType rules line
  | some (.word "func") => functionType rules line
  | some (.word _) => namedType rules line
  | some (.mark '*') =>
    let star ← mark '*'
    let t ← rules (.type line)
    return branch "pointer_type" [star, t]
  | some (.mark '[') => sequenceType rules line
  | some (.mark '(') => parenthesizedType rules
  | some (.mark '<') => channelType rules line
  | some (.mark '~') =>
    let tilde ← mark '~'
    let t ← rules (.type line)
    withArguments rules line (branch "negated_type" [tilde, t])
  | _ => fail

/-! ## Parameters -/

/-- A parameter: a type, a name with a type, or a variadic of either form. -/
def parameter : Reading Node := do
  onward false
  let variadic : Reading Node := do
    let n ← optional (name "identifier")
    onward false
    let dots ← operator "..."
    let t ← rules (.type false)
    return branch "variadic_parameter_declaration"
      (n.map (inField "name") ++ [dots, t.inField "type"])
  let named : Reading Node := do
    let n ← name "identifier"
    let t ← rules (.type false)
    return branch "parameter_declaration" [n.inField "name", t.inField "type"]
  let bare : Reading Node := do
    noLiteralArgument
    let t ← rules (.type false)
    return branch "parameter_declaration" [t.inField "type"]
  let p ← distinct (either variadic (either named bare))
  onward false
  let k ← peek
  require (k == some (.mark ',') || k == some (.mark ')'))
  return p

/-- The name that a parameter of one plain name would be, were it a name and not a type. -/
def asName? : Node → Option Node
  | .mk l [.mk t []] =>
    if l.kind == "parameter_declaration" && t.kind == "type_identifier" then
      some (.mk { t with kind := "identifier", field := some "name" } [])
    else none
  | _ => none

/-- Whether a node is a parameter with a name of its own. -/
def isNamedParameter (n : Node) : Bool :=
  n.kind == "parameter_declaration" && (n.child? "name").isSome

/-- Plain names in front of a parameter with a name share its type: in `a, b T` both are names. -/
def shareTypes : List Node → List Node
  | p :: comma :: rest =>
    match shareTypes rest, asName? p with
    | q :: others, some n =>
      if isNamedParameter q then branch "parameter_declaration" (n :: comma :: q.children) :: others
      else p :: comma :: q :: others
    | others, _ => p :: comma :: others
  | ps => ps

/-- A parenthesised list of parameters. -/
def parametersRule : Reading Node := do
  onward false
  let opened ← mark '('
  let items ← orElse (commaList (only (parameter rules))) (optional (markOn false ','))
  let closed ← markOn false ')'
  return branch "parameter_list" (opened :: shareTypes items ++ [closed])

/-- A type parameter, or several that share a constraint. -/
def typeParameter : Reading (List Node) := do
  let names ← commaChain (do
    onward false
    return [(← name "identifier").inField "name"])
  let constraint ← typeElement rules false
  return [branch "type_parameter_declaration" (names ++ [constraint.inField "type"])]

/-- A bracketed list of type parameters. -/
def typeParameters : Reading Node := do
  let opened ← mark '['
  let items ← commaList (typeParameter rules)
  let closed ← markOn false ']'
  return branch "type_parameter_list" (opened :: items ++ [closed])

end InterfaceAtlas.Go

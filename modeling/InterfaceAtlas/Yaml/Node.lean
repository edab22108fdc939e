import InterfaceAtlas.Yaml.Tag
import InterfaceAtlas.Yaml.Token

/-!
# Nodes

Tokens become a tree of scalars, sequences and mappings, each with its tag. An alias stands for the
node of its anchor. A text holds at most one document.
-/

namespace InterfaceAtlas.Yaml

/-- A tree with tags. -/
inductive Node where
  | scalar (tag : Tag) (text : String)
  | sequence (tag : Tag) (items : List Node)
  | mapping (tag : Tag) (entries : List (Node × Node))
deriving Repr, Inhabited

namespace Node

/-- The node where nothing is written. -/
def nothing : Node := scalar .null ""

end Node

/-- What is known while tokens are read. -/
structure Parsing where
  rest : List Token
  /-- What the handles of tags stand for. -/
  handles : List (String × String)
  /-- The nodes with anchors so far. -/
  anchors : List (String × Node) := []

/-- A reading of tokens. -/
abbrev Parse (α : Type) := StateT Parsing (Except Fault) α

namespace Parse

/-- The tokens do not keep to the rules. -/
def fail {α : Type} (reason : String) : Parse α := throw (.malformed reason)

/-- The next token, which stays; none at the end. -/
def peek : Parse (Option Token) := do return (← get).rest.head?

/-- Takes the next token. -/
def take : Parse Unit := modify fun p => { p with rest := p.rest.drop 1 }

/-- Whether the next token is one of these. -/
def at_ (ts : List Token) : Parse Bool := do
  match ← peek with
  | some t => return ts.contains t
  | none => return false

/-- Takes the next token if it is this one. -/
def taken (t : Token) : Parse Bool := do
  if ← at_ [t] then
    take
    return true
  else return false

/-! ## Properties -/

/-- The anchor and the tag in front of a node. -/
structure Properties where
  anchor : Option String := none
  tag : Option (Option String × String) := none

/-- An anchor, if it is next. -/
def anchor? : Parse (Option String) := do
  match ← peek with
  | some (.anchor name) =>
    take
    return some name
  | _ => return none

/-- A tag, if it is next. -/
def tag? : Parse (Option (Option String × String)) := do
  match ← peek with
  | some (.tag handle suffix) =>
    take
    return some (handle, suffix)
  | _ => return none

/-- The properties in front of a node, in either order. -/
def properties : Parse Properties := do
  let anchor ← anchor?
  let tag ← tag?
  if anchor.isNone && tag.isSome then return { anchor := ← anchor?, tag }
  else return { anchor, tag }

/-- The name of a tag, with its handle replaced; none for a node without a tag of its own. -/
def tagName (p : Properties) : Parse (Option String) := do
  match p.tag with
  | none => return none
  | some (none, suffix) => return some suffix
  | some (some handle, suffix) =>
    match (← get).handles.lookup handle with
    | some expansion => return some (expansion ++ suffix)
    | none => fail "found an undefined tag handle"

/-- The tag of a scalar. One in quotes is a text, unless it is marked as going by its form. -/
def scalarTag (name : Option String) (text : String) (plain : Bool) : Tag :=
  match name with
  | none => if plain then .ofPlain text else .text
  | some name => if name == "!" then .ofPlain text else .ofName name

/-- The tag of a sequence or mapping. -/
def collectionTag (name : Option String) (usual : Tag) : Tag :=
  match name with
  | none => usual
  | some name => if name == "!" then usual else .ofName name

/-- Remembers a node under its anchor. An anchor is set once. -/
def remember (anchor : Option String) (n : Node) : Parse Node := do
  match anchor with
  | none => return n
  | some name =>
    modify fun p => { p with anchors := (name, n) :: p.anchors }
    return n

/-- An anchor that is set already is a fault. -/
def checkAnchor (anchor : Option String) : Parse Unit := do
  match anchor with
  | none => return
  | some name =>
    if ((← get).anchors.lookup name).isSome then fail "found a duplicate anchor"

/-! ## Nodes -/

mutual

/-- A node. Block collections may only stand in blocks, and a sequence that is not indented only
behind a key. -/
def node : Nat → Bool → Bool → Parse Node
  | 0, _, _ => fail "nested too deep"
  | depth + 1, inBlock, behindKey => do
    match ← peek with
    | some (.reference name) =>
      take
      match (← get).anchors.lookup name with
      | some n => return n
      | none => fail "found an undefined alias"
    | _ =>
      let props ← properties
      let name ← tagName props
      checkAnchor props.anchor
      let n ← content depth inBlock behindKey props name
      remember props.anchor n

/-- What follows the properties of a node. -/
def content : Nat → Bool → Bool → Properties → Option String → Parse Node
  | 0, _, _, _, _ => fail "nested too deep"
  | depth + 1, inBlock, behindKey, props, name => do
    let isBare := props.anchor.isNone && props.tag.isNone
    match ← peek with
    | some (.scalar text plain) =>
      take
      return .scalar (scalarTag name text plain) text
    | some .listOpen =>
      take
      return .sequence (collectionTag name .sequence) (← listItems depth true)
    | some .braceOpen =>
      take
      return .mapping (collectionTag name .mapping) (← braceEntries depth true)
    | some .entry =>
      if behindKey then
        return .sequence (collectionTag name .sequence) (← looseItems depth)
      else if isBare then fail "expected the node content"
      else return .scalar (scalarTag name "" true) ""
    | some .sequenceStart =>
      if inBlock then
        take
        return .sequence (collectionTag name .sequence) (← blockItems depth)
      else if isBare then fail "expected the node content"
      else return .scalar (scalarTag name "" true) ""
    | some .mappingStart =>
      if inBlock then
        take
        return .mapping (collectionTag name .mapping) (← blockEntries depth)
      else if isBare then fail "expected the node content"
      else return .scalar (scalarTag name "" true) ""
    | _ =>
      if isBare then fail "expected the node content"
      else return .scalar (scalarTag name "" true) ""

/-- The items of a sequence, up to the end of its block. -/
def blockItems : Nat → Parse (List Node)
  | 0 => fail "nested too deep"
  | depth + 1 => do
    if ← taken .entry then
      let item ← if ← at_ [.entry, .blockEnd] then pure Node.nothing else node depth true false
      return item :: (← blockItems depth)
    else if ← taken .blockEnd then return []
    else fail "expected the end of a block"

/-- The items of a sequence that is not indented. -/
def looseItems : Nat → Parse (List Node)
  | 0 => fail "nested too deep"
  | depth + 1 => do
    if ← taken .entry then
      let item ← if ← at_ [.entry, .key, .value, .blockEnd] then pure Node.nothing
        else node depth true false
      return item :: (← looseItems depth)
    else return []

/-- The entries of a mapping, up to the end of its block. -/
def blockEntries : Nat → Parse (List (Node × Node))
  | 0 => fail "nested too deep"
  | depth + 1 => do
    if ← taken .key then
      let key ← if ← at_ [.key, .value, .blockEnd] then pure Node.nothing else node depth true true
      let value ← if ← taken .value then
          if ← at_ [.key, .value, .blockEnd] then pure Node.nothing else node depth true true
        else pure Node.nothing
      return (key, value) :: (← blockEntries depth)
    else if ← taken .blockEnd then return []
    else fail "expected the end of a block"

/-- The items between brackets. A key among them makes a mapping of one entry. -/
def listItems : Nat → Bool → Parse (List Node)
  | 0, _ => fail "nested too deep"
  | depth + 1, first => do
    if ← taken .listClose then return []
    else
      if !first then
        if !(← taken .comma) then fail "expected a comma or a closing bracket"
      if ← taken .key then
        let key ← if ← at_ [.value, .comma, .listClose] then pure Node.nothing
          else node depth false false
        let value ← if ← taken .value then
            if ← at_ [.comma, .listClose] then pure Node.nothing else node depth false false
          else pure Node.nothing
        return .mapping .mapping [(key, value)] :: (← listItems depth false)
      else if ← taken .listClose then return []
      else
        let item ← node depth false false
        return item :: (← listItems depth false)

/-- The entries between braces. -/
def braceEntries : Nat → Bool → Parse (List (Node × Node))
  | 0, _ => fail "nested too deep"
  | depth + 1, first => do
    if ← taken .braceClose then return []
    else
      if !first then
        if !(← taken .comma) then fail "expected a comma or a closing brace"
      if ← taken .key then
        let key ← if ← at_ [.value, .comma, .braceClose] then pure Node.nothing
          else node depth false false
        let value ← if ← taken .value then
            if ← at_ [.comma, .braceClose] then pure Node.nothing else node depth false false
          else pure Node.nothing
        return (key, value) :: (← braceEntries depth false)
      else if ← taken .braceClose then return []
      else
        let key ← node depth false false
        return (key, .nothing) :: (← braceEntries depth false)

end

/-! ## Documents -/

/-- The handles that need no directive. -/
def usualHandles : List (String × String) := [("!", "!"), ("!!", Tag.commonStart)]

/-- The directives in front of a document. -/
def directives : Nat → Bool → List (String × String) → Parse (List (String × String))
  | 0, _, handles => return handles
  | n + 1, versioned, handles => do
    match ← peek with
    | some (.version major) =>
      take
      if versioned then fail "found a duplicate version"
      else if major != 1 then fail "found an incompatible document"
      else directives n true handles
    | some (.tagHandle handle expansion) =>
      take
      if (handles.lookup handle).isSome then fail "found a duplicate tag handle"
      else directives n versioned ((handle, expansion) :: handles)
    | some .directive =>
      take
      directives n versioned handles
    | _ => return handles

/-- Whether a document starts with its mark or a directive. -/
def startsMarked : Option Token → Bool
  | some (.version _) => true
  | some (.tagHandle _ _) => true
  | some .directive => true
  | some .documentStart => true
  | none => true
  | _ => false

/-- Takes the marks of document ends. -/
def skipEnds : Parse Unit := modify fun p =>
  { p with rest := p.rest.dropWhile fun t => t == .documentEnd }

/-- A document, if there is one. -/
def document? (depth : Nat) : Parse (Option Node) := do
  if startsMarked (← peek) then
    skipEnds
    if (← peek).isNone then return none
    else
      let handles ← directives depth false []
      modify fun p => { p with handles := handles ++ usualHandles }
      if !(← taken .documentStart) then fail "expected the start of a document"
      if startsMarked (← peek) || (← at_ [.documentEnd]) then return some .nothing
      else return some (← node depth true false)
  else return some (← node depth true false)

/-- The document of a text that has no other. -/
def single? (depth : Nat) : Parse (Option Node) := do
  let found ← document? depth
  skipEnds
  if (← peek).isSome then fail "expected a single document" else return found

end Parse

/-- The document that a text holds. -/
def document? (text : List Char) : Result (Option Node) := do
  let ts ← tokens text
  let start : Parsing := { rest := ts, handles := Parse.usualHandles }
  return (← (Parse.single? (3 * ts.length + 3)).run start).1

end InterfaceAtlas.Yaml

import ClusterConf.Yaml.Node
set_option autoImplicit false

/-!
The grammar of YAML tokens: a stream holds at most one document here, and a document one node.
-/
namespace ClusterConf.Yaml.Grammar

/-- What is left of the tokens, and the names that have a meaning. -/
structure State where
  tokens : List Token
  /-- Tag handles of the document and what they stand for. -/
  handles : List (String × String) := []
  /-- The numbers of anchors by name. -/
  anchors : List (String × Nat) := []

/-- A step of the grammar: what was read, and the state behind it. -/
abbrev Step (α : Type) := StateT State Option α

def peek? : Step (Option Token) := return (← get).tokens.head?

def skip : Step Unit := modify fun s => { s with tokens := s.tokens.drop 1 }

def take (t : Token) : Step Bool := do
  if (← peek?) == some t then
    skip
    return true
  else return false

def expect (t : Token) : Step Unit := do
  if !(← take t) then failure

def next (ts : List Token) : Step Bool := return (← peek?).any ts.contains

/-- Numbers an anchor by the number of names that there were. A name that is used again gets a new
meaning. -/
def define (name : String) : Step Nat := do
  let s ← get
  let number := s.anchors.length
  set { s with anchors := (name, number) :: s.anchors.filter (·.1 != name) }
  return number

/-- What is in front of the content of a node. -/
structure Properties where
  anchor : Option Nat := none
  tag : Option String := none
  /-- Whether there are any. -/
  given : Bool := false

/-- The tag that a handle and the rest stand for. -/
def resolveTag (handle rest : String) : Step String := do
  if handle.isEmpty then return rest
  else
    match (← get).handles.find? (·.1 == handle) with
    | some (_, start) => return start ++ rest
    | none => failure

def anchor? : Step (Option String) := do
  match ← peek? with
  | some (.anchor name) =>
    skip
    return some name
  | _ => return none

def tag? : Step (Option String) := do
  match ← peek? with
  | some (.tag handle rest) =>
    skip
    return some (← resolveTag handle rest)
  | _ => return none

/-- Reads an anchor and a tag in any order, both optional. -/
def properties : Step Properties := do
  let before ← anchor?
  let tag ← tag?
  let name ← match before with
    | some name => pure (some name)
    | none => if tag.isSome then anchor? else pure none
  let anchor ← name.mapM define
  return { anchor, tag, given := name.isSome || tag.isSome }

/-- The empty scalar that properties alone stand for. -/
def emptyScalar (p : Properties) : Step Node :=
  if p.given then return .scalar p.anchor p.tag .plain "" else failure

mutual

/--
Reads a node. Block collections may stand only in a block, and a list without indentation of its
own only as the key or value of a block mapping. Properties alone make an empty scalar.
-/
def node : Nat → (inBlock mayBeIndentless : Bool) → Step Node
  | 0, _, _ => failure
  | fuel + 1, inBlock, mayBeIndentless => do
    if let some (.alias name) ← peek? then
      skip
      match (← get).anchors.find? (·.1 == name) with
      | some (_, number) => return .alias number
      | none => failure
    else
      let p ← properties
      match ← peek?, inBlock with
      | some (.scalar style text), _ =>
        skip
        return .scalar p.anchor p.tag style text
      | some .flowSequenceStart, _ =>
        skip
        return .list p.anchor (← flowItems fuel true)
      | some .flowMappingStart, _ =>
        skip
        return .record p.anchor (← flowMembers fuel true)
      | some .blockSequenceStart, true =>
        skip
        return .list p.anchor (← blockItems fuel)
      | some .blockMappingStart, true =>
        skip
        return .record p.anchor (← blockMembers fuel)
      | some .blockEntry, _ =>
        if mayBeIndentless then return .list p.anchor (← indentlessItems fuel)
        else emptyScalar p
      | _, _ => emptyScalar p

/-- A node, or an empty scalar in front of certain tokens. -/
def nodeUnless : Nat → (ends : List Token) → (inBlock mayBeIndentless : Bool) → Step Node
  | 0, _, _, _ => failure
  | fuel + 1, ends, inBlock, mayBeIndentless => do
    if ← next ends then return .blank else node fuel inBlock mayBeIndentless

def blockItems : Nat → Step (List Node)
  | 0 => failure
  | fuel + 1 => do
    if ← take .blockEntry then
      let item ← nodeUnless fuel [.blockEntry, .blockEnd] true false
      return item :: (← blockItems fuel)
    else
      expect .blockEnd
      return []

/-- The items of a list without indentation; nothing marks its end. -/
def indentlessItems : Nat → Step (List Node)
  | 0 => failure
  | fuel + 1 => do
    if ← take .blockEntry then
      let item ← nodeUnless fuel [.blockEntry, .key, .value, .blockEnd] true false
      return item :: (← indentlessItems fuel)
    else return []

/-- The members of a mapping in a block. Its key or value may be left out. -/
def blockMembers : Nat → Step (List (Node × Node))
  | 0 => failure
  | fuel + 1 => do
    if ← take .key then
      let ends := [.key, .value, .blockEnd]
      let key ← nodeUnless fuel ends true true
      let value ← if ← take .value then nodeUnless fuel ends true true else pure .blank
      return (key, value) :: (← blockMembers fuel)
    else
      expect .blockEnd
      return []

/-- A member without braces inside a list in brackets. If the key is left out, so is the token
behind the key mark. -/
def flowPair : Nat → Step (Node × Node)
  | 0 => failure
  | fuel + 1 => do
    let ends := [.flowEntry, .flowSequenceEnd]
    let key ←
      if ← next (.value :: ends) then do
        skip
        pure .blank
      else node fuel false false
    let value ← if ← take .value then nodeUnless fuel ends false false else pure .blank
    return (key, value)

/-- The items of a list in brackets, with commas between them and perhaps behind the last. -/
def flowItems : Nat → (first : Bool) → Step (List Node)
  | 0, _ => failure
  | fuel + 1, first => do
    if ← take .flowSequenceEnd then return []
    if !first then expect .flowEntry
    if ← take .key then
      let pair ← flowPair fuel
      return .record none [pair] :: (← flowItems fuel false)
    else if ← take .flowSequenceEnd then return []
    else
      let item ← node fuel false false
      return item :: (← flowItems fuel false)

/-- The members of a mapping in braces, with commas between them and perhaps behind the last. -/
def flowMembers : Nat → (first : Bool) → Step (List (Node × Node))
  | 0, _ => failure
  | fuel + 1, first => do
    if ← take .flowMappingEnd then return []
    if !first then expect .flowEntry
    let ends := [.flowEntry, .flowMappingEnd]
    if ← take .key then
      let key ← nodeUnless fuel (.value :: ends) false false
      let value ← if ← take .value then nodeUnless fuel ends false false else pure .blank
      return (key, value) :: (← flowMembers fuel false)
    else if ← take .flowMappingEnd then return []
    else
      let key ← node fuel false false
      return (key, .blank) :: (← flowMembers fuel false)

end

def defaultHandles : List (String × String) := [("!", "!"), ("!!", "tag:yaml.org,2002:")]

/-- Reads directives: at most one version, which is 1.1 or 1.2, and every tag handle only once. -/
def directives : List Token → (versionGiven : Bool) → List (String × String) →
    Option (Bool × List (String × String) × List Token)
  | .versionDirective major minor :: rest, versionGiven, handles =>
    if versionGiven || major != 1 || (minor != 1 && minor != 2) then none
    else directives rest true handles
  | .tagDirective handle start :: rest, versionGiven, handles =>
    if handles.any (·.1 == handle) then none
    else directives rest versionGiven ((handle, start) :: handles)
  | rest, versionGiven, handles => some (versionGiven || !handles.isEmpty, handles, rest)

/-- Whether a token ends a document, or begins one by a mark. -/
def boundsDocument : Token → Bool
  | .documentStart | .documentEnd | .streamEnd | .versionDirective _ _ | .tagDirective _ _ => true
  | _ => false

/-- Reads the node of a document and the end of the stream. -/
def content (tokens : List Token) (handles : List (String × String)) (started : Bool) :
    Option Node := do
  let s : State := { tokens, handles := handles ++ defaultHandles }
  let (n, s) ←
    if started && tokens.head?.any boundsDocument then some (.blank, s)
    else (node (4 * tokens.length + 4) true false).run s
  if s.tokens.dropWhile (· == .documentEnd) == [.streamEnd] then return n else none

/-- Reads a stream. Without any content it is an empty scalar. -/
def stream (tokens : List Token) : Option Node := do
  let (directed, handles, rest) ← directives tokens false []
  match rest with
  | .documentStart :: rest => content rest handles true
  | [.streamEnd] => if directed then none else return .blank
  | rest => if directed then none else content rest handles false

end ClusterConf.Yaml.Grammar

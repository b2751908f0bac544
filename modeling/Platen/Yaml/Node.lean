import Platen.Yaml.Token

/-!
# Nodes

The tree that a document describes: scalars, sequences and mappings.  An alias is replaced by the
node of its anchor.  A text holds one document; an empty one is an empty scalar.
-/

namespace Platen.Yaml

/-- A node of a document. -/
inductive Node where
  | scalar (style : Style) (text : String) (tag : Option String)
  | sequence (items : List Node)
  | mapping (entries : List (Node × Node))
  /-- An alias inside the node that it stands for. -/
  | cycle
  deriving Inhabited

namespace Node

/-- The scalar where nothing is written. -/
def empty : Node := .scalar .plain "" none

/-- What is known while nodes are read. -/
structure Progress where
  tokens : List Token
  /-- The nodes by the names of their anchors, none while the node is not finished. -/
  anchors : List (String × Option Node) := []
  /-- The tag handles that directives declare. -/
  handles : List (String × String) := []

/-- A reader of tokens. -/
abbrev Reading (α : Type) := StateT Progress Option α

/-- The token that comes next. -/
def peek : Reading (Option Token) :=
  return (← get).tokens.head?

/-- Passes over a token. -/
def advance : Reading Unit :=
  modify fun p => { p with tokens := p.tokens.tail }

/-- The tokens do not form a document. -/
def refuse {α : Type} : Reading α :=
  fun _ => none

/-- Whether one of the given tokens comes next. -/
def atOneOf (tokens : List Token) : Reading Bool := do
  return (← peek).any tokens.contains

/-- Whether a collection in brackets or braces is closed here; if not, the comma before its next
item is passed over.  The first item has no comma before it. -/
def closes (close : Token) (first : Bool) : Reading Bool := do
  if ← atOneOf [close] then
    advance
    return true
  else if first then return false
  else if ← atOneOf [.comma] then
    advance
    if ← atOneOf [close] then
      advance
      return true
    else return false
  else refuse

/-- Notes the node of an anchor. -/
def note (anchor : Option String) (node : Option Node) : Reading Unit :=
  match anchor with
  | some name => modify fun p => { p with anchors := (name, node) :: p.anchors }
  | none => pure ()

/-! ## Properties -/

/-- The handles that every document knows. -/
def commonHandles : List (String × String) :=
  [("!", "!"), ("!!", "tag:yaml.org,2002:")]

/-- A tag with its handle replaced by its meaning. -/
def resolveTag (handle suffix : String) : Reading String := do
  if handle.isEmpty then return suffix
  else
    match ((← get).handles ++ commonHandles).lookup handle with
    | some meaning => return meaning ++ suffix
    | none => refuse

/-- The anchor that comes next, if any. -/
def readAnchor : Reading (Option String) := do
  match ← peek with
  | some (.anchor name) =>
    advance
    return some name
  | _ => return none

/-- The tag that comes next, if any. -/
def readTag : Reading (Option String) := do
  match ← peek with
  | some (.tag handle suffix) =>
    advance
    return some (← resolveTag handle suffix)
  | _ => return none

/-- The anchor and the tag of a node, in either order. -/
def readProperties : Reading (Option String × Option String) := do
  match ← readAnchor with
  | some name => return (some name, ← readTag)
  | none =>
    let tag ← readTag
    return (← readAnchor, tag)

/-- A tag as far as it says something about a scalar; a lone exclamation mark says nothing. -/
def scalarTag (tag : Option String) : Option String :=
  tag.filter (· ≠ "!")

/-- The node that stands where only properties are written. -/
def absent (propertied : Bool) (tag : Option String) : Reading Node :=
  if propertied then return .scalar .plain "" tag else refuse

/-! ## Nodes

Every call passes on less fuel; between two tokens only a bounded number of calls is nested. -/

/-- Where a node stands. -/
inductive Place where
  /-- At the top of a document or after the hyphen of an item. -/
  | block
  /-- As a key or value of a block mapping: the items of a sequence may stand at its column. -/
  | entry
  /-- Inside brackets or braces, where no block collections are. -/
  | flow
  deriving DecidableEq, Repr

mutual
/-- A node. -/
def read (fuel : Nat) (place : Place) : Reading Node :=
  match fuel with
  | 0 => refuse
  | fuel + 1 => do
    match ← peek with
    | some (.alias name) =>
      advance
      match (← get).anchors.lookup name with
      | some node => return node.getD .cycle
      | none => refuse
    | _ =>
      let (anchor, tag) ← readProperties
      note anchor none
      let node ← readContent fuel place (anchor.isSome || tag.isSome) tag
      note anchor (some node)
      return node
termination_by structural fuel

/-- What follows the properties of a node.  Nothing may follow only if there are properties. -/
def readContent (fuel : Nat) (place : Place) (propertied : Bool) (tag : Option String) :
    Reading Node :=
  match fuel with
  | 0 => refuse
  | fuel + 1 => do
    match ← peek, place with
    | some (.scalar style text), _ =>
      advance
      return .scalar style text (scalarTag tag)
    | some .openSequence, _ =>
      advance
      return .sequence (← readFlowItems fuel true)
    | some .openMapping, _ =>
      advance
      return .mapping (← readFlowEntries fuel true)
    | some .item, .entry => return .sequence (← readCompactItems fuel)
    | some .startSequence, .block | some .startSequence, .entry =>
      advance
      return .sequence (← readItems fuel)
    | some .startMapping, .block | some .startMapping, .entry =>
      advance
      return .mapping (← readEntries fuel)
    | _, _ => absent propertied tag
termination_by structural fuel

/-- A node, or the empty one if one of the given tokens comes next. -/
def readUnless (fuel : Nat) (place : Place) (stops : List Token) : Reading Node :=
  match fuel with
  | 0 => refuse
  | fuel + 1 => do
    if ← atOneOf stops then return empty else read fuel place
termination_by structural fuel

/-- The items of a block sequence, up to its end. -/
def readItems (fuel : Nat) : Reading (List Node) :=
  match fuel with
  | 0 => refuse
  | fuel + 1 => do
    match ← peek with
    | some .item =>
      advance
      let node ← readUnless fuel .block [.item, .endBlock]
      return node :: (← readItems fuel)
    | some .endBlock =>
      advance
      return []
    | _ => refuse
termination_by structural fuel

/-- The items of a sequence at the column of the mapping around it. -/
def readCompactItems (fuel : Nat) : Reading (List Node) :=
  match fuel with
  | 0 => refuse
  | fuel + 1 => do
    match ← peek with
    | some .item =>
      advance
      let node ← readUnless fuel .block [.item, .key, .value, .endBlock]
      return node :: (← readCompactItems fuel)
    | _ => return []
termination_by structural fuel

/-- The entries of a block mapping, up to its end. -/
def readEntries (fuel : Nat) : Reading (List (Node × Node)) :=
  match fuel with
  | 0 => refuse
  | fuel + 1 => do
    match ← peek with
    | some .key =>
      advance
      let key ← readUnless fuel .entry [.key, .value, .endBlock]
      let value ← readValue fuel .entry [.key, .value, .endBlock]
      return (key, value) :: (← readEntries fuel)
    | some .endBlock =>
      advance
      return []
    | _ => refuse
termination_by structural fuel

/-- The value of an entry, empty if there is none. -/
def readValue (fuel : Nat) (place : Place) (stops : List Token) : Reading Node :=
  match fuel with
  | 0 => refuse
  | fuel + 1 => do
    match ← peek with
    | some .value =>
      advance
      readUnless fuel place stops
    | _ => return empty
termination_by structural fuel

/-- The items of a sequence in brackets, up to the closing one.  An item with a key is a mapping
of a single entry. -/
def readFlowItems (fuel : Nat) (first : Bool) : Reading (List Node) :=
  match fuel with
  | 0 => refuse
  | fuel + 1 => do
    if ← closes .closeSequence first then return []
    else
      match ← peek with
      | some .key =>
        advance
        let key ← readUnless fuel .flow [.value, .comma, .closeSequence]
        let value ← readValue fuel .flow [.comma, .closeSequence]
        return .mapping [(key, value)] :: (← readFlowItems fuel false)
      | _ =>
        let node ← read fuel .flow
        return node :: (← readFlowItems fuel false)
termination_by structural fuel

/-- The entries of a mapping in braces, up to the closing one. -/
def readFlowEntries (fuel : Nat) (first : Bool) : Reading (List (Node × Node)) :=
  match fuel with
  | 0 => refuse
  | fuel + 1 => do
    if ← closes .closeMapping first then return []
    else
      match ← peek with
      | some .key =>
        advance
        let key ← readUnless fuel .flow [.value, .comma, .closeMapping]
        let value ← readValue fuel .flow [.comma, .closeMapping]
        return (key, value) :: (← readFlowEntries fuel false)
      | _ =>
        let key ← read fuel .flow
        return (key, empty) :: (← readFlowEntries fuel false)
termination_by structural fuel
end

/-! ## Documents -/

/-- The declarations before a document: a version that can be read, and tag handles, each at most
once. -/
def readDirectives (fuel : Nat) (versioned : Bool) : Reading Unit :=
  match fuel with
  | 0 => refuse
  | fuel + 1 => do
    match ← peek with
    | some (.version major minor) =>
      if versioned || major != 1 || (minor != 1 && minor != 2) then refuse
      else
        advance
        readDirectives fuel true
    | some (.handle name meaning) =>
      if (← get).handles.any (·.1 == name) then refuse
      else
        advance
        modify fun p => { p with handles := (name, meaning) :: p.handles }
        readDirectives fuel versioned
    | _ => return ()

/-- Passes over the marks of the end of a document. -/
def skipEnds : Reading Unit :=
  modify fun p => { p with tokens := p.tokens.dropWhile (· == .endDocument) }

/-- The only document of a text.  A document that is not introduced by a mark has no declarations.
-/
def readDocument (fuel : Nat) : Reading Node := do
  match ← peek with
  | none => return empty
  | some _ =>
    if ← atOneOf [.startDocument] then readIntroduced
    else
      match ← peek with
      | some (.version ..) | some (.handle ..) =>
        readDirectives fuel false
        if ← atOneOf [.startDocument] then readIntroduced else refuse
      | _ => read fuel .block
where
  /-- What follows the mark at the start of a document. -/
  readIntroduced : Reading Node := do
    advance
    match ← peek with
    | none | some .startDocument | some .endDocument | some (.version ..) | some (.handle ..) =>
      return empty
    | some _ => read fuel .block

/-- The document that tokens describe, if there is exactly one. -/
def ofTokens? (tokens : List Token) : Option Node := do
  let fuel := 5 * tokens.length + 10
  let (node, p) ← (do
    let node ← readDocument fuel
    skipEnds
    return node : Reading Node).run { tokens }
  if p.tokens.isEmpty then some node else none

end Node

/-- The document that a text holds. -/
def read? (s : String) : Option Node := do
  let tokens ← tokens? s
  Node.ofTokens? tokens

end Platen.Yaml

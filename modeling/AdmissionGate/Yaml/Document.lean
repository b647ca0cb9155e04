/-
# AdmissionGate.Yaml.Document -- the nodes of a document

A document is a table of nodes that refer to one another by number: an alias
refers to the node with its anchor, so a node may occur in several places and
inside itself.  An anchor names one node only, and a node has its number before
its content is read.

`Document.ofTokens` reads the one document of a text.  What a block or flow
collection leaves out, a key, a value or an item of a block list, is an empty
scalar; so is a document without content.
-/
import AdmissionGate.Yaml.Implicit
import AdmissionGate.Yaml.Layout

namespace AdmissionGate

namespace Yaml

inductive Content where
  | scalar (text : Text)
  | list (items : List Nat)
  | map (entries : List (Nat × Nat))
  deriving DecidableEq, Repr

structure Node where
  tag : Tag
  content : Content
  deriving DecidableEq, Repr

/-- A scalar that is left out. -/
def Node.empty : Node := ⟨.null, .scalar []⟩

structure Document where
  nodes : Array Node
  root : Nat
  deriving DecidableEq, Repr

structure Draft where
  tokens : List Token
  /-- Why there are no more tokens than these. -/
  fault : Option Fault
  nodes : Array Node := #[]
  anchors : List (Text × Nat) := []
  /-- What the declared handles stand for. -/
  handles : List (Text × Text) := []

abbrev Drafting (α : Type) := StateT Draft (Except Fault) α

inductive Place where
  | block
  /-- In a block map, where a list needs no indentation of its own. -/
  | entry
  | flow
  deriving DecidableEq, Repr

namespace Draft

def refuse {α : Type} : Drafting α := throw .malformed

def peek : Drafting Token := do
  let d ← get
  match d.tokens with
  | t :: _ => return t
  | [] => throw (d.fault.getD .malformed)

def next : Drafting Unit := modify fun d => { d with tokens := d.tokens.drop 1 }

def isAt (ts : List Token) : Drafting Bool := return ts.contains (← peek)

def accept (t : Token) : Drafting Bool := do
  if (← peek) = t then
    next
    return true
  return false

/-- Read a token, which has to come next. -/
def expect (t : Token) : Drafting Unit := do
  if !(← accept t) then refuse

/-! ## Nodes -/

/-- Add a node; its number. -/
def add (anchor : Option Text) (node : Node) : Drafting Nat := do
  let d ← get
  let number := d.nodes.size
  match anchor with
  | none => set { d with nodes := d.nodes.push node }
  | some name =>
    if d.anchors.any (·.1 == name) then refuse
    set { d with nodes := d.nodes.push node, anchors := (name, number) :: d.anchors }
  return number

def addEmpty : Drafting Nat := add none .empty

def fill (number : Nat) (content : Content) : Drafting Unit :=
  modify fun d => { d with nodes := d.nodes.modify number ({ · with content := content }) }

def anchored (name : Text) : Drafting Nat := do
  match (← get).anchors.find? (·.1 == name) with
  | some (_, number) => return number
  | none => refuse

/-! ## Tags -/

/-- What the handles stand for that nobody declared. -/
def standardHandles : List (Text × Text) := [("!", "!"), ("!!", Tag.family)]

/-- The full name of a tag. -/
def tagName (handle : Option Text) (suffix : Text) : Drafting Text := do
  match handle with
  | none => return suffix
  | some h =>
    match ((← get).handles ++ standardHandles).find? (·.1 == h) with
    | some (_, expansion) => return expansion ++ suffix
    | none => refuse

def tag? : Drafting (Option Text) := do
  match ← peek with
  | .tag handle suffix =>
    next
    let name ← tagName handle suffix
    return some name
  | _ => return none

def anchor? : Drafting (Option Text) := do
  match ← peek with
  | .anchor name =>
    next
    return some name
  | _ => return none

/-- Anchor and tag in front of a node, in either order. -/
def properties : Drafting (Option Text × Option Text) := do
  match ← anchor? with
  | some name => return (some name, ← tag?)
  | none =>
    match ← peek with
    | .tag handle suffix =>
      next
      let anchor ← anchor?
      let name ← tagName handle suffix
      return (anchor, some name)
    | _ => return (none, none)

/-- The tag of a node without quotes or marks that say more, for a name and the tag that goes
without saying. -/
def tagOr (name : Option Text) (implied : Tag) : Tag :=
  match name with
  | none => implied
  | some n => if n = "!" then implied else .ofName n

/-- The tag of a scalar: one in quotes is a text unless it has a tag, be it `!` alone. -/
def scalarTag (name : Option Text) (t : Text) (isPlain : Bool) : Tag :=
  if name.isNone && !isPlain then .text else tagOr name (Implicit.tagOf t)

/-! ## Collections -/

mutual

/-- A node; its number. -/
def node (place : Place) : (fuel : Nat) → Drafting Nat
  | 0 => refuse
  | fuel + 1 => do
    if let .alias name ← peek then
      next
      return ← anchored name
    let (anchor, tag) ← properties
    match ← peek with
    | .scalar t isPlain =>
      next
      add anchor ⟨scalarTag tag t isPlain, .scalar t⟩
    | .openList =>
      let number ← add anchor ⟨tagOr tag .list, .list []⟩
      next
      let items ← flowItems true fuel
      fill number (.list items)
      return number
    | .openMap =>
      let number ← add anchor ⟨tagOr tag .map, .map []⟩
      next
      let entries ← flowEntries true fuel
      fill number (.map entries)
      return number
    | t =>
      if place = .entry ∧ t = .item then
        let number ← add anchor ⟨tagOr tag .list, .list []⟩
        let items ← looseItems fuel
        fill number (.list items)
        return number
      else if place ≠ .flow ∧ t = .blockList then
        let number ← add anchor ⟨tagOr tag .list, .list []⟩
        next
        let items ← blockItems fuel
        fill number (.list items)
        return number
      else if place ≠ .flow ∧ t = .blockMap then
        let number ← add anchor ⟨tagOr tag .map, .map []⟩
        next
        let entries ← blockEntries fuel
        fill number (.map entries)
        return number
      else if anchor.isSome || tag.isSome then
        add anchor ⟨tagOr tag .null, .scalar []⟩
      else refuse

/-- A node, or an empty scalar in front of one of some tokens. -/
def nodeUnless (ends : List Token) (place : Place) : (fuel : Nat) → Drafting Nat
  | 0 => refuse
  | fuel + 1 => do
    if ← isAt ends then addEmpty else node place fuel

/-- A value after its mark, or an empty scalar without one. -/
def valueUnless (ends : List Token) (place : Place) : (fuel : Nat) → Drafting Nat
  | 0 => refuse
  | fuel + 1 => do
    if ← accept .value then nodeUnless ends place fuel else addEmpty

def blockItems : (fuel : Nat) → Drafting (List Nat)
  | 0 => refuse
  | fuel + 1 => do
    if ← accept .item then
      let x ← nodeUnless [.item, .blockEnd] .block fuel
      let xs ← blockItems fuel
      return x :: xs
    expect .blockEnd
    return []

/-- The items of a list without an indentation of its own. -/
def looseItems : (fuel : Nat) → Drafting (List Nat)
  | 0 => refuse
  | fuel + 1 => do
    if ← accept .item then
      let x ← nodeUnless [.item, .key, .value, .blockEnd] .block fuel
      let xs ← looseItems fuel
      return x :: xs
    return []

def blockEntries : (fuel : Nat) → Drafting (List (Nat × Nat))
  | 0 => refuse
  | fuel + 1 => do
    if ← accept .key then
      let k ← nodeUnless [.key, .value, .blockEnd] .entry fuel
      let v ← valueUnless [.key, .value, .blockEnd] .entry fuel
      let rest ← blockEntries fuel
      return (k, v) :: rest
    expect .blockEnd
    return []

/-- The items of a flow list, up to its end; a comma parts them.  A key among them starts a map with
one entry. -/
def flowItems (isFirst : Bool) : (fuel : Nat) → Drafting (List Nat)
  | 0 => refuse
  | fuel + 1 => do
    if ← accept .closeList then return []
    if !isFirst then expect .comma
    if ← accept .closeList then return []
    if ← accept .key then
      let number ← add none ⟨.map, .map []⟩
      let k ← nodeUnless [.value, .comma, .closeList] .flow fuel
      let v ← valueUnless [.comma, .closeList] .flow fuel
      fill number (.map [(k, v)])
      let xs ← flowItems false fuel
      return number :: xs
    let x ← node .flow fuel
    let xs ← flowItems false fuel
    return x :: xs

/-- The entries of a flow map, up to its end; a comma parts them.  A node that is no key has an
empty value. -/
def flowEntries (isFirst : Bool) : (fuel : Nat) → Drafting (List (Nat × Nat))
  | 0 => refuse
  | fuel + 1 => do
    if ← accept .closeMap then return []
    if !isFirst then expect .comma
    if ← accept .closeMap then return []
    if ← accept .key then
      let k ← nodeUnless [.value, .comma, .closeMap] .flow fuel
      let v ← valueUnless [.comma, .closeMap] .flow fuel
      let rest ← flowEntries false fuel
      return (k, v) :: rest
    let k ← node .flow fuel
    let v ← addEmpty
    let rest ← flowEntries false fuel
    return (k, v) :: rest

end

/-! ## Documents -/

/-- The directives in front of a document; `hasVersion` says whether one of them gave the version,
which is 1. -/
def directives (hasVersion : Bool) : (fuel : Nat) → Drafting Unit
  | 0 => refuse
  | fuel + 1 => do
    match ← peek with
    | .directive d =>
      next
      match d with
      | .version major =>
        if hasVersion || major ≠ 1 then refuse
        directives true fuel
      | .handle h expansion =>
        if (← get).handles.any (·.1 == h) then refuse
        modify fun d => { d with handles := (h, expansion) :: d.handles }
        directives hasVersion fuel
      | .reserved => directives hasVersion fuel
    | _ => return

/-- The marks for the end of a document. -/
def documentEnds : (fuel : Nat) → Drafting Unit
  | 0 => refuse
  | fuel + 1 => do
    if ← accept .documentEnd then documentEnds fuel

/-- The content of a document after its mark, or without one if no directive comes first; of nothing
at all there is none. -/
def content (fuel : Nat) : Drafting (Option Nat) := do
  match ← peek with
  | .streamEnd => return none
  | .directive _ | .documentStart =>
    directives false fuel
    expect .documentStart
    match ← peek with
    | .directive _ | .documentStart | .documentEnd | .streamEnd => some <$> addEmpty
    | _ => some <$> node .block fuel
  | _ => some <$> node .block fuel

/-- Nothing but marks for the end of the document may follow it. -/
def close (fuel : Nat) : Drafting Unit := do
  documentEnds fuel
  if (← peek) ≠ .streamEnd then
    modify fun d => { d with handles := [] }
    directives false fuel
    refuse

/-- The number of the root of the document; a text without any content stands for null. -/
def root (fuel : Nat) : Drafting Nat := do
  match ← content fuel with
  | none => addEmpty
  | some number =>
    close fuel
    return number

end Draft

/-- The document that tokens spell.  Reading a node takes three steps at most before it takes up a
token. -/
def Document.ofTokens (ts : Tokens) : Except Fault Document := do
  let (root, d) ← (Draft.root (4 * ts.items.length + 4)).run ⟨ts.items, ts.fault, #[], [], []⟩
  return ⟨d.nodes, root⟩

end Yaml

end AdmissionGate

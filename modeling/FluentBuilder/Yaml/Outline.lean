import FluentBuilder.Yaml.Scan

/-! What is met in a YAML document from its start on, up to where it ends or stops being one. -/
namespace FluentBuilder.Yaml

inductive Shape where
  | scalar (style : ScalarStyle) (text : Text)
  | sequence
  | mapping
deriving DecidableEq, Repr

/-- How a node starts, which is all that an alias of it shows. -/
structure Head where
  mark : Mark
  tag : Option TagBytes
  shape : Shape
deriving DecidableEq, Repr

namespace Head

/-- A missing node reads as an empty plain scalar. -/
def absent (m : Mark) : Head := ⟨m, none, .scalar .plain []⟩

end Head

inductive Node where
  | written (head : Head)
  /-- What the anchor of this number stands for. -/
  | aliasOf (mark : Mark) (anchor : Nat)
deriving DecidableEq, Repr

namespace Node

def isCollection : Node → Bool
  | written ⟨_, _, .scalar ..⟩ => false
  | written _ => true
  | aliasOf .. => false

end Node

/-- One step of a walk through the nodes in the order of the text. -/
inductive Visit where
  | enter (node : Node)
  | leave
deriving DecidableEq, Repr

inductive Interruption where
  | malformed
  | unknownAnchor (mark : Mark)
  | anotherDocument
deriving DecidableEq, Repr

/-- The first document of a text, as far as it goes. A text without content has no visits. -/
structure Outline where
  visits : List Visit
  anchored : Nat → Head
  interruption : Option Interruption

namespace Outline

def head (o : Outline) : Node → Head
  | .written h => h
  | .aliasOf _ anchor => o.anchored anchor

end Outline

/-! From tokens to the outline of a document: collections nest, aliases point back to anchors, and
tag handles stand for their replacements. What was met before an interruption stays. -/

structure Reader where
  tokens : List Token
  /-- Newest first. -/
  visits : List Visit := []
  numbers : List (Text × Nat) := []
  anchored : Nat → Head := fun _ => .absent .start
  handles : List (Text × TagBytes) := []

namespace Reader

abbrev Read := ExceptT Interruption (StateM Reader)

def peek : Read Token := do
  match (← get).tokens with
  | t :: _ => return t
  | [] => throw .malformed

def pass : Read Unit := modify fun r => { r with tokens := r.tokens.tail }

def isNextOf (ls : List Lexeme) : Read Bool := return ls.contains (← peek).lexeme

def nextIf (l : Lexeme) : Read Bool := do
  if ← isNextOf [l] then
    pass
    return true
  return false

def expect (l : Lexeme) : Read Token := do
  let t ← peek
  if t.lexeme ≠ l then throw .malformed
  pass
  return t

def emit (v : Visit) : Read Unit := modify fun r => { r with visits := v :: r.visits }

def emitAbsent (m : Mark) : Read Unit := emit (.enter (.written (.absent m)))

def leaveIf (closer : Lexeme) : Read Bool := do
  if ← nextIf closer then
    emit .leave
    return true
  return false

def resolveTag (handle : Text) (suffix : TagBytes) : Read TagBytes := do
  if handle.isEmpty then return suffix
  match (← get).handles.lookup handle with
  | some replacement => return replacement ++ suffix
  | none => throw .malformed

structure Properties where
  mark : Option Mark := none
  anchor : Option Text := none
  tag : Option TagBytes := none

def properties : (count : Nat) → Properties → Read Properties
  | 0, p => return p
  | n + 1, p => do
    match ← peek with
    | ⟨.anchor name, start, _⟩ =>
      if p.anchor.isSome then return p
      pass
      properties n { p with anchor := some name, mark := p.mark <|> some start }
    | ⟨.tag handle suffix, start, _⟩ =>
      if p.tag.isSome then return p
      pass
      let tag ← resolveTag handle suffix
      properties n { p with tag := some tag, mark := p.mark <|> some start }
    | _ => return p

/-- An anchor has as its number how many different ones there are before it. One that comes again
takes another number, which a later one may take too; a number stands for the last node with it. -/
def anchor (name : Text) (h : Head) (r : Reader) : Reader :=
  let number := r.numbers.length
  { r with
    numbers := (name, number) :: r.numbers.filter (·.1 ≠ name)
    anchored := fun n => if n = number then h else r.anchored n }

def enter (p : Properties) (start : Mark) (shape : Shape) : Read Unit := do
  let h : Head := ⟨p.mark.getD start, p.tag, shape⟩
  match p.anchor with
  | some name => modify (anchor name h)
  | none => pure ()
  emit (.enter (.written h))

def emptyNode (p : Properties) : Read Unit := do
  match p.mark with
  | some m => enter p m (.scalar .plain [])
  | none => throw .malformed

def aliasNode (name : Text) (start : Mark) : Read Unit := do
  pass
  match (← get).numbers.lookup name with
  | some number => emit (.enter (.aliasOf start number))
  | none => throw (.unknownAnchor start)

mutual

/-- A node where `block` admits block collections, and `indentless` a sequence without an indent. -/
def node (block indentless : Bool) : (fuel : Nat) → Read Unit
  | 0 => throw .malformed
  | fuel + 1 => do
    if let ⟨.aliasName name, start, _⟩ ← peek then return ← aliasNode name start
    let p ← properties 2 {}
    let t ← peek
    match t.lexeme with
    | .scalar style text =>
      pass
      enter p t.start (.scalar style text)
    | .flowSequenceStart =>
      pass
      enter p t.start .sequence
      flowItems true fuel
    | .flowMappingStart =>
      pass
      enter p t.start .mapping
      flowEntries true fuel
    | .blockEntry =>
      if indentless then
        enter p t.start .sequence
        indentlessItems fuel
      else emptyNode p
    | .blockSequenceStart =>
      if block then
        pass
        enter p t.start .sequence
        blockItems fuel
      else emptyNode p
    | .blockMappingStart =>
      if block then
        pass
        enter p t.start .mapping
        blockEntries fuel
      else emptyNode p
    | _ => emptyNode p

def nodeAfter (t : Token) (closers : List Lexeme) (indentless : Bool) : (fuel : Nat) → Read Unit
  | 0 => throw .malformed
  | fuel + 1 => do
    if ← isNextOf closers then emitAbsent t.stop else node true indentless fuel

def blockItems : (fuel : Nat) → Read Unit
  | 0 => throw .malformed
  | fuel + 1 => do
    if ← leaveIf .blockEnd then return
    let t ← expect .blockEntry
    nodeAfter t [.blockEntry, .blockEnd] false fuel
    blockItems fuel

def indentlessItems : (fuel : Nat) → Read Unit
  | 0 => throw .malformed
  | fuel + 1 => do
    if ← isNextOf [.blockEntry] then
      let t ← expect .blockEntry
      nodeAfter t [.blockEntry, .key, .value, .blockEnd] false fuel
      indentlessItems fuel
    else emit .leave

def blockEntries : (fuel : Nat) → Read Unit
  | 0 => throw .malformed
  | fuel + 1 => do
    if ← leaveIf .blockEnd then return
    let t ← expect .key
    nodeAfter t [.key, .value, .blockEnd] true fuel
    let t ← peek
    if ← nextIf .value then nodeAfter t [.key, .value, .blockEnd] true fuel
    else emitAbsent t.start
    blockEntries fuel

def flowValue (closer : Lexeme) : (fuel : Nat) → Read Unit
  | 0 => throw .malformed
  | fuel + 1 => do
    if ← nextIf .value then
      if !(← isNextOf [.flowEntry, closer]) then return ← node false false fuel
    emitAbsent (← peek).start

def flowItems (first : Bool) : (fuel : Nat) → Read Unit
  | 0 => throw .malformed
  | fuel + 1 => do
    if ← leaveIf .flowSequenceEnd then return
    if !first then
      let _ ← expect .flowEntry
      if ← leaveIf .flowSequenceEnd then return
    if ← isNextOf [.key] then
      let t ← expect .key
      emit (.enter (.written ⟨t.start, none, .mapping⟩))
      if ← isNextOf [.value, .flowEntry, .flowSequenceEnd] then
        let t ← peek
        pass
        emitAbsent t.stop
      else node false false fuel
      flowValue .flowSequenceEnd fuel
      let _ ← peek
      emit .leave
    else node false false fuel
    flowItems false fuel

def flowEntries (first : Bool) : (fuel : Nat) → Read Unit
  | 0 => throw .malformed
  | fuel + 1 => do
    if ← leaveIf .flowMappingEnd then return
    if !first then
      let _ ← expect .flowEntry
      if ← leaveIf .flowMappingEnd then return
    if ← isNextOf [.key] then
      let t ← expect .key
      if ← isNextOf [.value, .flowEntry, .flowMappingEnd] then emitAbsent t.stop
      else node false false fuel
      flowValue .flowMappingEnd fuel
    else
      node false false fuel
      emitAbsent (← peek).start
    flowEntries false fuel

end

def defaultHandles : List (Text × TagBytes) :=
  [(['!'], Text.utf8 ['!']), (['!', '!'], Text.utf8 "tag:yaml.org,2002:".toList)]

/-- The directives before a document: at most one version, which is 1.1 or 1.2, and no handle
twice. Whether there are any. -/
def directives : (count : Nat) → (versioned : Bool) → Read Bool
  | 0, _ => return false
  | n + 1, versioned => do
    match (← peek).lexeme with
    | .versionDirective major minor =>
      if versioned || major ≠ 1 || (minor ≠ 1 && minor ≠ 2) then throw .malformed
      pass
      let _ ← directives n true
      return true
    | .tagDirective handle replacement =>
      if ((← get).handles.lookup handle).isSome then throw .malformed
      pass
      modify fun r => { r with handles := (handle, replacement) :: r.handles }
      let _ ← directives n versioned
      return true
    | _ => return false

def root (fuel : Nat) : Read Unit := do
  let t ← peek
  match t.lexeme with
  | .versionDirective .. | .tagDirective .. | .documentStart | .documentEnd | .textEnd =>
    emitAbsent t.start
  | _ => node true false fuel

def finish : Read Unit := do
  let _ ← nextIf .documentEnd
  let next := (← get).tokens.find? (·.lexeme ≠ .documentEnd)
  if !next.any (·.lexeme = .textEnd) then throw .anotherDocument

def document (fuel : Nat) : Read Unit := do
  if ← isNextOf [.textEnd] then return
  let isDirected ← directives fuel false
  modify fun r => { r with handles := r.handles ++ defaultHandles }
  if isDirected || (← isNextOf [.documentStart]) then
    let _ ← expect .documentStart
    root fuel
  else node true false fuel
  finish

end Reader

def Outline.read (t : Text) : Outline :=
  let tokens := Token.scan t
  let (result, r) := (Reader.document (2 * tokens.length + 4)).run.run { tokens }
  { visits := r.visits.reverse
    anchored := r.anchored
    interruption :=
      match result with
      | .ok _ => none
      | .error why => some why }

end FluentBuilder.Yaml

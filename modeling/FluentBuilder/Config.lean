import FluentBuilder.Decimal
import FluentBuilder.Storage
import FluentBuilder.Style
import FluentBuilder.Text.Quoted
import FluentBuilder.Yaml.Outline
import FluentBuilder.Yaml.Value

/-! The configuration file: what can be wrong with it, its decoding, and its loading. -/
namespace FluentBuilder.Config
open Yaml

/-! What can be wrong with the data of a configuration file, and the wording of it. -/

inductive Found where
  | value (v : Value) (text : Text)
  | sequence
  | mapping
deriving DecidableEq, Repr

inductive Fault where
  | invalidType (found : Found) (expected : Text)
  | invalidValue (text expected : Text)
  | unknownLineBreak (name : Text)
  | duplicate (key : Text)
deriving DecidableEq, Repr

/-- The path of keys is missing for the file as a whole, and a mark for its very start. -/
structure Located where
  fault : Fault
  path : Text := []
  mark : Mark := .start
deriving DecidableEq, Repr

def code (t : Text) : Text := '\x60' :: t ++ ['\x60']

def integerText (n : Int) : Text :=
  let digits := Text.ofNat n.natAbs
  code (if n < 0 then '-' :: digits else digits) ++
    if 0 ≤ n then if n.natAbs < Nat.pow 2 64 then [] else " as u128".toList
    else if n.natAbs ≤ Nat.pow 2 63 then [] else " as i128".toList

def floatText (negative : Bool) (size : Text) : Text :=
  "floating point ".toList ++ code (if negative then '-' :: size else size)

namespace Found

def describe : Found → Text
  | value .null _ => "unit value".toList
  | value (.boolean b) _ => "boolean ".toList ++ code (if b then "true".toList else "false".toList)
  | value (.integer n) _ => "integer ".toList ++ integerText n
  | value (.float negative size) _ => floatText negative size.shortest.positional
  | value (.infinity negative) _ => floatText negative "inf".toList
  | value .notANumber _ => floatText false "NaN".toList
  | value .text t => "string ".toList ++ t.quoted
  | sequence => "sequence".toList
  | mapping => "map".toList

end Found

namespace Fault

def describe : Fault → Text
  | invalidType found expected =>
    "invalid type: ".toList ++ found.describe ++ ", expected ".toList ++ expected
  | invalidValue text expected =>
    "invalid value: string ".toList ++ text.quoted ++ ", expected ".toList ++ expected
  | unknownLineBreak name =>
    "unknown variant ".toList ++ code name ++ ", expected ".toList ++ code LineBreak.crlf.name ++
      " or ".toList ++ code LineBreak.lf.name
  | duplicate key => "duplicate field ".toList ++ code key

end Fault

def place (m : Mark) : Text :=
  if m.line = 0 && m.column = 0 then []
  else
    " at line ".toList ++ Text.ofNat (m.line + 1) ++ " column ".toList ++ Text.ofNat (m.column + 1)

def Located.describe (l : Located) : Text :=
  (if l.path.isEmpty then [] else l.path ++ ": ".toList) ++ l.fault.describe ++ place l.mark

/-! From the outline of a YAML document to a configuration. Keys may come in any order, missing keys
have their defaults, unknown keys are passed over, and no known key may come twice. The first fault
counts, even where the document is interrupted after it. -/

def coreTag (name : String) : TagBytes := Text.utf8 ("tag:yaml.org,2002:" ++ name).toList

def localName? (tag : TagBytes) : Option Text :=
  match tag with
  | 33 :: name => Text.ofUtf8? (if name.isEmpty then tag else name)
  | _ => none

def isLocal (tag : TagBytes) : Bool := tag.head? = some 33

/-- What a scalar is, by its tag or, if it is plain, by its text. -/
def scalarMismatch (h : Head) (style : ScalarStyle) (t : Text) (expected : Text) : Fault :=
  let found (v : Option Value) (kind : Text) : Fault :=
    match v with
    | some v => .invalidType (.value v t) expected
    | none => .invalidValue t kind
  let isPlain := style = .plain && h.tag.all isLocal
  if h.tag = some (coreTag "bool") then
    found ((Value.boolean? t).map .boolean) "a boolean".toList
  else if h.tag = some (coreTag "int") then
    found ((Value.integer? t).map .integer) "an integer".toList
  else if h.tag = some (coreTag "float") then found (Value.float? t) "a float".toList
  else if h.tag = some (coreTag "null") then
    found (if Value.isNullWord t then some .null else none) "null".toList
  else .invalidType (.value (if isPlain then Value.read t else .text) t) expected

def mismatch (h : Head) (expected : Text) : Fault :=
  match h.shape with
  | .scalar style t => scalarMismatch h style t expected
  | .sequence => .invalidType .sequence expected
  | .mapping => .invalidType .mapping expected

/-- The text of a scalar that may be read as `tag`: a plain one, or a literal block with that
tag. -/
def bareText? (h : Head) (tag : TagBytes) : Option Text :=
  match h.shape with
  | .scalar .plain t => some t
  | .scalar .literal t => if h.tag = some tag then some t else none
  | _ => none

def indentOf (h : Head) : Except Fault Nat :=
  match bareText? h (coreTag "int") >>= Value.natural? (Nat.pow 2 64) with
  | some n => .ok n
  | none => .error (mismatch h "usize".toList)

def flagOf (h : Head) : Except Fault Bool :=
  match bareText? h (coreTag "bool") >>= Value.boolean? with
  | some b => .ok b
  | none => .error (mismatch h "a boolean".toList)

def isNothing (h : Head) : Bool :=
  match h.shape with
  | .scalar .plain t => t.isEmpty || Value.isNullWord t
  | _ => false

def namedLineBreak (name : Text) : Except Fault LineBreak :=
  match LineBreak.ofName? name with
  | some b => .ok b
  | none => .error (.unknownLineBreak name)

def Located.at (path : Text) (mark : Mark) (r : Except Fault α) : Except Located α :=
  r.mapError (⟨·, path, mark⟩)

def somethingFault (h : Head) : Fault :=
  match h.shape with
  | .scalar _ t => .invalidValue t "null".toList
  | _ => mismatch h "unit".toList

/-- A line break by its name, which is a scalar or else a local tag on nothing. A tag is named
before its node is entered, so an unknown one is a fault of what is around the node. -/
def lineBreakOf (around : Text × Mark) (path : Text) (h : Head) : Except Located LineBreak :=
  match h.tag >>= localName? with
  | some name => do
    let b ← Located.at around.1 around.2 (namedLineBreak name)
    if isNothing h then return b
    Located.at path h.mark (.error (somethingFault h))
  | none =>
    Located.at path h.mark <|
      match h.shape with
      | .scalar _ t => namedLineBreak t
      | _ => .error (mismatch h "a YAML tag starting with '!'".toList)

structure Draft where
  lineBreak : Option LineBreak := none
  indent : Option Nat := none
  stripInterfacePrefix : Option Bool := none

namespace Draft

def toConfig (d : Draft) : Config where
  lineBreak := d.lineBreak.getD ({} : Config).lineBreak
  indent := d.indent.getD ({} : Config).indent
  stripInterfacePrefix := d.stripInterfacePrefix.getD ({} : Config).stripInterfacePrefix

end Draft

def lineBreakKey : Text := "line_break".toList

def indentKey : Text := "indent".toList

def stripKey : Text := "strip_interface_prefix".toList

namespace Draft

def has (d : Draft) (key : Text) : Bool :=
  (key = lineBreakKey && d.lineBreak.isSome) || (key = indentKey && d.indent.isSome) ||
    (key = stripKey && d.stripInterfacePrefix.isSome)

/-- Reads the value of a key, and nothing for an unknown one. -/
def read (d : Draft) (key : Text) (around : Text × Mark) (path : Text) (h : Head) :
    Except Located Draft :=
  if key = lineBreakKey then do
    return { d with lineBreak := some (← lineBreakOf around path h) }
  else if key = indentKey then do
    return { d with indent := some (← Located.at path h.mark (indentOf h)) }
  else if key = stripKey then do
    return { d with stripInterfacePrefix := some (← Located.at path h.mark (flagOf h)) }
  else return d

end Draft

def keyOf (h : Head) : Except Located Text :=
  match h.shape with
  | .scalar _ t => .ok t
  | _ => .error ⟨mismatch h "field identifier".toList, [], h.mark⟩

def pathOf (key : Text) : Node → Text
  | .aliasOf .. => ['?']
  | _ => key

/-- Around a value is the alias for it, or else the whole mapping. -/
def aroundOf (root : Mark) (path : Text) : Node → Text × Mark
  | .aliasOf mark _ => (path, mark)
  | _ => ([], root)

inductive Expected where
  | key
  | value (key path : Text)
  /-- Part of a collection that is passed over, within `depth` others. -/
  | inside (depth : Nat)
deriving DecidableEq, Repr

structure Progress where
  draft : Draft := {}
  expected : Expected := .key

namespace Progress

/-- A collection as the value of an unknown key is passed over. -/
def step (o : Outline) (root : Mark) (p : Progress) (v : Visit) : Except Located Progress :=
  match p.expected, v with
  | .key, .enter n => do
    let key ← keyOf (o.head n)
    if p.draft.has key then .error ⟨.duplicate key, [], root⟩
    return { p with expected := .value key (pathOf key n) }
  | .value key path, .enter n => do
    let draft ← p.draft.read key (aroundOf root path n) path (o.head n)
    return { draft, expected := if n.isCollection then .inside 0 else .key }
  | .inside depth, .enter n =>
    .ok { p with expected := .inside (if n.isCollection then depth + 1 else depth) }
  | .inside 0, .leave => .ok { p with expected := .key }
  | .inside (depth + 1), .leave => .ok { p with expected := .inside depth }
  | _, .leave => .ok p

end Progress

def ofHead (h : Head) : Except Located Config :=
  if h.shape = .scalar .plain [] then .ok {}
  else .error ⟨mismatch h "struct BuilderConfig".toList, [], h.mark⟩

def ofOutline (o : Outline) : Except Located Config :=
  match o.visits with
  | .enter n :: visits =>
    let h := o.head n
    if h.shape = .mapping then do
      let p ← visits.foldlM (Progress.step o h.mark) {}
      return p.draft.toConfig
    else ofHead h
  | _ => .ok {}

end FluentBuilder.Config

/-! Loading the configuration file of a workspace. -/
namespace FluentBuilder

namespace Config

inductive LoadError where
  | unreadable (why : PathError)
  | rejected (fault : Located)
  | interrupted (why : Yaml.Interruption)
deriving DecidableEq, Repr

namespace LoadError

def cause : LoadError → Text
  | unreadable why => why.message
  | rejected fault => fault.describe
  | interrupted .malformed => "not a YAML document".toList
  | interrupted (.unknownAnchor mark) => "unknown anchor".toList ++ place mark
  | interrupted .anotherDocument =>
    "deserializing from YAML containing more than one document is not supported".toList

def message (path : Text) (e : LoadError) : Text :=
  let verb := match e with
    | unreadable _ => "read".toList
    | _ => "parse".toList
  "failed to ".toList ++ verb ++ " config ".toList ++ path ++ ": ".toList ++ e.cause

end LoadError

/-- A fault in the data counts before an interruption, which comes after it. -/
def parse (t : Text) : Except LoadError Config := do
  let o := Yaml.Outline.read t
  let c ← (ofOutline o).mapError .rejected
  match o.interruption with
  | none => return c
  | some why => throw (.interrupted why)

/-- The configuration in a file, `none` where there is no file. -/
def load : Reading → Except LoadError (Option Config)
  | .ok t => some <$> parse t
  | .unreadable e => .error (.unreadable e)
  | .absent _ => .ok none

end Config
end FluentBuilder

import FluentBuilder.Text.Basic

/-! The command line: its commands, and how their arguments are read. -/
namespace FluentBuilder

inductive Format where
  | yaml
  | json
deriving DecidableEq, Repr

inductive Command where
  | generate (input : Text) (workspace : Option Text) (stdout : Bool)
  | inspect (input : Text) (format : Format)
  | init (force : Bool)
  | version
deriving DecidableEq, Repr

namespace Command

/-- Options that take a value, by their long and short names, and flags. -/
structure Options where
  valued : List (Text × Option Char)
  flags : List Text

/-- An option with its value, or a flag. -/
abbrev Given := Text × Option Text

namespace Options

def longName? (o : Options) (c : Char) : Option Text :=
  (o.valued.find? (·.2 = some c)).map (·.1)

def isValued (o : Options) (name : Text) : Bool := o.valued.any (·.1 = name)

/-- A separate argument is no value if it looks like an option. -/
def isSeparateValue (v : Text) : Bool := v = ['-'] || v.head? ≠ some '-'

def splitLong (t : Text) : Text × Option Text :=
  let name := t.takeWhile (· ≠ '=')
  match t.drop name.length with
  | [] => (name, none)
  | _ :: v => (name, some v)

def attached : Text → Option Text
  | [] => none
  | '=' :: v => some v
  | v => some v

def read (o : Options) : List Text → Option (List Given)
  | [] => some []
  | ('-' :: '-' :: long) :: args =>
    if long.isEmpty then if args.isEmpty then some [] else none
    else
      let (name, v) := splitLong long
      if o.flags.contains name then
        if v.isNone then (o.read args).map ((name, none) :: ·) else none
      else if !o.isValued name then none
      else
        match v, args with
        | some v, args => (o.read args).map ((name, some v) :: ·)
        | none, v :: args =>
          if isSeparateValue v then (o.read args).map ((name, some v) :: ·) else none
        | none, [] => none
  | ('-' :: c :: rest) :: args =>
    match o.longName? c, attached rest, args with
    | none, _, _ => none
    | some name, some v, args => (o.read args).map ((name, some v) :: ·)
    | some name, none, v :: args =>
      if isSeparateValue v then (o.read args).map ((name, some v) :: ·) else none
    | some _, none, [] => none
  | _ => none

/-- Every option at most once, and no value empty. -/
def readOnce (o : Options) (args : List Text) : Option (List Given) :=
  (o.read args).filter fun gs =>
    decide (gs.map (·.1)).Nodup && gs.all fun g => g.2 ≠ some []

end Options

def value? (gs : List Given) (name : Text) : Option Text := (gs.lookup name).join

def has (gs : List Given) (name : Text) : Bool := (gs.lookup name).isSome

def input : Text := "input".toList

def workspace : Text := "workspace".toList

def stdout : Text := "stdout".toList

def format : Text := "format".toList

def force : Text := "force".toList

def readFormat : Option Text → Option Format
  | none => some .yaml
  | some t =>
    if t = "yaml".toList then some .yaml else if t = "json".toList then some .json else none

def readGenerate (args : List Text) : Option Command := do
  let gs ← Options.readOnce ⟨[(input, some 'i'), (workspace, some 'w')], [stdout]⟩ args
  some (.generate (← value? gs input) (value? gs workspace) (has gs stdout))

def readInspect (args : List Text) : Option Command := do
  let gs ← Options.readOnce ⟨[(input, some 'i'), (format, none)], []⟩ args
  some (.inspect (← value? gs input) (← readFormat (value? gs format)))

def readInit (args : List Text) : Option Command := do
  let gs ← Options.readOnce ⟨[], [force]⟩ args
  some (.init (has gs force))

def read : List Text → Option Command
  | [] => none
  | name :: args =>
    if name = "--version".toList || ['-', 'V'].isPrefixOf name then some .version
    else if name = "generate".toList then readGenerate args
    else if name = "inspect".toList then readInspect args
    else if name = "init".toList then readInit args
    else none

end Command
end FluentBuilder

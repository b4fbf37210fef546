import FluentBuilder.Generation
import FluentBuilder.Yaml.Written

/-! What a builder would be made of, as YAML and as JSON. -/
namespace FluentBuilder

structure Row where
  property : Text
  optional : Bool
  typeExpression : Text
  default : Text
deriving DecidableEq, Repr

structure Inspection where
  declared : Text
  builder : Text
  terminator : Text
  rows : List Row
deriving DecidableEq, Repr

def Field.row (f : Field) : Row where
  property := f.property
  optional := f.isOptional
  typeExpression := f.typeExpression
  default := f.default

def Declaration.inspection (d : Declaration) : Inspection where
  declared := d.name
  builder := d.baseName ++ "Builder".toList
  terminator := d.style.terminator
  rows := d.fields.map Field.row

def inspect (t : Text) (config : Config) : Traced Inspection :=
  Declaration.inspection <$> analyze t config Interface.byPattern

end FluentBuilder

/-! How a text is written as a JSON string. -/
namespace FluentBuilder.Json
open Text

def escaped (c : Char) : Text :=
  match c with
  | '"' => ['\\', '"']
  | '\\' => ['\\', '\\']
  | '\x08' => ['\\', 'b']
  | '\x0c' => ['\\', 'f']
  | '\n' => ['\\', 'n']
  | '\r' => ['\\', 'r']
  | '\t' => ['\\', 't']
  | c =>
    if c.toNat < 0x20 then
      let digits := hex c.toNat
      '\\' :: 'u' :: List.replicate (4 - digits.length) '0' ++ digits
    else [c]

def written (t : Text) : Text := '"' :: t.flatMap escaped ++ ['"']

end FluentBuilder.Json

/-! An inspection as YAML and as JSON. -/
namespace FluentBuilder

def flagText (b : Bool) : Text := if b then "true".toList else "false".toList

namespace Row

def yaml (r : Row) : Text :=
  "- property: ".toList ++ Yaml.written 4 r.property ++
  "\n  optional: ".toList ++ flagText r.optional ++
  "\n  type_expression: ".toList ++ Yaml.written 4 r.typeExpression ++
  "\n  default_value: ".toList ++ Yaml.written 4 r.default ++ ['\n']

def json (r : Row) : Text :=
  "    \x7b\n      \"property\": ".toList ++ Json.written r.property ++
  ",\n      \"optional\": ".toList ++ flagText r.optional ++
  ",\n      \"type_expression\": ".toList ++ Json.written r.typeExpression ++
  ",\n      \"default_value\": ".toList ++ Json.written r.default ++ "\n    \x7d".toList

end Row

namespace Inspection

def yaml (i : Inspection) : Text :=
  "interface: ".toList ++ Yaml.written 2 i.declared ++
  "\nbuilder: ".toList ++ Yaml.written 2 i.builder ++
  "\nstatement_terminator: ".toList ++ Yaml.written 2 i.terminator ++
  "\nfields:".toList ++ (if i.rows.isEmpty then " []\n".toList else '\n' :: i.rows.flatMap Row.yaml)

def json (i : Inspection) : Text :=
  let rows :=
    if i.rows.isEmpty then "[]".toList
    else "[\n".toList ++ ",\n".toList.intercalate (i.rows.map Row.json) ++ "\n  ]".toList
  "\x7b\n  \"interface\": ".toList ++ Json.written i.declared ++
  ",\n  \"builder\": ".toList ++ Json.written i.builder ++
  ",\n  \"statement_terminator\": ".toList ++ Json.written i.terminator ++
  ",\n  \"fields\": ".toList ++ rows ++ "\n\x7d\n".toList

end Inspection
end FluentBuilder

import FluentBuilder.Interface
import FluentBuilder.Style
import FluentBuilder.Text.Uppercase

/-! Builder classes: where one is saved, what it takes from each field, and its text. -/
namespace FluentBuilder

/-! Where a builder is saved: beside its document, under a name of its own. -/

def isSeparator (c : Char) : Bool := c = '/' || c = '\\'

def splitFolder (path : Text) : Text × Text :=
  match Text.splitLast? isSeparator path with
  | some (folder, s, file) => (folder ++ [s], file)
  | none => ([], path)

/-- Stem and extension. A dot in first place belongs to the stem, and no extension means `ts`. -/
def splitExtension (file : Text) : Text × Text :=
  match Text.splitLast? (· = '.') file with
  | some (c :: stem, _, extension) => (c :: stem, extension)
  | _ => (file, "ts".toList)

def stemSuffix (stem : Text) : Text :=
  if stem.contains '.' then ".builder".toList else "Builder".toList

def builderFile (file : Text) : Text :=
  let (stem, extension) := splitExtension file
  stem ++ stemSuffix stem ++ '.' :: extension

def outputPath (path : Text) : Text :=
  let (folder, file) := splitFolder path
  folder ++ builderFile file

/-! What a builder derives from one field: its property, the name of its setter and its initial
value. -/

def stripMarker (name : Text) : Text := name.filter (· ≠ '?')

theorem stripMarker_append (s t : Text) :
    stripMarker (s ++ t) = stripMarker s ++ stripMarker t := by
  simp [stripMarker]

theorem stripMarker_idem (t : Text) : stripMarker (stripMarker t) = stripMarker t := by
  simp [stripMarker]

/-- Arrays start empty, numbers at 1 and booleans at false; any other type starts undefined. -/
def defaultFor (typeExpression : Text) : Text :=
  if Text.occurs ['[', ']'] typeExpression then "[]".toList
  else if typeExpression = "number".toList then "1".toList
  else if typeExpression = "boolean".toList then "false".toList
  else "undefined".toList

namespace Field

def property (f : Field) : Text := stripMarker f.name

def setter (f : Field) : Text := stripMarker (Text.capitalize f.name)

def isOptional (f : Field) : Bool := f.name.getLast? = some '?'

def default (f : Field) : Text := defaultFor f.typeExpression

end Field

/-! The text of a builder class. Names, types and style strings go in as they are. -/

structure Members where
  /-- Such as `private foo: string = undefined`. -/
  definitions : List Text
  /-- Such as `foo: this.foo`, an entry of what `build()` returns. -/
  locals : List Text
  /-- Such as `public withFoo(value: string)` and its body. -/
  setters : List Text
deriving DecidableEq, Repr

namespace Field

def definition (s : Style) (f : Field) : Text :=
  "private ".toList ++ f.property ++ ": ".toList ++ f.typeExpression ++ " = ".toList ++ f.default ++
    s.terminator

def localEntry (f : Field) : Text := f.property ++ ": this.".toList ++ f.property

def setterMethod (s : Style) (f : Field) : Text :=
  "public with".toList ++ f.setter ++ "(value: ".toList ++ f.typeExpression ++ ") \x7b".toList ++
    s.lineBreak ++
  s.indent ++ s.indent ++ "this.".toList ++ f.property ++ " = value".toList ++ s.terminator ++
    s.lineBreak ++
  s.indent ++ s.indent ++ "return this".toList ++ s.terminator ++ s.lineBreak ++
  s.indent ++ "\x7d".toList

end Field

namespace Members

def ofFields (s : Style) (fields : List Field) : Members where
  definitions := fields.map (·.definition s)
  locals := fields.map Field.localEntry
  setters := fields.map (·.setterMethod s)

end Members

def classText (declared base : Text) (m : Members) (s : Style) : Text :=
  let b := s.lineBreak
  let t := s.indent
  "export class ".toList ++ base ++ "Builder \x7b".toList ++ b ++
  t ++ (b ++ t).intercalate m.definitions ++ b ++ b ++
  t ++ "public build(): ".toList ++ declared ++ " \x7b".toList ++ b ++
  t ++ t ++ "return \x7b".toList ++ b ++
  t ++ t ++ t ++ (',' :: b ++ t ++ t ++ t).intercalate m.locals ++ b ++
  t ++ t ++ "\x7d".toList ++ s.terminator ++ b ++
  t ++ "\x7d".toList ++ b ++ b ++
  t ++ (b ++ b ++ t).intercalate m.setters ++ b ++
  "\x7d".toList ++ b

def assemble (base declared : Text) (fields : List Field) (s : Style) : Text :=
  classText declared base (.ofFields s fields) s

end FluentBuilder

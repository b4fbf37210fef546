import FluentBuilder.Text.Basic

/-! Formatting conventions of a generated class, and the configuration that sets them. -/
namespace FluentBuilder

inductive LineBreak where
  | crlf
  | lf
deriving DecidableEq, Repr, Inhabited

namespace LineBreak

def name : LineBreak → Text
  | crlf => "crlf".toList
  | lf => "lf".toList

def text : LineBreak → Text
  | crlf => ['\r', '\n']
  | lf => ['\n']

def ofName? (t : Text) : Option LineBreak :=
  if t = crlf.name then some crlf else if t = lf.name then some lf else none

theorem ofName?_name (b : LineBreak) : ofName? b.name = some b := by cases b <;> rfl

end LineBreak

structure Style where
  lineBreak : Text
  terminator : Text
  indent : Text
deriving DecidableEq, Repr

namespace Style

/-- A semicolon anywhere in a text, comments included, makes its builder use semicolons. -/
def sniff (t : Text) : Style where
  lineBreak := LineBreak.crlf.text
  terminator := if t.contains ';' then [';'] else []
  indent := [' ', ' ']

def withLineBreak (s : Style) (b : LineBreak) : Style := { s with lineBreak := b.text }

/-- From this many on, repeating a space panics and ends the run. -/
def maxIndent : Nat := Nat.pow 2 63

def withIndent? (s : Style) (spaces : Nat) : Option Style :=
  if spaces < maxIndent then some { s with indent := List.replicate spaces ' ' } else none

end Style

structure Config where
  lineBreak : LineBreak := .crlf
  indent : Nat := 2
  /-- Drop a leading `I` of the interface name from the builder's name. -/
  stripInterfacePrefix : Bool := true
deriving DecidableEq, Repr, Inhabited

namespace Config

/-- A style with the configured layout; `none` where the indent is too wide for any text. -/
def restyle (c : Config) (s : Style) : Option Style :=
  (s.withLineBreak c.lineBreak).withIndent? c.indent

def fileName : Text := ".i2b.yaml".toList

def defaultContent : Text :=
  "# i2b configuration\n".toList ++
  "line_break: crlf              # crlf | lf\n".toList ++
  "indent: 2                     # spaces per nesting level\n".toList ++
  "strip_interface_prefix: true  # IPerson -> PersonBuilder\n".toList

end Config
end FluentBuilder

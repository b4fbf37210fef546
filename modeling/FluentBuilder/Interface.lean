import FluentBuilder.Text.Word
import FluentBuilder.Trace

/-! Interfaces in a text: their fields, the scans for names, types and callable members, the exported
declaration, and the extraction that pairs names with types. -/
namespace FluentBuilder

/-! Fields of an interface, and the pairing of names with types found apart from each other. -/

/-- A property as written: the name keeps its optional marker. -/
structure Field where
  name : Text
  typeExpression : Text
deriving DecidableEq, Repr

namespace Field

/-- Names and types pair up by position, so their counts have to agree. -/
def pair (names types : List Text) : Except Failure (List Field) :=
  if names.length = types.length then .ok (List.zipWith Field.mk names types)
  else .error (.fieldTypeMismatch names.length types.length)

theorem pair_map (fields : List Field) :
    pair (fields.map name) (fields.map typeExpression) = .ok fields := by
  simp [pair, List.zipWith_map]

end Field
end FluentBuilder

/-! Members of an interface body: property names, type expressions and callable members, each found
by a scan of its own over the whole text. -/
namespace FluentBuilder.Interface
open Text

/-- A run of word characters and one more character that is not blank, right before a colon. -/
def propertyName : Pattern := fun t =>
  let run := t.takeWhile isWord
  match t.dropWhile isWord with
  | c :: ':' :: _ => if isBlank c then none else some (run ++ [c], run.length + 2)
  | ':' :: _ => if run.isEmpty then none else some (run, run.length + 1)
  | _ => none

def propertyNames (t : Text) : List Text := captures propertyName t

def endsType (c : Char) : Bool := c = '\n' || c = '\r' || c = ';'

/-- After a colon and one blank, all up to the end of the line or the statement. -/
def typeExpression : Pattern
  | ':' :: c :: t =>
    if isBlank c then
      let run := t.takeWhile (!endsType ·)
      if run.isEmpty then none else some (run, run.length + 2)
    else none
  | _ => none

def typeExpressions (t : Text) : List Text := captures typeExpression t

def startsCall : Text → Bool
  | c :: '(' :: _ => isWord c
  | c :: '?' :: '(' :: _ => isWord c
  | _ => false

def hasCallable : Text → Bool
  | [] => false
  | c :: t => startsCall (c :: t) || hasCallable t

theorem hasCallable_iff {t : Text} :
    hasCallable t = true ↔ ∃ before rest, t = before ++ rest ∧ startsCall rest = true := by
  induction t with
  | nil => simp [hasCallable, startsCall]
  | cons c t ih =>
    simp only [hasCallable, Bool.or_eq_true, ih]
    constructor
    · rintro (h | ⟨b, r, rfl, h⟩)
      · exact ⟨[], c :: t, rfl, h⟩
      · exact ⟨c :: b, r, rfl, h⟩
    · rintro ⟨b, r, h, hr⟩
      cases b with
      | nil => exact .inl (h ▸ hr)
      | cons d b =>
        obtain ⟨rfl, rfl⟩ := List.cons.inj h
        exact .inr ⟨b, r, rfl, hr⟩

/-! The exported declaration: its marker, the interface name after it, and the name without its
leading `I`. -/

def marker : Text := "export interface".toList

def hasMarker (t : Text) : Bool := occurs marker t

def nameAt? (t : Text) : Option Text :=
  match after? marker t with
  | some (c :: r) =>
    let name := (r.dropWhile isBlank).takeWhile isWord
    if isBlank c && !name.isEmpty then some name else none
  | _ => none

/-- The first name whose marker is not glued to the word character before it. -/
def nameFrom? : (previous : Option Char) → Text → Option Text
  | _, [] => none
  | previous, c :: t =>
    let found := if previous.any isUnicodeWord then none else nameAt? (c :: t)
    found <|> nameFrom? (some c) t

def name? (t : Text) : Option Text := nameFrom? none t

def baseName : Text → Text
  | 'I' :: t => t
  | t => t

end FluentBuilder.Interface

/-! Extraction of the fields of an interface: the scans, with an empty result as a failure, and the
extractor that pairs them. -/
namespace FluentBuilder

structure Extraction where
  records : List Record
  result : Except Failure (List Field)

abbrev Extractor := Text → Extraction

namespace Interface

def extractName (t : Text) : Except Failure Text :=
  match name? t with
  | some name => .ok name
  | none => .error .noDeclaration

def requireMarker (t : Text) : Except Failure Unit :=
  if hasMarker t then .ok () else .error .notADeclaration

def extractPropertyNames (t : Text) : Except Failure (List Text) :=
  match propertyNames t with
  | [] => .error .noProperties
  | names => .ok names

def extractTypeExpressions (t : Text) : Except Failure (List Text) :=
  match typeExpressions t with
  | [] => .error .noDataTypes
  | types => .ok types

def byPattern : Extractor := fun t =>
  match extractPropertyNames t, extractTypeExpressions t with
  | .ok names, .ok types => ⟨[.scanned names.length types.length], Field.pair names types⟩
  | .error e, _ => ⟨[], .error e⟩
  | _, .error e => ⟨[], .error e⟩

end Interface
end FluentBuilder

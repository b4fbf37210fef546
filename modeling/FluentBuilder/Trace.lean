import FluentBuilder.Storage
import FluentBuilder.Text.Quoted

/-! The ways a generation fails, in words, and computations that leave a trace: what happened, in
order, and how it ended. -/
namespace FluentBuilder

inductive Failure where
  | noWorkspace
  | noEditor
  | noText
  | unsupportedMember
  | notADeclaration
  | noDeclaration
  | noProperties
  | noDataTypes
  | fieldTypeMismatch (properties dataTypes : Nat)
  | writeFailed (detail : Text)
deriving DecidableEq, Repr

namespace Failure

def message : Failure → Text
  | noWorkspace => "Please open a directory before creating a builder.".toList
  | noEditor => "No open text editor. Please open an interface file.".toList
  | noText => "No text found. Please open an interface file.".toList
  | unsupportedMember => "Methods defined in interfaces are not currently supported.".toList
  | notADeclaration => "No interface found. \"export interface\" must be in your code.".toList
  | noDeclaration => "Could not find the interface name.".toList
  | noProperties => "Could not find any properties defined in the interface.".toList
  | noDataTypes => "Could not find any data types defined in the interface.".toList
  | fieldTypeMismatch p d =>
    "Found ".toList ++ Text.ofNat p ++ " properties but ".toList ++ Text.ofNat d ++
      " data types in the interface.".toList
  | writeFailed detail => "File save failed: ".toList ++ detail

def label : Failure → Text
  | noWorkspace => "NoWorkspace".toList
  | noEditor => "NoEditor".toList
  | noText => "NoText".toList
  | unsupportedMember => "UnsupportedMember".toList
  | notADeclaration => "NotADeclaration".toList
  | noDeclaration => "NoDeclaration".toList
  | noProperties => "NoProperties".toList
  | noDataTypes => "NoDataTypes".toList
  | fieldTypeMismatch p d =>
    "FieldTypeMismatch \x7b properties: ".toList ++ Text.ofNat p ++ ", data_types: ".toList ++
      Text.ofNat d ++ " \x7d".toList
  | writeFailed detail => "WriteFailed(".toList ++ detail.quoted ++ ")".toList

end Failure

/-! ### Traces -/

structure Message where
  isError : Bool
  text : Text
deriving DecidableEq, Repr

inductive Record where
  | style (terminator : Text)
  | scanned (properties dataTypes : Nat)
  | declared (name : Text) (fields : Nat)
  | writing (bytes : Nat) (path : Text)
  | writeFailed (path detail : Text)
  | stopped (failure : Failure)
deriving DecidableEq, Repr

namespace Record

def isWarning : Record → Bool
  | writeFailed .. => true
  | _ => false

def text : Record → Text
  | style e => "style: terminator ".toList ++ e.quoted
  | scanned p d =>
    "found ".toList ++ Text.ofNat p ++ " properties and ".toList ++ Text.ofNat d ++
      " data types".toList
  | declared name n =>
    "interface ".toList ++ name ++ " with ".toList ++ Text.ofNat n ++ " fields".toList
  | writing bytes path => "writing ".toList ++ Text.ofNat bytes ++ " bytes to ".toList ++ path
  | writeFailed path detail => "failed to write ".toList ++ path ++ ": ".toList ++ detail
  | stopped f => "builder generation stopped: ".toList ++ f.label

end Record

inductive Event where
  | logged (record : Record)
  /-- The field extractor was asked. -/
  | consulted
  | shown (message : Message)
  | wrote (file : File)
deriving DecidableEq, Repr

namespace Event

def record? : Event → Option Record
  | logged r => some r
  | _ => none

def message? : Event → Option Message
  | shown m => some m
  | _ => none

def file? : Event → Option File
  | wrote f => some f
  | _ => none

end Event

/-- Why a run ends early. An indent too wide for any text ends it without a word. -/
inductive Stop where
  | failed (failure : Failure)
  | indentTooWide
deriving DecidableEq, Repr

structure Traced (α : Type) where
  events : List Event
  result : Except Stop α

namespace Traced
variable {α β : Type}

@[ext] theorem ext {x y : Traced α} (he : x.events = y.events) (hr : x.result = y.result) :
    x = y := by
  cases x; cases y; cases he; cases hr; rfl

def bind (x : Traced α) (f : α → Traced β) : Traced β :=
  match x.result with
  | .ok a => ⟨x.events ++ (f a).events, (f a).result⟩
  | .error e => ⟨x.events, .error e⟩

instance : Monad Traced where
  pure a := ⟨[], .ok a⟩
  bind := bind

def emit (e : Event) : Traced Unit := ⟨[e], .ok ()⟩

def log (r : Record) : Traced Unit := emit (.logged r)

def stop (e : Stop) : Traced α := ⟨[], .error e⟩

def fail (f : Failure) : Traced α := stop (.failed f)

def ofExcept : Except Failure α → Traced α
  | .ok a => pure a
  | .error f => fail f

@[simp] protected theorem pure_bind (a : α) (f : α → Traced β) : (pure a >>= f) = f a := rfl

@[simp] theorem stop_bind (e : Stop) (f : α → Traced β) : (stop e >>= f) = stop e := rfl

@[simp] theorem fail_bind (e : Failure) (f : α → Traced β) : (fail e >>= f) = fail e := rfl

@[simp] theorem emit_bind (e : Event) (f : Unit → Traced β) :
    (emit e >>= f) = ⟨e :: (f ()).events, (f ()).result⟩ := rfl

theorem bind_events (x : Traced α) (f : α → Traced β) :
    (x >>= f).events =
      match x.result with
      | .ok a => x.events ++ (f a).events
      | .error _ => x.events := by
  show (x.bind f).events = _
  unfold bind; split <;> simp [*]

theorem bind_result (x : Traced α) (f : α → Traced β) :
    (x >>= f).result = x.result.bind fun a => (f a).result := by
  show (x.bind f).result = _
  unfold bind; split <;> simp [*, Except.bind]

end Traced
end FluentBuilder

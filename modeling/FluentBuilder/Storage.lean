import FluentBuilder.Text.Basic

/-! Files and folders, and a program that stands in one of the folders: where its paths lead, what it
reads there, and what it leaves when it writes. -/
namespace FluentBuilder

inductive PathError where
  | missing
  | notADirectory
  | isADirectory
  | nameTooLong
  | denied
  /-- The bytes there are not UTF-8. -/
  | notText
  | other (description : Text)
deriving DecidableEq, Repr

def PathError.message : PathError → Text
  | missing => "No such file or directory (os error 2)".toList
  | notADirectory => "Not a directory (os error 20)".toList
  | isADirectory => "Is a directory (os error 21)".toList
  | nameTooLong => "File name too long (os error 36)".toList
  | denied => "Permission denied (os error 13)".toList
  | notText => "stream did not contain valid UTF-8".toList
  | other description => description

/-- What comes of reading at a path. A file that cannot be read is there all the same. -/
inductive Reading where
  | ok (text : Text)
  | unreadable (why : PathError)
  | absent (why : PathError)
deriving DecidableEq, Repr

namespace Reading

def isPresent : Reading → Bool
  | absent _ => false
  | _ => true

def toExcept : Reading → Except PathError Text
  | ok t => .ok t
  | unreadable e => .error e
  | absent e => .error e

theorem toExcept_eq_ok_iff {r : Reading} {t : Text} : r.toExcept = .ok t ↔ r = .ok t := by
  cases r <;> simp [toExcept]

end Reading

inductive Content where
  | text (t : Text)
  | bytes (b : List UInt8)
deriving DecidableEq, Repr

namespace Content

def ofBytes (b : ByteArray) : Content :=
  match String.fromUTF8? b with
  | some s => text s.toList
  | none => bytes b.toList

def reading : Content → Reading
  | text t => .ok t
  | bytes _ => .unreadable .notText

end Content

structure Stored where
  content : Content
  /-- Why the file cannot be read, if it cannot. -/
  fault : Option PathError := none
deriving DecidableEq, Repr

def Stored.reading (e : Stored) : Reading :=
  match e.fault with
  | some why => .unreadable why
  | none => e.content.reading

structure File where
  path : Text
  content : Text
deriving DecidableEq, Repr

def joinPath (folder path : Text) : Text :=
  if folder = [] ∨ folder.getLast? = some '/' then folder ++ path else folder ++ '/' :: path

/-- Names from the root down. -/
abbrev Place := List Text

def maxName : Nat := 255

def maxPath : Nat := 4095

/-- A name that is looked up in the folder where a walk stands. -/
structure IsProper (n : Text) : Prop where
  ne_nil : n ≠ []
  ne_dot : n ≠ ['.']
  ne_parent : n ≠ ['.', '.']
  fits : Text.utf8Length n ≤ maxName

instance (n : Text) : Decidable (IsProper n) :=
  decidable_of_iff (n ≠ [] ∧ n ≠ ['.'] ∧ n ≠ ['.', '.'] ∧ Text.utf8Length n ≤ maxName)
    ⟨fun ⟨h, h', h'', h'''⟩ => ⟨h, h', h'', h'''⟩, fun ⟨h, h', h'', h'''⟩ => ⟨h, h', h'', h'''⟩⟩

structure Disk where
  home : Place := []
  files : List (Place × Stored)
  /-- Folders besides the working directory, those above it and those that hold files. -/
  folders : List Place := []
  /-- Folders that let nobody look up a name in them. -/
  closed : List Place := []
  /-- Why a text cannot be put to a place, if it cannot, whatever path leads there: no permission, or
  no room for it. What is written meanwhile does not change it. -/
  refuses : Place → Text → Option PathError := fun _ _ => none
  proper : ∀ n ∈ home, IsProper n ∧ '/' ∉ n := by decide

namespace Disk

def file? (d : Disk) (p : Place) : Option Stored := d.files.lookup p

def isFolder (d : Disk) (p : Place) : Bool :=
  p.isPrefixOf d.home || d.folders.any p.isPrefixOf ||
    d.files.any fun f => p.isPrefixOf f.1 && p.length < f.1.length

def cwd (d : Disk) : Text := if d.home = [] then ['/'] else d.home.flatMap ('/' :: ·)

/-- Where a path ends, if all before its last name are folders. -/
inductive Target where
  | folder
  | file (place : Place) (stored : Stored)
  | vacant (place : Place)
  /-- It reads as empty and keeps nothing. -/
  | nullDevice
deriving DecidableEq, Repr

namespace Target

def place? : Target → Option Place
  | file place _ => some place
  | vacant place => some place
  | _ => none

def reading : Target → Reading
  | folder => .unreadable .isADirectory
  | file _ stored => stored.reading
  | vacant _ => .absent .missing
  | nullDevice => .ok []

end Target

def nullDevice : Place := ["dev".toList, "null".toList]

def names : Text → List Text
  | [] => [[]]
  | c :: path =>
    if c = '/' then [] :: names path
    else
      match names path with
      | [] => [[c]]
      | n :: ns => (c :: n) :: ns

/-- Follows names from a folder. The root is its own parent. -/
def follow (d : Disk) : (folder : Place) → List Text → Except PathError Target
  | _, [] => .ok .folder
  | p, n :: ns =>
    if n = [] then d.follow p ns
    else if p ∈ d.closed then .error .denied
    else if n = ['.'] then d.follow p ns
    else if n = ['.', '.'] then d.follow p.dropLast ns
    else if maxName < Text.utf8Length n then .error .nameTooLong
    else
      let place := p ++ [n]
      match d.file? place with
      | some stored => if ns.isEmpty then .ok (.file place stored) else .error .notADirectory
      | none =>
        if d.isFolder place then d.follow place ns
        else if place = nullDevice then
          if ns.isEmpty then .ok .nullDevice else .error .notADirectory
        else if ns.isEmpty then .ok (.vacant place)
        else .error .missing

def target (d : Disk) (path : Text) : Except PathError Target :=
  if path.isEmpty then .error .missing
  else if maxPath < Text.utf8Length path then .error .nameTooLong
  else d.follow (if path.head? = some '/' then [] else d.home) (names path)

def place? (d : Disk) (path : Text) : Option Place :=
  match d.target path with
  | .ok t => t.place?
  | .error _ => none

def read (d : Disk) (path : Text) : Reading :=
  match d.target path with
  | .ok t => t.reading
  | .error e => .absent e

def refusal (d : Disk) (f : File) : Option PathError :=
  match d.target f.path with
  | .ok .folder => some .isADirectory
  | .ok t => t.place?.bind fun place => d.refuses place f.content
  | .error e => some e

/-- A file that was there stays as readable as it was. -/
def put (place : Place) (content : Content) : List (Place × Stored) → List (Place × Stored)
  | [] => [(place, { content })]
  | f :: fs =>
    if f.1 = place then (place, { f.2 with content }) :: fs else f :: put place content fs

def replace (d : Disk) (place : Place) (content : Content) : Disk :=
  { d with files := put place content d.files }

/-- Writes whole, or not at all where the file is refused. -/
def write (d : Disk) (f : File) : Disk :=
  match d.place? f.path with
  | some place => if d.refusal f = none then d.replace place (.text f.content) else d
  | none => d

end Disk
end FluentBuilder

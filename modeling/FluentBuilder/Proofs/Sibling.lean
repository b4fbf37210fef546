import FluentBuilder.Proofs.LineBreaks
import FluentBuilder.Proofs.Path
import FluentBuilder.Proofs.WorkingDirectory
import Mathlib.Data.List.Chain
import Mathlib.Order.Monotone.Basic

/-! The path of a builder file: that of its document but for a longer last name, so that the two are
never one file. -/
namespace FluentBuilder
open Text
variable {path : Text}

theorem length_outputPath (path : Text) : path.length + 7 ≤ (outputPath path).length := by
  have hpath := located_splitFolder path
  have hfile := length_builderFile (splitFolder path).2
  have hlength := congrArg List.length hpath.eq
  rw [outputPath_of_located hpath, List.length_append]
  rw [List.length_append] at hlength
  omega

theorem iterate_outputPath_injective (path : Text) :
    Function.Injective fun k : Nat => outputPath^[k] path := by
  have hgrow : StrictMono fun k : Nat => (outputPath^[k] path).length := by
    refine strictMono_nat_of_lt_succ fun k => ?_
    have hlength := length_outputPath (outputPath^[k] path)
    rw [Function.iterate_succ_apply']
    omega
  exact hgrow.injective.of_comp (f := List.length)

namespace Document
variable {d e : Document}

/-- What is generated from one document is saved where the other one is, whatever text that has. -/
def LeadsTo (d e : Document) : Prop :=
  ∃ config extractor file, (generate d config extractor).result = .ok file ∧ e.path = file.path

theorem LeadsTo.length_lt (h : d.LeadsTo e) : d.path.length < e.path.length := by
  obtain ⟨config, extractor, file, hfile, hpath⟩ := h
  obtain ⟨declaration, _, rfl⟩ := generate_eq_ok_iff.1 hfile
  have hlength := length_outputPath d.path
  have hsaved : e.path = outputPath d.path := hpath
  rw [hsaved]
  omega

theorem nodup_paths {documents : List Document} (h : documents.IsChain LeadsTo) :
    (documents.map Document.path).Nodup := by
  have hgrow : (documents.map fun d => d.path.length).IsChain (· < ·) :=
    List.isChain_map_of_isChain (fun d : Document => d.path.length)
      (fun _ _ => LeadsTo.length_lt) h
  rw [List.nodup_iff_pairwise_ne, List.pairwise_map]
  refine (List.pairwise_map.1 hgrow.pairwise).imp fun hlt he => ?_
  rw [he] at hlt
  exact Nat.lt_irrefl _ hlt

end Document

/-- A builder file lies beside its document, under a longer name that keeps the document's stem and
extension. So no chain of generations comes back to a file that it went through. -/
theorem outputPath_sibling (path : Text) :
    (∃ folder file file' stem extension, Located path folder file ∧
      Located (outputPath path) folder file' ∧ Named file stem extension ∧
      (∃ stem', Named file' stem' (some (extension.getD "ts".toList))) ∧ stem <+: file' ∧
      file.length + 7 ≤ file'.length) ∧
    outputPath path ≠ path ∧
    Function.Injective (fun k : Nat => outputPath^[k] path) ∧
    ∀ documents : List Document, documents.IsChain Document.LeadsTo →
      (documents.map Document.path).Nodup := by
  refine ⟨?sibling, ?new, iterate_outputPath_injective path, fun _ => Document.nodup_paths⟩
  case sibling =>
    have hpath := located_splitFolder path
    obtain ⟨stem, extension, hfile⟩ := exists_named (splitFolder path).2
    refine ⟨_, _, _, stem, extension, hpath, hpath.outputPath, hfile, ⟨_, hfile.builderFile⟩, ?_,
      length_builderFile _⟩
    rw [builderFile_of_named hfile, List.append_assoc]
    exact List.prefix_append stem _
  case new =>
    intro he
    have hlength := length_outputPath path
    rw [he] at hlength
    omega

theorem outputPath_sibling_notes :
    let next := { notes with path := outputPath notes.path }
    let last := { notes with path := outputPath next.path }
    [notes, next, last].IsChain Document.LeadsTo ∧
      (["notes.ts".toList, "notesBuilder.ts".toList, "notesBuilderBuilder.ts".toList]).Nodup := by
  intro next last
  have hleads (path : Text) :
      Document.LeadsTo { notes with path } { notes with path := outputPath path } :=
    ⟨_, _, _, generate_eq_ok_iff.2 ⟨notesDeclaration, analyze_notes, rfl⟩, rfl⟩
  have hchain : [notes, next, last].IsChain Document.LeadsTo :=
    .cons_cons (hleads _) (.cons_cons (hleads _) (.singleton _))
  exact ⟨hchain, (outputPath_sibling notes.path).2.2.2 _ hchain⟩

namespace Disk
theorem names_builderFile (path : Text) : ∃ folders name,
    names path = folders ++ [name ++ (splitFolder path).2] ∧
      names (outputPath path) = folders ++ [name ++ builderFile (splitFolder path).2] := by
  have hpath := located_splitFolder path
  have hslash {z : Text} (hz : ∀ c ∈ z, isSeparator c = false) : '/' ∉ z := fun hm =>
    absurd (hz _ hm) (by decide)
  obtain ⟨folders, name, hnames⟩ := names_append (splitFolder path).1
  refine ⟨folders, name, ?_, ?_⟩
  · rw [← hnames _ (hslash hpath.file), ← hpath.eq]
  · rw [← hnames _ (hslash hpath.outputPath.file), ← hpath.outputPath.eq]

theorem names_outputPath (path : Text) : ∃ folders name name',
    names path = folders ++ [name] ∧ names (outputPath path) = folders ++ [name'] ∧
      name.length + 7 ≤ name'.length := by
  obtain ⟨folders, name, hpath, houtput⟩ := names_builderFile path
  refine ⟨folders, _, _, hpath, houtput, ?_⟩
  have hlength := length_builderFile (splitFolder path).2
  rw [List.length_append, List.length_append]
  omega

variable {d : Disk}

/-- A builder file that can be written at all has a place, for its name is too long for the null
device. -/
theorem place?_outputPath {content : Text} (h : d.refusal ⟨outputPath path, content⟩ = none) :
    ∃ place, d.place? (outputPath path) = some place := by
  obtain ⟨t, ht, hne⟩ := target_of_refusal h
  cases ends_of_target ht with
  | folder => exact absurd rfl hne
  | @file place => exact ⟨place, place?_eq_some_iff.2 ⟨_, ht, rfl⟩⟩
  | @vacant place => exact ⟨place, place?_eq_some_iff.2 ⟨_, ht, rfl⟩⟩
  | nullDevice hlast =>
    obtain ⟨folders, name, name', _, hnames', hlength⟩ := names_outputPath path
    rw [hnames', List.getLast?_concat, Option.some_inj] at hlast
    rw [hlast] at hlength
    simp at hlength

/-- A document and its builder file are different files, on whatever ways they are reached. -/
theorem place?_ne_place?_outputPath {source place : Place} (hs : d.place? path = some source)
    (hp : d.place? (outputPath path) = some place) : source ≠ place := by
  rintro rfl
  obtain ⟨folders, name, name', hnames, hnames', hlength⟩ := names_outputPath path
  have hname : some name = some name' := by
    rw [← List.getLast?_concat (l := folders), ← hnames, ← getLast?_of_place? hs,
      getLast?_of_place? hp, hnames', List.getLast?_concat]
  cases hname
  omega

end Disk
end FluentBuilder

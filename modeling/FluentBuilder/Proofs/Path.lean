import FluentBuilder.Builder
import Mathlib.Data.Set.Insert

/-! The path of a builder file taken apart, into folder, stem and extension. What of the document's
path can be told from it, and which documents share one. -/
namespace FluentBuilder
open Text
variable {path folder file stem stem' x : Text} {extension : Option Text}

/-- A path is a folder up to its last separator, with the file name behind it. -/
structure Located (path folder file : Text) : Prop where
  eq : path = folder ++ file
  folder : ∀ c, folder.getLast? = some c → isSeparator c = true
  file : ∀ c ∈ file, isSeparator c = false

/-- A file name is cut at its last dot. With no dot past its first character it has no extension. -/
inductive Named (file : Text) : (stem : Text) → (extension : Option Text) → Prop
  | dotted {stem extension : Text} (hfile : file = stem ++ '.' :: extension) (hstem : stem ≠ [])
      (hextension : '.' ∉ extension) : Named file stem (some extension)
  | bare (h : '.' ∉ file.tail) : Named file file none

theorem located_splitFolder (path : Text) :
    Located path (splitFolder path).1 (splitFolder path).2 := by
  unfold splitFolder
  cases h : splitLast? isSeparator path with
  | none => exact ⟨rfl, by simp, splitLast?_eq_none_iff.1 h⟩
  | some parts =>
    obtain ⟨folder, s, file⟩ := parts
    obtain ⟨rfl, hs, hfile⟩ := eq_of_splitLast? h
    refine ⟨by simp, fun c hc => ?_, hfile⟩
    rw [List.getLast?_concat, Option.some_inj] at hc
    rwa [← hc]

namespace Located

theorem splitFolder_eq (h : Located path folder file) : splitFolder path = (folder, file) := by
  obtain ⟨rfl, hfolder, hfile⟩ := h
  obtain rfl | ⟨init, s, rfl⟩ := List.eq_nil_or_concat folder
  · rw [List.nil_append, splitFolder, splitLast?_eq_none_iff.2 hfile]
  · rw [List.concat_eq_append] at hfolder ⊢
    have hs : isSeparator s = true := hfolder s List.getLast?_concat
    rw [List.append_assoc, List.singleton_append, splitFolder, splitLast?_append hs hfile]

theorem append (h : Located path folder file) (hx : ∀ c ∈ x, isSeparator c = false) :
    Located (path ++ x) folder (file ++ x) :=
  ⟨by rw [h.eq, List.append_assoc], h.folder, List.forall_mem_append.2 ⟨h.file, hx⟩⟩

end Located

theorem exists_named (file : Text) : ∃ stem extension, Named file stem extension := by
  by_cases h : '.' ∈ file.tail
  · cases hsplit : splitLast? (· = '.') file with
    | none =>
      have hdot := splitLast?_eq_none_iff.1 hsplit '.' (List.mem_of_mem_tail h)
      exact absurd hdot (by decide)
    | some parts =>
      obtain ⟨stem, s, extension⟩ := parts
      obtain ⟨rfl, hs, hextension⟩ := eq_of_splitLast? hsplit
      rw [of_decide_eq_true hs] at h ⊢
      have hfree : '.' ∉ extension := fun hm => absurd (hextension '.' hm) (by decide)
      refine ⟨stem, some extension, .dotted rfl ?_ hfree⟩
      rintro rfl
      exact hfree h
  · exact ⟨file, none, .bare h⟩

theorem Named.splitExtension_eq (h : Named file stem extension) :
    splitExtension file = (stem, extension.getD "ts".toList) := by
  cases h with
  | dotted hfile hstem hextension =>
    obtain ⟨c, rest, rfl⟩ := List.exists_cons_of_ne_nil hstem
    have hfree : ∀ c ∈ _, decide (c = '.') = false := fun c hc =>
      decide_eq_false fun he => hextension (he ▸ hc)
    rw [hfile, splitExtension, splitLast?_append (by simp) hfree]
    rfl
  | bare h =>
    unfold splitExtension
    split
    case h_1 c stem _ extension hsplit =>
      obtain ⟨rfl, hs, _⟩ := eq_of_splitLast? hsplit
      rw [of_decide_eq_true hs] at h
      exact absurd (by simp) h
    case h_2 => rfl

theorem builderFile_of_named (h : Named file stem extension) :
    builderFile file = (stem ++ stemSuffix stem) ++ '.' :: extension.getD "ts".toList := by
  simp only [builderFile, h.splitExtension_eq]

theorem outputPath_of_located (h : Located path folder file) :
    outputPath path = folder ++ builderFile file := by
  simp only [outputPath, h.splitFolder_eq]

theorem length_stemSuffix (stem : Text) : 7 ≤ (stemSuffix stem).length := by
  unfold stemSuffix
  split <;> decide

theorem stemSuffix_plain (stem : Text) :
    ∀ c ∈ stemSuffix stem, isSeparator c = false := by
  unfold stemSuffix
  split <;> simp [isSeparator]

theorem ts_plain : ∀ c ∈ ".ts".toList, isSeparator c = false := by simp [isSeparator]

theorem append_stemSuffix_inj (h : stem ++ stemSuffix stem = stem' ++ stemSuffix stem') :
    stem = stem' := by
  -- both suffixes are one word behind the stem, in two spellings
  have hspelling (s s' : Text) : s ++ ".builder".toList ≠ s' ++ "Builder".toList := by
    intro he
    have hdot : ".builder".toList = ['.'] ++ "builder".toList := rfl
    have hlength : "builder".toList.length = "Builder".toList.length := by decide
    rw [hdot, ← List.append_assoc] at he
    exact absurd (List.append_inj_right' he hlength) (by decide)
  unfold stemSuffix at h
  split at h
  · split at h
    · exact List.append_cancel_right h
    · exact absurd h (hspelling stem stem')
  · split at h
    · exact absurd h.symm (hspelling stem' stem)
    · exact List.append_cancel_right h

theorem Named.builderFile (h : Named file stem extension) :
    Named (builderFile file) (stem ++ stemSuffix stem) (some (extension.getD "ts".toList)) := by
  refine .dotted (builderFile_of_named h) ?_ ?_
  · intro he
    have hlength := length_stemSuffix stem
    rw [(List.append_eq_nil_iff.1 he).2] at hlength
    exact absurd hlength (by decide)
  · cases h with
    | dotted _ _ hextension => exact hextension
    | bare => decide

theorem Named.prepend (h : Named file stem extension) (hsome : extension ≠ none) (x : Text) :
    Named (x ++ file) (x ++ stem) extension := by
  cases h with
  | dotted hfile hstem hextension =>
    refine .dotted ?_ (by simp [hstem]) hextension
    rw [hfile, List.append_assoc]
  | bare => exact absurd rfl hsome

theorem Located.outputPath (h : Located path folder file) :
    Located (outputPath path) folder (builderFile file) := by
  refine ⟨outputPath_of_located h, h.folder, ?_⟩
  obtain ⟨stem, extension, hnamed⟩ := exists_named file
  have hfile := h.file
  rw [builderFile_of_named hnamed, List.forall_mem_append, List.forall_mem_append,
    List.forall_mem_cons]
  cases hnamed with
  | dotted heq =>
    rw [heq, List.forall_mem_append, List.forall_mem_cons] at hfile
    exact ⟨⟨hfile.1, stemSuffix_plain stem⟩, hfile.2⟩
  | bare =>
    have hts : ".ts".toList = '.' :: "ts".toList := rfl
    have hplain := ts_plain
    rw [hts, List.forall_mem_cons] at hplain
    exact ⟨⟨hfile, stemSuffix_plain file⟩, hplain⟩

theorem length_builderFile (file : Text) : file.length + 7 ≤ (builderFile file).length := by
  obtain ⟨stem, extension, h⟩ := exists_named file
  have hsuffix := length_stemSuffix stem
  rw [builderFile_of_named h, List.length_append, List.length_append, List.length_cons]
  cases h with
  | dotted heq =>
    rw [heq, List.length_append, List.length_cons, Option.getD_some]
    omega
  | bare => omega

/-! ### Documents with one builder file -/

section
variable {p q folder' file' : Text} {extension' : Option Text}

/-- The path of a builder file tells the folder, the stem, and the extension or its default. -/
theorem parts_eq_of_outputPath_eq (hp : Located p folder file) (hq : Located q folder' file')
    (hf : Named file stem extension) (hf' : Named file' stem' extension')
    (h : outputPath p = outputPath q) :
    folder = folder' ∧ stem = stem' ∧
      extension.getD "ts".toList = extension'.getD "ts".toList := by
  have hfolder := hp.outputPath.splitFolder_eq
  rw [h, hq.outputPath.splitFolder_eq, Prod.mk.injEq] at hfolder
  obtain ⟨rfl, hfile⟩ := hfolder
  have hstem := hf.builderFile.splitExtension_eq
  rw [← hfile, hf'.builderFile.splitExtension_eq, Prod.mk.injEq] at hstem
  exact ⟨rfl, append_stemSuffix_inj hstem.1.symm, hstem.2.symm⟩

theorem outputPath_append_ts (h : Located x folder file) (hne : file ≠ []) (hdot : '.' ∉ file.tail) :
    outputPath (x ++ ".ts".toList) = outputPath x := by
  have hlong : Named (file ++ ".ts".toList) file (some "ts".toList) := .dotted rfl hne (by decide)
  rw [outputPath_of_located (h.append ts_plain), outputPath_of_located h,
    builderFile_of_named hlong, builderFile_of_named (.bare hdot)]
  rfl

theorem Named.eq_or_append_ts (hf : Named file stem extension) (hf' : Named file' stem extension')
    (h : extension.getD "ts".toList = extension'.getD "ts".toList) :
    file = file' ∨ (file = file' ++ ".ts".toList ∧ file' ≠ [] ∧ '.' ∉ file'.tail) ∨
      (file' = file ++ ".ts".toList ∧ file ≠ [] ∧ '.' ∉ file.tail) := by
  cases hf with
  | dotted hfile hstem =>
    cases hf' with
    | dotted hfile' =>
      cases h
      exact .inl (hfile.trans hfile'.symm)
    | bare hdot =>
      cases h
      exact .inr (.inl ⟨hfile, hstem, hdot⟩)
  | bare hdot =>
    cases hf' with
    | dotted hfile' hstem =>
      cases h
      exact .inr (.inr ⟨hfile', hstem, hdot⟩)
    | bare => exact .inl rfl

/-- Two documents have one builder file only if one of them has no extension and the other has the
default one behind the same name. -/
theorem outputPath_eq_iff (p q : Text) : outputPath p = outputPath q ↔
    p = q ∨ ∃ x folder file, ({p, q} : Set Text) = {x, x ++ ".ts".toList} ∧
      Located x folder file ∧ file ≠ [] ∧ '.' ∉ file.tail := by
  constructor
  · intro h
    have hp := located_splitFolder p
    have hq := located_splitFolder q
    obtain ⟨stem, extension, hf⟩ := exists_named (splitFolder p).2
    obtain ⟨stem', extension', hf'⟩ := exists_named (splitFolder q).2
    obtain ⟨hfolder, rfl, hextension⟩ := parts_eq_of_outputPath_eq hp hq hf hf' h
    rw [← hfolder] at hq
    obtain he | ⟨he, hne, hdot⟩ | ⟨he, hne, hdot⟩ := hf.eq_or_append_ts hf' hextension
    · left
      rw [hp.eq, hq.eq, he]
    · have hlong : p = q ++ ".ts".toList := by
        rw [hq.eq, List.append_assoc, ← he]
        exact hp.eq
      exact .inr ⟨q, _, _, by rw [hlong, Set.pair_comm], hq, hne, hdot⟩
    · have hlong : q = p ++ ".ts".toList := by
        rw [hp.eq, List.append_assoc, ← he]
        exact hq.eq
      exact .inr ⟨p, _, _, by rw [hlong], hp, hne, hdot⟩
  · rintro (rfl | ⟨x, folder, file, hpair, hx, hne, hdot⟩)
    · rfl
    · have hsame := outputPath_append_ts hx hne hdot
      obtain ⟨rfl, rfl⟩ | ⟨rfl, rfl⟩ := Set.pair_eq_pair_iff.1 hpair
      · exact hsame.symm
      · exact hsame

/-- A dot in first place begins no extension. -/
example : outputPath "a/.rc".toList = "a/.rc.builder.ts".toList ∧
    outputPath "a/.rc.ts".toList = "a/.rc.builder.ts".toList := by decide

end

end FluentBuilder

import FluentBuilder.Proofs.Extraction
import Mathlib.Data.List.DropRight

/-! Which names the name scan takes, place by place: the search goes from the left, and each match
reaches as far as it can. -/
namespace FluentBuilder.Interface
open Text
variable {t before after run rest capture : Text} {c : Char} {pos n : Nat}
  {spans others : List (Nat × Nat)}

/-- From `start` up to the colon in this place stand word characters and, last, one character that is
not blank. -/
structure Candidate (t : Text) (start colon : Nat) : Prop where
  lt : start < colon
  closed : t[colon]? = some ':'
  last : ∃ c, t[colon - 1]? = some c ∧ isBlank c = false
  word : ∀ i, start ≤ i → i < colon - 1 → ∃ c, t[i]? = some c ∧ isWord c = true

/-- What a search from the left takes from `pos` on: the first place where a candidate begins, the
last colon that a candidate from there has, and what such a search takes behind that colon. -/
inductive LeftmostFirst (t : Text) : (pos : Nat) → List (Nat × Nat) → Prop
  | done {pos : Nat} (hnone : ∀ start colon, pos ≤ start → ¬ Candidate t start colon) :
      LeftmostFirst t pos []
  | next {pos start colon : Nat} {spans : List (Nat × Nat)} (hpos : pos ≤ start)
      (h : Candidate t start colon)
      (hleast : ∀ s c, pos ≤ s → Candidate t s c → start ≤ s)
      (hgreatest : ∀ c, Candidate t start c → c ≤ colon)
      (hrest : LeftmostFirst t (colon + 1) spans) : LeftmostFirst t pos ((start, colon) :: spans)

namespace LeftmostFirst

theorem unique (h : LeftmostFirst t pos spans) (h' : LeftmostFirst t pos others) :
    spans = others := by
  induction h generalizing others with
  | done hnone =>
    cases h' with
    | done => rfl
    | next hpos hc => exact absurd hc (hnone _ _ hpos)
  | next hpos hc hleast hgreatest _ ih =>
    cases h' with
    | done hnone => exact absurd hc (hnone _ _ hpos)
    | next hpos' hc' hleast' hgreatest' hrest' =>
      obtain rfl := Nat.le_antisymm (hleast _ _ hpos' hc') (hleast' _ _ hpos hc)
      obtain rfl := Nat.le_antisymm (hgreatest' _ hc) (hgreatest _ hc')
      rw [ih hrest']

theorem of_silent (hnone : ∀ colon, ¬ Candidate t pos colon)
    (h : LeftmostFirst t (pos + 1) spans) : LeftmostFirst t pos spans := by
  have hbehind : ∀ s c, pos ≤ s → Candidate t s c → pos + 1 ≤ s := by
    intro s c hs hc
    refine Nat.lt_of_le_of_ne hs ?_
    rintro rfl
    exact hnone c hc
  cases h with
  | done h => exact .done fun s c hs hc => h s c (hbehind s c hs hc) hc
  | next hpos hc hleast hgreatest hrest =>
    exact .next (Nat.le_of_succ_le hpos) hc (fun s c hs h => hleast s c (hbehind s c hs h) h)
      hgreatest hrest

end LeftmostFirst

theorem candidate_iff {colon : Nat} : Candidate (before ++ after) before.length colon ↔
    ∃ run c rest, after = run ++ c :: ':' :: rest ∧ (∀ x ∈ run, isWord x = true) ∧
      isBlank c = false ∧ colon = before.length + run.length + 1 := by
  constructor
  · intro h
    obtain ⟨k, rfl⟩ := Nat.exists_eq_add_of_lt h.lt
    obtain ⟨c, hc, hblank⟩ := h.last
    have hclosed := h.closed
    rw [Nat.add_sub_cancel, getElem?_behind] at hc
    rw [Nat.add_assoc, getElem?_behind] at hclosed
    have hk : k < after.length := (List.getElem?_eq_some_iff.1 hc).1
    have hlen : (after.take k).length = k := List.length_take_of_le (Nat.le_of_lt hk)
    refine ⟨after.take k, c, after.drop (k + 2), eq_append_pair hc hclosed, ?_, hblank, by rw [hlen]⟩
    intro x hx
    obtain ⟨i, hi, rfl⟩ := List.mem_iff_getElem.1 hx
    rw [hlen] at hi
    obtain ⟨d, hd, hword⟩ := h.word (before.length + i) (Nat.le_add_right _ _) (by omega)
    rw [getElem?_behind] at hd
    obtain ⟨_, rfl⟩ := List.getElem?_eq_some_iff.1 hd
    rwa [List.getElem_take]
  · intro h
    obtain ⟨run, c, rest, rfl, hrun, hc, rfl⟩ := h
    have hpair (k : Nat) : (before ++ (run ++ c :: ':' :: rest))[before.length + run.length + k]? =
        (c :: ':' :: rest)[k]? := by
      rw [Nat.add_assoc, getElem?_behind, getElem?_behind]
    refine ⟨by omega, hpair 1, ⟨c, hpair 0, hc⟩, ?_⟩
    intro i hle hlt
    obtain ⟨k, rfl⟩ := Nat.exists_eq_add_of_le hle
    have hk : k < run.length := by omega
    refine ⟨run[k], ?_, hrun _ (List.getElem_mem hk)⟩
    rw [getElem?_behind, List.getElem?_append_left hk, List.getElem?_eq_getElem hk]

theorem not_candidate_of_none (h : propertyName after = none) (colon : Nat) :
    ¬ Candidate (before ++ after) before.length colon := by
  intro hcandidate
  obtain ⟨run, c, rest, rfl, hrun, hc, _⟩ := candidate_iff.1 hcandidate
  obtain ⟨_, _, happly, _⟩ := propertyName_reaches rest hrun hc
  cases happly.symm.trans h

theorem candidate_of_propertyName (before : Text) (h : propertyName after = some (capture, n)) :
    Candidate (before ++ after) before.length (before.length + n - 1) ∧
      ∀ colon, Candidate (before ++ after) before.length colon → colon ≤ before.length + n - 1 := by
  constructor
  · obtain ⟨run, c, rest, rfl, hrun, hc, _, rfl⟩ := eq_of_propertyName h
    exact candidate_iff.2 ⟨run, c, rest, rfl, hrun, hc, by omega⟩
  · intro colon hcandidate
    obtain ⟨run, c, rest, rfl, hrun, hc, rfl⟩ := candidate_iff.1 hcandidate
    obtain ⟨_, _, happly, hle⟩ := propertyName_reaches rest hrun hc
    cases happly.symm.trans h
    omega

def nameSpan (h : Hit) : Nat × Nat := (h.start, h.stop - 1)

theorem leftmostFirst_hits (before after : Text) :
    LeftmostFirst (before ++ after) before.length
      (((hits propertyName after).map (·.shift before.length)).map nameSpan) := by
  induction after using propertyName_advancing.induction generalizing before with
  | nil =>
    refine .done fun start colon hpos h => ?_
    obtain ⟨hlt, _⟩ := List.getElem?_eq_some_iff.1 h.closed
    have := h.lt
    rw [List.append_nil] at hlt
    omega
  | skip c after hc ih =>
    have hrest := ih (before ++ [c])
    rw [List.append_assoc, List.length_append, List.length_singleton] at hrest
    rw [hits_cons_of_none hc, Hit.map_shift_shift, Nat.add_comm 1]
    exact hrest.of_silent (not_candidate_of_none hc)
  | hit a b capture ha hab ih =>
    obtain ⟨hcandidate, hgreatest⟩ := candidate_of_propertyName before hab
    have hpos : 0 < a.length := List.length_pos_iff.2 ha
    have hstop : before.length + a.length - 1 + 1 = before.length + a.length := by omega
    have hspan : nameSpan (Hit.shift before.length ⟨0, a.length, capture⟩) =
        (before.length, before.length + a.length - 1) := by simp [nameSpan, Hit.stop]
    have hrest := ih (before ++ a)
    rw [List.append_assoc, List.length_append] at hrest
    rw [hits_append_of_hit ha hab, List.map_cons, List.map_cons, Hit.map_shift_shift, hspan,
      Nat.add_comm a.length]
    exact .next (Nat.le_refl _) hcandidate (fun _ _ hs _ => hs) hgreatest (by rwa [hstop])

def nameSpans (t : Text) : List (Nat × Nat) := (hits propertyName t).map nameSpan

theorem leftmostFirst_iff : LeftmostFirst t 0 spans ↔ spans = nameSpans t := by
  have hscan : LeftmostFirst t 0 (nameSpans t) := by
    simpa [nameSpans, Hit.shift] using leftmostFirst_hits [] t
  constructor
  · exact fun h => h.unique hscan
  · rintro rfl
    exact hscan

theorem map_extract_nameSpans (t : Text) :
    (nameSpans t).map (fun s => t.extract s.1 s.2) = propertyNames t := by
  rw [nameSpans, List.map_map, propertyNames, captures]
  apply List.map_congr_left
  intro h hm
  obtain ⟨before, after, rfl, hstart, happly⟩ := propertyName_advancing.applies_of_mem hm
  obtain ⟨run, c, rest, rfl, _, _, hcapture, hlength⟩ := eq_of_propertyName happly
  have hcount : h.stop - 1 - h.start = (run ++ [c]).length := by
    rw [Hit.stop, hlength, List.length_append, List.length_singleton]
    omega
  have hsplit : run ++ c :: ':' :: rest = (run ++ [c]) ++ ':' :: rest := by simp
  simp only [Function.comp, nameSpan, List.extract_eq_take_drop, hcount]
  rw [← hstart, List.drop_left, hcapture, hsplit, List.take_left]

theorem propertyNames_eq_nil_iff_no_candidate :
    propertyNames t = [] ↔ ¬ ∃ start colon, Candidate t start colon := by
  rw [← map_extract_nameSpans, List.map_eq_nil_iff, eq_comm, ← leftmostFirst_iff]
  constructor
  · intro h hsome
    obtain ⟨start, colon, hc⟩ := hsome
    cases h with
    | done hnone => exact hnone start colon (Nat.zero_le _) hc
  · intro hnone
    exact .done fun start colon _ hc => hnone ⟨start, colon, hc⟩

/-! ### Colons that end names -/

/-- A colon right behind a character that is not blank. -/
def EndsName (t : Text) (colon : Nat) : Prop :=
  t[colon]? = some ':' ∧ ∃ i c, colon = i + 1 ∧ t[i]? = some c ∧ isBlank c = false

theorem Candidate.endsName {start colon : Nat} (h : Candidate t start colon) : EndsName t colon := by
  obtain ⟨c, hc, hblank⟩ := h.last
  have := h.lt
  exact ⟨h.closed, colon - 1, c, by omega, hc, hblank⟩

theorem LeftmostFirst.candidate (h : LeftmostFirst t pos spans) :
    ∀ s ∈ spans, Candidate t s.1 s.2 := by
  induction h with
  | done => simp
  | next _ hc _ _ _ ih => exact List.forall_mem_cons.2 ⟨hc, ih⟩

theorem candidate_of_mem {h : Hit} (hm : h ∈ hits propertyName t) :
    Candidate t h.start (h.stop - 1) :=
  (leftmostFirst_iff.2 rfl).candidate (nameSpan h) (List.mem_map_of_mem hm)

def nameColons (t : Text) : List Nat := (hits propertyName t).map fun h => h.stop - 1

theorem nameColons_sorted (t : Text) : (nameColons t).Pairwise (· < ·) := by
  rw [nameColons, List.pairwise_map]
  apply (propertyName_advancing.pairwise t).imp_of_mem
  intro g h hg hh hle
  have hgpos := propertyName_advancing.length_pos hg
  have hhpos := propertyName_advancing.length_pos hh
  simp only [Hit.stop] at hle ⊢
  omega

theorem map_snd_nameSpans (t : Text) : (nameSpans t).map Prod.snd = nameColons t := by
  rw [nameSpans, List.map_map]
  rfl

theorem stop_near_colon {colon : Nat} (h : EndsName t colon) :
    ∃ g ∈ hits propertyName t, t[g.stop - 1]? = some ':' ∧
      (g.stop = colon ∨ g.stop = colon + 1 ∨ g.stop = colon + 2) := by
  obtain ⟨hclosed, i, c, rfl, hc, hblank⟩ := h
  have happly : propertyName (t.drop i) ≠ none := by
    rw [drop_eq_pair hc hclosed]
    exact propertyName_ne_none hblank
  obtain ⟨g, hg, hle, hlt⟩ := propertyName_advancing.covered_drop happly
  have hspan := candidate_of_mem hg
  refine ⟨g, hg, hspan.closed, ?_⟩
  by_contra hfar
  -- the colon would be a word character of the name
  obtain ⟨d, hd, hword⟩ := hspan.word (i + 1) (Nat.le_succ_of_le hle) (by omega)
  cases hd.symm.trans hclosed
  exact absurd hword (by decide)

/-- Where no two colons meet, no name takes a colon into itself, so that each colon counts. -/
theorem mem_nameColons_of_endsName {colon : Nat} (hcolons : ¬ [':', ':'] <:+: t)
    (h : EndsName t colon) : colon ∈ nameColons t := by
  have hapart {i : Nat} (hi : t[i]? = some ':') : t[i + 1]? ≠ some ':' := by
    intro hnext
    apply hcolons
    rw [eq_append_pair hi hnext]
    exact ⟨t.take i, t.drop (i + 2), by simp⟩
  obtain ⟨g, hg, hend, hstop⟩ := stop_near_colon h
  obtain ⟨hclosed, i, _, rfl, _⟩ := h
  obtain hbefore | hat | hbehind := hstop
  · rw [hbefore, Nat.add_sub_cancel] at hend
    exact absurd hclosed (hapart hend)
  · exact List.mem_map.2 ⟨g, hg, by rw [hat, Nat.add_sub_cancel]⟩
  · rw [hbehind] at hend
    exact absurd hend (hapart hclosed)

def trimmed (t : Text) : Text := (t.dropWhile isBlank).rdropWhile isBlank

theorem trimmed_of_forall (h : ∀ c ∈ t, isBlank c = false) : trimmed t = t := by
  have hstart : t.dropWhile isBlank = t := by
    cases t with
    | nil => rfl
    | cons c t => simp [h c List.mem_cons_self]
  rw [trimmed, hstart, List.rdropWhile_eq_self_iff]
  intro hne
  rw [h _ (List.getLast_mem hne)]
  decide

/-- A name as the scan takes it: word characters, one character that is not blank, and nothing that
trimming would take away. -/
structure IsBareName (name : Text) : Prop where
  ne_nil : name ≠ []
  not_blank : ∀ c ∈ name, isBlank c = false
  trimmed : trimmed name = name
  word : ∀ c ∈ name.dropLast, isWord c = true

theorem IsName.bare {name : Text} (h : IsName name) : IsBareName name := by
  have hblank : ∀ c ∈ name, isBlank c = false := fun c => isBlank_of_mem_name h
  obtain ⟨run, c, rfl, hrun, _⟩ := h
  exact ⟨by simp, hblank, trimmed_of_forall hblank, by simpa using hrun⟩

/-- The name scan takes the leftmost candidates that do not overlap, each as long as it can be. It
fails exactly if there is none. -/
theorem extractPropertyNames_leftmost (t : Text) :
    (extractPropertyNames t = .error .noProperties ↔ ¬ ∃ start colon, Candidate t start colon) ∧
    ∃ spans, (∀ others, LeftmostFirst t 0 others ↔ others = spans) ∧
      (∀ names, extractPropertyNames t = .ok names ↔
        (∃ start colon, Candidate t start colon) ∧
          names = spans.map fun s => t.extract s.1 s.2) ∧
      (∀ s ∈ spans, IsBareName (t.extract s.1 s.2)) ∧
      (¬ [':', ':'] <:+: t → (spans.map Prod.snd).Pairwise (· < ·) ∧
        ∀ colon, colon ∈ spans.map Prod.snd ↔ EndsName t colon) := by
  refine ⟨?failure, nameSpans t, fun _ => leftmostFirst_iff, ?names, ?bare, ?colons⟩
  case failure =>
    rw [extractPropertyNames_eq_error_iff, propertyNames_eq_nil_iff_no_candidate]
  case names =>
    intro names
    rw [extractPropertyNames_eq_ok_iff, map_extract_nameSpans, ne_eq,
      propertyNames_eq_nil_iff_no_candidate, not_not]
  case bare =>
    intro s hs
    have hmem : t.extract s.1 s.2 ∈ propertyNames t := by
      rw [← map_extract_nameSpans]
      exact List.mem_map_of_mem hs
    exact (isName_of_mem_propertyNames hmem).bare
  case colons =>
    intro hcolons
    rw [map_snd_nameSpans]
    refine ⟨nameColons_sorted t, fun colon => ⟨fun hm => ?_, mem_nameColons_of_endsName hcolons⟩⟩
    rw [← map_snd_nameSpans] at hm
    obtain ⟨s, hs, rfl⟩ := List.mem_map.1 hm
    exact ((leftmostFirst_iff.2 rfl).candidate s hs).endsName

/-- The second of two colons ends a name that has the first in it. -/
example : propertyNames "a::b: c".toList = ["a:".toList, "b".toList] := by decide

end FluentBuilder.Interface

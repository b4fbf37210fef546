import FluentBuilder.Proofs.NameScan
import FluentBuilder.Proofs.TypeScan
import Mathlib.Data.List.Sort

/-! Names and types come from two scans and are paired by their order. When is a pair one that the
text has at a single colon? -/
namespace FluentBuilder.Interface
open Text
variable {t : Text} {fields : List Field}

def typeColons (t : Text) : List Nat := (hits typeExpression t).map (·.start)

/-- At the colon in this place the name of the field ends and its type begins. -/
structure Meets (t : Text) (f : Field) (place : Nat) : Prop where
  colon : t[place]? = some ':'
  name : ∃ h ∈ hits propertyName t, h.stop = place + 1 ∧ h.capture = f.name
  type : ∃ h ∈ hits typeExpression t, h.start = place ∧ h.capture = f.typeExpression

/-- Each field stands at a colon of its own, and the colons are in the order of the fields. -/
def Corresponds (t : Text) (fields : List Field) : Prop :=
  ∃ places : List Nat, places.Pairwise (· < ·) ∧ List.Forall₂ (Meets t) fields places

/-- Right before this place stands a character that is not blank and that no name has used up. -/
def FollowsName (t : Text) (place : Nat) : Prop :=
  ∃ q c, place = q + 1 ∧ t[q]? = some c ∧ isBlank c = false ∧
    ∀ h ∈ hits propertyName t, h.stop ≠ place

theorem typeColons_sorted (t : Text) : (typeColons t).Pairwise (· < ·) := by
  rw [typeColons, List.pairwise_map]
  apply (typeExpression_advancing.pairwise t).imp_of_mem
  intro g h hg _ hle
  have hgpos := typeExpression_advancing.length_pos hg
  simp only [Hit.stop] at hle
  omega

theorem eq_of_sorted_of_subset {p q : List Nat} (hp : p.Pairwise (· < ·)) (hq : q.Pairwise (· < ·))
    (hlen : p.length = q.length) (hsub : ∀ x ∈ p, x ∈ q) : p = q := by
  have hnodup : p.Nodup := hp.imp fun {a b} h => Nat.ne_of_lt h
  have hperm : p.Perm q := (List.subperm_of_subset hnodup hsub).perm_of_length_le hlen.ge
  exact hperm.eq_of_pairwise (fun a b _ _ hab hba => absurd hab (Nat.lt_asymm hba)) hp hq

theorem followsName_of_stop {h : Hit} (hm : h ∈ hits propertyName t) :
    FollowsName t (h.stop - 1) := by
  have hspan := candidate_of_mem hm
  have hlt := hspan.lt
  obtain ⟨_, i, c, hi, hc, hblank⟩ := hspan.endsName
  refine ⟨i, c, hi, hc, hblank, fun g hg hstop => ?_⟩
  have hpos := propertyName_advancing.length_pos hg
  obtain he | hle | hle := propertyName_advancing.apart hg hm
  · rw [he] at hstop
    omega
  · omega
  · simp only [Hit.stop] at hstop hle
    omega

theorem stop_of_followsName {place : Nat} {b : Char} (hcolon : t[place]? = some ':')
    (hb : t[place + 1]? = some b) (hblank : isBlank b = true) (h : FollowsName t place) :
    ∃ g ∈ hits propertyName t, g.stop = place + 1 := by
  obtain ⟨i, c, hi, hc, hcblank, hfree⟩ := h
  obtain ⟨g, hg, hend, hbefore | hat | hbehind⟩ := stop_near_colon ⟨hcolon, i, c, hi, hc, hcblank⟩
  · exact absurd hbefore (hfree g hg)
  · exact ⟨g, hg, hat⟩
  · -- the blank would be the colon that ends the name
    have hlast : g.stop - 1 = place + 1 := by omega
    rw [hlast, hb] at hend
    cases hend
    exact absurd hblank (by decide)

theorem colon_of_type {h : Hit} (hm : h ∈ hits typeExpression t) :
    t[h.start]? = some ':' ∧ ∃ b, t[h.start + 1]? = some b ∧ isBlank b = true := by
  have hrun : IsTypeRun t h.start h.stop := isTypeRun_of_mem (List.mem_map_of_mem hm)
  exact ⟨hrun.opened, hrun.blank⟩

theorem mem_nameColons_iff {h : Hit} (hm : h ∈ hits typeExpression t) :
    h.start ∈ nameColons t ↔ FollowsName t h.start := by
  constructor
  · intro hmem
    obtain ⟨g, hg, he⟩ := List.mem_map.1 hmem
    rw [← he]
    exact followsName_of_stop hg
  · intro hfollows
    obtain ⟨hcolon, b, hb, hblank⟩ := colon_of_type hm
    obtain ⟨g, hg, hstop⟩ := stop_of_followsName hcolon hb hblank hfollows
    exact List.mem_map.2 ⟨g, hg, by rw [hstop, Nat.add_sub_cancel]⟩

theorem nameColons_eq_iff (hlen : (nameColons t).length = (typeColons t).length) :
    nameColons t = typeColons t ↔ ∀ h ∈ hits typeExpression t, FollowsName t h.start := by
  constructor
  · intro he h hm
    rw [← mem_nameColons_iff hm, he]
    exact List.mem_map_of_mem hm
  · intro hall
    refine (eq_of_sorted_of_subset (typeColons_sorted t) (nameColons_sorted t) hlen.symm ?_).symm
    intro x hx
    obtain ⟨h, hm, he⟩ := List.mem_map.1 hx
    rw [← he]
    exact (mem_nameColons_iff hm).2 (hall h hm)

theorem length_nameColons (t : Text) : (nameColons t).length = (propertyNames t).length := by
  simp [nameColons, propertyNames, captures]

theorem length_typeColons (t : Text) : (typeColons t).length = (typeExpressions t).length := by
  simp [typeColons, typeExpressions, captures]

theorem colons_eq_of_corresponds (h : (byPattern t).result = .ok fields)
    (hc : Corresponds t fields) : nameColons t = typeColons t := by
  obtain ⟨_, _, hlen, rfl⟩ := byPattern_eq_ok_iff.1 h
  obtain ⟨places, hsorted, hmeets⟩ := hc
  have hcount : places.length = (typeExpressions t).length := by
    rw [← hmeets.length_eq, List.length_zipWith, hlen, Nat.min_self]
  have hmem : ∀ x ∈ places, x ∈ nameColons t ∧ x ∈ typeColons t := by
    intro x hx
    obtain ⟨i, hi, rfl⟩ := List.mem_iff_getElem.1 hx
    have hm := hmeets.get (by rw [hmeets.length_eq]; exact hi) hi
    obtain ⟨g, hg, hstop, _⟩ := hm.name
    obtain ⟨g', hg', hstart, _⟩ := hm.type
    rw [List.get_eq_getElem] at hstop hstart
    exact ⟨List.mem_map.2 ⟨g, hg, by rw [hstop, Nat.add_sub_cancel]⟩, List.mem_map.2 ⟨g', hg', hstart⟩⟩
  have hn := eq_of_sorted_of_subset hsorted (nameColons_sorted t)
    (by rw [hcount, length_nameColons, hlen]) fun x hx => (hmem x hx).1
  have ht := eq_of_sorted_of_subset hsorted (typeColons_sorted t)
    (by rw [hcount, length_typeColons]) fun x hx => (hmem x hx).2
  rw [← hn, ← ht]

theorem corresponds_of_colons_eq (h : (byPattern t).result = .ok fields)
    (he : nameColons t = typeColons t) : Corresponds t fields := by
  obtain ⟨_, _, hlen, rfl⟩ := byPattern_eq_ok_iff.1 h
  refine ⟨typeColons t, typeColons_sorted t, List.forall₂_iff_get.2 ⟨?_, ?_⟩⟩
  · rw [List.length_zipWith, hlen, length_typeColons, Nat.min_self]
  · intro i hi hi'
    have hin : i < (hits propertyName t).length := by
      rw [List.length_zipWith, hlen, Nat.min_self, typeExpressions, captures, List.length_map] at hi
      rw [propertyNames, typeExpressions, captures, captures, List.length_map, List.length_map] at hlen
      omega
    have hit : i < (hits typeExpression t).length := by
      rwa [typeColons, List.length_map] at hi'
    have hplace : (hits propertyName t)[i].stop - 1 = (hits typeExpression t)[i].start := by
      have := congrArg (·[i]?) he
      simpa [nameColons, typeColons, hin, hit] using this
    have hname := List.getElem_mem hin
    have htype := List.getElem_mem hit
    have hpos := propertyName_advancing.length_pos hname
    simp only [List.get_eq_getElem, List.getElem_zipWith, typeColons, List.getElem_map]
    refine ⟨(colon_of_type htype).1, ⟨_, hname, ?_, ?_⟩, ⟨_, htype, rfl, ?_⟩⟩
    · rw [← hplace, Hit.stop]
      omega
    · simp [propertyNames, captures]
    · simp [typeExpressions, captures]

theorem corresponds_iff (h : (byPattern t).result = .ok fields) :
    Corresponds t fields ↔ nameColons t = typeColons t :=
  ⟨colons_eq_of_corresponds h, corresponds_of_colons_eq h⟩

/-- The fields have the names and the types of the two scans in their order. They are fields of the
text, each at a colon of its own, exactly if every type follows a name: right before its colon stands
a character that is not blank and that no earlier name has used up. -/
theorem corresponds_iff_types_follow (h : (byPattern t).result = .ok fields) :
    fields.map Field.name = propertyNames t ∧
      fields.map Field.typeExpression = typeExpressions t ∧
      (Corresponds t fields ↔ ∀ g ∈ hits typeExpression t, FollowsName t g.start) := by
  obtain ⟨_, _, hlen, hfields⟩ := byPattern_eq_ok_iff.1 h
  refine ⟨?_, ?_, ?_⟩
  · rw [hfields]
    exact List.ext_getElem (by simp [hlen]) (by simp)
  · rw [hfields]
    exact List.ext_getElem (by simp [hlen]) (by simp)
  · rw [corresponds_iff h, nameColons_eq_iff]
    rw [length_nameColons, length_typeColons, hlen]

theorem corresponds_two_lines :
    (byPattern "a: x\nb?: y".toList).result = .ok [⟨['a'], ['x']⟩, ⟨['b', '?'], ['y']⟩] ∧
      Corresponds "a: x\nb?: y".toList [⟨['a'], ['x']⟩, ⟨['b', '?'], ['y']⟩] := by
  have h : (byPattern "a: x\nb?: y".toList).result = .ok [⟨['a'], ['x']⟩, ⟨['b', '?'], ['y']⟩] := by
    decide +kernel
  refine ⟨h, (corresponds_iff_types_follow h).2.2.2 ?_⟩
  have hhits : hits typeExpression "a: x\nb?: y".toList = [⟨1, 3, ['x']⟩, ⟨7, 3, ['y']⟩] := by decide
  have hnames : hits propertyName "a: x\nb?: y".toList = [⟨0, 2, ['a']⟩, ⟨5, 3, ['b', '?']⟩] := by
    decide
  rw [hhits]
  intro g hg
  simp only [List.mem_cons, List.not_mem_nil, or_false] at hg
  obtain rfl | rfl := hg
  · exact ⟨0, 'a', rfl, rfl, by decide, by rw [hnames]; decide⟩
  · exact ⟨6, '?', rfl, rfl, by decide, by rw [hnames]; decide⟩

/-- One name without a type and one type without a name make a pair that the text does not have. -/
theorem mispaired_lines :
    (byPattern "export interface A \x7b\n  a:x\n  b : y\n\x7d\n".toList).result =
        .ok [⟨['a'], ['y']⟩] ∧
      ¬ Corresponds "export interface A \x7b\n  a:x\n  b : y\n\x7d\n".toList [⟨['a'], ['y']⟩] := by
  have h : (byPattern "export interface A \x7b\n  a:x\n  b : y\n\x7d\n".toList).result =
      .ok [⟨['a'], ['y']⟩] := by decide +kernel
  refine ⟨h, fun hc => ?_⟩
  have hcolons := colons_eq_of_corresponds h hc
  have hne : nameColons "export interface A \x7b\n  a:x\n  b : y\n\x7d\n".toList ≠
      typeColons "export interface A \x7b\n  a:x\n  b : y\n\x7d\n".toList := by decide +kernel
  exact hne hcolons

end FluentBuilder.Interface

import FluentBuilder.Text.Basic
import Mathlib.Data.List.Basic

/-! Where the hits of a scan lie: in order, none over another, and over every place where the
pattern applies. -/
namespace FluentBuilder.Text
variable {p : Pattern} {a b t capture : Text}

theorem getElem?_behind {α : Type} (x y : List α) (k : Nat) : (x ++ y)[x.length + k]? = y[k]? := by
  rw [List.getElem?_append_right (Nat.le_add_right _ _), Nat.add_sub_cancel_left]

theorem drop_eq_pair {i : Nat} {c d : Char} (hc : t[i]? = some c) (hd : t[i + 1]? = some d) :
    t.drop i = c :: d :: t.drop (i + 2) := by
  obtain ⟨_, rfl⟩ := List.getElem?_eq_some_iff.1 hc
  obtain ⟨_, rfl⟩ := List.getElem?_eq_some_iff.1 hd
  rw [← List.drop_eq_getElem_cons, ← List.drop_eq_getElem_cons]

theorem eq_append_pair {i : Nat} {c d : Char} (hc : t[i]? = some c) (hd : t[i + 1]? = some d) :
    t = t.take i ++ c :: d :: t.drop (i + 2) := by
  rw [← drop_eq_pair hc hd, List.take_append_drop]

def Advancing (p : Pattern) : Prop :=
  ∀ t capture n, p t = some (capture, n) → 0 < n ∧ n ≤ t.length

namespace Hit

def stop (h : Hit) : Nat := h.start + h.length

def shift (k : Nat) (h : Hit) : Hit := { h with start := h.start + k }

@[simp] theorem start_shift (k : Nat) (h : Hit) : (h.shift k).start = h.start + k := rfl

@[simp] theorem length_shift (k : Nat) (h : Hit) : (h.shift k).length = h.length := rfl

@[simp] theorem capture_shift (k : Nat) (h : Hit) : (h.shift k).capture = h.capture := rfl

@[simp] theorem stop_shift (k : Nat) (h : Hit) : (h.shift k).stop = h.stop + k := by
  simp only [stop, start_shift, length_shift]
  omega

theorem map_shift_shift (j k : Nat) (hs : List Hit) :
    (hs.map (·.shift j)).map (·.shift k) = hs.map (·.shift (j + k)) := by
  rw [List.map_map]
  apply List.map_congr_left
  intro h _
  simp only [Function.comp, shift, Nat.add_assoc]

end Hit

theorem hitsFrom_shift (p : Pattern) (pos k skip : Nat) (t : Text) :
    hitsFrom p (pos + k) skip t = (hitsFrom p pos skip t).map (·.shift k) := by
  induction t generalizing pos skip with
  | nil => cases skip <;> rfl
  | cons c t ih =>
    have hpos : pos + k + 1 = pos + 1 + k := by omega
    cases skip with
    | succ skip => rw [hitsFrom, hitsFrom, hpos, ih]
    | zero =>
      cases h : p (c :: t) with
      | none => simp only [hitsFrom, h, hpos, ih]
      | some x => simp only [hitsFrom, h, hpos, ih, List.map_cons, Hit.shift]

theorem hits_cons_of_none {c : Char} (h : p (c :: t) = none) :
    hits p (c :: t) = (hits p t).map (·.shift 1) := by
  rw [hits, hitsFrom, h]
  exact hitsFrom_shift p 0 1 0 t

theorem hits_append_of_hit (ha : a ≠ []) (h : p (a ++ b) = some (capture, a.length)) :
    hits p (a ++ b) = ⟨0, a.length, capture⟩ :: (hits p b).map (·.shift a.length) := by
  cases a with
  | nil => exact absurd rfl ha
  | cons c a =>
    rw [List.cons_append] at h ⊢
    rw [hits, hitsFrom, h]
    have hrest : hitsFrom p 1 a.length (a ++ b) = hitsFrom p (0 + (a.length + 1)) 0 b := by
      rw [hitsFrom_skip p 1 a.length (a ++ b) (by simp), List.drop_left]
      congr 1
      omega
    rw [hitsFrom_shift] at hrest
    simp only [List.length_cons, Nat.add_sub_cancel, Nat.zero_add, hrest]
    rfl

/-- No hit begins in a part where the pattern applies nowhere, whatever follows it. -/
theorem hits_append_of_silent (h : ∀ x y, a = x ++ y → y ≠ [] → p (y ++ b) = none) :
    hits p (a ++ b) = (hits p b).map (·.shift a.length) := by
  induction a with
  | nil => simp [Hit.shift]
  | cons c a ih =>
    have hc : p (c :: (a ++ b)) = none := h [] (c :: a) rfl (by simp)
    have ha := ih fun x y hxy => h (c :: x) y (by rw [hxy]; rfl)
    rw [List.cons_append, hits_cons_of_none hc, ha, Hit.map_shift_shift]
    rfl

theorem captures_append_of_hit (ha : a ≠ []) (h : p (a ++ b) = some (capture, a.length)) :
    captures p (a ++ b) = capture :: captures p b := by
  simp [captures, hits_append_of_hit ha h, Function.comp_def]

theorem captures_append_of_silent (h : ∀ x y, a = x ++ y → y ≠ [] → p (y ++ b) = none) :
    captures p (a ++ b) = captures p b := by
  simp [captures, hits_append_of_silent h, Function.comp_def]

theorem captures_cons_of_none {c : Char} (h : p (c :: t) = none) :
    captures p (c :: t) = captures p t := by
  simp [captures, hits_cons_of_none h, Function.comp_def]

namespace Advancing
variable (hp : Advancing p)
include hp

theorem nil_eq_none : p [] = none := by
  cases h : p [] with
  | none => rfl
  | some x =>
    have := hp [] x.1 x.2 h
    simp only [List.length_nil] at this
    omega

/-- The way a scan goes: over a character where nothing begins, or over a whole hit. -/
theorem induction {motive : Text → Prop} (nil : motive [])
    (skip : ∀ c t, p (c :: t) = none → motive t → motive (c :: t))
    (hit : ∀ a b capture, a ≠ [] → p (a ++ b) = some (capture, a.length) → motive b →
      motive (a ++ b)) (t : Text) : motive t := by
  induction hn : t.length using Nat.strongRecOn generalizing t with
  | ind n ih =>
    cases t with
    | nil => exact nil
    | cons c t =>
      cases h : p (c :: t) with
      | none => exact skip c t h (ih t.length (by simp [← hn]) t rfl)
      | some x =>
        obtain ⟨capture, k⟩ := x
        obtain ⟨hpos, hle⟩ := hp _ _ _ h
        have hsplit := List.take_append_drop k (c :: t)
        have hlen : ((c :: t).take k).length = k := List.length_take_of_le hle
        rw [← hsplit]
        refine hit _ _ capture ?_ ?_ (ih _ ?_ _ rfl)
        · intro he
          rw [he] at hlen
          exact absurd hlen (by simp; omega)
        · rw [hsplit, hlen, h]
        · rw [← hn, List.length_drop]
          omega

/-- A character at which nothing begins and past which no match before it looks cuts a scan in two. -/
theorem captures_append_of_cut {s : Char} (hs : p (s :: b) = none)
    (hcut : ∀ x y, a = x ++ y → y ≠ [] → p (y ++ s :: b) = p y) :
    captures p (a ++ s :: b) = captures p a ++ captures p b := by
  induction a using hp.induction with
  | nil => exact captures_cons_of_none hs
  | skip c a hc ih =>
    have hwhole : p (c :: a ++ s :: b) = none := (hcut [] (c :: a) rfl (by simp)).trans hc
    have hrest := ih fun x y hxy => hcut (c :: x) y (by rw [hxy]; rfl)
    rw [List.cons_append] at hwhole ⊢
    rw [captures_cons_of_none hwhole, captures_cons_of_none hc, hrest]
  | hit u v capture hu huv ih =>
    have hwhole : p (u ++ v ++ s :: b) = some (capture, u.length) :=
      (hcut [] (u ++ v) rfl (by simp [hu])).trans huv
    have hrest := ih fun x y hxy => hcut (u ++ x) y (by rw [hxy, List.append_assoc])
    rw [List.append_assoc] at hwhole ⊢
    rw [captures_append_of_hit hu hwhole, captures_append_of_hit hu huv, hrest, List.cons_append]

theorem applies_of_mem {h : Hit} (hm : h ∈ hits p t) :
    ∃ before after, t = before ++ after ∧ before.length = h.start ∧
      p after = some (h.capture, h.length) := by
  induction t using hp.induction generalizing h with
  | nil => simp [hits, hitsFrom] at hm
  | skip c t hc ih =>
    rw [hits_cons_of_none hc] at hm
    obtain ⟨g, hg, rfl⟩ := List.mem_map.1 hm
    obtain ⟨before, after, rfl, hlen, happly⟩ := ih hg
    exact ⟨c :: before, after, rfl, by simp [hlen], happly⟩
  | hit a b capture ha hab ih =>
    rw [hits_append_of_hit ha hab] at hm
    cases List.mem_cons.1 hm with
    | inl he =>
      rw [he]
      exact ⟨[], a ++ b, rfl, rfl, hab⟩
    | inr hm =>
      obtain ⟨g, hg, rfl⟩ := List.mem_map.1 hm
      obtain ⟨before, after, rfl, hlen, happly⟩ := ih hg
      exact ⟨a ++ before, after, by simp, by simp [hlen, Nat.add_comm], happly⟩

theorem length_pos {h : Hit} (hm : h ∈ hits p t) : 0 < h.length := by
  obtain ⟨_, after, _, _, happly⟩ := hp.applies_of_mem hm
  exact (hp _ _ _ happly).1

theorem pairwise (t : Text) : (hits p t).Pairwise fun g h => g.stop ≤ h.start := by
  induction t using hp.induction with
  | nil => exact List.Pairwise.nil
  | skip c t hc ih =>
    rw [hits_cons_of_none hc, List.pairwise_map]
    exact ih.imp fun {g h} hgh => by simpa using hgh
  | hit a b capture ha hab ih =>
    rw [hits_append_of_hit ha hab, List.pairwise_cons, List.pairwise_map]
    refine ⟨?_, ih.imp fun {g h} hgh => by simpa using hgh⟩
    intro h hm
    obtain ⟨g, _, rfl⟩ := List.mem_map.1 hm
    simp [Hit.stop]

/-- Two hits are the same, or one of them is over before the other begins. -/
theorem apart {g h : Hit} (hg : g ∈ hits p t) (hh : h ∈ hits p t) :
    g = h ∨ g.stop ≤ h.start ∨ h.stop ≤ g.start := by
  have hle := hp.pairwise t
  exact List.Pairwise.forall_of_forall_of_flip
    (R := fun g h => g = h ∨ g.stop ≤ h.start ∨ h.stop ≤ g.start) (fun x _ => .inl rfl)
    (hle.imp fun h => .inr (.inl h)) (hle.imp fun h => .inr (.inr h)) hg hh

/-- Every place where the pattern applies is in some hit. -/
theorem covered (hb : p b ≠ none) :
    ∃ h ∈ hits p (a ++ b), h.start ≤ a.length ∧ a.length < h.stop := by
  induction ht : a ++ b using hp.induction generalizing a with
  | nil =>
    obtain ⟨rfl, rfl⟩ := List.append_eq_nil_iff.1 ht
    exact absurd hp.nil_eq_none hb
  | skip c t hc ih =>
    cases a with
    | nil =>
      rw [List.nil_append] at ht
      exact absurd (ht ▸ hc) hb
    | cons d a =>
      obtain ⟨rfl, rfl⟩ := List.cons.inj ht
      obtain ⟨h, hm, hle, hlt⟩ := ih rfl
      rw [hits_cons_of_none hc]
      exact ⟨h.shift 1, List.mem_map_of_mem hm, by simpa using hle, by simpa using hlt⟩
  | hit x y capture hx hxy ih =>
    rw [hits_append_of_hit hx hxy]
    by_cases hlen : a.length < x.length
    · exact ⟨_, List.mem_cons_self, Nat.zero_le _, by simpa [Hit.stop] using hlen⟩
    · obtain ⟨a', rfl⟩ : x <+: a :=
        List.prefix_of_prefix_length_le ⟨y, rfl⟩ ⟨b, ht⟩ (by omega)
      obtain ⟨h, hm, hle, hlt⟩ := ih (by simpa using ht)
      refine ⟨h.shift x.length, List.mem_cons_of_mem _ (List.mem_map_of_mem hm), ?_, ?_⟩
      · simp only [Hit.start_shift, List.length_append]
        omega
      · simp only [Hit.stop_shift, List.length_append]
        omega

theorem covered_drop {i : Nat} (h : p (t.drop i) ≠ none) :
    ∃ g ∈ hits p t, g.start ≤ i ∧ i < g.stop := by
  have hi : i < t.length := by
    by_contra hle
    rw [List.drop_of_length_le (Nat.le_of_not_lt hle)] at h
    exact h hp.nil_eq_none
  obtain ⟨g, hg, hle, hlt⟩ := hp.covered (a := t.take i) h
  rw [List.take_append_drop] at hg
  rw [List.length_take_of_le (Nat.le_of_lt hi)] at hle hlt
  exact ⟨g, hg, hle, hlt⟩

theorem hits_eq_nil_iff : hits p t = [] ↔ ∀ a b, t = a ++ b → p b = none := by
  constructor
  · intro h a b ht
    subst ht
    by_contra hb
    obtain ⟨g, hg, _⟩ := hp.covered (a := a) hb
    rw [h] at hg
    exact absurd hg (by simp)
  · intro h
    rw [List.eq_nil_iff_forall_not_mem]
    intro g hg
    obtain ⟨before, after, ht, _, happly⟩ := hp.applies_of_mem hg
    rw [h before after ht] at happly
    exact absurd happly (by simp)

end Advancing
end FluentBuilder.Text

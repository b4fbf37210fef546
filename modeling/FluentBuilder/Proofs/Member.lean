import FluentBuilder.Interface
import FluentBuilder.Proofs.Scan
import Mathlib.Data.List.TakeWhile

/-! What the patterns for the members of an interface match, and which texts hold a member at all. -/
namespace FluentBuilder.Interface
open Text
variable {t run rest capture : Text} {b c : Char} {n : Nat}

theorem takeWhile_append_cons_of_neg {p : Char → Bool} {s : Char} (hs : p s = false) (x y : Text) :
    (x ++ s :: y).takeWhile p = x.takeWhile p := by
  induction x with
  | nil => simp [hs]
  | cons c x ih => by_cases hc : p c = true <;> simp [hc, ih]

theorem dropWhile_append_cons_of_neg {p : Char → Bool} {s : Char} (hs : p s = false) (x y : Text) :
    (x ++ s :: y).dropWhile p = x.dropWhile p ++ s :: y := by
  induction x with
  | nil => simp [hs]
  | cons c x ih => by_cases hc : p c = true <;> simp [hc, ih]

theorem isWord_colon : isWord ':' = false := by decide

theorem propertyName_of_not_word (hrun : ∀ x ∈ run, isWord x = true) (hw : isWord c = false)
    (hc : isBlank c = false) :
    propertyName (run ++ c :: ':' :: rest) = some (run ++ [c], run.length + 2) := by
  simp [propertyName, List.takeWhile_append_of_pos hrun, List.dropWhile_append_of_pos hrun, hw, hc]

theorem forall_isWord_concat (hrun : ∀ x ∈ run, isWord x = true) (hw : isWord c = true) :
    ∀ x ∈ run ++ [c], isWord x = true := by
  rw [List.forall_mem_append, List.forall_mem_singleton]
  exact ⟨hrun, hw⟩

theorem propertyName_of_run (hrun : ∀ x ∈ run, isWord x = true) (hc : isBlank c = false)
    (hrest : rest.head? ≠ some ':') :
    propertyName (run ++ c :: ':' :: rest) = some (run ++ [c], run.length + 2) := by
  by_cases hw : isWord c = true
  · have hsplit : run ++ c :: ':' :: rest = (run ++ [c]) ++ ':' :: rest := by simp
    have hall := forall_isWord_concat hrun hw
    simp only [propertyName, hsplit, List.takeWhile_append_of_pos hall,
      List.dropWhile_append_of_pos hall]
    cases rest with
    | nil => simp [isWord_colon]
    | cons d rest =>
      have hd : d ≠ ':' := by simpa using hrest
      simp [isWord_colon, hd]
  · exact propertyName_of_not_word hrun (by simpa using hw) hc

theorem propertyName_reaches (rest : Text) (hrun : ∀ x ∈ run, isWord x = true)
    (hc : isBlank c = false) :
    ∃ capture n, propertyName (run ++ c :: ':' :: rest) = some (capture, n) ∧
      run.length + 2 ≤ n := by
  by_cases hword : isWord c = true ∧ rest.head? = some ':'
  · -- the first of two colons is the last character of the name, behind the whole word
    obtain ⟨hw, hrest⟩ := hword
    obtain ⟨rest, rfl⟩ := List.head?_eq_some_iff.1 hrest
    have hlong : propertyName ((run ++ [c]) ++ ':' :: ':' :: rest) = _ :=
      propertyName_of_not_word (forall_isWord_concat hrun hw) isWord_colon (by decide)
    rw [List.append_assoc] at hlong
    exact ⟨_, _, hlong, by simp⟩
  · rw [not_and_or] at hword
    obtain hw | hrest := hword
    · exact ⟨_, _, propertyName_of_not_word hrun (by simpa using hw) hc, Nat.le_refl _⟩
    · exact ⟨_, _, propertyName_of_run hrun hc hrest, Nat.le_refl _⟩

theorem propertyName_ne_none (hc : isBlank c = false) : propertyName (c :: ':' :: rest) ≠ none := by
  obtain ⟨_, _, happly, _⟩ := propertyName_reaches rest (List.forall_mem_nil (isWord · = true)) hc
  rw [List.nil_append] at happly
  simp [happly]

theorem eq_of_propertyName (h : propertyName t = some (capture, n)) :
    ∃ run c rest, t = run ++ c :: ':' :: rest ∧ (∀ x ∈ run, isWord x = true) ∧
      isBlank c = false ∧ capture = run ++ [c] ∧ n = run.length + 2 := by
  have hsplit := List.takeWhile_append_dropWhile (p := isWord) (l := t)
  have hall : ∀ x ∈ t.takeWhile isWord, isWord x = true := fun x hx => List.mem_takeWhile_imp hx
  generalize hrun : t.takeWhile isWord = run at hsplit hall
  simp only [propertyName, hrun] at h
  split at h
  case h_1 c rest hdrop =>
    rw [hdrop] at hsplit
    by_cases hc : isBlank c = true
    · simp [hc] at h
    · simp only [hc, Bool.false_eq_true, if_false, Option.some.injEq, Prod.mk.injEq] at h
      exact ⟨run, c, rest, hsplit.symm, hall, by simpa using hc, h.1.symm, h.2.symm⟩
  case h_2 rest _ hdrop =>
    rw [hdrop] at hsplit
    by_cases hempty : run = []
    · simp [hempty] at h
    · -- the last word character plays the part of the one that is not blank
      obtain ⟨init, c, rfl⟩ := (List.eq_nil_or_concat run).resolve_left hempty
      rw [List.concat_eq_append] at h hsplit hall hempty
      have hc : isWord c = true := hall c (by simp)
      simp only [List.isEmpty_iff, hempty, if_false, Option.some.injEq, Prod.mk.injEq] at h
      refine ⟨init, c, rest, ?_, fun x hx => hall x (by simp [hx]),
        isBlank_eq_false_of_isWord hc, h.1.symm, ?_⟩
      · rw [← hsplit]
        simp
      · rw [← h.2]
        simp
  case h_3 => simp at h

theorem propertyName_advancing : Advancing propertyName := by
  intro t capture n h
  obtain ⟨run, c, rest, rfl, _, _, _, rfl⟩ := eq_of_propertyName h
  simp only [List.length_append, List.length_cons]
  omega

theorem typeExpression_of_run (hb : isBlank b = true) (hne : run ≠ [])
    (hrun : ∀ x ∈ run, endsType x = false) (hrest : ∀ x, rest.head? = some x → endsType x = true) :
    typeExpression (':' :: b :: (run ++ rest)) = some (run, run.length + 2) := by
  have hall : ∀ x ∈ run, (!endsType x) = true := fun x hx => by simp [hrun x hx]
  have htake : (run ++ rest).takeWhile (!endsType ·) = run := by
    rw [List.takeWhile_append_of_pos hall]
    cases rest with
    | nil => simp
    | cons d rest => simp [hrest d rfl]
  simp [typeExpression, hb, htake, hne]

theorem eq_of_typeExpression (h : typeExpression t = some (capture, n)) :
    ∃ b rest, t = ':' :: b :: (capture ++ rest) ∧ isBlank b = true ∧ capture ≠ [] ∧
      (∀ x ∈ capture, endsType x = false) ∧ (∀ x, rest.head? = some x → endsType x = true) ∧
      n = capture.length + 2 := by
  unfold typeExpression at h
  split at h
  case h_1 b t =>
    by_cases hb : isBlank b = true
    · by_cases hempty : t.takeWhile (!endsType ·) = []
      · simp [hb, hempty] at h
      · simp only [hb, if_true, List.isEmpty_iff, hempty, if_false, Option.some.injEq,
          Prod.mk.injEq] at h
        obtain ⟨rfl, rfl⟩ := h
        refine ⟨b, t.dropWhile (!endsType ·), ?_, hb, hempty, ?_, ?_, rfl⟩
        · rw [List.takeWhile_append_dropWhile]
        · intro x hx
          simpa using List.mem_takeWhile_imp hx
        · intro x hx
          simpa [hx] using List.head?_dropWhile_not (!endsType ·) t
    · simp [hb] at h
  case h_2 => simp at h

theorem typeExpression_ne_none (hb : isBlank b = true) (hc : endsType c = false) :
    typeExpression (':' :: b :: c :: rest) ≠ none := by
  simp [typeExpression, hb, hc]

theorem typeExpression_eq_none_of_ne (hc : c ≠ ':') : typeExpression (c :: t) = none := by
  simp [typeExpression, hc]

theorem typeExpression_advancing : Advancing typeExpression := by
  intro t capture n h
  obtain ⟨b, rest, rfl, _, _, _, _, rfl⟩ := eq_of_typeExpression h
  simp only [List.length_append, List.length_cons]
  omega

/-- A colon stands right after a character that is not blank. -/
def HasPropertyName (t : Text) : Prop := ∃ c, isBlank c = false ∧ [c, ':'] <:+: t

/-- After a colon and a blank there is something that belongs to the same line and statement. -/
def HasTypeExpression (t : Text) : Prop :=
  ∃ b c, isBlank b = true ∧ endsType c = false ∧ [':', b, c] <:+: t

theorem propertyNames_eq_nil_iff : propertyNames t = [] ↔ ¬ HasPropertyName t := by
  rw [propertyNames, captures, List.map_eq_nil_iff, propertyName_advancing.hits_eq_nil_iff]
  constructor
  · intro h hname
    obtain ⟨c, hc, before, after, rfl⟩ := hname
    exact propertyName_ne_none hc (h before (c :: ':' :: after) (by simp))
  · intro h before after ht
    subst ht
    by_contra hsome
    obtain ⟨⟨capture, n⟩, hx⟩ := Option.ne_none_iff_exists'.1 hsome
    obtain ⟨run, c, rest, rfl, _, hc, _⟩ := eq_of_propertyName hx
    exact h ⟨c, hc, before ++ run, rest, by simp⟩

theorem typeExpressions_eq_nil_iff : typeExpressions t = [] ↔ ¬ HasTypeExpression t := by
  rw [typeExpressions, captures, List.map_eq_nil_iff, typeExpression_advancing.hits_eq_nil_iff]
  constructor
  · intro h htype
    obtain ⟨b, c, hb, hc, before, after, rfl⟩ := htype
    exact typeExpression_ne_none hb hc (h before (':' :: b :: c :: after) (by simp))
  · intro h before after ht
    subst ht
    by_contra hsome
    obtain ⟨⟨capture, n⟩, hx⟩ := Option.ne_none_iff_exists'.1 hsome
    obtain ⟨b, rest, rfl, hb, hne, hcap, _⟩ := eq_of_typeExpression hx
    cases capture with
    | nil => exact hne rfl
    | cons c capture =>
      exact h ⟨b, c, hb, hcap c (by simp), before, capture ++ rest, by simp⟩

/-- A run of word characters and one more character that is not blank. -/
def IsName (name : Text) : Prop :=
  ∃ run c, name = run ++ [c] ∧ (∀ x ∈ run, isWord x = true) ∧ isBlank c = false

theorem isName_of_mem_propertyNames {name : Text} (h : name ∈ propertyNames t) : IsName name := by
  obtain ⟨hit, hm, rfl⟩ := List.mem_map.1 h
  obtain ⟨_, _, _, _, happly⟩ := propertyName_advancing.applies_of_mem hm
  obtain ⟨run, c, _, _, hrun, hc, hcapture, _⟩ := eq_of_propertyName happly
  exact ⟨run, c, hcapture, hrun, hc⟩

theorem infix_of_mem_propertyNames {name : Text} (h : name ∈ propertyNames t) : name <:+: t := by
  obtain ⟨hit, hm, rfl⟩ := List.mem_map.1 h
  obtain ⟨before, _, rfl, _, happly⟩ := propertyName_advancing.applies_of_mem hm
  obtain ⟨run, c, rest, rfl, _, _, hcapture, _⟩ := eq_of_propertyName happly
  exact ⟨before, ':' :: rest, by simp [hcapture]⟩

theorem isBlank_of_mem_name {name : Text} (h : IsName name) (hc : c ∈ name) :
    isBlank c = false := by
  obtain ⟨run, d, rfl, hrun, hd⟩ := h
  cases List.mem_append.1 hc with
  | inl hc => exact isBlank_eq_false_of_isWord (hrun c hc)
  | inr hc => rwa [List.mem_singleton.1 hc]

theorem endsType_of_mem_typeExpressions {type : Text} (h : type ∈ typeExpressions t) :
    ∀ x ∈ type, endsType x = false := by
  obtain ⟨hit, hm, rfl⟩ := List.mem_map.1 h
  obtain ⟨_, _, _, _, happly⟩ := typeExpression_advancing.applies_of_mem hm
  obtain ⟨_, _, _, _, _, hends, _⟩ := eq_of_typeExpression happly
  exact hends

theorem propertyName_append_blank (hb : isBlank b = true) (x y : Text) :
    propertyName (x ++ b :: y) = propertyName x := by
  have hcolon : b ≠ ':' := by
    intro he
    rw [he] at hb
    exact absurd hb (by decide)
  have hword : isWord b = false := by
    by_contra hw
    rw [isBlank_eq_false_of_isWord (by simpa using hw)] at hb
    cases hb
  simp only [propertyName, takeWhile_append_cons_of_neg hword, dropWhile_append_cons_of_neg hword]
  match x.dropWhile isWord with
  | [] =>
    cases y with
    | nil => simp [hcolon]
    | cons d y => by_cases hd : d = ':' <;> simp [hcolon, hd, hb]
  | [c] => by_cases hc : c = ':' <;> simp [hcolon, hc]
  | c :: d :: _ => by_cases hc : c = ':' <;> by_cases hd : d = ':' <;> simp [hc, hd]

theorem propertyNames_append_blank (hb : isBlank b = true) (x y : Text) :
    propertyNames (x ++ b :: y) = propertyNames x ++ propertyNames y :=
  propertyName_advancing.captures_append_of_cut (propertyName_append_blank hb [] y)
    fun _ z _ _ => propertyName_append_blank hb z y

theorem captures_propertyName_of_blank {x : Text} (hx : ':' ∉ x) (hb : isBlank b = true) :
    captures propertyName (x ++ b :: rest) = captures propertyName rest := by
  have hnone : propertyNames x = [] := by
    rw [propertyNames_eq_nil_iff]
    intro hname
    obtain ⟨c, _, hc⟩ := hname
    exact hx (hc.subset (by simp))
  have hcut := propertyNames_append_blank hb x rest
  rwa [hnone, List.nil_append] at hcut

theorem captures_propertyName_of_blanks {x : Text} (hx : ∀ b ∈ x, isBlank b = true) :
    captures propertyName (x ++ rest) = captures propertyName rest := by
  induction x with
  | nil => rfl
  | cons b x ih =>
    have hb := hx b List.mem_cons_self
    have hskip : captures propertyName ([] ++ b :: (x ++ rest)) = captures propertyName (x ++ rest) :=
      captures_propertyName_of_blank (by simp) hb
    exact hskip.trans (ih fun d hd => hx d (List.mem_cons_of_mem b hd))

theorem captures_typeExpression_of_not_mem {x : Text} (hx : ':' ∉ x) :
    captures typeExpression (x ++ rest) = captures typeExpression rest := by
  apply captures_append_of_silent
  intro u y huy hy
  cases y with
  | nil => exact absurd rfl hy
  | cons c y =>
    apply typeExpression_eq_none_of_ne
    intro hc
    rw [huy, hc] at hx
    exact hx (by simp)

/-- A type ends with its line or statement, unless that end is the blank after the colon. -/
theorem typeExpression_append_end {s : Char} (hs : endsType s = true) {x : Text} (hx : x ≠ [':'])
    (y : Text) : typeExpression (x ++ s :: y) = typeExpression x := by
  match x with
  | [] =>
    have hcolon : s ≠ ':' := by
      intro he
      rw [he] at hs
      exact absurd hs (by decide)
    exact typeExpression_eq_none_of_ne hcolon
  | [c] =>
    have hc : c ≠ ':' := fun he => hx (by rw [he])
    rw [typeExpression_eq_none_of_ne hc]
    exact typeExpression_eq_none_of_ne hc
  | c :: d :: x =>
    by_cases hc : c = ':'
    · have htake : (x ++ s :: y).takeWhile (!endsType ·) = x.takeWhile (!endsType ·) :=
        takeWhile_append_cons_of_neg (by simp [hs]) x y
      simp [typeExpression, hc, htake]
    · rw [typeExpression_eq_none_of_ne hc]
      exact typeExpression_eq_none_of_ne hc

theorem typeExpressions_append_end {s : Char} (hs : endsType s = true) {x : Text}
    (hx : ¬ [':'] <:+ x) (y : Text) :
    typeExpressions (x ++ s :: y) = typeExpressions x ++ typeExpressions y := by
  refine typeExpression_advancing.captures_append_of_cut
    (typeExpression_append_end (x := []) hs (by simp) y) fun u v huv _ =>
      typeExpression_append_end hs ?_ y
  intro hv
  exact hx ⟨u, by rw [huv, hv]⟩

/-- A word character stands right before a parenthesis, or has only the optional marker between. -/
def HasCall (t : Text) : Prop :=
  ∃ c, isWord c = true ∧ ([c, '('] <:+: t ∨ [c, '?', '('] <:+: t)

theorem HasCall.of_infix {x y : Text} (hx : HasCall x) (h : x <:+: y) : HasCall y := by
  obtain ⟨c, hc, hcall⟩ := hx
  exact ⟨c, hc, hcall.imp (·.trans h) (·.trans h)⟩

theorem startsCall_iff :
    startsCall t = true ↔ ∃ c, isWord c = true ∧ ([c, '('] <+: t ∨ [c, '?', '('] <+: t) := by
  constructor
  · intro h
    unfold startsCall at h
    split at h
    · exact ⟨_, h, .inl ⟨_, rfl⟩⟩
    · exact ⟨_, h, .inr ⟨_, rfl⟩⟩
    · simp at h
  · intro h
    obtain ⟨c, hc, ⟨r, rfl⟩ | ⟨r, rfl⟩⟩ := h
    · exact hc
    · exact hc

theorem hasCallable_iff_hasCall : hasCallable t = true ↔ HasCall t := by
  rw [hasCallable_iff]
  constructor
  · intro h
    obtain ⟨before, rest, rfl, h⟩ := h
    obtain ⟨c, hc, h⟩ := startsCall_iff.1 h
    exact ⟨c, hc, h.imp (fun h => h.isInfix.trans (List.suffix_append _ _).isInfix)
      fun h => h.isInfix.trans (List.suffix_append _ _).isInfix⟩
  · intro h
    obtain ⟨c, hc, ⟨before, after, rfl⟩ | ⟨before, after, rfl⟩⟩ := h
    · exact ⟨before, c :: '(' :: after, by simp, hc⟩
    · exact ⟨before, c :: '?' :: '(' :: after, by simp, hc⟩

/-- A character that no call reaches over. -/
def SplitsCalls (s : Char) : Prop := isWord s = false ∧ s ≠ '(' ∧ s ≠ '?'

instance (s : Char) : Decidable (SplitsCalls s) := inferInstanceAs (Decidable (_ ∧ _ ∧ _))

theorem hasCallable_append_cons {s : Char} (hs : SplitsCalls s) (x y : Text) :
    hasCallable (x ++ s :: y) = (hasCallable x || hasCallable y) := by
  obtain ⟨hw, hparen, hmark⟩ := hs
  induction x with
  | nil =>
    have hstart : startsCall (s :: y) = false := by
      unfold startsCall
      split <;> simp_all
    simp [hasCallable, hstart]
  | cons c x ih =>
    have hstart : startsCall (c :: (x ++ s :: y)) = startsCall (c :: x) := by
      cases x with
      | nil => simp [startsCall, hparen, hmark]
      | cons d x =>
        cases x with
        | nil => by_cases hd : d = '(' <;> simp [startsCall, hparen, hd]
        | cons e x =>
          by_cases hd : d = '('
          · simp [startsCall, hd]
          · by_cases hq : d = '?'
            · by_cases he : e = '(' <;> simp [startsCall, hq, he]
            · simp [startsCall, hd, hq]
    simp [hasCallable, hstart, ih, Bool.or_assoc]

theorem hasCallable_append_of_splits {x y sep : Text} (hne : sep ≠ [])
    (hs : ∀ s ∈ sep, SplitsCalls s) :
    hasCallable (x ++ (sep ++ y)) = (hasCallable x || hasCallable y) := by
  induction sep generalizing x with
  | nil => exact absurd rfl hne
  | cons s sep ih =>
    rw [List.cons_append, hasCallable_append_cons (hs s List.mem_cons_self)]
    by_cases hsep : sep = []
    · rw [hsep, List.nil_append]
    · have hrest := ih (x := []) hsep fun r hr => hs r (List.mem_cons_of_mem s hr)
      rw [List.nil_append] at hrest
      rw [hrest]
      rfl

theorem hasCallable_of_not_mem (h : '(' ∉ t) : hasCallable t = false := by
  rw [← Bool.not_eq_true, hasCallable_iff_hasCall]
  intro hcall
  obtain ⟨c, _, hc⟩ := hcall
  cases hc with
  | inl hc => exact h (hc.subset (by simp))
  | inr hc => exact h (hc.subset (by simp))

end FluentBuilder.Interface

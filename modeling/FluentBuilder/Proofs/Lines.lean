import FluentBuilder.Proofs.Alike
import FluentBuilder.Proofs.Relayout

/-! The scans go line by line: behind a line feed each of them begins anew, and what it finds in a
text is what it finds in the lines, in their order. -/
namespace FluentBuilder
open Text

namespace Interface
variable {x y t : Text}

/-- The answer of a scan that has found these; to find none is this failure. -/
def orFail (e : Failure) : List Text → Except Failure (List Text)
  | [] => .error e
  | found => .ok found

theorem orFail_injective (e : Failure) : Function.Injective (orFail e) := by
  intro xs ys h
  cases xs with
  | nil =>
    cases ys with
    | nil => rfl
    | cons => cases h
  | cons =>
    cases ys with
    | nil => cases h
    | cons => exact Except.ok.inj h

theorem extractPropertyNames_eq_orFail (t : Text) :
    extractPropertyNames t = orFail .noProperties (propertyNames t) := by
  unfold extractPropertyNames
  cases propertyNames t <;> rfl

theorem extractTypeExpressions_eq_orFail (t : Text) :
    extractTypeExpressions t = orFail .noDataTypes (typeExpressions t) := by
  unfold extractTypeExpressions
  cases typeExpressions t <;> rfl

section
variable {f : Text → List Text}

theorem append_of_seam (hnil : f [] = []) (hx : x = [] ∨ ['\n'] <:+ x)
    (hseam : ∀ z, z ++ ['\n'] = x → ∀ y, f (z ++ '\n' :: y) = f z ++ f y) (y : Text) :
    f (x ++ y) = f x ++ f y := by
  obtain rfl | ⟨z, rfl⟩ := hx
  · rw [hnil]
    rfl
  · have hend : f (z ++ ['\n']) = f z := by rw [hseam z rfl, hnil, List.append_nil]
    rw [hend, List.append_assoc, List.singleton_append, hseam z rfl]

theorem eq_flatMap_of_seams (h : ∀ x y, x ++ '\n' :: y <:+ t → f (x ++ '\n' :: y) = f x ++ f y) :
    f t = (parts ['\n'] t).flatMap f := by
  induction t using line_induction with
  | last x hx => rw [parts_of_not_mem hx, List.flatMap_singleton]
  | line x y hx ih =>
    have hparts : parts ['\n'] (x ++ '\n' :: y) = x :: parts ['\n'] y := parts_line hx y
    have hy : y <:+ x ++ '\n' :: y := ⟨x ++ ['\n'], by simp⟩
    have hrest := ih fun u v huv => h u v (huv.trans hy)
    rw [h x y (List.suffix_refl _), hparts, List.flatMap_cons, hrest]

end

theorem propertyNames_seam (x y : Text) :
    propertyNames (x ++ '\n' :: y) = propertyNames x ++ propertyNames y :=
  propertyNames_append_blank (by decide) x y

/-- A colon at the end of the line would take its type from behind the line feed. -/
theorem typeExpressions_seam (hx : ¬ [':', '\n'] <:+ x ++ ['\n']) (y : Text) :
    typeExpressions (x ++ '\n' :: y) = typeExpressions x ++ typeExpressions y := by
  refine typeExpressions_append_end (by decide) ?_ y
  rintro ⟨z, rfl⟩
  exact hx ⟨z, by simp⟩

theorem propertyNames_append_lines (hx : x = [] ∨ ['\n'] <:+ x) (y : Text) :
    propertyNames (x ++ y) = propertyNames x ++ propertyNames y :=
  append_of_seam rfl hx (fun z _ => propertyNames_seam z) y

theorem typeExpressions_append_lines (hx : x = [] ∨ ['\n'] <:+ x) (hcolon : ¬ [':', '\n'] <:+ x)
    (y : Text) : typeExpressions (x ++ y) = typeExpressions x ++ typeExpressions y := by
  refine append_of_seam rfl hx (fun z hz => typeExpressions_seam ?_) y
  rwa [hz]

/-- Where one text ends with a line, what the scans find in it and in another behind it is what they
find in each. A scan that finds nothing counts as an empty list. -/
theorem scans_append_lines (hx : x = [] ∨ ['\n'] <:+ x) (hcolon : ¬ [':', '\n'] <:+ x) (y : Text) :
    (∃ names names', extractPropertyNames x = orFail .noProperties names ∧
      extractPropertyNames y = orFail .noProperties names' ∧
      extractPropertyNames (x ++ y) = orFail .noProperties (names ++ names')) ∧
    ∃ types types', extractTypeExpressions x = orFail .noDataTypes types ∧
      extractTypeExpressions y = orFail .noDataTypes types' ∧
      extractTypeExpressions (x ++ y) = orFail .noDataTypes (types ++ types') := by
  constructor
  · refine ⟨propertyNames x, propertyNames y, extractPropertyNames_eq_orFail x,
      extractPropertyNames_eq_orFail y, ?_⟩
    rw [extractPropertyNames_eq_orFail, propertyNames_append_lines hx]
  · refine ⟨typeExpressions x, typeExpressions y, extractTypeExpressions_eq_orFail x,
      extractTypeExpressions_eq_orFail y, ?_⟩
    rw [extractTypeExpressions_eq_orFail, typeExpressions_append_lines hx hcolon]

theorem scans_append_two_lines :
    let x := "a:x; b: y;\n".toList
    let y := "c : z\n".toList
    (['\n'] <:+ x ∧ ¬ [':', '\n'] <:+ x) ∧
      extractPropertyNames (x ++ y) = .ok ["a".toList, "b".toList] ∧
      extractTypeExpressions (x ++ y) = .ok ["y".toList, "z".toList] := by
  intro x y
  have hx : ['\n'] <:+ x ∧ ¬ [':', '\n'] <:+ x := by decide
  obtain ⟨⟨names, names', hn, hn', hnames⟩, types, types', ht, ht', htypes⟩ :=
    scans_append_lines (.inr hx.1) hx.2 y
  have hna : names = ["a".toList, "b".toList] := orFail_injective _ (hn.symm.trans rfl)
  have hnb : names' = [] := orFail_injective _ (hn'.symm.trans rfl)
  have hta : types = ["y".toList] := orFail_injective _ (ht.symm.trans rfl)
  have htb : types' = ["z".toList] := orFail_injective _ (ht'.symm.trans rfl)
  rw [hna, hnb] at hnames
  rw [hta, htb] at htypes
  exact ⟨hx, hnames, htypes⟩

theorem propertyNames_eq_flatMap (t : Text) :
    propertyNames t = (parts ['\n'] t).flatMap propertyNames :=
  eq_flatMap_of_seams fun x y _ => propertyNames_seam x y

theorem typeExpressions_eq_flatMap (h : ¬ [':', '\n'] <:+: t) :
    typeExpressions t = (parts ['\n'] t).flatMap typeExpressions := by
  refine eq_flatMap_of_seams fun x y hxy => typeExpressions_seam (fun hx => h ?_) y
  have hline : x ++ ['\n'] <:+: x ++ '\n' :: y := ⟨[], y, by simp⟩
  exact hx.isInfix.trans (hline.trans hxy.isInfix)

end Interface
end FluentBuilder

import FluentBuilder.Interface
import FluentBuilder.Proofs.Member

/-! What the extractor by pattern answers. -/
namespace FluentBuilder.Interface
variable {t : Text} {fields : List Field}

/-- The first of three failures that applies, or the names and types of the two scans in pairs. -/
inductive Extracted (t : Text) : Except Failure (List Field) → Prop
  | noProperties (h : ¬ HasPropertyName t) : Extracted t (.error .noProperties)
  | noDataTypes (h : HasPropertyName t) (ht : ¬ HasTypeExpression t) :
      Extracted t (.error .noDataTypes)
  | mismatch (h : HasPropertyName t) (ht : HasTypeExpression t)
      (hne : (propertyNames t).length ≠ (typeExpressions t).length) :
      Extracted t
        (.error (.fieldTypeMismatch (propertyNames t).length (typeExpressions t).length))
  | paired (h : HasPropertyName t) (ht : HasTypeExpression t)
      (he : (propertyNames t).length = (typeExpressions t).length) :
      Extracted t (.ok (List.zipWith Field.mk (propertyNames t) (typeExpressions t)))

theorem extractPropertyNames_eq_error_iff :
    extractPropertyNames t = .error .noProperties ↔ propertyNames t = [] := by
  unfold extractPropertyNames
  split <;> simp_all

theorem extractPropertyNames_eq_ok_iff {names : List Text} :
    extractPropertyNames t = .ok names ↔ propertyNames t ≠ [] ∧ names = propertyNames t := by
  unfold extractPropertyNames
  split
  case h_1 h => simp [h]
  case h_2 h => rw [Except.ok.injEq, and_iff_right h, eq_comm]

theorem extractTypeExpressions_eq_error_iff :
    extractTypeExpressions t = .error .noDataTypes ↔ typeExpressions t = [] := by
  unfold extractTypeExpressions
  split <;> simp_all

theorem extractTypeExpressions_eq_ok_iff {types : List Text} :
    extractTypeExpressions t = .ok types ↔ typeExpressions t ≠ [] ∧ types = typeExpressions t := by
  unfold extractTypeExpressions
  split
  case h_1 h => simp [h]
  case h_2 h => rw [Except.ok.injEq, and_iff_right h, eq_comm]

theorem extractPropertyNames_of_has (h : HasPropertyName t) :
    extractPropertyNames t = .ok (propertyNames t) :=
  extractPropertyNames_eq_ok_iff.2 ⟨fun he => propertyNames_eq_nil_iff.1 he h, rfl⟩

theorem extractTypeExpressions_of_has (h : HasTypeExpression t) :
    extractTypeExpressions t = .ok (typeExpressions t) :=
  extractTypeExpressions_eq_ok_iff.2 ⟨fun he => typeExpressions_eq_nil_iff.1 he h, rfl⟩

theorem byPattern_of_has (h : HasPropertyName t) (ht : HasTypeExpression t) :
    (byPattern t).result = Field.pair (propertyNames t) (typeExpressions t) := by
  rw [byPattern, extractPropertyNames_of_has h, extractTypeExpressions_of_has ht]

theorem result_of_extracted {r : Except Failure (List Field)} (h : Extracted t r) :
    (byPattern t).result = r := by
  cases h with
  | noProperties h =>
    rw [byPattern, extractPropertyNames, propertyNames_eq_nil_iff.2 h]
  | noDataTypes h ht =>
    rw [byPattern, extractPropertyNames_of_has h, extractTypeExpressions,
      typeExpressions_eq_nil_iff.2 ht]
  | mismatch h ht hne => rw [byPattern_of_has h ht, Field.pair, if_neg hne]
  | paired h ht he => rw [byPattern_of_has h ht, Field.pair, if_pos he]

theorem extracted (t : Text) : Extracted t (byPattern t).result := by
  suffices h : ∃ r, Extracted t r by
    obtain ⟨r, hr⟩ := h
    rwa [result_of_extracted hr]
  by_cases h : HasPropertyName t
  · by_cases ht : HasTypeExpression t
    · by_cases he : (propertyNames t).length = (typeExpressions t).length
      · exact ⟨_, .paired h ht he⟩
      · exact ⟨_, .mismatch h ht he⟩
    · exact ⟨_, .noDataTypes h ht⟩
  · exact ⟨_, .noProperties h⟩

theorem extracted_iff {r : Except Failure (List Field)} :
    (byPattern t).result = r ↔ Extracted t r := by
  constructor
  · intro h
    rw [← h]
    exact extracted t
  · exact result_of_extracted

theorem byPattern_eq_ok_iff : (byPattern t).result = .ok fields ↔
    HasPropertyName t ∧ HasTypeExpression t ∧
      (propertyNames t).length = (typeExpressions t).length ∧
      fields = List.zipWith Field.mk (propertyNames t) (typeExpressions t) := by
  rw [extracted_iff]
  constructor
  · intro h
    cases h with
    | paired h ht he => exact ⟨h, ht, he, rfl⟩
  · intro h
    obtain ⟨h, ht, he, rfl⟩ := h
    exact .paired h ht he

theorem map_name_of_byPattern (h : (byPattern t).result = .ok fields) :
    fields.map Field.name = propertyNames t := by
  obtain ⟨_, _, hlen, rfl⟩ := byPattern_eq_ok_iff.1 h
  exact List.ext_getElem (by simp [hlen]) (by simp)

/-- What is known of every field that the extractor by pattern gives. -/
structure IsScanned (f : Field) : Prop where
  name : IsName f.name
  type : ∀ c ∈ f.typeExpression, endsType c = false

theorem mem_of_byPattern (h : (byPattern t).result = .ok fields) :
    ∀ f ∈ fields, f.name ∈ propertyNames t ∧ f.typeExpression ∈ typeExpressions t := by
  obtain ⟨_, _, _, rfl⟩ := byPattern_eq_ok_iff.1 h
  intro f hf
  obtain ⟨i, hi, rfl⟩ := List.mem_iff_getElem.1 hf
  simp only [List.getElem_zipWith]
  exact ⟨List.getElem_mem _, List.getElem_mem _⟩

theorem scanned_of_byPattern (h : (byPattern t).result = .ok fields) :
    ∀ f ∈ fields, IsScanned f := by
  intro f hf
  obtain ⟨hname, htype⟩ := mem_of_byPattern h f hf
  exact ⟨isName_of_mem_propertyNames hname, endsType_of_mem_typeExpressions htype⟩

theorem ne_nil_of_byPattern (h : (byPattern t).result = .ok fields) : fields ≠ [] := by
  obtain ⟨hname, _, hlen, rfl⟩ := byPattern_eq_ok_iff.1 h
  have hne : (propertyNames t).length ≠ 0 := by
    rw [ne_eq, List.length_eq_zero_iff, propertyNames_eq_nil_iff, not_not]
    exact hname
  rw [ne_eq, ← List.length_eq_zero_iff, List.length_zipWith, ← hlen, Nat.min_self]
  exact hne

end FluentBuilder.Interface

import FluentBuilder.Proofs.EntryTokens
import FluentBuilder.Yaml.Outline

/-! The outline of lines such as `key: value`: one mapping, and in it the two words of each line in
the order of the text. -/
namespace FluentBuilder.Yaml

namespace Entry

def visits (e : Entry) (m : Mark) : List Visit := [
  .enter (.written ⟨m, none, .scalar .plain e.key⟩),
  .enter (.written ⟨e.valueStart m, none, .scalar .plain e.value⟩)]

def visitsFrom : Mark → List Entry → List Visit
  | _, [] => []
  | m, e :: es => e.visits m ++ visitsFrom (e.next m) es

end Entry

namespace Reader

/-! ### Steps of the reader -/

section
variable {α β : Type} {a : α} {b : β} {x : Read α} {f : α → Read β} {t : Token} {l : Lexeme}
  {ts us ws : List Token} {vs vs' : List Visit} {fuel : Nat}

/-- With the tokens `ts` ahead it answers `a`, meets `vs` and leaves the tokens `us`. -/
def Reads (x : Read α) (ts : List Token) (a : α) (us : List Token) (vs : List Visit) : Prop :=
  ∀ r : Reader, r.tokens = ts → ∃ r' : Reader, x.run.run r = (.ok a, r') ∧ r'.tokens = us ∧
    r'.visits = vs.reverse ++ r.visits

theorem Reads.bind (hx : Reads x ts a us vs) (hf : Reads (f a) us b ws vs') :
    Reads (x >>= f) ts b ws (vs ++ vs') := by
  intro r hr
  obtain ⟨r', hrun, htokens, hvisits⟩ := hx r hr
  obtain ⟨r'', hrun', htokens', hvisits'⟩ := hf r' htokens
  refine ⟨r'', ?_, htokens', ?_⟩
  · rw [ExceptT.run_bind, StateT.run_bind, hrun]
    exact hrun'
  · rw [hvisits', hvisits, List.reverse_append, List.append_assoc]

theorem Reads.andThen (hx : Reads x ts a us []) (hf : Reads (f a) us b ws vs) :
    Reads (x >>= f) ts b ws vs := hx.bind hf

theorem reads_pure (a : α) (ts : List Token) : Reads (pure a) ts a ts [] :=
  fun r hr => ⟨r, rfl, hr, rfl⟩

theorem reads_peek : Reads peek (t :: ts) t (t :: ts) [] := by
  intro r hr
  refine ⟨r, ?_, hr, rfl⟩
  cases r
  cases hr
  rfl

theorem reads_pass : Reads pass (t :: ts) () ts [] :=
  fun r hr => ⟨{ r with tokens := r.tokens.tail }, rfl, by rw [hr, List.tail_cons], rfl⟩

theorem reads_emit (v : Visit) (ts : List Token) : Reads (emit v) ts () ts [v] :=
  fun r hr => ⟨{ r with visits := v :: r.visits }, rfl, hr, rfl⟩

theorem reads_isNextOf (ls : List Lexeme) :
    Reads (isNextOf ls) (t :: ts) (ls.contains t.lexeme) (t :: ts) [] :=
  reads_peek.andThen (reads_pure _ _)

theorem reads_nextIf : Reads (nextIf t.lexeme) (t :: ts) true ts [] := by
  have h : Reads (isNextOf [t.lexeme]) (t :: ts) _ (t :: ts) [] := reads_isNextOf _
  rw [List.contains_cons, BEq.rfl, Bool.true_or] at h
  exact h.andThen (reads_pass.andThen (reads_pure _ _))

theorem reads_nextIf_of_ne (hl : t.lexeme ≠ l) : Reads (nextIf l) (t :: ts) false (t :: ts) [] := by
  have h : Reads (isNextOf [l]) (t :: ts) _ (t :: ts) [] := reads_isNextOf _
  rw [List.contains_cons, beq_eq_false_iff_ne.2 hl, List.contains_nil, Bool.or_self] at h
  exact h.andThen (reads_pure _ _)

theorem reads_leaveIf : Reads (leaveIf t.lexeme) (t :: ts) true ts [.leave] :=
  reads_nextIf.andThen ((reads_emit _ _).bind (reads_pure _ _))

theorem reads_leaveIf_of_ne (hl : t.lexeme ≠ l) : Reads (leaveIf l) (t :: ts) false (t :: ts) [] :=
  (reads_nextIf_of_ne hl).andThen (reads_pure _ _)

theorem reads_expect : Reads (expect t.lexeme) (t :: ts) t ts [] := by
  apply reads_peek.andThen
  simp only [ne_eq, not_true_eq_false, if_false]
  exact reads_pass.andThen (reads_pure _ _)

/-! ### Lines -/

variable {m m' : Mark} {w : Text} {closers : List Lexeme} {block indentless : Bool}

theorem reads_properties (p : Properties) (hanchor : ∀ name, l ≠ .anchor name)
    (htag : ∀ handle suffix, l ≠ .tag handle suffix) :
    Reads (properties (fuel + 1) p) (⟨l, m, m'⟩ :: ts) p (⟨l, m, m'⟩ :: ts) [] := by
  rw [properties]
  apply reads_peek.andThen
  cases l with
  | anchor name => exact absurd rfl (hanchor name)
  | tag handle suffix => exact absurd rfl (htag handle suffix)
  | _ => exact reads_pure _ _

theorem reads_enter (m : Mark) (s : Shape) (ts : List Token) :
    Reads (enter {} m s) ts () ts [.enter (.written ⟨m, none, s⟩)] :=
  (reads_pure _ _).andThen (reads_emit _ _)

theorem reads_scalar : Reads (node block indentless (fuel + 1)) (⟨.scalar .plain w, m, m'⟩ :: ts) ()
    ts [.enter (.written ⟨m, none, .scalar .plain w⟩)] := by
  rw [node]
  apply reads_peek.andThen
  apply (reads_properties (l := .scalar .plain w) {} (by simp) (by simp)).andThen
  apply reads_peek.andThen
  apply reads_pass.andThen
  exact reads_enter _ _ _

theorem reads_scalarAfter (h : closers.contains (.scalar .plain w) = false) :
    Reads (nodeAfter t closers indentless (fuel + 2)) (⟨.scalar .plain w, m, m'⟩ :: ts) () ts
      [.enter (.written ⟨m, none, .scalar .plain w⟩)] := by
  rw [nodeAfter]
  apply (reads_isNextOf closers).andThen
  rw [h]
  exact reads_scalar

variable {e : Entry} {es : List Entry}

theorem reads_entry (h : Reads (blockEntries (fuel + 2)) ts () us vs) :
    Reads (blockEntries (fuel + 3)) (e.tokens m ++ ts) () us (e.visits m ++ vs) := by
  have hscalar : ∀ w, [Lexeme.key, .value, .blockEnd].contains (.scalar .plain w) = false := by
    intro w
    rfl
  rw [blockEntries]
  apply (reads_leaveIf_of_ne (t := ⟨.key, m, m⟩) (by simp)).andThen
  apply (reads_expect (t := ⟨.key, m, m⟩)).andThen
  apply (reads_scalarAfter (hscalar _)).bind
  apply reads_peek.andThen
  apply (reads_nextIf (t := ⟨.value, _, _⟩)).andThen
  apply (reads_scalarAfter (hscalar _)).bind
  exact h

theorem reads_entries : Reads (blockEntries (es.length + 3 + fuel))
    (Entry.tokensFrom m es ++ ⟨.blockEnd, m', m'⟩ :: ts) () ts
      (Entry.visitsFrom m es ++ [.leave]) := by
  induction es generalizing m with
  | nil =>
    rw [List.length_nil, Nat.zero_add, Nat.add_comm, blockEntries]
    exact (reads_leaveIf (t := ⟨.blockEnd, m', m'⟩)).bind (reads_pure () ts)
  | cons e es ih =>
    have hfuel : (e :: es).length + 3 + fuel = (es.length + 1 + fuel) + 3 := by
      rw [List.length_cons]
      omega
    have hrest : es.length + 3 + fuel = (es.length + 1 + fuel) + 2 := by omega
    rw [hrest] at ih
    rw [hfuel, Entry.tokensFrom, Entry.visitsFrom, List.append_assoc, List.append_assoc]
    exact reads_entry ih

theorem reads_mapping (h : Reads (blockEntries fuel) ts () us vs) :
    Reads (node true indentless (fuel + 1)) (⟨.blockMappingStart, m, m'⟩ :: ts) () us
      (.enter (.written ⟨m, none, .mapping⟩) :: vs) := by
  rw [node]
  apply reads_peek.andThen
  apply (reads_properties (l := .blockMappingStart) {} (by simp) (by simp)).andThen
  apply reads_peek.andThen
  apply reads_pass.andThen
  exact (reads_enter _ _ _).bind h

theorem reads_directives (fuel : Nat) : Reads (directives (fuel + 1) false)
    (⟨.blockMappingStart, m, m'⟩ :: ts) false (⟨.blockMappingStart, m, m'⟩ :: ts) [] := by
  rw [directives]
  exact reads_peek.andThen (reads_pure _ _)

theorem reads_handles (hs : List (Text × TagBytes)) (ts : List Token) :
    Reads (modify fun r => { r with handles := r.handles ++ hs }) ts () ts [] :=
  fun r hr => ⟨{ r with handles := r.handles ++ hs }, rfl, hr, rfl⟩

theorem reads_finish : Reads finish [⟨.textEnd, m, m'⟩] () [⟨.textEnd, m, m'⟩] [] := by
  apply (reads_nextIf_of_ne (by simp)).andThen
  intro r hr
  refine ⟨r, ?_, hr, rfl⟩
  cases r
  cases hr
  rfl

theorem reads_document (h : Reads (blockEntries fuel) ts () [⟨.textEnd, m', m'⟩] vs) :
    Reads (document (fuel + 1)) (⟨.blockMappingStart, m, m⟩ :: ts) () [⟨.textEnd, m', m'⟩]
      (.enter (.written ⟨m, none, .mapping⟩) :: vs) := by
  rw [document]
  apply (reads_isNextOf _).andThen
  apply (reads_directives _).andThen
  apply (reads_handles _ _).andThen
  apply (reads_isNextOf _).andThen
  have hnode : Reads (node true false (fuel + 1)) (⟨.blockMappingStart, m, m⟩ :: ts) () _ _ :=
    reads_mapping h
  have hall := hnode.bind (f := fun _ => finish) reads_finish
  rw [List.append_nil] at hall
  exact hall

theorem outline_of_reads {s : Text}
    (h : Reads (document (2 * (Token.scan s).length + 4)) (Token.scan s) () us vs) :
    (Outline.read s).visits = vs ∧ (Outline.read s).interruption = none := by
  obtain ⟨r, hrun, _, hvisits⟩ := h { tokens := Token.scan s } rfl
  unfold Outline.read
  simp [hrun, hvisits]

end

end Reader

namespace Entry

theorem read_nil : (Outline.read (text [])).visits = [] ∧
    (Outline.read (text [])).interruption = none := by
  apply Reader.outline_of_reads
  rw [scan_nil, Reader.document]
  exact (Reader.reads_isNextOf _).andThen (Reader.reads_pure _ _)

/-- Lines are one mapping of their words. -/
theorem read_cons (e : Entry) (es : List Entry) :
    (Outline.read (text (e :: es))).visits =
        .enter (.written ⟨.start, none, .mapping⟩) :: (visitsFrom .start (e :: es) ++ [.leave]) ∧
      (Outline.read (text (e :: es))).interruption = none := by
  have hfuel : 2 * (Token.scan (text (e :: es))).length + 4 =
      ((e :: es).length + 3 + (7 * (e :: es).length + 6)) + 1 := by
    rw [scan_cons, List.length_cons, List.length_append, length_tokensFrom]
    simp only [List.length_cons, List.length_nil]
    omega
  apply Reader.outline_of_reads
  rw [hfuel, scan_cons]
  exact Reader.reads_document Reader.reads_entries

end Entry

end FluentBuilder.Yaml

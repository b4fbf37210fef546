import FluentBuilder.Proofs.Disk

/-! The names in a path, and the two ways to the working directory: a path taken from there leads to
the same as from the root. -/
namespace FluentBuilder.Disk
variable {d : Disk} {path x z : Text}

theorem names_of_not_mem (hz : '/' ∉ z) : names z = [z] := by
  induction z with
  | nil => rfl
  | cons c z ih =>
    rw [List.mem_cons, not_or] at hz
    rw [names, if_neg (Ne.symm hz.1), ih hz.2]

theorem names_append (x : Text) : ∃ folders name,
    ∀ z, '/' ∉ z → names (x ++ z) = folders ++ [name ++ z] := by
  induction x with
  | nil => exact ⟨[], [], fun z hz => names_of_not_mem hz⟩
  | cons c x ih =>
    obtain ⟨folders, name, hnames⟩ := ih
    by_cases hc : c = '/'
    · refine ⟨[] :: folders, name, fun z hz => ?_⟩
      rw [List.cons_append, names, if_pos hc, hnames z hz, List.cons_append]
    · cases folders with
      | nil =>
        refine ⟨[], c :: name, fun z hz => ?_⟩
        rw [List.cons_append, names, if_neg hc, hnames z hz]
        rfl
      | cons folder folders =>
        refine ⟨(c :: folder) :: folders, name, fun z hz => ?_⟩
        rw [List.cons_append, names, if_neg hc, hnames z hz]
        rfl

theorem names_append_slash (hx : '/' ∉ x) (path : Text) :
    names (x ++ '/' :: path) = x :: names path := by
  induction x with
  | nil => simp [names]
  | cons c x ih =>
    rw [List.mem_cons, not_or] at hx
    rw [List.cons_append, names, if_neg (Ne.symm hx.1), ih hx.2]

theorem names_flatMap_slash {ns : List Text} (hns : ∀ n ∈ ns, '/' ∉ n) (path : Text) :
    names (ns.flatMap ('/' :: ·) ++ '/' :: path) = [] :: (ns ++ names path) := by
  induction ns with
  | nil => simp [names]
  | cons n ns ih =>
    obtain ⟨hn, hns⟩ := List.forall_mem_cons.1 hns
    obtain ⟨rest, hslash⟩ : ∃ rest, ns.flatMap ('/' :: ·) ++ '/' :: path = '/' :: rest := by
      cases ns <;> simp
    have hrest := ih hns
    rw [hslash, names, if_pos rfl, List.cons.injEq] at hrest
    rw [List.flatMap_cons, List.append_assoc, hslash, List.cons_append, names, if_pos rfl,
      names_append_slash hn, hrest.2, List.cons_append]

theorem getLast?_cwd (h : d.home ≠ []) : d.cwd.getLast? ≠ some '/' := by
  obtain ⟨above, last, hhome⟩ := (List.eq_nil_or_concat d.home).resolve_left h
  obtain ⟨hproper, hslash⟩ := d.proper last (by simp [hhome])
  rw [cwd, if_neg h, hhome, List.concat_eq_append, List.flatMap_append, List.flatMap_singleton,
    List.getLast?_append_of_ne_nil _ (List.cons_ne_nil _ _),
    List.getLast?_cons_of_ne_nil hproper.ne_nil]
  exact fun he => hslash (List.mem_of_getLast? he)

theorem cwd_eq_cons (d : Disk) : ∃ rest, d.cwd = '/' :: rest := by
  cases hhome : d.home with
  | nil => exact ⟨[], by simp [cwd, hhome]⟩
  | cons n ns => exact ⟨n ++ ns.flatMap ('/' :: ·), by simp [cwd, hhome]⟩

theorem cwd_ne_nil (d : Disk) : d.cwd ≠ [] := by
  obtain ⟨rest, hcwd⟩ := d.cwd_eq_cons
  rw [hcwd]
  exact List.cons_ne_nil _ _

theorem names_join_cwd (d : Disk) (path : Text) :
    names (joinPath d.cwd path) = [] :: (d.home ++ names path) := by
  by_cases hroot : d.home = []
  · simp [joinPath, cwd, hroot, names]
  · have hcwd : d.cwd = d.home.flatMap ('/' :: ·) := if_neg hroot
    have hnot : ¬ (d.cwd = [] ∨ d.cwd.getLast? = some '/') :=
      not_or.2 ⟨d.cwd_ne_nil, getLast?_cwd hroot⟩
    rw [joinPath, if_neg hnot, hcwd]
    exact names_flatMap_slash (fun n hn => (d.proper n hn).2) path

/-- From the root one comes down to the working directory. -/
structure IsOpen (d : Disk) : Prop where
  passes : ∀ p, p <+: d.home → p ≠ d.home → p ∉ d.closed
  no_file : ∀ p, p <+: d.home → d.file? p = none

theorem follow_home (h : d.IsOpen) (ns : List Text) :
    d.follow [] (d.home ++ ns) = d.follow d.home ns := by
  have hdown : ∀ ms p, p ++ ms = d.home → d.follow p (ms ++ ns) = d.follow d.home ns := by
    intro ms
    induction ms with
    | nil =>
      intro p hp
      rw [List.append_nil] at hp
      rw [hp, List.nil_append]
    | cons m ms ih =>
      intro p hp
      have hnext : p ++ [m] ++ ms = d.home := by simpa using hp
      have hprefix : p ++ [m] <+: d.home := ⟨ms, hnext⟩
      have hopen : p ∉ d.closed := by
        refine h.passes p ⟨_, hp⟩ fun he => ?_
        simp [← he] at hp
      have hproper : IsProper m := (d.proper m (by simp [← hp])).1
      rw [List.cons_append, follow_proper hopen hproper]
      simp only [h.no_file _ hprefix, isFolder_above_home hprefix, if_true]
      exact ih _ hnext
  exact hdown d.home [] (List.nil_append _)

/-- Taken from the root, a path through the working directory leads to the same as from there. -/
theorem target_join_cwd (h : d.IsOpen) (hne : path ≠ []) (hrelative : path.head? ≠ some '/')
    (hlong : Text.utf8Length (joinPath d.cwd path) ≤ maxPath) :
    d.target (joinPath d.cwd path) = d.target path := by
  obtain ⟨rest, hjoin⟩ : ∃ rest, joinPath d.cwd path = '/' :: (rest ++ path) := by
    obtain ⟨rest, hcwd⟩ := d.cwd_eq_cons
    unfold joinPath
    split
    · exact ⟨rest, by rw [hcwd, List.cons_append]⟩
    · exact ⟨rest ++ ['/'], by simp [hcwd]⟩
  have hshort : Text.utf8Length path ≤ maxPath := by
    rw [hjoin, Text.utf8Length_cons, Text.utf8Length_append] at hlong
    omega
  have hnames := d.names_join_cwd path
  have hempty : path.isEmpty = false := by simpa using hne
  rw [hjoin] at hlong hnames ⊢
  simp only [target, List.isEmpty_cons, List.head?_cons, hempty, hrelative,
    Nat.not_lt.2 hlong, Nat.not_lt.2 hshort, Bool.false_eq_true, if_false, if_true]
  rw [hnames, follow_skip, follow_home h]

end FluentBuilder.Disk

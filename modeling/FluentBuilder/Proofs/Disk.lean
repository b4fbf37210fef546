import FluentBuilder.Storage
import Mathlib.Data.List.Basic

/-! Where paths end, and what a write changes: the file at the end of its path and no other. -/
namespace FluentBuilder.Disk
variable {d : Disk} {p q place : Place} {content : Content} {stored : Stored} {n : Text}
  {ns : List Text} {t : Target}

def refill (content : Content) (found : Option Stored) : Stored :=
  { found.getD { content } with content }

theorem lookup_put (place : Place) (content : Content) (files : List (Place × Stored)) (p : Place) :
    (put place content files).lookup p =
      if p = place then some (refill content (files.lookup place)) else files.lookup p := by
  have hcons (q : Place) (e : Stored) (fs : List (Place × Stored)) (p : Place) :
      ((q, e) :: fs).lookup p = if p = q then some e else fs.lookup p := by
    by_cases hp : p = q
    · simp [hp]
    · have hne : (p == q) = false := by simpa using hp
      rw [List.lookup_cons, hne, if_neg hp]
  induction files with
  | nil =>
    rw [put, hcons]
    rfl
  | cons f files ih =>
    obtain ⟨q, e⟩ := f
    by_cases hq : q = place
    · subst hq
      rw [put, if_pos rfl, hcons, hcons, hcons, if_pos rfl]
      split <;> rfl
    · rw [put, if_neg hq, hcons, hcons, hcons, ih, if_neg (Ne.symm hq)]
      split
      · rename_i hp
        rw [if_neg (hp ▸ hq)]
      · rfl

theorem any_put (g : Place → Bool) (place : Place) (content : Content)
    (files : List (Place × Stored)) :
    ((put place content files).any fun f => g f.1) = ((files.any fun f => g f.1) || g place) := by
  induction files with
  | nil => simp [put]
  | cons f files ih =>
    by_cases hf : f.1 = place
    · simp [put, hf, Bool.or_comm]
    · simp [put, hf, ih, Bool.or_assoc]

theorem put_put (place : Place) (content : Content) (files : List (Place × Stored)) :
    put place content (put place content files) = put place content files := by
  induction files with
  | nil => simp [put]
  | cons f files ih =>
    by_cases hf : f.1 = place
    · simp [put, hf]
    · simp [put, hf, ih]

theorem file?_replace (d : Disk) (place : Place) (content : Content) (p : Place) :
    (d.replace place content).file? p =
      if p = place then some (refill content (d.file? place)) else d.file? p :=
  lookup_put place content d.files p

theorem isFolder_mono (h : p <+: q) (hq : d.isFolder q = true) : d.isFolder p = true := by
  simp only [isFolder, Bool.or_eq_true, List.any_eq_true, List.isPrefixOf_iff_prefix,
    Bool.and_eq_true, decide_eq_true_eq] at hq ⊢
  obtain (hq | ⟨r, hr, hqr⟩) | ⟨f, hf, hqf, hlt⟩ := hq
  · exact .inl (.inl (h.trans hq))
  · exact .inl (.inr ⟨r, hr, h.trans hqr⟩)
  · exact .inr ⟨f, hf, h.trans hqf, Nat.lt_of_le_of_lt h.length_le hlt⟩

theorem isFolder_above_home (h : p <+: d.home) : d.isFolder p = true := by
  simp [isFolder, List.isPrefixOf_iff_prefix.2 h]

theorem isFolder_replace (h : d.isFolder place.dropLast = true) (content : Content) (p : Place) :
    (d.replace place content).isFolder p = d.isFolder p := by
  have hparts : (d.replace place content).isFolder p =
      (d.isFolder p || (p.isPrefixOf place && decide (p.length < place.length))) := by
    rw [isFolder, replace, any_put (fun q => p.isPrefixOf q && decide (p.length < q.length)),
      ← Bool.or_assoc]
    rfl
  rw [hparts, Bool.or_eq_left_iff_imp, Bool.and_eq_true, List.isPrefixOf_iff_prefix,
    decide_eq_true_eq]
  intro hp
  obtain ⟨⟨rest, rfl⟩, hlt⟩ := hp
  have hne : rest ≠ [] := by
    rintro rfl
    simp at hlt
  rw [List.dropLast_append_of_ne_nil hne] at h
  exact isFolder_mono (List.prefix_append p rest.dropLast) h

/-! ### Walks -/

/-- What a walk may make of its next name. -/
inductive Turn (d : Disk) (p : Place) (n : Text) : Prop
  | skip (h : n = [])
  | barred (hn : n ≠ []) (h : p ∈ d.closed)
  | stay (hopen : p ∉ d.closed) (h : n = ['.'])
  | up (hopen : p ∉ d.closed) (h : n = ['.', '.'])
  | tooLong (hopen : p ∉ d.closed) (h : maxName < Text.utf8Length n)
  | onward (hopen : p ∉ d.closed) (h : IsProper n)

theorem turn (d : Disk) (p : Place) (n : Text) : d.Turn p n := by
  by_cases hskip : n = []
  · exact .skip hskip
  by_cases hclosed : p ∈ d.closed
  · exact .barred hskip hclosed
  by_cases hstay : n = ['.']
  · exact .stay hclosed hstay
  by_cases hup : n = ['.', '.']
  · exact .up hclosed hup
  by_cases hlong : maxName < Text.utf8Length n
  · exact .tooLong hclosed hlong
  exact .onward hclosed ⟨hskip, hstay, hup, Nat.not_lt.1 hlong⟩

/-- What a walk that comes to an end makes of its next name. -/
inductive Taken (d : Disk) (n : Text) (ns : List Text) (p : Place) : Target → Prop
  | skip {t : Target} (h : n = []) (ht : d.follow p ns = .ok t) : Taken d n ns p t
  | stay {t : Target} (hopen : p ∉ d.closed) (h : n = ['.']) (ht : d.follow p ns = .ok t) :
      Taken d n ns p t
  | up {t : Target} (hopen : p ∉ d.closed) (h : n = ['.', '.'])
      (ht : d.follow p.dropLast ns = .ok t) : Taken d n ns p t
  | down {t : Target} (hopen : p ∉ d.closed) (h : IsProper n) (hfile : d.file? (p ++ [n]) = none)
      (hfolder : d.isFolder (p ++ [n]) = true) (ht : d.follow (p ++ [n]) ns = .ok t) :
      Taken d n ns p t
  | file {stored : Stored} (hopen : p ∉ d.closed) (h : IsProper n)
      (hfile : d.file? (p ++ [n]) = some stored) (hns : ns = []) :
      Taken d n ns p (.file (p ++ [n]) stored)
  | nullDevice (hopen : p ∉ d.closed) (h : IsProper n) (hfile : d.file? (p ++ [n]) = none)
      (hfolder : d.isFolder (p ++ [n]) = false) (hdevice : p ++ [n] = nullDevice) (hns : ns = []) :
      Taken d n ns p .nullDevice
  | vacant (hopen : p ∉ d.closed) (h : IsProper n) (hfile : d.file? (p ++ [n]) = none)
      (hfolder : d.isFolder (p ++ [n]) = false) (hdevice : p ++ [n] ≠ nullDevice) (hns : ns = []) :
      Taken d n ns p (.vacant (p ++ [n]))

theorem follow_skip : d.follow p ([] :: ns) = d.follow p ns := by
  rw [follow, if_pos rfl]

theorem follow_closed (hn : n ≠ []) (h : p ∈ d.closed) :
    d.follow p (n :: ns) = .error .denied := by
  rw [follow, if_neg hn, if_pos h]

section
variable (hopen : p ∉ d.closed)
include hopen

theorem follow_stay : d.follow p (['.'] :: ns) = d.follow p ns := by
  rw [follow, if_neg (List.cons_ne_nil _ _), if_neg hopen, if_pos rfl]

theorem follow_up : d.follow p (['.', '.'] :: ns) = d.follow p.dropLast ns := by
  rw [follow, if_neg (List.cons_ne_nil _ _), if_neg hopen, if_neg (by decide), if_pos rfl]

theorem follow_tooLong (h : maxName < Text.utf8Length n) :
    d.follow p (n :: ns) = .error .nameTooLong := by
  have hne {m : Text} (hm : Text.utf8Length m ≤ maxName) : n ≠ m := by
    rintro rfl
    exact absurd h (Nat.not_lt.2 hm)
  rw [follow, if_neg (hne (by decide)), if_neg hopen, if_neg (hne (by decide)),
    if_neg (hne (by decide)), if_pos h]

theorem follow_proper (h : IsProper n) : d.follow p (n :: ns) =
    match d.file? (p ++ [n]) with
    | some stored => if ns.isEmpty then .ok (.file (p ++ [n]) stored) else .error .notADirectory
    | none =>
      if d.isFolder (p ++ [n]) then d.follow (p ++ [n]) ns
      else if p ++ [n] = nullDevice then
        if ns.isEmpty then .ok .nullDevice else .error .notADirectory
      else if ns.isEmpty then .ok (.vacant (p ++ [n]))
      else .error .missing := by
  rewrite [follow, if_neg h.ne_nil, if_neg hopen, if_neg h.ne_dot, if_neg h.ne_parent,
    if_neg (Nat.not_lt.2 h.fits)]
  rfl

end

theorem follow_of_taken (h : Taken d n ns p t) : d.follow p (n :: ns) = .ok t := by
  cases h with
  | skip h ht =>
    subst h
    rw [follow_skip, ht]
  | stay hopen h ht =>
    subst h
    rw [follow_stay hopen, ht]
  | up hopen h ht =>
    subst h
    rw [follow_up hopen, ht]
  | down hopen h hfile hfolder ht =>
    simp only [follow_proper hopen h, hfile, hfolder, if_true]
    exact ht
  | file hopen h hfile hns => simp [follow_proper hopen h, hfile, hns]
  | nullDevice hopen h hfile hfolder hdevice hns =>
    simp only [follow_proper hopen h, hfile, hfolder, Bool.false_eq_true, if_false, if_pos hdevice]
    simp [hns]
  | vacant hopen h hfile hfolder hdevice hns =>
    simp only [follow_proper hopen h, hfile, hfolder, Bool.false_eq_true, if_false, if_neg hdevice]
    simp [hns]

theorem taken_of_follow (h : d.follow p (n :: ns) = .ok t) : Taken d n ns p t := by
  cases d.turn p n with
  | skip hn =>
    subst hn
    exact .skip rfl (follow_skip.symm.trans h)
  | barred hn hclosed =>
    rw [follow_closed hn hclosed] at h
    cases h
  | stay hopen hn =>
    subst hn
    exact .stay hopen rfl ((follow_stay hopen).symm.trans h)
  | up hopen hn =>
    subst hn
    exact .up hopen rfl ((follow_up hopen).symm.trans h)
  | tooLong hopen hn =>
    rw [follow_tooLong hopen hn] at h
    cases h
  | onward hopen hn =>
    rw [follow_proper hopen hn] at h
    split at h
    case h_1 stored hfile =>
      split at h
      case isTrue hns =>
        cases h
        exact .file hopen hn hfile (List.isEmpty_iff.1 hns)
      case isFalse => cases h
    case h_2 hfile =>
      split at h
      case isTrue hfolder => exact .down hopen hn hfile hfolder h
      case isFalse hfolder =>
        rw [Bool.not_eq_true] at hfolder
        split at h
        case isTrue hdevice =>
          split at h
          case isTrue hns =>
            cases h
            exact .nullDevice hopen hn hfile hfolder hdevice (List.isEmpty_iff.1 hns)
          case isFalse => cases h
        case isFalse hdevice =>
          split at h
          case isTrue hns =>
            cases h
            exact .vacant hopen hn hfile hfolder hdevice (List.isEmpty_iff.1 hns)
          case isFalse => cases h

theorem follow_cons_eq_ok_iff : d.follow p (n :: ns) = .ok t ↔ Taken d n ns p t :=
  ⟨taken_of_follow, follow_of_taken⟩

inductive Ends (d : Disk) (ns : List Text) : Target → Prop
  | folder : Ends d ns .folder
  | file {place : Place} {stored : Stored} (hfile : d.file? place = some stored)
      (hparent : d.isFolder place.dropLast = true) (hlast : place.getLast? = ns.getLast?) :
      Ends d ns (.file place stored)
  | vacant {place : Place} (hfile : d.file? place = none) (hfolder : d.isFolder place = false)
      (hdevice : place ≠ nullDevice) (hparent : d.isFolder place.dropLast = true)
      (hlast : place.getLast? = ns.getLast?) : Ends d ns (.vacant place)
  | nullDevice (hlast : ns.getLast? = some "null".toList) : Ends d ns .nullDevice

theorem ends_of_follow (hp : d.isFolder p = true) (h : d.follow p ns = .ok t) : Ends d ns t := by
  induction ns generalizing p with
  | nil =>
    cases h
    exact .folder
  | cons n ns ih =>
    -- If no name is left, the walk ends in a folder; else the last name is that of the rest.
    have honward {q : Place} (hq : d.isFolder q = true) (ht : d.follow q ns = .ok t) :
        Ends d (n :: ns) t := by
      cases ns with
      | nil =>
        cases ht
        exact .folder
      | cons m ns =>
        cases ih hq ht with
        | folder => exact .folder
        | file hfile hparent hlast => exact .file hfile hparent hlast
        | vacant hfile hfolder hdevice hparent hlast =>
          exact .vacant hfile hfolder hdevice hparent hlast
        | nullDevice hlast => exact .nullDevice hlast
    cases taken_of_follow h with
    | skip _ ht => exact honward hp ht
    | stay _ _ ht => exact honward hp ht
    | up _ _ ht => exact honward (isFolder_mono (List.dropLast_prefix p) hp) ht
    | down _ _ _ hfolder ht => exact honward hfolder ht
    | file _ _ hfile hns => exact .file hfile (by simpa using hp) (by simp [hns])
    | nullDevice _ _ _ _ hdevice hns =>
      have hlast := congrArg List.getLast? hdevice
      rw [List.getLast?_concat] at hlast
      rw [hns]
      exact .nullDevice hlast
    | vacant _ _ hfile hfolder hdevice hns =>
      exact .vacant hfile hfolder hdevice (by simpa using hp) (by simp [hns])

/-- A place for a file: the folder around it is there, and it is no folder itself. -/
structure IsSlot (d : Disk) (place : Place) : Prop where
  parent : d.isFolder place.dropLast = true
  not_folder : d.file? place = none → d.isFolder place = false
  not_device : d.file? place = none → place ≠ nullDevice

def Target.replaced (place : Place) (content : Content) : Target → Target
  | .file q e => .file q (if q = place then { e with content } else e)
  | .vacant q => if q = place then .file q { content } else .vacant q
  | t => t

/-- Every walk that came to an end comes to it again. -/
theorem follow_replace (hslot : d.IsSlot place) (content : Content) (h : d.follow p ns = .ok t) :
    (d.replace place content).follow p ns = .ok (t.replaced place content) := by
  -- By induction on the names; a walk goes down into folders only, and `place` is none of them.
  induction ns generalizing p with
  | nil =>
    cases h
    rfl
  | cons n ns ih =>
    rw [follow_cons_eq_ok_iff] at h ⊢
    have hkept {q : Place} (hfile : d.file? q = none) (hq : q ≠ place) :
        (d.replace place content).file? q = none := by
      rw [file?_replace, if_neg hq, hfile]
    have hfolders := isFolder_replace hslot.parent content
    cases h with
    | skip hn ht => exact .skip hn (ih ht)
    | stay hopen hn ht => exact .stay hopen hn (ih ht)
    | up hopen hn ht => exact .up hopen hn (ih ht)
    | down hopen hn hnone hfolder ht =>
      have hq : p ++ [n] ≠ place := by
        intro hq
        rw [hq] at hnone hfolder
        rw [hslot.not_folder hnone] at hfolder
        cases hfolder
      exact .down hopen hn (hkept hnone hq) ((hfolders _).trans hfolder) (ih ht)
    | file hopen hn hsome hns =>
      refine .file hopen hn ?_ hns
      rw [file?_replace]
      split
      · rename_i hq
        rw [← hq, hsome]
        rfl
      · exact hsome
    | nullDevice hopen hn hnone hfolder hdevice hns =>
      have hq : p ++ [n] ≠ place := by
        intro hq
        rw [hq] at hnone hdevice
        exact hslot.not_device hnone hdevice
      exact .nullDevice hopen hn (hkept hnone hq) ((hfolders _).trans hfolder) hdevice hns
    | vacant hopen hn hnone hfolder hdevice hns =>
      by_cases hq : p ++ [n] = place
      · rw [Target.replaced, if_pos hq]
        refine .file hopen hn ?_ hns
        rw [file?_replace, if_pos hq, ← hq, hnone]
        rfl
      · rw [Target.replaced, if_neg hq]
        exact .vacant hopen hn (hkept hnone hq) ((hfolders _).trans hfolder) hdevice hns

/-! ### Paths -/

section
variable {path : Text} {f : File}

def start (d : Disk) (path : Text) : Place := if path.head? = some '/' then [] else d.home

theorem isFolder_start (d : Disk) (path : Text) : d.isFolder (d.start path) = true := by
  apply isFolder_above_home
  unfold start
  split
  · exact List.nil_prefix
  · exact List.prefix_refl _

theorem target_eq_ok_iff : d.target path = .ok t ↔ path ≠ [] ∧
    Text.utf8Length path ≤ maxPath ∧ d.follow (d.start path) (names path) = .ok t := by
  unfold target
  by_cases hnil : path = []
  · simp [hnil]
  · by_cases hlong : maxPath < Text.utf8Length path
    · simp [hnil, hlong, Nat.not_le.2 hlong]
    · simp [hnil, hlong, Nat.not_lt.1 hlong, start]

theorem ends_of_target (h : d.target path = .ok t) : Ends d (names path) t :=
  ends_of_follow (d.isFolder_start path) (target_eq_ok_iff.1 h).2.2

theorem place?_eq_some_iff :
    d.place? path = some place ↔ ∃ t, d.target path = .ok t ∧ t.place? = some place := by
  unfold place?
  cases h : d.target path <;> simp

theorem getLast?_of_place? (h : d.place? path = some place) :
    place.getLast? = (names path).getLast? := by
  obtain ⟨t, ht, hplace⟩ := place?_eq_some_iff.1 h
  cases ends_of_target ht with
  | file _ _ hlast =>
    cases hplace
    exact hlast
  | vacant _ _ _ _ hlast =>
    cases hplace
    exact hlast
  | _ => cases hplace

theorem isSlot_of_place? (h : d.place? path = some place) : d.IsSlot place := by
  obtain ⟨t, ht, hplace⟩ := place?_eq_some_iff.1 h
  cases ends_of_target ht with
  | file hfile hparent _ =>
    cases hplace
    have hsome : d.file? place ≠ none := by simp [hfile]
    exact ⟨hparent, fun hnone => absurd hnone hsome, fun hnone => absurd hnone hsome⟩
  | vacant _ hfolder hdevice hparent _ =>
    cases hplace
    exact ⟨hparent, fun _ => hfolder, fun _ => hdevice⟩
  | _ => cases hplace

theorem target_replace (hslot : d.IsSlot place) (content : Content) (ht : d.target path = .ok t) :
    (d.replace place content).target path = .ok (t.replaced place content) := by
  rw [target_eq_ok_iff] at ht ⊢
  exact ⟨ht.1, ht.2.1, follow_replace hslot content ht.2.2⟩

theorem read_of_target (h : d.target path = .ok t) : d.read path = t.reading := by
  simp only [read, h]

theorem target_of_read {x : Text} (h : d.read path = .ok x) :
    ∃ t, d.target path = .ok t ∧ t.reading = .ok x := by
  cases ht : d.target path with
  | error e =>
    simp only [read, ht] at h
    cases h
  | ok t => exact ⟨t, rfl, (read_of_target ht).symm.trans h⟩

theorem place?_of_read {x : Text} (h : d.read path = .ok x) (hne : x ≠ []) :
    ∃ source, d.place? path = some source := by
  obtain ⟨t, ht, hreading⟩ := target_of_read h
  cases t with
  | file source stored => exact ⟨source, place?_eq_some_iff.2 ⟨_, ht, rfl⟩⟩
  | folder => cases hreading
  | vacant => cases hreading
  | nullDevice =>
    cases hreading
    exact absurd rfl hne

theorem target_of_refusal (h : d.refusal f = none) :
    ∃ t, d.target f.path = .ok t ∧ t ≠ .folder := by
  cases ht : d.target f.path with
  | error e => simp [refusal, ht] at h
  | ok t =>
    refine ⟨t, rfl, ?_⟩
    rintro rfl
    simp [refusal, ht] at h

theorem write_eq_replace (h : d.place? f.path = some place) (hrefusal : d.refusal f = none) :
    d.write f = d.replace place (.text f.content) := by
  simp only [write, h, if_pos hrefusal]

theorem write_of_no_place (h : d.place? f.path = none) : d.write f = d := by
  simp only [write, h]

theorem write_of_refusal {e : PathError} (h : d.refusal f = some e) : d.write f = d := by
  unfold write
  split
  · rw [if_neg (by simp [h])]
  · rfl

theorem home_write (d : Disk) (f : File) : (d.write f).home = d.home := by
  unfold write
  split
  · split <;> rfl
  · rfl

theorem Target.replaced_of_ne (h : t.place? ≠ some place) (content : Content) :
    t.replaced place content = t := by
  cases t with
  | file q e =>
    have hq : q ≠ place := fun hq => h (congrArg some hq)
    rw [replaced, if_neg hq]
  | vacant q =>
    have hq : q ≠ place := fun hq => h (congrArg some hq)
    rw [replaced, if_neg hq]
  | _ => rfl

/-- Between two disks the content of one place differs, and nothing else. -/
structure ChangedAt (d d' : Disk) (place : Place) (content : Content) : Prop where
  file : d'.file? place = some (refill content (d.file? place))
  others : ∀ p, p ≠ place → d'.file? p = d.file? p
  folders : ∀ p, d'.isFolder p = d.isFolder p
  /-- What could be read at a path to another place still can. -/
  readings : ∀ path x, d.place? path ≠ some place → d.read path = .ok x → d'.read path = .ok x

theorem changedAt_write (h : d.place? f.path = some place) (hrefusal : d.refusal f = none) :
    d.ChangedAt (d.write f) place (.text f.content) := by
  have hslot := isSlot_of_place? h
  rw [write_eq_replace h hrefusal]
  refine ⟨?file, ?others, isFolder_replace hslot.parent _, ?readings⟩
  case file => rw [file?_replace, if_pos rfl]
  case others =>
    intro p hp
    rw [file?_replace, if_neg hp]
  case readings =>
    intro path x hpath hread
    obtain ⟨t, ht, hx⟩ := target_of_read hread
    have hplace : t.place? ≠ some place := fun hp => hpath (place?_eq_some_iff.2 ⟨t, ht, hp⟩)
    rw [read_of_target (target_replace hslot _ ht), Target.replaced_of_ne hplace, hx]

theorem read_write (h : d.place? f.path = some place) (hrefusal : d.refusal f = none)
    (hfault : ∀ e, d.file? place = some e → e.fault = none) :
    (d.write f).read f.path = .ok f.content := by
  obtain ⟨t, ht, hplace⟩ := place?_eq_some_iff.1 h
  have htarget := target_replace (isSlot_of_place? h) (.text f.content) ht
  rw [write_eq_replace h hrefusal, read_of_target htarget]
  cases ends_of_target ht with
  | file hfile =>
    cases hplace
    simp [Target.replaced, Target.reading, Stored.reading, hfault _ hfile, Content.reading]
  | vacant =>
    cases hplace
    simp [Target.replaced, Target.reading, Stored.reading, Content.reading]
  | _ => cases hplace

end

end FluentBuilder.Disk

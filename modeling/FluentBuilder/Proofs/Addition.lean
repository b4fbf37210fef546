import FluentBuilder.Proofs.Disk

/-! A disk with one file more. Paths that do not name it lead where they led without it, and what is
written along them goes to the same places. -/
namespace FluentBuilder.Disk
variable {d d' : Disk} {place p q : Place} {content : Content} {name path : Text} {f : File}
  {ns : List Text}

structure SameBut (d d' : Disk) (place : Place) : Prop where
  others : ∀ p, p ≠ place → d'.file? p = d.file? p
  folders : ∀ p, d'.isFolder p = d.isFolder p

theorem SameBut.refl (d : Disk) (place : Place) : d.SameBut d place :=
  ⟨fun _ _ => rfl, fun _ => rfl⟩

/-- The second disk has a file at one place, where the first has nothing. -/
structure Gains (d d' : Disk) (place : Place) (content : Content) : Prop
    extends SameBut d d' place where
  absent : d.file? place = none
  not_folder : d.isFolder place = false
  not_device : place ≠ nullDevice
  file : d'.file? place = some { content }
  home : d'.home = d.home
  closed : d'.closed = d.closed
  refuses : d'.refuses = d.refuses

/-- What the file changes at the end of a walk. -/
inductive Met (place : Place) (content : Content) :
    Except PathError Target → Except PathError Target → Prop
  | filled : Met place content (.ok (.vacant place)) (.ok (.file place { content }))
  | passed : Met place content (.error .missing) (.error .notADirectory)

namespace Gains

theorem of_replace (hslot : d.IsSlot place) (hfile : d.file? place = none) (content : Content) :
    d.Gains (d.replace place content) place content where
  others p hp := by rw [file?_replace, if_neg hp]
  folders p := isFolder_replace hslot.parent content p
  absent := hfile
  not_folder := hslot.not_folder hfile
  not_device := hslot.not_device hfile
  file := by
    rw [file?_replace, if_pos rfl, hfile]
    rfl
  home := rfl
  closed := rfl
  refuses := rfl

theorem replace (h : d.Gains d' place content) (hq : q ≠ place)
    (hparent : d.isFolder q.dropLast = true) (c : Content) :
    (d.replace q c).Gains (d'.replace q c) place content where
  others p hp := by rw [file?_replace, file?_replace, h.others p hp, h.others q hq]
  folders p := by
    rw [isFolder_replace hparent, isFolder_replace ((h.folders _).trans hparent), h.folders]
  absent := by rw [file?_replace, if_neg hq.symm, h.absent]
  not_folder := by rw [isFolder_replace hparent, h.not_folder]
  not_device := h.not_device
  file := by rw [file?_replace, if_neg hq.symm, h.file]
  home := h.home
  closed := h.closed
  refuses := h.refuses

section
variable (h : d.Gains d' place content) (hname : place.getLast? = some name)
include h hname

/-- Only a walk with the name of the file among its names may tell the disks apart. -/
theorem follow_eq_or (p : Place) (ns : List Text) : d'.follow p ns = d.follow p ns ∨
    name ∈ ns ∧ Met place content (d.follow p ns) (d'.follow p ns) := by
  induction ns generalizing p with
  | nil => exact .inl rfl
  | cons n ns ih =>
    have honward (q : Place) : d'.follow q ns = d.follow q ns ∨
        name ∈ n :: ns ∧ Met place content (d.follow q ns) (d'.follow q ns) :=
      (ih q).imp_right fun ⟨hmem, hmet⟩ => ⟨List.mem_cons_of_mem n hmem, hmet⟩
    have hclosed {q : Place} (hq : q ∉ d.closed) : q ∉ d'.closed := by rwa [h.closed]
    cases d.turn p n with
    | skip hn =>
      subst hn
      rw [follow_skip, follow_skip]
      exact honward p
    | barred hn hp => exact .inl (by rw [follow_closed hn hp, follow_closed hn (h.closed ▸ hp)])
    | stay hopen hn =>
      subst hn
      rw [follow_stay hopen, follow_stay (hclosed hopen)]
      exact honward p
    | up hopen hn =>
      subst hn
      rw [follow_up hopen, follow_up (hclosed hopen)]
      exact honward _
    | tooLong hopen hn =>
      exact .inl (by rw [follow_tooLong hopen hn, follow_tooLong (hclosed hopen) hn])
    | onward hopen hn =>
      rw [follow_proper hopen hn, follow_proper (hclosed hopen) hn]
      by_cases hp : p ++ [n] = place
      · have hmem : name ∈ n :: ns := by
          rw [← hp, List.getLast?_concat, Option.some_inj] at hname
          exact hname ▸ List.mem_cons_self
        simp only [hp, h.absent, h.file, h.not_folder, h.not_device, Bool.false_eq_true, if_false]
        cases ns with
        | nil => exact .inr ⟨hmem, .filled⟩
        | cons m ns => exact .inr ⟨hmem, .passed⟩
      · simp only [h.others _ hp, h.folders]
        cases d.file? (p ++ [n]) with
        | some stored => exact .inl rfl
        | none =>
          cases d.isFolder (p ++ [n]) with
          | true => exact honward _
          | false => exact .inl rfl

theorem target_eq_or (path : Text) : d'.target path = d.target path ∨
    name ∈ names path ∧ Met place content (d.target path) (d'.target path) := by
  unfold target
  rw [h.home]
  split
  · exact .inl rfl
  · split
    · exact .inl rfl
    · exact h.follow_eq_or hname _ _

variable (hpath : name ∉ names path)
include hpath

theorem target_eq : d'.target path = d.target path :=
  (h.target_eq_or hname path).resolve_right fun hmet => hpath hmet.1

theorem read_eq : d'.read path = d.read path := by
  rw [read, read, h.target_eq hname hpath]

theorem place?_eq : d'.place? path = d.place? path := by
  rw [place?, place?, h.target_eq hname hpath]

end

section
variable (h : d.Gains d' place content) (hname : place.getLast? = some name)
  (hpath : name ∉ names f.path)
include h hname hpath

theorem refusal_eq : d'.refusal f = d.refusal f := by
  rw [refusal, refusal, h.target_eq hname hpath, h.refuses]

theorem write : (d.write f).Gains (d'.write f) place content := by
  have hrefusal := h.refusal_eq hname hpath
  have hplaces := h.place?_eq hname hpath
  cases hr : d.refusal f with
  | some e =>
    rw [write_of_refusal hr, write_of_refusal (hrefusal.trans hr)]
    exact h
  | none =>
    cases hplace : d.place? f.path with
    | none =>
      rw [write_of_no_place hplace, write_of_no_place (hplaces.trans hplace)]
      exact h
    | some q =>
      have hq : q ≠ place := by
        rintro rfl
        have hlast := getLast?_of_place? hplace
        exact hpath (List.mem_of_getLast? (hlast.symm.trans hname))
      rw [write_eq_replace hplace hr,
        write_eq_replace (hplaces.trans hplace) (hrefusal.trans hr)]
      exact h.replace hq (isSlot_of_place? hplace).parent _

end

theorem foldl_write (h : d.Gains d' place content) (hname : place.getLast? = some name)
    {fs : List File} (hfs : ∀ f ∈ fs, name ∉ names f.path) :
    (fs.foldl Disk.write d).Gains (fs.foldl Disk.write d') place content := by
  induction fs generalizing d d' with
  | nil => exact h
  | cons f fs ih =>
    obtain ⟨hf, hfs⟩ := List.forall_mem_cons.1 hfs
    exact ih (h.write hname hf) hfs

end Gains

end FluentBuilder.Disk

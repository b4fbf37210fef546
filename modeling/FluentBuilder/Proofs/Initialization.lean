import FluentBuilder.Proofs.Addition
import FluentBuilder.Proofs.Commands
import Mathlib.Data.List.Infix

/-! Starting a configuration file. One that is there is kept; and as a new one spells out the
defaults, no command on other files tells whether it is there. -/
namespace FluentBuilder
open Disk

theorem Config.load_defaultContent : load (.ok defaultContent) = .ok (some {}) := by
  decide +kernel

theorem fileName_not_mem_names_outputPath {path : Text} (h : Config.fileName ∉ names path) :
    Config.fileName ∉ names (outputPath path) := by
  obtain ⟨folders, name, hpath, houtput⟩ := names_builderFile path
  obtain ⟨stem, extension, hnamed⟩ := exists_named (splitFolder path).2
  rw [hpath, List.mem_append, not_or] at h
  rw [houtput, List.mem_append, not_or, List.mem_singleton]
  refine ⟨h.1, fun he => ?_⟩
  have hconfig : Named Config.fileName ".i2b".toList (some "yaml".toList) :=
    .dotted (by decide) (by decide) (by decide)
  have hbuilder := hnamed.builderFile.prepend nofun name
  rw [← he] at hbuilder
  have hstem := hconfig.splitExtension_eq.symm.trans hbuilder.splitExtension_eq
  have hlength := congrArg (List.length ∘ Prod.fst) hstem
  have hsuffix := length_stemSuffix stem
  simp only [Function.comp_apply, List.length_append] at hlength
  have hfour : ".i2b".toList.length = 4 := by decide
  omega

/-- A command under the configuration of the working directory, on a path that does not name it. -/
def Command.Avoids (name : Text) : Command → Prop
  | generate input none _ => name ∉ names input
  | inspect input _ => name ∉ names input
  | _ => False

namespace View
variable {v v' : View} {c : Command}

structure Agrees (v v' : View) : Prop where
  cwd : v'.cwd = v.cwd
  config : v'.config none = v.config none
  read : ∀ path, Config.fileName ∉ names path → v'.read path = v.read path
  refusal : ∀ f : File, Config.fileName ∉ names f.path → v'.refusal f = v.refusal f

theorem run_eq (h : v.Agrees v') (hc : c.Avoids Config.fileName) : v'.run c = v.run c := by
  cases c with
  | generate input workspace printOnly =>
    cases workspace with
    | some folder => cases hc
    | none =>
      have hdocument : v'.document input = v.document input := by
        rw [document, document, h.read input hc]
      have hmade : v'.made input none = v.made input none := by
        simp only [made, h.config, h.cwd, hdocument, Option.getD_none]
      rw [run_generate, run_generate, hmade]
      cases hfile : v.made input none with
      | error o => rfl
      | ok file =>
        have hpath : Config.fileName ∉ names file.path := by
          rw [path_of_made hfile]
          exact fileName_not_mem_names_outputPath hc
        simp only [deliver, h.refusal _ hpath]
  | inspect input format =>
    have hinspect : v'.inspect input format = v.inspect input format := by
      simp only [inspect, h.config, h.read input hc]
    rw [run, run, hinspect]
  | _ => cases hc

theorem names_of_mem_writes (hc : c.Avoids Config.fileName) :
    ∀ f ∈ (v.run c).writes, Config.fileName ∉ names f.path := by
  intro f hf
  cases c with
  | generate input workspace printOnly =>
    cases workspace with
    | some folder => cases hc
    | none =>
      rw [path_of_mem_writes hf]
      exact fileName_not_mem_names_outputPath hc
  | inspect input format =>
    rw [writes_inspect] at hf
    cases hf
  | _ => cases hc

/-- The courses of an initialization: all is kept, or a file with the defaults is put. -/
inductive Initialized (v : View) (force : Bool) (o : Outcome) : Prop
  | kept (h : (v.read Config.fileName).isPresent = true ∧ force = false ∨
        v.refusal Config.defaultFile ≠ none)
      (hexit : o.exit = 1) (hwrites : o.writes = [])
  | created (h : (v.read Config.fileName).isPresent = true → force = true)
      (hrefusal : v.refusal Config.defaultFile = none) (hexit : o.exit = 0)
      (hwrites : o.writes = [Config.defaultFile])

theorem initialized (v : View) (force : Bool) : v.Initialized force (v.run (.init force)) := by
  have hrun : v.run (.init force) = v.init force := rfl
  rw [hrun, init]
  by_cases hpresent : (v.read Config.fileName).isPresent = true ∧ force = false
  · rw [if_pos (by simp [hpresent])]
    exact .kept (.inl hpresent) rfl rfl
  · rw [if_neg (by simpa using hpresent)]
    cases hrefusal : v.refusal Config.defaultFile with
    | some e => exact .kept (.inr (by simp [hrefusal])) rfl rfl
    | none => exact .created (by simpa using hpresent) hrefusal rfl rfl

end View

namespace Disk
variable {d d' : Disk} {c : Command} {force again : Bool}

def Occupied (d : Disk) (place : Place) : Prop :=
  (∃ stored, d.file? place = some stored) ∨ d.isFolder place = true

def configPlace (d : Disk) : Place := d.home ++ [Config.fileName]

def perform (d : Disk) (c : Command) : Disk := d.after (d.view.run c)

def outcomes (d : Disk) : List Command → List Outcome
  | [] => []
  | c :: cs => d.view.run c :: (d.perform c).outcomes cs

def performAll (d : Disk) : List Command → Disk
  | [] => d
  | c :: cs => (d.perform c).performAll cs

theorem configPlace_perform (d : Disk) (c : Command) :
    (d.perform c).configPlace = d.configPlace := by
  have hhome : (d.perform c).home = d.home := by
    rw [perform, after]
    generalize (d.view.run c).writes = fs
    induction fs generalizing d with
    | nil => rfl
    | cons f fs ih => exact (ih (d.write f)).trans (d.home_write f)
  rw [configPlace, hhome, configPlace]

theorem configPlace_ne_nullDevice (d : Disk) : d.configPlace ≠ nullDevice := by
  intro h
  have hlast := congrArg List.getLast? h
  rw [configPlace, List.getLast?_concat] at hlast
  exact absurd hlast (by decide)

theorem target_fileName (d : Disk) : d.target Config.fileName =
    if d.home ∈ d.closed then .error .denied
    else
      match d.file? d.configPlace with
      | some stored => .ok (.file d.configPlace stored)
      | none => if d.isFolder d.configPlace then .ok .folder else .ok (.vacant d.configPlace) := by
  have hnames : names Config.fileName = [Config.fileName] := names_of_not_mem (by decide)
  have htarget : d.target Config.fileName = d.follow d.home [Config.fileName] := by
    rw [target, if_neg (by decide), if_neg (by decide), if_neg (by decide), hnames]
  rw [htarget]
  by_cases hclosed : d.home ∈ d.closed
  · rw [if_pos hclosed, follow_closed (by decide) hclosed]
  · have hproper : IsProper Config.fileName := by decide
    have hdevice : d.home ++ [Config.fileName] ≠ nullDevice := d.configPlace_ne_nullDevice
    rw [if_neg hclosed, follow_proper hclosed hproper]
    simp only [configPlace, List.isEmpty_nil, if_true, hdevice, if_false]
    rfl

theorem isPresent_reading (stored : Stored) : stored.reading.isPresent = true := by
  obtain ⟨content, fault⟩ := stored
  cases fault with
  | some why => rfl
  | none => cases content <;> rfl

theorem place?_fileName (h : d.refusal Config.defaultFile = none) :
    d.place? Config.fileName = some d.configPlace ∧
      ((d.read Config.fileName).isPresent = true ↔ d.Occupied d.configPlace) := by
  obtain ⟨t, ht, hne⟩ : ∃ t, d.target Config.fileName = .ok t ∧ t ≠ .folder :=
    target_of_refusal h
  have htarget := ht.symm.trans d.target_fileName
  rw [read_of_target ht]
  split at htarget
  case isTrue => cases htarget
  case isFalse =>
    split at htarget
    case h_1 stored hfile =>
      cases htarget
      exact ⟨place?_eq_some_iff.2 ⟨_, ht, rfl⟩,
        iff_of_true (isPresent_reading stored) (.inl ⟨stored, hfile⟩)⟩
    case h_2 hfile =>
      split at htarget
      case isTrue =>
        cases htarget
        exact absurd rfl hne
      case isFalse hfolder =>
        cases htarget
        refine ⟨place?_eq_some_iff.2 ⟨_, ht, rfl⟩, iff_of_false Bool.false_ne_true ?_⟩
        simp [Occupied, hfile, hfolder]

theorem perform_of_no_writes (h : (d.view.run c).writes = []) : d.perform c = d :=
  after_of_no_writes h

theorem perform_of_created (hrefusal : d.refusal Config.defaultFile = none)
    (hwrites : (d.view.run c).writes = [Config.defaultFile]) :
    d.perform c = d.replace d.configPlace (.text Config.defaultContent) :=
  (after_of_writes hwrites).trans (write_eq_replace (place?_fileName hrefusal).1 hrefusal)

/-- A second initialization finds the file, or what kept the first from making one. -/
theorem perform_init_twice (d : Disk) (h : again = true → force = true) :
    (d.perform (.init force)).perform (.init again) = d.perform (.init force) := by
  cases d.view.initialized force with
  | kept hkept _ hwrites =>
    rw [perform_of_no_writes hwrites]
    cases d.view.initialized again with
    | kept _ _ hwrites' => exact perform_of_no_writes hwrites'
    | created hagain hrefusal =>
      obtain ⟨hpresent, hforce⟩ := hkept.resolve_right fun hr => hr hrefusal
      rw [h (hagain hpresent)] at hforce
      cases hforce
  | created _ hrefusal _ hwrites =>
    rw [perform_of_created hrefusal hwrites]
    cases (d.replace _ _).view.initialized again with
    | kept _ _ hwrites' => exact perform_of_no_writes hwrites'
    | created _ hrefusal' _ hwrites' =>
      rw [perform_of_created hrefusal' hwrites']
      simp only [replace, configPlace, put_put]

theorem kept_of_occupied (h : d.Occupied d.configPlace) :
    (d.view.run (.init false)).exit = 1 ∧ d.perform (.init false) = d := by
  cases d.view.initialized false with
  | kept _ hexit hwrites => exact ⟨hexit, perform_of_no_writes hwrites⟩
  | created hforce hrefusal => cases hforce ((place?_fileName hrefusal).2.2 h)

/-- Where there is nothing, the file is made, or refused and all is kept. -/
theorem gains_or_kept (h : ¬ d.Occupied d.configPlace) (force : Bool) :
    (d.refusal Config.defaultFile = none → (d.view.run (.init force)).exit = 0 ∧
      d.Gains (d.perform (.init force)) d.configPlace (.text Config.defaultContent)) ∧
    (d.refusal Config.defaultFile ≠ none →
      (d.view.run (.init force)).exit = 1 ∧ d.perform (.init force) = d) := by
  have hnone : d.file? d.configPlace = none := by
    rw [Occupied, not_or, not_exists] at h
    exact Option.eq_none_iff_forall_ne_some.2 h.1
  cases d.view.initialized force with
  | kept hkept hexit hwrites =>
    refine ⟨fun hrefusal => ?_, fun _ => ⟨hexit, perform_of_no_writes hwrites⟩⟩
    obtain ⟨hpresent, _⟩ := hkept.resolve_right fun hr => hr hrefusal
    exact absurd ((place?_fileName hrefusal).2.1 hpresent) h
  | created _ hrefusal hexit hwrites =>
    refine ⟨fun _ => ⟨hexit, ?_⟩, fun hr => absurd hrefusal hr⟩
    rw [perform_of_created hrefusal hwrites]
    exact .of_replace (isSlot_of_place? (place?_fileName hrefusal).1) hnone _

namespace Gains
variable (h : d.Gains d' d.configPlace (.text Config.defaultContent))
include h

theorem cwd_eq : d'.cwd = d.cwd := by
  rw [cwd, cwd, h.home]

theorem isOpen (hopen : d.IsOpen) : d'.IsOpen where
  passes p hp hne := by
    rw [h.closed]
    rw [h.home] at hp hne
    exact hopen.passes p hp hne
  no_file p hp := by
    rw [h.home] at hp
    have hne : p ≠ d.configPlace := by
      rintro rfl
      have hlength := hp.length_le
      rw [configPlace, List.length_append, List.length_singleton] at hlength
      omega
    rw [h.others p hne, hopen.no_file p hp]

theorem read_configPath (hrefusal : d.refusal Config.defaultFile = none) (hopen : d.IsOpen)
    (hlong : Text.utf8Length (configPath d.cwd none) ≤ maxPath) :
    d'.read (configPath d.cwd none) = .ok Config.defaultContent := by
  have hhome : d.home ∉ d.closed := by
    intro hclosed
    have hplace := (place?_fileName hrefusal).1
    rw [place?, target_fileName, if_pos hclosed] at hplace
    cases hplace
  have hplace : d'.configPlace = d.configPlace := by rw [configPlace, configPlace, h.home]
  have htarget : d'.target (configPath d.cwd none) = d'.target Config.fileName := by
    rw [← h.cwd_eq] at hlong ⊢
    exact target_join_cwd (h.isOpen hopen) (by decide) (by decide) hlong
  rw [target_fileName, h.home, h.closed, if_neg hhome, hplace, h.file] at htarget
  rw [read_of_target htarget]
  rfl

/-- The new file says what holds without one. -/
theorem config_eq : d'.view.config none = d.view.config none := by
  have hload : Config.load (.absent .missing) = .ok none := rfl
  simp only [View.config, view, h.cwd_eq, read]
  obtain heq | ⟨_, hmet⟩ := h.target_eq_or List.getLast?_concat (configPath d.cwd none)
  · rw [heq]
  · generalize d.target (configPath d.cwd none) = x at hmet ⊢
    generalize d'.target (configPath d.cwd none) = x' at hmet ⊢
    cases hmet with
    | filled =>
      simp [Target.reading, Stored.reading, Content.reading, hload, Config.load_defaultContent]
    | passed => rfl

theorem agrees : d.view.Agrees d'.view := by
  have hname : d.configPlace.getLast? = some Config.fileName := List.getLast?_concat
  exact ⟨h.cwd_eq, h.config_eq, fun _ => h.read_eq hname, fun _ => h.refusal_eq hname⟩

theorem perform (hc : c.Avoids Config.fileName) :
    (d.perform c).Gains (d'.perform c) d.configPlace (.text Config.defaultContent) := by
  rw [Disk.perform, Disk.perform, View.run_eq h.agrees hc]
  exact h.foldl_write List.getLast?_concat (View.names_of_mem_writes hc)

/-- Commands on other files neither find the file nor change it. -/
theorem performAll {cs : List Command} (hcs : ∀ c ∈ cs, c.Avoids Config.fileName) :
    d'.outcomes cs = d.outcomes cs ∧
    (d.performAll cs).Gains (d'.performAll cs) d.configPlace (.text Config.defaultContent) := by
  induction cs generalizing d d' with
  | nil => exact ⟨rfl, h⟩
  | cons c cs ih =>
    obtain ⟨hc, hcs⟩ := List.forall_mem_cons.1 hcs
    have hnext := h.perform hc
    rw [← d.configPlace_perform c] at hnext
    obtain ⟨houtcomes, hgains⟩ := ih hnext hcs
    rw [configPlace_perform] at hgains
    refine ⟨?_, hgains⟩
    rw [outcomes, outcomes, View.run_eq h.agrees hc, houtcomes]

end Gains

end Disk

/-- An initialization keeps what is there and adds nothing the second time. Commands under the
configuration it makes end as without it, one after the other, and leave the same files besides. -/
theorem init_neutral (d : Disk) :
    (d.Occupied d.configPlace →
      (d.view.run (.init false)).exit = 1 ∧ d.perform (.init false) = d) ∧
    (∀ force again, (again = true → force = true) →
      (d.perform (.init force)).perform (.init again) = d.perform (.init force)) ∧
    (¬ d.Occupied d.configPlace → ∀ force,
      let d' := d.perform (.init force)
      (d.refusal Config.defaultFile = none → (d.view.run (.init force)).exit = 0 ∧
        d.Gains d' d.configPlace (.text Config.defaultContent) ∧
        (d.IsOpen → Text.utf8Length (configPath d.cwd none) ≤ maxPath →
          d'.read (configPath d.cwd none) = .ok Config.defaultContent)) ∧
      (d.refusal Config.defaultFile ≠ none → (d.view.run (.init force)).exit = 1 ∧ d' = d) ∧
      ∀ commands, (∀ c ∈ commands, c.Avoids Config.fileName) →
        d'.outcomes commands = d.outcomes commands ∧
        (d.performAll commands).SameBut (d'.performAll commands) d.configPlace) := by
  refine ⟨kept_of_occupied, fun _ _ => d.perform_init_twice, ?_⟩
  intro h force d'
  obtain ⟨hmade, hrefused⟩ := gains_or_kept h force
  refine ⟨fun hrefusal => ?_, hrefused, fun commands hcommands => ?_⟩
  · obtain ⟨hexit, hgains⟩ := hmade hrefusal
    exact ⟨hexit, hgains, hgains.read_configPath hrefusal⟩
  by_cases hrefusal : d.refusal Config.defaultFile = none
  · obtain ⟨houtcomes, hgains⟩ := (hmade hrefusal).2.performAll hcommands
    exact ⟨houtcomes, hgains.toSameBut⟩
  · have hsame : d' = d := (hrefused hrefusal).2
    rw [hsame]
    exact ⟨rfl, .refl _ _⟩

def sheet : Disk where
  home := ["tmp".toList]
  files := [(["tmp".toList, notes.path], { content := .text notes.text })]

theorem init_neutral_sheet :
    let commands := [.inspect notes.path .json, .generate "/tmp/notes.ts".toList none true,
      .generate notes.path none false, .inspect (outputPath notes.path) .yaml]
    let d := sheet.perform (.init false)
    ¬ sheet.Occupied sheet.configPlace ∧ sheet.refusal Config.defaultFile = none ∧
      d.read "/tmp/.i2b.yaml".toList = .ok Config.defaultContent ∧
      (d.view.run (.init false)).exit = 1 ∧ d.perform (.init false) = d ∧
      d.outcomes commands = sheet.outcomes commands ∧
      (sheet.outcomes commands).map Outcome.exit = [0, 0, 0, 1] := by
  intro commands d
  have hfree : ¬ sheet.Occupied sheet.configPlace := by
    rintro (⟨_, hfile⟩ | hfolder)
    · exact nomatch hfile
    · exact absurd hfolder (by decide)
  have hrefusal : sheet.refusal Config.defaultFile = none := by decide
  have havoids : ∀ c ∈ commands, c.Avoids Config.fileName := by
    simp only [commands, List.forall_mem_cons, Command.Avoids]
    exact ⟨by decide, by decide, by decide, by decide, nofun⟩
  have hopen : sheet.IsOpen := by
    refine ⟨fun _ _ _ => List.not_mem_nil, fun p hp => ?_⟩
    have hnone : ∀ p ∈ sheet.home.inits, sheet.file? p = none := by decide
    exact hnone p ((List.mem_inits p _).2 hp)
  obtain ⟨_, htwice, hcreated⟩ := init_neutral sheet
  obtain ⟨hmade, _, hlater⟩ := hcreated hfree false
  obtain ⟨_, hgains, hread⟩ := hmade hrefusal
  have hoccupied : d.Occupied d.configPlace := by
    rw [sheet.configPlace_perform]
    exact .inl ⟨_, hgains.file⟩
  exact ⟨hfree, hrefusal, hread hopen (by decide), ((init_neutral d).1 hoccupied).1,
    htwice false false nofun, (hlater commands havoids).1, by decide +kernel⟩

end FluentBuilder

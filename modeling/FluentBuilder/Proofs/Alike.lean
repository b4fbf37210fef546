import FluentBuilder.Proofs.Course
import FluentBuilder.Proofs.Declaration
import FluentBuilder.Proofs.Extraction

/-! Texts that the analysis does not tell apart, but for their style: one with other line breaks,
and one with more lines before it. -/
namespace FluentBuilder
open Text Interface
variable {t u x y : Text} {c : Char} {config : Config}

/-- Each check and each scan answers the same on both texts. -/
structure Alike (t u : Text) : Prop where
  empty : t = [] ↔ u = []
  callable : hasCallable u = hasCallable t
  marked : hasMarker u = hasMarker t
  name : name? u = name? t
  names : propertyNames u = propertyNames t
  types : typeExpressions u = typeExpressions t

namespace Alike

theorem refl (t : Text) : Alike t t := ⟨Iff.rfl, rfl, rfl, rfl, rfl, rfl⟩

variable (h : Alike t u)
include h

theorem byPattern_eq : byPattern u = byPattern t := by
  simp only [byPattern, extractPropertyNames, extractTypeExpressions, h.names, h.types]

theorem admitted (ht : Admitted t) : Admitted u :=
  ⟨fun hu => ht.ne_nil (h.empty.2 hu), h.callable.trans ht.no_call, h.marked.trans ht.marked⟩

theorem result_analyze (config : Config) : (analyze u config byPattern).result =
    (analyze t config byPattern).result.map fun d => { d with style := config.style u } := by
  have hend := analyzed t config byPattern
  generalize analyze t config byPattern = r at hend
  cases hend with
  | noText ht =>
    rw [eq_of_analyzed (.noText (h.empty.1 ht))]
    rfl
  | callable ht hc =>
    rw [eq_of_analyzed (.callable (h.empty.not.1 ht) (h.callable.trans hc))]
    rfl
  | unmarked ht hc hm =>
    rw [eq_of_analyzed (.unmarked (h.empty.not.1 ht) (h.callable.trans hc) (h.marked.trans hm))]
    rfl
  | wide ht hw =>
    rw [eq_of_analyzed (.wide (h.admitted ht) hw)]
    rfl
  | unnamed ht hw hn =>
    rw [eq_of_analyzed (.unnamed (h.admitted ht) hw (h.name.trans hn))]
    rfl
  | refused ht hw hn hx =>
    rw [← h.byPattern_eq] at hx
    rw [eq_of_analyzed (.refused (h.admitted ht) hw (h.name.trans hn) hx)]
    rfl
  | declared ht hw hn hx =>
    rw [← h.byPattern_eq] at hx
    rw [eq_of_analyzed (.declared (h.admitted ht) hw (h.name.trans hn) hx)]
    rfl

end Alike

/-! ### Line breaks -/

def withCrlf (t : Text) : Text := t.flatMap fun c => if c = '\n' then ['\r', '\n'] else [c]

theorem withCrlf_newline (t : Text) : withCrlf ('\n' :: t) = '\r' :: '\n' :: withCrlf t := rfl

theorem withCrlf_cons (hc : c ≠ '\n') (t : Text) : withCrlf (c :: t) = c :: withCrlf t := by
  simp [withCrlf, hc]

theorem withCrlf_of_not_mem (hx : '\n' ∉ x) : withCrlf x = x := by
  induction x with
  | nil => rfl
  | cons c x ih =>
    rw [List.mem_cons, not_or] at hx
    obtain ⟨hc, hx⟩ := hx
    rw [withCrlf_cons (Ne.symm hc), ih hx]

theorem withCrlf_append_newline (hx : '\n' ∉ x) (y : Text) :
    withCrlf (x ++ '\n' :: y) = x ++ '\r' :: '\n' :: withCrlf y := by
  rw [withCrlf, List.flatMap_append, ← withCrlf, ← withCrlf, withCrlf_of_not_mem hx,
    withCrlf_newline]

theorem line_induction {motive : Text → Prop} (last : ∀ x, '\n' ∉ x → motive x)
    (line : ∀ x y, '\n' ∉ x → motive y → motive (x ++ '\n' :: y)) (t : Text) : motive t := by
  induction hn : t.length using Nat.strongRecOn generalizing t with
  | ind n ih =>
    by_cases ht : '\n' ∈ t
    · obtain ⟨x, y, rfl, hx⟩ := List.eq_append_cons_of_mem ht
      have hlen : y.length < n := by
        rw [← hn, List.length_append, List.length_cons]
        omega
      exact line x y hx (ih y.length hlen y rfl)
    · exact last t ht

/-- What is put together from the parts before and after a character of a line break does not depend
on which line break it is. No part may end with a colon: the blank after it could be the break. -/
theorem eq_withCrlf {α : Type} {f : Text → α} (join : α → α → α)
    (hcut : ∀ s, s = '\r' ∨ s = '\n' → ∀ x y, ¬ [':'] <:+ x → f (x ++ s :: y) = join (f x) (f y))
    (hunit : ∀ y, join (f []) (f y) = f y) (ht : ¬ [':', '\n'] <:+: t) : f (withCrlf t) = f t := by
  induction t using line_induction with
  | last x hx => rw [withCrlf_of_not_mem hx]
  | line x y hx ih =>
    have hcolon : ¬ [':'] <:+ x := by
      intro hend
      obtain ⟨z, rfl⟩ := hend
      exact ht ⟨z, y, by simp⟩
    have hy : ¬ [':', '\n'] <:+: y := by
      intro hin
      exact ht (hin.trans ⟨x ++ ['\n'], [], by simp⟩)
    have hnewline : f ('\n' :: withCrlf y) = f (withCrlf y) := by
      have hskip := hcut '\n' (.inr rfl) [] (withCrlf y) (by simp)
      rwa [List.nil_append, hunit] at hskip
    rw [withCrlf_append_newline hx, hcut '\r' (.inl rfl) x _ hcolon, hnewline, ih hy,
      hcut '\n' (.inr rfl) x y hcolon]

theorem after?_withCrlf {p : Text} (hn : '\n' ∉ p) (hr : '\r' ∉ p) (t : Text) :
    after? p (withCrlf t) = (after? p t).map withCrlf := by
  induction p generalizing t with
  | nil => rfl
  | cons a p ih =>
    rw [List.mem_cons, not_or] at hn hr
    obtain ⟨han, hn⟩ := hn
    obtain ⟨har, hr⟩ := hr
    cases t with
    | nil => rfl
    | cons c t =>
      by_cases hc : c = '\n'
      · rw [hc, withCrlf_newline, after?, after?, if_neg (Ne.symm har), if_neg (Ne.symm han)]
        rfl
      · rw [withCrlf_cons hc, after?, after?]
        by_cases ha : a = c
        · rw [if_pos ha, if_pos ha, ih hn hr]
        · rw [if_neg ha, if_neg ha]
          rfl

theorem dropWhile_isBlank_withCrlf (t : Text) :
    (withCrlf t).dropWhile isBlank = withCrlf (t.dropWhile isBlank) := by
  have hr : isBlank '\r' = true := by decide
  have hn : isBlank '\n' = true := by decide
  induction t with
  | nil => rfl
  | cons c t ih =>
    by_cases hc : c = '\n'
    · rw [hc, withCrlf_newline]
      simp [hr, hn, ih]
    · rw [withCrlf_cons hc]
      cases hb : isBlank c <;> simp [hb, ih, withCrlf_cons hc]

theorem takeWhile_isWord_withCrlf (t : Text) :
    (withCrlf t).takeWhile isWord = t.takeWhile isWord := by
  have hr : isWord '\r' = false := by decide
  have hn : isWord '\n' = false := by decide
  induction t with
  | nil => rfl
  | cons c t ih =>
    by_cases hc : c = '\n'
    · rw [hc, withCrlf_newline]
      simp [hr, hn]
    · rw [withCrlf_cons hc]
      cases hw : isWord c <;> simp [hw, ih]

theorem nameAt?_withCrlf (t : Text) : nameAt? (withCrlf t) = nameAt? t := by
  have hr : isBlank '\r' = true := by decide
  have hn : isBlank '\n' = true := by decide
  rw [nameAt?, nameAt?, after?_withCrlf (by decide) (by decide)]
  cases after? marker t with
  | none => rfl
  | some r =>
    cases r with
    | nil => rfl
    | cons c r =>
      by_cases hc : c = '\n'
      · simp [hc, withCrlf_newline, hr, hn, dropWhile_isBlank_withCrlf, takeWhile_isWord_withCrlf]
      · simp [withCrlf_cons hc, dropWhile_isBlank_withCrlf, takeWhile_isWord_withCrlf]

theorem nameFrom?_withCrlf (previous : Option Char) (t : Text) :
    nameFrom? previous (withCrlf t) = nameFrom? previous t := by
  induction t generalizing previous with
  | nil => rfl
  | cons c t ih =>
    have hat := nameAt?_withCrlf (c :: t)
    by_cases hc : c = '\n'
    · have hr : nameAt? ('\r' :: '\n' :: withCrlf t) = none := rfl
      have hn : ∀ rest, nameAt? ('\n' :: rest) = none := fun _ => rfl
      rw [hc, withCrlf_newline, nameFrom?, nameFrom?, nameFrom?, hr, hn, hn, ih]
      cases h : previous.any isUnicodeWord <;> simp
    · rw [withCrlf_cons hc] at hat ⊢
      rw [nameFrom?, nameFrom?, hat, ih]

theorem alike_withCrlf (ht : ¬ [':', '\n'] <:+: t) : Alike t (withCrlf t) where
  empty := by
    cases t with
    | nil => exact Iff.rfl
    | cons c t => by_cases hc : c = '\n' <;> simp [withCrlf, hc]
  callable := by
    refine eq_withCrlf (· || ·) ?_ (fun _ => rfl) ht
    intro s hs x y _
    have hsplit : SplitsCalls s := by
      obtain rfl | rfl := hs <;> decide
    exact hasCallable_append_cons hsplit x y
  marked := by
    refine eq_withCrlf (· || ·) ?_ (fun _ => rfl) ht
    intro s hs x y _
    have hsplit : s ∉ marker := by
      obtain rfl | rfl := hs <;> decide
    exact hasMarker_append_cons hsplit x y
  name := nameFrom?_withCrlf none t
  names := by
    refine eq_withCrlf (· ++ ·) ?_ (fun _ => rfl) ht
    intro s hs x y _
    have hblank : isBlank s = true := by
      obtain rfl | rfl := hs <;> decide
    exact propertyNames_append_blank hblank x y
  types := by
    refine eq_withCrlf (· ++ ·) ?_ (fun _ => rfl) ht
    intro s hs x y hx
    have hends : endsType s = true := by
      obtain rfl | rfl := hs <;> decide
    exact typeExpressions_append_end hends hx y

theorem semicolon_mem_withCrlf : ';' ∈ withCrlf t ↔ ';' ∈ t := by
  unfold withCrlf
  rw [List.mem_flatMap]
  constructor
  · intro h
    obtain ⟨c, hc, hm⟩ := h
    split at hm
    · exact absurd hm (by decide)
    · rwa [List.mem_singleton.1 hm]
  · intro h
    exact ⟨';', h, by decide⟩

/-- The line breaks of a text do not matter, except where one follows a colon. -/
theorem analyze_withCrlf (t : Text) (config : Config) (h : ¬ [':', '\n'] <:+: t) :
    (analyze (withCrlf t) config byPattern).result = (analyze t config byPattern).result := by
  have hstyle : config.style (withCrlf t) = config.style t := by
    simp only [Config.style, Style.terminator_sniff, semicolon_mem_withCrlf]
  rw [(alike_withCrlf h).result_analyze, hstyle, ← (Alike.refl t).result_analyze]

def mailbox : Text :=
  "export interface IMailbox \x7b\n  owner: string\n  unread?: number[]\n\x7d\n".toList

def mailboxDeclaration : Declaration where
  name := "IMailbox".toList
  baseName := "Mailbox".toList
  style := ⟨['\r', '\n'], [], [' ', ' ']⟩
  fields := [⟨"owner".toList, "string".toList⟩, ⟨"unread?".toList, "number[]".toList⟩]

theorem analyze_mailbox : (analyze mailbox {} byPattern).result = .ok mailboxDeclaration := by rfl

theorem analyze_mailbox_withCrlf : ¬ [':', '\n'] <:+: mailbox ∧
    (analyze (withCrlf mailbox) {} byPattern).result = .ok mailboxDeclaration := by
  have h : ¬ [':', '\n'] <:+: mailbox := by decide +kernel
  refine ⟨h, ?_⟩
  rw [analyze_withCrlf mailbox {} h, analyze_mailbox]

/-- A line feed can be the blank between a colon and a type; of the longer break only the first half
is. -/
example : typeExpressions ":\nnumber".toList = ["number".toList] ∧
    typeExpressions (withCrlf ":\nnumber".toList) = [] := by decide

/-! ### Lines before -/

theorem alike_append_preamble {p : Text} (ht : t ≠ []) (hend : ['\n'] <:+ p) (hcolon : ':' ∉ p)
    (hparen : '(' ∉ p) (hmarker : ¬ marker <:+: p) : Alike t (p ++ t) := by
  obtain ⟨x, rfl⟩ := hend
  have hsplit : x ++ ['\n'] ++ t = x ++ '\n' :: t := by simp
  have hx : ∀ c ∈ x, c ∈ x ++ ['\n'] := fun c hc => List.mem_append_left _ hc
  have hmarkerx : ¬ marker <:+: x := fun h => hmarker (h.trans (List.prefix_append _ _).isInfix)
  refine ⟨by simp [ht], ?callable, ?marked, ?name, ?names,
    captures_typeExpression_of_not_mem hcolon⟩
  case callable =>
    have hcall : hasCallable x = false := hasCallable_of_not_mem fun h => hparen (hx _ h)
    rw [hsplit, hasCallable_append_cons (by decide), hcall, Bool.false_or]
  case marked =>
    have hmark : hasMarker x = false := by
      rw [← Bool.not_eq_true, hasMarker_iff]
      exact hmarkerx
    rw [hsplit, hasMarker_append_cons (by decide), hmark, Bool.false_or]
  case name =>
    -- no name begins before the line feed, and behind it a word begins anew
    have hsilent : ∀ u v, x = u ++ v → v ≠ [] → nameAt? (v ++ '\n' :: t) = none := by
      intro u v huv _
      by_contra hat
      have hv := (prefix_append_cons_iff (by decide)).1 (marker_prefix_of_nameAt? hat)
      exact hmarkerx (by rw [huv]; exact hv.isInfix.trans (List.suffix_append _ _).isInfix)
    have hnewline : nameAt? ('\n' :: t) = none := rfl
    have hword : isUnicodeWord '\n' = false := by decide +kernel
    rw [hsplit, name?, nameFrom?_append_of_silent hsilent, nameFrom?, hnewline,
      nameFrom?_eq_name? (by simpa using hword)]
    simp
  case names =>
    rw [hsplit]
    exact captures_propertyName_of_blank (fun h => hcolon (hx _ h)) (by decide)

/-- Lines before a text change its analysis in one point: with a semicolon among them, statements end
with one. -/
theorem analyze_append_preamble {p t : Text} (config : Config) (ht : t ≠ []) (hend : ['\n'] <:+ p)
    (hcolon : ':' ∉ p) (hparen : '(' ∉ p) (hmarker : ¬ marker <:+: p) :
    (analyze (p ++ t) config byPattern).result =
      (analyze t config byPattern).result.map fun d =>
        { d with style := { d.style with
            terminator := if ';' ∈ p then [';'] else d.style.terminator } } := by
  rw [(alike_append_preamble ht hend hcolon hparen hmarker).result_analyze]
  cases h : (analyze t config byPattern).result with
  | error s => rfl
  | ok d =>
    obtain ⟨_, _, name, fields, _, _, rfl⟩ := analyze_eq_ok_iff.1 h
    by_cases hp : ';' ∈ p <;>
      simp [Except.map, Config.declaration, Config.style, Style.terminator_sniff, hp]

def mailboxComment : Text := "// letters;\n".toList

theorem analyze_mailbox_below_comment :
    (mailbox ≠ [] ∧ ['\n'] <:+ mailboxComment ∧ ':' ∉ mailboxComment ∧ '(' ∉ mailboxComment ∧
      ¬ marker <:+: mailboxComment) ∧
    (analyze (mailboxComment ++ mailbox) {} byPattern).result =
      .ok { mailboxDeclaration with style := ⟨['\r', '\n'], [';'], [' ', ' ']⟩ } := by
  have h : mailbox ≠ [] ∧ ['\n'] <:+ mailboxComment ∧ ':' ∉ mailboxComment ∧
      '(' ∉ mailboxComment ∧ ¬ marker <:+: mailboxComment := by decide +kernel
  refine ⟨h, ?_⟩
  obtain ⟨ht, hend, hcolon, hparen, hmarker⟩ := h
  rw [analyze_append_preamble {} ht hend hcolon hparen hmarker, analyze_mailbox]
  rfl

end FluentBuilder

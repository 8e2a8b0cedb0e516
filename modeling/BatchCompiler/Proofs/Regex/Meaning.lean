import Mathlib.Data.List.Basic
import BatchCompiler.Regex

/-!
# What regular expressions mean

How an expression is written, and where it is found.  A piece takes part of a text, between what lies
before and what lies behind; the assertions look at these and take nothing.  An expression is found in a
text if it takes any part of it, however small, so that nothing but its own assertions holds it to the
start or to the end.

## Main definitions

* `Regex.Written` — an expression, and a text in which it is written
* `Regex.Takes` — what an expression may take, between what lies before and behind
* `Regex.FoundIn` — an expression is found in a text
* `Regex.Engine.Lawful` — an engine that finds what there is

## Main statements

* `Regex.takes_cons_iff`, `Regex.takes_append_iff` — expressions one behind the other
* `Regex.Piece.takes_anyTimes_iff` — an atom as often as it comes
-/

namespace BatchCompiler.Regex

/-! ## How expressions are written -/

/-- **How an atom is written.** -/
inductive Atom.Written : Atom → List Char → Prop
  | textStart : Written .textStart ['^']
  | textEnd : Written .textEnd ['$']
  | anyChar : Written .anyChar ['.']
  | plain {c : Char} (h : isMeta c = false) : Written (.char c) [c]
  | quoted {c : Char} (h : isMeta c = true) : Written (.char c) ['\\', c]

/-- **How an expression is written**: its atoms one behind the other, with a star behind those that come
as often as they will. -/
inductive Written : Regex → List Char → Prop
  | nil : Written [] []
  | once {a : Atom} {r : Regex} {text rest : List Char} (hatom : a.Written text)
      (hrest : Written r rest) : Written (.once a :: r) (text ++ rest)
  | anyTimes {a : Atom} {r : Regex} {text rest : List Char} (hatom : a.Written text)
      (hrest : Written r rest) : Written (.anyTimes a :: r) (text ++ '*' :: rest)

/-- A quoted character stands for itself. -/
theorem Atom.written_escapeChar (c : Char) : (Atom.char c).Written (escapeChar c) := by
  unfold escapeChar
  split
  · rename_i hmeta
    exact .quoted hmeta
  · rename_i hplain
    exact .plain (Bool.eq_false_iff.mpr hplain)

/-- Expressions one behind the other are written so. -/
theorem Written.append {r r' : Regex} {text text' : List Char} (h : Written r text)
    (h' : Written r' text') : Written (r ++ r') (text ++ text') := by
  induction h with
  | nil => exact h'
  | once hatom _ ih =>
      rw [List.append_assoc]
      exact .once hatom ih
  | anyTimes hatom _ ih =>
      rw [List.append_assoc, List.cons_append]
      exact .anyTimes hatom ih

/-! ## What expressions take -/

/-- **What an atom takes**, between what lies before and what lies behind. -/
inductive Atom.Takes : Atom → (before taken behind : List Char) → Prop
  | textStart {behind : List Char} : Takes .textStart [] [] behind
  | textEnd {before : List Char} : Takes .textEnd before [] []
  | anyChar {before behind : List Char} {c : Char} (h : c ≠ '\n') : Takes .anyChar before [c] behind
  | char {before behind : List Char} {c : Char} : Takes (.char c) before [c] behind

/-- **What a piece takes.** -/
inductive Piece.Takes : Piece → (before taken behind : List Char) → Prop
  | once {a : Atom} {before taken behind : List Char} (h : a.Takes before taken behind) :
      Takes (.once a) before taken behind
  | never {a : Atom} {before behind : List Char} : Takes (.anyTimes a) before [] behind
  | again {a : Atom} {before first later behind : List Char}
      (hfirst : a.Takes before first (later ++ behind))
      (hlater : Takes (.anyTimes a) (before ++ first) later behind) :
      Takes (.anyTimes a) before (first ++ later) behind

/-- **What an expression takes**: its pieces take one part behind the other. -/
inductive Takes : Regex → (before taken behind : List Char) → Prop
  | nil {before behind : List Char} : Takes [] before [] behind
  | cons {p : Piece} {r : Regex} {before first later behind : List Char}
      (hfirst : p.Takes before first (later ++ behind))
      (hlater : Takes r (before ++ first) later behind) :
      Takes (p :: r) before (first ++ later) behind

/-- **An expression is found in a text**: it takes some part of it. -/
def FoundIn (r : Regex) (text : List Char) : Prop :=
  ∃ before taken behind, text = before ++ taken ++ behind ∧ Takes r before taken behind

/-- **An engine that finds what there is**: if it compiles an expression, then to the test of whether
that is found. -/
structure Engine.Lawful (engine : Engine) : Prop where
  finds_iff : ∀ {expression : String} {finds : String → Bool} {r : Regex},
    engine.compile expression = .ok finds → Written r expression.toList →
      ∀ text : String, finds text = true ↔ r.FoundIn text.toList

variable {r r' : Regex} {p : Piece} {a : Atom} {before taken behind : List Char}

@[simp] theorem Piece.takes_once_iff : (Piece.once a).Takes before taken behind ↔
    a.Takes before taken behind := by
  constructor
  · rintro ⟨h⟩
    exact h
  · exact .once

@[simp] theorem Atom.takes_textStart_iff : Atom.textStart.Takes before taken behind ↔
    before = [] ∧ taken = [] := by
  constructor
  · rintro ⟨⟩
    exact ⟨rfl, rfl⟩
  · rintro ⟨rfl, rfl⟩
    exact .textStart

@[simp] theorem Atom.takes_textEnd_iff : Atom.textEnd.Takes before taken behind ↔
    taken = [] ∧ behind = [] := by
  constructor
  · rintro ⟨⟩
    exact ⟨rfl, rfl⟩
  · rintro ⟨rfl, rfl⟩
    exact .textEnd

@[simp] theorem Atom.takes_anyChar_iff : Atom.anyChar.Takes before taken behind ↔
    ∃ c, c ≠ '\n' ∧ taken = [c] := by
  constructor
  · rintro ⟨⟩
    exact ⟨_, ‹_›, rfl⟩
  · rintro ⟨c, hc, rfl⟩
    exact .anyChar hc

@[simp] theorem Atom.takes_char_iff {c : Char} : (Atom.char c).Takes before taken behind ↔
    taken = [c] := by
  constructor
  · rintro ⟨⟩
    rfl
  · rintro rfl
    exact .char

@[simp] theorem takes_nil_iff : Takes [] before taken behind ↔ taken = [] := by
  constructor
  · rintro ⟨⟩
    rfl
  · rintro rfl
    exact .nil

theorem takes_cons_iff : Takes (p :: r) before taken behind ↔ ∃ first later,
    taken = first ++ later ∧ p.Takes before first (later ++ behind) ∧
      Takes r (before ++ first) later behind := by
  constructor
  · rintro ⟨⟩
    exact ⟨_, _, rfl, ‹_›, ‹_›⟩
  · rintro ⟨first, later, rfl, hfirst, hlater⟩
    exact .cons hfirst hlater

/-- **One expression behind another** takes what lies behind. -/
theorem takes_append_iff : Takes (r ++ r') before taken behind ↔ ∃ first later,
    taken = first ++ later ∧ Takes r before first (later ++ behind) ∧
      Takes r' (before ++ first) later behind := by
  induction r generalizing before taken with
  | nil =>
      constructor
      · intro h
        exact ⟨[], taken, rfl, .nil, by rwa [List.append_nil]⟩
      · rintro ⟨first, later, rfl, hfirst, hlater⟩
        obtain rfl := takes_nil_iff.mp hfirst
        rwa [List.append_nil] at hlater
  | cons p r ih =>
      rw [List.cons_append, takes_cons_iff]
      constructor
      · rintro ⟨first, later, rfl, hfirst, hlater⟩
        obtain ⟨middle, last, rfl, hmiddle, hlast⟩ := ih.mp hlater
        refine ⟨first ++ middle, last, (List.append_assoc ..).symm, ?_, ?_⟩
        · rw [List.append_assoc] at hfirst
          exact .cons hfirst hmiddle
        · rwa [← List.append_assoc]
      · rintro ⟨_, last, rfl, htakes, hlast⟩
        obtain ⟨first, middle, rfl, hfirst, hmiddle⟩ := takes_cons_iff.mp htakes
        refine ⟨first, middle ++ last, List.append_assoc .., ?_,
          ih.mpr ⟨middle, last, rfl, hmiddle, ?_⟩⟩
        · rwa [List.append_assoc]
        · rwa [List.append_assoc]

/-- What an atom takes of a text it takes of any. -/
theorem Atom.Takes.elsewhere {c : Char} (h : a.Takes before [c] behind)
    (before' behind' : List Char) : a.Takes before' [c] behind' := by
  cases h with
  | anyChar hc => exact .anyChar hc
  | char => exact .char

/-- What an atom takes are single characters. -/
theorem Atom.Takes.of_mem {c : Char} (h : a.Takes before taken behind) (hc : c ∈ taken) :
    a.Takes [] [c] [] := by
  cases h with
  | textStart => cases hc
  | textEnd => cases hc
  | anyChar hplain =>
      obtain rfl := List.mem_singleton.mp hc
      exact .anyChar hplain
  | char =>
      obtain rfl := List.mem_singleton.mp hc
      exact .char

/-- **As often as it comes** an atom takes a run of characters, each of which it takes. -/
theorem Piece.takes_anyTimes_iff :
    (Piece.anyTimes a).Takes before taken behind ↔ ∀ c ∈ taken, a.Takes [] [c] [] := by
  constructor
  · intro h
    generalize hpiece : Piece.anyTimes a = p at h
    induction h with
    | once => cases hpiece
    | never => exact fun _ hc => absurd hc List.not_mem_nil
    | again hfirst _ ih =>
        cases hpiece
        exact List.forall_mem_append.mpr ⟨fun _ => hfirst.of_mem, ih rfl⟩
  · intro h
    induction taken generalizing before with
    | nil => exact .never
    | cons c taken ih =>
        obtain ⟨hc, htaken⟩ := List.forall_mem_cons.mp h
        exact .again (hc.elsewhere before (taken ++ behind)) (ih htaken)

end BatchCompiler.Regex

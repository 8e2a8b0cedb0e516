import BatchCompiler.Proofs.CommandLine.Meaning
import BatchCompiler.Proofs.ResponseFile.Queue

/-!
# Arguments behind the ones being read

A command line that continues with a separator is read like the one without the continuation, for as
long as the shorter one lasts.  Nothing that a handler does reaches behind the separator: an argument
is taken from the front, and what a package tool answers is put ahead of the first separator.  The one
way to tell the two readings apart is to ask for an argument when the shorter one has none left, and a
handler that does so fails on the shorter one.

## Main definitions

* `Reading.withTail` — the same reading with more arguments behind
* `Handler.Carries` — a handler that answers the same with the tail behind, and leaves it there

## Main statements

* `Handler.carries_handle` — every argument is handled so
-/

namespace BatchCompiler

open ResponseFile (options operands separator)

/-- **The same reading with more arguments behind** those unread. -/
def Reading.withTail (r : Reading) (tail : List String) : Reading :=
  { r with unread := r.unread ++ tail }

namespace Handler

variable {α β : Type} {tail : List String}

/-- **A handler carries a tail** if, where it answers without the tail, it gives the same answer and
the same reading with the tail behind. -/
def Carries (tail : List String) (m : Handler α) : Prop :=
  ∀ (r r' : Reading) (a : α), perform m r = (.ok a, r') →
    perform m (r.withTail tail) = (.ok a, r'.withTail tail)

/-- A handler that answers, and changes nothing that is unread nor looks at it. -/
theorem carries_modify (change : Reading → Reading)
    (h : ∀ r, change (r.withTail tail) = (change r).withTail tail) :
    Carries tail (modify change : Handler Unit) := by
  intro r r' a hperform
  rw [perform_modify] at hperform ⊢
  cases hperform
  rw [h]

theorem carries_throw (problem : ArgumentError) : Carries tail (throw problem : Handler α) := by
  intro r r' b h
  rw [perform_throw] at h
  cases h

theorem carries_bind {m : Handler α} {f : α → Handler β} (hm : Carries tail m)
    (hf : ∀ a, Carries tail (f a)) : Carries tail (m >>= f) := by
  intro r r' b h
  obtain ⟨a, r₁, hfirst, hsecond⟩ := perform_bind_eq_ok_iff.mp h
  exact perform_bind_eq_ok_iff.mpr ⟨a, r₁.withTail tail, hm _ _ _ hfirst, hf a _ _ _ hsecond⟩

theorem carries_configureTelling (change : Config → Config × List Notice) :
    Carries tail (configureTelling change) := by
  intro r r' a h
  rw [perform_configureTelling] at h ⊢
  cases h
  rfl

theorem carries_splice (htail : options tail = []) (extra : List String) :
    Carries tail (splice extra) := by
  intro r r' a h
  rw [perform_splice] at h ⊢
  cases h
  unfold Reading.withTail
  rw [ResponseFile.spliceBeforeSeparator_append_of_options_eq_nil htail]

/-- What depends on the reading at hand, but not on what is unread. -/
theorem carries_get_bind {f : Reading → Handler α} (hf : ∀ r, Carries tail (f r))
    (hsame : ∀ r : Reading, f (r.withTail tail) = f r) : Carries tail (get >>= f) := by
  intro r r' a h
  rw [perform_bind, perform_get] at h ⊢
  dsimp only at h ⊢
  rw [hsame]
  exact hf r _ _ _ h

theorem carries_expandPackages (htail : options tail = []) (env : Environment)
    (packages : String) : Carries tail (expandPackages env packages) := by
  -- The reading is looked at for its configuration only, which no tail changes.
  refine carries_get_bind (fun r => ?_) fun _ => rfl
  refine carries_bind (carries_modify _ fun _ => rfl) fun _ => ?_
  dsimp only
  split
  · exact carries_splice htail _
  · exact carries_throw _

/-- **A handler made of operations carries a tail** that starts with the separator. -/
theorem Does.carries (htail : options tail = []) {env : Environment}
    {allowed : ReportingPolicy.Setting → Prop} {m : Handler α} {as : List Addition}
    (h : Does env allowed m as) : Carries tail m := by
  induction h with
  | pure a =>
      rintro r r' b ⟨⟩
      rfl
  | throw problem => exact carries_throw problem
  | tell | setPolicy | configure | close | ask | symbol => exact carries_modify _ fun _ => rfl
  | expandPackages packages => exact carries_expandPackages htail _ packages
  | source | resource | reference => exact carries_configureTelling _
  | bind _ _ ihm ihf => exact carries_bind ihm ihf
  | andThen _ _ _ ihm ihf => exact carries_bind ihm fun _ => ihf

end Handler

/-! ## Arguments -/

namespace Meaning

theorem taken_getD_ofColon? (slashed : String) {other : Meaning} (h : other.taken = 0) :
    ((ofColon? slashed).getD other).taken = 0 := by
  cases hread : ofColon? slashed with
  | none => exact h
  | some meaning =>
      obtain ⟨found, -, rfl⟩ := Option.map_eq_some_iff.mp hread
      rfl

/-- An option, or what is none, while options are read. -/
theorem ofOption_cases (arg : String) :
    (∃ o, ∀ behind, ofOption arg behind = ofLegacy o behind) ∨
      ∃ meaning, meaning.taken = 0 ∧ ∀ behind, ofOption arg behind = meaning := by
  by_cases hdash : ∃ rest, arg.toList = '-' :: rest
  · obtain ⟨rest, hletters⟩ := hdash
    cases hfind : LegacyOption.find? arg with
    | some o =>
        refine .inl ⟨o, fun behind => ?_⟩
        rw [ofOption_of_dash hletters, hfind]
    | none =>
        refine .inr ⟨(ofColon? (String.ofList ('/' :: rest))).getD unrecognized,
          taken_getD_ofColon? _ rfl, fun behind => ?_⟩
        rw [ofOption_of_dash hletters, hfind]
  · by_cases hslash : ∃ rest, arg.toList = '/' :: rest
    · obtain ⟨rest, hletters⟩ := hslash
      have htaken : (if looksLikePath arg then source else unrecognized).taken = 0 := by
        split
        · rfl
        · rfl
      exact .inr ⟨_, taken_getD_ofColon? arg htaken, fun _ => ofOption_of_slash hletters⟩
    · exact .inr ⟨source, rfl, fun _ =>
        ofOption_of_plain (not_exists.mp hdash) (not_exists.mp hslash)⟩

/-- What is behind an argument matters for legacy options only; nothing else takes it along. -/
theorem ofArgument_cases (optionsOpen : Bool) (arg : String) :
    (∃ o, ∀ behind, ofArgument optionsOpen arg behind = ofLegacy o behind) ∨
      ∃ meaning, meaning.taken = 0 ∧ ∀ behind, ofArgument optionsOpen arg behind = meaning := by
  unfold ofArgument
  split
  · exact .inr ⟨nothing, rfl, fun _ => rfl⟩
  · split
    · exact .inr ⟨separator, rfl, fun _ => rfl⟩
    · split
      · exact ofOption_cases arg
      · exact .inr ⟨source, rfl, fun _ => rfl⟩

variable {optionsOpen : Bool} {arg : String} {behind : List String}

/-- **With more arguments behind, an argument is read as the same**, unless it lacks a value. -/
theorem ofArgument_append (h : ∀ o, ofArgument optionsOpen arg behind ≠ valueless o)
    (tail : List String) :
    ofArgument optionsOpen arg (behind ++ tail) = ofArgument optionsOpen arg behind ∧
      (ofArgument optionsOpen arg behind).taken ≤ behind.length := by
  obtain ⟨o, ho⟩ | ⟨meaning, htaken, hmeaning⟩ := ofArgument_cases optionsOpen arg
  · rw [ho, ho, taken_ofLegacy]
    simp only [ho, ofLegacy] at h ⊢
    cases htakes : o.takesValue with
    | false => exact ⟨rfl, Nat.zero_le _⟩
    | true =>
        cases behind with
        | nil => exact absurd (by simp [htakes]) (h o)
        | cons value rest => exact ⟨rfl, Nat.succ_le_succ (Nat.zero_le _)⟩
  · rw [hmeaning, hmeaning, htaken]
    exact ⟨rfl, Nat.zero_le _⟩

end Meaning

/-- **Every argument is handled the same with a tail behind**, wherever it stands. -/
theorem Handler.carries_handle {tail : List String} (htail : options tail = []) (env : Environment)
    (arg : String) : Carries tail (handle env arg) := by
  intro r r' a h
  rw [Meaning.perform_handle] at h ⊢
  by_cases hvalueless : ∃ o, Meaning.ofArgument r.optionsOpen arg r.unread = .valueless o
  · -- Only here would the tail be reached, and without it nothing is answered.
    obtain ⟨o, hmeaning⟩ := hvalueless
    rw [hmeaning] at h
    cases h
  · obtain ⟨hsame, htaken⟩ :=
      Meaning.ofArgument_append (fun o ho => hvalueless ⟨o, ho⟩) tail
    have hdrop : (r.withTail tail).unread.drop _ = r.unread.drop _ ++ tail :=
      List.drop_append_of_le_length htaken
    show (Meaning.ofArgument r.optionsOpen arg (r.unread ++ tail)).carryOut env arg _ = _
    unfold Meaning.carryOut at h ⊢
    rw [hsame, hdrop]
    exact (Meaning.does_handler arg _).carries htail _ _ _ h

end BatchCompiler

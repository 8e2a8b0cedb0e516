import BatchCompiler.Proofs.CommandLine.Meaning
import BatchCompiler.Proofs.Text.LowerCase
import BatchCompiler.Proofs.Text.Split

/-!
# How options are spelled

A legacy option is written as it stands in its table.  A colon option is written with one of two marks
in front, a name that its table has in small letters, and a value behind the first colon, if there is
one; whichever mark it has, the option keeps a slash in front of its name.

## Main statements

* `Meaning.ofArgument_of_legacy` — what is spelled as a legacy option is one
* `Meaning.ofOption_of_found`, `Meaning.ofArgument_of_found` — what is spelled as a colon option is one
* `Reading.turn_of_meaning` — a turn does what its argument is read as
-/

namespace BatchCompiler

/-! ## Colon options -/

namespace ColonOption

variable {option name : String} {found : ColonOption × Bool}

theorem cut_of_not_mem (h : ':' ∉ option.toList) : cut option = (option, "") := by
  unfold cut
  rw [Text.cutAtFirst?_of_not_mem h]
  rfl

/-- **The first colon** ends an option. -/
theorem cut_colon (h : ':' ∉ option.toList) (value : String) :
    cut (option ++ ":" ++ value) = (option, value) := by
  have hletters : (option ++ ":" ++ value).toList = option.toList ++ ':' :: value.toList := by
    rw [String.toList_append, String.toList_append, List.append_assoc]
    rfl
  unfold cut
  rw [Text.cutAtFirst?_of_append hletters h]
  rfl

theorem nameOf_slash (name : String) : nameOf ("/" ++ name) = Text.lowerCase name := by
  unfold nameOf
  rw [Text.afterLead?_eq_some_iff.mpr rfl]
  rfl

/-- The `+` or `-` of a toggle is all that is taken from a name. -/
theorem bareName_cases (name : String) :
    name = (bareName name).1 ++ "+" ∨ name = (bareName name).1 ++ "-" ∨ name = (bareName name).1 := by
  unfold bareName
  split
  · rename_i bare hbare
    exact .inl (Text.beforeTail?_eq_some_iff.mp hbare)
  · split
    · rename_i bare hbare
      exact .inr (.inl (Text.beforeTail?_eq_some_iff.mp hbare))
    · exact .inr (.inr rfl)

/-- **No name in the table has a colon.** -/
theorem not_mem_colon_of_find? (h : find? name = some found) : ':' ∉ name.toList := by
  have htable : ∀ o ∈ all, ∀ name ∈ o.names, ':' ∉ name.toList := by decide
  obtain ⟨o, mem, hnamed⟩ : ∃ o ∈ all, (bareName name).1 ∈ o.names ∨ name ∈ o.names := by
    have hfirst : (all.findSome? fun o =>
        if o.isToggle && o.names.contains (bareName name).1 then some (o, (bareName name).2)
        else if o.names.contains name then some (o, true)
        else none) = some found := h
    obtain ⟨o, mem, hfound⟩ := List.exists_of_findSome?_eq_some hfirst
    by_cases hbare : (o.isToggle && o.names.contains (bareName name).1) = true
    · exact ⟨o, mem, .inl (by simpa using (Bool.and_eq_true_iff.mp hbare).2)⟩
    · rw [if_neg hbare] at hfound
      by_cases hwhole : o.names.contains name = true
      · exact ⟨o, mem, .inr (by simpa using hwhole)⟩
      · rw [if_neg hwhole] at hfound
        cases hfound
  obtain hbare | hwhole := hnamed
  · have hcolon := htable o mem _ hbare
    obtain hname | hname | hname := bareName_cases name
    · rw [hname]
      simpa using hcolon
    · rw [hname]
      simpa using hcolon
    · rw [hname]
      exact hcolon
  · exact htable o mem name hwhole

/-- **A name that is found in small letters** has no colon either. -/
theorem not_mem_colon_of_found (h : find? (Text.lowerCase name) = some found) :
    ':' ∉ name.toList := fun mem =>
  not_mem_colon_of_find? h (Text.mem_lowerCase_of_small (by decide) (by decide) mem)

/-! ## Values -/

theorem requiredOr_bind_of_empty {arg : ColonArgument} (h : arg.value = "") (code : Int)
    (f : String → Handler Unit) :
    requiredOr code arg >>= f = throw (.missingArgument arg.option code) := by
  unfold requiredOr
  rw [if_pos h]
  rfl

theorem requiredOr_bind_of_ne {arg : ColonArgument} (h : arg.value ≠ "") (code : Int)
    (f : String → Handler Unit) : requiredOr code arg >>= f = f arg.value := by
  unfold requiredOr
  rw [if_neg h, pure_bind]

end ColonOption

/-! ## What is spelled so -/

namespace LegacyOption

variable {arg : String} {o : LegacyOption}

/-- **Every legacy option** starts with a dash. -/
theorem exists_dash (h : find? arg = some o) : ∃ rest, arg.toList = '-' :: rest := by
  have htable : ∀ o ∈ all, ∀ name ∈ o.names, name.toList.head? = some '-' := by decide
  have hnamed := List.find?_some h
  have hhead := htable o (List.mem_of_find?_eq_some h) arg (by simpa using hnamed)
  exact ⟨_, List.eq_cons_of_mem_head? hhead⟩

/-- A legacy option is spelled without a colon. -/
theorem find?_of_colon (h : ':' ∈ arg.toList) : find? arg = none := by
  have hspelled : ∀ o ∈ all, ∀ name ∈ o.names, ':' ∉ name.toList := by decide
  refine List.find?_eq_none.mpr fun o mem hfound => ?_
  have hname : arg ∈ o.names := by simpa using hfound
  exact hspelled o mem arg hname h

end LegacyOption

namespace Meaning

variable {arg mark name rest value : String} {behind : List String} {enabled : Bool}

/-- **What is spelled as a legacy option is one.** -/
theorem ofArgument_of_legacy {o : LegacyOption} (h : LegacyOption.find? arg = some o) :
    ofArgument true arg behind = ofLegacy o behind := by
  obtain ⟨letters, hdash⟩ := LegacyOption.exists_dash h
  have hnonempty : arg ≠ "" := by
    rintro rfl
    cases hdash
  have hseparator : arg ≠ ResponseFile.separator := by
    rintro rfl
    have hnone : LegacyOption.find? ResponseFile.separator = none := by decide
    rw [hnone] at h
    cases h
  unfold ofArgument
  rw [if_neg hnonempty, if_neg hseparator, if_pos rfl, ofOption_of_dash hdash, h]

variable {o : ColonOption}

/-- What is ahead of the first colon, and what is behind it. -/
theorem ofColon?_of_found (h : ColonOption.find? (Text.lowerCase name) = some (o, enabled))
    (hrest : rest = "" ∧ value = "" ∨ rest = ":" ++ value) :
    ofColon? ("/" ++ name ++ rest) = some (colon o ⟨"/" ++ name, value, enabled⟩) := by
  have hcolon : ':' ∉ ("/" ++ name).toList := by
    rw [String.toList_append, List.mem_append, not_or]
    exact ⟨by decide, ColonOption.not_mem_colon_of_found h⟩
  have hcut : ColonOption.cut ("/" ++ name ++ rest) = ("/" ++ name, value) := by
    obtain ⟨rfl, rfl⟩ | rfl := hrest
    · rw [String.append_empty]
      exact ColonOption.cut_of_not_mem hcolon
    · rw [← String.append_assoc]
      exact ColonOption.cut_colon hcolon value
  unfold ofColon?
  rw [hcut, ColonOption.nameOf_slash, h]
  rfl

/-- **What is spelled as a colon option is one**, whichever mark it has, unless it is a legacy option. -/
theorem ofOption_of_found (hmark : mark = "-" ∨ mark = "/")
    (h : ColonOption.find? (Text.lowerCase name) = some (o, enabled))
    (hrest : rest = "" ∧ value = "" ∨ rest = ":" ++ value)
    (hlegacy : LegacyOption.find? (mark ++ name ++ rest) = none) :
    ofOption (mark ++ name ++ rest) behind = colon o ⟨"/" ++ name, value, enabled⟩ := by
  have hletters : (mark ++ name ++ rest).toList = mark.toList ++ (name ++ rest).toList := by
    rw [String.append_assoc, String.toList_append]
  have hslashed : String.ofList ('/' :: (name ++ rest).toList) = "/" ++ name ++ rest := by
    apply String.toList_inj.mp
    simp
  obtain rfl | rfl := hmark
  · have hdash : ("-" ++ name ++ rest).toList = '-' :: (name ++ rest).toList := hletters
    rw [ofOption_of_dash hdash, hlegacy]
    dsimp only
    rw [hslashed, ofColon?_of_found h hrest]
    rfl
  · rw [ofOption_of_slash hletters, ofColon?_of_found h hrest]
    rfl

theorem ofArgument_of_found (hmark : mark = "-" ∨ mark = "/")
    (h : ColonOption.find? (Text.lowerCase name) = some (o, enabled))
    (hrest : rest = "" ∧ value = "" ∨ rest = ":" ++ value)
    (hlegacy : LegacyOption.find? (mark ++ name ++ rest) = none) :
    ofArgument true (mark ++ name ++ rest) behind = colon o ⟨"/" ++ name, value, enabled⟩ := by
  have hnonempty : mark ++ name ++ rest ≠ "" := by
    obtain rfl | rfl := hmark
    · simp
    · simp
  have hseparator : mark ++ name ++ rest ≠ ResponseFile.separator := by
    intro heq
    have hletters := congrArg String.toList heq
    rw [String.append_assoc, String.toList_append] at hletters
    obtain rfl | rfl := hmark
    · -- All that is left for the name is a dash, which is no name.
      have hname : name ++ rest = "-" := String.toList_inj.mp (List.cons.inj hletters).2
      obtain ⟨rfl, -⟩ | rfl := hrest
      · rw [String.append_empty] at hname
        subst hname
        have hnone : ColonOption.find? (Text.lowerCase "-") = none := by decide +kernel
        rw [hnone] at h
        cases h
      · have mem : ':' ∈ (name ++ (":" ++ value)).toList := by simp
        rw [hname] at mem
        exact absurd mem (by decide)
    · cases hletters
  unfold ofArgument
  rw [if_neg hnonempty, if_neg hseparator, if_pos rfl, ofOption_of_found hmark h hrest hlegacy]

end Meaning

/-- **A turn does what its argument is read as**, with the arguments that this leaves. -/
theorem Reading.turn_of_meaning {env : Environment} {r : Reading} {arg : String}
    {behind rest : List String} {meaning : Meaning} (hunread : r.unread = arg :: behind)
    (hmeaning : Meaning.ofArgument r.optionsOpen arg behind = meaning)
    (hrest : behind.drop meaning.taken = rest) :
    r.turn env = conclude (perform (meaning.handler env arg) { r with unread := rest }).1
      (perform (meaning.handler env arg) { r with unread := rest }).2 := by
  subst hrest
  rw [turn_cons hunread, Meaning.perform_handle, hmeaning]
  rfl

end BatchCompiler

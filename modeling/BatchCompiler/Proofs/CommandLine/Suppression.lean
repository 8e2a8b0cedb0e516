import BatchCompiler.Proofs.CommandLine.Alike
import BatchCompiler.Proofs.CommandLine.Spelling
import BatchCompiler.Proofs.Diagnostic.Muffled
import BatchCompiler.Proofs.Text.Numeral

/-!
# Reading arguments with a warning suppressed

No handler looks at what is on record.  So a command line is read alike whether the warnings of a code
are dropped or not, turn by turn, as long as warnings are no errors: were they errors, a warning that is
dropped would be an error less.

## Main definitions

* `Reading.Muffled` — two readings, of which the first drops the warnings of a code

## Main statements

* `Engine.likeness_muffled` — settings keep them so, but for the one that makes errors of warnings
* `Reading.muffled_turn` — one turn
* `Reading.turn_nowarn` — the turn from which on warnings are dropped
-/

namespace BatchCompiler

open ReportingPolicy (Setting)

/-! ## Making errors of warnings -/

/-- **Every setting keeps two policies muffled**, unless it makes errors of warnings. -/
theorem ReportingPolicy.Muffled.change {code : Int} {p q : ReportingPolicy} (h : p.Muffled code q)
    {s : Setting} (hs : ¬s.Raises) : (s.change p).Muffled code (s.change q) := by
  cases s with
  | warningLevel => exact { h with warningLevel := rfl }
  | warningsAsErrors enabled =>
      have hcalm : enabled = false := by
        rw [← Bool.not_eq_true]
        rintro rfl
        exact hs rfl
      exact { h with calm := hcalm, calm' := hcalm }
  | ignore other => exact h.ignore other
  | fatal => exact { h with fatal := rfl }
  | expect => exact { h with expected := rfl }

theorem Engine.likeness_muffled (code : Int) :
    Likeness (fun s => ¬s.Raises) (Engine.Muffled code) where
  submit h r := h.submit r
  withPolicy h _ hs := h.withPolicy (h.policy.change hs)

/-- Warnings are errors to a reading. -/
def Reading.raised (r : Reading) : Bool := r.desk.engine.policy.warningsAsErrors

namespace Meaning

variable {env : Environment} {arg : String} {meaning : Meaning}

/-- **Whatever may make errors of warnings does so.** -/
theorem raised_of_maySet {s : Setting} (hs : meaning.MaySet s) (hraises : s.Raises) (r : Reading) :
    (perform (meaning.handler env arg) r).2.raised = true := by
  subst hraises
  cases meaning with
  | legacy o value =>
      obtain hplain | ⟨rfl, -⟩ | ⟨-, hexpects⟩ := hs
      · exact absurd rfl hplain.1
      · rfl
      · obtain ⟨code, hexpects⟩ := hexpects
        cases hexpects
  | colon o written =>
      obtain hplain | ⟨rfl, hwritten⟩ := hs
      · exact absurd rfl hplain.1
      · obtain ⟨option, value, enabled⟩ := written
        cases hwritten
        rfl
  | nothing | separator | valueless | source | unrecognized => exact hs.elim

end Meaning

/-! ## Turns -/

namespace Reading

/-- **Two readings, of which the first drops the warnings of a code.** -/
abbrev Muffled (code : Int) : Reading → Reading → Prop := Alike (Engine.Muffled code)

variable {code : Int} {env : Environment} {r r' : Reading}

/-- Behind an argument that may make errors of warnings, they are errors. -/
theorem raised_turn {meaning : Meaning} (hmeaning : r.meaning? = some meaning) {s : Setting}
    (hs : meaning.MaySet s) (hraises : s.Raises) : (r.turn env).2.raised = true := by
  unfold meaning? at hmeaning
  cases hunread : r.unread with
  | nil =>
      rw [hunread] at hmeaning
      cases hmeaning
  | cons arg rest =>
      rw [hunread] at hmeaning
      cases hmeaning
      obtain ⟨told, hreports, hconclude⟩ :=
        conclude_snd (perform (Handler.handle env arg) { r with unread := rest }).1
          (perform (Handler.handle env arg) { r with unread := rest }).2
      rw [turn_cons hunread, hconclude, raised, Desk.takeAll_engine, hreports,
        Meaning.perform_handle]
      exact Meaning.raised_of_maySet hs hraises _

/-- **One turn** does the same to both readings, unless warnings are errors behind it. -/
theorem muffled_turn (h : Muffled code r r') (hcalm : (r'.turn env).2.raised = false) :
    (r.turn env).1 = (r'.turn env).1 ∧ Muffled code (r.turn env).2 (r'.turn env).2 := by
  refine alike_turn (Engine.likeness_muffled code) h fun meaning hmeaning s hs hraises => ?_
  exact absurd ((raised_turn hmeaning hs hraises).symm.trans hcalm) (by decide)

end Reading

/-! ## The option that drops warnings -/

/-- The characters of the argument that drops the warnings of a code. -/
theorem Handler.toList_nowarn (n : Nat) :
    ("-nowarn:" ++ toString n).toList = '-' :: ("nowarn:".toList ++ (toString n).toList) := by
  rw [String.toList_append]
  rfl

theorem Handler.nowarn_ne_separator (n : Nat) :
    "-nowarn:" ++ toString n ≠ ResponseFile.separator := by
  intro h
  have hchars := toList_nowarn n
  rw [h] at hchars
  cases hchars

section Dropping

variable {env : Environment} {n : Nat} {r : Reading}

/-- **A list of one code.** -/
theorem Handler.perform_ignoreWarnings_toString (hpos : 1 ≤ n) (hlimit : n ≤ 0x7fffffff) :
    perform (ignoreWarnings (toString n)) r =
      (.ok (), { r with
        desk := { r.desk with engine := r.desk.engine.withPolicy (·.ignore n) } }) := by
  have hpieces : Text.pieces (· = ',') (toString n) = [toString n] := by
    refine Text.pieces_of_not fun c mem => ?_
    have hdigit := Text.isDigit_of_mem_toString mem
    rw [decide_eq_false_iff_not]
    rintro rfl
    exact absurd hdigit (by decide)
  have hcode : warningCode? (toString n) = some (n : Int) := by
    unfold warningCode?
    rw [Text.trim_toString, Text.integer32?_toString (by omega), Option.bind_some,
      if_pos (by exact_mod_cast hpos)]
  have hentry : ignoreWarning (toString n) = setPolicy (·.ignore n) := by
    unfold ignoreWarning
    rw [hcode]
  unfold ignoreWarnings
  rw [hpieces, List.filter_cons_of_pos (by simp), List.filter_nil]
  rw [perform_forM_cons, hentry, perform_setPolicy]
  rfl

/-- **The option that drops the warnings of a code** is a colon option. -/
theorem Meaning.ofArgument_nowarn (n : Nat) (behind : List String) :
    ofArgument true ("-nowarn:" ++ toString n) behind =
      colon .ignoreWarnings ⟨"/nowarn", toString n, true⟩ := by
  have hfind : ColonOption.find? (Text.lowerCase "nowarn") = some (.ignoreWarnings, true) := by
    decide +kernel
  have hlegacy : LegacyOption.find? ("-" ++ "nowarn" ++ (":" ++ toString n)) = none :=
    LegacyOption.find?_of_colon (by simp)
  have hwritten : "-nowarn:" ++ toString n = "-" ++ "nowarn" ++ (":" ++ toString n) :=
    String.toList_inj.mp (by simp)
  rw [hwritten]
  exact ofArgument_of_found (.inl rfl) hfind (.inr rfl) hlegacy

/-- **One turn drops the warnings of a code**, and does nothing else. -/
theorem Reading.turn_nowarn {rest : List String} (hpos : 1 ≤ n) (hlimit : n ≤ 0x7fffffff)
    (hunread : r.unread = ("-nowarn:" ++ toString n) :: rest) (hopen : r.optionsOpen = true)
    (hrequest : r.request = none) :
    r.turn env = (none, { r with
      unread := rest
      desk := { r.desk with engine := r.desk.engine.withPolicy (·.ignore n) } }) := by
  have hmeaning : Meaning.ofArgument r.optionsOpen ("-nowarn:" ++ toString n) rest =
      .colon .ignoreWarnings ⟨"/nowarn", toString n, true⟩ := by
    rw [hopen]
    exact Meaning.ofArgument_nowarn n rest
  have hhandler : (Meaning.colon .ignoreWarnings ⟨"/nowarn", toString n, true⟩).handler env
      ("-nowarn:" ++ toString n) = Handler.ignoreWarnings (toString n) :=
    ColonOption.requiredOr_bind_of_ne Nat.repr_ne_empty 5 _
  have hperform := @Handler.perform_ignoreWarnings_toString n { r with unread := rest } hpos hlimit
  have hrest : rest.drop (Meaning.colon .ignoreWarnings ⟨"/nowarn", toString n, true⟩).taken = rest :=
    rfl
  rw [turn_of_meaning hunread hmeaning hrest, hhandler, hperform]
  unfold conclude
  dsimp only
  rw [hrequest]

end Dropping

end BatchCompiler

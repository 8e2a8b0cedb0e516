import BatchCompiler.Proofs.Diagnostic.Kept

/-!
# The expected error

An engine notices the expected error in the moment it is recorded, and never looks back: it has seen the
error if one of its code came in while it was expected.

## Main definitions

* `Diagnostic.IsError` — an error of a code
* `Engine.Awaits` — the expected error is among some diagnostics
* `Engine.Adds` — what is added to a record under one expectation
* `Engine.Extends` — an engine goes on under one expectation

## Main statements

* `Engine.Adds.trans` — under one expectation, what is added twice is added once
* `Engine.adds_submitAll` — many reports
-/

namespace BatchCompiler

/-- **An error of a code.** -/
def Diagnostic.IsError (code : Int) (d : Diagnostic) : Prop := d.severity = .error ∧ d.code = code

instance (code : Int) (d : Diagnostic) : Decidable (d.IsError code) :=
  inferInstanceAs (Decidable (_ ∧ _))

namespace Engine

variable {e e' e'' : Engine} {added more : List Diagnostic}

/-- **The expected error is among some diagnostics.** -/
def Awaits (e : Engine) (added : List Diagnostic) : Prop :=
  ∃ code, e.policy.expected = some code ∧ ∃ d ∈ added, d.IsError code

/-- **What is added to a record under one expectation.**  The expected error is seen if it was seen
before or is added now. -/
structure Adds (e : Engine) (added : List Diagnostic) (e' : Engine) : Prop where
  diagnostics : e'.diagnostics = e.diagnostics ++ added
  seen : e'.expectedSeen = true ↔ e.expectedSeen = true ∨ e.Awaits added

theorem not_awaits_nil (e : Engine) : ¬ e.Awaits [] := by
  rintro ⟨code, -, d, mem, -⟩
  cases mem

theorem awaits_append : e.Awaits (added ++ more) ↔ e.Awaits added ∨ e.Awaits more := by
  constructor
  · rintro ⟨code, hcode, d, mem, hd⟩
    exact (List.mem_append.mp mem).imp (fun mem => ⟨code, hcode, d, mem, hd⟩)
      fun mem => ⟨code, hcode, d, mem, hd⟩
  · rintro (⟨code, hcode, d, mem, hd⟩ | ⟨code, hcode, d, mem, hd⟩)
    · exact ⟨code, hcode, d, List.mem_append_left _ mem, hd⟩
    · exact ⟨code, hcode, d, List.mem_append_right _ mem, hd⟩

theorem awaits_congr (h : e'.policy.expected = e.policy.expected) :
    e'.Awaits added ↔ e.Awaits added := by
  unfold Awaits
  rw [h]

/-- Of nothing but a change of policy nothing is added. -/
theorem adds_withPolicy (e : Engine) (change : ReportingPolicy → ReportingPolicy) :
    e.Adds [] (e.withPolicy change) where
  diagnostics := (List.append_nil _).symm
  seen := (or_iff_left e.not_awaits_nil).symm

theorem adds_refl (e : Engine) : e.Adds [] e where
  diagnostics := (List.append_nil _).symm
  seen := (or_iff_left e.not_awaits_nil).symm

/-- **Under one expectation**, what is added twice is added once. -/
theorem Adds.trans (h : e.Adds added e') (hexpected : e'.policy.expected = e.policy.expected)
    (h' : e'.Adds more e'') : e.Adds (added ++ more) e'' where
  diagnostics := by rw [h'.diagnostics, h.diagnostics, List.append_assoc]
  seen := by rw [h'.seen, h.seen, awaits_congr hexpected, awaits_append, or_assoc]

/-- What is added is what stands behind the record as it was. -/
theorem Adds.eq_drop (h : e.Adds added e') :
    added = e'.diagnostics.drop e.diagnostics.length := by
  rw [h.diagnostics, List.drop_left]

/-- **One report** adds what the policy keeps of it. -/
theorem adds_submit (e : Engine) (r : Report) : e.Adds (e.policy.kept? r).toList (e.submit r) where
  diagnostics := e.submit_diagnostics r
  seen := by
    unfold submit ReportingPolicy.kept? suppresses Awaits Diagnostic.IsError
    cases hseverity : r.diagnostic.severity with
    | warning =>
        dsimp only
        split
        · simp
        · split
          · simp [recordError, record]
          · simp [record, hseverity]
    | error => simp [recordError, record, hseverity]
    | note => simp [record, hseverity]
    | unsupported => simp [record, hseverity]

/-- **Many reports** add what the policy keeps of each. -/
theorem adds_submitAll (e : Engine) (rs : List Report) :
    e.Adds (rs.filterMap e.policy.kept?) (e.submitAll rs) := by
  induction rs generalizing e with
  | nil => exact e.adds_refl
  | cons r rest ih =>
      have hrest := ih (e.submit r)
      rw [submit_policy] at hrest
      have hboth := (e.adds_submit r).trans (by rw [submit_policy]) hrest
      cases hkept : e.policy.kept? r with
      | none =>
          rw [hkept, Option.toList_none, List.nil_append] at hboth
          rwa [List.filterMap_cons_none hkept]
      | some d =>
          rw [hkept, Option.toList_some, List.singleton_append] at hboth
          rwa [List.filterMap_cons_some hkept]

/-- An error is on record if one is counted, and the other way round. -/
theorem Counted.errors_pos_iff (h : e.Counted) :
    0 < e.errors ↔ ∃ d ∈ e.diagnostics, d.severity = .error := by
  refine ⟨h.exists_error, ?_⟩
  rintro ⟨d, mem, hseverity⟩
  rw [Counted] at h
  rw [h, List.countP_pos_iff]
  exact ⟨d, mem, decide_eq_true hseverity⟩

/-- **The expected error is no less counted than any other.** -/
theorem Reachable.errors_pos (h : e.Reachable) (hseen : e.expectedSeen = true) : 0 < e.errors := by
  induction h with
  | empty policy => cases hseen
  | @submit e _ r ih =>
      rcases (e.adds_submit r).seen.mp hseen with hbefore | ⟨code, -, d, mem, hseverity, -⟩
      · exact Nat.lt_of_lt_of_le (ih hbefore) (errors_le_submit e r)
      · rw [submit_errors]
        exact Nat.add_pos_right _
          (List.countP_pos_iff.mpr ⟨d, mem, decide_eq_true hseverity⟩)
  | withPolicy _ change ih => exact ih hseen

/-- **An engine goes on under one expectation**, by reports and other changes of its policy. -/
structure Extends (e e' : Engine) : Prop where
  expected : e'.policy.expected = e.policy.expected
  adds : ∃ added, e.Adds added e'
  reachable : e.Reachable → e'.Reachable

theorem extends_refl (e : Engine) : e.Extends e := ⟨rfl, ⟨[], e.adds_refl⟩, id⟩

theorem Extends.trans (h : e.Extends e') (h' : e'.Extends e'') : e.Extends e'' where
  expected := h'.expected.trans h.expected
  adds := by
    obtain ⟨added, hadds⟩ := h.adds
    obtain ⟨more, hmore⟩ := h'.adds
    exact ⟨added ++ more, hadds.trans h.expected hmore⟩
  reachable := h'.reachable ∘ h.reachable

theorem extends_submitAll (e : Engine) (rs : List Report) : e.Extends (e.submitAll rs) where
  expected := by rw [submitAll_policy]
  adds := ⟨_, e.adds_submitAll rs⟩
  reachable h := h.submitAll rs

theorem extends_withPolicy (e : Engine) {change : ReportingPolicy → ReportingPolicy}
    (h : (change e.policy).expected = e.policy.expected) : e.Extends (e.withPolicy change) where
  expected := h
  adds := ⟨[], e.adds_withPolicy change⟩
  reachable hreachable := hreachable.withPolicy change

end Engine

end BatchCompiler

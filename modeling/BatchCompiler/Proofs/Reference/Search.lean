import BatchCompiler.Proofs.Pipeline.Jobs
import BatchCompiler.Proofs.Reference.Root

/-!
# The search for a reference

A reference that is not loaded yet is searched for by attempts in a fixed order.  Attempts are made up
to the first that finds anything, good or bad, and that one decides; what the attempts before it have
logged is kept for the case that none finds anything.

## Main definitions

* `Finding` — what a search comes to
* `Searches` — the attempts that are made, one after another

## Main statements

* `Searches.journal`, `Searches.engine` — a search makes its calls and no report
* `searches_tryAttempts` — trying attempts is such a search
* `ReferenceResolver.resolve_searches` — how a reference is resolved
-/

namespace BatchCompiler

variable {σ : Type}

/-! ## Searches -/

/-- The call that an attempt makes. -/
def Attempt.call : Attempt → Call
  | .byPath path => .loadFrom path
  | .byName name => .loadByName name

/-- **What a search comes to.** -/
inductive Finding where
  | unit (u : ResolvedUnit)
  /-- A bad image, and whether its path is that of a module. -/
  | badImage (path : Path) (log : String) (isModule : Bool)
  | notAUnit (path : Path)
  /-- No attempt has found anything. -/
  | nothing
deriving DecidableEq, Repr

namespace Finding

/-- **The code of a finding**, unless it is a unit. -/
def code? : Finding → Option Int
  | .unit _ => none
  | .badImage _ _ isModule => if isModule then some 1509 else some 9
  | .notAUnit _ => some 1509
  | .nothing => some 6

/-- **What a search answers**: the unit, or the error.  `logs` are those of the attempts that found
nothing. -/
def result (name : String) (logs : List String) : Finding → Except ResolveError ResolvedUnit
  | .unit u => .ok u
  | .badImage path log isModule =>
      .error (if isModule then .notAUnit path.fileNameOrText
        else .invalidMetadata path.text "assembly" log)
  | .notAUnit path => .error (.notAUnit path.fileNameOrText)
  | .nothing => .error (.notFound name (String.join logs))

/-- The error has the code of the finding. -/
theorem code?_of_result {name : String} {logs : List String} {finding : Finding} {e : ResolveError}
    (h : finding.result name logs = .error e) : finding.code? = some e.code := by
  cases finding with
  | unit u => cases h
  | badImage path log isModule => cases isModule <;> cases h <;> rfl
  | notAUnit path => cases h; rfl
  | nothing => cases h; rfl

/-- Only of nothing is it said that a file cannot be found. -/
theorem eq_nothing_of_code {name : String} {logs : List String} {finding : Finding}
    {e : ResolveError} (h : finding.result name logs = .error e) (hcode : e.code = 6) :
    finding = .nothing := by
  have hfinding := code?_of_result h
  rw [hcode] at hfinding
  cases finding with
  | unit u => cases hfinding
  | badImage path log isModule => cases isModule <;> cases hfinding
  | notAUnit path => cases hfinding
  | nothing => rfl

/-- An empty log adds nothing. -/
theorem result_empty_cons (name : String) (logs : List String) (finding : Finding) :
    finding.result name ("" :: logs) = finding.result name logs := by
  cases finding with
  | nothing => simp [result, String.join_cons]
  | _ => rfl

end Finding

/-- **A search**: of some attempts the first ones are made in order, as long as they find nothing.
The one that finds something decides; a bad image is shown to the loader once more, to learn whether
it is a module.  `calls` are the calls made, and `logs` those of the attempts that found nothing. -/
inductive Searches (loader : UnitLoader σ) :
    List Attempt → Bench σ → List Call → List String → Finding → Bench σ → Prop
  | nothing (b : Bench σ) : Searches loader [] b [] [] .nothing b
  | missed {attempt : Attempt} {rest : List Attempt} {path : Path} {log : String}
      {calls : List Call} {logs : List String} {finding : Finding} {b b₁ b' : Bench σ}
      (hmade : attempt.make loader b = (.error (.notFound path log), b₁))
      (hrest : Searches loader rest b₁ calls logs finding b') :
      Searches loader (attempt :: rest) b (attempt.call :: calls) (log :: logs) finding b'
  | unit {attempt : Attempt} {rest : List Attempt} {u : ResolvedUnit} {b b' : Bench σ}
      (hmade : attempt.make loader b = (.ok u, b')) :
      Searches loader (attempt :: rest) b [attempt.call] [] (.unit u) b'
  | notAUnit {attempt : Attempt} {rest : List Attempt} {path : Path} {b b' : Bench σ}
      (hmade : attempt.make loader b = (.error (.notAUnit path), b')) :
      Searches loader (attempt :: rest) b [attempt.call] [] (.notAUnit path) b'
  | badImage {attempt : Attempt} {rest : List Attempt} {path : Path} {log : String}
      {isModule : Bool} {b b₁ b' : Bench σ}
      (hmade : attempt.make loader b = (.error (.badImage path log), b₁))
      (hprobed : Job.ask (.probeModule path) (loader.probeModule path) b₁ = (isModule, b')) :
      Searches loader (attempt :: rest) b [attempt.call, .probeModule path] []
        (.badImage path log isModule) b'

/-- Making an attempt is asking the loader. -/
theorem Attempt.make_journal (loader : UnitLoader σ) (attempt : Attempt) (b : Bench σ) :
    ∃ record, (attempt.make loader b).2.journal = b.journal ++ [⟨attempt.call, record⟩] := by
  cases attempt with
  | byPath path => exact ⟨_, rfl⟩
  | byName name => exact ⟨_, rfl⟩

theorem Attempt.make_engine (loader : UnitLoader σ) (attempt : Attempt) (b : Bench σ) :
    (attempt.make loader b).2.engine = b.engine := by
  cases attempt with
  | byPath path => exact Job.ask_engine _ _ b
  | byName name => exact Job.ask_engine _ _ b

namespace Searches

variable {loader : UnitLoader σ} {attempts : List Attempt} {b b' : Bench σ} {calls : List Call}
  {logs : List String} {finding : Finding}

/-- **A search makes its calls**, and no other. -/
theorem journal (h : Searches loader attempts b calls logs finding b') :
    ∃ made, b'.journal = b.journal ++ made ∧ made.map JournalEntry.call = calls := by
  induction h with
  | nothing b => exact ⟨[], (List.append_nil _).symm, rfl⟩
  | @missed attempt rest path log calls logs finding b b₁ b' hmade hrest ih =>
      obtain ⟨record, hfirst⟩ := attempt.make_journal loader b
      obtain ⟨made, hmore, hcalls⟩ := ih
      rw [hmade] at hfirst
      refine ⟨⟨attempt.call, record⟩ :: made, ?_, congrArg (attempt.call :: ·) hcalls⟩
      rw [hmore, hfirst, List.append_assoc, List.singleton_append]
  | @unit attempt rest u b b' hmade =>
      obtain ⟨record, hfirst⟩ := attempt.make_journal loader b
      rw [hmade] at hfirst
      exact ⟨_, hfirst, rfl⟩
  | @notAUnit attempt rest path b b' hmade =>
      obtain ⟨record, hfirst⟩ := attempt.make_journal loader b
      rw [hmade] at hfirst
      exact ⟨_, hfirst, rfl⟩
  | @badImage attempt rest path log isModule b b₁ b' hmade hprobed =>
      obtain ⟨record, hfirst⟩ := attempt.make_journal loader b
      have hsecond := Job.ask_journal (.probeModule path) (loader.probeModule path) b₁
      rw [hmade] at hfirst
      rw [hprobed, hfirst, List.append_assoc] at hsecond
      exact ⟨_, hsecond, rfl⟩

/-- **A search reports nothing.** -/
theorem engine (h : Searches loader attempts b calls logs finding b') : b'.engine = b.engine := by
  induction h with
  | nothing b => rfl
  | @missed attempt rest path log calls logs finding b b₁ b' hmade hrest ih =>
      have hfirst := attempt.make_engine loader b
      rw [hmade] at hfirst
      exact ih.trans hfirst
  | @unit attempt rest u b b' hmade =>
      have hfirst := attempt.make_engine loader b
      rwa [hmade] at hfirst
  | @notAUnit attempt rest path b b' hmade =>
      have hfirst := attempt.make_engine loader b
      rwa [hmade] at hfirst
  | @badImage attempt rest path log isModule b b₁ b' hmade hprobed =>
      have hfirst := attempt.make_engine loader b
      have hsecond := Job.ask_engine (.probeModule path) (loader.probeModule path) b₁
      rw [hmade] at hfirst
      rw [hprobed] at hsecond
      exact hsecond.trans hfirst

end Searches

/-! ## Trying attempts -/

/-- A bad image is a module or not, as the loader says. -/
theorem classify_badImage {loader : UnitLoader σ} {path : Path} {isModule : Bool} {b b' : Bench σ}
    (h : Job.ask (.probeModule path) (loader.probeModule path) b = (isModule, b'))
    (log : String) : classify loader (.badImage path log) b =
      (if isModule then .notAUnit path.fileNameOrText
        else .invalidMetadata path.text "assembly" log, b') := by
  rw [classify, Job.bind_of_eq h]
  cases isModule with
  | true => rfl
  | false => rfl

/-- **Trying attempts is a search**, and its answer is what the search comes to.  The log handed in
comes ahead of those of the search. -/
theorem searches_tryAttempts (loader : UnitLoader σ) (name : String) (attempts : List Attempt) :
    ∀ (log : String) (b : Bench σ), ∃ calls logs finding b',
      Searches loader attempts b calls logs finding b' ∧
        tryAttempts loader name log attempts b = (finding.result name (log :: logs), b') := by
  induction attempts with
  | nil =>
      intro log b
      refine ⟨[], [], .nothing, b, .nothing b, ?_⟩
      show (Except.error (ResolveError.notFound name log), b) = _
      simp [Finding.result, String.join_cons]
  | cons attempt rest ih =>
      intro log b
      rw [tryAttempts]
      cases hmade : attempt.make loader b with
      | mk answer b₁ =>
          rw [Job.bind_of_eq hmade]
          rcases answer with problem | u
          · cases problem with
            | notFound path more =>
                obtain ⟨calls, logs, finding, b', hrest, htry⟩ := ih (log ++ more) b₁
                refine ⟨_, _, finding, b', .missed hmade hrest, htry.trans ?_⟩
                cases finding with
                | nothing => simp [Finding.result, String.join_cons, String.append_assoc]
                | _ => rfl
            | notAUnit path => exact ⟨_, _, _, b₁, .notAUnit hmade, rfl⟩
            | badImage path more =>
                rcases hprobed : Job.ask (.probeModule path) (loader.probeModule path) b₁ with
                  ⟨isModule, b'⟩
                refine ⟨_, _, _, b', .badImage hmade hprobed, ?_⟩
                exact Job.bind_of_eq (classify_badImage hprobed more)
          · exact ⟨_, _, _, b₁, .unit hmade, rfl⟩

/-! ## Errors on record -/

/-- **What an error of a reference leaves on record**: itself, and behind it the log as a note if there
is one. -/
def ResolveError.diagnostics (e : ResolveError) : List Diagnostic :=
  ⟨.error, e.code, e.message, none⟩ ::
    if e.log = "" then []
    else [⟨.note, 0, "Log:\n" ++ Text.trimEnd e.log ++ "\n(log related to previous command)", none⟩]

theorem ResolveError.submitAll_notices (e : ResolveError) (engine : Engine) :
    (engine.submitAll (Notice.reports e.notices)).diagnostics =
        engine.diagnostics ++ e.diagnostics ∧
      (engine.submitAll (Notice.reports e.notices)).errors = engine.errors + 1 := by
  unfold notices diagnostics
  split
  · exact ⟨rfl, rfl⟩
  · exact ⟨by simp [Notice.reports, Notice.error, Engine.submit, Engine.record, Engine.recordError,
      Report.error, Report.note], rfl⟩

/-! ## References -/

namespace ReferenceResolver

variable {loader : UnitLoader σ} {r : ReferenceResolver} {name : String} {alias_ : Option String}
  {soft : Bool} {b b₁ : Bench σ}

/-- A name that is loaded already is that of a unit, and no path. -/
theorem loaded?_eq_some {position : Nat} (h : r.loaded? name = some position) :
    isPathShaped name = false ∧
      ∃ u, r.root.units[position]? = some u ∧ u.name = simpleName name := by
  unfold loaded? at h
  cases hshape : isPathShaped name with
  | true => rw [hshape] at h; cases h
  | false =>
      rw [hshape] at h
      obtain ⟨hlt, hname, -⟩ := List.findIdx?_eq_some_iff_getElem.mp h
      exact ⟨rfl, _, List.getElem?_eq_getElem hlt, of_decide_eq_true hname⟩

theorem loaded?_eq_none_iff :
    r.loaded? name = none ↔
      isPathShaped name = true ∨ ∀ u ∈ r.root.units, u.name ≠ simpleName name := by
  unfold loaded? RootNamespace.position?
  cases isPathShaped name with
  | true => simp
  | false => simp [List.findIdx?_eq_none_iff]

theorem resolve_of_loaded {position : Nat} (h : r.loaded? name = some position) :
    r.resolve loader name alias_ soft b =
      ((.ok r.root.units[position]?, r.bind position alias_), b) := by
  unfold resolve
  rw [h]
  rfl

/-- A unit that is found joins the root. -/
theorem resolve_of_found (alias_ : Option String) (soft : Bool) {found : ResolvedUnit}
    (h : r.loaded? name = none)
    (htry : tryAttempts loader name "" (attempts r.linkPaths name) b = (.ok found, b₁)) :
    ∃ b', r.resolve loader name alias_ soft b = ((.ok (some found), r.join found alias_), b') ∧
      b' = { b₁ with desk := b'.desk } ∧ b'.engine = b₁.engine := by
  unfold resolve
  rw [h]
  exact ⟨_, Job.bind_of_eq htry, rfl, rfl⟩

/-- A soft reference that is not found is dropped. -/
theorem resolve_of_dropped (alias_ : Option String) {missing log : String}
    (h : r.loaded? name = none)
    (htry : tryAttempts loader name "" (attempts r.linkPaths name) b =
      (.error (.notFound missing log), b₁)) :
    ∃ b', r.resolve loader name alias_ true b = ((.ok none, r), b') ∧
      b' = { b₁ with desk := b'.desk } ∧ b'.engine = b₁.engine := by
  unfold resolve
  rw [h]
  exact ⟨_, Job.bind_of_eq htry, rfl, rfl⟩

/-- Any other failure is reported. -/
theorem resolve_of_problem (alias_ : Option String) {problem : ResolveError}
    (h : r.loaded? name = none)
    (htry : tryAttempts loader name "" (attempts r.linkPaths name) b = (.error problem, b₁))
    (hkept : soft = true → problem.code ≠ 6) :
    ∃ b', r.resolve loader name alias_ soft b = ((.error problem, r), b') ∧
      b' = { b₁ with desk := b'.desk } ∧
      b'.engine = b₁.engine.submitAll (Notice.reports problem.notices) := by
  unfold resolve
  rw [h]
  refine ⟨{ b₁ with desk := b₁.desk.takeAll problem.notices }, ?_, rfl, Desk.takeAll_engine _ _⟩
  refine (Job.bind_of_eq htry).trans ?_
  cases problem with
  | notFound missing log =>
      cases soft with
      | true => exact absurd rfl (hkept rfl)
      | false => rfl
  | invalidMetadata file kind log => rfl
  | notAUnit file => rfl

/-- **How a reference is resolved.**  If a unit of the name is loaded already, it is bound, and nobody is
asked.  Otherwise there is a search, and the calls made are those of the search.  A unit that it finds
is appended and bound.  A soft reference for which it finds nothing is dropped: nothing is bound and
nothing reported.  Any other finding is answered by an error with the code of the finding, which leaves
itself on record once, and its log as a note if there is one; when nothing was found, the log is what
the attempts have logged, one after another. -/
theorem resolve_searches (loader : UnitLoader σ) (r : ReferenceResolver) (name : String)
    (alias_ : Option String) (soft : Bool) (b : Bench σ) :
    match r.resolve loader name alias_ soft b, r.loaded? name with
    | ((answer, r'), b'), some position =>
        isPathShaped name = false ∧
          (∃ u, r.root.units[position]? = some u ∧ u.name = simpleName name ∧
            answer = .ok (some u)) ∧
          r' = r.bind position alias_ ∧ r'.root.Binds position alias_ ∧ b' = b
    | ((answer, r'), b'), none =>
        (isPathShaped name = true ∨ ∀ u ∈ r.root.units, u.name ≠ simpleName name) ∧
          ∃ calls logs finding b₁, Searches loader (attempts r.linkPaths name) b calls logs finding b₁ ∧
            b' = { b₁ with desk := b'.desk } ∧
            (∃ made, b'.journal = b.journal ++ made ∧ made.map JournalEntry.call = calls) ∧
            match finding.result name logs with
            | .ok u =>
                answer = .ok (some u) ∧ r' = r.join u alias_ ∧
                  r'.root.units = r.root.units ++ [u] ∧
                  r'.root.Binds r.root.units.length alias_ ∧ b'.engine = b.engine
            | .error e =>
                r' = r ∧
                  if finding = .nothing ∧ soft = true then
                    answer = .ok none ∧ b'.engine = b.engine
                  else
                    answer = .error e ∧ finding.code? = some e.code ∧
                      b'.engine.diagnostics = b.engine.diagnostics ++ e.diagnostics ∧
                      b'.engine.errors = b.engine.errors + 1 := by
  cases hloaded : r.loaded? name with
  | some position =>
      rw [resolve_of_loaded hloaded]
      obtain ⟨hshape, u, hunit, hname⟩ := loaded?_eq_some hloaded
      exact ⟨hshape, ⟨u, hunit, hname, congrArg Except.ok hunit⟩, rfl, r.root.binds_bind _ _, rfl⟩
  | none =>
      obtain ⟨calls, logs, finding, b₁, hsearch, htry⟩ :=
        searches_tryAttempts loader name (attempts r.linkPaths name) "" b
      rw [finding.result_empty_cons] at htry
      have hjournal : ∀ b' : Bench σ, b' = { b₁ with desk := b'.desk } →
          ∃ made, b'.journal = b.journal ++ made ∧ made.map JournalEntry.call = calls := by
        intro b' hdesk
        obtain ⟨made, hmade, hcalls⟩ := hsearch.journal
        exact ⟨made, (congrArg Bench.journal hdesk).trans hmade, hcalls⟩
      cases hresult : finding.result name logs with
      | ok u =>
          rw [hresult] at htry
          obtain ⟨b', hresolve, hdesk, hengine⟩ := resolve_of_found alias_ soft hloaded htry
          rw [hresolve]
          refine ⟨loaded?_eq_none_iff.mp hloaded, calls, logs, finding, b₁, hsearch, hdesk,
            hjournal b' hdesk, ?_⟩
          rw [hresult]
          exact ⟨rfl, rfl, RootNamespace.bind_units _ _ _, RootNamespace.binds_bind _ _ _,
            hengine.trans hsearch.engine⟩
      | error e =>
          rw [hresult] at htry
          by_cases hdropped : finding = .nothing ∧ soft = true
          · obtain ⟨rfl, rfl⟩ := hdropped
            cases hresult
            obtain ⟨b', hresolve, hdesk, hengine⟩ := resolve_of_dropped alias_ hloaded htry
            rw [hresolve]
            refine ⟨loaded?_eq_none_iff.mp hloaded, calls, logs, .nothing, b₁, hsearch, hdesk,
              hjournal b' hdesk, rfl, ?_⟩
            rw [if_pos ⟨rfl, rfl⟩]
            exact ⟨rfl, hengine.trans hsearch.engine⟩
          · have hkept : soft = true → e.code ≠ 6 := fun hsoft hcode =>
              hdropped ⟨Finding.eq_nothing_of_code hresult hcode, hsoft⟩
            obtain ⟨b', hresolve, hdesk, hengine⟩ := resolve_of_problem alias_ hloaded htry hkept
            obtain ⟨hdiagnostics, herrors⟩ := e.submitAll_notices b₁.engine
            rw [← hengine, hsearch.engine] at hdiagnostics herrors
            rw [hresolve]
            refine ⟨loaded?_eq_none_iff.mp hloaded, calls, logs, finding, b₁, hsearch, hdesk,
              hjournal b' hdesk, ?_⟩
            rw [hresult]
            refine ⟨rfl, ?_⟩
            rw [if_neg hdropped]
            exact ⟨rfl, Finding.code?_of_result hresult, hdiagnostics, herrors⟩

end ReferenceResolver

end BatchCompiler

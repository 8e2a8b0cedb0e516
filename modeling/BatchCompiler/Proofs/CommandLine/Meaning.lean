import BatchCompiler.Proofs.CommandLine.Operations

/-!
# What an argument is read as

An argument is an option of one dialect or the other, a source, a separator, or nothing; which of them
can be read off the argument, the one behind it, and whether a separator has been read.  To handle the
argument is to do what it is read as, so that no later proof has to go through the dialects again.

## Main definitions

* `Meaning` — what an argument can be read as
* `Meaning.ofArgument`, `Reading.meaning?` — what it is read as
* `Meaning.handler`, `Meaning.carryOut` — what is done then
* `Meaning.additions`, `Meaning.MaySet` — what is added then, and the settings that may be made

## Main statements

* `Meaning.perform_handle` — an argument is handled as what it is read as
* `Meaning.does_handler` — what is done then is made of operations
* `Reading.turn_cons`, `Reading.exists_of_turn` — a turn does what its argument is read as
-/

namespace BatchCompiler

/-- **What an argument is read as.** -/
inductive Meaning where
  /-- An empty argument. -/
  | nothing
  | separator
  /-- A legacy option, with its value; an option that takes none has an empty one. -/
  | legacy (o : LegacyOption) (value : String)
  /-- A legacy option that takes a value and has no argument behind it. -/
  | valueless (o : LegacyOption)
  | colon (o : ColonOption) (written : ColonArgument)
  | source
  | unrecognized
deriving DecidableEq, Repr

namespace Meaning

/-! ## Reading an argument -/

/-- A legacy option, with the arguments behind it. -/
def ofLegacy (o : LegacyOption) (behind : List String) : Meaning :=
  if o.takesValue then (behind.head?.map (legacy o)).getD (valueless o) else legacy o ""

/-- A colon option, if the argument is one. -/
def ofColon? (arg : String) : Option Meaning :=
  (ColonOption.find? (ColonOption.nameOf (ColonOption.cut arg).1)).map fun (o, enabled) =>
    colon o ⟨(ColonOption.cut arg).1, (ColonOption.cut arg).2, enabled⟩

/-- What an argument is read as while options are read. -/
def ofOption (arg : String) (behind : List String) : Meaning :=
  match arg.toList with
  | '-' :: rest =>
      match LegacyOption.find? arg with
      | some o => ofLegacy o behind
      | none => (ofColon? (String.ofList ('/' :: rest))).getD unrecognized
  | '/' :: _ => (ofColon? arg).getD (if looksLikePath arg then source else unrecognized)
  | _ => source

section Dialects

variable {arg : String} {behind : List String} {rest : List Char}

theorem ofOption_of_dash (h : arg.toList = '-' :: rest) :
    ofOption arg behind = match LegacyOption.find? arg with
      | some o => ofLegacy o behind
      | none => (ofColon? (String.ofList ('/' :: rest))).getD unrecognized := by
  simp only [ofOption, h]

theorem ofOption_of_slash (h : arg.toList = '/' :: rest) :
    ofOption arg behind =
      (ofColon? arg).getD (if looksLikePath arg then source else unrecognized) := by
  simp only [ofOption, h]

theorem ofOption_of_plain (hdash : ∀ rest, arg.toList ≠ '-' :: rest)
    (hslash : ∀ rest, arg.toList ≠ '/' :: rest) : ofOption arg behind = source := by
  unfold ofOption
  split
  · exact absurd ‹_› (hdash _)
  · exact absurd ‹_› (hslash _)
  · rfl

end Dialects

/-- **What an argument is read as**, with the arguments behind it. -/
def ofArgument (optionsOpen : Bool) (arg : String) (behind : List String) : Meaning :=
  if arg = "" then nothing
  else if arg = ResponseFile.separator then separator
  else if optionsOpen then ofOption arg behind
  else source

/-- How many of the arguments behind are read along, if there are as many. -/
def taken : Meaning → Nat
  | legacy o _ | valueless o => if o.takesValue then 1 else 0
  | _ => 0

/-- **What is done** with an argument that is read so. -/
def handler (env : Environment) (arg : String) : Meaning → Handler Unit
  | nothing => pure ()
  | separator => modify ({ · with optionsOpen := false })
  | legacy o value => do
      Handler.tell (o.replacement?.map (LegacyOption.deprecation arg)).toList
      o.apply env arg value
  | valueless o => do
      Handler.tell (o.replacement?.map (LegacyOption.deprecation arg)).toList
      throw (o.missingValue arg)
  | colon o written => o.apply env written
  | source => do
      Handler.tell [.log .trace .options ("source argument " ++ arg)]
      Handler.addSource env arg false
  | unrecognized => throw (.unrecognizedOption arg)

/-- **What is added** for an argument that is read so. -/
def additions (arg : String) : Meaning → List Addition
  | legacy o value => o.additions value
  | colon o written => o.additions written
  | source => [.source arg false]
  | _ => []

/-- **The settings that may be made** for an argument that is read so. -/
def MaySet : Meaning → ReportingPolicy.Setting → Prop
  | legacy o _, s => o.MaySet s
  | colon o written, s => o.MaySet written s
  | _, _ => False

/-- **What an argument is read as is made of operations.** -/
theorem does_handler {env : Environment} (arg : String) (meaning : Meaning) :
    Handler.Does env meaning.MaySet (meaning.handler env arg) (meaning.additions arg) := by
  cases meaning with
  | nothing => exact .pure ()
  | separator => exact .close
  | legacy o value => exact Handler.does_tell_bind _ (o.does_apply arg value)
  | valueless o => exact Handler.does_tell_bind _ (.throw _)
  | colon o written => exact o.does_apply written
  | source => exact Handler.does_tell_bind _ (.source arg false)
  | unrecognized => exact .throw _

end Meaning

/-- **What the next argument of a reading is read as**, if there is one. -/
def Reading.meaning? (r : Reading) : Option Meaning :=
  match r.unread with
  | [] => none
  | arg :: rest => some (Meaning.ofArgument r.optionsOpen arg rest)

/-! ## Handling an argument -/

namespace Meaning

variable {env : Environment} {arg : String} {r : Reading}

/-- **Do what an argument is read as**, with the arguments that this takes along. -/
def carryOut (env : Environment) (arg : String) (meaning : Meaning) (r : Reading) :
    Except ArgumentError Unit × Reading :=
  perform (meaning.handler env arg) { r with unread := r.unread.drop meaning.taken }

/-- An option that has been read is all there is to an argument. -/
theorem perform_found {m : Handler Bool} {done : Handler Unit} {r r₀ : Reading}
    (h : perform m r = perform (do done; return true) r₀) (next : Handler Unit) :
    perform (do if ← m then return () else next) r = perform done r₀ := by
  rw [perform_bind, h, perform_bind]
  rcases perform done r₀ with ⟨problem | _, r₁⟩
  · rfl
  · rfl

/-- What is no option is tried as what comes next. -/
theorem perform_missed {m : Handler Bool} (h : perform m r = (.ok false, r))
    (next : Handler Unit) :
    perform (do if ← m then return () else next) r = perform next r := by
  rw [perform_bind, h]
  rfl

theorem perform_tell_bind {α : Type} (ns : List Notice) (f : Unit → Handler α) (r : Reading) :
    perform (Handler.tell ns >>= f) r = perform (f ()) { r with desk := r.desk.takeAll ns } := by
  rw [perform_bind, Handler.perform_tell]

/-- To take the next argument. -/
theorem perform_nextArgument?_bind {α : Type} (f : Option String → Handler α) (r : Reading) :
    perform (Handler.nextArgument? >>= f) r =
      perform (f r.unread.head?) { r with unread := r.unread.tail } := by
  rw [perform_bind]
  cases hunread : r.unread with
  | nil =>
      rw [Handler.perform_nextArgument?_nil hunread, List.head?_nil, List.tail_nil, ← hunread]
  | cons value rest =>
      rw [Handler.perform_nextArgument?_cons hunread, List.head?_cons, List.tail_cons]

theorem taken_ofLegacy (o : LegacyOption) (behind : List String) :
    (ofLegacy o behind).taken = if o.takesValue then 1 else 0 := by
  unfold ofLegacy
  cases htakes : o.takesValue with
  | false => simp [taken, htakes]
  | true =>
      cases behind.head? with
      | none => simp [taken, htakes]
      | some value => simp [taken, htakes]

/-- **A legacy option** takes its value from the arguments behind it. -/
theorem perform_tryRead_legacy {o : LegacyOption} (h : LegacyOption.find? arg = some o)
    (r : Reading) :
    perform (LegacyOption.tryRead env arg) r =
      perform (do (ofLegacy o r.unread).handler env arg; return true)
        { r with unread := r.unread.drop (ofLegacy o r.unread).taken } := by
  unfold LegacyOption.tryRead
  rw [h, taken_ofLegacy]
  dsimp only
  rw [perform_tell_bind]
  unfold ofLegacy
  cases htakes : o.takesValue with
  | false =>
      rw [if_neg Bool.false_ne_true, if_neg Bool.false_ne_true, if_neg Bool.false_ne_true,
        List.drop_zero]
      unfold handler
      rw [bind_assoc, perform_tell_bind]
  | true =>
      rw [if_pos rfl, if_pos rfl, if_pos rfl, List.drop_one, perform_nextArgument?_bind]
      dsimp only
      cases r.unread.head? with
      | none =>
          rw [Option.map_none, Option.getD_none]
          unfold handler
          rw [bind_assoc, perform_tell_bind]
      | some value =>
          rw [Option.map_some, Option.getD_some]
          unfold handler
          rw [bind_assoc, perform_tell_bind]

/-- **A colon option** takes nothing along. -/
theorem perform_tryRead_colon {arg slashed : String} {meaning : Meaning}
    (h : ofColon? slashed = some meaning) (r : Reading) :
    perform (ColonOption.tryRead env slashed) r =
      perform (do meaning.handler env arg; return true)
        { r with unread := r.unread.drop meaning.taken } := by
  obtain ⟨⟨o, enabled⟩, hfind, rfl⟩ := Option.map_eq_some_iff.mp h
  unfold ColonOption.tryRead
  dsimp only
  rw [hfind]
  rfl

/-- What is no option is told so, and nothing is done. -/
theorem perform_tryRead_colon_of_none {slashed : String} (h : ofColon? slashed = none)
    (r : Reading) : perform (ColonOption.tryRead env slashed) r = (.ok false, r) := by
  have hfind := Option.map_eq_none_iff.mp h
  unfold ColonOption.tryRead
  dsimp only
  rw [hfind]
  rfl

theorem perform_tryRead_legacy_of_none (h : LegacyOption.find? arg = none) (r : Reading) :
    perform (LegacyOption.tryRead env arg) r = (.ok false, r) := by
  unfold LegacyOption.tryRead
  rw [h]
  rfl

/-- While options are read, an argument is an option of either dialect, or a source. -/
theorem perform_dispatch (env : Environment) (arg : String) (r : Reading) :
    perform (Handler.dispatch env arg) r = (ofOption arg r.unread).carryOut env arg r := by
  unfold Handler.dispatch
  split
  · rename_i rest hletters
    rw [ofOption_of_dash hletters]
    cases hlegacy : LegacyOption.find? arg with
    | some o => exact perform_found (perform_tryRead_legacy hlegacy r) _
    | none =>
        rw [perform_missed (perform_tryRead_legacy_of_none hlegacy r)]
        dsimp only
        cases hcolon : ofColon? (String.ofList ('/' :: rest)) with
        | some meaning => exact perform_found (perform_tryRead_colon hcolon r) _
        | none =>
            rw [perform_missed (perform_tryRead_colon_of_none hcolon r)]
            rfl
  · rename_i rest hletters
    rw [ofOption_of_slash hletters]
    cases hcolon : ofColon? arg with
    | some meaning => exact perform_found (perform_tryRead_colon hcolon r) _
    | none =>
        rw [perform_missed (perform_tryRead_colon_of_none hcolon r)]
        cases looksLikePath arg with
        | false => rfl
        | true => rfl
  · rename_i hdash hslash
    rw [ofOption_of_plain hdash hslash]
    rfl

/-- **An argument is handled as what it is read as.** -/
theorem perform_handle (env : Environment) (arg : String) (r : Reading) :
    perform (Handler.handle env arg) r =
      (ofArgument r.optionsOpen arg r.unread).carryOut env arg r := by
  unfold Handler.handle ofArgument
  split
  · rfl
  · split
    · rfl
    · rw [perform_bind, perform_get]
      dsimp only
      split
      · exact perform_dispatch env arg r
      · rfl

end Meaning

/-! ## Turns -/

namespace Reading

variable {env : Environment} {r r' : Reading}

/-- **What a turn makes of a handler's answer**: failures and requests for information end the
reading. -/
def conclude (answer : Except ArgumentError Unit) (r : Reading) : Option Ending × Reading :=
  match answer with
  | .error problem => (some (.error problem), r)
  | .ok () =>
      match r.request with
      | none => (none, r)
      | some request =>
          (some (.ok (.info request)),
            { r with
              desk := r.desk.take
                (.log .debug .options ("informational request " ++ request.logName)) })

theorem turn_nil (hunread : r.unread = []) : r.turn env = (some r.finish, r) := by
  unfold turn
  rw [hunread]

/-- **A turn** handles the next argument. -/
theorem turn_cons {arg : String} {rest : List String} (hunread : r.unread = arg :: rest) :
    r.turn env = conclude (perform (Handler.handle env arg) { r with unread := rest }).1
      (perform (Handler.handle env arg) { r with unread := rest }).2 := by
  unfold turn perform
  rw [hunread]
  dsimp only
  rcases (Handler.handle env arg).run { r with unread := rest } with ⟨problem | _, r'⟩
  · rfl
  · rfl

/-- What a handler's answer is made of, changes no more than the desk. -/
theorem conclude_snd (answer : Except ArgumentError Unit) (r : Reading) :
    ∃ told, Notice.reports told = [] ∧
      (conclude answer r).2 = { r with desk := r.desk.takeAll told } := by
  unfold conclude
  split
  · exact ⟨[], rfl, rfl⟩
  · split
    · exact ⟨[], rfl, rfl⟩
    · rename_i request _
      exact ⟨[.log .debug .options ("informational request " ++ request.logName)], rfl, rfl⟩

/-- A turn goes on where an argument is handled and no information is asked for. -/
theorem turn_of_perform {arg : String} {rest : List String} (hunread : r.unread = arg :: rest)
    (hhandle : perform (Handler.handle env arg) { r with unread := rest } = (.ok (), r'))
    (hrequest : r'.request = none) : r.turn env = (none, r') := by
  rw [turn_cons hunread, hhandle]
  unfold conclude
  dsimp only
  rw [hrequest]

theorem perform_of_turn (h : r.turn env = (none, r')) :
    ∃ arg rest, r.unread = arg :: rest ∧
      perform (Handler.handle env arg) { r with unread := rest } = (.ok (), r') ∧
      r'.request = none := by
  cases hunread : r.unread with
  | nil =>
      rw [turn_nil hunread] at h
      cases h
  | cons arg rest =>
      rw [turn_cons hunread] at h
      refine ⟨arg, rest, rfl, ?_⟩
      rcases hhandle : perform (Handler.handle env arg) { r with unread := rest } with
        ⟨problem | _, r₁⟩
      · rw [hhandle] at h
        cases h
      · rw [hhandle] at h
        unfold conclude at h
        dsimp only at h
        split at h
        · rename_i hrequest
          cases h
          exact ⟨rfl, hrequest⟩
        · cases h

/-- **A turn that goes on** has done what its argument is read as. -/
theorem exists_of_turn (h : r.turn env = (none, r')) :
    ∃ arg rest meaning, r.unread = arg :: rest ∧ r.meaning? = some meaning ∧
      meaning.carryOut env arg { r with unread := rest } = (.ok (), r') := by
  obtain ⟨arg, rest, hunread, hhandle, -⟩ := perform_of_turn h
  rw [Meaning.perform_handle] at hhandle
  refine ⟨arg, rest, _, hunread, ?_, hhandle⟩
  unfold meaning?
  rw [hunread]

/-- **The turns of a reading**, each with the reading before it and after it. -/
def turns (env : Environment) : Nat → Reading → List (Reading × Reading)
  | 0, _ => []
  | most + 1, r =>
      match r.turn env with
      | (some _, r') => [(r, r')]
      | (none, r') => (r, r') :: turns env most r'

/-- There is a first turn. -/
theorem mem_turns_succ (env : Environment) (most : Nat) (r : Reading) :
    (r, (r.turn env).2) ∈ turns env (most + 1) r := by
  rw [turns]
  split
  · rename_i hturn
    rw [hturn]
    exact List.mem_cons_self
  · rename_i hturn
    rw [hturn]
    exact List.mem_cons_self

end Reading

end BatchCompiler

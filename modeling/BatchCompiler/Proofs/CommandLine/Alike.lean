import BatchCompiler.Proofs.CommandLine.Meaning
import BatchCompiler.Proofs.Diagnostic.Kept
import BatchCompiler.Proofs.SideBySide

/-!
# Readings that are alike

Reading a command line never asks what is on record, nor what has been printed or logged.  Two readings
that agree in everything else therefore go on alike, to the same end: what may differ is the transcript,
and the engine as far as the same reports and the same settings of the policy keep it so.

## Main definitions

* `Engine.Likeness` — a relation of engines that reports and allowed settings keep
* `Engine.RecordAlike` — engines that have recorded the same from some time on
* `Reading.Alike` — readings that are alike
* `Handler.Unaware` — handlers that leave them so, whatever relation of engines is kept

## Main statements

* `Handler.Does.alike` — a handler made of operations does the same to readings that are alike
* `Reading.alike_turn` — so does one turn
* `Reading.run_rel` — and so does a whole reading, if each of its turns does
-/

namespace BatchCompiler

open ReportingPolicy (Setting)

/-! ## Engines -/

namespace Engine

/-- **A relation of engines that reading keeps**, as far as it makes allowed settings only. -/
structure Likeness (allowed : Setting → Prop) (E : Engine → Engine → Prop) : Prop where
  submit : ∀ {e e' : Engine}, E e e' → ∀ r, E (e.submit r) (e'.submit r)
  withPolicy : ∀ {e e' : Engine}, E e e' → ∀ s, allowed s →
    E (e.withPolicy s.change) (e'.withPolicy s.change)

variable {allowed : Setting → Prop} {E : Engine → Engine → Prop} {e e' : Engine}

theorem Likeness.submitAll (hE : Likeness allowed E) (h : E e e') (rs : List Report) :
    E (e.submitAll rs) (e'.submitAll rs) := by
  induction rs generalizing e e' with
  | nil => exact h
  | cons r rest ih => exact ih (hE.submit h r)

theorem likeness_eq : Likeness allowed Eq where
  submit := by
    rintro e _ rfl r
    rfl
  withPolicy := by
    rintro e _ rfl s _
    rfl

/-- **Engines that record the same from some time on**, when they had `ds` and `ds'` on record. -/
structure RecordAlike (ds ds' : List Diagnostic) (e e' : Engine) : Prop where
  policy : e.policy = e'.policy
  diagnostics : ∃ more, e.diagnostics = ds ++ more ∧ e'.diagnostics = ds' ++ more

/-- What is recorded of a report is for the policy alone to say. -/
theorem likeness_recordAlike (ds ds' : List Diagnostic) :
    Likeness allowed (RecordAlike ds ds') where
  submit := by
    rintro e e' ⟨hpolicy, more, hds, hds'⟩ r
    refine ⟨by rw [submit_policy, submit_policy, hpolicy], more ++ (e'.policy.kept? r).toList, ?_, ?_⟩
    · rw [submit_diagnostics, hds, hpolicy, List.append_assoc]
    · rw [submit_diagnostics, hds', List.append_assoc]
  withPolicy := by
    rintro e e' ⟨hpolicy, hmore⟩ s _
    exact ⟨congrArg s.change hpolicy, hmore⟩

end Engine

/-! ## Handlers -/

/-- **Two readings are alike**: they differ in their transcripts, and in their engines within `E`. -/
structure Reading.Alike (E : Engine → Engine → Prop) (r r' : Reading) : Prop where
  config : r.config = r'.config
  unread : r.unread = r'.unread
  optionsOpen : r.optionsOpen = r'.optionsOpen
  request : r.request = r'.request
  engine : E r.desk.engine r'.desk.engine

variable {allowed : Setting → Prop} {E : Engine → Engine → Prop} {env : Environment}

namespace Handler

theorem alike_tell (hE : Engine.Likeness allowed E) (ns : List Notice) :
    InStep (Reading.Alike E) (tell ns) (tell ns) :=
  sideBySide_modify fun r r' h =>
    { h with
      engine := by
        dsimp only
        rw [Desk.takeAll_engine, Desk.takeAll_engine]
        exact hE.submitAll h.engine _ }

theorem alike_configure (change : Config → Config) :
    InStep (Reading.Alike E) (configure change) (configure change) :=
  sideBySide_modify fun _ _ h => { h with config := congrArg change h.config }

theorem alike_configureTelling (hE : Engine.Likeness allowed E)
    (change : Config → Config × List Notice) :
    InStep (Reading.Alike E) (configureTelling change) (configureTelling change) := by
  refine sideBySide_get_bind fun r r' h => ?_
  rw [h.config]
  exact (alike_configure _).bind fun _ => alike_tell hE _

theorem alike_expandPackages (hE : Engine.Likeness allowed E) (packages : String) :
    InStep (Reading.Alike E) (expandPackages env packages) (expandPackages env packages) := by
  refine sideBySide_get_bind fun r r' h => ?_
  rw [h.config]
  refine (alike_tell hE _).bind fun _ => ?_
  split
  · exact sideBySide_modify fun _ _ h => { h with unread := by dsimp only; rw [h.unread] }
  · exact inStep_throw _

/-- **A handler made of operations** does the same to readings that are alike. -/
theorem Does.alike (hE : Engine.Likeness allowed E) {α : Type} {m : Handler α}
    {as : List Addition} (h : Does env allowed m as) : InStep (Reading.Alike E) m m := by
  induction h with
  | pure a => exact inStep_pure a
  | throw problem => exact inStep_throw problem
  | tell ns => exact alike_tell hE ns
  | setPolicy s hs =>
      exact sideBySide_modify fun _ _ h => { h with engine := hE.withPolicy h.engine s hs }
  | configure _ => exact alike_configure _
  | close => exact sideBySide_modify fun _ _ h => { h with optionsOpen := rfl }
  | ask request => exact sideBySide_modify fun _ _ h => { h with request := rfl }
  | expandPackages packages => exact alike_expandPackages hE packages
  | source | resource | reference => exact alike_configureTelling hE _
  | symbol _ => exact alike_configure _
  | bind _ _ ihm ihf => exact ihm.bind ihf
  | andThen _ _ _ ihm ihf => exact ihm.bind fun _ => ihf

/-- **A handler that looks neither at the engine nor at the transcript.** -/
def Unaware (m : Handler Unit) : Prop :=
  ∀ {E : Engine → Engine → Prop}, (∀ allowed, Engine.Likeness allowed E) →
    InStep (Reading.Alike E) m m

theorem Does.unaware {m : Handler Unit} {as : List Addition} (h : Does env allowed m as) :
    Unaware m := fun hE => h.alike (hE allowed)

end Handler

/-! ## Readings -/

namespace Reading

variable {r r' : Reading}

/-- **What is on record stays there**, whatever is done without looking at it. -/
theorem exists_more_perform {m : Handler Unit} (hm : Handler.Unaware m) (r : Reading) :
    ∃ more, (perform m r).2.desk.engine.diagnostics = r.desk.engine.diagnostics ++ more := by
  have hstart : Alike (Engine.RecordAlike r.desk.engine.diagnostics r.desk.engine.diagnostics) r r :=
    ⟨rfl, rfl, rfl, rfl, rfl, [], (List.append_nil _).symm, (List.append_nil _).symm⟩
  rcases hm (fun _ => Engine.likeness_recordAlike _ _) r r hstart with
    ⟨a, s, s', hs, -, hend⟩ | ⟨problem, s, s', hs, -, hend⟩
  · rw [hs]
    exact hend.engine.diagnostics.imp fun _ => And.left
  · rw [hs]
    exact hend.engine.diagnostics.imp fun _ => And.left

theorem Alike.conclude (h : Alike E r r') (answer : Except ArgumentError Unit) :
    (Reading.conclude answer r).1 = (Reading.conclude answer r').1 ∧
      Alike E (Reading.conclude answer r).2 (Reading.conclude answer r').2 := by
  cases answer with
  | error problem => exact ⟨rfl, h⟩
  | ok _ =>
      unfold Reading.conclude
      dsimp only
      rw [h.request]
      cases r'.request with
      | none => exact ⟨rfl, h⟩
      | some request => exact ⟨rfl, h.config, h.unread, h.optionsOpen, rfl, h.engine⟩

/-- What is done in step is concluded alike. -/
theorem alike_conclude_perform {m m' : Handler Unit} (hm : InStep (Alike E) m m')
    (h : Alike E r r') :
    (conclude (perform m r).1 (perform m r).2).1 =
        (conclude (perform m' r').1 (perform m' r').2).1 ∧
      Alike E (conclude (perform m r).1 (perform m r).2).2
        (conclude (perform m' r').1 (perform m' r').2).2 := by
  rcases hm r r' h with ⟨a, s, s', hm, hm', hs⟩ | ⟨problem, s, s', hm, hm', hs⟩
  · rw [hm, hm']
    exact hs.conclude _
  · rw [hm, hm']
    exact hs.conclude _

/-- **One turn** does the same to readings that are alike, if the settings that its argument may make
are allowed. -/
theorem alike_turn (hE : Engine.Likeness allowed E) (h : Alike E r r')
    (hallowed : ∀ meaning, r'.meaning? = some meaning → ∀ s, meaning.MaySet s → allowed s) :
    (r.turn env).1 = (r'.turn env).1 ∧ Alike E (r.turn env).2 (r'.turn env).2 := by
  cases hunread : r'.unread with
  | nil =>
      rw [turn_nil hunread, turn_nil (h.unread.trans hunread)]
      unfold finish
      rw [h.config]
      exact ⟨rfl, h⟩
  | cons arg rest =>
      have hmeaning : r'.meaning? = some (Meaning.ofArgument r'.optionsOpen arg rest) := by
        unfold meaning?
        rw [hunread]
      have hdoes : Handler.Does env _ _ _ :=
        Meaning.does_handler arg (Meaning.ofArgument r'.optionsOpen arg rest)
      rw [turn_cons hunread, turn_cons (h.unread.trans hunread), Meaning.perform_handle,
        Meaning.perform_handle, h.optionsOpen]
      exact alike_conclude_perform ((hdoes.mono (hallowed _ hmeaning)).alike hE)
        ⟨h.config, rfl, rfl, h.request, h.engine⟩

/-- **Two readings come to the same end**, or to none, in so many turns, if each turn does the same to
them where it ends calmly. -/
theorem run_rel {R : Reading → Reading → Prop} {calm : Reading → Prop}
    (hturn : ∀ r r', R r r' → calm (r'.turn env).2 →
      (r.turn env).1 = (r'.turn env).1 ∧ R (r.turn env).2 (r'.turn env).2) (h : R r r')
    {most : Nat} (hcalm : ∀ turn ∈ turns env most r', calm turn.2) :
    Option.Rel (fun x x' => x.1 = x'.1 ∧ R x.2 x'.2) (run env most r) (run env most r') := by
  -- The two readings end in the same turn, so that neither is left behind.
  induction most generalizing r r' with
  | zero => exact .none
  | succ most ih =>
      obtain ⟨hsame, hrel⟩ := hturn r r' h (hcalm _ (mem_turns_succ env most r'))
      rw [turns] at hcalm
      rw [run, run]
      rcases hr : r.turn env with ⟨_ | ending, s⟩
      · rcases hr' : r'.turn env with ⟨_ | ending', s'⟩
        · rw [hr, hr'] at hrel
          rw [hr'] at hcalm
          exact ih hrel fun turn hmem => hcalm turn (List.mem_cons_of_mem _ hmem)
        · rw [hr, hr'] at hsame
          cases hsame
      · rcases hr' : r'.turn env with ⟨_ | ending', s'⟩
        · rw [hr, hr'] at hsame
          cases hsame
        · rw [hr, hr'] at hsame hrel
          cases hsame
          exact .some ⟨rfl, hrel⟩

/-- **Readings that are alike** come to the same end, if any setting leaves them so. -/
theorem alike_run (hE : ∀ allowed, Engine.Likeness allowed E) (h : Alike E r r') (most : Nat) :
    Option.Rel (fun x x' => x.1 = x'.1 ∧ Alike E x.2 x'.2) (run env most r) (run env most r') := by
  have hturn (r r' : Reading) (h : Alike E r r') (_ : True) :
      (r.turn env).1 = (r'.turn env).1 ∧ Alike E (r.turn env).2 (r'.turn env).2 :=
    alike_turn (hE fun _ => True) h fun _ _ _ _ => trivial
  exact @run_rel env r r' (Alike E) (fun _ => True) hturn h most fun _ _ => trivial

end Reading

end BatchCompiler

import Mathlib.Logic.Relation
import BatchCompiler.Proofs.CommandLine.Meaning
import BatchCompiler.Proofs.Diagnostic.Kept

/-!
# What handling an argument can do

An argument is handled by small steps: something is told, an argument is taken or added, one setting of
the configuration or of the reporting policy changes.  There is one option that sets what error is
expected; it does that and nothing else.  So what holds of every small step holds of every turn.

## Main definitions

* `Reading.Step` — a small step of a reading
* `Reading.Expects` — the expectation is set
* `Handler.Steps` — a handler that makes small steps

## Main statements

* `Handler.Does.steps` — a handler made of operations makes small steps
* `Reading.steps_or_expects_turn` — every turn is made of small steps, or sets the expectation
-/

namespace BatchCompiler

namespace Reading

/-- **A small step of a reading.**  What is told in it, and what is unread after it, is arbitrary. -/
inductive Step (env : Environment) : Reading → Reading → Prop
  | tell (r : Reading) (ns : List Notice) : Step env r { r with desk := r.desk.takeAll ns }
  | unread (r : Reading) (args : List String) : Step env r { r with unread := args }
  | close (r : Reading) : Step env r { r with optionsOpen := false }
  | ask (r : Reading) (request : InfoRequest) : Step env r { r with request := some request }
  | policy (r : Reading) {s : ReportingPolicy.Setting} (h : ¬s.Expects) :
      Step env r { r with desk := { r.desk with engine := r.desk.engine.withPolicy s.change } }
  | config (r : Reading) {c : Config} (h : c.lists = r.config.lists) :
      Step env r { r with config := c }
  | define (r : Reading) (symbol : String) :
      Step env r { r with config := r.config.define symbol }
  | source (r : Reading) (spec : String) (recurse : Bool) :
      Step env r { r with config :=
        { r.config with
          sources := (r.config.sources.process env.files spec recurse env.toolkit.engine).1 } }
  | resource (r : Reading) (resource : Resource) :
      Step env r { r with config :=
        { r.config with resources := (r.config.resources.add resource).1 } }
  | reference (r : Reading) (entry : String) :
      Step env r { r with config :=
        { r.config with references := (r.config.references.addWritten entry).1 } }

/-- **The expectation is set**, or left as it is, and nothing is reported or configured. -/
structure Expects (r r' : Reading) : Prop where
  config : r'.config = r.config
  engine : ∃ expected, r'.desk.engine = r.desk.engine.withPolicy ({ · with expected })

end Reading

namespace Handler

variable {α β : Type} {env : Environment}

/-- **A handler that makes small steps**, whether it fails or not. -/
def Steps (env : Environment) (m : Handler α) : Prop :=
  ∀ r, Relation.ReflTransGen (Reading.Step env) r (perform m r).2

theorem steps_bind {m : Handler α} {f : α → Handler β} (hm : Steps env m)
    (hf : ∀ a, Steps env (f a)) : Steps env (m >>= f) := by
  intro r
  have hfirst := hm r
  rw [perform_bind]
  rcases hperform : perform m r with ⟨problem | a, r₁⟩
  · rw [hperform] at hfirst
    exact hfirst
  · rw [hperform] at hfirst
    exact hfirst.trans (hf a r₁)

theorem steps_expandPackages (packages : String) : Steps env (expandPackages env packages) := by
  intro r
  unfold expandPackages
  rw [perform_bind, perform_get]
  dsimp only
  rw [perform_bind, perform_tell]
  dsimp only
  split
  · exact .tail (.single (.tell r _)) (.unread _ _)
  · exact .single (.tell r _)

/-- **A handler made of operations makes small steps**, if it leaves the expectation alone. -/
theorem Does.steps {allowed : ReportingPolicy.Setting → Prop} {m : Handler α} {as : List Addition}
    (h : Does env allowed m as) (hallowed : ∀ s, allowed s → ¬s.Expects) : Steps env m := by
  induction h with
  | pure | throw => exact fun _ => .refl
  | tell ns => exact fun r => .single (.tell r ns)
  | setPolicy s hs => exact fun r => .single (.policy r (hallowed s hs))
  | configure hsame => exact fun r => .single (.config r (hsame r.config))
  | close => exact fun r => .single (.close r)
  | ask request => exact fun r => .single (.ask r request)
  | expandPackages packages => exact steps_expandPackages packages
  | source spec recurse => exact fun r => .tail (.single (.source r spec recurse)) (.tell _ _)
  | resource resource => exact fun r => .tail (.single (.resource r resource)) (.tell _ _)
  | reference entry => exact fun r => .tail (.single (.reference r entry)) (.tell _ _)
  | symbol name => exact fun r => .single (.define r name)
  | bind _ _ ihm ihf => exact steps_bind ihm ihf
  | andThen _ _ _ ihm ihf => exact steps_bind ihm fun _ => ihf

end Handler

/-! ## Arguments -/

namespace Meaning

variable {env : Environment} {meaning : Meaning}

/-- **One option alone says what error is expected.** -/
theorem not_expects_of_maySet (h : ∀ value, meaning ≠ .legacy .expectError value)
    {s : ReportingPolicy.Setting} (hs : meaning.MaySet s) : ¬s.Expects := by
  rintro ⟨code, rfl⟩
  cases meaning with
  | legacy o value =>
      obtain hplain | ⟨-, hraises⟩ | ⟨rfl, -⟩ := hs
      · exact hplain.2 ⟨code, rfl⟩
      · cases hraises
      · exact h value rfl
  | colon o written =>
      obtain hplain | ⟨-, hraises⟩ := hs
      · exact hplain.2 ⟨code, rfl⟩
      · cases hraises
  | nothing | separator | valueless | source | unrecognized => exact hs

/-- The option that says what error is expected does that alone. -/
theorem expects_handler (arg value : String) (r : Reading) :
    r.Expects (perform ((legacy .expectError value).handler env arg) r).2 := by
  unfold handler
  rw [perform_tell_bind, LegacyOption.apply]
  cases Text.integer32? value with
  | none => exact ⟨rfl, _, rfl⟩
  | some code => exact ⟨rfl, _, rfl⟩

/-- **Every argument is handled by small steps, or sets the expectation.** -/
theorem steps_or_expects_handler (env : Environment) (arg : String) (meaning : Meaning)
    (r : Reading) :
    Relation.ReflTransGen (Reading.Step env) r (perform (meaning.handler env arg) r).2 ∨
      r.Expects (perform (meaning.handler env arg) r).2 := by
  by_cases hexpects : ∃ value, meaning = .legacy .expectError value
  · obtain ⟨value, rfl⟩ := hexpects
    exact .inr (expects_handler arg value r)
  · refine .inl ((does_handler arg meaning).steps (fun s hs => ?_) r)
    exact not_expects_of_maySet (fun value h => hexpects ⟨value, h⟩) hs

end Meaning

/-- **Every turn is made of small steps, or sets the expectation.** -/
theorem Reading.steps_or_expects_turn (env : Environment) (r : Reading) :
    Relation.ReflTransGen (Step env) r (r.turn env).2 ∨ r.Expects (r.turn env).2 := by
  cases hunread : r.unread with
  | nil =>
      rw [turn_nil hunread]
      exact .inl .refl
  | cons arg rest =>
      obtain ⟨told, hreports, hconclude⟩ :=
        conclude_snd (perform (Handler.handle env arg) { r with unread := rest }).1
          (perform (Handler.handle env arg) { r with unread := rest }).2
      rw [turn_cons hunread, hconclude, Meaning.perform_handle]
      obtain hsteps | hexpects := Meaning.steps_or_expects_handler env arg
        (Meaning.ofArgument r.optionsOpen arg rest)
        { r with unread := rest.drop (Meaning.ofArgument r.optionsOpen arg rest).taken }
      · exact .inl (.tail (.head (.unread r _) hsteps) (.tell _ told))
      · obtain ⟨expected, hengine⟩ := hexpects.engine
        refine .inr ⟨hexpects.config, expected, ?_⟩
        show (Desk.takeAll _ told).engine = _
        rw [Desk.takeAll_engine, hreports]
        exact hengine

end BatchCompiler

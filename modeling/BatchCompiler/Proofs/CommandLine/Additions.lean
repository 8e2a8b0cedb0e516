import BatchCompiler.Proofs.CommandLine.Meaning

/-!
# What arguments add to the lists

The sources, the resources, the references and the conditional symbols of a configuration are lists
that arguments add to.  What an argument adds can be told from what it is read as; so the lists are
those additions carried out one after another.

## Main definitions

* `Config.Lists.addAll` — additions carried out
* `Reading.additions` — what the next argument adds

## Main statements

* `Handler.Does.adds` — a handler made of operations carries out its additions
* `Reading.lists_turn` — a turn carries out the additions of its argument
-/

namespace BatchCompiler

namespace Config.Lists

/-- **Carry out an addition**: a source as its files, and a symbol unless it is there already. -/
def add (env : Environment) (l : Lists) : Addition → Lists
  | .source spec recurse =>
      { l with sources := (l.sources.process env.files spec recurse env.toolkit.engine).1 }
  | .resource r => { l with resources := (l.resources.add r).1 }
  | .reference entry => { l with references := (l.references.addWritten entry).1 }
  | .symbol name =>
      { l with symbols := if name ∈ l.symbols then l.symbols else l.symbols ++ [name] }

/-- Carry out additions in order. -/
def addAll (env : Environment) (l : Lists) (as : List Addition) : Lists := as.foldl (add env) l

theorem addAll_append {env : Environment} (l : Lists) (as more : List Addition) :
    l.addAll env (as ++ more) = (l.addAll env as).addAll env more := List.foldl_append

end Config.Lists

theorem Config.lists_define (env : Environment) (c : Config) (name : String) :
    (c.define name).lists = c.lists.add env (.symbol name) := by
  show _ = ({ c.lists with
    symbols := if name ∈ c.defines then c.defines else c.defines ++ [name] } : Lists)
  unfold Config.define
  split
  · rfl
  · rfl

/-- **What the next argument of a reading adds.** -/
def Reading.additions (r : Reading) : List Addition :=
  match r.unread with
  | [] => []
  | arg :: rest => (Meaning.ofArgument r.optionsOpen arg rest).additions arg

/-! ## Handlers -/

namespace Handler

variable {α β : Type} {env : Environment} {as : List Addition}

/-- **A handler carries out additions**, whether it fails or not. -/
def Adds (env : Environment) (m : Handler α) (as : List Addition) : Prop :=
  ∀ r, (perform m r).2.config.lists = r.config.lists.addAll env as

/-- What comes behind adds nothing. -/
theorem adds_bind {m : Handler α} {f : α → Handler β} (hm : Adds env m as)
    (hf : ∀ a, Adds env (f a) []) : Adds env (m >>= f) as := by
  intro r
  have hfirst := hm r
  rw [perform_bind]
  rcases hperform : perform m r with ⟨problem | a, r₁⟩
  · rw [hperform] at hfirst
    exact hfirst
  · rw [hperform] at hfirst
    exact (hf a r₁).trans hfirst

theorem adds_andThen {m : Handler Unit} {f : Unit → Handler β} {more : List Addition}
    (hm : Adds env m as) (hok : ∀ r, (perform m r).1 = .ok ()) (hf : Adds env (f ()) more) :
    Adds env (m >>= f) (as ++ more) := by
  intro r
  have hfirst := hm r
  have hdone := hok r
  rw [perform_bind, Config.Lists.addAll_append, ← hfirst]
  rcases hperform : perform m r with ⟨problem | _, r₁⟩
  · rw [hperform] at hdone
    cases hdone
  · exact hf r₁

theorem adds_expandPackages (packages : String) : Adds env (expandPackages env packages) [] := by
  intro r
  unfold expandPackages
  rw [perform_bind, perform_get]
  dsimp only
  rw [perform_bind, perform_tell]
  dsimp only
  split
  · rfl
  · rfl

/-- **A handler made of operations carries out its additions.** -/
theorem Does.adds {allowed : ReportingPolicy.Setting → Prop} {m : Handler α}
    (h : Does env allowed m as) : Adds env m as := by
  induction h with
  | configure hsame => exact fun r => hsame r.config
  | symbol name => exact fun r => r.config.lists_define env name
  | expandPackages packages => exact adds_expandPackages packages
  | bind _ _ ihm ihf => exact adds_bind ihm ihf
  | andThen _ hok _ ihm ihf => exact adds_andThen ihm hok ihf
  | _ => exact fun _ => rfl

end Handler

/-! ## Turns -/

/-- **A turn carries out the additions of its argument**, whether it ends the reading or not. -/
theorem Reading.lists_turn (env : Environment) (r : Reading) :
    (r.turn env).2.config.lists = r.config.lists.addAll env r.additions := by
  unfold additions
  cases hunread : r.unread with
  | nil =>
      rw [turn_nil hunread]
      rfl
  | cons arg rest =>
      obtain ⟨told, -, hconclude⟩ :=
        conclude_snd (perform (Handler.handle env arg) { r with unread := rest }).1
          (perform (Handler.handle env arg) { r with unread := rest }).2
      rw [turn_cons hunread, hconclude, Meaning.perform_handle]
      exact (Meaning.does_handler arg _).adds _

end BatchCompiler

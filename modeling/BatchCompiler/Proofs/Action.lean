import Mathlib.Tactic.Common

/-!
# Actions that may fail

The handlers of the command line and the stages of a run are both actions on a state that may fail:
what an action has done to the state by the time it fails stays done.  This module opens such actions
once, so that no later proof unfolds the monad.

## Main definitions

* `perform` — what an action gives from a state: an answer or a failure, and the state after it

## Main statements

* `perform_bind`, `perform_bind_eq_ok_iff` — two actions in a row
* `perform_forM_cons` — an action for each element of a list
-/

namespace BatchCompiler

variable {ε σ α β : Type}

/-- **Perform an action** from a state. -/
def perform (m : ExceptT ε (StateM σ) α) (s : σ) : Except ε α × σ := m.run s

@[simp] theorem perform_pure (a : α) (s : σ) :
    perform (pure a : ExceptT ε (StateM σ) α) s = (.ok a, s) := rfl

@[simp] theorem perform_throw (failure : ε) (s : σ) :
    perform (throw failure : ExceptT ε (StateM σ) α) s = (.error failure, s) := rfl

@[simp] theorem perform_get (s : σ) :
    perform (get : ExceptT ε (StateM σ) σ) s = (.ok s, s) := rfl

@[simp] theorem perform_modify (change : σ → σ) (s : σ) :
    perform (modify change : ExceptT ε (StateM σ) PUnit) s = (.ok (), change s) := rfl

/-- **Two actions in a row**: the second is performed if the first gives an answer. -/
theorem perform_bind (m : ExceptT ε (StateM σ) α) (f : α → ExceptT ε (StateM σ) β) (s : σ) :
    perform (m >>= f) s = match perform m s with
      | (.ok a, s') => perform (f a) s'
      | (.error failure, s') => (.error failure, s') := by
  unfold perform ExceptT.run
  simp only [bind, ExceptT.bind, ExceptT.mk, StateT.bind, ExceptT.bindCont]
  rcases m s with ⟨_ | a, s'⟩
  · rfl
  · rfl

theorem perform_bind_eq_ok_iff {m : ExceptT ε (StateM σ) α} {f : α → ExceptT ε (StateM σ) β}
    {s s' : σ} {b : β} :
    perform (m >>= f) s = (.ok b, s') ↔
      ∃ a s₁, perform m s = (.ok a, s₁) ∧ perform (f a) s₁ = (.ok b, s') := by
  rw [perform_bind]
  rcases perform m s with ⟨_ | a, s₁⟩
  · simp
  · simp

/-- **The same for each element of a list**: the first, then the others if it gave an answer. -/
theorem perform_forM_cons {f : α → ExceptT ε (StateM σ) PUnit} (a : α) (rest : List α) (s : σ) :
    perform ((a :: rest).forM f) s = match perform (f a) s with
      | (.ok (), s') => perform (rest.forM f) s'
      | (.error failure, s') => (.error failure, s') := by
  show perform (f a >>= fun _ => rest.forM f) s = _
  rw [perform_bind]
  rcases perform (f a) s with ⟨_ | ⟨⟩, s'⟩
  · rfl
  · rfl

end BatchCompiler

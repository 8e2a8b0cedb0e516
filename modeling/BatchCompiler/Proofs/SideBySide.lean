import BatchCompiler.Proofs.Action

/-!
# Actions side by side

Two runs of a program are compared by letting two actions go on from two states, step for step.  The
states are in some relation at the start, and in some relation at the end, which may depend on the
answer; an action that fails must fail in the other run too, in the same way.

Nothing is said of what the two actions look like.  Most often they are one and the same, and then the
judgement says that nothing they decide depends on what the relation leaves open.

## Main definitions

* `SideBySide` — the judgement
* `InStep` — the case of one relation that is kept throughout

## Main statements

* `SideBySide.bind`, `sideBySide_get_bind` — one action after another
-/

namespace BatchCompiler

variable {ε σ α β : Type}

/-- **Two actions side by side.**  From states in relation `R` both give the same answer, with states
in relation `S` behind it, or both fail for the same reason, with states in relation `D`. -/
def SideBySide (D R : σ → σ → Prop) (S : α → σ → σ → Prop) (x y : ExceptT ε (StateM σ) α) : Prop :=
  ∀ s t, R s t →
    (∃ a s' t', perform x s = (.ok a, s') ∧ perform y t = (.ok a, t') ∧ S a s' t') ∨
      ∃ failure s' t', perform x s = (.error failure, s') ∧ perform y t = (.error failure, t') ∧
        D s' t'

/-- **Two actions in step**: the relation of the states is kept, whether they fail or not. -/
abbrev InStep (R : σ → σ → Prop) (x y : ExceptT ε (StateM σ) α) : Prop :=
  SideBySide R R (fun _ => R) x y

variable {D R T : σ → σ → Prop} {S : α → σ → σ → Prop} {x y : ExceptT ε (StateM σ) α}

theorem SideBySide.mono {D' R' : σ → σ → Prop} {S' : α → σ → σ → Prop}
    (h : SideBySide D R S x y) (hD : ∀ s t, D s t → D' s t) (hR : ∀ s t, R' s t → R s t)
    (hS : ∀ a s t, S a s t → S' a s t) : SideBySide D' R' S' x y := by
  intro s t hst
  rcases h s t (hR s t hst) with ⟨a, s', t', hx, hy, hend⟩ | ⟨failure, s', t', hx, hy, hend⟩
  · exact .inl ⟨a, s', t', hx, hy, hS a s' t' hend⟩
  · exact .inr ⟨failure, s', t', hx, hy, hD s' t' hend⟩

theorem sideBySide_pure {a : α} (h : ∀ s t, R s t → S a s t) :
    SideBySide D R S (pure a : ExceptT ε (StateM σ) α) (pure a) := fun s t hst =>
  .inl ⟨a, s, t, rfl, rfl, h s t hst⟩

theorem sideBySide_throw {failure : ε} (h : ∀ s t, R s t → D s t) :
    SideBySide D R S (throw failure : ExceptT ε (StateM σ) α) (throw failure) := fun s t hst =>
  .inr ⟨failure, s, t, rfl, rfl, h s t hst⟩

theorem sideBySide_modify {f g : σ → σ} {S : PUnit → σ → σ → Prop}
    (h : ∀ s t, R s t → S () (f s) (g t)) :
    SideBySide D R S (modify f : ExceptT ε (StateM σ) PUnit) (modify g) := fun s t hst =>
  .inl ⟨(), f s, g t, rfl, rfl, h s t hst⟩

/-- **One action after another.** -/
theorem SideBySide.bind {f g : α → ExceptT ε (StateM σ) β} {S' : β → σ → σ → Prop}
    (hx : SideBySide D R S x y) (hf : ∀ a, SideBySide D (S a) S' (f a) (g a)) :
    SideBySide D R S' (x >>= f) (y >>= g) := by
  intro s t hst
  rw [perform_bind, perform_bind]
  rcases hx s t hst with ⟨a, s', t', hx, hy, hend⟩ | ⟨failure, s', t', hx, hy, hend⟩
  · rw [hx, hy]
    exact hf a s' t' hend
  · rw [hx, hy]
    exact .inr ⟨failure, s', t', rfl, rfl, hend⟩

/-- What is done with the states at hand may differ, as long as it keeps side by side. -/
theorem sideBySide_get_bind {f g : σ → ExceptT ε (StateM σ) β} {S' : β → σ → σ → Prop}
    (hf : ∀ s t, R s t → SideBySide D R S' (f s) (g t)) :
    SideBySide D R S' (get >>= f) (get >>= g) := by
  intro s t hst
  rw [perform_bind, perform_get, perform_bind, perform_get]
  exact hf s t hst s t hst

/-! ## In step -/

theorem inStep_pure (a : α) : InStep R (pure a : ExceptT ε (StateM σ) α) (pure a) :=
  sideBySide_pure fun _ _ => id

theorem inStep_throw (failure : ε) :
    InStep R (throw failure : ExceptT ε (StateM σ) α) (throw failure) :=
  sideBySide_throw fun _ _ => id

end BatchCompiler

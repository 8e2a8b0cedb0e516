import Mathlib.Data.List.Induction
import Mathlib.Data.List.Nodup

/-!
# Lists that keep what comes first

What is left of a list when an element like an earlier one is dropped: how one more element changes it,
that no two elements left are alike, and that those left stay where they are.

## Main statements

* `eraseDupsBy_concat` — one more element
* `pairwise_eraseDupsBy` — no two elements left are alike
* `eraseDupsBy_prefix` — what is left stays there
* `find?_eraseDupsBy` — searching what is left finds what was first
-/

namespace BatchCompiler

variable {α : Type} {like : α → α → Bool}

/-- One more element is taken in behind the others, or left out. -/
theorem filterMap_concat {α β : Type} (f : α → Option β) (l : List α) (a : α) :
    (l ++ [a]).filterMap f = l.filterMap f ++ (f a).toList := by
  rw [List.filterMap_append]
  cases h : f a with
  | none => simp [h]
  | some c => simp [h]

/-- **One more element** is left unless one like it is. -/
theorem eraseDupsBy_concat (l : List α) (a : α) :
    (l ++ [a]).eraseDupsBy like =
      if (l.eraseDupsBy like).any (like a) then l.eraseDupsBy like
      else l.eraseDupsBy like ++ [a] := by
  -- The loop holds the elements kept so far in reverse.
  have hloop : ∀ l kept : List α, List.eraseDupsBy.loop like (l ++ [a]) kept =
      if (List.eraseDupsBy.loop like l kept).any (like a) then List.eraseDupsBy.loop like l kept
      else List.eraseDupsBy.loop like l kept ++ [a] := by
    intro l
    induction l with
    | nil =>
        intro kept
        simp only [List.nil_append, List.eraseDupsBy.loop, List.any_reverse]
        split <;> simp_all
    | cons b rest ih =>
        intro kept
        rw [List.cons_append, List.eraseDupsBy.loop, List.eraseDupsBy.loop]
        split
        · exact ih kept
        · exact ih (b :: kept)
  exact hloop l []

/-- One more element comes behind the others, unless it came before. -/
theorem eraseDups_concat {α : Type} [DecidableEq α] (l : List α) (a : α) :
    (l ++ [a]).eraseDups = if a ∈ l then l.eraseDups else l.eraseDups ++ [a] := by
  rw [List.eraseDups_append]
  by_cases h : a ∈ l
  · simp [List.removeAll, h]
  · simp [List.removeAll, h, List.eraseDups_cons]

/-- **No element left is like one ahead of it.** -/
theorem pairwise_eraseDupsBy (l : List α) :
    (l.eraseDupsBy like).Pairwise fun a b => like b a = false := by
  induction l using List.reverseRecOn with
  | nil => exact .nil
  | append_singleton l a ih =>
      rw [eraseDupsBy_concat]
      split
      · exact ih
      · rename_i hnone
        rw [List.pairwise_append]
        refine ⟨ih, List.pairwise_singleton _ _, fun b mem c hc => ?_⟩
        obtain rfl := List.mem_singleton.mp hc
        rw [List.any_eq_true] at hnone
        exact Bool.eq_false_iff.mpr fun hlike => hnone ⟨b, mem, hlike⟩

theorem nodup_eraseDups [DecidableEq α] (l : List α) : l.eraseDups.Nodup :=
  (@pairwise_eraseDupsBy α (· == ·) l).imp fun h heq => by simp [heq] at h

/-- **What is left stays there**, whatever follows. -/
theorem eraseDupsBy_prefix (l more : List α) :
    l.eraseDupsBy like <+: (l ++ more).eraseDupsBy like := by
  induction more using List.reverseRecOn with
  | nil => simp
  | append_singleton more a ih =>
      rw [← List.append_assoc, eraseDupsBy_concat]
      split
      · exact ih
      · exact ih.trans (List.prefix_append _ _)

/-- **Searching what is left finds what was first**, if elements that are alike are found alike. -/
theorem find?_eraseDupsBy {p : α → Bool} (hp : ∀ a b, like a b = true → p a = p b) (l : List α) :
    (l.eraseDupsBy like).find? p = l.find? p := by
  induction l using List.reverseRecOn with
  | nil => rfl
  | append_singleton l a ih =>
      rw [eraseDupsBy_concat, List.find?_append, ← ih]
      split
      · -- An element like the last one is left: if the last one is found, that one is found first.
        rename_i hany
        obtain ⟨b, mem, hlike⟩ := List.any_eq_true.mp hany
        cases hfind : (l.eraseDupsBy like).find? p with
        | some _ => rfl
        | none =>
            have hb := List.find?_eq_none.mp hfind b mem
            rw [← hp a b hlike] at hb
            rw [List.find?_cons_of_neg hb, List.find?_nil, Option.none_or]
      · rw [List.find?_append]

end BatchCompiler

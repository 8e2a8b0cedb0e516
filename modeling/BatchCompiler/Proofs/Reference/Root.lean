import Mathlib.Tactic.Common
import BatchCompiler.Reference.RootNamespace

/-!
# Bindings of the root namespace

A binding is a position in the list of units: under an alias, or among the positions of the global
root.  What provides an identifier is a position, too; two units may well be equal, so it is only by
their positions that one can be told from the other.

## Main definitions

* `RootNamespace.Binds` — a unit is bound, under an alias or globally
* `RootNamespace.InRange` — every stored position is one of a unit
* `RootNamespace.provider?` — the position that provides an identifier

## Main statements

* `RootNamespace.binds_bind`, `RootNamespace.get?_bind` — what a binding changes
* `RootNamespace.lookup?_eq` — looking up is going to the provider
* `RootNamespace.provider?_eq_some_iff` — the provider is the exporter that joined last
-/

namespace BatchCompiler.RootNamespace

variable {r : RootNamespace}

/-! ## Binding -/

/-- **The unit at a position is bound**, under an alias or globally. -/
def Binds (r : RootNamespace) (position : Nat) : Option String → Prop
  | some alias_ => r.aliases.get? alias_ = some position
  | none => position ∈ r.global

/-- **Every stored position is one of a unit.** -/
structure InRange (r : RootNamespace) : Prop where
  global : ∀ position ∈ r.global, position < r.units.length
  aliases : ∀ alias_ position, r.aliases.get? alias_ = some position → position < r.units.length

@[simp] theorem bind_units (r : RootNamespace) (position : Nat) (alias_ : Option String) :
    (r.bind position alias_).units = r.units := by
  cases alias_ with
  | some a => rfl
  | none => unfold bind; dsimp only; split <;> rfl

@[simp] theorem bind_none_aliases (r : RootNamespace) (position : Nat) :
    (r.bind position none).aliases = r.aliases := by
  unfold bind
  dsimp only
  split <;> rfl

/-- **Whoever joins the global root comes last**, and joins it once. -/
theorem bind_none_global (r : RootNamespace) (position : Nat) :
    (r.bind position none).global =
      if position ∈ r.global then r.global else r.global ++ [position] := by
  unfold bind
  dsimp only
  split <;> rfl

/-- **An alias denotes what it was bound to last.** -/
theorem get?_bind (r : RootNamespace) (position : Nat) (alias_ other : String) :
    (r.bind position (some alias_)).aliases.get? other =
      if other = alias_ then some position else r.aliases.get? other :=
  OrderedMap.get?_put r.aliases alias_ other position

theorem binds_bind (r : RootNamespace) (position : Nat) (alias_ : Option String) :
    (r.bind position alias_).Binds position alias_ := by
  cases alias_ with
  | some a => exact (get?_bind r position a a).trans (if_pos rfl)
  | none =>
      show position ∈ (r.bind position none).global
      rw [bind_none_global]
      split
      · assumption
      · exact List.mem_append_right _ (List.mem_singleton_self position)

/-! ## Providers -/

/-- The unit at a position exports an identifier. -/
def exportsAt (r : RootNamespace) (identifier : String) (position : Nat) : Bool :=
  (r.units[position]?).any (exports identifier)

/-- **The position that provides an identifier**: among the global ones that export it, the one that
joined last. -/
def provider? (r : RootNamespace) (identifier : String) : Option Nat :=
  r.global.reverse.find? (r.exportsAt identifier)

/-- To look for a unit among those at some positions is to look for a position. -/
theorem find?_filterMap_getElem? (units : List ResolvedUnit) (identifier : String)
    (positions : List Nat) :
    (positions.filterMap (units[·]?)).find? (exports identifier) =
      (positions.find? fun position => (units[position]?).any (exports identifier)).bind
        (units[·]?) := by
  induction positions with
  | nil => rfl
  | cons position rest ih =>
      cases hunit : units[position]? with
      | none => rw [List.filterMap_cons_none hunit, ih, List.find?_cons, hunit]; rfl
      | some u =>
          rw [List.filterMap_cons_some hunit, List.find?_cons, List.find?_cons, ih, hunit]
          cases hexports : exports identifier u with
          | true => simp [hexports, hunit]
          | false => simp [hexports]

/-- **To look up an identifier is to go to its provider.** -/
theorem lookup?_eq (r : RootNamespace) (identifier : String) :
    r.lookup? identifier = (r.provider? identifier).bind (r.units[·]?) := by
  unfold lookup? globalUnits provider?
  rw [← List.filterMap_reverse]
  exact find?_filterMap_getElem? r.units identifier r.global.reverse

/-- **The provider is the exporter that joined last.** -/
theorem provider?_eq_some_iff {identifier : String} {position : Nat} :
    r.provider? identifier = some position ↔
      r.exportsAt identifier position = true ∧ ∃ before after,
        r.global = before ++ position :: after ∧
          ∀ later ∈ after, r.exportsAt identifier later = false := by
  unfold provider?
  rw [List.find?_eq_some_iff_append]
  refine and_congr_right fun _ => ?_
  constructor
  · rintro ⟨after, before, hreverse, hnone⟩
    refine ⟨before.reverse, after.reverse, ?_, fun later mem => ?_⟩
    · rw [← List.reverse_reverse r.global, hreverse]
      simp
    · simpa using hnone later (List.mem_reverse.mp mem)
  · rintro ⟨before, after, hglobal, hnone⟩
    refine ⟨after.reverse, before.reverse, by simp [hglobal], fun later mem => ?_⟩
    simpa using hnone later (List.mem_reverse.mp mem)

theorem mem_global_of_provider? {identifier : String} {position : Nat}
    (h : r.provider? identifier = some position) : position ∈ r.global :=
  List.mem_reverse.mp (List.mem_of_find?_eq_some h)

end BatchCompiler.RootNamespace

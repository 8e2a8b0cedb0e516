/-!
# Maps in insertion order

A map whose keys keep the order in which they first came; a key that comes again keeps its place and
takes the new value.
-/

namespace BatchCompiler

/-- **A map in insertion order**: its entries, one a key. -/
structure OrderedMap (α β : Type) where
  entries : List (α × β) := []
deriving DecidableEq, Repr

namespace OrderedMap

variable {α β : Type} [DecidableEq α]

/-- The value of a key. -/
def get? (m : OrderedMap α β) (key : α) : Option β := m.entries.lookup key

/-- The key has a value. -/
def contains (m : OrderedMap α β) (key : α) : Bool := (m.get? key).isSome

/-- Entries with `value` at `key`. -/
def putEntry (key : α) (value : β) : List (α × β) → List (α × β)
  | [] => [(key, value)]
  | (other, old) :: rest =>
      if other = key then (key, value) :: rest else (other, old) :: putEntry key value rest

/-- **Give a key a value**: in its place if it had one, at the end otherwise. -/
def put (m : OrderedMap α β) (key : α) (value : β) : OrderedMap α β :=
  ⟨putEntry key value m.entries⟩

/-- Keys in order. -/
def keys (m : OrderedMap α β) : List α := m.entries.map Prod.fst

/-- Values in order of their keys. -/
def values (m : OrderedMap α β) : List β := m.entries.map Prod.snd

/-- How many keys there are. -/
def size (m : OrderedMap α β) : Nat := m.entries.length

/-- There is no key. -/
def isEmpty (m : OrderedMap α β) : Bool := m.entries.isEmpty

/-- A value that a key has is one of the values. -/
theorem mem_values_of_get?_eq_some {m : OrderedMap α β} {key : α} {value : β}
    (h : m.get? key = some value) : value ∈ m.values := by
  unfold get? at h
  unfold values
  obtain ⟨before, after, hsplit, -⟩ := List.lookup_eq_some_iff.mp h
  rw [hsplit]
  simp

/-- **A new key takes the last place.** -/
theorem putEntry_of_not_mem {key : α} {value : β} {es : List (α × β)}
    (h : key ∉ es.map Prod.fst) : putEntry key value es = es ++ [(key, value)] := by
  induction es with
  | nil => rfl
  | cons e rest ih =>
      obtain ⟨other, old⟩ := e
      simp only [List.map_cons, List.mem_cons, not_or] at h
      simp [putEntry, Ne.symm h.1, ih h.2]

/-- **A known key keeps every key in its place.** -/
theorem map_fst_putEntry_of_mem {key : α} {value : β} {es : List (α × β)}
    (h : key ∈ es.map Prod.fst) : (putEntry key value es).map Prod.fst = es.map Prod.fst := by
  induction es with
  | nil => simp at h
  | cons e rest ih =>
      obtain ⟨other, old⟩ := e
      by_cases hk : other = key
      · simp [putEntry, hk]
      · simp only [List.map_cons, List.mem_cons] at h
        have : key ∈ rest.map Prod.fst := h.resolve_left (Ne.symm hk)
        simp [putEntry, hk, ih this]

/-- **Keys after a put**: a new one comes last. -/
theorem keys_put (m : OrderedMap α β) (key : α) (value : β) :
    (m.put key value).keys = if key ∈ m.keys then m.keys else m.keys ++ [key] := by
  split
  · rename_i hmem
    exact map_fst_putEntry_of_mem hmem
  · rename_i hmem
    unfold put keys
    rw [putEntry_of_not_mem hmem, List.map_append]
    rfl

/-- A key without a value is no key. -/
theorem get?_eq_none_iff {m : OrderedMap α β} {key : α} : m.get? key = none ↔ key ∉ m.keys := by
  unfold get? keys
  rw [List.lookup_eq_none_iff, List.mem_map, not_exists]
  refine forall_congr' fun entry => ?_
  rw [not_and, bne_iff_ne]
  exact ⟨fun h hmem heq => h hmem heq.symm, fun h hmem heq => h hmem heq.symm⟩

/-- **The entries of a map** are its keys with their values, where no key comes twice. -/
theorem mem_entries_iff {m : OrderedMap α β} (h : m.keys.Nodup) {key : α} {value : β} :
    (key, value) ∈ m.entries ↔ m.get? key = some value := by
  obtain ⟨es⟩ := m
  unfold keys at h
  unfold get?
  dsimp only at h ⊢
  induction es with
  | nil => simp
  | cons e rest ih =>
      obtain ⟨other, old⟩ := e
      obtain ⟨hother, hrest⟩ := List.nodup_cons.mp h
      rw [List.mem_cons, List.lookup_cons, ih hrest]
      by_cases hkey : key = other
      · subst hkey
        have hnone : rest.lookup key = none := by
          refine List.lookup_eq_none_iff.mpr fun entry hmem => bne_iff_ne.mpr fun heq => hother ?_
          exact List.mem_map.mpr ⟨entry, hmem, heq.symm⟩
        simp [hnone, eq_comm]
      · simp [hkey, beq_false_of_ne hkey]

theorem exists_of_mem_keys {m : OrderedMap α β} {key : α} (h : key ∈ m.keys) :
    ∃ value, m.get? key = some value :=
  Option.ne_none_iff_exists'.mp fun hnone => get?_eq_none_iff.mp hnone h

/-- A new value comes last. -/
theorem values_put_of_get?_eq_none {m : OrderedMap α β} {key : α} {value : β}
    (h : m.get? key = none) : (m.put key value).values = m.values ++ [value] := by
  have hnew : key ∉ m.entries.map Prod.fst := get?_eq_none_iff.mp h
  unfold put values
  rw [putEntry_of_not_mem hnew, List.map_append]
  rfl

/-- **What a key has after a put**: the new value at the key put, and elsewhere what it had. -/
theorem lookup_putEntry (key other : α) (value : β) (es : List (α × β)) :
    (putEntry key value es).lookup other =
      if other = key then some value else es.lookup other := by
  induction es with
  | nil =>
      by_cases h : other = key
      · simp [putEntry, h]
      · simp only [putEntry, List.lookup_cons, List.lookup_nil, beq_false_of_ne h, if_neg h]
  | cons e rest ih =>
      obtain ⟨first, old⟩ := e
      by_cases hfirst : first = key
      · subst hfirst
        by_cases h : other = first
        · simp [putEntry, h]
        · simp only [putEntry, if_pos, List.lookup_cons, beq_false_of_ne h, if_neg h]
      · rw [putEntry, if_neg hfirst]
        by_cases h : other = first
        · simp [h, hfirst]
        · simp only [List.lookup_cons, beq_false_of_ne h, ih]

theorem get?_put (m : OrderedMap α β) (key other : α) (value : β) :
    (m.put key value).get? other = if other = key then some value else m.get? other :=
  lookup_putEntry key other value m.entries

end OrderedMap

end BatchCompiler

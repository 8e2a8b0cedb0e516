import Mathlib.Data.List.Basic
import BatchCompiler.FileSystem

/-!
# Writing files

What a write changes, and what it leaves.  A write puts a file at the location its path leads to.
That location held a file or nothing, so whatever was a directory or a link stays one, and no path
leads anywhere else than before; only paths to nothing may now lead to the new file.

## Main definitions

* `FileSystem.HasPlaceAt` — a location where a file may be put
* `FileSystem.Leads`, `FileSystem.EndsAt` — how a path leads somewhere, and a write to its place
* `FileSystem.Apart` — a path that does not lead to where another one is written

## Main statements

* `FileSystem.read_write` — a file written can be read
* `FileSystem.read_of_write` — what else can be read then
* `FileSystem.destination_write_iff` — where a file written next ends up
-/

namespace BatchCompiler.FileSystem

/-- **A place for a file**: a location that holds one, or nothing. -/
def HasPlaceAt (fs : FileSystem) (at_ : Location) : Prop :=
  ∀ entry, fs.entry? at_ = some entry → ∃ bytes, entry = .file bytes

/-- **A piece that names an entry** of a directory. -/
structure IsName (piece : String) : Prop where
  not_idle : ¬(piece = "" ∨ piece = ".")
  not_up : piece ≠ ".."
  not_long : ¬nameLimit < piece.utf8ByteSize

/-- Where the target of a link starts. -/
def linkStart (at_ : Location) (target : String) : Location :=
  if (⟨target⟩ : Path).isAbsolute then [] else at_

/-- **Pieces lead** from a location to another, through no more links than are allowed. -/
inductive Leads (fs : FileSystem) : Nat → Location → List String → Location → Prop
  | here (links : Nat) (at_ : Location) : Leads fs links at_ [] at_
  | stay {links : Nat} {at_ goal : Location} {piece : String} {rest : List String}
      (hat : fs.isDirectoryAt at_ = true) (hpiece : piece = "" ∨ piece = ".")
      (h : Leads fs links at_ rest goal) : Leads fs links at_ (piece :: rest) goal
  | up {links : Nat} {at_ goal : Location} {rest : List String}
      (hat : fs.isDirectoryAt at_ = true) (h : Leads fs links at_.dropLast rest goal) :
      Leads fs links at_ (".." :: rest) goal
  | enter {links : Nat} {at_ goal : Location} {piece : String} {rest : List String}
      {entry : Entry} (hat : fs.isDirectoryAt at_ = true) (hname : IsName piece)
      (hentry : fs.entry? (at_ ++ [piece]) = some entry) (hlink : ∀ target, entry ≠ .link target)
      (h : Leads fs links (at_ ++ [piece]) rest goal) : Leads fs links at_ (piece :: rest) goal
  | jump {links : Nat} {at_ goal : Location} {piece : String} {rest : List String}
      {target : String} (hat : fs.isDirectoryAt at_ = true) (hname : IsName piece)
      (hentry : fs.entry? (at_ ++ [piece]) = some (.link target))
      (h : Leads fs links (linkStart at_ target) ((⟨target⟩ : Path).pieces ++ rest) goal) :
      Leads fs (links + 1) at_ (piece :: rest) goal

/-- **A file written under pieces ends up** at a location, which is a place for one. -/
inductive EndsAt (fs : FileSystem) : Nat → Location → List String → Location → Prop
  | stay {links : Nat} {at_ goal : Location} {piece : String} {rest : List String}
      (hat : fs.isDirectoryAt at_ = true) (hpiece : piece = "" ∨ piece = ".")
      (h : EndsAt fs links at_ rest goal) : EndsAt fs links at_ (piece :: rest) goal
  | up {links : Nat} {at_ goal : Location} {rest : List String}
      (hat : fs.isDirectoryAt at_ = true) (h : EndsAt fs links at_.dropLast rest goal) :
      EndsAt fs links at_ (".." :: rest) goal
  | last {links : Nat} {at_ : Location} {piece : String}
      (hat : fs.isDirectoryAt at_ = true) (hname : IsName piece)
      (hplace : fs.HasPlaceAt (at_ ++ [piece])) : EndsAt fs links at_ [piece] (at_ ++ [piece])
  | enter {links : Nat} {at_ goal : Location} {piece : String} {rest : List String}
      (hat : fs.isDirectoryAt at_ = true) (hname : IsName piece)
      (hslash : ¬(rest ≠ [] ∧ rest.all (· = "")))
      (hentry : fs.entry? (at_ ++ [piece]) = some .directory)
      (h : EndsAt fs links (at_ ++ [piece]) rest goal) : EndsAt fs links at_ (piece :: rest) goal
  | jump {links : Nat} {at_ goal : Location} {piece : String} {rest : List String}
      {target : String} (hat : fs.isDirectoryAt at_ = true) (hname : IsName piece)
      (hslash : ¬(rest ≠ [] ∧ rest.all (· = "")))
      (hentry : fs.entry? (at_ ++ [piece]) = some (.link target))
      (h : EndsAt fs links (linkStart at_ target) ((⟨target⟩ : Path).pieces ++ rest) goal) :
      EndsAt fs (links + 1) at_ (piece :: rest) goal

variable {fs fs' : FileSystem} {at_ goal other place : Location} {links : Nat} {piece : String}
  {pieces : List String} {bytes : List UInt8}

/-- The root is no place for a file. -/
theorem HasPlaceAt.ne_nil (h : fs.HasPlaceAt at_) : at_ ≠ [] := by
  rintro rfl
  obtain ⟨bytes, hentry⟩ := h .directory (by unfold entry?; rw [if_pos rfl])
  cases hentry

theorem entry?_put (h : at_ ≠ []) (entry : Entry) :
    entry? (fs.put at_ entry) other = if other = at_ then some entry else fs.entry? other := by
  unfold put entry?
  by_cases hroot : other = []
  · rw [if_pos hroot, if_pos hroot, if_neg (fun heq => h (heq.symm.trans hroot))]
  · rw [if_neg hroot, if_neg hroot]
    exact OrderedMap.get?_put _ _ _ _

/-- **A file put in its place** changes no other location. -/
theorem entry?_put_of_ne (h : fs.HasPlaceAt at_) (hne : other ≠ at_) :
    entry? (fs.put at_ (.file bytes)) other = fs.entry? other := by
  rw [entry?_put h.ne_nil, if_neg hne]

theorem entry?_put_self (h : fs.HasPlaceAt at_) :
    entry? (fs.put at_ (.file bytes)) at_ = some (.file bytes) := by
  rw [entry?_put h.ne_nil, if_pos rfl]

/-- A location that holds something other than a file is not the place of one. -/
theorem HasPlaceAt.ne_of_entry {entry : Entry} (h : fs.HasPlaceAt at_)
    (hentry : fs.entry? other = some entry) (hfile : ∀ bytes, entry ≠ .file bytes) :
    other ≠ at_ := by
  rintro rfl
  obtain ⟨bytes, heq⟩ := h entry hentry
  exact hfile bytes heq

/-- **A file put in its place** makes and ends no directory. -/
theorem isDirectoryAt_put (h : fs.HasPlaceAt at_) :
    (fs.put at_ (.file bytes)).isDirectoryAt other = fs.isDirectoryAt other := by
  unfold isDirectoryAt
  by_cases hother : other = at_
  · subst hother
    rw [entry?_put_self h]
    refine decide_eq_decide.mpr ⟨nofun, fun hdirectory => ?_⟩
    exact absurd rfl (h.ne_of_entry hdirectory nofun)
  · rw [entry?_put_of_ne h hother]

/-! ## Where paths lead -/

theorem leads_of_follow (h : fs.follow links at_ pieces = .ok goal) :
    Leads fs links at_ pieces goal := by
  fun_induction follow fs links at_ pieces with
  | case1 => cases h; exact .here _ _
  | case2 => cases h
  | case3 links at_ piece rest hat hpiece ih =>
      exact .stay (by simpa using hat) hpiece (ih h)
  | case4 links at_ rest hat _ ih => exact .up (by simpa using hat) (ih h)
  | case5 => cases h
  | case6 => cases h
  | case7 => cases h
  | case8 at_ piece rest hat hidle hup hlong target hentry links path ih =>
      exact .jump (by simpa using hat) ⟨hidle, hup, hlong⟩ hentry (ih h)
  | case9 links at_ piece rest hat hidle hup hlong entry hlink hentry ih =>
      exact .enter (by simpa using hat) ⟨hidle, hup, hlong⟩ hentry hlink (ih h)

theorem Leads.follow_eq (h : Leads fs links at_ pieces goal) :
    fs.follow links at_ pieces = .ok goal := by
  induction h with
  | here links at_ => rw [follow]
  | stay hat hpiece _ ih => rw [follow, hat, if_pos hpiece, ih]; rfl
  | up hat _ ih => rw [follow, hat, if_neg (by decide), ih]; rfl
  | @enter _ _ _ _ _ entry hat hname hentry hlink _ ih =>
      unfold follow
      simp only [hat, hname.not_idle, hname.not_up, hname.not_long, hentry]
      cases entry with
      | link target => exact absurd rfl (hlink target)
      | file bytes => simpa using ih
      | directory => simpa using ih
  | jump hat hname hentry _ ih =>
      unfold follow
      simp only [hat, hname.not_idle, hname.not_up, hname.not_long, hentry]
      simpa [linkStart] using ih

theorem EndsAt.isDirectoryAt (h : EndsAt fs links at_ pieces goal) :
    fs.isDirectoryAt at_ = true := by
  cases h with
  | _ => assumption

theorem endsAt_of_destinationFrom (h : fs.destinationFrom links at_ pieces = .ok goal) :
    EndsAt fs links at_ pieces goal := by
  fun_induction destinationFrom fs links at_ pieces with
  | case3 links at_ piece rest hat hpiece ih => exact .stay (by simpa using hat) hpiece (ih h)
  | case4 links at_ rest hat _ ih => exact .up (by simpa using hat) (ih h)
  | case8 at_ piece hat hidle hup hlong target rest hentry links path hslash ih =>
      exact .jump (by simpa using hat) ⟨hidle, hup, hlong⟩ hslash hentry (ih h)
  | case9 links at_ piece hat hidle hup hlong hentry =>
      cases h
      exact .last (by simpa using hat) ⟨hidle, hup, hlong⟩ (by rw [HasPlaceAt, hentry]; nofun)
  | case10 links at_ piece hat hidle hup hlong bytes hentry =>
      cases h
      refine .last (by simpa using hat) ⟨hidle, hup, hlong⟩ ?_
      rw [HasPlaceAt, hentry]
      rintro entry ⟨⟩
      exact ⟨bytes, rfl⟩
  | case13 links at_ piece hat hidle hup hlong entry rest _ _ _ hentry hslash ih =>
      have hrest := ih h
      have hdirectory : fs.entry? (at_ ++ [piece]) = some .directory :=
        of_decide_eq_true hrest.isDirectoryAt
      exact .enter (by simpa using hat) ⟨hidle, hup, hlong⟩ hslash hdirectory hrest
  | _ => cases h

theorem EndsAt.destinationFrom_eq (h : EndsAt fs links at_ pieces goal) :
    fs.destinationFrom links at_ pieces = .ok goal := by
  induction h with
  | stay hat hpiece _ ih =>
      unfold destinationFrom
      simp [hat, hpiece, ih]
  | up hat _ ih =>
      unfold destinationFrom
      simp [hat, ih]
  | @last links at_ piece hat hname hplace =>
      unfold destinationFrom
      simp only [hat, hname.not_idle, hname.not_up, hname.not_long]
      rcases hentry : fs.entry? (at_ ++ [piece]) with _ | entry
      · simp
      · obtain ⟨bytes, rfl⟩ := hplace entry hentry
        simp
  | enter hat hname hslash hentry hmore ih =>
      unfold destinationFrom
      simp only [hat, hname.not_idle, hname.not_up, hname.not_long, hslash, hentry]
      cases hmore with
      | _ => simpa using ih
  | jump hat hname hslash hentry _ ih =>
      unfold destinationFrom
      simp only [hat, hname.not_idle, hname.not_up, hname.not_long, hslash, hentry]
      simpa [linkStart] using ih

/-! ## Where paths lead once a file is put -/

/-- **Where a file ends up is a place for one.** -/
theorem EndsAt.hasPlaceAt (h : EndsAt fs links at_ pieces goal) : fs.HasPlaceAt goal := by
  induction h with
  | last _ _ hplace => exact hplace
  | _ => assumption

/-- **A path that a file has been written under leads to it.** -/
theorem EndsAt.leads_put (h : EndsAt fs links at_ pieces goal) :
    Leads (fs.put goal (.file bytes)) links at_ pieces goal := by
  have hgoal := h.hasPlaceAt
  induction h with
  | stay hat hpiece _ ih => exact .stay (by rwa [isDirectoryAt_put hgoal]) hpiece (ih hgoal)
  | up hat _ ih => exact .up (by rwa [isDirectoryAt_put hgoal]) (ih hgoal)
  | last hat hname _ =>
      exact .enter (by rwa [isDirectoryAt_put hgoal]) hname (entry?_put_self hgoal)
        (fun _ => nofun) (.here _ _)
  | enter hat hname _ hentry _ ih =>
      rw [← entry?_put_of_ne hgoal (hgoal.ne_of_entry hentry nofun)] at hentry
      exact .enter (by rwa [isDirectoryAt_put hgoal]) hname hentry nofun (ih hgoal)
  | jump hat hname _ hentry _ ih =>
      have hne := hgoal.ne_of_entry hentry nofun
      exact .jump (by rwa [isDirectoryAt_put hgoal]) hname (by rwa [entry?_put_of_ne hgoal hne])
        (ih hgoal)

/-- **A path that leads somewhere still leads there.** -/
theorem Leads.put (h : Leads fs links at_ pieces goal) (hplace : fs.HasPlaceAt place) :
    Leads (fs.put place (.file bytes)) links at_ pieces goal := by
  induction h with
  | here links at_ => exact .here links at_
  | stay hat hpiece _ ih => exact .stay (by rwa [isDirectoryAt_put hplace]) hpiece ih
  | up hat _ ih => exact .up (by rwa [isDirectoryAt_put hplace]) ih
  | @enter _ at_ _ piece _ _ hat hname hentry hlink _ ih =>
      by_cases heq : at_ ++ [piece] = place
      · subst heq
        exact .enter (by rwa [isDirectoryAt_put hplace]) hname (entry?_put_self hplace) nofun ih
      · exact .enter (by rwa [isDirectoryAt_put hplace]) hname
          (by rwa [entry?_put_of_ne hplace heq]) hlink ih
  | jump hat hname hentry _ ih =>
      have hne := hplace.ne_of_entry hentry nofun
      exact .jump (by rwa [isDirectoryAt_put hplace]) hname (by rwa [entry?_put_of_ne hplace hne])
        ih

/-- A path that leads somewhere but a directory ends there. -/
theorem Leads.eq_of_not_isDirectoryAt (h : Leads fs links at_ pieces goal)
    (hat : fs.isDirectoryAt at_ = false) : goal = at_ := by
  cases h with
  | here => rfl
  | _ => simp_all

/-- **A path that leads somewhere now led there before**, unless it leads to the new file. -/
theorem Leads.of_put (hplace : fs.HasPlaceAt place)
    (h : Leads (fs.put place (.file bytes)) links at_ pieces goal) (hne : goal ≠ place) :
    Leads fs links at_ pieces goal := by
  induction h with
  | here links at_ => exact .here links at_
  | stay hat hpiece _ ih => exact .stay (by rwa [isDirectoryAt_put hplace] at hat) hpiece (ih hne)
  | up hat _ ih => exact .up (by rwa [isDirectoryAt_put hplace] at hat) (ih hne)
  | @enter _ at_ _ piece _ _ hat hname hentry hlink hmore ih =>
      have hother : at_ ++ [piece] ≠ place := by
        rintro rfl
        refine hne (hmore.eq_of_not_isDirectoryAt ?_)
        unfold isDirectoryAt
        rw [entry?_put_self hplace]
        rfl
      exact .enter (by rwa [isDirectoryAt_put hplace] at hat) hname
        (by rwa [entry?_put_of_ne hplace hother] at hentry) hlink (ih hne)
  | @jump _ at_ _ piece _ _ hat hname hentry _ ih =>
      have hother : at_ ++ [piece] ≠ place := by
        rintro rfl
        rw [entry?_put_self hplace] at hentry
        cases hentry
      exact .jump (by rwa [isDirectoryAt_put hplace] at hat) hname
        (by rwa [entry?_put_of_ne hplace hother] at hentry) (ih hne)

theorem getLast?_of_all_empty (hne : pieces ≠ []) (hall : pieces.all (· = "")) :
    pieces.getLast? = some "" := by
  rw [List.getLast?_eq_some_getLast hne]
  exact congrArg some (of_decide_eq_true (List.all_eq_true.mp hall _ (List.getLast_mem hne)))

/-- A file is not written under a path with a slash at its end. -/
theorem EndsAt.getLast?_ne (h : EndsAt fs links at_ pieces goal) : pieces.getLast? ≠ some "" := by
  have hne : ∀ {links at_ rest goal}, EndsAt fs links at_ rest goal → rest ≠ [] := by
    rintro _ _ _ _ h rfl
    cases h
  induction h with
  | stay _ _ h ih => rwa [List.getLast?_cons_of_ne_nil (hne h)]
  | up _ h ih => rwa [List.getLast?_cons_of_ne_nil (hne h)]
  | last _ hname _ => exact fun heq => hname.not_idle (.inl (Option.some.inj heq))
  | enter _ _ _ _ h ih => rwa [List.getLast?_cons_of_ne_nil (hne h)]
  | @jump _ _ _ _ rest _ _ hname _ _ _ ih =>
      rcases eq_or_ne rest [] with rfl | hrest
      · exact fun heq => hname.not_idle (.inl (Option.some.inj heq))
      · rw [List.getLast?_append_of_ne_nil _ hrest] at ih
        rwa [List.getLast?_cons_of_ne_nil hrest]

/-- **A path that leads to the new file** led there before, or a file written under it would have
ended up there. -/
theorem Leads.endsAt_or_leads_of_put (hplace : fs.HasPlaceAt place)
    (h : Leads (fs.put place (.file bytes)) links at_ pieces goal) (hgoal : goal = place) :
    EndsAt fs links at_ pieces goal ∨ Leads fs links at_ pieces goal := by
  induction h with
  | here links at_ => exact .inr (.here links at_)
  | stay hat hpiece _ ih =>
      rw [isDirectoryAt_put hplace] at hat
      exact (ih hgoal).imp (.stay hat hpiece) (.stay hat hpiece)
  | up hat _ ih =>
      rw [isDirectoryAt_put hplace] at hat
      exact (ih hgoal).imp (.up hat) (.up hat)
  | @enter _ at_ _ piece rest _ hat hname hentry hlink hmore ih =>
      rw [isDirectoryAt_put hplace] at hat
      by_cases heq : at_ ++ [piece] = place
      · -- The path has come to the new file, where nothing can follow.
        have hfile : (fs.put place (.file bytes)).isDirectoryAt (at_ ++ [piece]) = false := by
          unfold isDirectoryAt
          rw [heq, entry?_put_self hplace]
          rfl
        cases hmore with
        | here => exact .inl (.last hat hname (heq ▸ hplace))
        | _ => simp_all
      · rw [entry?_put_of_ne hplace heq] at hentry
        rcases ih hgoal with hends | hleads
        · have hslash : ¬(rest ≠ [] ∧ rest.all (· = "")) := fun h =>
            hends.getLast?_ne (getLast?_of_all_empty h.1 h.2)
          exact .inl (.enter hat hname hslash (of_decide_eq_true hends.isDirectoryAt) hends)
        · exact .inr (.enter hat hname hentry hlink hleads)
  | @jump _ at_ _ piece rest _ hat hname hentry _ ih =>
      rw [isDirectoryAt_put hplace] at hat
      have hother : at_ ++ [piece] ≠ place := by
        rintro rfl
        rw [entry?_put_self hplace] at hentry
        cases hentry
      rw [entry?_put_of_ne hplace hother] at hentry
      rcases ih hgoal with hends | hleads
      · have hslash : ¬(rest ≠ [] ∧ rest.all (· = "")) := by
          rintro ⟨hne, hall⟩
          refine hends.getLast?_ne ?_
          rw [List.getLast?_append_of_ne_nil _ hne]
          exact getLast?_of_all_empty hne hall
        exact .inl (.jump hat hname hslash hentry hends)
      · exact .inr (.jump hat hname hentry hleads)

/-- A place for a file stays one. -/
theorem hasPlaceAt_put (hplace : fs.HasPlaceAt place) :
    (fs.put place (.file bytes)).HasPlaceAt at_ ↔ fs.HasPlaceAt at_ := by
  by_cases heq : at_ = place
  · subst heq
    refine ⟨fun _ => hplace, fun _ => ?_⟩
    rw [HasPlaceAt, entry?_put_self hplace]
    rintro entry ⟨⟩
    exact ⟨bytes, rfl⟩
  · unfold HasPlaceAt
    rw [entry?_put_of_ne hplace heq]

/-- **Files written next end up where they would have before.** -/
theorem endsAt_put_iff (hplace : fs.HasPlaceAt place) :
    EndsAt (fs.put place (.file bytes)) links at_ pieces goal ↔
      EndsAt fs links at_ pieces goal := by
  constructor
  · intro h
    induction h with
    | stay hat hpiece _ ih => exact .stay (by rwa [isDirectoryAt_put hplace] at hat) hpiece ih
    | up hat _ ih => exact .up (by rwa [isDirectoryAt_put hplace] at hat) ih
    | last hat hname hlast =>
        exact .last (by rwa [isDirectoryAt_put hplace] at hat) hname
          ((hasPlaceAt_put hplace).mp hlast)
    | enter hat hname hslash hentry _ ih =>
        have hdirectory := decide_eq_true hentry
        rw [← isDirectoryAt, isDirectoryAt_put hplace] at hdirectory
        exact .enter (by rwa [isDirectoryAt_put hplace] at hat) hname hslash
          (of_decide_eq_true hdirectory) ih
    | @jump _ at_ _ piece _ _ hat hname hslash hentry _ ih =>
        have hother : at_ ++ [piece] ≠ place := by
          rintro rfl
          rw [entry?_put_self hplace] at hentry
          cases hentry
        exact .jump (by rwa [isDirectoryAt_put hplace] at hat) hname hslash
          (by rwa [entry?_put_of_ne hplace hother] at hentry) ih
  · intro h
    induction h with
    | stay hat hpiece _ ih => exact .stay (by rwa [isDirectoryAt_put hplace]) hpiece ih
    | up hat _ ih => exact .up (by rwa [isDirectoryAt_put hplace]) ih
    | last hat hname hlast =>
        exact .last (by rwa [isDirectoryAt_put hplace]) hname ((hasPlaceAt_put hplace).mpr hlast)
    | enter hat hname hslash hentry _ ih =>
        have hne := hplace.ne_of_entry hentry nofun
        exact .enter (by rwa [isDirectoryAt_put hplace]) hname hslash
          (by rwa [entry?_put_of_ne hplace hne]) ih
    | jump hat hname hslash hentry _ ih =>
        have hne := hplace.ne_of_entry hentry nofun
        exact .jump (by rwa [isDirectoryAt_put hplace]) hname hslash
          (by rwa [entry?_put_of_ne hplace hne]) ih

/-! ## Writing -/

section Write

variable {p q : Path}

theorem destination_eq_ok_iff :
    fs.destination p = .ok at_ ↔
      refused? p = none ∧ EndsAt fs linkLimit (fs.startOf p) p.pieces at_ := by
  unfold destination
  cases refused? p with
  | some fault => simp
  | none =>
      simp only [true_and]
      exact ⟨endsAt_of_destinationFrom, EndsAt.destinationFrom_eq⟩

theorem locate_eq_ok_iff :
    fs.locate p = .ok at_ ↔
      refused? p = none ∧ Leads fs linkLimit (fs.startOf p) p.pieces at_ := by
  unfold locate
  cases refused? p with
  | some fault => simp
  | none =>
      simp only [true_and]
      exact ⟨leads_of_follow, Leads.follow_eq⟩

theorem hasPlaceAt_of_destination (h : fs.destination p = .ok at_) : fs.HasPlaceAt at_ :=
  (destination_eq_ok_iff.mp h).2.hasPlaceAt

/-- **What a write does**: it puts a file where its path leads. -/
theorem write_eq_ok_iff :
    fs.write p bytes = .ok fs' ↔
      ∃ at_, fs.destination p = .ok at_ ∧ fs' = fs.put at_ (.file bytes) := by
  unfold write
  cases fs.destination p with
  | error fault => simp
  | ok at_ => simp [eq_comm]

theorem lookup_eq_ok_iff {entry : Entry} :
    fs.lookup p = .ok entry ↔ ∃ at_, fs.locate p = .ok at_ ∧ fs.entry? at_ = some entry := by
  unfold lookup
  cases fs.locate p with
  | error fault => simp
  | ok at_ => cases hentry : fs.entry? at_ <;> simp [hentry]

theorem read_eq_ok_iff : fs.read p = .ok bytes ↔ fs.lookup p = .ok (.file bytes) := by
  unfold read
  cases fs.lookup p with
  | error fault => simp
  | ok entry => cases entry <;> simp

/-- **A path written under leads to where the file ended up.** -/
theorem locate_write (h : fs.write p bytes = .ok fs') : fs'.locate p = fs.destination p := by
  obtain ⟨at_, hdestination, rfl⟩ := write_eq_ok_iff.mp h
  obtain ⟨hfine, hends⟩ := destination_eq_ok_iff.mp hdestination
  rw [hdestination, locate_eq_ok_iff]
  exact ⟨hfine, hends.leads_put⟩

/-- **A file written can be read.** -/
theorem read_write (h : fs.write p bytes = .ok fs') : fs'.read p = .ok bytes := by
  have hlocate := locate_write h
  obtain ⟨at_, hdestination, rfl⟩ := write_eq_ok_iff.mp h
  rw [read_eq_ok_iff, lookup_eq_ok_iff]
  exact ⟨at_, hlocate.trans hdestination, entry?_put_self (hasPlaceAt_of_destination hdestination)⟩

/-- A write changes at most the location where it ends up. -/
theorem entry?_write (h : fs.write p bytes = .ok fs') (hother : fs.destination p ≠ .ok other) :
    fs'.entry? other = fs.entry? other := by
  obtain ⟨at_, hdestination, rfl⟩ := write_eq_ok_iff.mp h
  refine entry?_put_of_ne (hasPlaceAt_of_destination hdestination) ?_
  rintro rfl
  exact hother hdestination

theorem current_write (h : fs.write p bytes = .ok fs') : fs'.current = fs.current := by
  obtain ⟨at_, -, rfl⟩ := write_eq_ok_iff.mp h
  rfl

/-- **Files written next end up where they would have before.** -/
theorem destination_write_iff (h : fs.write p bytes = .ok fs') :
    fs'.destination q = .ok other ↔ fs.destination q = .ok other := by
  obtain ⟨at_, hdestination, rfl⟩ := write_eq_ok_iff.mp h
  rw [destination_eq_ok_iff, destination_eq_ok_iff]
  exact and_congr_right fun _ => endsAt_put_iff (hasPlaceAt_of_destination hdestination)

/-- **What can be read and is not written over** can still be read. -/
theorem read_write_of_ne {content : List UInt8} (h : fs.write p bytes = .ok fs')
    (hread : fs.read q = .ok content) (hother : ∀ at_, fs.locate q = .ok at_ →
      fs.destination p ≠ .ok at_) : fs'.read q = .ok content := by
  obtain ⟨at_, hlocate, hentry⟩ := lookup_eq_ok_iff.mp (read_eq_ok_iff.mp hread)
  have hentry' := entry?_write h (hother at_ hlocate)
  obtain ⟨place, hdestination, rfl⟩ := write_eq_ok_iff.mp h
  obtain ⟨hfine, hleads⟩ := locate_eq_ok_iff.mp hlocate
  rw [read_eq_ok_iff, lookup_eq_ok_iff]
  exact ⟨at_, locate_eq_ok_iff.mpr ⟨hfine, hleads.put (hasPlaceAt_of_destination hdestination)⟩,
    hentry'.trans hentry⟩

/-- **Two paths apart**: a file written under the first does not lie where the second leads, or
where a file written under the second would. -/
def Apart (fs : FileSystem) (p q : Path) : Prop :=
  ∀ at_, fs.destination p = .ok at_ → fs.locate q ≠ .ok at_ ∧ fs.destination q ≠ .ok at_

/-- **What can be read under another path** could be read there before the write. -/
theorem read_of_write {content : List UInt8} (h : fs.write p bytes = .ok fs')
    (hapart : fs.Apart p q) (hread : fs'.read q = .ok content) : fs.read q = .ok content := by
  obtain ⟨place, hdestination, rfl⟩ := write_eq_ok_iff.mp h
  have hplace := hasPlaceAt_of_destination hdestination
  obtain ⟨at_, hlocate, hentry⟩ := lookup_eq_ok_iff.mp (read_eq_ok_iff.mp hread)
  obtain ⟨hfine, hleads⟩ := locate_eq_ok_iff.mp hlocate
  obtain ⟨hnot, hnot'⟩ := hapart place hdestination
  have hother : at_ ≠ place := by
    rintro rfl
    rcases hleads.endsAt_or_leads_of_put hplace rfl with hends | hleads
    · exact hnot' (destination_eq_ok_iff.mpr ⟨hfine, hends⟩)
    · exact hnot (locate_eq_ok_iff.mpr ⟨hfine, hleads⟩)
  rw [entry?_put_of_ne hplace hother] at hentry
  rw [read_eq_ok_iff, lookup_eq_ok_iff]
  exact ⟨at_, locate_eq_ok_iff.mpr ⟨hfine, hleads.of_put hplace hother⟩, hentry⟩

end Write

end BatchCompiler.FileSystem

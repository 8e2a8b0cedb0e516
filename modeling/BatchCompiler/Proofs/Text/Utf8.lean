import BatchCompiler.Proofs.Text.ByteOrder

/-!
# UTF-8 read back

The bytes of a text are read as this text.  A character is read byte by byte: the first one says how
many follow and where the second one has to lie, and each byte that follows brings six more digits of
the value.

## Main statements

* `Text.Utf8.unitsFrom_utf8EncodeChar` — a character
* `Text.Utf8.decode?_encode` — a text
-/

namespace BatchCompiler.Text.Utf8

section Bytes

variable {value missing low high v b d : Nat} {st : State}

/-! ## Bytes -/

theorem toNat_byte (hb : b < 256) : (UInt8.ofNat b).toNat = b := UInt8.toNat_ofNat_of_lt' hb

/-- A byte that follows, and is not the last one. -/
theorem unitsFrom_more (hlow : low ≤ d + 128) (hhigh : d + 128 ≤ high) (hd : d < 64)
    (rest : List UInt8) :
    unitsFrom (.within value (missing + 1) low high) (UInt8.ofNat (d + 128) :: rest) =
      unitsFrom (.within (value * 0x40 + d) missing 0x80 0xBF) rest := by
  have hbyte : (UInt8.ofNat (d + 128)).toNat = d + 128 := toNat_byte (by omega)
  have hfeed : feed (.within value (missing + 1) low high) (UInt8.ofNat (d + 128)) =
      ([], .within (value * 0x40 + d) missing 0x80 0xBF) := by
    dsimp only [feed]
    rw [hbyte, if_pos ⟨hlow, hhigh⟩, Nat.add_sub_cancel]
  rw [unitsFrom, hfeed]
  rfl

/-- The last byte completes the character. -/
theorem unitsFrom_last (hlow : low ≤ d + 128) (hhigh : d + 128 ≤ high) (hd : d < 64)
    (rest : List UInt8) :
    unitsFrom (.within value 0 low high) (UInt8.ofNat (d + 128) :: rest) =
      some (Char.ofNat (value * 0x40 + d)) :: unitsFrom .start rest := by
  have hbyte : (UInt8.ofNat (d + 128)).toNat = d + 128 := toNat_byte (by omega)
  have hfeed : feed (.within value 0 low high) (UInt8.ofNat (d + 128)) =
      ([some (Char.ofNat (value * 0x40 + d))], .start) := by
    dsimp only [feed]
    rw [hbyte, if_pos ⟨hlow, hhigh⟩, Nat.add_sub_cancel]
  rw [unitsFrom, hfeed]
  rfl

/-- A first byte behind which more have to follow. -/
theorem unitsFrom_lead (hb : b < 256) (hlead : lead b = (none, st)) (rest : List UInt8) :
    unitsFrom .start (UInt8.ofNat b :: rest) = unitsFrom st rest := by
  have hbyte : (UInt8.ofNat b).toNat = b := toNat_byte hb
  have hfeed : feed .start (UInt8.ofNat b) = ([], st) := by
    dsimp only [feed]
    rw [hbyte, hlead]
    rfl
  rw [unitsFrom, hfeed]
  rfl

/-- **One byte.** -/
theorem unitsFrom_one (h : v < 0x80) (rest : List UInt8) :
    unitsFrom .start (UInt8.ofNat v :: rest) = some (Char.ofNat v) :: unitsFrom .start rest := by
  have hbyte : (UInt8.ofNat v).toNat = v := toNat_byte (by omega)
  have hfeed : feed .start (UInt8.ofNat v) = ([some (Char.ofNat v)], .start) := by
    dsimp only [feed, lead]
    rw [hbyte, if_pos h]
    rfl
  rw [unitsFrom, hfeed]
  rfl

theorem lead_of_two (hlow : 0x80 ≤ v) (hhigh : v < 0x800) :
    lead (v / 64 + 192) = (none, .within (v / 64) 0 0x80 0xBF) := by
  unfold lead
  rw [if_neg (by omega), if_neg (by omega), if_pos (by omega), Nat.add_sub_cancel]

/-- The second of three bytes must neither be one that a shorter form would do for nor belong to a
surrogate. -/
theorem lead_of_three (hlow : 0x800 ≤ v) (hhigh : v < 0x10000) (hvalid : v < 0xD800 ∨ 0xDFFF < v) :
    ∃ low high, lead (v / 4096 + 224) = (none, .within (v / 4096) 1 low high) ∧
      low ≤ v / 64 % 64 + 128 ∧ v / 64 % 64 + 128 ≤ high := by
  unfold lead
  rw [if_neg (by omega), if_neg (by omega), if_neg (by omega)]
  by_cases hfirst : v / 4096 = 0
  · refine ⟨0xA0, 0xBF, ?_, by omega, by omega⟩
    rw [hfirst, if_pos rfl]
  · rw [if_neg (by omega)]
    by_cases hbefore : v / 4096 = 0xD
    · refine ⟨0x80, 0x9F, ?_, by omega, by omega⟩
      rw [hbefore, if_pos rfl]
    · refine ⟨0x80, 0xBF, ?_, by omega, by omega⟩
      rw [if_neg (by omega), if_pos (by omega), Nat.add_sub_cancel]

/-- The second of four bytes must neither be one that three bytes would do for nor lead beyond the last
character. -/
theorem lead_of_four (hlow : 0x10000 ≤ v) (hhigh : v < 0x110000) :
    ∃ low high, lead (v / 262144 + 240) = (none, .within (v / 262144) 2 low high) ∧
      low ≤ v / 4096 % 64 + 128 ∧ v / 4096 % 64 + 128 ≤ high := by
  unfold lead
  rw [if_neg (by omega), if_neg (by omega), if_neg (by omega), if_neg (by omega), if_neg (by omega),
    if_neg (by omega)]
  by_cases hfirst : v / 262144 = 0
  · refine ⟨0x90, 0xBF, ?_, by omega, by omega⟩
    rw [hfirst, if_pos rfl]
  · rw [if_neg (by omega)]
    by_cases hlast : v / 262144 = 4
    · refine ⟨0x80, 0x8F, ?_, by omega, by omega⟩
      rw [hlast]
      rfl
    · refine ⟨0x80, 0xBF, ?_, by omega, by omega⟩
      rw [if_pos (by omega), Nat.add_sub_cancel]

/-- **Two bytes.** -/
theorem unitsFrom_two (hlow : 0x80 ≤ v) (hhigh : v < 0x800) (rest : List UInt8) :
    unitsFrom .start (UInt8.ofNat (v / 64 + 192) :: UInt8.ofNat (v % 64 + 128) :: rest) =
      some (Char.ofNat v) :: unitsFrom .start rest := by
  have hvalue : v / 64 * 0x40 + v % 64 = v := by omega
  rw [unitsFrom_lead (by omega) (lead_of_two hlow hhigh),
    unitsFrom_last (by omega) (by omega) (by omega), hvalue]

/-- **Three bytes.** -/
theorem unitsFrom_three (hlow : 0x800 ≤ v) (hhigh : v < 0x10000)
    (hvalid : v < 0xD800 ∨ 0xDFFF < v) (rest : List UInt8) :
    unitsFrom .start (UInt8.ofNat (v / 4096 + 224) :: UInt8.ofNat (v / 64 % 64 + 128) ::
        UInt8.ofNat (v % 64 + 128) :: rest) =
      some (Char.ofNat v) :: unitsFrom .start rest := by
  obtain ⟨low, high, hlead, hsecond, hsecond'⟩ := lead_of_three hlow hhigh hvalid
  have hvalue : (v / 4096 * 0x40 + v / 64 % 64) * 0x40 + v % 64 = v := by omega
  rw [unitsFrom_lead (by omega) hlead, unitsFrom_more hsecond hsecond' (by omega),
    unitsFrom_last (by omega) (by omega) (by omega), hvalue]

/-- **Four bytes.** -/
theorem unitsFrom_four (hlow : 0x10000 ≤ v) (hhigh : v < 0x110000) (rest : List UInt8) :
    unitsFrom .start (UInt8.ofNat (v / 262144 + 240) :: UInt8.ofNat (v / 4096 % 64 + 128) ::
        UInt8.ofNat (v / 64 % 64 + 128) :: UInt8.ofNat (v % 64 + 128) :: rest) =
      some (Char.ofNat v) :: unitsFrom .start rest := by
  obtain ⟨low, high, hlead, hsecond, hsecond'⟩ := lead_of_four hlow hhigh
  have hvalue :
      ((v / 262144 * 0x40 + v / 4096 % 64) * 0x40 + v / 64 % 64) * 0x40 + v % 64 = v := by omega
  rw [unitsFrom_lead (by omega) hlead, unitsFrom_more hsecond hsecond' (by omega),
    unitsFrom_more (by omega) (by omega) (by omega), unitsFrom_last (by omega) (by omega) (by omega),
    hvalue]

end Bytes

/-! ## Characters and texts -/

/-- **The bytes of a character** are read as this character, whatever follows. -/
theorem unitsFrom_utf8EncodeChar (c : Char) (rest : List UInt8) :
    unitsFrom .start (String.utf8EncodeChar c ++ rest) = some c :: unitsFrom .start rest := by
  have hchar : Char.ofNat c.val.toNat = c := Char.ofNat_toNat c
  have hbound : c.val.toNat < 0x110000 := toNat_val_lt c
  have hvalid : c.val.toNat < 0xD800 ∨ 0xDFFF < c.val.toNat := c.valid.imp id And.left
  rw [String.utf8EncodeChar.eq_1]
  generalize c.val.toNat = v at hchar hbound hvalid ⊢
  by_cases hone : v ≤ 127
  · rw [if_pos hone, ← hchar]
    exact unitsFrom_one (by omega) rest
  rw [if_neg hone]
  by_cases htwo : v ≤ 2047
  · rw [if_pos htwo, Nat.mod_eq_of_lt (by omega : v / 64 < 32), ← hchar]
    exact unitsFrom_two (by omega) (by omega) rest
  rw [if_neg htwo]
  by_cases hthree : v ≤ 65535
  · rw [if_pos hthree, Nat.mod_eq_of_lt (by omega : v / 4096 < 16), ← hchar]
    exact unitsFrom_three (by omega) (by omega) hvalid rest
  · rw [if_neg hthree, Nat.mod_eq_of_lt (by omega : v / 262144 < 8), ← hchar]
    exact unitsFrom_four (by omega) hbound rest

/-- **The bytes of a text are read as this text.** -/
theorem decode?_encode (s : String) : decode? (encode s) = some s := by
  have hunits (cs : List Char) : units (cs.flatMap String.utf8EncodeChar) = cs.map some := by
    induction cs with
    | nil => rfl
    | cons c rest ih =>
        rw [List.flatMap_cons, List.map_cons, units, unitsFrom_utf8EncodeChar]
        exact congrArg (some c :: ·) ih
  have hall (cs : List Char) : (cs.map some).mapM id = some cs := by
    induction cs with
    | nil => rfl
    | cons c rest ih => simp [ih]
  unfold decode? encode
  rw [hunits, hall, Option.map_some, String.ofList_toList]

end BatchCompiler.Text.Utf8

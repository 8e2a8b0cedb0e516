import BatchCompiler.Proofs.Regex.Meaning
import BatchCompiler.Regex.Bundled

/-!
# The bundled engine is lawful

It reads what is written, and it finds what there is.  Of the very many ways in which an expression may
take parts of a text it keeps of each only where it has come to; a position is reached by the pieces read
so far if they take a part of the text that ends there, wherever it begins.

## Main definitions

* `Regex.Reaches` — the positions reached in a text are those that split it in a certain way

## Main statements

* `Regex.read?_of_written` — what is written is read
* `Regex.reaches_step` — one more piece
* `Regex.isFoundIn_iff` — an expression is found where it is to be found
* `Regex.Engine.bundled_lawful` — the engine
-/

namespace BatchCompiler.Regex

variable {a : Atom} {p : Piece} {r : Regex} {text rest : List Char}

/-! ## Reading -/

/-- **An atom is read**, whatever lies behind it. -/
theorem readBehind_of_written (h : a.Written text) (ahead : List Piece) (rest : List Char) :
    readBehind ahead (text ++ rest) = readBehind (.once a :: ahead) rest := by
  cases h with
  | textStart => rfl
  | textEnd => rfl
  | anyChar => rfl
  | @plain c hplain =>
      have hother (d : Char) (hd : isMeta d = true) : c ≠ d := by
        rintro rfl
        rw [hplain] at hd
        cases hd
      have hchar : Atom.ofChar? c = some (.char c) := by
        unfold Atom.ofChar?
        rw [if_neg (hother '^' rfl), if_neg (hother '$' rfl), if_neg (hother '.' rfl), hplain]
        rfl
      rw [List.singleton_append, readBehind, hchar]
      · exact hother '*' rfl
      · exact fun _ _ hbackslash _ => hother '\\' rfl hbackslash
  | quoted hmeta =>
      rw [List.cons_append, List.singleton_append, readBehind, if_pos hmeta]

/-- **What is written is read**, behind whatever has been read before. -/
theorem readBehind_eq (h : Written r text) (ahead : List Piece) :
    readBehind ahead text = some (ahead.reverse ++ r) := by
  induction h generalizing ahead with
  | nil => simp [readBehind]
  | once hatom _ ih =>
      rw [readBehind_of_written hatom, ih, List.reverse_cons, List.append_assoc,
        List.singleton_append]
  | anyTimes hatom _ ih =>
      rw [readBehind_of_written hatom, readBehind, ih, List.reverse_cons, List.append_assoc,
        List.singleton_append]

theorem read?_of_written {text : String} (h : Written r text.toList) : read? text = some r :=
  readBehind_eq h []

/-! ## Positions -/

/-- **The positions reached** in a text, one more than it has characters, are those at which it splits
into parts that `P` holds of. -/
structure Reaches (text : List Char) (reached : List Bool) (P : List Char → List Char → Prop) :
    Prop where
  length : reached.length = text.length + 1
  iff : ∀ ahead behind, text = ahead ++ behind →
    (reached[ahead.length]? = some true ↔ P ahead behind)

variable {reached : List Bool} {P Q : List Char → List Char → Prop}

theorem Reaches.congr (h : Reaches text reached P)
    (hPQ : ∀ ahead behind, P ahead behind ↔ Q ahead behind) : Reaches text reached Q :=
  ⟨h.length, fun ahead behind htext => (h.iff ahead behind htext).trans (hPQ ahead behind)⟩

/-- At first every position is reached. -/
theorem reaches_replicate (text : List Char) :
    Reaches text (List.replicate (text.length + 1) true) fun _ _ => True where
  length := List.length_replicate
  iff ahead behind htext := by
    have hlength : ahead.length < text.length + 1 := by
      rw [htext, List.length_append]
      omega
    simp [hlength]

/-- **Positions that satisfy `p`** of those reached. -/
theorem reaches_mapIdx (h : Reaches text reached P) (p : Nat → Prop) [DecidablePred p] :
    Reaches text (reached.mapIdx fun i here => here && p i)
      fun ahead behind => P ahead behind ∧ p ahead.length where
  length := by rw [List.length_mapIdx, h.length]
  iff ahead behind htext := by
    rw [List.getElem?_mapIdx, ← h.iff ahead behind htext]
    cases reached[ahead.length]? with
    | none => simp
    | some here => simp

/-- **One more character that satisfies `p`.** -/
theorem reaches_advance (h : Reaches text reached P) (p : Char → Bool) :
    Reaches text (advance p reached text) fun ahead behind => ∃ start c,
      ahead = start ++ [c] ∧ P start (c :: behind) ∧ p c = true where
  length := by simp [advance, h.length]
  iff ahead behind htext := by
    rcases List.eq_nil_or_concat' ahead with rfl | ⟨start, c, rfl⟩
    · simp [advance]
    · -- The position behind `c` is reached from the one ahead of it, and from no other.
      rw [List.append_assoc, List.singleton_append] at htext
      have hplace := h.iff start (c :: behind) htext
      have hchar : text[start.length]? = some c := by simp [htext]
      simp only [advance, List.length_append, List.length_singleton, List.getElem?_cons_succ,
        List.getElem?_zipWith, hchar]
      cases hhere : reached[start.length]? with
      | none => simp [← hplace, hhere]
      | some here => simp [← hplace, hhere]

/-- **Any run of characters that satisfy `p`**, which has begun at a position reached or ahead of the
text. -/
theorem getElem?_spread (p : Char → Bool) (text : List Char) : ∀ (carried : Bool)
    (reached : List Bool) (ahead behind : List Char), reached.length = text.length + 1 →
    text = ahead ++ behind →
    ((spread p carried reached text)[ahead.length]? = some true ↔ ∃ start run,
      ahead = start ++ run ∧
        (reached[start.length]? = some true ∨ start = [] ∧ carried = true) ∧
          ∀ c ∈ run, p c = true) := by
  induction text with
  | nil =>
      intro carried reached ahead behind hlength htext
      obtain ⟨here, rfl⟩ := List.length_eq_one_iff.mp hlength
      obtain ⟨rfl, rfl⟩ := List.append_eq_nil_iff.mp htext.symm
      simp [spread]
  | cons c text ih =>
      intro carried reached ahead behind hlength htext
      cases reached with
      | nil => cases hlength
      | cons here reached =>
          cases ahead with
          | nil => simp [spread]
          | cons d ahead =>
              obtain ⟨rfl, hrest⟩ := List.cons.inj htext
              rw [spread, List.length_cons, List.getElem?_cons_succ,
                ih _ reached ahead behind (Nat.succ.inj hlength) hrest]
              constructor
              · rintro ⟨start, run, rfl, hplace | ⟨rfl, hcarried⟩, hrun⟩
                · exact ⟨c :: start, run, rfl, .inl hplace, hrun⟩
                · -- The run goes on over `c`, so it has begun at the first position or ahead of it.
                  simp only [Bool.and_eq_true, Bool.or_eq_true] at hcarried
                  refine ⟨[], c :: run, rfl, ?_, List.forall_mem_cons.mpr ⟨hcarried.2, hrun⟩⟩
                  exact hcarried.1.imp (congrArg some) fun h => ⟨rfl, h⟩
              · rintro ⟨start, run, hcut, hplace, hrun⟩
                cases start with
                | nil =>
                    obtain rfl : c :: ahead = run := hcut
                    rw [List.forall_mem_cons] at hrun
                    refine ⟨[], ahead, rfl, .inr ⟨rfl, ?_⟩, hrun.2⟩
                    simp only [Bool.and_eq_true, Bool.or_eq_true]
                    exact ⟨hplace.imp Option.some.inj And.right, hrun.1⟩
                | cons e start =>
                    obtain ⟨rfl, rfl⟩ := List.cons.inj hcut
                    exact ⟨start, run, rfl, .inl (hplace.resolve_right fun h => nomatch h.1), hrun⟩

theorem length_spread (p : Char → Bool) (text : List Char) : ∀ (carried : Bool)
    (reached : List Bool), reached.length = text.length + 1 →
    (spread p carried reached text).length = text.length + 1 := by
  induction text with
  | nil =>
      intro carried reached hlength
      obtain ⟨here, rfl⟩ := List.length_eq_one_iff.mp hlength
      rfl
  | cons c text ih =>
      intro carried reached hlength
      cases reached with
      | nil => cases hlength
      | cons here reached => exact congrArg (· + 1) (ih _ reached (Nat.succ.inj hlength))

/-- **A run of characters that satisfy `p`.** -/
theorem reaches_spread (h : Reaches text reached P) (p : Char → Bool) :
    Reaches text (spread p false reached text) fun ahead behind => ∃ start run,
      ahead = start ++ run ∧ P start (run ++ behind) ∧ ∀ c ∈ run, p c = true where
  length := length_spread p text false reached h.length
  iff ahead behind htext := by
    rw [getElem?_spread p text false reached ahead behind h.length htext]
    refine exists_congr fun start => exists_congr fun run => and_congr_right fun hcut => ?_
    have hplace := h.iff start (run ++ behind) (by rw [htext, hcut, List.append_assoc])
    simp [hplace]

/-! ## Pieces -/

theorem Atom.takes_iff {c : Char} : a.takes c = true ↔ a.Takes [] [c] [] := by
  cases a with
  | textStart => simp [takes]
  | textEnd => simp [takes]
  | anyChar => simp [takes]
  | char d => simp [takes]

/-- **One more piece**: what it takes begins at a position reached. -/
theorem reaches_step (h : Reaches text reached P) (p : Piece) :
    Reaches text (step text reached p) fun ahead behind => ∃ start part,
      ahead = start ++ part ∧ P start (part ++ behind) ∧ p.Takes start part behind := by
  cases p with
  | anyTimes a =>
      refine (reaches_spread h a.takes).congr fun ahead behind => ?_
      simp only [Piece.takes_anyTimes_iff, Atom.takes_iff]
  | once a =>
      cases a with
      | textStart =>
          refine (reaches_mapIdx h (· = 0)).congr fun ahead behind => ?_
          simp only [Piece.takes_once_iff, Atom.takes_textStart_iff, List.length_eq_zero_iff]
          constructor
          · rintro ⟨hplace, rfl⟩
            exact ⟨[], [], rfl, hplace, rfl, rfl⟩
          · rintro ⟨_, _, rfl, hplace, rfl, rfl⟩
            exact ⟨hplace, rfl⟩
      | textEnd =>
          refine ⟨(reaches_mapIdx h (· = text.length)).length, fun ahead behind htext => ?_⟩
          have hend : ahead.length = text.length ↔ behind = [] := by
            rw [htext, List.length_append, Nat.left_eq_add, List.length_eq_zero_iff]
          refine ((reaches_mapIdx h (· = text.length)).iff ahead behind htext).trans ?_
          simp only [Piece.takes_once_iff, Atom.takes_textEnd_iff, hend]
          constructor
          · rintro ⟨hplace, rfl⟩
            exact ⟨ahead, [], (List.append_nil _).symm, hplace, rfl, rfl⟩
          · rintro ⟨_, _, rfl, hplace, rfl, rfl⟩
            exact ⟨by simpa using hplace, rfl⟩
      | anyChar =>
          refine (reaches_advance h Atom.anyChar.takes).congr fun ahead behind => ?_
          simp only [Piece.takes_once_iff, Atom.takes_anyChar_iff]
          constructor
          · rintro ⟨start, c, rfl, hplace, hc⟩
            exact ⟨start, [c], rfl, hplace, c, of_decide_eq_true hc, rfl⟩
          · rintro ⟨start, _, rfl, hplace, c, hc, rfl⟩
            exact ⟨start, c, rfl, hplace, decide_eq_true hc⟩
      | char d =>
          refine (reaches_advance h (Atom.char d).takes).congr fun ahead behind => ?_
          simp only [Piece.takes_once_iff, Atom.takes_char_iff]
          constructor
          · rintro ⟨start, c, rfl, hplace, hc⟩
            obtain rfl := of_decide_eq_true hc
            exact ⟨start, [c], rfl, hplace, rfl⟩
          · rintro ⟨start, _, rfl, hplace, rfl⟩
            exact ⟨start, d, rfl, hplace, decide_eq_true rfl⟩

/-- **A whole expression**: what it takes begins at a position reached. -/
theorem reaches_foldl (r : Regex) : ∀ {reached : List Bool} {P : List Char → List Char → Prop},
    Reaches text reached P →
    Reaches text (r.foldl (step text) reached) fun ahead behind => ∃ start part,
      ahead = start ++ part ∧ P start (part ++ behind) ∧ r.Takes start part behind := by
  induction r with
  | nil =>
      intro reached P h
      refine h.congr fun ahead behind => ?_
      simp
  | cons p r ih =>
      intro reached P h
      refine (ih (reaches_step h p)).congr fun ahead behind => ⟨?_, ?_⟩
      · rintro ⟨_, later, rfl, ⟨start, first, rfl, hplace, hfirst⟩, hlater⟩
        rw [← List.append_assoc] at hplace
        exact ⟨start, first ++ later, List.append_assoc .., hplace, .cons hfirst hlater⟩
      · rintro ⟨start, _, rfl, hplace, htakes⟩
        obtain ⟨first, later, rfl, hfirst, hlater⟩ := takes_cons_iff.mp htakes
        rw [List.append_assoc] at hplace
        exact ⟨start ++ first, later, (List.append_assoc ..).symm,
          ⟨start, first, rfl, hplace, hfirst⟩, hlater⟩

/-- **An expression is found** where it is to be found. -/
theorem isFoundIn_iff (r : Regex) (text : List Char) : r.isFoundIn text = true ↔ r.FoundIn text := by
  have hreaches := reaches_foldl r (reaches_replicate text)
  unfold isFoundIn FoundIn
  rw [List.any_eq_true]
  constructor
  · rintro ⟨here, hmem, rfl⟩
    obtain ⟨i, hi, hplace⟩ := List.mem_iff_getElem.mp hmem
    rw [hreaches.length] at hi
    have hsplit : text = text.take i ++ text.drop i := (List.take_append_drop i text).symm
    have hlength : (text.take i).length = i := List.length_take_of_le (by omega)
    obtain ⟨before, taken, hahead, -, htakes⟩ := (hreaches.iff _ _ hsplit).mp <| by
      rw [hlength, List.getElem?_eq_some_iff]
      exact ⟨_, hplace⟩
    exact ⟨before, taken, text.drop i, hahead ▸ hsplit, htakes⟩
  · rintro ⟨before, taken, behind, htext, htakes⟩
    have hplace := (hreaches.iff (before ++ taken) behind htext).mpr
      ⟨before, taken, rfl, trivial, htakes⟩
    exact ⟨true, List.mem_of_getElem? hplace, rfl⟩

/-- **The bundled engine finds what there is.** -/
theorem Engine.bundled_lawful : Engine.bundled.Lawful where
  finds_iff {expression finds r} hcompile hwritten text := by
    unfold bundled at hcompile
    dsimp only at hcompile
    rw [read?_of_written hwritten] at hcompile
    dsimp only at hcompile
    split at hcompile
    · obtain rfl := Except.ok.inj hcompile
      exact isFoundIn_iff r text.toList
    · cases hcompile

end BatchCompiler.Regex

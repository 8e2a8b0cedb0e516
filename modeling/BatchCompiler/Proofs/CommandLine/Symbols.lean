import BatchCompiler.Proofs.CommandLine.Meaning
import BatchCompiler.Proofs.CommandLine.Points
import BatchCompiler.Proofs.Firsts

/-!
# Conditional symbols

Symbols are defined by an option of either dialect.  The colon option takes in the valid ones of a list
and warns of the others; the legacy option takes in its value, whatever that is.  So the symbols of a
command line are valid exactly if what stands behind the legacy option is, wherever it comes from.

## Main definitions

* `Meaning.symbols`, `Reading.symbols` — the symbols that an argument offers

## Main statements

* `Meaning.symbols_eq` — an argument offers what it adds to the symbols
* `Reading.defines_of_run` — the arguments of a whole reading define what they offer
* `CommandLine.defines_of_parse` — where the symbols of a command line come from
-/

namespace BatchCompiler

/-- **The symbols that an argument offers**, as what it is read as. -/
def Meaning.symbols : Meaning → List String
  | .legacy .define value => [value]
  | .colon .define written =>
      (Text.pieces Text.isListMark written.value).filter Handler.isValidSymbol
  | _ => []

/-- The symbols that the next argument of a reading offers. -/
def Reading.symbols (r : Reading) : List String := (r.meaning?.map Meaning.symbols).getD []

/-- **What an argument offers is what it adds to the symbols.** -/
theorem Meaning.symbols_eq (arg : String) (meaning : Meaning) :
    (meaning.additions arg).filterMap Addition.symbol? = meaning.symbols := by
  cases meaning with
  | legacy o value =>
      cases o with
      | _ => rfl
  | colon o written =>
      have hlist (entries : List String) :
          (entries.map Addition.symbol).filterMap Addition.symbol? = entries := by
        rw [List.filterMap_map]
        exact List.filterMap_some
      have hother {as : List Addition} (h : as.filterMap Addition.symbol? = []) :
          (if written.value = "" then [] else as).filterMap Addition.symbol? = [] := by
        split
        · rfl
        · exact h
      cases o with
      | define =>
          show
            (if written.value = "" then [] else ColonOption.symbolAdditions written.value).filterMap
            Addition.symbol? = _
          split
          · rename_i hempty
            show [] = (Text.pieces Text.isListMark written.value).filter Handler.isValidSymbol
            rw [hempty]
            decide
          · exact hlist _
      | resource =>
          refine hother ?_
          unfold ColonOption.resourceAdditions
          cases (ResourceSpec.parse written.option written.value).1 with
          | none => rfl
          | some spec => rfl
      | recurse => exact hother rfl
      | reference =>
          refine hother ?_
          rw [List.filterMap_map]
          exact List.filterMap_none _
      | _ => rfl
  | nothing | separator | valueless | source | unrecognized => rfl

/-! ## Readings -/

namespace Reading

variable {r r' : Reading} {earlier : List String}

/-- What the next argument offers is what it adds to the symbols. -/
theorem symbols_eq (r : Reading) : r.additions.filterMap Addition.symbol? = r.symbols := by
  unfold additions symbols meaning?
  cases r.unread with
  | nil => rfl
  | cons arg rest => exact Meaning.symbols_eq arg _

/-- **A turn defines what its argument offers.** -/
theorem defines_of_turn (h : r.turn env = (none, r')) (hearlier : r.config.defines = earlier.eraseDups) :
    r'.config.defines = (earlier ++ r.symbols).eraseDups := by
  have hlists := r.lists_turn env
  rw [h] at hlists
  have hsymbols := congrArg Config.Lists.symbols hlists
  rw [Config.Lists.symbols_addAll hearlier, symbols_eq] at hsymbols
  exact hsymbols

theorem symbols_of_unread_nil (h : r.unread = []) : r.symbols = [] := by
  unfold symbols meaning?
  rw [h]
  rfl

/-- **The symbols that the arguments of so many turns offer.** -/
def offered (env : Environment) (turns : Nat) (r : Reading) : List String :=
  (List.range turns).flatMap fun n => (r.after env n).symbols

theorem offered_of_unread_nil (h : r.unread = []) (turns : Nat) : r.offered env turns = [] := by
  unfold offered
  rw [List.flatMap_eq_nil_iff]
  intro n _
  rw [after_of_unread_nil h, symbols_of_unread_nil h]

theorem offered_succ (h : r.turn env = (none, r')) (turns : Nat) :
    r.offered env (turns + 1) = r.symbols ++ r'.offered env turns := by
  have hafter : ∀ n, r.after env (n + 1) = r'.after env n := by
    intro n
    rw [after, h]
  unfold offered
  rw [List.range_succ_eq_map, List.flatMap_cons, List.flatMap_map]
  simp only [Nat.succ_eq_add_one, hafter]
  rfl

/-- **A reading that comes to a compilation has defined what its arguments offer.** -/
theorem defines_of_run {turns : Nat} {config : Config}
    (h : run env turns r = some (.ok (.compile config), r'))
    (hearlier : r.config.defines = earlier.eraseDups) :
    config.defines = (earlier ++ r.offered env turns).eraseDups := by
  induction turns generalizing r earlier with
  | zero => cases h
  | succ turns ih =>
      rw [run] at h
      rcases hturn : r.turn env with ⟨_ | ending, r₁⟩
      · rw [hturn] at h
        rw [offered_succ hturn, ← List.append_assoc]
        exact ih h (defines_of_turn hturn hearlier)
      · rw [hturn] at h
        cases h
        obtain ⟨-, hunread, hconfig, -⟩ := turn_eq_compile hturn
        rw [offered_of_unread_nil hunread, List.append_nil, ← hearlier, hconfig]

end Reading

/-! ## Where symbols come from -/

namespace Meaning

variable {arg value symbol : String} {o : LegacyOption} {behind : List String}

theorem ofColon?_ne_legacy {slashed : String} : ofColon? slashed ≠ some (legacy o value) := by
  intro h
  obtain ⟨found, -, hfound⟩ := Option.map_eq_some_iff.mp h
  cases hfound

theorem getD_ofColon?_ne_legacy {slashed : String} {other : Meaning}
    (h : other ≠ legacy o value) : (ofColon? slashed).getD other ≠ legacy o value := by
  cases hread : ofColon? slashed with
  | none => exact h
  | some meaning =>
      rintro rfl
      exact ofColon?_ne_legacy hread

/-- **A legacy option is read by its spelling**, with its value behind it. -/
theorem find?_of_ofOption_eq_legacy (h : ofOption arg behind = legacy o value) :
    LegacyOption.find? arg = some o ∧ ofLegacy o behind = legacy o value := by
  have hsame : ∀ o', ofLegacy o' behind = legacy o value → o' = o := by
    intro o' hlegacy
    unfold ofLegacy at hlegacy
    split at hlegacy
    · cases hbehind : behind.head? with
      | none =>
          rw [hbehind] at hlegacy
          cases hlegacy
      | some next =>
          rw [hbehind] at hlegacy
          cases hlegacy
          rfl
    · cases hlegacy
      rfl
  unfold ofOption at h
  split at h
  · split at h
    · rename_i o' hfind
      obtain rfl := hsame o' h
      exact ⟨hfind, h⟩
    · exact absurd h (getD_ofColon?_ne_legacy (by simp))
  · refine absurd h (getD_ofColon?_ne_legacy ?_)
    split
    · simp
    · simp
  · cases h

end Meaning

namespace Reading

variable {r : Reading} {symbol : String}

/-- **The legacy option has one spelling.** -/
theorem find?_eq_define_iff {arg : String} :
    LegacyOption.find? arg = some .define ↔ arg = "--define" := by
  constructor
  · intro h
    have hnamed := List.find?_some h
    simpa [LegacyOption.names] using hnamed
  · rintro rfl
    decide

/-- **A value stands behind the legacy option**, while options are read. -/
def DefinesAsWritten (r : Reading) (symbol : String) : Prop :=
  r.optionsOpen = true ∧ ∃ rest, r.unread = "--define" :: symbol :: rest

theorem meaning?_eq_define_iff :
    r.meaning? = some (.legacy .define symbol) ↔ r.DefinesAsWritten symbol := by
  constructor
  · intro h
    unfold meaning? at h
    cases hunread : r.unread with
    | nil =>
        rw [hunread] at h
        cases h
    | cons arg rest =>
        rw [hunread] at h
        have hmeaning := Option.some.inj h
        unfold Meaning.ofArgument at hmeaning
        split at hmeaning
        · cases hmeaning
        · split at hmeaning
          · cases hmeaning
          · split at hmeaning
            · rename_i hopen
              obtain ⟨hfind, hvalue⟩ := Meaning.find?_of_ofOption_eq_legacy hmeaning
              obtain rfl := find?_eq_define_iff.mp hfind
              refine ⟨hopen, ?_⟩
              cases rest with
              | nil => cases hvalue
              | cons next rest =>
                  cases hvalue
                  exact ⟨rest, hunread⟩
            · cases hmeaning
  · rintro ⟨hopen, rest, hunread⟩
    have hfind : LegacyOption.find? "--define" = some .define := find?_eq_define_iff.mpr rfl
    have hdash : "--define".toList = '-' :: "-define".toList := by decide
    unfold meaning? Meaning.ofArgument
    rw [hunread, hopen]
    dsimp only
    rw [if_neg (by decide), if_neg (by decide), if_pos rfl,
      Meaning.ofOption_of_dash hdash, hfind]
    rfl

/-- **What an argument offers is valid**, or stands behind the legacy option. -/
theorem valid_or_asWritten (h : symbol ∈ r.symbols) :
    Handler.isValidSymbol symbol = true ∨ r.DefinesAsWritten symbol := by
  unfold symbols at h
  cases hmeaning : r.meaning? with
  | none =>
      rw [hmeaning] at h
      cases h
  | some meaning =>
      rw [hmeaning, Option.map_some, Option.getD_some] at h
      unfold Meaning.symbols at h
      split at h
      · obtain rfl := List.mem_singleton.mp h
        exact .inr (meaning?_eq_define_iff.mp hmeaning)
      · exact .inl (List.mem_filter.mp h).2
      · cases h

theorem mem_symbols_of_asWritten (h : r.DefinesAsWritten symbol) : symbol ∈ r.symbols := by
  unfold symbols
  rw [meaning?_eq_define_iff.mpr h]
  exact List.mem_singleton_self symbol

theorem mem_offered {env : Environment} {turns : Nat} :
    symbol ∈ r.offered env turns ↔ ∃ n < turns, symbol ∈ (r.after env n).symbols := by
  unfold offered
  simp

end Reading

/-! ## The command line -/

namespace CommandLine

variable {turns : Nat} {args : List String} {config : Config} {r : Reading}

/-- A command line that compiles has been read to its end. -/
theorem run_of_parse (h : parse env turns {} {} args = some (.ok (.compile config), r)) :
    Reading.run env turns (opening env args) = some (.ok (.compile config), r) := by
  unfold parse at h
  unfold opening
  dsimp only at h ⊢
  cases hresult : (ResponseFile.expand env.files [] args).result with
  | error problem =>
      rw [hresult] at h
      cases h
  | ok expanded =>
      rw [hresult] at h
      exact h

/-- **Where the symbols of a command line come from.**  A command line that compiles has defined the
symbols that its arguments offer, in order and each of them once: the valid ones of a list behind a
colon, and whatever stands behind `--define`.  So each is valid unless it stands there, and they are
all valid exactly if everything that stands there is. -/
theorem defines_of_parse (h : parse env turns {} {} args = some (.ok (.compile config), r)) :
    config.defines =
        ((List.range turns).flatMap fun n => (readingAfter env args n).symbols).eraseDups ∧
      (∀ symbol ∈ config.defines, Handler.isValidSymbol symbol = true ∨
        ∃ n < turns, (readingAfter env args n).optionsOpen = true ∧
          ∃ rest, (readingAfter env args n).unread = "--define" :: symbol :: rest) ∧
      ((∀ symbol ∈ config.defines, Handler.isValidSymbol symbol = true) ↔
        ∀ n < turns, (readingAfter env args n).optionsOpen = true →
          ∀ symbol rest, (readingAfter env args n).unread = "--define" :: symbol :: rest →
            Handler.isValidSymbol symbol = true) := by
  have hdefines : config.defines = ((opening env args).offered env turns).eraseDups :=
    Reading.defines_of_run (run_of_parse h) (show _ = ([] : List String).eraseDups from rfl)
  have hmem (symbol : String) : symbol ∈ config.defines ↔
      ∃ n < turns, symbol ∈ (readingAfter env args n).symbols := by
    rw [hdefines, List.mem_eraseDups]
    exact Reading.mem_offered
  have hvalid : ∀ symbol ∈ config.defines, Handler.isValidSymbol symbol = true ∨
      ∃ n < turns, (readingAfter env args n).DefinesAsWritten symbol := by
    intro symbol hsymbol
    obtain ⟨n, hn, hoffered⟩ := (hmem symbol).mp hsymbol
    exact (Reading.valid_or_asWritten hoffered).imp_right fun hwritten => ⟨n, hn, hwritten⟩
  refine ⟨hdefines, hvalid, ?_⟩
  constructor
  · intro hall n hn hopen symbol rest hunread
    have hwritten : (readingAfter env args n).DefinesAsWritten symbol := ⟨hopen, rest, hunread⟩
    exact hall symbol ((hmem symbol).mpr ⟨n, hn, Reading.mem_symbols_of_asWritten hwritten⟩)
  · intro hwritten symbol hsymbol
    obtain hsound | ⟨n, hn, hopen, rest, hunread⟩ := hvalid symbol hsymbol
    · exact hsound
    · exact hwritten n hn hopen symbol rest hunread

/-- An environment without files and without packages. -/
def bare : Environment := ⟨⟨[], ⟨[]⟩⟩, fun _ _ => .ended true [] ""⟩

/-- Of a list the valid symbol is defined, and behind `--define` the other one too. -/
theorem defines_of_parse_mixed :
    ∃ r, parse bare 4 {} {} ["-d:A;1b", "--define", "1x", "a.cs"] =
        some (.ok (.compile { sources := ⟨[⟨"a.cs"⟩]⟩, defines := ["A", "1x"] }), r) ∧
      ∀ symbol ∈ ["A", "1x"], Handler.isValidSymbol symbol = true ∨
        ∃ n < 4, (readingAfter bare ["-d:A;1b", "--define", "1x", "a.cs"] n).optionsOpen = true ∧
          ∃ rest, (readingAfter bare ["-d:A;1b", "--define", "1x", "a.cs"] n).unread =
            "--define" :: symbol :: rest := by
  have hending : (parse bare 4 {} {} ["-d:A;1b", "--define", "1x", "a.cs"]).map Prod.fst =
      some (.ok (.compile { sources := ⟨[⟨"a.cs"⟩]⟩, defines := ["A", "1x"] })) := by
    unfold parse
    dsimp only
    rw [ResponseFile.expand_of_plain (by decide)]
    decide +kernel
  obtain ⟨⟨_, r⟩, hparse, rfl⟩ := Option.map_eq_some_iff.mp hending
  exact ⟨r, hparse, (defines_of_parse hparse).2.1⟩

/-- The legacy option defines what is no symbol. -/
theorem not_valid_of_define :
    ∃ config r, parse bare 3 {} {} ["--define", "1x", "a.cs"] =
        some (.ok (.compile config), r) ∧
      ∃ symbol ∈ config.defines, Handler.isValidSymbol symbol = false := by
  have hending : (parse bare 3 {} {} ["--define", "1x", "a.cs"]).map Prod.fst =
      some (.ok (.compile { sources := ⟨[⟨"a.cs"⟩]⟩, defines := ["1x"] })) := by
    unfold parse
    dsimp only
    rw [ResponseFile.expand_of_plain (by decide)]
    decide
  obtain ⟨⟨_, r⟩, hparse, rfl⟩ := Option.map_eq_some_iff.mp hending
  exact ⟨_, r, hparse, "1x", List.mem_singleton_self _, by decide⟩

end CommandLine

end BatchCompiler

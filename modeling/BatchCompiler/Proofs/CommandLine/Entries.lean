import BatchCompiler.Proofs.CommandLine.Spelling
import BatchCompiler.Proofs.CommandLine.Symbols

/-!
# Entries of lists

The value of some options is a list.  Its entries are taken in one by one: what an entry sets, or how it
is refused, can be said from the entry alone, and an entry that is refused leaves the reading to its
neighbours as it was.

## Main definitions

* `ListOption` — the options whose entries may be malformed
* `ListOption.Sets`, `ListOption.Refuses` — what an entry sets, or what is reported of it
* `ListOption.Sorts`, `ListOption.Cuts` — the entries of a list, sorted by that
* `Reading.settle` — a reading to which entries have been added

## Main statements

* `Handler.warningCode?_eq_some_iff` — the entries that name a warning
* `ListOption.perform_handleEntry_of_sets`, `ListOption.perform_handleEntry_of_refuses` — one entry
* `ListOption.perform_forM_of_sorts` — many entries
* `ListOption.dispatch_of_cuts` — an option with its list
-/

namespace BatchCompiler

/-! ## Options and entries -/

/-- **An option whose value is a list** of entries, any of which may be malformed. -/
inductive ListOption where
  | suppressions
  | symbols
  | references
deriving DecidableEq, Repr

/-- **What an entry of a list sets.** -/
inductive ListSetting where
  | suppress (code : Int)
  | define (symbol : String)
  | refer (library : String)
  | bind (alias_ library : String)
deriving DecidableEq, Repr

/-- **An entry names a warning**: it is a number, blanks around it aside, and the number is the code. -/
def NamesWarning (entry : String) (code : Nat) : Prop :=
  ∃ before sign digits after, entry.toList = before ++ (sign ++ digits) ++ after ∧
    (∀ c ∈ before ++ after, Text.isBlank c = true) ∧ (sign = [] ∨ sign = ['+']) ∧
    (digits ≠ [] ∧ ∀ c ∈ digits, c.isDigit = true) ∧ Nat.ofDigitChars 10 digits 0 = code ∧
    1 ≤ code ∧ code ≤ 0x7fffffff

namespace ListOption

/-- The option among the colon options. -/
def option : ListOption → ColonOption
  | suppressions => .ignoreWarnings
  | symbols => .define
  | references => .reference

/-- What stands between entries. -/
def isMark : ListOption → Char → Bool
  | suppressions => (· = ',')
  | symbols | references => Text.isListMark

/-- An entry counts, which an empty one may not do. -/
def counts : ListOption → String → Bool
  | symbols => fun _ => true
  | suppressions | references => (· ≠ "")

/-- What is done with an entry that counts. -/
def handleEntry : ListOption → String → Handler Unit
  | suppressions => Handler.ignoreWarning
  | symbols => Handler.defineSymbol
  | references => Handler.addReference

/-- **What an entry sets**, if it is well formed. -/
inductive Sets : ListOption → String → ListSetting → Prop
  | suppress {entry : String} {code : Nat} (h : NamesWarning entry code) :
      Sets suppressions entry (.suppress code)
  | define {symbol : String} (h : Handler.isValidSymbol symbol = true) :
      Sets symbols symbol (.define symbol)
  | refer {library : String} (h : '=' ∉ library.toList) : Sets references library (.refer library)
  | bind {entry alias_ library : String} (h : entry.toList = alias_.toList ++ '=' :: library.toList)
      (hfirst : '=' ∉ alias_.toList) (hlibrary : library ≠ "") (hvalid : isValidAlias alias_ = true) :
      Sets references entry (.bind alias_ library)

/-- **What is reported of a malformed entry.** -/
inductive Refuses : ListOption → String → Report → Prop
  | noWarning {entry : String} (h : ∀ code, ¬ NamesWarning entry code) :
      Refuses suppressions entry (.error 1904 ("`" ++ entry ++ "' is not a valid warning number"))
  | noSymbol {entry : String} (h : Handler.isValidSymbol entry = false) :
      Refuses symbols entry (.warning 2029 1 ("Invalid conditional define symbol `" ++ entry ++ "'"))
  | noLibrary {entry alias_ : String} (h : entry.toList = alias_.toList ++ ['='])
      (hfirst : '=' ∉ alias_.toList) :
      Refuses references entry
        (.error 1680 ("Invalid reference alias `" ++ alias_ ++ "='. Missing filename"))
  | noAlias {entry alias_ library : String}
      (h : entry.toList = alias_.toList ++ '=' :: library.toList) (hfirst : '=' ∉ alias_.toList)
      (hlibrary : library ≠ "") (hvalid : isValidAlias alias_ = false) :
      Refuses references entry
        (.error 1679 ("Invalid extern alias for -reference. Alias `" ++ alias_ ++
          "' is not a valid identifier"))

/-- **Entries sorted** into those that set something and the reports of the others, in order. -/
inductive Sorts (o : ListOption) : List String → List (String × ListSetting) → List Report → Prop
  | nil : Sorts o [] [] []
  | keep {entry : String} {setting : ListSetting} {entries : List String}
      {kept : List (String × ListSetting)} {reports : List Report} (h : o.Sets entry setting)
      (hrest : Sorts o entries kept reports) :
      Sorts o (entry :: entries) ((entry, setting) :: kept) reports
  | refuse {entry : String} {report : Report} {entries : List String}
      {kept : List (String × ListSetting)} {reports : List Report} (h : o.Refuses entry report)
      (hrest : Sorts o entries kept reports) : Sorts o (entry :: entries) kept (report :: reports)

/-- **A list cut into its entries**, of which those that count are sorted. -/
def Cuts (o : ListOption) (value : String) (kept : List (String × ListSetting))
    (reports : List Report) : Prop :=
  ∃ entries : List String, Text.Lists o.isMark value.toList (entries.map String.toList) ∧
    o.Sorts (entries.filter o.counts) kept reports

end ListOption

/-! ## Settings -/

namespace ListSetting

/-- The dropped codes with those of a setting. -/
def addCode (codes : List Int) : ListSetting → List Int
  | suppress code => if code ∈ codes then codes else codes ++ [code]
  | _ => codes

/-- The symbols with those of a setting. -/
def addSymbol (symbols : List String) : ListSetting → List String
  | define symbol => if symbol ∈ symbols then symbols else symbols ++ [symbol]
  | _ => symbols

/-- The references with those of a setting. -/
def addReference (s : ReferenceSet) : ListSetting → ReferenceSet
  | refer library => { s with hard := s.hard ++ [library] }
  | bind alias_ library => { s with aliases := s.aliases.put alias_ library }
  | _ => s

end ListSetting

/-- **A reading to which entries have been added**: what some set, and reports of the others. -/
def Reading.settle (r : Reading) (settings : List ListSetting) (reports : List Report) : Reading :=
  { r with
    config := { r.config with
      defines := settings.foldl ListSetting.addSymbol r.config.defines
      references := settings.foldl ListSetting.addReference r.config.references }
    desk := { r.desk with
      engine := (r.desk.engine.submitAll reports).withPolicy fun p =>
        { p with ignored := settings.foldl ListSetting.addCode p.ignored } } }

namespace Reading

variable {r : Reading} {settings : List ListSetting} {reports : List Report}

/-- One report more. -/
theorem settle_refuse (r : Reading) (report : Report) :
    (r.settle [] [report]).settle settings reports = r.settle settings (report :: reports) := rfl

/-- **An error is recorded alike** whatever codes are dropped. -/
theorem submitAll_withIgnored (change : List Int → List Int) (e : Engine)
    (h : ∀ report ∈ reports, report.diagnostic.severity = .error) :
    (e.withPolicy fun p => { p with ignored := change p.ignored }).submitAll reports =
      (e.submitAll reports).withPolicy fun p => { p with ignored := change p.ignored } := by
  induction reports generalizing e with
  | nil => rfl
  | cons report rest ih =>
      obtain ⟨hseverity, hrest⟩ := List.forall_mem_cons.mp h
      have hsubmit (e : Engine) : e.submit report = e.recordError report.diagnostic := by
        rw [Engine.submit, hseverity]
      rw [Engine.submitAll_cons, Engine.submitAll_cons, hsubmit, hsubmit, ← ih _ hrest]
      rfl

end Reading

/-! ## One entry -/

/-- **The entries that name a warning.** -/
theorem Handler.warningCode?_eq_some_iff {entry : String} {code : Nat} :
    warningCode? entry = some (code : Int) ↔ NamesWarning entry code := by
  unfold warningCode?
  rw [Option.bind_eq_some_iff]
  constructor
  · rintro ⟨found, hfound, hcode⟩
    split at hcode
    · rename_i hpos
      obtain rfl : found = code := Option.some.inj hcode
      have hpos : 1 ≤ code := by omega
      obtain ⟨sign, digits, htrim, hsign, hdigits, hlimit⟩ :=
        (Text.integer32?_eq_some_iff_of_pos hpos).mp hfound
      obtain ⟨hne, hall, hvalue⟩ := Text.digits?_eq_some_iff.mp hdigits
      obtain ⟨before, after, hentry, hblank⟩ := Text.exists_append_trim entry
      rw [htrim] at hentry
      have hle : code ≤ 0x7fffffff := by omega
      exact ⟨before, sign, digits, after, hentry, hblank, hsign, ⟨hne, hall⟩, hvalue, hpos, hle⟩
    · cases hcode
  · rintro ⟨before, sign, digits, after, hentry, hblank, hsign, ⟨hne, hall⟩, hvalue, hpos, hle⟩
    have hcore : ∀ c ∈ sign ++ digits, Text.isBlank c = false := by
      intro c mem
      obtain mem | mem := List.mem_append.mp mem
      · obtain rfl | rfl := hsign
        · cases mem
        · obtain rfl := List.mem_singleton.mp mem
          decide
      · exact Text.isBlank_of_isDigit (hall c mem)
    have hdigits : Text.digits? digits = some code := Text.digits?_eq_some_iff.mpr ⟨hne, hall, hvalue⟩
    have hlimit : code < 0x80000000 := by omega
    refine ⟨code, ?_, if_pos (by omega)⟩
    rw [Text.trim_of_append hentry hblank hcore]
    exact (Text.integer32?_eq_some_iff_of_pos hpos).mpr
      ⟨sign, digits, String.toList_ofList, hsign, hdigits, hlimit⟩

theorem Handler.warningCode?_eq_none_iff {entry : String} :
    warningCode? entry = none ↔ ∀ code, ¬ NamesWarning entry code := by
  constructor
  · intro hnone code hnames
    rw [warningCode?_eq_some_iff.mpr hnames] at hnone
    cases hnone
  · intro hnames
    cases hcode : warningCode? entry with
    | none => rfl
    | some code =>
        obtain ⟨found, -, hfound⟩ := Option.bind_eq_some_iff.mp hcode
        split at hfound
        · rename_i hpos
          obtain rfl := Option.some.inj hfound
          have hnat : (found.toNat : Int) = found := Int.toNat_of_nonneg (by omega)
          rw [← hnat] at hcode
          exact absurd (warningCode?_eq_some_iff.mp hcode) (hnames _)
        · cases hfound

namespace ListOption

variable {o : ListOption} {entry : String} {setting : ListSetting} {report : Report}

/-- **An entry sets something or is refused.** -/
theorem sets_or_refuses (o : ListOption) (entry : String) :
    (∃ setting, o.Sets entry setting) ∨ ∃ report, o.Refuses entry report := by
  cases o with
  | suppressions =>
      by_cases hnames : ∃ code, NamesWarning entry code
      · obtain ⟨code, hcode⟩ := hnames
        exact .inl ⟨_, .suppress hcode⟩
      · exact .inr ⟨_, .noWarning (not_exists.mp hnames)⟩
  | symbols =>
      cases hvalid : Handler.isValidSymbol entry with
      | true => exact .inl ⟨_, .define hvalid⟩
      | false => exact .inr ⟨_, .noSymbol hvalid⟩
  | references =>
      by_cases hmark : '=' ∈ entry.toList
      · obtain ⟨alias_, library, hcut, hfirst⟩ := Text.exists_cut_of_mem hmark
        by_cases hlibrary : library = ""
        · subst hlibrary
          exact .inr ⟨_, .noLibrary hcut hfirst⟩
        · cases hvalid : isValidAlias alias_ with
          | true => exact .inl ⟨_, .bind hcut hfirst hlibrary hvalid⟩
          | false => exact .inr ⟨_, .noAlias hcut hfirst hlibrary hvalid⟩
      · exact .inl ⟨_, .refer hmark⟩

/-- What sets something is not empty, unless that does not count. -/
theorem Sets.ne_empty (h : o.Sets entry setting) (hcounts : o.counts entry = true) : entry ≠ "" := by
  cases h with
  | suppress => exact of_decide_eq_true hcounts
  | define hvalid =>
      rintro rfl
      cases hvalid
  | refer => exact of_decide_eq_true hcounts
  | bind => exact of_decide_eq_true hcounts

/-- **An entry that sets something** does so, and nothing else. -/
theorem perform_handleEntry_of_sets (h : o.Sets entry setting) (r : Reading) :
    perform (o.handleEntry entry) r = (.ok (), r.settle [setting] []) := by
  cases h with
  | @suppress _ code hnames =>
      have hcode := Handler.warningCode?_eq_some_iff.mpr hnames
      have hignore (p : ReportingPolicy) : p.ignore code =
          { p with ignored := if ↑code ∈ p.ignored then p.ignored else p.ignored ++ [↑code] } := by
        unfold ReportingPolicy.ignore
        split
        · rfl
        · rfl
      show perform (Handler.ignoreWarning entry) r = _
      unfold Handler.ignoreWarning
      rw [hcode]
      dsimp only
      rw [Handler.perform_setPolicy, Engine.withPolicy, hignore]
      rfl
  | define hvalid =>
      have hdefine (c : Config) : c.define entry =
          { c with defines := if entry ∈ c.defines then c.defines else c.defines ++ [entry] } := by
        unfold Config.define
        split
        · rfl
        · rfl
      show perform (Handler.defineSymbol entry) r = _
      unfold Handler.defineSymbol
      rw [if_pos hvalid, Handler.perform_configure, hdefine]
      rfl
  | refer hmark =>
      show perform (Handler.addReference entry) r = _
      unfold Handler.addReference ReferenceSet.addWritten
      rw [Text.cutAtFirst?_of_not_mem hmark]
      rfl
  | @bind _ alias_ library hcut hfirst hlibrary hvalid =>
      have hproblem : ReferenceSet.aliasProblem? alias_ library = none := by
        unfold ReferenceSet.aliasProblem?
        rw [if_neg hlibrary, hvalid]
        rfl
      show perform (Handler.addReference entry) r = _
      unfold Handler.addReference ReferenceSet.addWritten
      rw [Text.cutAtFirst?_of_append hcut hfirst]
      dsimp only
      unfold ReferenceSet.addAlias
      rw [hproblem]
      rfl

/-- **A malformed entry** is reported, and nothing else happens. -/
theorem perform_handleEntry_of_refuses (h : o.Refuses entry report) (r : Reading) :
    perform (o.handleEntry entry) r = (.ok (), r.settle [] [report]) := by
  cases h with
  | noWarning hnames =>
      show perform (Handler.ignoreWarning entry) r = _
      unfold Handler.ignoreWarning
      rw [Handler.warningCode?_eq_none_iff.mpr hnames]
      rfl
  | noSymbol hvalid =>
      show perform (Handler.defineSymbol entry) r = _
      unfold Handler.defineSymbol
      rw [hvalid]
      rfl
  | @noLibrary _ alias_ hcut hfirst =>
      have hcut : entry.toList = alias_.toList ++ '=' :: "".toList := hcut
      show perform (Handler.addReference entry) r = _
      unfold Handler.addReference ReferenceSet.addWritten
      rw [Text.cutAtFirst?_of_append hcut hfirst]
      rfl
  | @noAlias _ alias_ library hcut hfirst hlibrary hvalid =>
      have hproblem : ReferenceSet.aliasProblem? alias_ library =
          some (.error 1679 ("Invalid extern alias for -reference. Alias `" ++ alias_ ++
            "' is not a valid identifier")) := by
        unfold ReferenceSet.aliasProblem?
        rw [if_neg hlibrary, hvalid]
        rfl
      show perform (Handler.addReference entry) r = _
      unfold Handler.addReference ReferenceSet.addWritten
      rw [Text.cutAtFirst?_of_append hcut hfirst]
      dsimp only
      unfold ReferenceSet.addAlias
      rw [hproblem]
      rfl

/-- **An entry sets what its option is for**, and nothing else. -/
theorem Sets.elsewhere (h : o.Sets entry setting) :
    (o ≠ .symbols → ∀ symbols, setting.addSymbol symbols = symbols) ∧
      (o ≠ .references → ∀ s, setting.addReference s = s) ∧
      (o ≠ .suppressions → ∀ codes, setting.addCode codes = codes) := by
  cases h with
  | suppress => exact ⟨fun _ _ => rfl, fun _ _ => rfl, fun ho => absurd rfl ho⟩
  | define => exact ⟨fun ho => absurd rfl ho, fun _ _ => rfl, fun _ _ => rfl⟩
  | refer | bind => exact ⟨fun _ _ => rfl, fun ho => absurd rfl ho, fun _ _ => rfl⟩

/-! ## Many entries -/

variable {entries : List String} {kept : List (String × ListSetting)} {reports : List Report}

theorem exists_sorts (o : ListOption) (entries : List String) :
    ∃ kept reports, o.Sorts entries kept reports := by
  induction entries with
  | nil => exact ⟨[], [], .nil⟩
  | cons entry rest ih =>
      obtain ⟨kept, reports, hrest⟩ := ih
      obtain ⟨setting, hsets⟩ | ⟨report, hrefuses⟩ := o.sets_or_refuses entry
      · exact ⟨_, _, .keep hsets hrest⟩
      · exact ⟨_, _, .refuse hrefuses hrest⟩

/-- What sets something is an entry. -/
theorem Sorts.mem (h : o.Sorts entries kept reports) {e : String × ListSetting} (mem : e ∈ kept) :
    e.1 ∈ entries ∧ o.Sets e.1 e.2 := by
  induction h with
  | nil => cases mem
  | keep hsets _ ih =>
      obtain rfl | mem := List.mem_cons.mp mem
      · exact ⟨List.mem_cons_self, hsets⟩
      · exact (ih mem).imp_left (List.mem_cons_of_mem _)
  | refuse _ _ ih => exact (ih mem).imp_left (List.mem_cons_of_mem _)

/-- **A list sets what its option is for**, and nothing else. -/
theorem Sorts.elsewhere (h : o.Sorts entries kept reports) (r : Reading) :
    (o ≠ .symbols → (r.settle (kept.map Prod.snd) reports).config.defines = r.config.defines) ∧
      (o ≠ .references →
        (r.settle (kept.map Prod.snd) reports).config.references = r.config.references) ∧
      (o ≠ .suppressions →
        (r.settle (kept.map Prod.snd) reports).desk.engine.policy = r.desk.engine.policy) := by
  have hentry : ∀ setting ∈ kept.map Prod.snd, ∃ entry, o.Sets entry setting := by
    intro setting mem
    obtain ⟨e, hkept, rfl⟩ := List.mem_map.mp mem
    exact ⟨e.1, (h.mem hkept).2⟩
  refine ⟨fun ho => ?_, fun ho => ?_, fun ho => ?_⟩
  · refine List.foldlRecOn (motive := (· = r.config.defines)) _ _ rfl ?_
    intro symbols hsame setting mem
    obtain ⟨_, hsets⟩ := hentry setting mem
    exact (hsets.elsewhere.1 ho symbols).trans hsame
  · refine List.foldlRecOn (motive := (· = r.config.references)) _ _ rfl ?_
    intro s hsame setting mem
    obtain ⟨_, hsets⟩ := hentry setting mem
    exact (hsets.elsewhere.2.1 ho s).trans hsame
  · have hcodes : (kept.map Prod.snd).foldl ListSetting.addCode r.desk.engine.policy.ignored =
        r.desk.engine.policy.ignored := by
      refine List.foldlRecOn (motive := (· = _)) _ _ rfl ?_
      intro codes hsame setting mem
      obtain ⟨_, hsets⟩ := hentry setting mem
      exact (hsets.elsewhere.2.2 ho codes).trans hsame
    unfold Reading.settle Engine.withPolicy
    rw [Engine.submitAll_policy]
    dsimp only
    rw [hcodes]

/-- What is no warning is an error. -/
theorem Sorts.severity (h : suppressions.Sorts entries kept reports) :
    ∀ report ∈ reports, report.diagnostic.severity = .error := by
  induction h with
  | nil => simp
  | keep _ _ ih => exact ih
  | refuse hrefuses _ ih =>
      cases hrefuses with
      | noWarning => exact List.forall_mem_cons.mpr ⟨rfl, ih⟩

/-- **A setting can come ahead of the reports** of other entries in the same list: codes are dropped of
warnings only, and where codes are set there are none. -/
theorem Sorts.settle_keep (h : o.Sorts entries kept reports) (hsets : o.Sets entry setting)
    (settings : List ListSetting) (r : Reading) :
    (r.settle [setting] []).settle settings reports = r.settle (setting :: settings) reports := by
  cases hsets with
  | @suppress _ code =>
      have hengine := Reading.submitAll_withIgnored
        (fun codes => ListSetting.addCode codes (.suppress code)) r.desk.engine h.severity
      have hdesk := congrArg (fun e : Engine => { r.desk with engine := e.withPolicy fun p =>
        { p with ignored := settings.foldl ListSetting.addCode p.ignored } }) hengine
      exact congrArg (fun desk : Desk => { r with
        config := { r.config with
          defines := settings.foldl ListSetting.addSymbol r.config.defines
          references := settings.foldl ListSetting.addReference r.config.references }
        desk }) hdesk
  | define | refer | bind => rfl

/-- **Many entries**: what some set, and the reports of the others in order. -/
theorem perform_forM_of_sorts (h : o.Sorts entries kept reports) (r : Reading) :
    perform (entries.forM o.handleEntry) r = (.ok (), r.settle (kept.map Prod.snd) reports) := by
  induction h generalizing r with
  | nil => rfl
  | keep hsets hrest ih =>
      rw [perform_forM_cons, perform_handleEntry_of_sets hsets]
      dsimp only
      rw [ih, hrest.settle_keep hsets, List.map_cons]
  | refuse hrefuses _ ih =>
      rw [perform_forM_cons, perform_handleEntry_of_refuses hrefuses]
      dsimp only
      rw [ih, Reading.settle_refuse]

/-! ## Lists -/

variable {env : Environment} {mark name value : String}

/-- **Every list can be cut**, in one way. -/
theorem cuts_iff : o.Cuts value kept reports ↔
    o.Sorts ((Text.pieces o.isMark value).filter o.counts) kept reports := by
  unfold Cuts Text.pieces
  constructor
  · rintro ⟨entries, hlists, hsorts⟩
    have hentries : (Text.splitChars o.isMark value.toList).map String.ofList = entries := by
      rw [Text.splitChars_eq_iff.mpr hlists, List.map_map]
      simp
    rwa [hentries]
  · intro hsorts
    refine ⟨_, ?_, hsorts⟩
    rw [List.map_map]
    simpa using Text.lists_splitChars value.toList

/-- What an option does with its list. -/
theorem apply_option (hvalue : value ≠ "") (written : String) :
    o.option.apply env ⟨written, value, true⟩ =
      ((Text.pieces o.isMark value).filter o.counts).forM o.handleEntry := by
  cases o with
  | suppressions =>
      show ColonOption.requiredOr 5 _ >>= _ = _
      rw [ColonOption.requiredOr_bind_of_ne hvalue]
      rfl
  | symbols =>
      have hall : (Text.pieces Text.isListMark value).filter (counts symbols) =
          Text.pieces Text.isListMark value := List.filter_true _
      show ColonOption.requiredOr 5 _ >>= _ = _
      rw [ColonOption.requiredOr_bind_of_ne hvalue, isMark, hall]
      rfl
  | references =>
      show ColonOption.requiredOr 5 _ >>= _ = _
      rw [ColonOption.requiredOr_bind_of_ne hvalue]
      rfl

/-- **The names of an option** are found. -/
theorem find?_of_mem_names (h : name ∈ o.option.names) :
    ColonOption.find? name = some (o.option, true) := by
  have htable : ∀ o ∈ [suppressions, symbols, references], ∀ name ∈ o.option.names,
      ColonOption.find? name = some (o.option, true) := by
    decide +kernel
  refine htable o ?_ name h
  cases o with
  | suppressions | symbols | references => simp

section Spelled

variable (hmark : mark = "-" ∨ mark = "/") (hname : Text.lowerCase name ∈ o.option.names)
include hmark hname

/-- What an argument is read as that has a list behind its colon. -/
theorem ofOption_of_names (value : String) (behind : List String) :
    Meaning.ofOption (mark ++ name ++ (":" ++ value)) behind =
      .colon o.option ⟨"/" ++ name, value, true⟩ := by
  refine Meaning.ofOption_of_found hmark (find?_of_mem_names hname) (.inr rfl) ?_
  exact LegacyOption.find?_of_colon (by simp)

/-- **An option with its list** does what its entries ask for. -/
theorem perform_dispatch_of_cuts (h : o.Cuts value kept reports) (hvalue : value ≠ "") (r : Reading) :
    perform (Handler.dispatch env (mark ++ name ++ (":" ++ value))) r =
      (.ok (), r.settle (kept.map Prod.snd) reports) := by
  rw [Meaning.perform_dispatch, ofOption_of_names hmark hname]
  show perform (o.option.apply env _) r = _
  rw [apply_option hvalue]
  exact perform_forM_of_sorts (cuts_iff.mp h) r

/-- **An entry by itself** does what it does in a list. -/
theorem perform_dispatch_of_sets (h : o.Sets entry setting) (hcounts : o.counts entry = true)
    (hmarks : ∀ c ∈ entry.toList, o.isMark c = false) (r : Reading) :
    perform (Handler.dispatch env (mark ++ name ++ (":" ++ entry))) r =
      (.ok (), r.settle [setting] []) := by
  have hcuts : o.Cuts entry [(entry, setting)] [] := by
    rw [cuts_iff, Text.pieces_of_not hmarks, List.filter_cons_of_pos hcounts]
    exact .keep h .nil
  exact perform_dispatch_of_cuts hmark hname hcuts (h.ne_empty hcounts) r

/-- Entries one by one. -/
theorem perform_forM_dispatch (h : ∀ e ∈ kept, o.Sets e.1 e.2 ∧ o.counts e.1 = true ∧
    ∀ c ∈ e.1.toList, o.isMark c = false) (r : Reading) :
    perform (kept.forM fun e => Handler.dispatch env (mark ++ name ++ (":" ++ e.1))) r =
      (.ok (), r.settle (kept.map Prod.snd) []) := by
  induction kept generalizing r with
  | nil => rfl
  | cons e rest ih =>
      obtain ⟨⟨hsets, hcounts, hmarks⟩, hrest⟩ := List.forall_mem_cons.mp h
      rw [perform_forM_cons, perform_dispatch_of_sets hmark hname hsets hcounts hmarks]
      dsimp only
      rw [ih hrest, List.map_cons]
      rfl

/-- **The turn of an option with its list** goes on to the next argument. -/
theorem turn_of_cuts (h : o.Cuts value kept reports) (hvalue : value ≠ "") {r : Reading}
    {rest : List String} (hopen : r.optionsOpen = true) (hrequest : r.request = none)
    (hunread : r.unread = (mark ++ name ++ (":" ++ value)) :: rest) :
    r.turn env = (none, { r.settle (kept.map Prod.snd) reports with unread := rest }) := by
  have hmeaning : Meaning.ofArgument r.optionsOpen (mark ++ name ++ (":" ++ value)) rest =
      .colon o.option ⟨"/" ++ name, value, true⟩ := by
    rw [hopen]
    exact Meaning.ofArgument_of_found hmark (find?_of_mem_names hname) (.inr rfl)
      (LegacyOption.find?_of_colon (by simp))
  have hrest : rest.drop (Meaning.colon o.option ⟨"/" ++ name, value, true⟩).taken = rest := rfl
  have hperform : perform ((Meaning.colon o.option ⟨"/" ++ name, value, true⟩).handler env
        (mark ++ name ++ (":" ++ value))) { r with unread := rest } =
      (.ok (), Reading.settle { r with unread := rest } (kept.map Prod.snd) reports) := by
    show perform (o.option.apply env _) _ = _
    rw [apply_option hvalue]
    exact perform_forM_of_sorts (cuts_iff.mp h) _
  have hasked : (Reading.settle { r with unread := rest } (kept.map Prod.snd) reports).request = none :=
    hrequest
  rw [Reading.turn_of_meaning hunread hmeaning hrest, hperform]
  unfold Reading.conclude
  dsimp only
  rw [hasked]
  rfl

end Spelled

/-- **Malformed entries are isolated.**  Whatever the list of such an option, its entries can be sorted
into those that set something and the reports of the others.  To handle the option is to do what the
former do when they are handled one by one, each with the option to itself, and to take in the reports,
one for each entry that is malformed and in their order; nothing else changes, and the next argument is
read. -/
theorem dispatch_of_list (hmark : mark = "-" ∨ mark = "/")
    (hname : Text.lowerCase name ∈ o.option.names) (hvalue : value ≠ "") (env : Environment)
    (r : Reading) :
    (∃ kept reports, o.Cuts value kept reports) ∧
      ∀ kept reports, o.Cuts value kept reports →
        perform (Handler.dispatch env (mark ++ name ++ (":" ++ value))) r =
            (.ok (), r.settle (kept.map Prod.snd) reports) ∧
          perform (kept.forM fun e => Handler.dispatch env (mark ++ name ++ (":" ++ e.1))) r =
            (.ok (), r.settle (kept.map Prod.snd) []) ∧
          (r.settle (kept.map Prod.snd) reports).desk.engine.diagnostics =
            r.desk.engine.diagnostics ++ reports.filterMap r.desk.engine.policy.kept? ∧
          ((o ≠ .symbols → (r.settle (kept.map Prod.snd) reports).config.defines = r.config.defines) ∧
            (o ≠ .references →
              (r.settle (kept.map Prod.snd) reports).config.references = r.config.references) ∧
            (o ≠ .suppressions →
              (r.settle (kept.map Prod.snd) reports).desk.engine.policy = r.desk.engine.policy)) ∧
          ∀ rest, r.optionsOpen = true → r.request = none →
            r.unread = (mark ++ name ++ (":" ++ value)) :: rest →
            r.turn env = (none, { r.settle (kept.map Prod.snd) reports with unread := rest }) := by
  constructor
  · obtain ⟨kept, reports, hsorts⟩ := o.exists_sorts ((Text.pieces o.isMark value).filter o.counts)
    exact ⟨kept, reports, cuts_iff.mpr hsorts⟩
  · intro kept reports hcuts
    have hsorts := cuts_iff.mp hcuts
    have hkept : ∀ e ∈ kept, o.Sets e.1 e.2 ∧ o.counts e.1 = true ∧
        ∀ c ∈ e.1.toList, o.isMark c = false := by
      intro e mem
      obtain ⟨hentry, hsets⟩ := hsorts.mem mem
      obtain ⟨hpiece, hcounts⟩ := List.mem_filter.mp hentry
      obtain ⟨letters, hletters, hofList⟩ := List.mem_map.mp hpiece
      -- No mark stands in an entry, so it can be handed over as a list of its own.
      have hmarks := (Text.lists_splitChars value.toList).notMark letters hletters
      rw [← @String.toList_ofList letters, hofList] at hmarks
      exact ⟨hsets, hcounts, hmarks⟩
    refine ⟨perform_dispatch_of_cuts hmark hname hcuts hvalue r,
      perform_forM_dispatch hmark hname hkept r, r.desk.engine.submitAll_diagnostics reports,
      hsorts.elsewhere r, ?_⟩
    intro rest hopen hrequest hunread
    exact turn_of_cuts hmark hname hcuts hvalue hopen hrequest hunread

/-- Of five entries one is empty, two are refused for what they miss, and the others are as good as
without these. -/
theorem dispatch_of_list_references :
    ("-" = "-" ∨ "-" = "/") ∧ Text.lowerCase "R" ∈ references.option.names ∧
      "a=x;;1b=y,z=,lib" ≠ "" ∧
      perform (Handler.dispatch CommandLine.bare "-R:a=x;;1b=y,z=,lib") {} =
        (.ok (), Reading.settle {} [.bind "a" "x", .refer "lib"]
          [.error 1679 "Invalid extern alias for -reference. Alias `1b' is not a valid identifier",
            .error 1680 "Invalid reference alias `z='. Missing filename"]) := by
  have hname : Text.lowerCase "R" ∈ references.option.names := by decide +kernel
  have hvalue : "a=x;;1b=y,z=,lib" ≠ "" := by decide
  have hentries : (Text.pieces Text.isListMark "a=x;;1b=y,z=,lib").filter (counts references) =
      ["a=x", "1b=y", "z=", "lib"] := by
    decide +kernel
  have hcuts : references.Cuts "a=x;;1b=y,z=,lib" [("a=x", .bind "a" "x"), ("lib", .refer "lib")]
      [.error 1679 "Invalid extern alias for -reference. Alias `1b' is not a valid identifier",
        .error 1680 "Invalid reference alias `z='. Missing filename"] := by
    refine cuts_iff.mpr ?_
    show references.Sorts ((Text.pieces Text.isListMark _).filter _) _ _
    rw [hentries]
    have hbind : references.Sets "a=x" (.bind "a" "x") :=
      .bind (by decide) (by decide) (by decide) (by decide +kernel)
    have halias : references.Refuses "1b=y"
        (.error 1679 "Invalid extern alias for -reference. Alias `1b' is not a valid identifier") :=
      @Refuses.noAlias _ "1b" "y" (by decide) (by decide) (by decide) (by decide +kernel)
    have hlibrary : references.Refuses "z="
        (.error 1680 "Invalid reference alias `z='. Missing filename") :=
      @Refuses.noLibrary _ "z" (by decide) (by decide)
    exact .keep hbind (.refuse halias (.refuse hlibrary (.keep (.refer (by decide)) .nil)))
  exact ⟨.inl rfl, hname, hvalue,
    ((dispatch_of_list (.inl rfl) hname hvalue CommandLine.bare {}).2 _ _ hcuts).1⟩

end ListOption

end BatchCompiler

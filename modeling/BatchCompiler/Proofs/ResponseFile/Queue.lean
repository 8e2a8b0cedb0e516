import Mathlib.Data.List.TakeWhile
import BatchCompiler.ResponseFile.Expansion

/-!
# Expansion as a queue

`expandFrom` walks one list with a cursor: it splices what a file holds in front of the first
separator and goes on where it stands.  This module says what that amounts to without a cursor and
without a splice.  The arguments are cut in two, a *queue* of those ahead of the first separator and a
*tail* from it on.  The head of the queue is taken again and again; what a file holds ahead of its own
first separator goes to the end of the queue, and the rest goes in front of the tail.

## Main definitions

* `QueueExpands` — what a queue and a tail expand to
* `NamesCover` — the names an expansion may still read are among those it keeps

## Main statements

* `queueExpands_expandFrom` — the cursor does what the queue does, from every cursor position
* `QueueExpands.unique` — the queue decides the answer and the names seen
* `QueueExpands.front_and_back` — where the arguments of an answer come from
* `queueExpands_iff_expand` — the equivalence, with what follows for the user's own separator

The names that `expandFrom` keeps for its termination never run out before a readable file does; that
is `NamesCover`, and without it the cursor could give up where the queue goes on.
-/

namespace BatchCompiler.ResponseFile

/-- The arguments ahead of the first separator. -/
def options (args : List String) : List String := args.takeWhile (· ≠ separator)

/-- The first separator and what follows it; nothing when there is none. -/
def operands (args : List String) : List String := args.dropWhile (· ≠ separator)

/-- An argument that names no response file. -/
def IsPlain (arg : String) : Prop := ∀ file : String, arg ≠ "@" ++ file

/-- **What a queue of arguments expands to**, with the names seen so far, the arguments already put
out, and the tail that waits behind the queue: an answer, and the names seen when it is given. -/
inductive QueueExpands (fs : FileSystem) :
    (seen queue out tail : List String) → Except ArgumentError (List String) → List String → Prop
  /-- Nothing waits. -/
  | done {seen out tail : List String} : QueueExpands fs seen [] out tail (.ok (out ++ tail)) seen
  /-- An argument that names no file is put out. -/
  | plain {seen queue out tail seen' : List String} {arg : String}
      {answer : Except ArgumentError (List String)} (isPlain : IsPlain arg)
      (rest : QueueExpands fs seen queue (out ++ [arg]) tail answer seen') :
      QueueExpands fs seen (arg :: queue) out tail answer seen'
  /-- A name comes again. -/
  | duplicate {seen queue out tail : List String} {arg file : String} (names : arg = "@" ++ file)
      (known : file ∈ seen) :
      QueueExpands fs seen (arg :: queue) out tail (.error (.duplicateResponseFile file)) seen
  /-- A name that is new, of a file that has no text. -/
  | unreadable {seen queue out tail : List String} {arg file : String} (names : arg = "@" ++ file)
      (isNew : file ∉ seen) (noText : fs.readText? ⟨file⟩ = none) :
      QueueExpands fs seen (arg :: queue) out tail (.error (.unreadableResponseFile file))
        (seen ++ [file])
  /-- A name that is new, of a file with a text: its options join the queue, its operands the tail. -/
  | loaded {seen queue out tail seen' : List String} {arg file text : String}
      {answer : Except ArgumentError (List String)} (names : arg = "@" ++ file)
      (isNew : file ∉ seen) (hasText : fs.readText? ⟨file⟩ = some text)
      (rest : QueueExpands fs (seen ++ [file]) (queue ++ options (tokenize text)) out
        (operands (tokenize text) ++ tail) answer seen') :
      QueueExpands fs seen (arg :: queue) out tail answer seen'

/-! ## Names and separators -/

theorem fileNamed?_eq_some_iff {arg file : String} :
    fileNamed? arg = some file ↔ arg = "@" ++ file := Text.afterLead?_eq_some_iff

theorem fileNamed?_eq_none_iff {arg : String} : fileNamed? arg = none ↔ IsPlain arg := by
  rw [Option.eq_none_iff_forall_ne_some]
  exact forall_congr' fun file => not_congr fileNamed?_eq_some_iff

theorem options_append_operands (args : List String) : options args ++ operands args = args :=
  List.takeWhile_append_dropWhile

theorem ne_separator_of_mem_options {args : List String} {arg : String} (mem : arg ∈ options args) :
    arg ≠ separator := by
  unfold options at mem
  simpa using List.mem_takeWhile_imp mem

/-- A tail is empty or begins with a separator, so it has no options. -/
theorem options_operands (args : List String) : options (operands args) = [] := by
  unfold options operands
  induction args with
  | nil => rfl
  | cons arg rest ih =>
      by_cases h : arg = separator
      · simp [h]
      · simpa [h] using ih

/-- Arguments ahead of a list without options keep all of theirs. -/
theorem options_append_of_options_eq_nil {args tail : List String} (h : options tail = []) :
    options (args ++ tail) = options args := by
  unfold options at h ⊢
  rw [List.takeWhile_append, h, List.append_nil]
  split
  · rename_i hlength
    exact ((List.takeWhile_prefix _).eq_of_length hlength).symm
  · rfl

theorem operands_append_of_options_eq_nil {args tail : List String} (h : options tail = []) :
    operands (args ++ tail) = operands args ++ tail := by
  have hsplit := options_append_operands (args ++ tail)
  rw [options_append_of_options_eq_nil h] at hsplit
  rw [← List.append_right_inj (options args), hsplit, ← List.append_assoc,
    options_append_operands]

/-! ## The names kept -/

/-- What the text of a readable file holds is written in the file system, in this order. -/
theorem tokenize_sublist_writtenTokens {fs : FileSystem} {path : Path} {text : String}
    (h : fs.readText? path = some text) : (tokenize text).Sublist (writtenTokens fs) := by
  unfold FileSystem.readText? FileSystem.read FileSystem.lookup at h
  cases hplace : fs.locate path with
  | error fault => simp [hplace] at h
  | ok place =>
      cases hentry : fs.entry? place with
      | none => simp [hplace, hentry] at h
      | some entry =>
          cases entry with
          | directory => simp [hplace, hentry] at h
          | link target => simp [hplace, hentry] at h
          | file bytes =>
              simp only [hplace, hentry] at h
              unfold FileSystem.entry? at hentry
              split at hentry
              · cases hentry
              · have hstored : Entry.file bytes ∈ fs.entries.values :=
                  OrderedMap.mem_values_of_get?_eq_some hentry
                unfold writtenTokens
                rw [List.flatMap_def]
                exact List.sublist_flatten_of_mem (List.mem_map.mpr ⟨_, hstored, by simp [h]⟩)

theorem tokenize_subset_writtenTokens {fs : FileSystem} {path : Path} {text : String}
    (h : fs.readText? path = some text) : tokenize text ⊆ writtenTokens fs :=
  (tokenize_sublist_writtenTokens h).subset

/-- **The names kept suffice**: every name that is not seen yet is among `names` if an argument to come
or any file of the file system names it. -/
def NamesCover (fs : FileSystem) (names seen args : List String) : Prop :=
  ∀ file : String, file ∉ seen → ("@" ++ file ∈ args ∨ "@" ++ file ∈ writtenTokens fs) →
    file ∈ names

theorem namesCover_readableNames (fs : FileSystem) (seen args : List String) :
    NamesCover fs (readableNames fs args) seen args := by
  intro file _ hwritten
  unfold readableNames
  rw [List.mem_eraseDups, List.mem_filterMap]
  exact ⟨"@" ++ file, List.mem_append.mpr hwritten, fileNamed?_eq_some_iff.mpr rfl⟩

theorem NamesCover.of_cons {fs : FileSystem} {names seen rest : List String} {arg : String}
    (h : NamesCover fs names seen (arg :: rest)) : NamesCover fs names seen rest :=
  fun file isNew hwritten => h file isNew (hwritten.imp_left (List.mem_cons_of_mem arg))

/-- A new name at hand is among the names kept. -/
theorem NamesCover.mem_of_fileNamed? {fs : FileSystem} {names seen rest : List String}
    {arg file : String} (h : NamesCover fs names seen (arg :: rest))
    (hnamed : fileNamed? arg = some file) (isNew : file ∉ seen) : file ∈ names := by
  refine h file isNew (Or.inl ?_)
  rw [fileNamed?_eq_some_iff.mp hnamed]
  exact List.mem_cons_self

/-- Reading a file uses up its own name only. -/
theorem NamesCover.splice {fs : FileSystem} {names seen rest : List String} {arg file text : String}
    (h : NamesCover fs names seen (arg :: rest)) (hasText : fs.readText? ⟨file⟩ = some text) :
    NamesCover fs (names.erase file) (seen ++ [file])
      (spliceBeforeSeparator rest (tokenize text)) := by
  intro other isNew hwritten
  rw [List.mem_append, not_or, List.mem_singleton] at isNew
  refine (List.mem_erase_of_ne isNew.2).mpr (h other isNew.1 ?_)
  rcases hwritten with mem | mem
  · unfold spliceBeforeSeparator at mem
    rw [List.mem_append, List.mem_append] at mem
    rcases mem with (mem | mem) | mem
    · exact Or.inl (List.mem_cons_of_mem _ ((List.takeWhile_sublist _).mem mem))
    · exact Or.inr (tokenize_subset_writtenTokens hasText mem)
    · exact Or.inl (List.mem_cons_of_mem _ ((List.dropWhile_sublist _).mem mem))
  · exact Or.inr mem

/-! ## The splice -/

theorem spliceBeforeSeparator_eq (args extra : List String) :
    spliceBeforeSeparator args extra = options args ++ (extra ++ operands args) :=
  List.append_assoc _ _ _

theorem options_spliceBeforeSeparator (args extra : List String) :
    options (spliceBeforeSeparator args extra) = options args ++ options extra := by
  have hoptions : ∀ arg ∈ options args, decide (arg ≠ separator) = true :=
    fun _ mem => decide_eq_true (ne_separator_of_mem_options mem)
  rw [spliceBeforeSeparator_eq, options, List.takeWhile_append_of_pos hoptions]
  exact congrArg _ (options_append_of_options_eq_nil (options_operands args))

theorem operands_spliceBeforeSeparator (args extra : List String) :
    operands (spliceBeforeSeparator args extra) = operands extra ++ operands args := by
  have hoptions : ∀ arg ∈ options args, decide (arg ≠ separator) = true :=
    fun _ mem => decide_eq_true (ne_separator_of_mem_options mem)
  rw [spliceBeforeSeparator_eq, operands, List.dropWhile_append_of_pos hoptions]
  exact operands_append_of_options_eq_nil (options_operands args)

/-- A splice ahead of a tail leaves the tail alone. -/
theorem spliceBeforeSeparator_append_of_options_eq_nil {args extra tail : List String}
    (h : options tail = []) :
    spliceBeforeSeparator (args ++ tail) extra = spliceBeforeSeparator args extra ++ tail := by
  rw [spliceBeforeSeparator_eq, spliceBeforeSeparator_eq, options_append_of_options_eq_nil h,
    operands_append_of_options_eq_nil h]
  simp only [List.append_assoc]

/-! ## Loading -/

theorem load_of_mem {fs : FileSystem} {seen : List String} {file : String} (known : file ∈ seen) :
    load fs seen file = ⟨.error (.duplicateResponseFile file), seen, []⟩ := if_pos known

theorem load_of_readText?_eq_none {fs : FileSystem} {seen : List String} {file : String}
    (isNew : file ∉ seen) (noText : fs.readText? ⟨file⟩ = none) :
    ∃ notices, load fs seen file =
      ⟨.error (.unreadableResponseFile file), seen ++ [file], notices⟩ := by
  unfold load
  rw [if_neg isNew, noText]
  exact ⟨_, rfl⟩

theorem load_of_readText?_eq_some {fs : FileSystem} {seen : List String} {file text : String}
    (isNew : file ∉ seen) (hasText : fs.readText? ⟨file⟩ = some text) :
    load fs seen file = ⟨.ok (tokenize text), seen ++ [file], []⟩ := by
  unfold load
  rw [if_neg isNew, hasText]

/-- What a successful load says about the file. -/
theorem load_result_eq_ok {fs : FileSystem} {seen extra : List String} {file : String}
    (h : (load fs seen file).result = .ok extra) :
    file ∉ seen ∧ ∃ text, fs.readText? ⟨file⟩ = some text ∧ extra = tokenize text := by
  by_cases known : file ∈ seen
  · rw [load_of_mem known] at h
    cases h
  · refine ⟨known, ?_⟩
    cases htext : fs.readText? ⟨file⟩ with
    | none =>
        obtain ⟨notices, hload⟩ := load_of_readText?_eq_none known htext
        rw [hload] at h
        cases h
    | some text =>
        rw [load_of_readText?_eq_some known htext] at h
        cases h
        exact ⟨text, rfl, rfl⟩

/-! ## The cursor and the queue -/

theorem options_cons_of_ne {arg : String} (h : arg ≠ separator) (rest : List String) :
    options (arg :: rest) = arg :: options rest := by simp [options, h]

theorem operands_cons_of_ne {arg : String} (h : arg ≠ separator) (rest : List String) :
    operands (arg :: rest) = operands rest := by simp [operands, h]

/-- **The cursor does what the queue does**, from every position that the names kept suffice for. -/
theorem queueExpands_expandFrom (fs : FileSystem) (names seen done rest : List String)
    (hcover : NamesCover fs names seen rest) :
    QueueExpands fs seen (options rest) done (operands rest)
      (expandFrom fs names seen done rest).result (expandFrom fs names seen done rest).seen := by
  -- The induction is the cursor's own: over the names left, and the arguments left for equal names.
  fun_induction expandFrom fs names seen done rest with
  | case1 names seen done =>
      have hdone := @QueueExpands.done fs seen done []
      rwa [List.append_nil] at hdone
  | case2 names seen done rest =>
      have hoptions : options (separator :: rest) = [] := by simp [options]
      have hoperands : operands (separator :: rest) = separator :: rest := by simp [operands]
      rw [hoptions, hoperands]
      exact .done
  | case3 names seen done arg rest hseparator hplain ih =>
      rw [options_cons_of_ne hseparator, operands_cons_of_ne hseparator]
      exact .plain (fileNamed?_eq_none_iff.mp hplain) (ih hcover.of_cons)
  | case4 names seen done arg rest hseparator file hnamed loaded problem hresult =>
      rw [options_cons_of_ne hseparator]
      have hnames := fileNamed?_eq_some_iff.mp hnamed
      by_cases known : file ∈ seen
      · have hload : loaded = _ := load_of_mem known
        rw [hload] at hresult ⊢
        cases hresult
        exact .duplicate hnames known
      · cases htext : fs.readText? ⟨file⟩ with
        | none =>
            obtain ⟨notices, hload⟩ := load_of_readText?_eq_none known htext
            rw [show loaded = _ from hload] at hresult ⊢
            cases hresult
            exact .unreadable hnames known htext
        | some text =>
            rw [show loaded = _ from load_of_readText?_eq_some known htext] at hresult
            cases hresult
  | case5 names seen done arg rest hseparator file hnamed loaded extra hresult hmem more ih =>
      obtain ⟨isNew, text, htext, rfl⟩ := load_result_eq_ok hresult
      have hseen : loaded.seen = seen ++ [file] := by
        rw [show loaded = _ from load_of_readText?_eq_some isNew htext]
      -- What is spliced in stands behind the options at hand and ahead of the operands.
      rw [hseen, options_spliceBeforeSeparator, operands_spliceBeforeSeparator] at ih
      change QueueExpands fs seen _ done _
        (expandFrom fs (names.erase file) loaded.seen done _).result
        (expandFrom fs (names.erase file) loaded.seen done _).seen
      rw [options_cons_of_ne hseparator, operands_cons_of_ne hseparator, hseen]
      exact .loaded (fileNamed?_eq_some_iff.mp hnamed) isNew htext (ih (hcover.splice htext))
  | case6 names seen done arg rest hseparator file hnamed loaded extra hresult hmem =>
      -- The names kept would have run out before the files.
      obtain ⟨isNew, -⟩ := load_result_eq_ok hresult
      exact absurd (hcover.mem_of_fileNamed? hnamed isNew) hmem

/-! ## What the queue decides -/

/-- **The queue decides the answer and the names seen.** -/
theorem QueueExpands.unique {fs : FileSystem} {seen queue out tail seen₁ seen₂ : List String}
    {answer₁ answer₂ : Except ArgumentError (List String)}
    (h₁ : QueueExpands fs seen queue out tail answer₁ seen₁)
    (h₂ : QueueExpands fs seen queue out tail answer₂ seen₂) :
    answer₁ = answer₂ ∧ seen₁ = seen₂ := by
  have same_file : ∀ {arg file other : String}, arg = "@" ++ file → arg = "@" ++ other →
      file = other := by
    intro arg file other h h'
    exact Option.some.inj
      ((fileNamed?_eq_some_iff.mpr h).symm.trans (fileNamed?_eq_some_iff.mpr h'))
  -- The head, the names seen and the file system leave one way to go on; the other pairs of ways
  -- contradict each other.
  induction h₁ with
  | done =>
      cases h₂ with
      | done => exact ⟨rfl, rfl⟩
  | plain isPlain _ ih =>
      cases h₂ with
      | plain _ rest => exact ih rest
      | duplicate names => exact absurd names (isPlain _)
      | unreadable names => exact absurd names (isPlain _)
      | loaded names => exact absurd names (isPlain _)
  | duplicate names known =>
      cases h₂ with
      | plain isPlain => exact absurd names (isPlain _)
      | duplicate names' =>
          obtain rfl := same_file names names'
          exact ⟨rfl, rfl⟩
      | unreadable names' isNew =>
          obtain rfl := same_file names names'
          exact absurd known isNew
      | loaded names' isNew =>
          obtain rfl := same_file names names'
          exact absurd known isNew
  | unreadable names isNew noText =>
      cases h₂ with
      | plain isPlain => exact absurd names (isPlain _)
      | duplicate names' known =>
          obtain rfl := same_file names names'
          exact absurd known isNew
      | unreadable names' =>
          obtain rfl := same_file names names'
          exact ⟨rfl, rfl⟩
      | loaded names' _ hasText =>
          obtain rfl := same_file names names'
          rw [noText] at hasText
          cases hasText
  | loaded names isNew hasText _ ih =>
      cases h₂ with
      | plain isPlain => exact absurd names (isPlain _)
      | duplicate names' known =>
          obtain rfl := same_file names names'
          exact absurd known isNew
      | unreadable names' _ noText =>
          obtain rfl := same_file names names'
          rw [hasText] at noText
          cases noText
      | loaded names' _ hasText' rest =>
          obtain rfl := same_file names names'
          rw [hasText] at hasText'
          cases hasText'
          exact ih rest

/-- **Where the arguments of an answer come from**: plain arguments that are put out, operands of
files, and the tail, in this order. -/
theorem QueueExpands.front_and_back {fs : FileSystem} {seen queue out tail seen' : List String}
    {answer : Except ArgumentError (List String)}
    (h : QueueExpands fs seen queue out tail answer seen') :
    ∀ {args : List String}, answer = .ok args → separator ∉ queue → options tail = [] →
      ∃ front back, args = out ++ front ++ (back ++ tail) ∧ separator ∉ front ∧
        (∀ arg ∈ front, IsPlain arg) ∧ options (back ++ tail) = [] := by
  induction h with
  | done =>
      intro args hargs _ htail
      cases hargs
      exact ⟨[], [], by simp, by simp, by simp, htail⟩
  | @plain seen queue out tail seen' arg answer isPlain _ ih =>
      intro args hargs hqueue htail
      rw [List.mem_cons, not_or] at hqueue
      obtain ⟨front, back, rfl, hfront, hplain, hback⟩ := ih hargs hqueue.2 htail
      refine ⟨arg :: front, back, by simp, ?_, ?_, hback⟩
      · rw [List.mem_cons, not_or]
        exact ⟨hqueue.1, hfront⟩
      · intro other mem
        rcases List.mem_cons.mp mem with rfl | mem
        · exact isPlain
        · exact hplain other mem
  | duplicate => intro args hargs; cases hargs
  | unreadable => intro args hargs; cases hargs
  | @loaded seen queue out tail seen' arg file text answer _ _ _ _ ih =>
      intro args hargs hqueue htail
      have hqueue' : separator ∉ queue ++ options (tokenize text) := by
        rw [List.mem_append, not_or]
        exact ⟨fun mem => hqueue (List.mem_cons_of_mem arg mem),
          fun mem => ne_separator_of_mem_options mem rfl⟩
      have htail' : options (operands (tokenize text) ++ tail) = [] := by
        rw [options_append_of_options_eq_nil htail, options_operands]
      obtain ⟨front, back, rfl, hfront, hplain, hback⟩ := ih hargs hqueue' htail'
      refine ⟨front, back ++ operands (tokenize text), by simp, hfront, hplain, ?_⟩
      rwa [List.append_assoc]

/-- **Expansion is the queue's.**  From the options of the arguments as the queue and their operands as
the tail, the queue gives exactly the answer and the names seen that expansion gives.  So the operands
written by the user stay the end of every successful answer, and no argument ahead of its first
separator names a file. -/
theorem queueExpands_iff_expand (fs : FileSystem) (seen args : List String) :
    (∀ (answer : Except ArgumentError (List String)) (seen' : List String),
      QueueExpands fs seen (options args) [] (operands args) answer seen' ↔
        (expand fs seen args).result = answer ∧ (expand fs seen args).seen = seen') ∧
    ∀ expanded : List String, (expand fs seen args).result = .ok expanded →
      operands args <:+ expanded ∧ ∀ arg ∈ options expanded, IsPlain arg := by
  have hrun : QueueExpands fs seen (options args) [] (operands args)
      (expand fs seen args).result (expand fs seen args).seen :=
    queueExpands_expandFrom fs (readableNames fs args) seen [] args
      (namesCover_readableNames fs seen args)
  refine ⟨fun answer seen' => ⟨hrun.unique, ?_⟩, ?_⟩
  · rintro ⟨rfl, rfl⟩
    exact hrun
  · intro expanded hexpanded
    obtain ⟨front, back, rfl, hfront, hplain, hback⟩ := hrun.front_and_back hexpanded
      (fun mem => ne_separator_of_mem_options mem rfl) (options_operands args)
    refine ⟨⟨front ++ back, by simp⟩, fun arg mem => hplain arg ?_⟩
    rw [List.nil_append, options_append_of_options_eq_nil hback] at mem
    exact (List.takeWhile_sublist _).mem mem

end BatchCompiler.ResponseFile

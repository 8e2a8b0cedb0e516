import BatchCompiler.Host.Documentation
import BatchCompiler.Proofs.Text.Split
import BatchCompiler.Proofs.Text.Utf8

/-!
# Reading the documentation back

The names in a documentation can be read off its text.  What is escaped has no double quote, so that
the value of an attribute ends at the next one; and each ampersand in it starts an entity, so that
undoing the entities from the front cannot mistake what was in the name for what was put in.

## Main definitions

* `Host.entities`, `Host.replaceChar` — escaping as one replacement after another
* `Host.IsEscaped` — what holds of an escaped text
* `Host.readEntities`, `Host.attributeValues`, `Host.memberIds` — reading

## Main statements

* `Host.toList_escapeXml` — the four replacements in turn escape a text
* `Host.isEscaped_escapeXml`, `Host.readEntities_escapeXml` — an escaped text, and what it is read as
* `Host.memberIds_documentation` — a documentation
-/

namespace BatchCompiler.Host

/-! ## Entities -/

/-- **The four entities**, in the order in which characters are replaced by them. -/
def entities : List (Char × List Char) :=
  [('&', "&amp;".toList), ('<', "&lt;".toList), ('>', "&gt;".toList), ('\x22', "&quot;".toList)]

/-- A character replaced wherever it occurs. -/
def replaceChar (entity : Char × List Char) (cs : List Char) : List Char :=
  cs.flatMap fun c => if c = entity.1 then entity.2 else [c]

/-- **An escaped text**: nothing is left in it of what is escaped, but for ampersands that start an
entity. -/
structure IsEscaped (cs : List Char) : Prop where
  plain : ∀ c ∈ cs, c ≠ '<' ∧ c ≠ '>' ∧ c ≠ '\x22'
  entity : ∀ rest, '&' :: rest <:+ cs → ∃ e ∈ entities, e.2 <+: '&' :: rest

/-- A text behind some characters to be skipped, with its entities undone from the front. -/
def readEntitiesFrom (skip : Nat) : List Char → List Char
  | [] => []
  | c :: rest =>
      match skip with
      | skip + 1 => readEntitiesFrom skip rest
      | 0 =>
          match entities.find? (·.2.isPrefixOf (c :: rest)) with
          | some e => e.1 :: readEntitiesFrom (e.2.length - 1) rest
          | none => c :: readEntitiesFrom 0 rest

/-- **A text with its entities undone.** -/
def readEntities (cs : List Char) : List Char := readEntitiesFrom 0 cs

section Entities

variable {e : Char × List Char} {c : Char} {cs more : List Char}

/-- What an entity consists of. -/
theorem parts_of_mem_entities (mem : e ∈ entities) :
    e.2 = '&' :: e.2.tail ∧ '&' ∉ e.2.tail ∧ ∀ c ∈ e.2, c ≠ '<' ∧ c ≠ '>' ∧ c ≠ '\x22' := by
  rw [entities] at mem
  simp only [List.mem_cons, List.not_mem_nil, or_false] at mem
  obtain rfl | rfl | rfl | rfl := mem
  · simp
  · simp
  · simp
  · simp

/-- A character is escaped by its entity, or it has none and stays. -/
theorem escapeXmlChar_eq (c : Char) :
    (∃ e ∈ entities, e.1 = c ∧ escapeXmlChar c = e.2) ∨
      (c ≠ '&' ∧ c ≠ '<' ∧ c ≠ '>' ∧ c ≠ '\x22') ∧ escapeXmlChar c = [c] := by
  unfold escapeXmlChar
  by_cases hamp : c = '&'
  · exact .inl ⟨('&', "&amp;".toList), by simp [entities], hamp.symm, if_pos hamp⟩
  rw [if_neg hamp]
  by_cases hless : c = '<'
  · exact .inl ⟨('<', "&lt;".toList), by simp [entities], hless.symm, if_pos hless⟩
  rw [if_neg hless]
  by_cases hgreater : c = '>'
  · exact .inl ⟨('>', "&gt;".toList), by simp [entities], hgreater.symm, if_pos hgreater⟩
  rw [if_neg hgreater]
  by_cases hquote : c = '\x22'
  · exact .inl ⟨('\x22', "&quot;".toList), by simp [entities], hquote.symm, if_pos hquote⟩
  · exact .inr ⟨⟨hamp, hless, hgreater, hquote⟩, if_neg hquote⟩

/-! ### One replacement after another -/

theorem foldl_replaceChar_append (es : List (Char × List Char)) (cs more : List Char) :
    es.foldl (fun cs e => replaceChar e cs) (cs ++ more) =
      es.foldl (fun cs e => replaceChar e cs) cs ++ es.foldl (fun cs e => replaceChar e cs) more := by
  induction es generalizing cs more with
  | nil => rfl
  | cons e rest ih =>
      have hsplit : replaceChar e (cs ++ more) = replaceChar e cs ++ replaceChar e more :=
        List.flatMap_append
      rw [List.foldl_cons, hsplit, ih]
      rfl

/-- **The four replacements in turn.**  The ampersand comes first: a later turn would take the
ampersands that have been put in for some of the text. -/
theorem toList_escapeXml (s : String) :
    (escapeXml s).toList = entities.foldl (fun cs e => replaceChar e cs) s.toList := by
  have hchar (c : Char) :
      entities.foldl (fun cs e => replaceChar e cs) [c] = escapeXmlChar c := by
    obtain ⟨e, mem, rfl, hescaped⟩ | ⟨⟨hamp, hless, hgreater, hquote⟩, hescaped⟩ :=
      escapeXmlChar_eq c
    · rw [hescaped]
      revert e
      decide
    · rw [hescaped]
      simp [entities, replaceChar, hamp, hless, hgreater, hquote]
  have hall (cs : List Char) :
      cs.flatMap escapeXmlChar = entities.foldl (fun cs e => replaceChar e cs) cs := by
    induction cs with
    | nil => rfl
    | cons c rest ih =>
        rw [List.flatMap_cons, ih, ← hchar c, ← foldl_replaceChar_append]
        rfl
  unfold escapeXml
  rw [String.toList_ofList]
  exact hall s.toList

/-! ### Escaped texts -/

theorem suffix_of_not_mem {tail rest : List Char} (hc : c ∉ tail) (h : c :: rest <:+ tail ++ more) :
    c :: rest <:+ more := by
  induction tail with
  | nil => exact h
  | cons d tail ih =>
      obtain ⟨hne, hc⟩ := List.ne_and_not_mem_of_not_mem_cons hc
      rcases List.suffix_cons_iff.mp h with heq | hsuffix
      · exact absurd (List.cons.inj heq).1 hne
      · exact ih hc hsuffix

/-- An entity in front of an escaped text. -/
theorem IsEscaped.entity_append (h : IsEscaped more) (mem : e ∈ entities) :
    IsEscaped (e.2 ++ more) where
  plain c hc := by
    obtain hc | hc := List.mem_append.mp hc
    · exact (parts_of_mem_entities mem).2.2 c hc
    · exact h.plain c hc
  entity rest hrest := by
    obtain ⟨hparts, htail, -⟩ := parts_of_mem_entities mem
    rw [hparts, List.cons_append] at hrest
    rcases List.suffix_cons_iff.mp hrest with heq | hsuffix
    · refine ⟨e, mem, ?_⟩
      rw [heq, ← List.cons_append, ← hparts]
      exact List.prefix_append _ _
    · exact h.entity rest (suffix_of_not_mem htail hsuffix)

/-- A character that has no entity in front of an escaped text. -/
theorem IsEscaped.cons (h : IsEscaped more) (hc : c ≠ '&' ∧ c ≠ '<' ∧ c ≠ '>' ∧ c ≠ '\x22') :
    IsEscaped (c :: more) where
  plain := List.forall_mem_cons.mpr ⟨hc.2, h.plain⟩
  entity rest hrest := by
    rcases List.suffix_cons_iff.mp hrest with heq | hsuffix
    · exact absurd (List.cons.inj heq).1.symm hc.1
    · exact h.entity rest hsuffix

theorem isEscaped_flatMap (cs : List Char) : IsEscaped (cs.flatMap escapeXmlChar) := by
  induction cs with
  | nil => exact ⟨by simp, by simp⟩
  | cons c rest ih =>
      rw [List.flatMap_cons]
      obtain ⟨e, mem, -, hescaped⟩ | ⟨hplain, hescaped⟩ := escapeXmlChar_eq c
      · rw [hescaped]
        exact ih.entity_append mem
      · rw [hescaped]
        exact ih.cons hplain

/-- **What is escaped is an escaped text.** -/
theorem isEscaped_escapeXml (s : String) : IsEscaped (escapeXml s).toList := by
  unfold escapeXml
  rw [String.toList_ofList]
  exact isEscaped_flatMap s.toList

/-! ### Reading entities -/

theorem readEntitiesFrom_length (cs more : List Char) :
    readEntitiesFrom cs.length (cs ++ more) = readEntities more := by
  induction cs with
  | nil => rfl
  | cons c rest ih => exact ih

/-- An entity is recognised, whatever follows: none is the beginning of another one. -/
theorem find?_entities (mem : e ∈ entities) (more : List Char) :
    entities.find? (·.2.isPrefixOf (e.2 ++ more)) = some e := by
  rw [entities] at mem ⊢
  simp only [List.mem_cons, List.not_mem_nil, or_false] at mem
  obtain rfl | rfl | rfl | rfl := mem
  · rfl
  · rfl
  · rfl
  · rfl

/-- An entity is read as its character. -/
theorem readEntities_entity_append (mem : e ∈ entities) (more : List Char) :
    readEntities (e.2 ++ more) = e.1 :: readEntities more := by
  have hfind := find?_entities mem more
  have hlength : e.2.length - 1 = e.2.tail.length := List.length_tail.symm
  rw [(parts_of_mem_entities mem).1, List.cons_append] at hfind ⊢
  unfold readEntities
  rw [readEntitiesFrom, hfind]
  dsimp only
  rw [hlength, readEntitiesFrom_length]
  rfl

/-- A character that starts no entity is read as itself. -/
theorem readEntities_cons (hc : c ≠ '&') (more : List Char) :
    readEntities (c :: more) = c :: readEntities more := by
  have hfind : entities.find? (·.2.isPrefixOf (c :: more)) = none := by
    refine List.find?_eq_none.mpr fun e mem hprefix => hc ?_
    rw [(parts_of_mem_entities mem).1, List.isPrefixOf_iff_prefix] at hprefix
    exact (List.cons_prefix_cons.mp hprefix).1.symm
  unfold readEntities
  rw [readEntitiesFrom, hfind]

theorem readEntities_flatMap (cs : List Char) : readEntities (cs.flatMap escapeXmlChar) = cs := by
  induction cs with
  | nil => rfl
  | cons c rest ih =>
      rw [List.flatMap_cons]
      obtain ⟨e, mem, rfl, hescaped⟩ | ⟨hplain, hescaped⟩ := escapeXmlChar_eq c
      · rw [hescaped, readEntities_entity_append mem, ih]
      · rw [hescaped, List.singleton_append, readEntities_cons hplain.1, ih]

/-- **An escaped text is read as the text.** -/
theorem readEntities_escapeXml (s : String) : readEntities (escapeXml s).toList = s.toList := by
  unfold escapeXml
  rw [String.toList_ofList]
  exact readEntities_flatMap s.toList

end Entities

/-! ## Attributes -/

/-- A double quote. -/
def isQuote (c : Char) : Bool := c = '\x22'

/-- **The values of an attribute** in a text that is cut at its double quotes: each reaches up to the
next quote. -/
def attributeValues (mark : List Char) : List (List Char) → List (List Char)
  | ahead :: value :: behind :: rest =>
      if mark.isSuffixOf ahead then value :: attributeValues mark (behind :: rest)
      else attributeValues mark (value :: behind :: rest)
  | _ => []

/-- **The names in a documentation**: the value of each `name` attribute with its entities undone. -/
def memberIds (text : String) : List String :=
  (attributeValues " name=".toList (Text.splitChars isQuote text.toList)).map fun value =>
    String.ofList (readEntities value)

section Attributes

variable {mark ahead value : List Char} {pieces : List (List Char)}

theorem attributeValues_cons_of_suffix (h : mark <:+ ahead) (hclosed : pieces ≠ []) :
    attributeValues mark (ahead :: value :: pieces) =
      value :: attributeValues mark pieces := by
  obtain ⟨behind, rest, rfl⟩ := List.exists_cons_of_ne_nil hclosed
  rw [attributeValues, if_pos (List.isSuffixOf_iff_suffix.mpr h)]

theorem attributeValues_cons_of_not_suffix (h : ¬ mark <:+ ahead) :
    attributeValues mark (ahead :: pieces) = attributeValues mark pieces := by
  match pieces with
  | [] => rfl
  | [_] => rfl
  | _ :: _ :: _ => rw [attributeValues, if_neg (mt List.isSuffixOf_iff_suffix.mp h)]

end Attributes

/-! ## The documentation -/

/-- What stands ahead of the value on a line, up to the quote. -/
def memberAhead : String := "    <member name="

/-- What stands behind the value on a line, from the quote on. -/
def memberBehind : String := " />\n"

/-- What stands ahead of the lines, behind the version. -/
def header : String := "?>\n<doc>\n  <members>\n"

/-- What stands behind the lines. -/
def footer : String := "  </members>\n</doc>\n"

/-- The only quotes are those around values. -/
theorem isQuote_frame :
    ∀ part ∈ ["<?xml version=", "1.0", header, memberAhead, memberBehind, footer],
      ∀ c ∈ part.toList, isQuote c = false := by
  have hall : (["<?xml version=", "1.0", header, memberAhead, memberBehind, footer].all
      fun part => part.toList.all fun c => !isQuote c) = true := rfl
  intro part hpart c hc
  have hquote := List.all_eq_true.mp (List.all_eq_true.mp hall part hpart) c hc
  simpa using hquote

theorem escapeXml_mark_append (name : String) :
    escapeXml ("T:" ++ name) = "T:" ++ escapeXml name := by
  refine String.toList_inj.mp ?_
  unfold escapeXml
  rw [String.toList_append, String.toList_ofList, String.toList_ofList, String.toList_append,
    List.flatMap_append]
  simp [escapeXmlChar]

/-- **A line of the documentation**: between two quotes stands the name with its mark, escaped. -/
theorem toList_memberLine (name : String) :
    (memberLine name).toList = memberAhead.toList ++ '\x22' ::
      ((escapeXml ("T:" ++ name)).toList ++ '\x22' :: memberBehind.toList) := by
  unfold memberLine
  rw [escapeXml_mark_append, String.toList_append, String.toList_append, String.toList_append]
  simp only [memberAhead, memberBehind, String.reduceToList, List.cons_append, List.nil_append]

/-- The lines of some names. -/
def memberLines (names : List String) : List Char :=
  names.flatMap fun name => (memberLine name).toList

/-- **The whole documentation.** -/
theorem toList_documentation (names : List String) :
    (documentation names).toList = "<?xml version=".toList ++ '\x22' ::
      ("1.0".toList ++ '\x22' :: (header.toList ++ memberLines names ++ footer.toList)) := by
  have hjoin : (String.join (names.map memberLine)).toList = memberLines names := by
    rw [String.toList_join, List.flatMap_map]
    rfl
  unfold documentation
  rw [String.toList_append, String.toList_append, hjoin]
  simp only [header, footer, String.reduceToList, List.cons_append, List.nil_append]

theorem isQuote_of_mem_escapeXml {s : String} {c : Char} (mem : c ∈ (escapeXml s).toList) :
    isQuote c = false := decide_eq_false ((isEscaped_escapeXml s).plain c mem).2.2

/-- **The attributes of the lines**, ahead of which there is some text without a quote. -/
theorem attributeValues_lines (names : List String) {ahead : List Char}
    (hahead : ∀ c ∈ ahead, isQuote c = false) :
    attributeValues " name=".toList
        (Text.splitChars isQuote (ahead ++ memberLines names ++ footer.toList)) =
      names.map fun name => (escapeXml ("T:" ++ name)).toList := by
  induction names generalizing ahead with
  | nil =>
      have hfooter : ∀ c ∈ footer.toList, isQuote c = false := isQuote_frame _ (by simp)
      have hnone : ∀ c ∈ ahead ++ [] ++ footer.toList, isQuote c = false := by
        rw [List.append_nil]
        exact List.forall_mem_append.mpr ⟨hahead, hfooter⟩
      show attributeValues _ (Text.splitChars isQuote (ahead ++ [] ++ footer.toList)) = _
      rw [Text.splitChars_of_not hnone]
      rfl
  | cons name rest ih =>
      have hfirst : ∀ c ∈ ahead ++ memberAhead.toList, isQuote c = false :=
        List.forall_mem_append.mpr ⟨hahead, isQuote_frame _ (by simp)⟩
      have hbehind : ∀ c ∈ memberBehind.toList, isQuote c = false := isQuote_frame _ (by simp)
      have hsuffix : " name=".toList <:+ ahead ++ memberAhead.toList :=
        ⟨ahead ++ "    <member".toList, by simp [memberAhead]⟩
      -- What stands behind the quote that closes the value is ahead of the next line.
      have hsplit : ahead ++ memberLines (name :: rest) ++ footer.toList =
          (ahead ++ memberAhead.toList) ++ '\x22' :: ((escapeXml ("T:" ++ name)).toList ++ '\x22' ::
            (memberBehind.toList ++ memberLines rest ++ footer.toList)) := by
        unfold memberLines
        rw [List.flatMap_cons, toList_memberLine]
        simp only [List.append_assoc, List.cons_append]
      rw [hsplit, Text.splitChars_append rfl, Text.splitChars_of_not hfirst,
        Text.splitChars_append rfl, Text.splitChars_of_not fun c => isQuote_of_mem_escapeXml,
        List.singleton_append, List.singleton_append,
        attributeValues_cons_of_suffix hsuffix (Text.splitChars_ne_nil _), ih hbehind]
      rfl

/-- **The names in a documentation are read back**, in their order and each with its mark. -/
theorem memberIds_documentation (names : List String) :
    memberIds (documentation names) = names.map ("T:" ++ ·) := by
  have hxml : ∀ c ∈ "<?xml version=".toList, isQuote c = false :=
    isQuote_frame _ (by simp)
  have hversion : ∀ c ∈ "1.0".toList, isQuote c = false := isQuote_frame _ (by simp)
  have hheader : ∀ c ∈ header.toList, isQuote c = false := isQuote_frame _ (by simp)
  have hother : ¬ " name=".toList <:+ "<?xml version=".toList ∧
      ¬ " name=".toList <:+ "1.0".toList := by
    simp only [String.reduceToList]
    decide
  have hvalues : attributeValues " name=".toList
      (Text.splitChars isQuote (documentation names).toList) =
        names.map fun name => (escapeXml ("T:" ++ name)).toList := by
    rw [toList_documentation, Text.splitChars_append rfl, Text.splitChars_append rfl,
      Text.splitChars_of_not hxml, Text.splitChars_of_not hversion, List.singleton_append,
      List.singleton_append, attributeValues_cons_of_not_suffix hother.1,
      attributeValues_cons_of_not_suffix hother.2, attributeValues_lines names hheader]
  unfold memberIds
  rw [hvalues, List.map_map]
  refine List.map_congr_left fun name _ => ?_
  rw [Function.comp_apply, readEntities_escapeXml, String.ofList_toList]

/-- **Different names make different documentations.** -/
theorem documentation_injective : Function.Injective documentation := by
  intro names others h
  have hids := congrArg memberIds h
  rw [memberIds_documentation, memberIds_documentation] at hids
  exact List.map_injective_iff.mpr (fun a b hab => by simpa using hab) hids

end BatchCompiler.Host

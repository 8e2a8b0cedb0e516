import BatchCompiler.Proofs.Host.Documentation
import BatchCompiler.Proofs.Host.Files
import BatchCompiler.Proofs.Host.Tree
import BatchCompiler.Proofs.Pipeline.Extent

/-!
# The names that a run documents

A run that is granted its documentation has scanned the sources, put the declarations in order and
written the text by then; all that it changes afterwards is the output.  So the names that are read back
are those of the sources, in the order of their bytes.

## Main definitions

* `Host.DocumentationLeft` — the documentation that a run leaves

## Main statements

* `Host.pairwise_documentedNames` — the names are in order
* `Host.exists_written_of_granted` — a documentation that is granted has been written
* `Host.documentation_readBack` — reading a documentation back
-/

namespace BatchCompiler

/-! ## Around the documentation -/

namespace Stage

variable {σ : Type} {c : Collaborators σ} {g : Terms} {S : Setup → Prop} {s : Session σ}

open Watch

/-- **Ahead of the documentation** nobody is called whose work belongs behind it, and the output is
open then. -/
theorem does_beforeDocumentation :
    Does c g .sources .documentation (Settled S (Behind g (OnlyAt []))) (beforeDocumentation c)
      (fun _ => Within .resolveTree (Opened S) (Checked g (OnlyAt []))) (Excused c g S) := by
  have hlegs : inTurn ((.parse, parse c) :: treeLegs c) = beforeDocumentation c := by
    simp only [inTurn, treeLegs, beforeDocumentation, bind_assoc, bind_pure_unit]
  rw [← hlegs]
  exact Leads.does (.leg does_parse saved_same (fun _ _ => id) leads_treeLegs (by decide) (by decide))

theorem behindLegs_eq (c : Collaborators σ) (last : Phase) :
    behindLegs c last = attributeLegs c ++ if last.rank < Phase.emit.rank then [] else backLegs c := rfl

/-- **Behind the documentation** nobody is called whose work belongs ahead of that. -/
theorem advances_behindLegs (houtput : s.output.isSome = true) (last : Phase) :
    Advances .usings .finished s.bench (perform (inTurn (behindLegs c last)) s).2.bench := by
  have hattributes := @leads_attributeLegs σ c s.terms (· = s.setup) (· = s.setup) saved_same
  have hopen : ∀ su, su = s.setup → su.output.isSome = true := by
    rintro _ rfl
    exact houtput
  rw [behindLegs_eq]
  split
  · rw [List.append_nil]
    obtain ⟨made, hmade, -⟩ := hattributes.does.covers s [] (Session.underWay_start s)
      (settled_start s)
    exact ⟨made, hmade.mono le_rfl (by decide)⟩
  · have hback := hattributes.append
      ((leads_backLegs saved_same hopen).pre fun _ h => h.toSettled)
    obtain ⟨made, hmade, -⟩ := hback.does.covers s [] (Session.underWay_start s) (settled_start s)
    exact ⟨made, hmade⟩

end Stage

namespace Host

open Stage FileSystem

variable {systemDirectory : Path} {decoder : Text.Decoder} {toolkit : Text.Toolkit}
  {last : Phase} {s s' s₁ s₂ : Session Manifest} {doc : Path}

/-! ## Names in order -/

/-- **Scanning sources leaves a consistent tree.** -/
theorem consistent_scanSources (decoder : Text.Decoder) (files : FileSystem)
    (encoding : Text.Encoding) {t : ProgramTree} (h : t.Consistent) (paths : List Path) :
    (scanSources decoder files encoding t paths).Consistent := by
  have hsource (t : ProgramTree) (path : Path) (h : t.Consistent) :
      (scanSource decoder files encoding t path).Consistent := by
    unfold scanSource
    split
    · rename_i text _
      have hnoted : (noteFile t path).Consistent := ((TreeStep.note path).consistent h).1
      exact ((TreeStep.scan path text).consistent hnoted).1
    · exact h
  unfold scanSources
  induction paths generalizing t with
  | nil => exact h
  | cons path rest ih => exact ih (hsource t path h)

theorem documentedNames_of_consistent {t : ProgramTree} (h : t.Consistent) :
    documentedNames t = t.declarations.keys := by
  unfold documentedNames OrderedMap.values OrderedMap.keys
  rw [List.map_map]
  exact List.map_congr_left h.named

/-- **The names that a run documents are in order**, each once. -/
theorem pairwise_documentedNames (h : s.tree.Consistent) :
    (documentedNames (treeOf decoder s)).Pairwise (· < ·) := by
  have hscanned := consistent_scanSources decoder s.bench.files s.config.encoding h
    s.config.sources.files
  rw [documentedNames_of_consistent (t := treeOf decoder s) hscanned.sortDeclarations]
  exact hscanned.pairwise_sortDeclarations

/-! ## A documentation that is granted -/

/-- **Behind the documentation** a run leaves the files, or saves the output as the last thing. -/
theorem files_behindLegs (last : Phase) (s : Session Manifest) {s' : Session Manifest}
    (hrun : (perform (inTurn (behindLegs (collaborators systemDirectory toolkit) last)) s).2 = s') :
    s'.bench.files = s.bench.files ∨ ∃ path, s.output = some path ∧
      s.bench.files.write path (Text.Utf8.encode s'.bench.own.text) = .ok s'.bench.files := by
  by_cases hback : last.rank < Phase.emit.rank
  · have hprepares : Prepares s.bench.files (· = s.draft)
        (inTurn (behindLegs (collaborators systemDirectory toolkit) last)) fun _ _ => True := by
      unfold behindLegs
      rw [if_pos hback]
      simp only [inTurn, bind_pure_unit]
      exact prepares_step prepares_verifyUsing fun _ d₁ =>
        prepares_assemblyAttributes.post fun _ _ _ _ => trivial
    rw [← hrun]
    exact .inl (hprepares s rfl fun _ => rfl).1.files
  · rw [inTurn_behindLegs hback, perform_bind] at hrun
    obtain ⟨hkeeps, hcompleted⟩ :=
      @prepares_beforeSaving s.bench.files systemDirectory toolkit s.draft s rfl fun _ => rfl
    rcases hrun₃ : perform (beforeSaving (collaborators systemDirectory toolkit)) s with
      ⟨stop | _, s₃⟩
    · rw [hrun₃] at hrun hkeeps
      exact .inl (hrun ▸ hkeeps.files)
    · rw [hrun₃] at hrun hkeeps
      obtain ⟨result, s₄, hrun₄, hsaved⟩ := @perform_save systemDirectory toolkit s₃
      dsimp only at hrun
      rw [hrun₄] at hrun
      obtain rfl : s₄ = s' := hrun
      rcases hsaved with ⟨-, path, hwritten⟩ | ⟨-, hkeeps'⟩
      · obtain ⟨start, records, resources, found, -, -, -, -, hdraft⟩ :=
          hcompleted _ _ hrun₃ hwritten.clean
        have houtput : s₃.output = s.output := congrArg Draft.output hdraft
        refine .inr ⟨path, houtput.symm.trans hwritten.output, ?_⟩
        rw [← hkeeps.files]
        exact hwritten.written
      · exact .inl (hkeeps.trans hkeeps').files

/-- **What the phase of the documentation is granted** has been written. -/
theorem exists_made_documentation {result : Except Stop Unit}
    (hrun : perform (Stage.documentation (collaborators systemDirectory toolkit)) s = (result, s')) :
    ∃ made, s'.bench.journal = s.bench.journal ++ made ∧
      ∀ e ∈ made, ∀ doc, e.call = .exportDocs doc → e.granted = true → DocumentationWritten doc s s' := by
  obtain ⟨result', s'', hrun', hdocumented⟩ := @perform_documentation systemDirectory toolkit s
  obtain ⟨-, rfl⟩ := Prod.mk.inj (hrun.symm.trans hrun')
  rcases hdocumented with ⟨doc', hwritten⟩ | ⟨-, ⟨made, hmade, hnothing⟩, -⟩
  · refine ⟨_, hwritten.journal, fun e mem doc hcall _ => ?_⟩
    obtain rfl := List.mem_singleton.mp mem
    obtain rfl : doc' = doc := Call.exportDocs.inj hcall
    exact hwritten
  · refine ⟨made, hmade, fun e mem doc _ hgranted => ?_⟩
    exact absurd (hgranted.symm.trans (hnothing e mem)) (by decide)

/-- **A documentation that is granted has been written**: the call was made in the phase of the
documentation, which the run came to, and nothing but the rest of the run came behind it. -/
theorem exists_written_of_granted {made : List JournalEntry} {e : JournalEntry}
    (hrun : (perform (toPhase (collaborators systemDirectory toolkit) last) s).2 = s')
    (hjournal : s'.bench.journal = s.bench.journal ++ made) (mem : e ∈ made)
    (hcall : e.call = .exportDocs doc) (hgranted : e.granted = true) :
    s.config.stopsAfterParsing = false ∧ ∃ s₁ s₂,
      perform (beforeDocumentation (collaborators systemDirectory toolkit)) s = (.ok (), s₁) ∧
      DocumentationWritten doc s₁ s₂ ∧
      (s' = s₂ ∨
        (perform (inTurn (behindLegs (collaborators systemDirectory toolkit) last)) s₂).2 = s') := by
  have hstation : e.station.rank = Station.documentation.rank := by
    unfold JournalEntry.station
    rw [hcall]
    rfl
  by_cases hstops : last = .parse ∨ s.config.stopsAfterParsing = true
  · -- A run that ends with parsing calls nobody but the frontend.
    obtain ⟨ahead, hahead, -⟩ := (@does_parse _ (collaborators systemDirectory toolkit) s.terms
      (· = s.setup)).covers s [] (Session.underWay_start s) (settled_start s)
    rw [perform_toPhase_of_stops hstops] at hrun
    rw [hrun] at hahead
    obtain rfl : ahead = made := List.append_cancel_left (hahead.journal.symm.trans hjournal)
    exact absurd mem (hahead.not_mem (.inr (hstation ▸ by decide)))
  obtain ⟨hlast, hgoes⟩ := not_or.mp hstops
  rw [Bool.not_eq_true] at hgoes
  refine ⟨hgoes, ?_⟩
  rw [perform_toPhase_of_goes hlast hgoes, perform_bind] at hrun
  obtain ⟨ahead, hahead, hdestination, hopened⟩ := (@does_beforeDocumentation _
    (collaborators systemDirectory toolkit) s.terms (· = s.setup)).covers s []
      (Session.underWay_start s) (settled_start s)
  have hnotAhead : e ∉ ahead := hahead.not_mem (.inr hstation.ge)
  rcases hrun₁ : perform (beforeDocumentation (collaborators systemDirectory toolkit)) s with
    ⟨stop | _, s₁⟩
  · rw [hrun₁] at hrun hahead
    obtain rfl : s₁ = s' := hrun
    obtain rfl : ahead = made := List.append_cancel_left (hahead.journal.symm.trans hjournal)
    exact absurd mem hnotAhead
  rw [hrun₁] at hrun hahead hdestination hopened
  dsimp only at hrun
  obtain ⟨_, -, -, hends⟩ := does_documentation.covers s₁ _
    ((Session.underWay_start s).along hahead hdestination) hopened.toSettled
  rw [perform_bind] at hrun
  rcases hrun₂ : perform (Stage.documentation (collaborators systemDirectory toolkit)) s₁ with
    ⟨stop | _, s₂⟩
  all_goals
    obtain ⟨middle, hmiddle, hwritten⟩ := exists_made_documentation hrun₂
    have hmade : s₂.bench.journal = s.bench.journal ++ (ahead ++ middle) := by
      rw [hmiddle, hahead.journal, List.append_assoc]
    rw [hrun₂] at hrun hends
  · obtain rfl : s₂ = s' := hrun
    obtain rfl : ahead ++ middle = made := List.append_cancel_left (hmade.symm.trans hjournal)
    have hmem := (List.mem_append.mp mem).resolve_left hnotAhead
    exact ⟨s₁, s₂, rfl, hwritten e hmem doc hcall hgranted, .inl rfl⟩
  · obtain ⟨behind, hbehind⟩ := @advances_behindLegs _ (collaborators systemDirectory toolkit) s₂
      (isSome_output_of_opened s₂.setup hends.setup) last
    dsimp only at hrun
    rw [hrun] at hbehind
    have hall : ahead ++ middle ++ behind = made := by
      refine List.append_cancel_left (Eq.trans ?_ hjournal)
      rw [hbehind.journal, hmade]
      simp only [List.append_assoc]
    have hnotBehind : e ∉ behind := hbehind.not_mem (.inl (hstation ▸ by decide))
    rw [← hall, List.mem_append, List.mem_append] at mem
    have hmem := (mem.resolve_right hnotBehind).resolve_left hnotAhead
    exact ⟨s₁, s₂, rfl, hwritten e hmem doc hcall hgranted, .inr hrun⟩

/-! ## What is left -/

/-- **The documentation that a run leaves**: it has been written in its file, behind which nothing is
written but the output, and unless that is the same file it is there in the end. -/
structure DocumentationLeft (decoder : Text.Decoder) (s s' : Session Manifest) (doc : Path) :
    Prop where
  asked : s.config.documentation = some doc
  written : ∃ between, s.bench.files.write doc (documentationBytes (treeOf decoder s)) = .ok between ∧
    between.readText? doc = some (documentation (documentedNames (treeOf decoder s))) ∧
    (s'.bench.files = between ∨ ∃ path, s.config.destination? = some path ∧
      between.write path (Text.Utf8.encode s'.bench.own.text) = .ok s'.bench.files)
  kept : (∀ path, s.config.destination? = some path →
      s.bench.files.destination doc ≠ s.bench.files.destination path) →
    s'.bench.files.readText? doc = some (documentation (documentedNames (treeOf decoder s)))

/-- A text that has been written can be read. -/
theorem readText?_of_read {files : FileSystem} {text : String}
    (h : files.read doc = .ok (Text.Utf8.encode text)) : files.readText? doc = some text := by
  unfold FileSystem.readText?
  rw [h]
  exact Text.Utf8.decode?_encode text

/-- **A documentation is left** where it has been written and behind it the output at most. -/
theorem DocumentationLeft.of_write {between : FileSystem}
    (hasked : s.config.documentation = some doc)
    (hwrite : s.bench.files.write doc (documentationBytes (treeOf decoder s)) = .ok between)
    (hbehind : s'.bench.files = between ∨ ∃ path, s.config.destination? = some path ∧
      between.write path (Text.Utf8.encode s'.bench.own.text) = .ok s'.bench.files) :
    DocumentationLeft decoder s s' doc where
  asked := hasked
  written := ⟨between, hwrite, readText?_of_read (read_write hwrite), hbehind⟩
  kept hother := by
    rcases hbehind with hfiles | ⟨path, hpath, hsaved⟩
    · rw [hfiles]
      exact readText?_of_read (read_write hwrite)
    · refine readText?_of_read (read_write_of_ne hsaved (read_write hwrite) ?_)
      intro at_ hlocate hplace
      rw [locate_write hwrite] at hlocate
      refine hother path hpath ?_
      rw [hlocate, (destination_write_iff hwrite).mp hplace]

/-- **What a run leaves that is granted its documentation.** -/
theorem documentationLeft_of_granted {made : List JournalEntry} {e : JournalEntry}
    (hrun : (s.run (collaborators systemDirectory toolkit) last).2 = s')
    (hjournal : s'.bench.journal = s.bench.journal ++ made) (mem : e ∈ made)
    (hcall : e.call = .exportDocs doc) (hgranted : e.granted = true) :
    DocumentationLeft toolkit.decoder s s' doc := by
  cases hready : s.finished with
  | true =>
      unfold Session.run at hrun
      rw [hready] at hrun
      obtain rfl : s = s' := hrun
      have hnone : made = [] := List.self_eq_append_right.mp hjournal
      rw [hnone] at mem
      cases mem
  | false =>
      rw [Session.run_snd_of_ready hready] at hrun
      obtain ⟨hgoes, s₁, s₂, hrun₁, hwritten, hrest⟩ :=
        exists_written_of_granted hrun hjournal mem hcall hgranted
      have hscan : s.draft.config.tokenizeOnly = false := by
        unfold Config.stopsAfterParsing at hgoes
        exact (Bool.or_eq_false_iff.mp hgoes).1
      obtain ⟨hfront, hopens⟩ := @prepares_beforeDocumentation s.bench.files systemDirectory toolkit
        s.draft { s with finished := true } rfl fun _ => rfl
      have hopened := hopens _ s₁ hrun₁ hwritten.clean hscan
      rw [hrun₁] at hfront
      have hasked : s.config.documentation = some doc :=
        hopened.documentation.symm.trans hwritten.asked
      have hwrite : s.bench.files.write doc (documentationBytes (treeOf toolkit.decoder s)) =
          .ok s₂.bench.files := by
        rw [← hopened.tree_eq, ← hwritten.written, hfront.files]
      refine .of_write hasked hwrite ?_
      rcases hrest with rfl | hrest
      · exact .inl rfl
      refine (files_behindLegs last s₂ hrest).imp id fun ⟨path, houtput, hsaved⟩ => ?_
      -- What is saved then is the output that was opened ahead of the documentation.
      obtain ⟨path', _, _, _, hpath, -, -, hdraft⟩ := hopened
      have hsame : s₂.output = some path' :=
        (congrArg Draft.output hwritten.draft).trans (congrArg Draft.output hdraft)
      obtain rfl : path = path' := Option.some.inj (houtput.symm.trans hsame)
      exact ⟨path, hpath, hsaved⟩

/-! ## Reading back -/

theorem pairwise_memberIds {names : List String} (h : names.Pairwise (· < ·)) :
    (memberIds (documentation names)).Pairwise fun a b => Text.Utf8.encode a < Text.Utf8.encode b := by
  rw [memberIds_documentation]
  refine List.pairwise_map.mpr (h.imp fun {a b} hlt => ?_)
  rw [Text.Utf8.encode_lt_encode_iff, String.lt_iff, String.toList_append, String.toList_append]
  exact List.append_left_lt (String.lt_iff.mp hlt)

/-- **The documentation can be read back.**  Whatever the names of a tree's declarations are, the names
in the text are these, each with its mark, once and in their order; so the bytes of the file tell the
names.  What stands for a name in the text is made by the four replacements in turn, holds none of the
characters that are replaced but ampersands that start an entity, and is read as the name.  An exporter
that succeeds leaves the text in the file.

A run with the host that is granted its documentation has written it, and nothing but the output behind
it; the names that are read back then are strictly increasing in the order of their bytes, since no two
declarations of a tree that has been consistent from the start, as the empty one is, have one name. -/
theorem documentation_readBack (systemDirectory : Path) (toolkit : Text.Toolkit) :
    (∀ tree : ProgramTree, memberIds (documentation (documentedNames tree)) =
      tree.declarations.values.map fun d => "T:" ++ d.name) ∧
    (∀ tree tree' : ProgramTree, documentationBytes tree = documentationBytes tree' →
      documentedNames tree = documentedNames tree') ∧
    (∀ name : String,
      (escapeXml name).toList = entities.foldl (fun cs e => replaceChar e cs) name.toList ∧
        IsEscaped (escapeXml name).toList ∧ readEntities (escapeXml name).toList = name.toList) ∧
    (∀ (tree : ProgramTree) (engine : Engine) (own : Manifest) (files : FileSystem) (doc : Path)
      (reports : List Report) (site : Site Manifest),
      xmlExporter.export_ doc tree engine ⟨own, files, []⟩ = ((true, reports), site) →
        site.files.readText? doc = some (documentation (documentedNames tree))) ∧
    ∀ (s s' : Session Manifest) (last : Phase) (made : List JournalEntry), s.tree.Consistent →
      (s.run (collaborators systemDirectory toolkit) last).2 = s' →
      s'.bench.journal = s.bench.journal ++ made →
      ∀ e ∈ made, ∀ doc, e.call = .exportDocs doc → e.granted = true →
        DocumentationLeft toolkit.decoder s s' doc ∧
          (memberIds (documentation (documentedNames (treeOf toolkit.decoder s)))).Pairwise fun a b =>
            Text.Utf8.encode a < Text.Utf8.encode b := by
  refine ⟨?_, ?_, ?_, ?_, ?_⟩
  · intro tree
    rw [memberIds_documentation]
    unfold documentedNames
    rw [List.map_map]
    rfl
  · intro tree tree' hbytes
    have htexts := congrArg Text.Utf8.decode? hbytes
    unfold documentationBytes at htexts
    rw [Text.Utf8.decode?_encode, Text.Utf8.decode?_encode] at htexts
    exact documentation_injective (Option.some.inj htexts)
  · exact fun name =>
      ⟨toList_escapeXml name, isEscaped_escapeXml name, readEntities_escapeXml name⟩
  · intro tree engine own files doc reports site hexport
    rw [export_eq] at hexport
    cases hwrite : files.write doc (documentationBytes tree) with
    | ok files' =>
        rw [hwrite] at hexport
        obtain ⟨-, rfl⟩ := Prod.mk.inj hexport
        exact readText?_of_read (read_write hwrite)
    | error fault =>
        rw [hwrite] at hexport
        cases hexport
  · intro s s' last made hconsistent hrun hjournal e mem doc hcall hgranted
    exact ⟨documentationLeft_of_granted hrun hjournal mem hcall hgranted,
      pairwise_memberIds (pairwise_documentedNames hconsistent)⟩

/-- A library with its documentation, two of whose declarations are known already. -/
def documenting : Session Manifest :=
  { Session.start
      { target := .library, output := some ⟨"a"⟩, standardLibrary := false
        defaultReferences := false, documentation := some ⟨"d"⟩ }
      { own := {}, files := ⟨[], ⟨[]⟩⟩ } with
    tree := { declarations := ⟨[("B", ⟨"B", .enum, ⟨⟨"s"⟩, 1, 6⟩⟩),
      ("A<T>", ⟨"A<T>", .class, ⟨⟨"s"⟩, 2, 7⟩⟩)]⟩ } }

theorem documentedNames_documenting (decoder : Text.Decoder) :
    documentedNames (treeOf decoder documenting) = ["A<T>", "B"] := by cbv

/-- Whatever is written, the documentation is asked for and granted. -/
theorem any_granted_documenting (manifest : Manifest → List UInt8) (xml : ProgramTree → List UInt8) :
    ((documenting.run (collaboratorsWriting ⟨""⟩ .bundled manifest xml)
        .documentation).2.bench.journal.any
      fun e => decide (e.call = .exportDocs ⟨"d"⟩) && e.granted) = true := by
  cbv

/-- The names are in `d`, in their order. -/
theorem documentation_readBack_documenting : ∃ s' text,
    (documenting.run (collaborators ⟨""⟩) .documentation).2 = s' ∧
      s'.bench.files.readText? ⟨"d"⟩ = some text ∧ memberIds text = ["T:A<T>", "T:B"] ∧
      (memberIds text).Pairwise fun a b => Text.Utf8.encode a < Text.Utf8.encode b := by
  obtain ⟨-, -, -, -, hruns⟩ := documentation_readBack ⟨""⟩ .bundled
  obtain ⟨made, hmade⟩ := Session.run_advances (collaborators ⟨""⟩) .documentation documenting
  have hgranted := any_granted_documenting (fun m => Text.Utf8.encode m.text) documentationBytes
  rw [← collaborators_eq_writing, hmade.journal] at hgranted
  obtain ⟨e, mem, he⟩ := List.any_eq_true.mp hgranted
  have mem : e ∈ made := mem
  obtain ⟨hcall, hgranted⟩ := (Bool.and_eq_true _ _).mp he
  have hconsistent : documenting.tree.Consistent := ⟨by decide, by decide⟩
  obtain ⟨hleft, hordered⟩ := hruns documenting _ .documentation made hconsistent rfl hmade.journal
    e mem ⟨"d"⟩ (of_decide_eq_true hcall) hgranted
  have hother : ∀ path, documenting.config.destination? = some path →
      documenting.bench.files.destination ⟨"d"⟩ ≠ documenting.bench.files.destination path := by
    intro path hpath
    obtain rfl : (⟨"a"⟩ : Path) = path := Option.some.inj hpath
    have hdoc : documenting.bench.files.destination ⟨"d"⟩ = .ok ["d"] := by cbv
    have houtput : documenting.bench.files.destination ⟨"a"⟩ = .ok ["a"] := by cbv
    rw [hdoc, houtput]
    decide
  refine ⟨_, _, rfl, hleft.kept hother, ?_, hordered⟩
  rw [memberIds_documentation, documentedNames_documenting]
  rfl

end Host

end BatchCompiler

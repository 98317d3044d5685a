import PascalScan.CommandLine.Command
import PascalScan.Proofs.FailedRun

/-!
# Runs that finish

A run that finishes leaves two record files in its output directory, and nothing else is changed but
for directories on the way that were not there. This holds also where the source is one of the two
files, or lies in the directory. This file says so, for a run and for the command line that asks for
it.

Shape of the argument: a run that ends well has found its source and its places (`runFile_cases`),
so it is known what it wrote (`runFile_of_places`); `RecordsWritten` says what that comes to. After
it the directory is there, so a second run makes none and writes at the same places
(`runFile_again`).
-/

namespace PascalScan

/-! ## Options with a value of their own -/

namespace CommandLine

theorem not_mem_of_ofSpelling? {start : String} {flag : Flag}
    (h : Flag.ofSpelling? start = some flag) : '=' ∉ start.toList := by
  have hspelling : start ∈ Flag.spellings.map Prod.fst := by
    obtain ⟨front, back, hsplit, -⟩ := List.lookup_eq_some_iff.mp h
    rw [hsplit, List.map_append, List.map_cons]
    exact List.mem_append_right _ (List.mem_cons_self ..)
  have hnone : (Flag.spellings.map Prod.fst).all (fun s => !s.toList.contains '=') = true := by
    decide
  have hstart := List.all_eq_true.mp hnone start hspelling
  simpa using hstart

theorem cutAtEquals_append {start : List Char} (h : '=' ∉ start) (value : List Char) :
    cutAtEquals (start ++ '=' :: value) = (String.ofList start, some (String.ofList value)) := by
  have hbefore : (start ++ '=' :: value).takeWhile (· != '=') = start := by
    rw [List.takeWhile_append_of_pos, List.takeWhile_cons_of_neg (by decide), List.append_nil]
    intro c hc
    rw [bne_iff_ne]
    rintro rfl
    exact h hc
  unfold cutAtEquals
  simp only [hbefore, List.drop_left]

/-- An option and its value in one argument, with an equals sign between. -/
theorem classify_equals {start : String} {flag : Flag} (value : String)
    (hspelled : Flag.ofSpelling? start = some flag) (hdashes : ['-', '-'] <+: start.toList) :
    classify (start ++ "=" ++ value) = .ok (.option flag start (some value)) := by
  have htext : (start ++ "=" ++ value).toList = start.toList ++ '=' :: value.toList := by
    simp
  have hcut : cutAtEquals (start ++ "=" ++ value).toList = (start, some value) := by
    rw [htext, cutAtEquals_append (not_mem_of_ofSpelling? hspelled), String.ofList_toList,
      String.ofList_toList]
  have hequals : '=' ∈ (start ++ "=" ++ value).toList := by
    rw [htext]
    exact List.mem_append_right _ (List.mem_cons_self ..)
  have hunspelled : Flag.ofSpelling? (start ++ "=" ++ value) = none := by
    cases h : Flag.ofSpelling? (start ++ "=" ++ value) with
    | none => rfl
    | some other => exact absurd hequals (not_mem_of_ofSpelling? h)
  have hseparator : start ++ "=" ++ value ≠ "--" := by
    intro h
    rw [h] at hequals
    exact absurd hequals (by decide)
  have hoption : ¬((start ++ "=" ++ value).toList.head? ≠ some '-' ∨
      (start ++ "=" ++ value).toList.length = 1) := by
    obtain ⟨rest, hrest⟩ := hdashes
    rw [htext, ← hrest]
    simp
  unfold classify
  simp only [if_neg hoption, if_neg hseparator, hunspelled, hcut, hspelled]

/-- The arguments that name a source and an output directory. -/
def namingArguments (source output : String) : List String :=
  ["--source=" ++ source, "--out=" ++ output]

/-- Two dashes are no value, so an option is left without one. -/
theorem request_namingArguments (defaults : Options) (source output : String) :
    request defaults (namingArguments source output) =
      .scan ⟨if source = "--" then none else some source,
        if output = "--" then none else some output⟩ := by
  have hsource : classify ("--source=" ++ source) =
      .ok (.option .source "--source" (some source)) := by
    have hjoined : "--source=" = "--source" ++ "=" := rfl
    rw [hjoined]
    exact classify_equals source rfl (by decide)
  have houtput : classify ("--out=" ++ output) = .ok (.option .output "--out" (some output)) := by
    have hjoined : "--out=" = "--out" ++ "=" := rfl
    rw [hjoined]
    exact classify_equals output rfl (by decide)
  simp only [request, namingArguments, classifyAll, hsource, houtput]
  rfl

variable {t : FileTree} {source output : String}

/-- The command line does what a run does, and its status tells how the run ended. -/
theorem execute_namingArguments {success : Bool} (defaults : Options)
    (hsource : source ≠ "--") (houtput : output ≠ "--")
    (h : (runFile t source output).outcome = .ok success) :
    execute t defaults (namingArguments source output) =
      ⟨(runFile t source output).tree, (runFile t source output).log, "", "",
        .ok (if success then 0 else 1)⟩ := by
  simp only [execute, request_namingArguments, if_neg hsource, if_neg houtput, scanNamed, h]

/-- Without a path nothing is written. -/
theorem execute_dashes {text : List Char} (defaults : Options)
    (h : source = "--" ∨ output = "--") (hsource : readSource t source = .ok text) :
    execute t defaults (namingArguments source output) = ⟨t, [], "", "", .error .noPath⟩ := by
  simp only [execute, request_namingArguments]
  by_cases hdashes : source = "--"
  · rw [if_pos hdashes]
    rfl
  · rw [if_neg hdashes, if_pos (h.resolve_left hdashes)]
    simp only [scanNamed, hsource]

end CommandLine

/-! ## The record files of a scan -/

theorem readSource_eq_ok_iff {t : FileTree} {source : String} {text : List Char} :
    readSource t source = .ok text ↔ ∃ place bytes cs, t.Opens source place ∧
      t.find? place = some (.file bytes) ∧ Utf8.decode bytes = .ok cs ∧
      text = Text.trim (Text.unifyLineEnds cs) := by
  constructor
  · intro h
    unfold readSource at h
    cases hread : t.readFile source with
    | error fault =>
        rw [hread] at h
        cases h
    | ok bytes =>
        obtain ⟨place, hopens, hfile⟩ := FileTree.readFile_eq_ok_iff.mp hread
        rw [hread] at h
        simp only [decodeSource] at h
        cases hdecode : Utf8.decode bytes with
        | error fault =>
            rw [hdecode] at h
            cases h
        | ok cs =>
            rw [hdecode] at h
            cases h
            exact ⟨place, bytes, cs, hopens, hfile, hdecode, rfl⟩
  · rintro ⟨place, bytes, cs, hopens, hfile, hdecode, rfl⟩
    rw [readSource, hopens.readFile hfile]
    simp only [decodeSource, hdecode]
    rfl

namespace Layout

/-- The token file of a scan ends with the mark for the end of the source. -/
theorem tokenText_scan (text : List Char) :
    ∃ before, tokenText (scan text).tokens = before ++ "             EOF 25\n" := by
  have htokens : (scan text).tokens =
      Record.tokens (sourceRecords (Element.ofText text)) ++ [.endOfFile] :=
    Record.tokens_append _ _
  have hline : tokenLine .endOfFile = "             EOF 25\n" := by
    decide
  refine ⟨tokenText (Record.tokens (sourceRecords (Element.ofText text))), ?_⟩
  rw [htokens, tokenText, List.map_append, List.map_singleton, hline, String.join_append]
  rfl

/-- A diagnostic file is empty exactly if there is no diagnostic. -/
theorem textNode_diagnosticText_iff {ds : List Diagnostic} :
    textNode (diagnosticText ds) = .file [] ↔ ds = [] := by
  constructor
  · intro h
    cases ds with
    | nil => rfl
    | cons d ds =>
        have hend : '\n' ∈ (diagnosticText (d :: ds)).toList := by
          unfold diagnosticText
          rw [List.map_cons, String.join_cons, String.toList_append]
          refine List.mem_append_left _ ?_
          simp [diagnosticLine]
        have hbytes : Utf8.encode (diagnosticText (d :: ds)).toList = [] := Node.file.inj h
        rw [Utf8.encode, List.flatMap_eq_nil_iff] at hbytes
        exact absurd (hbytes _ hend) (by decide)
  · rintro rfl
    rfl

end Layout

/-! ## What is left of the tree -/

/-- What a run has written: the record files of a scan, in the directory that the output path leads
to. All else is as it was, or is a new directory that the output path passes. -/
structure RecordsWritten (t : FileTree) (output : String) (s : Scan) (directory : Path)
    (t' : FileTree) : Prop where
  leads : t'.enter [] (PathText.names output) = .ok directory
  onTheWay : ∀ before after, PathText.names output = before ++ after →
    ∃ p, t'.enter [] before = .ok p ∧ t'.find? p = some .directory
  places : RecordPlaces t' output (directory ++ [tokenFileName]) (directory ++ [diagnosticFileName])
  tokens : t'.find? (directory ++ [tokenFileName]) = some (textNode (Layout.tokenText s.tokens))
  diagnostics : t'.find? (directory ++ [diagnosticFileName]) =
    some (textNode (Layout.diagnosticText s.diagnostics))
  others : ∀ p, p ≠ directory ++ [tokenFileName] → p ≠ directory ++ [diagnosticFileName] →
    t'.find? p = t.find? p ∨
      t.find? p = none ∧ t'.find? p = some .directory ∧ t'.Passes output p

variable {t made : FileTree} {source output : String} {p q : Path}

/-- The two record files are in one directory, to which the output path leads. -/
theorem RecordPlaces.exists_directory (h : RecordPlaces t output p q) :
    ∃ directory, t.enter [] (PathText.names output) = .ok directory ∧
      p = directory ++ [tokenFileName] ∧ q = directory ++ [diagnosticFileName] := by
  obtain ⟨directory, henter, hp⟩ := h.token.exists_directory (by decide) (by decide)
  obtain ⟨directory', henter', hq⟩ := h.diagnostic.exists_directory (by decide) (by decide)
  obtain rfl := Except.ok.inj (henter.symm.trans henter')
  exact ⟨directory, henter, hp, hq⟩

theorem recordsWritten_withRecords {directory : Path} (s : Scan)
    (hadded : t.DirectoriesAdded output made)
    (hplaces : RecordPlaces made output (directory ++ [tokenFileName])
      (directory ++ [diagnosticFileName]))
    (hleads : made.enter [] (PathText.names output) = .ok directory) :
    RecordsWritten t output s directory (withRecords made (directory ++ [tokenFileName])
      (directory ++ [diagnosticFileName]) s) := by
  have hkeeps := hplaces.keepsDirectories s
  have henter := hkeeps.enter hleads
  refine ⟨henter, ?_, hplaces.withRecords s, hplaces.find?_token s, hplaces.find?_diagnostic s, ?_⟩
  · intro before after hnames
    obtain ⟨r, hr⟩ := FileTree.exists_enter_of_append (hnames ▸ henter)
    have hpasses : FileTree.Passes _ output r := ⟨before, after, hnames, hr⟩
    exact ⟨r, hr, hpasses.find?⟩
  · intro r hp hq
    rw [find?_withRecords_ne hp hq]
    cases hold : t.find? r with
    | some n => exact .inl (hadded.kept r n hold)
    | none =>
        cases hnew : made.find? r with
        | none => exact .inl rfl
        | some n =>
            obtain ⟨rfl, hpasses⟩ := hadded.added r n hold hnew
            exact .inr ⟨rfl, rfl, hkeeps.passes hpasses⟩

/-- The diagnostic file is empty exactly if the scan was a success. -/
theorem RecordsWritten.diagnostics_empty_iff {t' : FileTree} {text : List Char} {directory : Path}
    (h : RecordsWritten t output (scan text) directory t') :
    t'.find? (directory ++ [diagnosticFileName]) = some (.file []) ↔
      (scan text).success = true := by
  rw [h.diagnostics, Option.some_inj, Layout.textNode_diagnosticText_iff]
  exact List.isEmpty_iff.symm

/-! ## A second run -/

/-- A second run leaves all as the first has left it, unless the first has written over its
source. -/
theorem runFile_again {place : Path} {bytes : List UInt8} {cs : List Char}
    (hopens : t.Opens source place) (hfile : t.find? place = some (.file bytes))
    (hdecode : Utf8.decode bytes = .ok cs) (hmade : t.makeDirectories output = (made, none))
    (hplaces : RecordPlaces made output p q) (hp : place ≠ p) (hq : place ≠ q) :
    runFile (runFile t source output).tree source output = runFile t source output := by
  have hsource := readSource_eq_ok_iff.mpr ⟨place, bytes, cs, hopens, hfile, hdecode, rfl⟩
  rw [runFile_of_places hsource hmade hplaces]
  let s := scan (Text.trim (Text.unifyLineEnds cs))
  have hadded := FileTree.DirectoriesAdded.of_makeDirectories hmade
  -- The source is where it was, and its text is the same.
  have hkeeps : t.KeepsDirectories (withRecords made p q s) := fun r hr =>
    hplaces.keepsDirectories s r (hadded.keepsDirectories r hr)
  have hfile' : (withRecords made p q s).find? place = some (.file bytes) := by
    rw [find?_withRecords_ne hp hq]
    exact hadded.kept place _ hfile
  have hopens' : (withRecords made p q s).Opens source place := by
    apply hopens.of_keeps hkeeps
    rw [hfile']
    exact fun hdirectory => by cases hdirectory
  have hsource' := readSource_eq_ok_iff.mpr
    ⟨place, bytes, cs, hopens', hfile', hdecode, rfl⟩
  -- The directory is there, so none is made.
  have hdirectory : (withRecords made p q s).node? output = some .directory :=
    FileTree.node?_of_opens (hplaces.withRecords s).token
      (FileTree.ne_empty_of_makeDirectories hmade) (by decide) (by decide)
  rw [runFile_of_places hsource' (FileTree.makeDirectories_of_node? hdirectory)
    (hplaces.withRecords s), withRecords_again hplaces.apart]

/-- A directory that is there is usable if both record files can be opened in it. -/
theorem outputUsable_of_node? (h : t.node? output = some .directory)
    (htoken : ∃ opened, t.openFile (PathText.join output tokenFileName) = .ok opened)
    (hdiagnostic : ∃ opened, t.openFile (PathText.join output diagnosticFileName) = .ok opened) :
    OutputUsable t output := by
  have hmade := FileTree.makeDirectories_of_node? h
  exact ⟨by rw [hmade], by rwa [hmade], by rwa [hmade]⟩

/-- **What a finished run leaves behind.** A run that ends well has read and decoded its source, as
that was before the run. Its record files hold the records of the text, the token file with the mark
for the end of the source as its last line, and all else is as before, but for directories on the
way of the output that were not there. The command line that names the source and the output does
the same, and its status is 0 if the diagnostic file is empty and 1 if not; only a path of two
dashes is taken for none, and then nothing is written. A second run changes nothing, unless the
source is one of the record files. -/
theorem runFile_finished {success : Bool} (h : (runFile t source output).outcome = .ok success) :
    let run := runFile t source output
    ∃ place bytes cs directory, t.Opens source place ∧ t.find? place = some (.file bytes) ∧
      Utf8.decode bytes = .ok cs ∧
      let s := scan (Text.trim (Text.unifyLineEnds cs))
      let tokenPlace := directory ++ ["source.dyd"]
      let diagnosticPlace := directory ++ ["source.err"]
      success = s.success ∧ RecordsWritten t output s directory run.tree ∧
      run.tree.readFile (PathText.join output "source.dyd") =
        .ok (Utf8.encode (Layout.tokenText s.tokens).toList) ∧
      run.tree.readFile (PathText.join output "source.err") =
        .ok (Utf8.encode (Layout.diagnosticText s.diagnostics).toList) ∧
      (∃ before, Layout.tokenText s.tokens = before ++ "             EOF 25\n") ∧
      (∀ defaults, source ≠ "--" → output ≠ "--" →
        CommandLine.execute t defaults ["--source=" ++ source, "--out=" ++ output] =
          ⟨run.tree, run.log, "", "",
            .ok (if run.tree.find? diagnosticPlace = some (.file []) then 0 else 1)⟩) ∧
      (∀ defaults, source = "--" ∨ output = "--" →
        CommandLine.execute t defaults ["--source=" ++ source, "--out=" ++ output] =
          ⟨t, [], "", "", .error .noPath⟩) ∧
      (place ≠ tokenPlace → place ≠ diagnosticPlace →
        runFile run.tree source output = run) := by
  intro run
  rcases runFile_cases t source output with
    ⟨step, fault, hfails⟩ | ⟨text, made, p, q, hsource, hmade, hplaces⟩
  · rw [outcome_of_failsAt hfails] at h
    cases h
  · obtain ⟨place, bytes, cs, hopens, hfile, hdecode, htext⟩ := readSource_eq_ok_iff.mp hsource
    obtain ⟨directory, hleads, rfl, rfl⟩ := hplaces.exists_directory
    have hrun : run = _ := runFile_of_places hsource hmade hplaces
    have hadded := FileTree.DirectoriesAdded.of_makeDirectories hmade
    have hwritten : RecordsWritten t output (scan text) directory run.tree := by
      rw [hrun]
      exact recordsWritten_withRecords _ hadded hplaces hleads
    have hsuccess : success = (scan text).success := by
      have houtcome : run.outcome = .ok success := h
      rw [hrun] at houtcome
      exact (Except.ok.inj houtcome).symm
    subst htext
    refine ⟨place, bytes, cs, directory, hopens, hfile, hdecode, hsuccess, hwritten,
      hwritten.places.token.readFile hwritten.tokens,
      hwritten.places.diagnostic.readFile hwritten.diagnostics, Layout.tokenText_scan _, ?_, ?_, ?_⟩
    · intro defaults hsourceNamed houtputNamed
      have hstatus := CommandLine.execute_namingArguments defaults hsourceNamed houtputNamed h
      simp only [hsuccess, ← hwritten.diagnostics_empty_iff] at hstatus
      exact hstatus
    · intro defaults hdashes
      exact CommandLine.execute_dashes defaults hdashes hsource
    · intro htoken hdiagnostic
      exact runFile_again hopens hfile hdecode hmade hplaces htoken hdiagnostic

/-- A run into a directory that holds older records. -/
theorem runFile_finished_olderRecords :
    let t : FileTree := ⟨[(["a.pas"], .file (Utf8.encode "If".toList)), (["out"], .directory),
      (["out", "source.err"], .file [65, 66])]⟩
    let run := runFile t "a.pas" "out"
    run.outcome = .ok true ∧ run.tree.readFile "out/source.err" = .ok [] ∧
      runFile run.tree "a.pas" "out" = run := by
  intro t run
  have hsource : t.readFile "a.pas" = .ok (Utf8.encode "If".toList) := by
    cbv
  have houtput : OutputUsable t "out" := outputUsable_of_node? rfl ⟨_, rfl⟩ ⟨_, rfl⟩
  have houtcome : run.outcome = .ok true := by
    have hsuccess : (scan (Text.trim (Text.unifyLineEnds "If".toList))).success = true := by
      decide +kernel
    rw [← hsuccess]
    exact (runFile_spec hsource houtput).1
  obtain ⟨place, bytes, cs, directory, hopens, -, -, hsuccess, -, -, hdiagnostics, -, -, -,
    hagain⟩ := runFile_finished houtcome
  have hnone : (scan (Text.trim (Text.unifyLineEnds cs))).diagnostics = [] :=
    List.isEmpty_iff.mp hsuccess.symm
  have hlast : place.getLast? = some "a.pas" := hopens.getLast?
  refine ⟨houtcome, by rw [hnone] at hdiagnostics; exact hdiagnostics, hagain ?_ ?_⟩
  · rintro rfl
    rw [List.getLast?_concat] at hlast
    exact absurd hlast (by decide)
  · rintro rfl
    rw [List.getLast?_concat] at hlast
    exact absurd hlast (by decide)

/-- A run over a source whose name is two dashes ends well, and the command line that names the
source and the output does nothing. -/
theorem execute_ne_runFile_dashes :
    let t : FileTree := ⟨[(["--"], .file (Utf8.encode "x".toList)), (["out"], .directory)]⟩
    let run := runFile t "--" "out"
    let command :=
      CommandLine.execute t (.ofEnvironment none none) ["--source=" ++ "--", "--out=" ++ "out"]
    run.outcome = .ok true ∧ run.tree.readFile "out/source.err" = .ok [] ∧
      command.tree = t ∧ command.status = .error .noPath := by
  intro t run command
  have hsource : t.readFile "--" = .ok (Utf8.encode "x".toList) := by
    cbv
  have houtput : OutputUsable t "out" := outputUsable_of_node? rfl ⟨_, rfl⟩ ⟨_, rfl⟩
  obtain ⟨houtcome, -, hdiagnostics⟩ := runFile_spec hsource houtput
  have hscan : (scan (Text.trim (Text.unifyLineEnds "x".toList))).diagnostics = [] := by
    decide +kernel
  have hsuccess : (scan (Text.trim (Text.unifyLineEnds "x".toList))).success = true :=
    List.isEmpty_iff.mpr hscan
  rw [hsuccess] at houtcome
  rw [hscan] at hdiagnostics
  have hcommand : command = ⟨t, [], "", "", .error .noPath⟩ :=
    CommandLine.execute_dashes _ (.inl rfl) (readSource_of_readFile hsource)
  exact ⟨houtcome, hdiagnostics, congrArg _ hcommand, congrArg _ hcommand⟩

end PascalScan

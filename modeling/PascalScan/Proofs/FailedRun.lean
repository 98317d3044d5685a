import PascalScan.Proofs.Directories
import PascalScan.Proofs.FileRun

/-!
# Runs that fail

A run over a source file goes in steps, and the step that fails says what is left behind. This file
goes through the steps: which faults there are, and what each of them leaves of the tree.

Shape of the argument: a run fails at a step or gets to the places of both files (`runFile_cases`),
and from there it ends well (`runFile_of_places`).
-/

namespace PascalScan

/-- The steps of a run that can fail, in their order. -/
inductive RunStep where
  | readSource
  | makeDirectory
  | openTokenFile
  | openDiagnosticFile

/-- The step that ends a run, and its fault: all steps before it succeed. -/
inductive FailsAt (t : FileTree) (source output : String) : RunStep → FileFault → Prop where
  | readSource {fault : FileFault} : PascalScan.readSource t source = .error fault →
      FailsAt t source output .readSource fault
  | makeDirectory {text : List Char} {made : FileTree} {fault : AccessFault} :
      PascalScan.readSource t source = .ok text →
      t.makeDirectories output = (made, some fault) →
        FailsAt t source output .makeDirectory (.access fault)
  | openTokenFile {text : List Char} {made : FileTree} {fault : AccessFault} :
      PascalScan.readSource t source = .ok text → t.makeDirectories output = (made, none) →
      made.openFile (PathText.join output tokenFileName) = .error fault →
        FailsAt t source output .openTokenFile (.access fault)
  | openDiagnosticFile {text : List Char} {made opened : FileTree} {p : Path}
      {fault : AccessFault} :
      PascalScan.readSource t source = .ok text → t.makeDirectories output = (made, none) →
      made.openFile (PathText.join output tokenFileName) = .ok (p, opened) →
      opened.openFile (PathText.join output diagnosticFileName) = .error fault →
        FailsAt t source output .openDiagnosticFile (.access fault)

variable {t : FileTree} {source output : String}

/-- A run fails at a step, or finds its source, its directory and its files. -/
theorem runFile_cases (t : FileTree) (source output : String) :
    (∃ step fault, FailsAt t source output step fault) ∨
      ∃ text made p q, readSource t source = .ok text ∧
        t.makeDirectories output = (made, none) ∧ RecordPlaces made output p q := by
  cases hsource : readSource t source with
  | error fault => exact .inl ⟨_, _, .readSource hsource⟩
  | ok text =>
      rcases hmade : t.makeDirectories output with ⟨made, _ | fault⟩
      · cases htoken : made.openFile (PathText.join output tokenFileName) with
        | error fault => exact .inl ⟨_, _, .openTokenFile hsource hmade htoken⟩
        | ok place =>
            obtain ⟨p, opened⟩ := place
            cases hdiagnostic : opened.openFile (PathText.join output diagnosticFileName) with
            | error fault =>
                exact .inl ⟨_, _, .openDiagnosticFile hsource hmade htoken hdiagnostic⟩
            | ok place =>
                obtain ⟨q, ready⟩ := place
                obtain ⟨hp, rfl⟩ := FileTree.openFile_eq_ok_iff.mp htoken
                obtain ⟨hq, -⟩ := FileTree.openFile_eq_ok_iff.mp hdiagnostic
                -- The diagnostic file was opened with the token file there; it opens without.
                exact .inr ⟨text, made, p, q, rfl, rfl, hp, hp.of_put hq⟩
      · exact .inl ⟨_, _, .makeDirectory hsource hmade⟩

theorem outcome_of_failsAt {step : RunStep} {fault : FileFault}
    (h : FailsAt t source output step fault) :
    (runFile t source output).outcome = .error fault := by
  cases h with
  | readSource hsource => simp only [runFile, hsource]
  | makeDirectory hsource hmade => simp only [runFile, hsource, hmade]
  | openTokenFile hsource hmade htoken => simp only [runFile, hsource, hmade, htoken]
  | openDiagnosticFile hsource hmade htoken hdiagnostic =>
      simp only [runFile, hsource, hmade, htoken, hdiagnostic]

/-- A run has a fault exactly if a step fails with it. -/
theorem outcome_eq_error_iff {fault : FileFault} :
    (runFile t source output).outcome = .error fault ↔
      ∃ step, FailsAt t source output step fault := by
  constructor
  · intro h
    rcases runFile_cases t source output with
      ⟨step, other, hfails⟩ | ⟨text, made, p, q, hsource, hmade, hplaces⟩
    · have hother := outcome_of_failsAt hfails
      obtain rfl := Except.error.inj (hother.symm.trans h)
      exact ⟨step, hfails⟩
    · rw [runFile_of_places hsource hmade hplaces] at h
      cases h
  · rintro ⟨step, hfails⟩
    exact outcome_of_failsAt hfails

/-! ## What is left of the tree -/

theorem tree_of_readSource {fault : FileFault}
    (h : FailsAt t source output .readSource fault) : (runFile t source output).tree = t := by
  cases h with
  | readSource hsource => simp only [runFile, hsource]

theorem tree_of_makeDirectory {fault : FileFault}
    (h : FailsAt t source output .makeDirectory fault) :
    (runFile t source output).tree = (t.makeDirectories output).1 := by
  cases h with
  | makeDirectory hsource hmade => simp only [runFile, hsource, hmade]

theorem tree_of_openTokenFile {fault : FileFault}
    (h : FailsAt t source output .openTokenFile fault) :
    (runFile t source output).tree = (t.makeDirectories output).1 := by
  cases h with
  | openTokenFile hsource hmade htoken => simp only [runFile, hsource, hmade, htoken]

/-- The token file has been opened by then. -/
theorem tree_of_openDiagnosticFile {fault : FileFault}
    (h : FailsAt t source output .openDiagnosticFile fault) :
    ∃ p, (t.makeDirectories output).1.Opens (PathText.join output tokenFileName) p ∧
      (runFile t source output).tree = (t.makeDirectories output).1.put p (.file []) := by
  cases h with
  | @openDiagnosticFile text made opened p fault hsource hmade htoken hdiagnostic =>
      obtain ⟨hp, hopened⟩ := FileTree.openFile_eq_ok_iff.mp htoken
      refine ⟨p, by rw [hmade]; exact hp, ?_⟩
      simp only [runFile, hsource, hmade, htoken, hdiagnostic]
      exact hopened

/-- Directories have been added on the way of a path, and no file has come, gone or changed. In a
rooted tree, what has been added holds no file. -/
structure OnlyDirectoriesAdded (t : FileTree) (path : String) (t' : FileTree) : Prop where
  directories : t.DirectoriesAdded path t'
  files : ∀ p bytes, t'.find? p = some (.file bytes) ↔ t.find? p = some (.file bytes)
  empty : t.Rooted → ∀ p, t.find? p = none → ∀ below bytes,
    t'.find? (p ++ below) ≠ some (.file bytes)

theorem onlyDirectoriesAdded_makeDirectories (t : FileTree) (path : String) :
    OnlyDirectoriesAdded t path (t.makeDirectories path).1 := by
  have hadded := t.makeDirectories_added path
  exact ⟨hadded, fun p bytes => hadded.find?_file_iff,
    fun hrooted p hnone => hadded.find?_below hrooted hnone⟩

/-- **What a failed run leaves behind.** A run has a fault exactly if one of four steps fails. If
the source cannot be read, the tree is as before. If the directory cannot be made, or the token file
cannot be opened in it, only directories on the way of the output have been added, and these hold no
file. If the diagnostic file cannot be opened, the token file is there and empty, and all other
files are as before. When both files are open, nothing can fail any more. -/
theorem runFile_failed (t : FileTree) (source output : String) :
    let run := runFile t source output
    (∀ fault, run.outcome = .error fault ↔ ∃ step, FailsAt t source output step fault) ∧
    (∀ fault, FailsAt t source output .readSource fault → run.tree = t) ∧
    (∀ fault, FailsAt t source output .makeDirectory fault →
      OnlyDirectoriesAdded t output run.tree) ∧
    (∀ fault, FailsAt t source output .openTokenFile fault →
      OnlyDirectoriesAdded t output run.tree) ∧
    (∀ fault, FailsAt t source output .openDiagnosticFile fault →
      run.tree.readFile (PathText.join output "source.dyd") = .ok [] ∧
      ∃ p, run.tree.Opens (PathText.join output "source.dyd") p ∧
        run.tree.find? p = some (.file []) ∧
        ∀ q, q ≠ p → ∀ bytes,
          run.tree.find? q = some (.file bytes) ↔ t.find? q = some (.file bytes)) ∧
    ∀ text made p opened q ready, readSource t source = .ok text →
      t.makeDirectories output = (made, none) →
      made.openFile (PathText.join output "source.dyd") = .ok (p, opened) →
      opened.openFile (PathText.join output "source.err") = .ok (q, ready) →
        ∃ success, run.outcome = .ok success := by
  intro run
  refine ⟨fun fault => outcome_eq_error_iff, fun fault h => tree_of_readSource h, ?_, ?_, ?_, ?_⟩
  · intro fault h
    rw [tree_of_makeDirectory h]
    exact onlyDirectoriesAdded_makeDirectories t output
  · intro fault h
    rw [tree_of_openTokenFile h]
    exact onlyDirectoriesAdded_makeDirectories t output
  · intro fault h
    obtain ⟨p, hp, htree⟩ := tree_of_openDiagnosticFile h
    rw [htree]
    refine ⟨(hp.put hp).readFile (hp.find?_put _), p, hp.put hp, hp.find?_put _, ?_⟩
    intro q hq bytes
    rw [FileTree.find?_put_ne hq]
    exact (t.makeDirectories_added output).find?_file_iff
  · intro text made p opened q ready hsource hmade htoken hdiagnostic
    obtain ⟨hp, rfl⟩ := FileTree.openFile_eq_ok_iff.mp htoken
    obtain ⟨hq, -⟩ := FileTree.openFile_eq_ok_iff.mp hdiagnostic
    exact ⟨_, congrArg FileRun.outcome (runFile_of_places hsource hmade ⟨hp, hp.of_put hq⟩)⟩

/-- A run whose diagnostic file has the name of a directory. -/
theorem runFile_failed_diagnosticFile :
    let t : FileTree := ⟨[(["a.pas"], .file (Utf8.encode "If".toList)), (["out"], .directory),
      (["out", "source.dyd"], .file [65]), (["out", "source.err"], .directory)]⟩
    let fault : FileFault := .access (.refused .isDirectory "out/source.err")
    FailsAt t "a.pas" "out" .openDiagnosticFile fault ∧
    (runFile t "a.pas" "out").outcome = .error fault ∧
    (runFile t "a.pas" "out").tree.readFile "out/source.dyd" = .ok [] := by
  intro t fault
  have hsource : readSource t "a.pas" = .ok "If".toList := by
    cbv
  have hmade : t.makeDirectories "out" = (t, none) := by
    cbv
  have htoken : t.openFile (PathText.join "out" tokenFileName) =
      .ok (["out", "source.dyd"], t.put ["out", "source.dyd"] (.file [])) := rfl
  have hfails : FailsAt t "a.pas" "out" .openDiagnosticFile fault :=
    .openDiagnosticFile hsource hmade htoken rfl
  obtain ⟨houtcome, -, -, -, hdiagnostic, -⟩ := runFile_failed t "a.pas" "out"
  exact ⟨hfails, (houtcome fault).mpr ⟨_, hfails⟩, (hdiagnostic fault hfails).1⟩

end PascalScan

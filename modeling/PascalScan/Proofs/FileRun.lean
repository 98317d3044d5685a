import PascalScan.Proofs.CutShort
import PascalScan.Proofs.FileAccess
import PascalScan.Proofs.LineEnds
import PascalScan.Proofs.Pipeline
import PascalScan.SourceFile

/-!
# A run over a source file, and the same source posted

A source may be scanned from a file or posted to the gateway. A run over a file leaves two record
files; a reply of the gateway holds their texts. This file says when the two are the same.

Shape of the argument: both files of a run can be opened throughout (`RecordPlaces`), so they hold
at the end what the scan gave for them (`runFile_spec`). A run makes line ends one before it trims,
and the gateway does not; what this comes to is the subject of the lemmas on line ends.
-/

namespace PascalScan

/-! ## What a run writes -/

namespace Sinks

/-- Sinks that write put a line for each record, the latest first. -/
theorem accepts_writing (rs : List Record) (st : Streams) :
    writing.Accepts rs st
      ⟨((Record.tokens rs).map Layout.tokenLine).reverse ++ st.tokenLines,
        ((Record.diagnostics rs).map Layout.diagnosticLine).reverse ++ st.diagnosticLines⟩ := by
  induction rs generalizing st with
  | nil => exact .nil st
  | cons r rs ih =>
      cases r with
      | token t =>
          have hcall : writing.call (.token t) st =
              .ok { st with tokenLines := Layout.tokenLine t :: st.tokenLines } := rfl
          have htokens : Record.tokens (.token t :: rs) = t :: Record.tokens rs := rfl
          have hdiagnostics : Record.diagnostics (.token t :: rs) = Record.diagnostics rs := rfl
          rw [htokens, hdiagnostics, List.map_cons, List.reverse_cons, List.append_assoc]
          exact .cons hcall (ih _)
      | diagnostic d =>
          have hcall : writing.call (.diagnostic d) st =
              .ok { st with diagnosticLines := Layout.diagnosticLine d :: st.diagnosticLines } :=
            rfl
          have htokens : Record.tokens (.diagnostic d :: rs) = Record.tokens rs := rfl
          have hdiagnostics : Record.diagnostics (.diagnostic d :: rs) =
              d :: Record.diagnostics rs := rfl
          rw [htokens, hdiagnostics, List.map_cons, List.reverse_cons, List.append_assoc]
          exact .cons hcall (ih _)

end Sinks

/-- The log of a scan that nothing stops: an entry for each diagnostic, and the summary. -/
theorem scanLog_eq (text : List Char) :
    scanLog text = Sinks.entries (delivered (Element.ofText text)) ++
      [summaryEntry (Element.ofText text).length
        (Record.tokens (delivered (Element.ofText text))).length
        (Record.diagnostics (delivered (Element.ofText text))).length] := by
  have hnone : ∀ before r, ¬RefusesAfter none none before r := by
    intro before r
    cases r with
    | token t => exact fun h => by cases h
    | diagnostic d => exact fun h => by cases h
  have haccepts := accepts_recording [] fun pre r post
    (_ : delivered (Element.ofText text) = pre ++ r :: post) => hnone ([] ++ pre) r
  exact congrArg Delivery.log (Sinks.deliver_of_accepts haccepts)

/-- The two files get the records of a scan. -/
theorem writeRecords_eq (t : FileTree) (text : List Char) (tokenFile diagnosticFile : Path) :
    writeRecords t text tokenFile diagnosticFile =
      ((t.put tokenFile (textNode (Layout.tokenText (scan text).tokens))).put diagnosticFile
          (textNode (Layout.diagnosticText (scan text).diagnostics)),
        scanLog text, (scan text).success) := by
  have htokens : (scan text).tokens = Record.tokens (delivered (Element.ofText text)) := by
    rw [delivered_eq]
    rfl
  have hdiagnostics :
      (scan text).diagnostics = Record.diagnostics (delivered (Element.ofText text)) := by
    rw [delivered_eq]
    rfl
  have hsuccess : (scan text).success =
      ((Record.diagnostics (delivered (Element.ofText text))).length == 0) := by
    rw [← hdiagnostics]
    change (scan text).diagnostics.isEmpty = _
    cases (scan text).diagnostics <;> rfl
  have hdeliver := Sinks.deliver_of_accepts
    (Sinks.accepts_writing (delivered (Element.ofText text)) .empty)
  rw [writeRecords, scanLog_eq, hsuccess, htokens, hdiagnostics]
  simp only [hdeliver]
  simp only [Streams.tokenText, Streams.diagnosticText, Streams.empty, List.append_nil,
    List.reverse_reverse]
  rfl

/-- The directory of a run can be made, if it is not there, and both record files can be opened in
it. -/
structure OutputUsable (t : FileTree) (output : String) : Prop where
  directory : (t.makeDirectories output).2 = none
  tokenFile : ∃ opened, (t.makeDirectories output).1.openFile
    (PathText.join output tokenFileName) = .ok opened
  diagnosticFile : ∃ opened, (t.makeDirectories output).1.openFile
    (PathText.join output diagnosticFileName) = .ok opened

/-- Where the two record files can be opened. -/
structure RecordPlaces (t : FileTree) (output : String) (p q : Path) : Prop where
  token : t.Opens (PathText.join output tokenFileName) p
  diagnostic : t.Opens (PathText.join output diagnosticFileName) q

namespace RecordPlaces

variable {t : FileTree} {output : String} {p q : Path} {bytes : List UInt8}

theorem putToken (h : RecordPlaces t output p q) :
    RecordPlaces (t.put p (.file bytes)) output p q :=
  ⟨h.token.put h.token, h.diagnostic.put h.token⟩

theorem putDiagnostic (h : RecordPlaces t output p q) :
    RecordPlaces (t.put q (.file bytes)) output p q :=
  ⟨h.token.put h.diagnostic, h.diagnostic.put h.diagnostic⟩

/-- The two record files are never one. -/
theorem apart (h : RecordPlaces t output p q) : p ≠ q := by
  have htoken := h.token.getLast?
  have hdiagnostic := h.diagnostic.getLast?
  rw [PathText.names_join output (by decide) (by decide), List.getLast?_concat] at htoken
  rw [PathText.names_join output (by decide) (by decide), List.getLast?_concat] at hdiagnostic
  intro heq
  rw [heq, hdiagnostic] at htoken
  exact absurd htoken (by decide)

end RecordPlaces

/-- The record files of a scan, put at two places. -/
def withRecords (t : FileTree) (p q : Path) (s : Scan) : FileTree :=
  (t.put p (textNode (Layout.tokenText s.tokens))).put q
    (textNode (Layout.diagnosticText s.diagnostics))

theorem find?_withRecords_ne {t : FileTree} {p q r : Path} {s : Scan} (hp : r ≠ p) (hq : r ≠ q) :
    (withRecords t p q s).find? r = t.find? r := by
  unfold withRecords
  rw [FileTree.find?_put_ne hq, FileTree.find?_put_ne hp]

/-- To write the record files again changes nothing. -/
theorem withRecords_again {p q : Path} (h : p ≠ q) (t : FileTree) (s : Scan) :
    withRecords (withRecords t p q s) p q s = withRecords t p q s :=
  FileTree.put_again h t _ _ _ _

namespace RecordPlaces

variable {t : FileTree} {output : String} {p q : Path}

theorem withRecords (h : RecordPlaces t output p q) (s : Scan) :
    RecordPlaces (withRecords t p q s) output p q :=
  h.putToken.putDiagnostic

theorem find?_token (h : RecordPlaces t output p q) (s : Scan) :
    (PascalScan.withRecords t p q s).find? p =
      some (textNode (Layout.tokenText s.tokens)) := by
  unfold PascalScan.withRecords
  rw [FileTree.find?_put_ne h.apart]
  exact h.token.find?_put _

theorem find?_diagnostic (h : RecordPlaces t output p q) (s : Scan) :
    (PascalScan.withRecords t p q s).find? q =
      some (textNode (Layout.diagnosticText s.diagnostics)) := by
  have htoken : RecordPlaces (t.put p (textNode (Layout.tokenText s.tokens))) output p q :=
    h.putToken
  exact htoken.diagnostic.find?_put _

theorem keepsDirectories (h : RecordPlaces t output p q) (s : Scan) :
    t.KeepsDirectories (PascalScan.withRecords t p q s) := by
  intro r hr
  have htoken : r ≠ p := fun heq => h.token.free (heq ▸ hr)
  have hdiagnostic : r ≠ q := fun heq => h.diagnostic.free (heq ▸ hr)
  rw [find?_withRecords_ne htoken hdiagnostic, hr]

end RecordPlaces

/-- A run that finds its source, its directory and its files writes the records of the source. -/
theorem runFile_of_places {t made : FileTree} {source output : String} {text : List Char}
    {p q : Path} (hsource : readSource t source = .ok text)
    (hmade : t.makeDirectories output = (made, none)) (hplaces : RecordPlaces made output p q) :
    runFile t source output =
      ⟨withRecords made p q (scan text),
        scanLog text ++ [runEntry source (PathText.join output tokenFileName)
          (PathText.join output diagnosticFileName) (scan text).success],
        .ok (scan text).success⟩ := by
  have htoken : made.openFile (PathText.join output tokenFileName) =
      .ok (p, made.put p (.file [])) :=
    FileTree.openFile_eq_ok_iff.mpr ⟨hplaces.token, rfl⟩
  -- The token file is there already when the diagnostic file is opened.
  have hdiagnostic :
      (made.put p (.file [])).openFile (PathText.join output diagnosticFileName) =
        .ok (q, (made.put p (.file [])).put q (.file [])) :=
    FileTree.openFile_eq_ok_iff.mpr ⟨hplaces.putToken.diagnostic, rfl⟩
  simp only [runFile, hsource, hmade, htoken, hdiagnostic, writeRecords_eq,
    FileTree.put_again hplaces.apart]
  rfl

theorem readSource_of_readFile {t : FileTree} {source : String} {text : List Char}
    (h : t.readFile source = .ok (Utf8.encode text)) :
    readSource t source = .ok (Text.trim (Text.unifyLineEnds text)) := by
  rw [readSource, h]
  simp only [decodeSource, Utf8.decode_encode]
  rfl

/-- A run over a file that holds a text, with a usable output, ends well, and both record files can
be read where it left them. -/
theorem runFile_spec {t : FileTree} {source output : String} {text : List Char}
    (hsource : t.readFile source = .ok (Utf8.encode text)) (houtput : OutputUsable t output) :
    let s := scan (Text.trim (Text.unifyLineEnds text))
    (runFile t source output).outcome = .ok s.success ∧
    (runFile t source output).tree.readFile (PathText.join output tokenFileName) =
      .ok (Utf8.encode (Layout.tokenText s.tokens).toList) ∧
    (runFile t source output).tree.readFile (PathText.join output diagnosticFileName) =
      .ok (Utf8.encode (Layout.diagnosticText s.diagnostics).toList) := by
  intro s
  have hread := readSource_of_readFile hsource
  obtain ⟨hdirectory, ⟨⟨p, t₁⟩, htoken⟩, ⟨⟨q, t₂⟩, hdiagnostic⟩⟩ := houtput
  generalize hmade : t.makeDirectories output = made at hdirectory htoken hdiagnostic
  obtain ⟨made, fault⟩ := made
  obtain rfl : fault = none := hdirectory
  obtain ⟨hp, -⟩ := FileTree.openFile_eq_ok_iff.mp htoken
  obtain ⟨hq, -⟩ := FileTree.openFile_eq_ok_iff.mp hdiagnostic
  have hplaces : RecordPlaces made output p q := ⟨hp, hq⟩
  rw [runFile_of_places hread hmade hplaces]
  exact ⟨rfl, (hplaces.withRecords s).token.readFile (hplaces.find?_token s),
    (hplaces.withRecords s).diagnostic.readFile (hplaces.find?_diagnostic s)⟩

/-! ## Two ways to scan a text -/

/-- What a scan of a source comes to: the bytes of the two record files, and whether there was no
diagnostic. -/
structure RecordFiles where
  tokens : List UInt8
  diagnostics : List UInt8
  success : Bool
  deriving DecidableEq

namespace RecordFiles

/-- What a scan comes to when its records are laid out. -/
def ofScan (s : Scan) : RecordFiles :=
  ⟨Utf8.encode (Layout.tokenText s.tokens).toList,
    Utf8.encode (Layout.diagnosticText s.diagnostics).toList, s.success⟩

/-- What a run over a source file comes to, read from the tree that it leaves. -/
def ofRun (t : FileTree) (source output : String) : Option RecordFiles :=
  let run := runFile t source output
  match run.outcome, run.tree.readFile (PathText.join output tokenFileName),
      run.tree.readFile (PathText.join output diagnosticFileName) with
  | .ok success, .ok tokens, .ok diagnostics => some ⟨tokens, diagnostics, success⟩
  | _, _, _ => none

/-- What a reply of the gateway tells. -/
def ofReply : Except Service.Gateway.Fault Service.Reply → Option RecordFiles
  | .ok ⟨200, .json (.object reply)⟩ =>
      match reply.lookup "data" with
      | some (.object data) =>
          match data.lookup "dyd", data.lookup "err", data.lookup "success" with
          | some (.text tokens), some (.text diagnostics), some (.bool success) =>
              some ⟨Utf8.encode tokens.toList, Utf8.encode diagnostics.toList, success⟩
          | _, _, _ => none
      | _ => none
  | _ => none

/-- What it comes to when a source is posted to the gateway, with the scanning service behind it. -/
def ofPost (requestId source : String) : Option RecordFiles :=
  ofReply (Service.Gateway.handle (Service.Backend.ofService requestId) requestId
    ⟨"POST", "/scan", some (Json.write (.object (requestFields source)))⟩).reply

theorem ofPost_eq (requestId source : String) :
    ofPost requestId source = some (ofScan (scan (Text.trim source.toList))) := by
  rw [ofPost, Service.Gateway.handle_scan requestId (Service.readBody_write source)]
  rfl

theorem ofRun_eq {t : FileTree} {source output : String} {text : List Char}
    (hsource : t.readFile source = .ok (Utf8.encode text)) (houtput : OutputUsable t output) :
    ofRun t source output = some (ofScan (scan (Text.trim (Text.unifyLineEnds text)))) := by
  obtain ⟨houtcome, htokens, hdiagnostics⟩ := runFile_spec hsource houtput
  simp only [ofRun, houtcome, htokens, hdiagnostics]
  rfl

/-- Texts of which one has a carriage return and the other none come to different files. -/
theorem ofScan_ne {text other : List Char} (htext : '\r' ∈ text) (hother : '\r' ∉ other) :
    ofScan (scan other) ≠ ofScan (scan text) := by
  intro heq
  have hdecoded := congrArg (fun files => Utf8.decode files.diagnostics) heq
  simp only [ofScan, Utf8.decode_encode, Except.ok.injEq] at hdecoded
  exact Layout.diagnosticText_scan_ne htext hother (String.toList_inj.mp hdecoded)

end RecordFiles

/-- **When a run over a file and a post agree.** Let a file hold a text, and the output of a run be
usable. Then the run and the post both come to record files, and these are the same exactly if
there is no carriage return between the first and the last character of the text that are no blanks.
They are always the same if the text is posted with every carriage return before a line feed, and
then every other, replaced. -/
theorem RecordFiles.ofRun_eq_ofPost_iff {t : FileTree} {source output text : String}
    (requestId : String) (hsource : t.readFile source = .ok (Utf8.encode text.toList))
    (houtput : OutputUsable t output) :
    ∃ written posted,
      ofRun t source output = some written ∧ ofPost requestId text = some posted ∧
      (written = posted ↔ '\r' ∉ Text.trim text.toList) ∧
      ofPost requestId (String.ofList (Text.replaceAll ['\r'] ['\n']
        (Text.replaceAll ['\r', '\n'] ['\n'] text.toList))) = some written := by
  refine ⟨_, _, ofRun_eq hsource houtput, ofPost_eq requestId text, ?_, ?_⟩
  · constructor
    · intro heq hreturn
      -- None is left when line ends are made one, and so none in what is trimmed after that.
      have hnone : '\r' ∉ Text.trim (Text.unifyLineEnds text.toList) := fun hmem =>
        Text.return_not_mem_unifyLineEnds _ (Text.mem_of_mem_trim hmem)
      exact ofScan_ne hreturn hnone heq
    · intro hreturn
      rw [Text.trim_unifyLineEnds hreturn]
  · rw [ofPost_eq, String.toList_ofList, ← Text.unifyLineEnds_eq]

/-- A line end of two characters in a file that is scanned into a new directory. -/
theorem RecordFiles.ofRun_ne_ofPost_pair :
    let t : FileTree := ⟨[(["a.pas"], .file (Utf8.encode "If\r\nx".toList))]⟩
    t.readFile "a.pas" = .ok (Utf8.encode "If\r\nx".toList) ∧ OutputUsable t "out" ∧
      ofRun t "a.pas" "out" ≠ ofPost "id" "If\r\nx" ∧
      ofRun t "a.pas" "out" = ofPost "id" "If\nx" := by
  intro t
  have hsource : t.readFile "a.pas" = .ok (Utf8.encode "If\r\nx".toList) := by
    cbv
  have houtput : OutputUsable t "out" := by
    have hmade : t.makeDirectories "out" = (t.put ["out"] .directory, none) := by
      cbv
    refine ⟨by rw [hmade], ?_, ?_⟩
    · rw [hmade]
      exact ⟨_, rfl⟩
    · rw [hmade]
      exact ⟨_, rfl⟩
  obtain ⟨written, posted, hrun, hpost, hiff, hreplaced⟩ :=
    ofRun_eq_ofPost_iff "id" hsource houtput
  refine ⟨hsource, houtput, ?_, ?_⟩
  · rw [hrun, hpost]
    intro heq
    exact hiff.mp (Option.some.inj heq) (by decide)
  · have htext : String.ofList (Text.replaceAll ['\r'] ['\n']
        (Text.replaceAll ['\r', '\n'] ['\n'] "If\r\nx".toList)) = "If\nx" := by
      decide +kernel
    rw [hrun, ← hreplaced, htext]

end PascalScan

import PascalScan.FileTree.Access
import Mathlib

/-!
# Files that are written one after the other

To open a file for writing, or to write it, changes the tree at one place. This file says that every
path that could be opened before can be opened after, at the place where it was.

* `PathText.names_join` gives the names of a joined path.
* `FileTree.locate_eq_ok_iff` says by which ways a path leads somewhere, and
  `FileTree.openFile_eq_ok_iff` when it can be opened; later proofs never open `locate` again.
* `FileTree.Opens.put` keeps a path open while files are written, and `FileTree.Opens.readFile`
  reads what stands at its place.
-/

namespace PascalScan

/-! ## Names of a path -/

namespace Text

theorem pieces_append (separator : Char) (front back : List Char) :
    pieces separator (front ++ separator :: back) =
      pieces separator front ++ pieces separator back := by
  induction front with
  | nil => simp [pieces]
  | cons c cs ih =>
      have hne : ∀ ds, pieces separator ds ≠ [] := by
        intro ds
        fun_cases pieces separator ds <;> simp
      rw [List.cons_append, pieces, pieces, ih]
      obtain ⟨p, ps, hp⟩ := List.exists_cons_of_ne_nil (hne cs)
      by_cases hc : c = separator
      · rw [if_pos hc, if_pos hc, List.cons_append]
      · rw [if_neg hc, if_neg hc, hp]
        rfl

theorem pieces_of_not_mem {separator : Char} {cs : List Char} (h : separator ∉ cs) :
    pieces separator cs = [cs] := by
  induction cs with
  | nil => rfl
  | cons c cs ih =>
      rw [List.mem_cons, not_or] at h
      obtain ⟨hc, hcs⟩ := h
      rw [pieces, if_neg fun heq => hc heq.symm, ih hcs]

end Text

namespace PathText

theorem names_slash (front back : List Char) :
    names (String.ofList (front ++ '/' :: back)) =
      names (String.ofList front) ++ names (String.ofList back) := by
  unfold names
  simp [Text.pieces_append]

theorem names_of_not_mem {name : String} (hne : name ≠ "") (hslash : '/' ∉ name.toList) :
    names name = [name] := by
  have hnil : name.toList ≠ [] := fun h => hne (String.toList_eq_nil_iff.mp h)
  unfold names
  rw [Text.pieces_of_not_mem hslash]
  simp [hnil]

/-- A joined path has the names of the directory and then the name. -/
theorem names_join (directory : String) {name : String} (hne : name ≠ "")
    (hslash : '/' ∉ name.toList) : names (join directory name) = names directory ++ [name] := by
  have hname := names_of_not_mem hne hslash
  unfold join
  by_cases hempty : directory = ""
  · subst hempty
    rw [if_pos (.inl rfl), String.empty_append, hname]
    rfl
  · by_cases hend : endsInSlash directory = true
    · -- The slash at the end stands before an empty piece, which is no name.
      rw [endsInSlash, beq_iff_eq, List.getLast?_eq_some_iff] at hend
      obtain ⟨front, hfront⟩ := hend
      have hdirectory : directory = String.ofList (front ++ '/' :: []) := by
        rw [← hfront, String.ofList_toList]
      have hjoined : directory ++ name = String.ofList (front ++ '/' :: name.toList) := by
        rw [← String.toList_inj]
        simp [hfront]
      rw [if_pos (.inr (by simp [endsInSlash, hfront])), hjoined, names_slash,
        String.ofList_toList, hname, hdirectory, names_slash]
      have hnone : names (String.ofList []) = [] := rfl
      rw [hnone, List.append_nil]
    · have hjoined : directory ++ "/" ++ name =
          String.ofList (directory.toList ++ '/' :: name.toList) := by
        rw [← String.toList_inj]
        simp
      rw [if_neg (by simp [hempty, hend]), hjoined, names_slash, String.ofList_toList,
        String.ofList_toList, hname]

end PathText

/-! ## Opening files -/

namespace FileTree

variable {t t' : FileTree} {path other : String} {place : Path} {bytes : List UInt8}

/-- Where the names of a path lead; `slash` tells whether a slash stands behind them. -/
inductive Leads (t : FileTree) (names : List String) (slash : Bool) : Target → Prop where
  | top : names = [] → Leads t names slash (.directory [])
  | dots {before : List String} {last : String} {parent p : Path} :
      names = before ++ [last] → t.enter [] before = .ok parent → last = "." ∨ last = ".." →
        t.enter parent [last] = .ok p → Leads t names slash (.directory p)
  | name {before : List String} {last : String} {parent : Path} :
      names = before ++ [last] → t.enter [] before = .ok parent → ¬(last = "." ∨ last = "..") →
        ¬maxNameBytes < last.utf8ByteSize → Leads t names slash (.name parent last slash)

/-- A path with names is followed down to the last of them. -/
theorem locate_of_names {before : List String} {last : String} (hempty : path ≠ "")
    (hlength : ¬maxPathBytes ≤ path.utf8ByteSize)
    (hnames : PathText.names path = before ++ [last]) :
    t.locate path = (t.enter [] before).bind fun parent =>
      if last = "." ∨ last = ".." then (t.enter parent [last]).map .directory
      else if maxNameBytes < last.utf8ByteSize then .error .nameTooLong
      else .ok (.name parent last (PathText.endsInSlash path)) := by
  rw [locate, if_neg hempty, if_neg hlength]
  simp only [hnames, List.getLast?_concat, List.dropLast_concat]
  cases t.enter [] before with
  | error e => rfl
  | ok parent =>
      cases t.enter parent [last] <;> rfl

theorem locate_eq_ok_iff {target : Target} :
    t.locate path = .ok target ↔ path ≠ "" ∧ ¬maxPathBytes ≤ path.utf8ByteSize ∧
      t.Leads (PathText.names path) (PathText.endsInSlash path) target := by
  constructor
  · intro h
    by_cases hempty : path = ""
    · rw [locate, if_pos hempty] at h
      cases h
    · by_cases hlength : maxPathBytes ≤ path.utf8ByteSize
      · rw [locate, if_neg hempty, if_pos hlength] at h
        cases h
      · refine ⟨hempty, hlength, ?_⟩
        rcases List.eq_nil_or_concat (PathText.names path) with hnames | ⟨before, last, hnames⟩
        · simp only [locate, if_neg hempty, if_neg hlength, hnames, List.getLast?_nil] at h
          cases h
          exact .top hnames
        · rw [List.concat_eq_append] at hnames
          rw [locate_of_names hempty hlength hnames] at h
          cases hparent : t.enter [] before with
          | error e =>
              rw [hparent] at h
              cases h
          | ok parent =>
              rw [hparent, Except.bind] at h
              by_cases hdots : last = "." ∨ last = ".."
              · cases hdown : t.enter parent [last] with
                | error e =>
                    rw [if_pos hdots, hdown] at h
                    cases h
                | ok p =>
                    rw [if_pos hdots, hdown] at h
                    cases h
                    exact .dots hnames hparent hdots hdown
              · by_cases hname : maxNameBytes < last.utf8ByteSize
                · rw [if_neg hdots, if_pos hname] at h
                  cases h
                · rw [if_neg hdots, if_neg hname] at h
                  cases h
                  exact .name hnames hparent hdots hname
  · rintro ⟨hempty, hlength, hleads⟩
    cases hleads with
    | top hnames => simp only [locate, if_neg hempty, if_neg hlength, hnames, List.getLast?_nil]
    | dots hnames hparent hdots hdown =>
        rw [locate_of_names hempty hlength hnames, hparent, Except.bind, if_pos hdots, hdown]
        rfl
    | name hnames hparent hdots hname =>
        rw [locate_of_names hempty hlength hnames, hparent, Except.bind, if_neg hdots,
          if_neg hname]

/-- A path that can be opened for writing, and where it leads: to a name in a directory that is
there, which no directory has. -/
structure Opens (t : FileTree) (path : String) (place : Path) : Prop where
  noNul : '\x00' ∉ path.toList
  leads : ∃ parent name, t.locate path = .ok (.name parent name false) ∧ place = parent ++ [name]
  free : t.find? place ≠ some .directory

/-- A path that leads to a name is opened unless a directory has the name, or a slash at the end
asks for one. -/
theorem openFile_of_locate {parent : Path} {name : String} {slash : Bool}
    (hnul : '\x00' ∉ path.toList) (hlocate : t.locate path = .ok (.name parent name slash)) :
    t.openFile path = .ok (place, t') ↔ slash = false ∧ place = parent ++ [name] ∧
      t.find? place ≠ some .directory ∧ t' = t.put place (.file []) := by
  rw [openFile, if_neg hnul, hlocate]
  by_cases hplace : place = parent ++ [name]
  · subst hplace
    rcases hfind : t.find? (parent ++ [name]) with _ | (_ | held) <;> cases slash <;>
      simp [hfind, eq_comm]
  · rcases hfind : t.find? (parent ++ [name]) with _ | (_ | held) <;> cases slash <;>
      simp [hfind, hplace, Ne.symm hplace]

theorem openFile_eq_ok_iff :
    t.openFile path = .ok (place, t') ↔ t.Opens path place ∧ t' = t.put place (.file []) := by
  constructor
  · intro h
    by_cases hnul : '\x00' ∈ path.toList
    · rw [openFile, if_pos hnul] at h
      cases h
    · cases hlocate : t.locate path with
      | error e =>
          rw [openFile, if_neg hnul, hlocate] at h
          cases h
      | ok target =>
          cases target with
          | directory p =>
              rw [openFile, if_neg hnul, hlocate] at h
              cases h
          | name parent name slash =>
              obtain ⟨rfl, hplace, hfree, hput⟩ := (openFile_of_locate hnul hlocate).mp h
              exact ⟨⟨hnul, ⟨parent, name, hlocate, hplace⟩, hfree⟩, hput⟩
  · rintro ⟨⟨hnul, ⟨parent, name, hlocate, hplace⟩, hfree⟩, hput⟩
    exact (openFile_of_locate hnul hlocate).mpr ⟨rfl, hplace, hfree, hput⟩

theorem find?_put_ne {p : Path} (h : p ≠ place) (n : Node) :
    (t.put place n).find? p = t.find? p := by
  rw [find?_put, if_neg h]
  by_cases hp : p = []
  · rw [if_pos hp, find?, if_pos hp]
  · rw [if_neg hp]

/-- Of what is put at two places, one after the other and then again, the last stays. -/
theorem put_again {p q : Path} (h : p ≠ q) (t : FileTree) (a b c d : Node) :
    (((t.put p a).put q b).put p c).put q d = (t.put p c).put q d := by
  have hq : ¬q = p := fun heq => h heq.symm
  unfold put
  simp only [ne_eq, h, hq, not_false_eq_true, not_true_eq_false, decide_true, decide_false,
    List.filter_cons_of_pos, List.filter_cons_of_neg, List.filter_filter, Bool.false_eq_true,
    FileTree.mk.injEq, List.cons.injEq, true_and]
  apply List.filter_congr
  intro entry _
  by_cases hp : entry.1 = p <;> by_cases hq : entry.1 = q <;> simp [hp, hq]

theorem find?_put_directory {p : Path} (hfree : t.find? place ≠ some .directory)
    (h : t.find? p = some .directory) : (t.put place (.file bytes)).find? p = some .directory := by
  have hne : p ≠ place := fun heq => hfree (heq ▸ h)
  rw [find?_put_ne hne, h]

/-- The directories of one tree are directories of another. -/
def KeepsDirectories (t t' : FileTree) : Prop :=
  ∀ p, t.find? p = some .directory → t'.find? p = some .directory

theorem keepsDirectories_put (hfree : t.find? place ≠ some .directory) :
    t.KeepsDirectories (t.put place (.file bytes)) :=
  fun _ => find?_put_directory hfree

/-- A way that can be gone can still be gone where its directories are kept. -/
theorem KeepsDirectories.enter (hkeeps : t.KeepsDirectories t') {names : List String}
    {at_ p : Path} (h : t.enter at_ names = .ok p) : t'.enter at_ names = .ok p := by
  fun_induction FileTree.enter t at_ names with
  | case1 at_ => exact h
  | case2 at_ rest ih =>
      rw [FileTree.enter, if_pos rfl]
      exact ih h
  | case3 at_ rest hdot ih =>
      rw [FileTree.enter, if_neg hdot, if_pos rfl]
      exact ih h
  | case4 => cases h
  | case5 => cases h
  | case6 => cases h
  | case7 at_ name rest hdot hdots hlength hfind ih =>
      rw [FileTree.enter, if_neg hdot, if_neg hdots, if_neg hlength, hkeeps _ hfind]
      exact ih h

theorem KeepsDirectories.leads (hkeeps : t.KeepsDirectories t') {names : List String}
    {slash : Bool} {target : Target} (h : t.Leads names slash target) :
    t'.Leads names slash target := by
  cases h with
  | top hnames => exact .top hnames
  | dots hnames hparent hdots hdown =>
      exact .dots hnames (hkeeps.enter hparent) hdots (hkeeps.enter hdown)
  | name hnames hparent hdots hname => exact .name hnames (hkeeps.enter hparent) hdots hname

theorem KeepsDirectories.locate (hkeeps : t.KeepsDirectories t') {target : Target}
    (h : t.locate path = .ok target) : t'.locate path = .ok target := by
  obtain ⟨hempty, hlength, hleads⟩ := locate_eq_ok_iff.mp h
  exact locate_eq_ok_iff.mpr ⟨hempty, hlength, hkeeps.leads hleads⟩

theorem Opens.find?_put (h : t.Opens path place) (n : Node) :
    (t.put place n).find? place = some n := by
  obtain ⟨parent, name, -, hplace⟩ := h.leads
  have hne : place ≠ [] := by
    rw [hplace]
    exact List.concat_ne_nil _ _
  rw [FileTree.find?_put, if_neg hne, if_pos rfl]

/-- A path that can be opened leads to the same place where directories are kept, and can be opened
there as long as no directory has taken the place. -/
theorem Opens.of_keeps (h : t.Opens path place) (hkeeps : t.KeepsDirectories t')
    (hfree : t'.find? place ≠ some .directory) : t'.Opens path place := by
  obtain ⟨parent, name, hlocate, hplace⟩ := h.leads
  exact ⟨h.noNul, ⟨parent, name, hkeeps.locate hlocate, hplace⟩, hfree⟩

/-- A path that can be opened can still be opened when a file is written, and leads to the same
place. -/
theorem Opens.put {q : Path} (h : t.Opens path q) (hother : t.Opens other place) :
    (t.put place (.file bytes)).Opens path q := by
  apply h.of_keeps (keepsDirectories_put hother.free)
  by_cases heq : q = place
  · rw [heq, hother.find?_put]
    exact fun hfile => by cases hfile
  · rw [find?_put_ne heq]
    exact h.free

/-- A path that can be opened after a file was written could be opened before. -/
theorem Opens.of_put {q : Path} (hother : t.Opens other place)
    (h : (t.put place (.file bytes)).Opens path q) : t.Opens path q := by
  have hkeeps : (t.put place (.file bytes)).KeepsDirectories t := by
    intro p hp
    have hne : p ≠ place := by
      rintro rfl
      rw [hother.find?_put] at hp
      cases hp
    rw [← find?_put_ne hne, hp]
  apply h.of_keeps hkeeps
  by_cases heq : q = place
  · rw [heq]
    exact hother.free
  · rw [← find?_put_ne heq]
    exact h.free

/-- What is written at the place of a path is read back by the path. -/
theorem Opens.readFile (h : t.Opens path place) (hfile : t.find? place = some (.file bytes)) :
    t.readFile path = .ok bytes := by
  obtain ⟨parent, name, hlocate, hplace⟩ := h.leads
  rw [FileTree.readFile, if_neg h.noNul, hlocate]
  simp only [← hplace, hfile]
  rfl

/-- A path is read at the place where it could be opened. -/
theorem readFile_eq_ok_iff :
    t.readFile path = .ok bytes ↔
      ∃ place, t.Opens path place ∧ t.find? place = some (.file bytes) := by
  constructor
  · intro h
    by_cases hnul : '\x00' ∈ path.toList
    · rw [FileTree.readFile, if_pos hnul] at h
      cases h
    · rw [FileTree.readFile, if_neg hnul] at h
      rcases hlocate : t.locate path with e | (p | ⟨parent, name, slash⟩)
      · rw [hlocate] at h
        cases h
      · rw [hlocate] at h
        cases h
      · rw [hlocate] at h
        rcases hfind : t.find? (parent ++ [name]) with _ | (_ | held)
        · simp only [hfind] at h
          cases h
        · simp only [hfind] at h
          cases h
        · cases slash with
          | true =>
              simp only [hfind] at h
              cases h
          | false =>
              simp only [hfind] at h
              cases h
              refine ⟨parent ++ [name], ⟨hnul, ⟨parent, name, hlocate, rfl⟩, ?_⟩, hfind⟩
              rw [hfind]
              exact fun hdirectory => by cases hdirectory
  · rintro ⟨place, hopens, hfile⟩
    exact hopens.readFile hfile

/-- A path is opened at its last name. -/
theorem Opens.getLast? (h : t.Opens path place) :
    place.getLast? = (PathText.names path).getLast? := by
  obtain ⟨parent, name, hlocate, rfl⟩ := h.leads
  obtain ⟨-, -, hleads⟩ := locate_eq_ok_iff.mp hlocate
  generalize PathText.endsInSlash path = slash at hleads
  cases hleads with
  | name hnames => rw [hnames, List.getLast?_concat, List.getLast?_concat]

/-- A joined path is opened in the directory, which is there. -/
theorem Opens.exists_directory {name : String} (h : t.Opens (PathText.join path name) place)
    (hne : name ≠ "") (hslash : '/' ∉ name.toList) :
    ∃ directory, t.enter [] (PathText.names path) = .ok directory ∧
      place = directory ++ [name] := by
  obtain ⟨parent, last, hlocate, rfl⟩ := h.leads
  obtain ⟨-, -, hleads⟩ := locate_eq_ok_iff.mp hlocate
  generalize PathText.endsInSlash (PathText.join path name) = slash at hleads
  cases hleads with
  | @name before _ _ hnames hparent =>
      rw [PathText.names_join path hne hslash] at hnames
      obtain ⟨rfl, hlast⟩ := List.append_inj' hnames rfl
      obtain rfl := List.singleton_inj.mp hlast
      exact ⟨parent, hparent, rfl⟩

end FileTree

end PascalScan

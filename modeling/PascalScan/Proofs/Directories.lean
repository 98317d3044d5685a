import PascalScan.Proofs.FileAccess

/-!
# Making directories

To make a directory may make several, one after the other, and may stop on the way. This file says
what it leaves in either case: all that was there is as it was, and what is new are directories that
the path passes.

Shape of the argument: a path begins with the way that has to be there first
(`PathText.names_parentAndName_begins`), so what is added on that way is added on the whole path.
`DirectoriesAdded` is kept from step to step (`DirectoriesAdded.trans`), and a directory that is
there is made again by nothing (`FileTree.makeDirectories_of_node?`).
-/

namespace PascalScan

/-! ## The way to a path -/

namespace PathText

theorem dropWhile_ne_slash (cs : List Char) :
    cs.dropWhile (· ≠ '/') = [] ∨ ∃ rest, cs.dropWhile (· ≠ '/') = '/' :: rest := by
  cases h : cs.dropWhile (· ≠ '/') with
  | nil => exact .inl rfl
  | cons c rest =>
      have hhead := List.head?_dropWhile_not (· ≠ '/') cs
      rw [h] at hhead
      have hc : c = '/' := by simpa using hhead
      exact .inr ⟨rest, by rw [hc]⟩

/-- The slashes that a text begins with. -/
theorem exists_slashes (cs : List Char) :
    ∃ n, cs = List.replicate n '/' ++ cs.dropWhile (· == '/') := by
  refine ⟨(cs.takeWhile (· == '/')).length, ?_⟩
  have hslashes : cs.takeWhile (· == '/') =
      List.replicate (cs.takeWhile (· == '/')).length '/' := by
    rw [List.eq_replicate_iff]
    refine ⟨rfl, ?_⟩
    intro c hc
    have hslash := List.mem_takeWhile_imp hc
    exact beq_iff_eq.mp hslash
  rw [← hslashes, List.takeWhile_append_dropWhile]

/-- The part of a path before its last name: slashes alone, or what stands before a slash. -/
theorem split_cases (path : String) :
    (∃ n, (split path).1.toList = List.replicate n '/' ∧
      (split path).1.toList <+: path.toList) ∨
      ∃ back, path.toList = (split path).1.toList ++ '/' :: back := by
  -- The path is read from its end: the name, and what stands before it.
  let name := path.toList.reverse.takeWhile (· ≠ '/')
  let before := path.toList.reverse.dropWhile (· ≠ '/')
  let parent := before.dropWhile (· == '/')
  have hpath : path.toList = before.reverse ++ name.reverse := by
    rw [← List.reverse_append, List.takeWhile_append_dropWhile, List.reverse_reverse]
  have htake : path.toList.take (path.toList.length - name.reverse.length) = before.reverse := by
    rw [hpath, List.length_append, Nat.add_sub_cancel, List.take_left]
  have hsplit : (split path).1 =
      String.ofList (if parent.reverse.isEmpty then before.reverse else parent.reverse) := by
    change String.ofList (if ((path.toList.take
        (path.toList.length - name.reverse.length)).reverse.dropWhile (· == '/')).reverse.isEmpty
      then path.toList.take (path.toList.length - name.reverse.length)
      else ((path.toList.take (path.toList.length - name.reverse.length)).reverse.dropWhile
        (· == '/')).reverse) = _
    rw [htake, List.reverse_reverse]
  have hbegins : before.reverse <+: path.toList := ⟨name.reverse, hpath.symm⟩
  rw [hsplit, String.toList_ofList]
  rcases dropWhile_ne_slash path.toList.reverse with hnone | ⟨rest, hrest⟩
  · have hbefore : before = [] := hnone
    have hparent : parent = [] := by
      rw [show parent = before.dropWhile (· == '/') from rfl, hbefore]
      rfl
    rw [hparent]
    exact .inl ⟨0, congrArg List.reverse hbefore, hbegins⟩
  · have hbefore : before = '/' :: rest := hrest
    have hparent : parent = rest.dropWhile (· == '/') := by
      rw [show parent = before.dropWhile (· == '/') from rfl, hbefore]
      rfl
    obtain ⟨n, hslashes⟩ := exists_slashes rest
    rw [← hparent] at hslashes
    have hreverse : before.reverse = parent.reverse ++ '/' :: List.replicate n '/' := by
      rw [hbefore, hslashes, ← List.cons_append, ← List.replicate_succ, List.reverse_append,
        List.reverse_replicate]
    by_cases hempty : parent = []
    · rw [hempty, List.reverse_nil, List.isEmpty_nil, if_pos rfl]
      rw [hempty, List.reverse_nil, List.nil_append] at hreverse
      exact .inl ⟨n + 1, hreverse, hbegins⟩
    · have hnonempty : ¬parent.reverse.isEmpty = true := by simpa using hempty
      rw [if_neg hnonempty]
      refine .inr ⟨List.replicate n '/' ++ name.reverse, ?_⟩
      rw [hpath, hreverse, List.append_assoc, List.cons_append]

theorem names_replicate (n : Nat) : names (String.ofList (List.replicate n '/')) = [] := by
  induction n with
  | zero => rfl
  | succ n ih =>
      have h := names_slash [] (List.replicate n '/')
      rw [List.nil_append] at h
      rw [List.replicate_succ, h, ih]
      rfl

theorem split_begins (path : String) : (split path).1.toList <+: path.toList := by
  rcases split_cases path with ⟨n, -, hbegins⟩ | ⟨back, hback⟩
  · exact hbegins
  · exact ⟨'/' :: back, hback.symm⟩

theorem names_split_begins (path : String) : names (split path).1 <+: names path := by
  rcases split_cases path with ⟨n, hslashes, -⟩ | ⟨back, hback⟩
  · have hparent : (split path).1 = String.ofList (List.replicate n '/') := by
      rw [← hslashes, String.ofList_toList]
    rw [hparent, names_replicate]
    exact List.nil_prefix
  · have hpath : path = String.ofList ((split path).1.toList ++ '/' :: back) := by
      rw [← hback, String.ofList_toList]
    have hnames := names_slash (split path).1.toList back
    rw [← hpath, String.ofList_toList] at hnames
    exact ⟨_, hnames.symm⟩

theorem parentAndName_begins (path : String) :
    (parentAndName path).1.toList <+: path.toList := by
  unfold parentAndName
  by_cases hname : (split path).2 = ""
  · simp only [if_pos hname]
    exact (split_begins _).trans (split_begins path)
  · simp only [if_neg hname]
    exact split_begins path

/-- The names of a path begin with those of the way that has to be there first. -/
theorem names_parentAndName_begins (path : String) :
    names (parentAndName path).1 <+: names path := by
  unfold parentAndName
  by_cases hname : (split path).2 = ""
  · simp only [if_pos hname]
    exact (names_split_begins _).trans (names_split_begins path)
  · simp only [if_neg hname]
    exact names_split_begins path

/-- A path is no longer than one that it begins. -/
theorem utf8ByteSize_le_of_begins {path other : String}
    (hbegins : other.toList <+: path.toList) : other.utf8ByteSize ≤ path.utf8ByteSize := by
  obtain ⟨rest, hrest⟩ := hbegins
  have hpath : path = other ++ String.ofList rest := by
    rw [← String.toList_inj, String.toList_append, String.toList_ofList, hrest]
  rw [hpath, String.utf8ByteSize_append]
  exact Nat.le_add_right _ _

theorem join_begins (directory name : String) :
    directory.toList <+: (join directory name).toList := by
  unfold join
  split
  · rw [String.toList_append]
    exact List.prefix_append _ _
  · rw [String.append_assoc, String.toList_append]
    exact List.prefix_append _ _

end PathText

/-! ## Directories that are added -/

namespace FileTree

variable {t t' t'' : FileTree} {path other : String} {p : Path}

theorem enter_append (t : FileTree) (at_ : Path) (front back : List String) :
    t.enter at_ (front ++ back) = (t.enter at_ front).bind fun p => t.enter p back := by
  fun_induction FileTree.enter t at_ front with
  | case1 at_ => rfl
  | case2 at_ rest ih =>
      rw [List.cons_append, FileTree.enter, if_pos rfl]
      exact ih
  | case3 at_ rest hdot ih =>
      rw [List.cons_append, FileTree.enter, if_neg hdot, if_pos rfl]
      exact ih
  | case4 at_ name rest hdot hdots hlength =>
      rw [List.cons_append, FileTree.enter, if_neg hdot, if_neg hdots, if_pos hlength]
      rfl
  | case5 at_ name rest hdot hdots hlength hfind =>
      rw [List.cons_append, FileTree.enter, if_neg hdot, if_neg hdots, if_neg hlength, hfind]
      rfl
  | case6 at_ name rest hdot hdots hlength held hfind =>
      rw [List.cons_append, FileTree.enter, if_neg hdot, if_neg hdots, if_neg hlength, hfind]
      rfl
  | case7 at_ name rest hdot hdots hlength hfind ih =>
      rw [List.cons_append, FileTree.enter, if_neg hdot, if_neg hdots, if_neg hlength, hfind]
      exact ih

theorem exists_enter_of_append {at_ : Path} {front back : List String}
    (h : t.enter at_ (front ++ back) = .ok p) : ∃ q, t.enter at_ front = .ok q := by
  rw [enter_append] at h
  cases hfront : t.enter at_ front with
  | error e =>
      rw [hfront] at h
      cases h
  | ok q => exact ⟨q, rfl⟩

/-- A way leads from directories to directories. -/
theorem find?_of_enter {names : List String} {at_ : Path} (h : t.enter at_ names = .ok p)
    (hat : ∀ q, q <+: at_ → t.find? q = some .directory) :
    ∀ q, q <+: p → t.find? q = some .directory := by
  fun_induction FileTree.enter t at_ names with
  | case1 at_ =>
      obtain rfl := Except.ok.inj h
      exact hat
  | case2 at_ rest ih => exact ih h hat
  | case3 at_ rest hdot ih =>
      -- The way back is why all beginnings of the place are in the invariant.
      exact ih h fun q hq => hat q (hq.trans <| List.dropLast_prefix at_)
  | case4 => cases h
  | case5 => cases h
  | case6 => cases h
  | case7 at_ name rest hdot hdots hlength hfind ih =>
      refine ih h fun q hq => ?_
      rcases List.prefix_concat_iff.mp hq with rfl | hq
      · exact hfind
      · exact hat q hq

/-- A beginning of the names of a path leads to a place. -/
def Passes (t : FileTree) (path : String) (p : Path) : Prop :=
  ∃ before after, PathText.names path = before ++ after ∧ t.enter [] before = .ok p

/-- What a path passes is a directory. -/
theorem Passes.find? (h : t.Passes path p) : t.find? p = some .directory := by
  obtain ⟨before, after, -, hp⟩ := h
  refine find?_of_enter hp ?_ p List.prefix_rfl
  intro q hq
  rw [List.prefix_nil.mp hq]
  exact if_pos rfl

theorem Passes.of_begins (h : t.Passes other p)
    (hbegins : PathText.names other <+: PathText.names path) : t.Passes path p := by
  obtain ⟨before, after, hnames, hp⟩ := h
  obtain ⟨rest, hrest⟩ := hbegins
  refine ⟨before, after ++ rest, ?_, hp⟩
  rw [← hrest, hnames, List.append_assoc]

theorem KeepsDirectories.passes (hkeeps : t.KeepsDirectories t') (h : t.Passes path p) :
    t'.Passes path p := by
  obtain ⟨before, after, hnames, hp⟩ := h
  exact ⟨before, after, hnames, hkeeps.enter hp⟩

/-- A tree that differs from another by new directories alone, all of which a path passes. -/
structure DirectoriesAdded (t : FileTree) (path : String) (t' : FileTree) : Prop where
  kept : ∀ p n, t.find? p = some n → t'.find? p = some n
  added : ∀ p n, t.find? p = none → t'.find? p = some n → n = .directory ∧ t'.Passes path p

namespace DirectoriesAdded

theorem refl (t : FileTree) (path : String) : t.DirectoriesAdded path t := by
  refine ⟨fun p n h => h, ?_⟩
  intro p n hnone hsome
  rw [hnone] at hsome
  cases hsome

theorem keepsDirectories (h : t.DirectoriesAdded path t') : t.KeepsDirectories t' :=
  fun p hp => h.kept p .directory hp

theorem trans (h : t.DirectoriesAdded path t') (h' : t'.DirectoriesAdded path t'') :
    t.DirectoriesAdded path t'' := by
  refine ⟨fun p n hp => h'.kept p n (h.kept p n hp), ?_⟩
  intro p n hnone hsome
  cases hmiddle : t'.find? p with
  | none => exact h'.added p n hmiddle hsome
  | some m =>
      obtain ⟨rfl, hpasses⟩ := h.added p m hnone hmiddle
      obtain rfl := Option.some.inj (hsome.symm.trans (h'.kept p _ hmiddle))
      exact ⟨rfl, h'.keepsDirectories.passes hpasses⟩

theorem of_begins (h : t.DirectoriesAdded other t')
    (hbegins : PathText.names other <+: PathText.names path) : t.DirectoriesAdded path t' := by
  refine ⟨h.kept, ?_⟩
  intro p n hnone hsome
  obtain ⟨hn, hpasses⟩ := h.added p n hnone hsome
  exact ⟨hn, hpasses.of_begins hbegins⟩

/-- The files are the same, and so is what they hold. -/
theorem find?_file_iff (h : t.DirectoriesAdded path t') {bytes : List UInt8} :
    t'.find? p = some (.file bytes) ↔ t.find? p = some (.file bytes) := by
  constructor
  · intro hfile
    cases hp : t.find? p with
    | none =>
        obtain ⟨hn, -⟩ := h.added p _ hp hfile
        cases hn
    | some n => rw [← h.kept p n hp, hfile]
  · exact h.kept p _

end DirectoriesAdded

/-- What a tree holds is held by its directories. -/
def Rooted (t : FileTree) : Prop :=
  ∀ p name n, t.find? (p ++ [name]) = some n → t.find? p = some .directory

/-- Below a place where nothing is there is nothing. -/
theorem Rooted.find?_below (h : t.Rooted) (hnone : t.find? p = none) (below : List String) :
    t.find? (p ++ below) = none := by
  induction below using List.reverseRecOn with
  | nil => rw [List.append_nil, hnone]
  | append_singleton below name ih =>
      cases hfind : t.find? (p ++ (below ++ [name])) with
      | none => rfl
      | some n =>
          rw [← List.append_assoc] at hfind
          rw [h _ _ _ hfind] at ih
          cases ih

/-- A directory that is added holds no file. -/
theorem DirectoriesAdded.find?_below (h : t.DirectoriesAdded path t') (hrooted : t.Rooted)
    (hnone : t.find? p = none) (below : List String) (bytes : List UInt8) :
    t'.find? (p ++ below) ≠ some (.file bytes) := by
  intro hfile
  rw [h.find?_file_iff, hrooted.find?_below hnone] at hfile
  cases hfile

/-! ## One directory -/

/-- A directory is made where a path leads to a name that nothing has. -/
theorem makeDirectory_eq_ok (h : t.makeDirectory path = .ok t') :
    ∃ parent name slash, t.locate path = .ok (.name parent name slash) ∧
      t.find? (parent ++ [name]) = none ∧ t' = t.put (parent ++ [name]) .directory := by
  unfold makeDirectory at h
  by_cases hnul : '\x00' ∈ path.toList
  · rw [if_pos hnul] at h
    cases h
  · rw [if_neg hnul] at h
    rcases hlocate : t.locate path with e | (p | ⟨parent, name, slash⟩)
    · rw [hlocate] at h
      cases h
    · rw [hlocate] at h
      cases h
    · rw [hlocate] at h
      cases hfind : t.find? (parent ++ [name]) with
      | some n =>
          simp only [hfind] at h
          cases h
      | none =>
          simp only [hfind] at h
          cases h
          exact ⟨parent, name, slash, rfl, hfind, rfl⟩

theorem makeDirectory_added (h : t.makeDirectory path = .ok t') : t.DirectoriesAdded path t' := by
  obtain ⟨parent, name, slash, hlocate, hfree, rfl⟩ := makeDirectory_eq_ok h
  obtain ⟨-, -, hleads⟩ := locate_eq_ok_iff.mp hlocate
  have hplace : (t.put (parent ++ [name]) .directory).find? (parent ++ [name]) =
      some .directory := by
    rw [find?_put, if_neg (List.concat_ne_nil _ _), if_pos rfl]
  have hkept : ∀ p n, t.find? p = some n →
      (t.put (parent ++ [name]) .directory).find? p = some n := by
    intro p n hp
    have hne : p ≠ parent ++ [name] := by
      rintro rfl
      rw [hfree] at hp
      cases hp
    rw [find?_put_ne hne, hp]
  refine ⟨hkept, ?_⟩
  intro p n hnone hsome
  by_cases hp : p = parent ++ [name]
  · subst hp
    rw [hplace] at hsome
    refine ⟨(Option.some.inj hsome).symm, PathText.names path, [], (List.append_nil _).symm, ?_⟩
    have hkeeps : t.KeepsDirectories (t.put (parent ++ [name]) .directory) :=
      fun p hp => hkept p _ hp
    generalize PathText.endsInSlash path = ending at hleads
    cases hleads with
    | name hnames hparent hdots hlength =>
        rw [not_or] at hdots
        rw [hnames, enter_append, hkeeps.enter hparent, Except.bind, FileTree.enter,
          if_neg hdots.1, if_neg hdots.2, if_neg hlength, hplace]
        rfl
  · rw [find?_put_ne hp, hnone] at hsome
    cases hsome

theorem ensureDirectory_added (t : FileTree) (path : String) :
    t.DirectoriesAdded path (t.ensureDirectory path).1 := by
  unfold ensureDirectory
  cases hmade : t.makeDirectory path with
  | ok made => exact makeDirectory_added hmade
  | error fault => cases fault <;> exact .refl t path

/-! ## All directories on the way -/

/-- **Making directories leaves the rest as it was**, whether it comes to its end or not. -/
theorem makeDirectories_added (t : FileTree) (path : String) :
    t.DirectoriesAdded path (t.makeDirectories path).1 := by
  fun_induction makeDirectories t path with
  | case1 path way shorter hway made fault? hmade hgoes ih =>
      rw [hmade] at ih
      have hmadeAdded : t.DirectoriesAdded path made :=
        ih.of_begins (PathText.names_parentAndName_begins path)
      unfold finishDirectory
      by_cases hdot : way.2 = "."
      · rw [if_pos hdot]
        exact hmadeAdded
      · rw [if_neg hdot]
        exact hmadeAdded.trans (ensureDirectory_added made path)
  | case2 path way shorter hway made fault? hmade hstops ih =>
      rw [hmade] at ih
      exact ih.of_begins (PathText.names_parentAndName_begins path)
  | case3 path way shorter hway => exact ensureDirectory_added t path
  | case4 path way hlong => exact ensureDirectory_added t path

theorem DirectoriesAdded.of_makeDirectories {fault : Option AccessFault}
    (h : t.makeDirectories path = (t', fault)) : t.DirectoriesAdded path t' := by
  have hadded := t.makeDirectories_added path
  rwa [h] at hadded

/-! ## Directories that are there -/

theorem enter_singleton_iff {parent : Path} {name : String} (hdots : ¬(name = "." ∨ name = "..")) :
    t.enter parent [name] = .ok p ↔ ¬maxNameBytes < name.utf8ByteSize ∧
      t.find? (parent ++ [name]) = some .directory ∧ p = parent ++ [name] := by
  rw [not_or] at hdots
  rw [FileTree.enter, if_neg hdots.1, if_neg hdots.2]
  by_cases hlength : maxNameBytes < name.utf8ByteSize
  · rw [if_pos hlength]
    simp [hlength]
  · rw [if_neg hlength]
    rcases t.find? (parent ++ [name]) with _ | (_ | held) <;>
      simp [hlength, FileTree.enter, eq_comm]

/-- A path is one of a directory if its names lead all the way. -/
theorem node?_eq_directory_iff :
    t.node? path = some .directory ↔ path ≠ "" ∧ '\x00' ∉ path.toList ∧
      ¬maxPathBytes ≤ path.utf8ByteSize ∧ ∃ p, t.enter [] (PathText.names path) = .ok p := by
  constructor
  · intro h
    unfold node? at h
    by_cases hnul : '\x00' ∈ path.toList
    · rw [if_pos hnul] at h
      cases h
    · rw [if_neg hnul] at h
      cases hlocate : t.locate path with
      | error e =>
          rw [hlocate] at h
          cases h
      | ok target =>
          obtain ⟨hempty, hlength, hleads⟩ := locate_eq_ok_iff.mp hlocate
          refine ⟨hempty, hnul, hlength, ?_⟩
          rw [hlocate] at h
          cases hleads with
          | top hnames => exact ⟨[], by rw [hnames]; rfl⟩
          | @dots before last parent p hnames hparent hdots hdown =>
              refine ⟨p, ?_⟩
              rw [hnames, enter_append, hparent]
              exact hdown
          | @name before last parent hnames hparent hdots hname =>
              refine ⟨parent ++ [last], ?_⟩
              rw [hnames, enter_append, hparent]
              refine (enter_singleton_iff hdots).mpr ⟨hname, ?_, rfl⟩
              rcases hfind : t.find? (parent ++ [last]) with _ | (_ | held)
              · simp only [hfind] at h
                cases h
              · rfl
              · simp only [hfind] at h
                split at h <;> cases h
  · rintro ⟨hempty, hnul, hlength, p, hp⟩
    unfold node?
    rw [if_neg hnul]
    rcases List.eq_nil_or_concat (PathText.names path) with hnames | ⟨before, last, hnames⟩
    · rw [locate_eq_ok_iff.mpr ⟨hempty, hlength, .top hnames⟩]
    · rw [List.concat_eq_append] at hnames
      rw [hnames, enter_append] at hp
      cases hparent : t.enter [] before with
      | error e =>
          rw [hparent] at hp
          cases hp
      | ok parent =>
          rw [hparent] at hp
          by_cases hdots : last = "." ∨ last = ".."
          · rw [locate_eq_ok_iff.mpr ⟨hempty, hlength, .dots hnames hparent hdots hp⟩]
          · obtain ⟨hname, hfind, -⟩ := (enter_singleton_iff hdots).mp hp
            rw [locate_eq_ok_iff.mpr ⟨hempty, hlength, .name hnames hparent hdots hname⟩]
            simp only [hfind]

/-- With a directory, those on the way to it are there. -/
theorem node?_of_begins (h : t.node? path = some .directory) (hempty : other ≠ "")
    (hbegins : other.toList <+: path.toList)
    (hnames : PathText.names other <+: PathText.names path) :
    t.node? other = some .directory := by
  obtain ⟨-, hnul, hlength, p, hp⟩ := node?_eq_directory_iff.mp h
  have hshorter := PathText.utf8ByteSize_le_of_begins hbegins
  obtain ⟨after, hafter⟩ := hnames
  exact node?_eq_directory_iff.mpr ⟨hempty, fun hmem => hnul (hbegins.subset hmem), by omega,
    exists_enter_of_append (hafter ▸ hp)⟩

/-- The directory of a path that can be opened in it is there. -/
theorem node?_of_opens {name : String} (h : t.Opens (PathText.join path name) p)
    (hempty : path ≠ "") (hne : name ≠ "") (hslash : '/' ∉ name.toList) :
    t.node? path = some .directory := by
  obtain ⟨parent, last, hlocate, -⟩ := h.leads
  obtain ⟨-, hlength, -⟩ := locate_eq_ok_iff.mp hlocate
  obtain ⟨directory, henter, -⟩ := h.exists_directory hne hslash
  have hbegins := PathText.join_begins path name
  have hshorter := PathText.utf8ByteSize_le_of_begins hbegins
  exact node?_eq_directory_iff.mpr ⟨hempty, fun hmem => h.noNul (hbegins.subset hmem), by omega,
    directory, henter⟩

theorem makeDirectory_of_node? (h : t.node? path = some .directory) :
    t.makeDirectory path = .error (.refused .alreadyThere path) := by
  obtain ⟨-, hnul, -, -⟩ := node?_eq_directory_iff.mp h
  unfold node? at h
  rw [if_neg hnul] at h
  unfold makeDirectory
  rw [if_neg hnul]
  rcases hlocate : t.locate path with e | (p | ⟨parent, name, slash⟩)
  · rw [hlocate] at h
    cases h
  · rfl
  · rw [hlocate] at h
    cases hfind : t.find? (parent ++ [name]) with
    | none =>
        simp only [hfind] at h
        cases h
    | some n => simp only [hfind]

theorem ensureDirectory_of_node? (h : t.node? path = some .directory) :
    t.ensureDirectory path = (t, none) := by
  have hdirectory : t.isDirectory path = true := by
    unfold isDirectory
    rw [h]
    rfl
  unfold ensureDirectory
  simp only [makeDirectory_of_node? h, hdirectory, if_true]

/-- The empty path is none of a directory. -/
theorem ne_empty_of_makeDirectories (h : t.makeDirectories path = (t', none)) : path ≠ "" := by
  rintro rfl
  have hnone : t.makeDirectories "" = (t, some (.refused .notFound "")) := by
    rw [makeDirectories]
    rfl
  rw [hnone] at h
  cases h

/-- To make a directory that is there changes nothing. -/
theorem makeDirectories_of_node? (h : t.node? path = some .directory) :
    t.makeDirectories path = (t, none) := by
  rw [makeDirectories]
  by_cases hshorter : (PathText.parentAndName path).1.length < path.length
  · rw [dif_pos hshorter]
    have hway : ¬((PathText.parentAndName path).1 ≠ "" ∧ (PathText.parentAndName path).2 ≠ "" ∧
        t.isThere (PathText.parentAndName path).1 = false) := by
      rintro ⟨hempty, -, hthere⟩
      unfold isThere at hthere
      rw [node?_of_begins h hempty (PathText.parentAndName_begins path)
        (PathText.names_parentAndName_begins path)] at hthere
      cases hthere
    rw [if_neg hway]
    exact ensureDirectory_of_node? h
  · rw [dif_neg hshorter]
    exact ensureDirectory_of_node? h

end FileTree

end PascalScan

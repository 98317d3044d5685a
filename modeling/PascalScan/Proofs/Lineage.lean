import PascalScan.Logging.Registry
import Mathlib

/-!
# The loggers above a logger

Above a logger stand the loggers from whose names its own name goes on with a dot. There are two
exceptions: one at two dots in a row, and one for names with which the root's name begins. This file
says what they are, in terms of nothing but the names and the order in which they came.

Shape of the argument: `dotted` lists the names that may stand above a logger, and `passedOver` says
which of them do not although they are there. The registry looks for dots from the end of the name.
`Search` says what it has found and left behind, and `between_eq` follows it to the end.
-/

namespace PascalScan.Logging

/-- The beginnings of a name that end before a dot, longest first. The name is given in reverse. -/
def beginnings : List Char → List String
  | '.' :: c :: rest => String.ofList (c :: rest).reverse :: beginnings (c :: rest)
  | _ :: rest => beginnings rest
  | [] => []

/-- The names from which a name goes on with a dot, longest first. -/
def dotted (name : String) : List String := beginnings name.toList.reverse

/-- Whether a beginning of a name is out of sight, when a dot and then the given text follow it. It
takes a second dot: the beginning with one dot more is tried before, and if nobody named it, both
dots are left behind. -/
def hidden (named : List String) (upper : List Char) : List Char → Bool
  | '.' :: rest =>
      !named.contains (String.ofList (upper ++ ['.'])) && !hidden named (upper ++ ['.']) rest
  | _ => false

/-- Whether a beginning of a name is out of sight for the search from the end of the name. -/
def outOfSight (named : List String) (name upper : String) : Bool :=
  hidden named upper.toList (name.toList.drop (upper.toList.length + 1))

/-- Whether a beginning of a name is there and in sight. The root is not looked for. -/
def visible (named : List String) (name upper : String) : Bool :=
  upper != root && named.contains upper && !outOfSight named name upper

/-- The logger next below the first part of a name. -/
def belowFirst (named : List String) (name : String) : String :=
  ((dotted name).dropLast.filter (visible named name)).getLastD name

/-- Whether a beginning of a name does not stand above it, even if it is there. Either it is out of
sight, or it is also the beginning of the root's name and came after the logger below it. -/
def passedOver (named : List String) (name upper : String) : Bool :=
  outOfSight named name upper ||
    (["r", "ro", "roo"].contains upper &&
      !(named.takeWhile (· != belowFirst named name)).contains upper)

/-- Whether a beginning of a name is a logger above it. -/
def stands (named : List String) (name upper : String) : Bool :=
  upper != root && named.contains upper && !passedOver named name upper

/-- The loggers between a name and the root, nearest first. -/
def above (named : List String) (name : String) : List String :=
  (dotted name).filter (stands named name)

/-! ## Beginnings of a name -/

theorem beginnings_cons_of_ne {c : Char} (h : c ≠ '.') (rest : List Char) :
    beginnings (c :: rest) = beginnings rest := by
  rw [beginnings]
  rintro d tail rfl
  exact absurd rfl h

theorem beginnings_dot {rest : List Char} (h : rest ≠ []) :
    beginnings ('.' :: rest) = String.ofList rest.reverse :: beginnings rest := by
  cases rest with
  | nil => exact absurd rfl h
  | cons c rest => rw [beginnings]

theorem beginnings_eq_nil {s : List Char} (h : '.' ∉ s) : beginnings s = [] := by
  induction s with
  | nil => rfl
  | cons c s ih =>
      have hc : c ≠ '.' := fun hdot => h (hdot ▸ List.mem_cons_self)
      rw [beginnings_cons_of_ne hc, ih fun hs => h (List.mem_cons_of_mem c hs)]

theorem mem_beginnings_iff (s : List Char) (upper : String) :
    upper ∈ beginnings s ↔ upper ≠ "" ∧ '.' :: upper.toList.reverse <:+ s := by
  induction s with
  | nil => simp [beginnings]
  | cons c s ih =>
      rw [List.suffix_cons_iff, and_or_left, ← ih]
      by_cases hdot : c = '.'
      · subst hdot
        have hhead : '.' :: upper.toList.reverse = '.' :: s ↔
            upper = String.ofList s.reverse := by
          rw [List.cons_inj_right, List.reverse_eq_iff, ← String.toList_inj, String.toList_ofList]
        rw [hhead]
        by_cases hs : s = []
        · subst hs
          show upper ∈ [] ↔ upper ≠ "" ∧ upper = "" ∨ upper ∈ []
          simp
        · have hne : upper = String.ofList s.reverse → upper ≠ "" := by
            rintro rfl
            rw [Ne, ← String.toList_inj, String.toList_ofList]
            simpa using hs
          rw [beginnings_dot hs, List.mem_cons, and_iff_right_of_imp hne]
      · have hhead : ¬('.' :: upper.toList.reverse = c :: s) := fun heq =>
          hdot (List.cons_eq_cons.mp heq).1.symm
        rw [beginnings_cons_of_ne hdot, iff_false_intro hhead, and_false, false_or]

/-- What is listed for a name: what it goes on from with a dot, unless that is empty. -/
theorem mem_dotted_iff (name upper : String) :
    upper ∈ dotted name ↔ upper ≠ "" ∧ upper.toList ++ ['.'] <+: name.toList := by
  rw [dotted, mem_beginnings_iff, ← List.reverse_suffix, List.reverse_append,
    List.reverse_singleton, List.singleton_append]

theorem outOfSight_eq (named : List String) {name upper : String} {after : List Char}
    (h : name.toList = upper.toList ++ '.' :: after) :
    outOfSight named name upper = hidden named upper.toList after := by
  rw [outOfSight, h, ← List.drop_drop, List.drop_left]
  rfl

theorem visible_of_stands {named : List String} {name upper : String}
    (h : stands named name upper = true) : visible named name upper = true := by
  rw [stands, Bool.and_eq_true, Bool.not_eq_true', passedOver, Bool.or_eq_false_iff] at h
  obtain ⟨hthere, hsight, -⟩ := h
  rw [visible, hthere, hsight]
  rfl

/-- Where only one dot follows, nothing is passed over but a beginning of the root's name. -/
theorem passedOver_eq_false (named : List String) {name upper : String}
    (h : upper ∈ dotted name) (hdots : ¬upper.toList ++ ['.', '.'] <+: name.toList)
    (hfirst : upper ∉ ["r", "ro", "roo"]) :
    passedOver named name upper = false := by
  obtain ⟨-, rest, hrest⟩ := (mem_dotted_iff name upper).mp h
  rw [List.append_assoc, List.singleton_append] at hrest
  have hsight : hidden named upper.toList rest = false := by
    rw [hidden]
    rintro tail rfl
    exact hdots ⟨tail, by rw [← hrest, List.append_assoc]; rfl⟩
  have hnone : ["r", "ro", "roo"].contains upper = false := by
    rw [Bool.eq_false_iff, Ne, List.contains_iff_mem]
    exact hfirst
  rw [passedOver, outOfSight_eq named hrest.symm, hsight, hnone]
  rfl

/-! ## Names in the order in which they came -/

/-- The loggers that are there are those that were named, the newest first. -/
structure Registry.Named (r : Registry) (named : List String) : Prop where
  mem_iff : ∀ name, name ∈ r.names ↔ name ∈ named
  before_iff : ∀ lower ∈ named, ∀ upper, upper ≠ lower →
    (upper ∈ r.names.dropWhile (· != lower) ↔ upper ∈ named.takeWhile (· != lower))

theorem takeWhile_append_of_mem {named : List String} {lower : String} (h : lower ∈ named)
    (more : List String) :
    (named ++ more).takeWhile (· != lower) = named.takeWhile (· != lower) := by
  rw [List.takeWhile_append, if_neg]
  intro hall
  have := List.takeWhile_eq_self_iff.mp ((List.takeWhile_prefix _).eq_of_length hall) lower h
  simp at this

namespace Registry

theorem names_touch (r : Registry) (name : String) :
    (r.touch name).names =
      if r.names.contains (canonical name) then r.names else canonical name :: r.names := by
  rw [touch]
  split <;> rfl

/-- Naming a logger lets those that are there keep their order. -/
theorem Named.touch {r : Registry} {named : List String} (h : r.Named named) (name : String) :
    (r.touch name).Named (named ++ [canonical name]) := by
  by_cases hthere : canonical name ∈ named
  · have hnames : (r.touch name).names = r.names := by
      rw [names_touch, if_pos (List.contains_iff_mem.mpr ((h.mem_iff _).mpr hthere))]
    constructor
    · intro other
      rw [hnames, h.mem_iff, List.mem_append, List.mem_singleton]
      exact ⟨.inl, fun hother => hother.elim id fun heq => heq ▸ hthere⟩
    · intro lower hlower upper hne
      have hlower' : lower ∈ named := by
        rcases List.mem_append.mp hlower with hlower | hlower
        · exact hlower
        · exact List.mem_singleton.mp hlower ▸ hthere
      rw [hnames, takeWhile_append_of_mem hlower', h.before_iff lower hlower' upper hne]
  · have hnames : (r.touch name).names = canonical name :: r.names := by
      rw [names_touch, if_neg]
      rw [List.contains_iff_mem, h.mem_iff]
      exact hthere
    constructor
    · intro other
      rw [hnames, List.mem_cons, h.mem_iff, List.mem_append, List.mem_singleton, or_comm]
    · intro lower hlower upper hne
      rw [hnames]
      by_cases heq : lower = canonical name
      · -- the newest logger: all others came before it
        have hall : named.takeWhile (· != lower) = named := by
          rw [List.takeWhile_eq_self_iff]
          intro other hother
          rw [bne_iff_ne]
          rintro rfl
          exact hthere (heq ▸ hother)
        have hthis : (canonical name != lower) = false := by
          rw [heq, bne_self_eq_false]
        rw [List.takeWhile_append_of_pos (List.takeWhile_eq_self_iff.mp hall),
          List.dropWhile_cons_of_neg (by simp [hthis]),
          List.takeWhile_cons_of_neg (by simp [hthis]), List.append_nil, List.mem_cons, h.mem_iff,
          or_iff_right (heq ▸ hne)]
      · have hlower' : lower ∈ named := by
          rcases List.mem_append.mp hlower with hlower | hlower
          · exact hlower
          · exact absurd (List.mem_singleton.mp hlower) heq
        rw [takeWhile_append_of_mem hlower', ← h.before_iff lower hlower' upper hne,
          List.dropWhile_cons_of_pos]
        rw [bne_iff_ne]
        exact fun hc => heq hc.symm

/-- The beginnings of the root's name, short of the whole. -/
theorem isPrefixOf_root_eq {upper : String} (hempty : upper ≠ "") (hroot : upper ≠ root) :
    upper.toList.isPrefixOf root.toList = ["r", "ro", "roo"].contains upper := by
  have hinits : root.toList.inits = [[], ['r'], ['r', 'o'], ['r', 'o', 'o'], root.toList] := rfl
  rw [Bool.eq_iff_iff, List.isPrefixOf_iff_prefix, ← List.mem_inits, hinits,
    List.contains_iff_mem]
  simp only [List.mem_cons, List.not_mem_nil, or_false, ← String.toList_inj]
  constructor
  · rintro (h | h | h | h | h)
    · exact absurd (String.toList_inj.mp h) hempty
    · exact .inl h
    · exact .inr (.inl h)
    · exact .inr (.inr h)
    · exact absurd (String.toList_inj.mp h) hroot
  · rintro (h | h | h)
    · exact .inr (.inl h)
    · exact .inr (.inr (.inl h))
    · exact .inr (.inr (.inr (.inl h)))

end Registry

/-! ## The search for the loggers above a name -/

/-- How far the search from the end of a name has come. The last logger that was found is `lower`,
`rest` is in reverse what is still to be looked at, and `after` is the text behind it. -/
structure Search (named : List String) (name lower : String) (rest after : List Char) : Prop where
  text : name.toList = rest.reverse ++ after
  there : lower ∈ named
  nearest : ∃ passed, dotted name = passed ++ beginnings rest ∧
    lower = (passed.filter (visible named name)).getLastD name
  longer : rest.length ≤ lower.toList.length
  sight : ∀ s, rest = '.' :: s → hidden named s.reverse after = false

namespace Search

variable {named : List String} {name lower : String} {rest after : List Char} {c : Char}

theorem start (h : name ∈ named) : Search named name name name.toList.reverse [] where
  text := by rw [List.reverse_reverse, List.append_nil]
  there := h
  nearest := ⟨[], rfl, rfl⟩
  longer := by rw [List.length_reverse]
  sight _ _ := rfl

theorem outOfSight_eq_false (h : Search named name lower ('.' :: rest) after) :
    outOfSight named name (String.ofList rest.reverse) = false := by
  have htext : name.toList = (String.ofList rest.reverse).toList ++ '.' :: after := by
    rw [h.text, String.toList_ofList, List.reverse_cons, List.append_assoc]
    rfl
  rw [outOfSight_eq named htext, String.toList_ofList]
  exact h.sight rest rfl

theorem visible_eq (h : Search named name lower ('.' :: rest) after) :
    visible named name (String.ofList rest.reverse) =
      (String.ofList rest.reverse != root && named.contains (String.ofList rest.reverse)) := by
  rw [visible, h.outOfSight_eq_false, Bool.not_false, Bool.and_true]

theorem ofList_ne_empty (c : Char) (rest : List Char) :
    String.ofList (c :: rest).reverse ≠ "" := by
  rw [Ne, ← String.toList_inj, String.toList_ofList]
  simp

theorem not_mem_of_contains
    (h : ["r", "ro", "roo"].contains (String.ofList rest.reverse) = true) : '.' ∉ rest := by
  rw [List.contains_iff_mem] at h
  simp only [List.mem_cons, List.not_mem_nil, or_false, ← String.toList_inj,
    String.toList_ofList] at h
  rw [← List.mem_reverse]
  rcases h with h | h | h <;> · rw [h]; decide

theorem belowFirst_eq (h : Search named name lower ('.' :: c :: rest) after)
    (hdot : '.' ∉ c :: rest) : belowFirst named name = lower := by
  obtain ⟨passed, hpassed, hlower⟩ := h.nearest
  rw [belowFirst, hpassed, beginnings_dot (List.cons_ne_nil c rest), beginnings_eq_nil hdot,
    List.dropLast_concat, hlower]

/-- The registry's answer for the next beginning of the name. -/
theorem isAbove_eq {r : Registry} (hr : r.Named named)
    (h : Search named name lower ('.' :: c :: rest) after) :
    r.isAbove (String.ofList (c :: rest).reverse) lower =
      stands named name (String.ofList (c :: rest).reverse) := by
  have hne : String.ofList (c :: rest).reverse ≠ lower := by
    intro heq
    have := h.longer
    rw [← heq, String.toList_ofList, List.length_reverse] at this
    simp at this
  have hempty := ofList_ne_empty c rest
  have hsight := h.outOfSight_eq_false
  have hbelow : ["r", "ro", "roo"].contains (String.ofList (c :: rest).reverse) = true →
      belowFirst named name = lower := fun hbegins => h.belowFirst_eq (not_mem_of_contains hbegins)
  generalize String.ofList (c :: rest).reverse = upper at *
  by_cases hroot : upper = root
  · simp [Registry.isAbove, stands, hroot]
  · rw [Registry.isAbove, Registry.isPrefixOf_root_eq hempty hroot, stands, passedOver, hsight,
      Bool.false_or, Bool.and_assoc]
    congr 1
    rw [Bool.eq_iff_iff, Bool.and_eq_true, List.contains_iff_mem]
    by_cases hbegins : ["r", "ro", "roo"].contains upper = true
    · have hnamed : upper ∈ named.takeWhile (· != lower) → upper ∈ named :=
        fun hmem => (List.takeWhile_prefix _).subset hmem
      rw [if_pos hbegins, hr.before_iff lower h.there upper hne, hbegins, hbelow hbegins,
        Bool.true_and, Bool.not_not, List.contains_iff_mem, List.contains_iff_mem,
        and_iff_right_of_imp hnamed]
    · rw [if_neg hbegins, hr.mem_iff, Bool.eq_false_iff.mpr hbegins, Bool.false_and,
        Bool.not_false, and_iff_left rfl, List.contains_iff_mem]

/-- The search goes on from a logger that it has found. -/
theorem found (h : Search named name lower ('.' :: c :: rest) after)
    (hvisible : visible named name (String.ofList (c :: rest).reverse) = true) :
    Search named name (String.ofList (c :: rest).reverse) (c :: rest) ('.' :: after) where
  text := by
    rw [h.text, List.reverse_cons, List.append_assoc, List.singleton_append]
  there := by
    rw [visible, Bool.and_eq_true, Bool.and_eq_true] at hvisible
    exact List.contains_iff_mem.mp hvisible.1.2
  nearest := by
    obtain ⟨passed, hpassed, -⟩ := h.nearest
    refine ⟨passed ++ [String.ofList (c :: rest).reverse], ?_, ?_⟩
    · rw [hpassed, beginnings_dot (List.cons_ne_nil c rest), List.append_assoc,
        List.singleton_append]
    · rw [List.filter_append, List.filter_cons_of_pos hvisible, List.filter_nil,
        List.getLastD_concat]
  longer := by
    rw [String.toList_ofList, List.length_reverse]
  sight := by
    rintro s heq
    obtain ⟨rfl, rfl⟩ := List.cons_eq_cons.mp heq
    rw [h.visible_eq, Bool.and_eq_true, List.reverse_cons] at hvisible
    rw [hidden, hvisible.2]
    rfl

/-- The beginning that is a dot shorter is out of sight behind one that nobody named. -/
theorem hidden_of_dot (h : Search named name lower ('.' :: '.' :: rest) after)
    (hvisible : visible named name (String.ofList ('.' :: rest).reverse) = false) :
    hidden named rest.reverse ('.' :: after) = true := by
  have hroot : String.ofList ('.' :: rest).reverse ≠ root := by
    intro heq
    have hdot : '.' ∈ (String.ofList ('.' :: rest).reverse).toList := by
      rw [String.toList_ofList]
      simp
    rw [heq] at hdot
    exact absurd hdot (by decide)
  rw [h.visible_eq, bne_iff_ne.mpr hroot, Bool.true_and, List.reverse_cons] at hvisible
  have hsight := h.sight _ rfl
  rw [List.reverse_cons] at hsight
  rw [hidden, hvisible, hsight]
  rfl

/-- What is left behind together with a beginning that was not found. -/
theorem beginnings_skip (h : Search named name lower ('.' :: c :: rest) after)
    (hvisible : visible named name (String.ofList (c :: rest).reverse) = false) :
    ∃ skipped, beginnings ('.' :: c :: rest) = skipped ++ beginnings rest ∧
      ∀ upper ∈ skipped, visible named name upper = false := by
  rw [beginnings_dot (List.cons_ne_nil c rest)]
  by_cases hdots : c = '.' ∧ rest ≠ []
  · obtain ⟨rfl, hrest⟩ := hdots
    refine ⟨[String.ofList ('.' :: rest).reverse, String.ofList rest.reverse], ?_, ?_⟩
    · rw [beginnings_dot hrest]
      rfl
    · have htext : name.toList = (String.ofList rest.reverse).toList ++ '.' :: '.' :: after := by
        rw [h.text, String.toList_ofList]
        simp
      have hshorter : visible named name (String.ofList rest.reverse) = false := by
        rw [visible, outOfSight_eq named htext, String.toList_ofList, h.hidden_of_dot hvisible,
          Bool.not_true, Bool.and_false]
      rintro upper hupper
      rcases List.mem_cons.mp hupper with rfl | hupper
      · exact hvisible
      · exact List.mem_singleton.mp hupper ▸ hshorter
  · refine ⟨[String.ofList (c :: rest).reverse], ?_, ?_⟩
    · rw [beginnings]
      · rfl
      · rintro d tail rfl rfl
        exact hdots ⟨rfl, List.cons_ne_nil d tail⟩
    · rintro upper hupper
      exact List.mem_singleton.mp hupper ▸ hvisible

/-- The search goes on from what it has not found. -/
theorem skip (h : Search named name lower ('.' :: c :: rest) after)
    (hvisible : visible named name (String.ofList (c :: rest).reverse) = false) :
    Search named name lower rest (c :: '.' :: after) where
  text := by
    rw [h.text]
    simp
  there := h.there
  nearest := by
    obtain ⟨passed, hpassed, hlower⟩ := h.nearest
    obtain ⟨skipped, hskipped, hnone⟩ := h.beginnings_skip hvisible
    refine ⟨passed ++ skipped, ?_, ?_⟩
    · rw [hpassed, hskipped, List.append_assoc]
    · have hskip : skipped.filter (visible named name) = [] := by
        rw [List.filter_eq_nil_iff]
        intro upper hupper
        rw [hnone upper hupper]
        exact Bool.false_ne_true
      rw [List.filter_append, hskip, List.append_nil, hlower]
  longer := by
    have := h.longer
    simp only [List.length_cons] at this
    omega
  sight := by
    rintro s rfl
    by_cases hc : c = '.'
    · subst hc
      have hlonger := h.hidden_of_dot hvisible
      rw [List.reverse_cons] at hlonger
      rw [hidden, hlonger, Bool.not_true, Bool.and_false]
    · rw [hidden]
      rintro tail heq
      exact hc (List.cons_eq_cons.mp heq).1

/-- Any other character is looked at and left behind. -/
theorem other (h : Search named name lower (c :: rest) after)
    (hother : ∀ d s, ¬(c = '.' ∧ rest = d :: s)) : Search named name lower rest (c :: after) where
  text := by
    rw [h.text]
    simp
  there := h.there
  nearest := by
    obtain ⟨passed, hpassed, hlower⟩ := h.nearest
    rw [beginnings] at hpassed
    · exact ⟨passed, hpassed, hlower⟩
    · rintro d s rfl rfl
      exact hother d s ⟨rfl, rfl⟩
  longer := by
    have := h.longer
    simp only [List.length_cons] at this
    omega
  sight := by
    rintro s rfl
    rw [hidden]
    rintro tail heq
    exact hother '.' s ⟨(List.cons_eq_cons.mp heq).1, rfl⟩

/-- What is in sight and not found came too late. That happens to beginnings of the root's name,
which have no dot. -/
theorem not_mem_of_visible {r : Registry} (hr : r.Named named)
    (h : Search named name lower ('.' :: c :: rest) after)
    (habove : r.isAbove (String.ofList (c :: rest).reverse) lower = false)
    (hvisible : visible named name (String.ofList (c :: rest).reverse) = true) :
    '.' ∉ c :: rest := by
  rw [h.visible_eq] at hvisible
  rw [h.isAbove_eq hr, stands, hvisible, Bool.true_and, passedOver, h.outOfSight_eq_false, Bool.false_or,
    Bool.not_eq_false', Bool.and_eq_true] at habove
  exact not_mem_of_contains habove.1

theorem between_eq_nil (r : Registry) (lower : String) {rest : List Char} (h : '.' ∉ rest) :
    r.between lower rest = [] := by
  induction rest with
  | nil => rfl
  | cons c rest ih =>
      rw [Registry.between, ih fun hrest => h (List.mem_cons_of_mem c hrest)]
      rintro d tail rfl
      exact absurd List.mem_cons_self h

/-- From every place that it comes to, the search finds what stands above the name among what is
still to be looked at. -/
theorem between_eq {r : Registry} (hr : r.Named named)
    (h : Search named name lower rest after) :
    r.between lower rest = (beginnings rest).filter (stands named name) := by
  induction lower, rest using Registry.between.induct r generalizing after
  case case1 lower c rest upper habove ih =>
    rw [Registry.between, if_pos habove, beginnings, List.filter_cons_of_pos,
      ih (h.found (visible_of_stands (h.isAbove_eq hr ▸ habove)))]
    rw [← h.isAbove_eq hr]
    exact habove
  case case2 lower c rest upper habove ih =>
    rw [Registry.between, if_neg habove]
    rw [Bool.not_eq_true] at habove
    cases hvisible : visible named name upper with
    | true =>
        -- only the order is against it, and there is nothing above it
        have hdot := h.not_mem_of_visible hr habove hvisible
        rw [between_eq_nil r lower fun hmem => hdot (List.mem_cons_of_mem c hmem), beginnings,
          beginnings_eq_nil hdot, List.filter_cons_of_neg, List.filter_nil]
        rw [← h.isAbove_eq hr, habove]
        exact Bool.false_ne_true
    | false =>
        obtain ⟨skipped, hskipped, hnone⟩ := h.beginnings_skip hvisible
        rw [hskipped, List.filter_append, List.filter_eq_nil_iff.mpr, List.nil_append,
          ih (h.skip hvisible)]
        intro upper hupper hstands
        exact Bool.false_ne_true ((hnone upper hupper).symm.trans (visible_of_stands hstands))
  case case3 lower c rest hother ih =>
    have hother' : ∀ d s, ¬(c = '.' ∧ rest = d :: s) := by
      rintro d s ⟨rfl, rfl⟩
      exact hother d s rfl rfl
    rw [Registry.between, beginnings, ih (h.other hother')]
    all_goals exact hother
  case case4 lower => rfl

end Search

/-- **The loggers above a logger.** They are the dotted beginnings of its name that were named,
longest first and without those that are passed over, and then the root. -/
theorem Registry.lineage_eq {r : Registry} {named : List String} {name : String}
    (hr : r.Named named) (h : canonical name ∈ named) :
    r.lineage name =
      if canonical name = root then [root] else name :: above named name ++ [root] := by
  rw [lineage]
  split
  · rfl
  · rename_i hroot
    have hname : name ∈ named := by
      rw [canonical] at h hroot
      split at h
      · rename_i hempty
        exact absurd (if_pos hempty) hroot
      · exact h
    rw [(Search.start hname).between_eq hr]
    rfl

end PascalScan.Logging

import PascalScan.Proofs.Lineage

/-!
# Runs of the logging

What holds of the loggers after any steps, and what an entry prints then. Both are said in terms of
the steps alone: which calls there were for a logger, at which levels, and which names were used.

Shape of the argument: `Follows` is what the steps so far say of a session. Every step keeps it
(`Follows.step`), so it holds after every run (`follows_after`), and an entry is printed on the
registry that it describes.
-/

namespace PascalScan.Logging

/-! ## What the steps say -/

/-- The level in force after some steps, by its name. -/
def inForce (setting : String) : List Step → String
  | [] => setting
  | .setting level :: steps => inForce level steps
  | .acquire _ :: steps => inForce setting steps
  | .emit _ :: steps => inForce setting steps

/-- The level of a name, in any case of its letters. -/
def levelOf? (setting : String) : Option Level :=
  Level.ofName? (String.ofList (Text.upper setting.toList))

/-- The calls that set a logger up, each as the level in force and the logger. -/
def calls (setting : String) : List Step → List (String × String)
  | [] => []
  | .setting level :: steps => calls level steps
  | .acquire name? :: steps => (setting, canonical (name?.getD defaultName)) :: calls setting steps
  | .emit _ :: steps => calls setting steps

/-- The levels of the calls for a logger, without the calls at a level that does not exist. -/
def granted (steps : List Step) (name : String) : List Level :=
  ((calls defaultSetting steps).filter (·.2 == canonical name)).filterMap (levelOf? ·.1)

/-- What holds of a logger after some steps. -/
def held (steps : List Step) (name : String) : Logger :=
  match (granted steps name).head? with
  | some level => ⟨level, 1⟩
  | none => if canonical name = root then ⟨.warning, 0⟩ else .blank

/-- The logger that a step names. -/
def Step.named? : Step → Option String
  | .setting _ => none
  | .acquire name? => some (canonical (name?.getD defaultName))
  | .emit e => some (canonical e.logger)

/-- The names that were used, in order. The root is there without being named. -/
def namedIn (steps : List Step) : List String := root :: steps.filterMap Step.named?

/-- A logger and those above it, nearest first. -/
def chain (steps : List Step) (name : String) : List String :=
  if canonical name = root then [root] else name :: above (namedIn steps) name ++ [root]

/-- What an entry prints after some steps, if these loggers are asked, one after another. -/
def output (loggers : List String) (steps : List Step) (time : String) (e : Entry) : String :=
  let levels := loggers.map fun name => (held steps name).level
  let setUp := loggers.filter fun name => !(granted steps name).isEmpty
  if 0 < e.level ∧ (levels.find? (· ≠ 0)).getD 0 ≤ e.level then
    String.join (setUp.map fun _ => { e with logger := canonical e.logger }.line time)
  else ""

/-- A logger after a call for it, at a level that may not exist. -/
def Logger.called (l : Logger) (level? : Option Level) : Logger :=
  if l.handlers = 0 then level?.elim l (⟨·, 1⟩) else l

theorem calls_append (setting : String) (steps more : List Step) :
    calls setting (steps ++ more) =
      calls setting steps ++ calls (inForce setting steps) more := by
  induction steps generalizing setting with
  | nil => rfl
  | cons s steps ih =>
      cases s with
      | setting level => exact ih level
      | acquire name? => exact congrArg (_ :: ·) (ih setting)
      | emit e => exact ih setting

theorem inForce_append (setting : String) (steps more : List Step) :
    inForce setting (steps ++ more) = inForce (inForce setting steps) more := by
  induction steps generalizing setting with
  | nil => rfl
  | cons s steps ih =>
      cases s with
      | setting level => exact ih level
      | acquire name? => exact ih setting
      | emit e => exact ih setting

theorem namedIn_concat (steps : List Step) (s : Step) :
    namedIn (steps ++ [s]) = namedIn steps ++ s.named?.toList := by
  rw [namedIn, namedIn, List.filterMap_append, List.cons_append]
  cases s <;> rfl

/-- Later calls only add levels at the end. -/
theorem granted_append (steps more : List Step) (name : String) :
    granted steps name <+: granted (steps ++ more) name := by
  rw [granted, granted, calls_append, List.filter_append, List.filterMap_append]
  exact List.prefix_append _ _

theorem granted_setting (steps : List Step) (level name : String) :
    granted (steps ++ [Step.setting level]) name = granted steps name := by
  rw [granted, calls_append]
  exact congrArg _ (congrArg _ (List.append_nil _))

theorem granted_emit (steps : List Step) (e : Entry) (name : String) :
    granted (steps ++ [Step.emit e]) name = granted steps name := by
  rw [granted, calls_append]
  exact congrArg _ (congrArg _ (List.append_nil _))

theorem granted_acquire (steps : List Step) (name? : Option String) (other : String) :
    granted (steps ++ [Step.acquire name?]) other =
      granted steps other ++
        if canonical other = canonical (name?.getD defaultName) then
          (levelOf? (inForce defaultSetting steps)).toList
        else [] := by
  rw [granted, calls_append, List.filter_append, List.filterMap_append]
  congr 1
  show List.filterMap (levelOf? ·.1) (List.filter (·.2 == canonical other)
    [(inForce defaultSetting steps, canonical (name?.getD defaultName))]) = _
  by_cases hsame : canonical other = canonical (name?.getD defaultName)
  · rw [if_pos hsame, List.filter_cons_of_pos (by simp [hsame]), List.filter_nil,
      List.filterMap_cons]
    cases levelOf? (inForce defaultSetting steps) <;> rfl
  · rw [if_neg hsame, List.filter_cons_of_neg]
    · rfl
    · rw [beq_iff_eq]
      exact fun heq => hsame heq.symm

theorem held_of_head? {steps : List Step} {name : String} {level : Level}
    (h : (granted steps name).head? = some level) : held steps name = ⟨level, 1⟩ := by
  rw [held, h]

theorem held_of_nil {steps : List Step} {name : String} (h : granted steps name = []) :
    held steps name = if canonical name = root then ⟨.warning, 0⟩ else .blank := by
  rw [held, h]
  rfl

theorem handlers_held (steps : List Step) (name : String) :
    (held steps name).handlers = if granted steps name = [] then 0 else 1 := by
  cases h : granted steps name with
  | nil =>
      rw [held_of_nil h, if_pos rfl]
      split <;> rfl
  | cons level more => rw [held_of_head? (by rw [h]; rfl), if_neg (List.cons_ne_nil level more)]

theorem handlers_held_eq_zero_iff (steps : List Step) (name : String) :
    (held steps name).handlers = 0 ↔ granted steps name = [] := by
  rw [handlers_held]
  split <;> simp [*]

/-- What a logger was set up with first stays. -/
theorem held_append {steps : List Step} {name : String} (h : granted steps name ≠ [])
    (more : List Step) : held (steps ++ more) name = held steps name := by
  obtain ⟨added, hadded⟩ := granted_append steps more name
  obtain ⟨level, rest, hgranted⟩ := List.exists_cons_of_ne_nil h
  have hfirst : (granted steps name).head? = some level := by
    rw [hgranted]
    rfl
  have hlater : (granted (steps ++ more) name).head? = some level := by
    rw [← hadded, hgranted]
    rfl
  rw [held_of_head? hlater, held_of_head? hfirst]

/-- A call sets a logger up if its level is known and no earlier call has done so. -/
theorem held_acquire (steps : List Step) (name? : Option String) (other : String) :
    held (steps ++ [Step.acquire name?]) other =
      if canonical other = canonical (name?.getD defaultName) then
        (held steps other).called (levelOf? (inForce defaultSetting steps))
      else held steps other := by
  have hcall := granted_acquire steps name? other
  by_cases hgranted : granted steps other = []
  · rw [hgranted, List.nil_append] at hcall
    rw [Logger.called, if_pos ((handlers_held_eq_zero_iff steps other).mpr hgranted)]
    split at hcall
    · rename_i hsame
      rw [if_pos hsame]
      cases hlevel : levelOf? (inForce defaultSetting steps) with
      | some level =>
          rw [hlevel] at hcall
          exact held_of_head? (by rw [hcall]; rfl)
      | none =>
          rw [hlevel] at hcall
          rw [held_of_nil hcall, ← held_of_nil hgranted]
          rfl
    · rename_i hother
      rw [if_neg hother, held_of_nil hcall, held_of_nil hgranted]
  · have hbusy := mt (handlers_held_eq_zero_iff steps other).mp hgranted
    rw [held_append hgranted, Logger.called, if_neg hbusy, ite_self]

/-! ## What one step does to the registry -/

namespace Registry

theorem lookup_eq_none (r : Registry) {name : String} (h : name ∉ r.names) :
    r.loggers.lookup name = none := by
  rw [List.lookup_eq_none_iff]
  rintro entry hentry
  rw [bne_iff_ne]
  rintro rfl
  exact h (List.mem_map_of_mem hentry)

theorem find_touch (r : Registry) (name other : String) :
    (r.touch name).find other = r.find other := by
  rw [touch]
  split
  · rfl
  · rename_i hnew
    rw [find, find, List.lookup_cons]
    split
    · rename_i hsame
      rw [beq_iff_eq] at hsame
      rw [lookup_eq_none r (hsame ▸ fun hmem => hnew (List.contains_iff_mem.mpr hmem))]
      rfl
    · rfl

theorem names_put (r : Registry) (name : String) (l : Logger) :
    (r.put name l).names = (r.touch name).names := by
  rw [put, names, names, List.map_map]
  refine List.map_congr_left fun entry _ => ?_
  rw [Function.comp_apply]
  split <;> rfl

theorem lookup_map_ite (entries : List (String × Logger)) (name other : String) (l : Logger) :
    (entries.map fun entry => if entry.1 = name then (entry.1, l) else entry).lookup other =
      if other = name then (entries.lookup other).map fun _ => l else entries.lookup other := by
  induction entries with
  | nil => split <;> rfl
  | cons entry entries ih =>
      obtain ⟨key, old⟩ := entry
      by_cases hkey : other = key
      · subst hkey
        by_cases hname : other = name <;> simp [hname]
      · have hlookup : ∀ (l : Logger) (more : List (String × Logger)),
            ((key, l) :: more).lookup other = more.lookup other := by
          intro l more
          rw [List.lookup_cons, beq_eq_false_iff_ne.mpr hkey]
        rw [List.map_cons, hlookup, ← ih]
        split
        · exact hlookup l _
        · exact hlookup old _

theorem find_put (r : Registry) (name other : String) (l : Logger) :
    (r.put name l).find other = if canonical other = canonical name then l else r.find other := by
  rw [find, put, lookup_map_ite]
  split
  · rename_i hsame
    have hthere : canonical other ∈ (r.touch name).names := by
      rw [names_touch, hsame]
      split
      · rename_i hold
        exact List.contains_iff_mem.mp hold
      · exact List.mem_cons_self
    obtain ⟨entry, hentry, hname⟩ := List.mem_map.mp hthere
    have hsome : ((r.touch name).loggers.lookup (canonical other)).isSome = true :=
      List.lookup_isSome_iff.mpr ⟨entry, hentry, beq_iff_eq.mpr hname.symm⟩
    obtain ⟨old, hold⟩ := Option.isSome_iff_exists.mp hsome
    rw [hold]
    rfl
  · exact find_touch r name other

theorem Named.put {r : Registry} {named : List String} {name : String} (h : r.Named named)
    (hname : canonical name ∈ named) (l : Logger) : (r.put name l).Named named := by
  have hnames : (r.put name l).names = r.names := by
    rw [names_put, names_touch, if_pos]
    exact List.contains_iff_mem.mpr ((h.mem_iff _).mpr hname)
  constructor
  · rw [hnames]
    exact h.mem_iff
  · rw [hnames]
    exact h.before_iff

/-- A call for a logger finds it with a handler, or sets it up, or fails. -/
theorem acquire_cases (r : Registry) (setting name : String) :
    ((r.find name).handlers ≠ 0 ∧ r.acquire setting name = .ok r) ∨
    ((r.find name).handlers = 0 ∧ ∃ level, levelOf? setting = some level ∧
      r.acquire setting name = .ok (r.put name ⟨level, 1⟩)) ∨
    ((r.find name).handlers = 0 ∧ levelOf? setting = none ∧
      r.acquire setting name = .error ⟨String.ofList (Text.upper setting.toList)⟩) := by
  by_cases h : (r.find name).handlers = 0
  · have hacquire : r.acquire setting name = match levelOf? setting with
        | some level => .ok (r.put name ⟨level, 1⟩)
        | none => .error ⟨String.ofList (Text.upper setting.toList)⟩ :=
      if_neg (not_not.mpr h)
    cases hlevel : levelOf? setting with
    | some level =>
        rw [hlevel] at hacquire
        exact .inr (.inl ⟨h, level, rfl, hacquire⟩)
    | none =>
        rw [hlevel] at hacquire
        exact .inr (.inr ⟨h, rfl, hacquire⟩)
  · exact .inl ⟨h, if_pos h⟩

/-- What a call makes of every logger; the registry is left alone by a call that fails. -/
theorem find_acquire (r : Registry) (setting name other : String) :
    ((r.acquire setting name).toOption.getD r).find other =
      if canonical other = canonical name then (r.find other).called (levelOf? setting)
      else r.find other := by
  have hsame : canonical other = canonical name → r.find other = r.find name := by
    intro hsame
    rw [find, find, hsame]
  rcases r.acquire_cases setting name with ⟨hbusy, hkept⟩ | ⟨hfree, level, hlevel, hput⟩ |
    ⟨hfree, hlevel, hfailed⟩
  · rw [hkept]
    split
    · rename_i heq
      rw [Logger.called, hsame heq, if_neg hbusy]
      exact hsame heq
    · rfl
  · rw [hput]
    refine (find_put r name other _).trans ?_
    split
    · rename_i heq
      rw [Logger.called, hsame heq, if_pos hfree, hlevel]
      rfl
    · rfl
  · rw [hfailed]
    split
    · rename_i heq
      rw [Logger.called, hsame heq, if_pos hfree, hlevel]
      exact hsame heq
    · rfl

theorem Named.acquire {r : Registry} {named : List String} {name : String} (h : r.Named named)
    (hname : canonical name ∈ named) (setting : String) :
    ((r.acquire setting name).toOption.getD r).Named named := by
  rcases r.acquire_cases setting name with ⟨-, hkept⟩ | ⟨-, level, -, hput⟩ | ⟨-, -, hfailed⟩
  · rw [hkept]
    exact h
  · rw [hput]
    exact h.put hname _
  · rw [hfailed]
    exact h

end Registry

/-! ## Runs -/

namespace Session

/-- The session after some steps. -/
def after (s : Session) (time : String) (steps : List Step) : Session :=
  steps.foldl (fun s a => (s.step time a).2) s

theorem run_concat (s : Session) (time : String) (steps : List Step) (a : Step) :
    s.run time (steps ++ [a]) = s.run time steps ++ [((s.after time steps).step time a).1] := by
  induction steps generalizing s with
  | nil => rfl
  | cons b steps ih => exact congrArg ((s.step time b).1 :: ·) (ih _)

/-- A session is as the steps before it say. -/
structure Follows (s : Session) (steps : List Step) : Prop where
  setting : s.setting = inForce defaultSetting steps
  named : s.registry.Named (namedIn steps)
  find : ∀ name, s.registry.find name = held steps name

theorem step_acquire_of_ok {s : Session} (time : String) {name? : Option String} {r : Registry}
    (h : (s.registry.touch (name?.getD defaultName)).acquire s.setting (name?.getD defaultName) =
      .ok r) :
    s.step time (.acquire name?) =
      (.acquired (canonical (name?.getD defaultName)) (r.find (name?.getD defaultName)),
        ⟨s.setting, r⟩) := by
  simp only [step, h]

theorem step_acquire_of_error {s : Session} (time : String) {name? : Option String}
    {e : UnknownLevel}
    (h : (s.registry.touch (name?.getD defaultName)).acquire s.setting (name?.getD defaultName) =
      .error e) :
    s.step time (.acquire name?) =
      (.unknownLevel e, ⟨s.setting, s.registry.touch (name?.getD defaultName)⟩) := by
  simp only [step, h]

theorem step_acquire (s : Session) (time : String) (name? : Option String) :
    let there := s.registry.touch (name?.getD defaultName)
    (s.step time (.acquire name?)).2 =
      ⟨s.setting, (there.acquire s.setting (name?.getD defaultName)).toOption.getD there⟩ := by
  intro there
  cases h : there.acquire s.setting (name?.getD defaultName) with
  | ok r => rw [step_acquire_of_ok time h]; rfl
  | error e => rw [step_acquire_of_error time h]; rfl

/-- Every step keeps the session as the steps say. -/
theorem Follows.step {s : Session} {steps : List Step} (h : s.Follows steps) (time : String)
    (a : Step) : (s.step time a).2.Follows (steps ++ [a]) := by
  cases a with
  | setting level =>
      constructor
      · rw [inForce_append]
        rfl
      · rw [namedIn_concat]
        exact (List.append_nil (namedIn steps)).symm ▸ h.named
      · intro name
        rw [held, granted_setting, ← held]
        exact h.find name
  | acquire name? =>
      rw [step_acquire]
      constructor
      · rw [inForce_append]
        exact h.setting
      · rw [namedIn_concat]
        refine (h.named.touch (name?.getD defaultName)).acquire ?_ s.setting
        exact List.mem_append_right _ List.mem_cons_self
      · intro other
        rw [held_acquire, ← h.find, ← h.setting, Registry.find_acquire, Registry.find_touch]
  | emit e =>
      constructor
      · rw [inForce_append]
        exact h.setting
      · rw [namedIn_concat]
        exact h.named.touch e.logger
      · intro name
        rw [held, granted_emit, ← held, ← h.find name]
        exact Registry.find_touch _ _ _

theorem reach_eq {r : Registry} {steps : List Step} (hfind : ∀ name, r.find name = held steps name)
    (loggers : List String) :
    loggers.foldr (fun name count => (r.find name).handlers + count) 0 =
      (loggers.filter fun name => !(granted steps name).isEmpty).length := by
  induction loggers with
  | nil => rfl
  | cons name loggers ih =>
      rw [List.foldr_cons, ih, hfind, handlers_held, List.filter_cons]
      cases granted steps name with
      | nil => simp
      | cons level more =>
          simp
          omega

/-- An entry of a logger that is there prints what the steps say. -/
theorem Follows.emit {s : Session} {steps : List Step} (h : s.Follows steps) (time : String)
    {e : Entry} (he : canonical e.logger ∈ namedIn steps) :
    s.registry.emit time e = output (chain steps e.logger) steps time e := by
  have hlineage : s.registry.lineage e.logger = chain steps e.logger :=
    Registry.lineage_eq h.named he
  rw [Registry.emit, Registry.effectiveLevel, Registry.reach, hlineage, reach_eq h.find, output,
    List.map_const']
  simp only [h.find]
  rfl

end Session

end PascalScan.Logging

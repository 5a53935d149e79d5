/-
# Steps of a build that end well

What it takes for a step of a build to end with a value.  Each kind of step has one lemma, an
equivalence, so that a step that is put together from others can be taken apart by rewriting.

## Main content

- `Build.Gives` says which value a step gives and which state it leaves.
- `gives_bind` takes two steps in a row apart; `gives_during` looks inside a file that is being
  read.
- `gives_mapM_cons` goes through a list of steps.
-/
import ScriptBundle.Linker

namespace ScriptBundle

namespace Build

variable {α β : Type} {s s' : BuildState}

/-- A step ends well: begun in the state `s`, it gives the value `a` and leaves the state `s'`. -/
def Gives (step : Build α) (s : BuildState) (a : α) (s' : BuildState) : Prop :=
  step.run.run s = (.ok a, s')

/-- A step gives at most one value and leaves one state. -/
theorem Gives.unique {step : Build α} {a b : α} {t : BuildState} (h : Gives step s a s')
    (h' : Gives step s b t) : a = b ∧ s' = t := by
  have heq : ((.ok a, s') : Except BuildError α × BuildState) = (.ok b, t) := h.symm.trans h'
  cases heq
  exact ⟨rfl, rfl⟩

/-- A step whose run is known to end well gives what the run gives. -/
theorem gives_iff_of_run {step : Build α} {a b : α} {t : BuildState}
    (h : step.run.run s = (.ok a, t)) : Gives step s b s' ↔ b = a ∧ s' = t := by
  constructor
  · intro h'
    obtain ⟨rfl, rfl⟩ := Gives.unique h' h
    exact ⟨rfl, rfl⟩
  · rintro ⟨rfl, rfl⟩
    exact h

/-! ## Putting steps together -/

/-- A value by itself changes nothing. -/
theorem gives_pure {a b : α} : Gives (pure a) s b s' ↔ b = a ∧ s' = s := gives_iff_of_run rfl

/-- Of two steps in a row, the second is run from where the first leaves off, unless the first
fails. -/
theorem run_bind (step : Build α) (next : α → Build β) (s : BuildState) :
    (step >>= next).run.run s =
      match step.run.run s with
      | (.ok a, t) => (next a).run.run t
      | (.error e, t) => (.error e, t) := by
  show (ExceptT.bindCont next (step.run.run s).1).run (step.run.run s).2 = _
  rcases step.run.run s with ⟨result, t⟩
  cases result <;> rfl

/-- Two steps in a row end well exactly if the first does, and then the second from where the first
leaves off. -/
theorem gives_bind {step : Build α} {next : α → Build β} {b : β} :
    Gives (step >>= next) s b s' ↔ ∃ a t, Gives step s a t ∧ Gives (next a) t b s' := by
  unfold Gives
  rw [run_bind]
  rcases step.run.run s with ⟨result, t⟩
  cases result with
  | error e =>
    constructor
    · intro h
      cases h
    · rintro ⟨a, u, h, -⟩
      cases h
  | ok a =>
    constructor
    · intro h
      exact ⟨a, t, rfl, h⟩
    · rintro ⟨a', u, h, h'⟩
      cases h
      exact h'

/-- A value computed from that of a step. -/
theorem gives_map {step : Build α} {f : α → β} {b : β} :
    Gives (f <$> step) s b s' ↔ ∃ a, Gives step s a s' ∧ b = f a := by
  rw [map_eq_pure_bind, gives_bind]
  constructor
  · rintro ⟨a, t, h, h'⟩
    obtain ⟨rfl, rfl⟩ := gives_pure.1 h'
    exact ⟨a, h, rfl⟩
  · rintro ⟨a, h, rfl⟩
    exact ⟨a, s', h, gives_pure.2 ⟨rfl, rfl⟩⟩

/-- A step that throws does not end well. -/
theorem not_gives_throw {e : BuildError} {a : α} : ¬ Gives (throw e) s a s' := by
  intro h
  cases h

/-- Looking at the state gives the state. -/
theorem gives_get {t : BuildState} : Gives get s t s' ↔ t = s ∧ s' = s := gives_iff_of_run rfl

/-- A step that does not look at the state leaves it as it was. -/
theorem gives_ofExcept {result : Except BuildError α} {a : α} :
    Gives (ofExcept result) s a s' ↔ result = .ok a ∧ s' = s := by
  constructor
  · intro h
    cases h
    exact ⟨rfl, rfl⟩
  · rintro ⟨rfl, rfl⟩
    rfl

/-! ## What steps do to the state -/

/-- A new module gets the next number. -/
theorem gives_addModule {path : Path} {text : Text} {dependencies : Dependencies}
    {number : ModuleNumber} :
    Gives (addModule path text dependencies) s number s' ↔
      number = s.table.nextNumber ∧
        s' = { s with table := s.table.add path text dependencies } :=
  gives_iff_of_run rfl

/-- Styles are added behind those that are there. -/
theorem gives_addStyles {file : Path} {styles : List Text} {a : Unit} :
    Gives (addStyles file styles) s a s' ↔
      a = () ∧ s' = { s with styles := s.styles ++ Stylesheet.ofComponent file styles } :=
  gives_iff_of_run rfl

/-- The text of a file is read from the files as they are. -/
theorem gives_readText {file : Path} {text : Text} :
    Gives (readText file) s text s' ↔ s.files.readText file = .ok text ∧ s' = s := by
  unfold readText
  rw [gives_bind]
  constructor
  · rintro ⟨u, t, hget, h⟩
    obtain ⟨rfl, rfl⟩ := gives_get.1 hget
    obtain ⟨hread, rfl⟩ := gives_ofExcept.1 h
    refine ⟨?_, rfl⟩
    cases hfile : s'.files.readText file with
    | error fault =>
      rw [hfile] at hread
      cases hread
    | ok found =>
      rw [hfile] at hread
      cases hread
      rfl
  · rintro ⟨hread, rfl⟩
    refine ⟨s', s', gives_get.2 ⟨rfl, rfl⟩, gives_ofExcept.2 ⟨?_, rfl⟩⟩
    rw [hread]
    rfl

/-- A compiler that ends well gives render functions, and its files are the files from then on. -/
theorem gives_compile {compiler : Compiler} {file : Path} {markup : Text}
    {functions : RenderFunctions} :
    Gives (compile compiler file markup) s functions s' ↔
      ((compiler markup).run.run s.files).1 = .ok functions ∧
        s' = { s with files := ((compiler markup).run.run s.files).2 } := by
  have hrun : (compile compiler file markup).run.run s =
      (((compiler markup).run.run s.files).1.mapError fun fault => .template file fault.text,
        { s with files := ((compiler markup).run.run s.files).2 }) := rfl
  unfold Gives
  rw [hrun]
  rcases (compiler markup).run.run s.files with ⟨result, files⟩
  cases result with
  | error fault =>
    constructor
    · intro h
      cases h
    · rintro ⟨h, -⟩
      cases h
  | ok found =>
    constructor
    · intro h
      cases h
      exact ⟨rfl, rfl⟩
    · rintro ⟨h, rfl⟩
      cases h
      rfl

/-- A step that is done while a file is being read is run with the file behind those that are being
read, and the last one of them is taken off again, however the step ends. -/
theorem run_during (path : Path) (step : Build α) (s : BuildState) :
    (during path step).run.run s =
      ((step.run.run { s with inProgress := s.inProgress ++ [path] }).1,
        { (step.run.run { s with inProgress := s.inProgress ++ [path] }).2 with
          inProgress := (step.run.run
            { s with inProgress := s.inProgress ++ [path] }).2.inProgress.dropLast }) := rfl

/-- A step that is done while a file is being read: the file is the innermost one during the step,
and is taken off again behind it. -/
theorem gives_during {path : Path} {step : Build α} {a : α} :
    Gives (during path step) s a s' ↔
      ∃ t, Gives step { s with inProgress := s.inProgress ++ [path] } a t ∧
        s' = { t with inProgress := t.inProgress.dropLast } := by
  unfold Gives
  rw [run_during]
  rcases step.run.run { s with inProgress := s.inProgress ++ [path] } with ⟨result, t⟩
  constructor
  · intro h
    cases h
    exact ⟨t, rfl, rfl⟩
  · rintro ⟨u, h, rfl⟩
    cases h
    rfl

/-! ## Lists of steps -/

/-- No steps give no values. -/
theorem gives_mapM_nil {f : α → Build β} {bs : List β} :
    Gives ([].mapM f) s bs s' ↔ bs = [] ∧ s' = s := by
  rw [List.mapM_nil]
  exact gives_pure

/-- Steps for the elements of a list are taken one after the other. -/
theorem gives_mapM_cons {f : α → Build β} {a : α} {as : List α} {bs : List β} :
    Gives ((a :: as).mapM f) s bs s' ↔
      ∃ b t rest, Gives (f a) s b t ∧ Gives (as.mapM f) t rest s' ∧ bs = b :: rest := by
  rw [List.mapM_cons, gives_bind]
  constructor
  · rintro ⟨b, t, hb, h⟩
    obtain ⟨rest, u, hrest, h⟩ := gives_bind.1 h
    obtain ⟨rfl, rfl⟩ := gives_pure.1 h
    exact ⟨b, t, rest, hb, hrest, rfl⟩
  · rintro ⟨b, t, rest, hb, hrest, rfl⟩
    exact ⟨b, t, hb, gives_bind.2 ⟨rest, s', hrest, gives_pure.2 ⟨rfl, rfl⟩⟩⟩

end Build

end ScriptBundle

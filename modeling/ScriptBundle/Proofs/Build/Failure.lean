/-
# Builds that fail

What it takes for a step of a build to fail, and the causes for which a whole build does.  The
lemmas on single steps are the other half of those in `Step`: a step that is put together from others
fails where the first of them fails.

## Main content

- `Build.Fails` says that a step fails with an error; `fails_bind` and `fails_mapM_cons` find the
  step that does.
- `Linker.Calls` lists the paths that a build tries to reach, new or not.
- `Linker.Stops` lists the causes of failing builds, each with the place at which it comes up.
- `Linker.stops_or_tooDeep`: a build fails for one of these causes, or because files are nested as
  deeply as they may be.
-/
import ScriptBundle.Proofs.Build.Linking

namespace ScriptBundle

namespace Build

variable {α β : Type} {s : BuildState} {e : BuildError}

/-- A step fails: begun in the state `s`, it ends with the error `e`. -/
def Fails (step : Build α) (s : BuildState) (e : BuildError) : Prop :=
  (step.run.run s).1 = .error e

/-- A value by itself does not fail. -/
theorem not_fails_pure {a : α} : ¬ Fails (pure a) s e := nofun

/-- Looking at the state does not fail. -/
theorem not_fails_get : ¬ Fails get s e := nofun

/-- A step that throws fails with what it throws. -/
theorem fails_throw {thrown : BuildError} : Fails (throw thrown : Build α) s e ↔ thrown = e :=
  ⟨Except.error.inj, congrArg _⟩

/-- A step that does not look at the state fails with its error. -/
theorem fails_ofExcept {result : Except BuildError α} :
    Fails (ofExcept result) s e ↔ result = .error e := Iff.rfl

/-- Two steps in a row fail if the first one does, or if it ends well and the second one fails from
there. -/
theorem fails_bind {step : Build α} {next : α → Build β} :
    Fails (step >>= next) s e ↔ Fails step s e ∨ ∃ a t, Gives step s a t ∧ Fails (next a) t e := by
  unfold Fails Gives
  rw [run_bind]
  rcases step.run.run s with ⟨result, t⟩
  cases result with
  | error thrown =>
    refine ⟨fun h => .inl (congrArg _ (Except.error.inj h)), ?_⟩
    rintro (h | ⟨a, u, h, -⟩)
    · exact congrArg _ (Except.error.inj h)
    · cases h
  | ok a =>
    refine ⟨fun h => .inr ⟨a, t, rfl, h⟩, ?_⟩
    rintro (h | ⟨b, u, h, h'⟩)
    · cases h
    · cases h
      exact h'

/-- A value computed from that of a step fails with the step. -/
theorem fails_map {step : Build α} {f : α → β} : Fails (f <$> step) s e ↔ Fails step s e := by
  rw [map_eq_pure_bind, fails_bind]
  refine ⟨?_, .inl⟩
  rintro (h | ⟨a, t, -, h⟩)
  · exact h
  · exact absurd h not_fails_pure

/-- Adding a module does not fail. -/
theorem not_fails_addModule {path : Path} {text : Text} {dependencies : Dependencies} :
    ¬ Fails (addModule path text dependencies) s e := nofun

/-- Adding styles does not fail. -/
theorem not_fails_addStyles {file : Path} {styles : List Text} :
    ¬ Fails (addStyles file styles) s e := nofun

/-- The text of a file is not read if the file cannot be read. -/
theorem fails_readText {file : Path} :
    Fails (readText file) s e ↔
      ∃ fault, s.files.readText file = .error fault ∧ e = .unreadable file fault := by
  have hrun : ((readText file).run.run s).1 =
      (s.files.readText file).mapError (.unreadable file) := rfl
  unfold Fails
  rw [hrun]
  cases s.files.readText file with
  | ok text => simp [Except.mapError]
  | error fault => simp [Except.mapError, eq_comm]

/-- Markup is not compiled if the compiler refuses it. -/
theorem fails_compile {compiler : Compiler} {file : Path} {markup : Text} :
    Fails (compile compiler file markup) s e ↔
      ∃ fault, ((compiler markup).run.run s.files).1 = .error fault ∧
        e = .template file fault.text := by
  have hrun : ((compile compiler file markup).run.run s).1 =
      ((compiler markup).run.run s.files).1.mapError fun fault => .template file fault.text := rfl
  unfold Fails
  rw [hrun]
  cases ((compiler markup).run.run s.files).1 with
  | ok functions => simp [Except.mapError]
  | error fault => simp [Except.mapError, eq_comm]

/-- A step that is done while a file is being read fails as it does by itself. -/
theorem fails_during {path : Path} {step : Build α} :
    Fails (during path step) s e ↔ Fails step { s with inProgress := s.inProgress ++ [path] } e :=
  Iff.rfl

/-- No steps do not fail. -/
theorem not_fails_mapM_nil {f : α → Build β} : ¬ Fails ([].mapM f) s e := by
  rw [List.mapM_nil]
  exact not_fails_pure

/-- Of steps in a row the first one fails, or it ends well and the others fail from there. -/
theorem fails_mapM_cons {f : α → Build β} {a : α} {as : List α} :
    Fails ((a :: as).mapM f) s e ↔
      Fails (f a) s e ∨ ∃ b t, Gives (f a) s b t ∧ Fails (as.mapM f) t e := by
  rw [List.mapM_cons, fails_bind]
  refine or_congr_right (exists_congr fun b => exists_congr fun t => and_congr_right fun _ => ?_)
  rw [fails_bind]
  refine ⟨?_, .inl⟩
  rintro (h | ⟨bs, u, -, h⟩)
  · exact h
  · exact absurd h not_fails_pure

end Build

/-- A text that a file cannot be linked from has a defect. -/
theorem Source.exists_defect {file : Path} {text : Text} {e : BuildError}
    (h : (read file text).source = .error e) : ∃ defect, e = .component file defect := by
  unfold read at h
  split at h
  · cases h
  · simp only [readComponent] at h
    split at h
    · unfold ofComponent at h
      split at h
      · split at h <;> cases h
        exact ⟨_, rfl⟩
      · cases h
    · cases h
      exact ⟨_, rfl⟩
  · cases h

namespace Linker

variable {l : Linker} {files : FileSystem} {root file path : Path} {s : BuildState}
  {e : BuildError}

/-! ## Causes -/

/-- The paths that a build tries to reach, each with the state in which it does: the file at the
root, and the files that calls lead to. -/
inductive Calls (l : Linker) (files : FileSystem) (root : Path) : BuildState → Path → Prop
  | root {path : Path} (hroot : l.lookup.rootFile files root = .ok path) :
    Calls l files root { files } path
  | follow {s : BuildState} {file path : Path} {call : Call} {parts : List Part}
    (hamid : l.Amid files root s file (.follow call :: parts))
    (hdest : l.destination s file call.target = .ok (.file path)) : Calls l files root s path

/-- A new path is entered. -/
theorem Calls.enters (h : l.Calls files root s path) (hnew : s.IsNew path) :
    l.Enters files root s path := by
  cases h with
  | root hroot => exact .root hroot
  | follow hamid hdest => exact hamid.enters hdest hnew

/-- The causes for which a build fails. -/
inductive Stops (l : Linker) (files : FileSystem) (root : Path) : BuildError → Prop
  /-- There is no file at the root. -/
  | noRoot (hroot : l.lookup.file? files root = none) :
    Stops l files root (.unresolved root.text root)
  /-- A call leads to no file. -/
  | unresolved {s : BuildState} {file : Path} {call : Call} {parts : List Part}
    (hamid : l.Amid files root s file (.follow call :: parts))
    (hlibrary : l.lookup.namesLibrary call.target = false)
    (hfile : l.lookup.file? s.files (Lookup.targetPath file call.target) = none) :
    Stops l files root (.unresolved call.target file)
  /-- A call leads to a file that is being read. -/
  | circle {s : BuildState} {file path : Path} {call : Call} {parts : List Part}
    (hamid : l.Amid files root s file (.follow call :: parts))
    (hdest : l.destination s file call.target = .ok (.file path))
    (hnone : s.table.find? path = none) (hprogress : s.inProgress.any (·.same path) = true) :
    Stops l files root (.circular (circle s.inProgress path))
  /-- A file cannot be read. -/
  | unreadable {s : BuildState} {path : Path} {fault : IoFault}
    (henters : l.Enters files root s path) (hread : s.files.readText path = .error fault) :
    Stops l files root (.unreadable path fault)
  /-- A component is defective. -/
  | defective {s : BuildState} {path : Path} {text : Text} {defect : Component.Defect}
    (henters : l.Enters files root s path) (htext : s.files.readText path = .ok text)
    (hsource : (Source.read path text).source = .error (.component path defect)) :
    Stops l files root (.component path defect)
  /-- The template of a component is refused. -/
  | refused {s : BuildState} {path : Path} {text markup : Text} {source : Source}
    {compiler : Compiler} {fault : CompilerFault} (henters : l.Enters files root s path)
    (htext : s.files.readText path = .ok text)
    (hsource : (Source.read path text).source = .ok source)
    (htemplate : source.template = some markup) (hcompiler : l.compiler = some compiler)
    (hrun : ((compiler markup).run.run s.files).1 = .error fault) :
    Stops l files root (.template path fault.text)
  /-- A template in a file of its own cannot be read. -/
  | inlineUnreadable {s : BuildState} {file : Path} {target : Text} {parts : List Part}
    {fault : IoFault} (hamid : l.Amid files root s file (.inline target :: parts))
    (hread : s.files.readText (Lookup.targetPath file target).folded = .error fault) :
    Stops l files root (.unreadable (Lookup.targetPath file target).folded fault)
  /-- A template in a file of its own is refused. -/
  | inlineRefused {s : BuildState} {file : Path} {target markup : Text} {parts : List Part}
    {compiler : Compiler} {fault : CompilerFault}
    (hamid : l.Amid files root s file (.inline target :: parts))
    (htext : s.files.readText (Lookup.targetPath file target).folded = .ok markup)
    (hcompiler : l.compiler = some compiler)
    (hrun : ((compiler markup).run.run s.files).1 = .error fault) :
    Stops l files root (.template (Lookup.targetPath file target).folded fault.text)

/-- Files are read inside each other to a depth: a path is called while so many files are being
read. -/
def Nests (l : Linker) (files : FileSystem) (root : Path) (depth : Nat) : Prop :=
  ∃ s path, l.Calls files root s path ∧ s.inProgress.length = depth

/-! ## Every failure has a cause -/

section Causes

open Build

/-- A target that leads nowhere names no vendor library, and no file stands at its path. -/
theorem of_destination_eq_error {target : Text} (h : l.destination s file target = .error e) :
    l.lookup.namesLibrary target = false ∧
      l.lookup.file? s.files (Lookup.targetPath file target) = none ∧
      e = .unresolved target file := by
  simp only [destination] at h
  split at h
  · cases h
  · unfold Lookup.destination at h
    split at h
    · cases h
    · next hlibrary =>
      split at h
      · cases h
      · next hfile => exact ⟨Bool.eq_false_iff.2 hlibrary, hfile, (Except.error.inj h).symm⟩

/-- A template in a file of its own that is not linked gives a cause. -/
theorem Amid.stops_of_inlineText {target : Text} {parts : List Part}
    (h : l.Amid files root s file (.inline target :: parts))
    (hfails : Fails (l.inlineText file target) s e) : l.Stops files root e := by
  cases hcompiler : l.compiler with
  | none =>
    simp only [inlineText, hcompiler] at hfails
    exact absurd hfails not_fails_pure
  | some compiler =>
    simp only [inlineText, hcompiler] at hfails
    rcases fails_bind.1 hfails with hread | ⟨markup, t, hread, hrest⟩
    · obtain ⟨fault, hfault, rfl⟩ := fails_readText.1 hread
      exact .inlineUnreadable h hfault
    · obtain ⟨htext, rfl⟩ := gives_readText.1 hread
      rcases fails_bind.1 hrest with hcompile | ⟨functions, u, -, hpure⟩
      · obtain ⟨fault, hfault, rfl⟩ := fails_compile.1 hcompile
        exact .inlineRefused h htext hcompiler hfault
      · exact absurd hpure not_fails_pure

/-- Parts that are not linked give a cause, if a path that is called and not reached gives one. -/
theorem Amid.stops_of_mapM {reach : Path → Build ModuleNumber} (cause : BuildError → Prop)
    {depth : Nat} (hcause : ∀ {e}, l.Stops files root e → cause e)
    (hgives : ∀ {path s n s'}, Gives (reach path) s n s' → l.Reaches s path n s')
    (hreach : ∀ {path s e}, l.Calls files root s path → s.inProgress.length = depth →
      Fails (reach path) s e → cause e) {parts : List Part}
    (h : l.Amid files root s file parts) (hdepth : s.inProgress.length = depth)
    (hfails : Fails (parts.mapM (l.linkPart reach file)) s e) : cause e := by
  induction parts generalizing s with
  | nil => exact absurd hfails not_fails_mapM_nil
  | cons part parts ih =>
    rcases fails_mapM_cons.1 hfails with hpart | ⟨link, t, hpart, hrest⟩
    · cases part with
      | copy text => exact absurd hpart not_fails_pure
      | inline target =>
        rcases fails_bind.1 hpart with htext | ⟨text, t, -, hpure⟩
        · exact hcause (h.stops_of_inlineText htext)
        · exact absurd hpure not_fails_pure
      | follow call =>
        rcases fails_bind.1 hpart with hget | ⟨_, t, hget, hlook⟩
        · exact absurd hget not_fails_get
        obtain ⟨rfl, rfl⟩ := gives_get.1 hget
        rcases fails_bind.1 hlook with hdest | ⟨destination, u, hdest, hgo⟩
        · obtain ⟨hlibrary, hfile, rfl⟩ := of_destination_eq_error (fails_ofExcept.1 hdest)
          exact hcause (.unresolved h hlibrary hfile)
        obtain ⟨hdest, rfl⟩ := gives_ofExcept.1 hdest
        cases destination with
        | library target => exact absurd hgo not_fails_pure
        | file path =>
          rcases fails_bind.1 hgo with hpath | ⟨n, t, -, hpure⟩
          · exact hreach (.follow h hdest) hdepth hpath
          · exact absurd hpure not_fails_pure
    · -- the part is linked by the rules, so the build is then amid the parts behind it
      have hlinks : l.Links s file [part] [link] t :=
        links_of_gives hgives (gives_mapM_cons.2 ⟨link, t, [], hpart, gives_mapM_nil.2 ⟨rfl, rfl⟩, rfl⟩)
      exact ih (h.next hlinks) (by rw [hlinks.grows.inProgress, hdepth]) hrest

/-- A file that is entered and not linked gives a cause, if a path that is called and not reached
gives one. -/
theorem Enters.stops_of_linkText {reach : Path → Build ModuleNumber} (cause : BuildError → Prop)
    (hcause : ∀ {e}, l.Stops files root e → cause e)
    (hgives : ∀ {path s n s'}, Gives (reach path) s n s' → l.Reaches s path n s')
    (hreach : ∀ {path t e}, l.Calls files root t path →
      t.inProgress.length = s.inProgress.length + 1 → Fails (reach path) t e → cause e)
    {text : Text} (h : l.Enters files root s path) (htext : s.files.readText path = .ok text)
    (hfails : Fails (l.linkText reach path text) { s with inProgress := s.inProgress ++ [path] } e) :
    cause e := by
  rcases fails_bind.1 hfails with hstyles | ⟨_, t, hstyles, hbehind⟩
  · exact absurd hstyles not_fails_addStyles
  obtain ⟨-, rfl⟩ := gives_addStyles.1 hstyles
  rcases fails_bind.1 hbehind with hread | ⟨source, t, hread, hlink⟩
  · have hsource := fails_ofExcept.1 hread
    obtain ⟨defect, rfl⟩ := Source.exists_defect hsource
    exact hcause (.defective h htext hsource)
  obtain ⟨hsource, rfl⟩ := gives_ofExcept.1 hread
  rcases fails_bind.1 hlink with hfill | ⟨filling, t, hfill, hspans⟩
  · cases htemplate : source.template with
    | none =>
      rw [htemplate] at hfill
      exact absurd hfill not_fails_pure
    | some markup =>
      cases hcompiler : l.compiler with
      | none =>
        simp only [fillSlot, htemplate, hcompiler] at hfill
        rcases fails_bind.1 hfill with hadd | ⟨_, u, -, hpure⟩
        · exact absurd (fails_map.1 hadd) not_fails_addModule
        · exact absurd hpure not_fails_pure
      | some compiler =>
        simp only [fillSlot, htemplate, hcompiler] at hfill
        rcases fails_bind.1 hfill with hcompile | ⟨functions, u, -, hpure⟩
        · obtain ⟨fault, hfault, rfl⟩ := fails_compile.1 hcompile
          exact hcause (.refused h htext hsource htemplate hcompiler hfault)
        · exact absurd hpure not_fails_pure
  obtain ⟨hfills, rfl⟩ := gives_fillSlot hfill
  rcases fails_bind.1 hspans with hparts | ⟨linked, t, -, hpure⟩
  · have hamid : l.Amid files root (l.opened s path text source.template) path
        (l.partsOf (source.spans filling)) := h.amid (.intro ⟨htext, hsource, hfills⟩)
    exact hamid.stops_of_mapM cause hcause hgives hreach (by simp [opened]) hparts
  · exact absurd hpure not_fails_pure

/-- A path that is called and not reached gives a cause, or files are nested too deeply. -/
theorem Calls.stops_or_tooDeep {depth : Nat} (h : l.Calls files root s path)
    (hfails : Fails (l.reachWithin depth path) s e) :
    l.Stops files root e ∨
      e = .tooDeep ∧ l.Nests files root (s.inProgress.length + depth) := by
  -- on the depth that is left: it goes down by one where the files being read go up by one
  induction depth generalizing path s e with
  | zero => exact .inr ⟨(fails_throw.1 hfails).symm, s, path, h, rfl⟩
  | succ depth ih =>
    rcases fails_bind.1 hfails with hget | ⟨_, t, hget, hmatch⟩
    · exact absurd hget not_fails_get
    obtain ⟨rfl, rfl⟩ := gives_get.1 hget
    cases hfind : t.table.find? path with
    | some found =>
      simp only [hfind] at hmatch
      exact absurd hmatch not_fails_pure
    | none =>
      simp only [hfind] at hmatch
      cases hprogress : t.inProgress.any (·.same path) with
      | true =>
        rw [hprogress, if_pos rfl] at hmatch
        rcases fails_bind.1 hmatch with hthrow | ⟨_, _, hthrow, -⟩
        · obtain rfl := fails_throw.1 hthrow
          cases h with
          | root hroot => cases hprogress
          | follow hamid hdest => exact .inl (.circle hamid hdest hfind hprogress)
        · exact absurd hthrow not_gives_throw
      | false =>
        have henters := h.enters ⟨hfind, hprogress⟩
        rw [hprogress, if_neg Bool.false_ne_true] at hmatch
        rcases fails_bind.1 hmatch with hread | ⟨text, u, hread, hrest⟩
        · obtain ⟨fault, hfault, rfl⟩ := fails_readText.1 hread
          exact .inl (.unreadable henters hfault)
        obtain ⟨htext, rfl⟩ := gives_readText.1 hread
        rcases fails_bind.1 hrest with hduring | ⟨_, v, -, hadd⟩
        · rw [Nat.add_comm depth, ← Nat.add_assoc]
          refine henters.stops_of_linkText
            (fun e => l.Stops files root e ∨ e = .tooDeep ∧ l.Nests files root (_ + depth))
            .inl reaches_of_gives ?_ htext (fails_during.1 hduring)
          intro path t e hcalls hlength hfails
          rw [← hlength]
          exact ih hcalls hfails
        · exact absurd hadd not_fails_addModule

end Causes

/-- A build fails for one of the causes, or because files are nested too deeply. -/
theorem stops_or_tooDeep (h : (l.graph files root).1 = .error e) :
    l.Stops files root e ∨ e = .tooDeep ∧ l.Nests files root depthBound := by
  unfold graph at h
  cases hroot : l.lookup.rootFile files root with
  | error thrown =>
    simp only [hroot] at h
    obtain rfl := Except.error.inj h
    unfold Lookup.rootFile at hroot
    split at hroot
    · cases hroot
    · next hfile =>
      obtain rfl := Except.error.inj hroot
      exact .inl (.noRoot hfile)
  | ok path =>
    simp only [hroot] at h
    have hfails : Build.Fails (l.reach path) { files } e := by
      unfold Build.Fails
      rcases hrun : (l.reach path).run.run { files } with ⟨result, state⟩
      rw [hrun] at h
      cases result with
      | ok entry => cases h
      | error thrown => exact congrArg _ (Except.error.inj h)
    simpa using (Calls.root hroot).stops_or_tooDeep hfails

end Linker

end ScriptBundle

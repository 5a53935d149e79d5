/-
# Steps that run alike

Two builds are compared step by step: either both fail, or both end well and what they give and
where they leave off is related.  Each way of putting steps together has one lemma, so that two
builds that are put together in the same way can be compared by comparing their parts.

## Main content

- `Build.Alike` relates two steps from two states.
- `Alike.bind` goes through two steps in a row, `Alike.during` inside a file that is being read.
- `Alike.ofExcept`, `Alike.readText`, `Alike.compile` and others compare single steps.
-/
import ScriptBundle.Proofs.Build.Failure

namespace ScriptBundle

namespace Build

variable {α β γ δ : Type} {s s' t t' : BuildState} {step : Build α} {step' : Build β}

/-- Two steps run alike from two states: both fail, or both end well, and then their values and the
states that they leave are related. -/
def Alike (step : Build α) (s : BuildState) (step' : Build β) (t : BuildState)
    (post : α → BuildState → β → BuildState → Prop) : Prop :=
  (∃ e e', Fails step s e ∧ Fails step' t e') ∨
    ∃ a s' b t', Gives step s a s' ∧ Gives step' t b t' ∧ post a s' b t'

namespace Alike

variable {post : α → BuildState → β → BuildState → Prop}

/-- Steps that end well run alike if what they give is related. -/
theorem of_gives {a : α} {b : β} (h : Gives step s a s') (h' : Gives step' t b t')
    (hpost : post a s' b t') : Alike step s step' t post :=
  .inr ⟨a, s', b, t', h, h', hpost⟩

/-- Steps that fail run alike. -/
theorem of_fails {e e' : BuildError} (h : Fails step s e) (h' : Fails step' t e') :
    Alike step s step' t post :=
  .inl ⟨e, e', h, h'⟩

/-- Values by themselves run alike if they are related. -/
theorem pure {a : α} {b : β} (hpost : post a s b t) : Alike (pure a) s (pure b) t post :=
  of_gives (gives_pure.2 ⟨rfl, rfl⟩) (gives_pure.2 ⟨rfl, rfl⟩) hpost

/-- What is related may be related in another way. -/
theorem mono {post' : α → BuildState → β → BuildState → Prop} (h : Alike step s step' t post)
    (hpost : ∀ {a s' b t'}, Gives step s a s' → Gives step' t b t' → post a s' b t' →
      post' a s' b t') : Alike step s step' t post' := by
  rcases h with hfails | ⟨a, s', b, t', hgives, hgives', hrel⟩
  · exact .inl hfails
  · exact of_gives hgives hgives' (hpost hgives hgives' hrel)

/-- Steps that are run as others run alike if those do. -/
theorem of_run {other : Build α} {other' : Build β} (h : Alike other s other' t post)
    (hrun : step.run.run s = other.run.run s) (hrun' : step'.run.run t = other'.run.run t) :
    Alike step s step' t post := by
  unfold Alike Fails Gives
  rw [hrun, hrun']
  exact h

/-- Two steps in a row run alike if the first ones do, and the second ones do from where the first
ones leave off. -/
theorem bind {next : α → Build γ} {next' : β → Build δ}
    {post' : γ → BuildState → δ → BuildState → Prop} (h : Alike step s step' t post)
    (hnext : ∀ {a s' b t'}, Gives step s a s' → Gives step' t b t' → post a s' b t' →
      Alike (next a) s' (next' b) t' post') :
    Alike (step >>= next) s (step' >>= next') t post' := by
  rcases h with ⟨e, e', hfails, hfails'⟩ | ⟨a, s', b, t', hgives, hgives', hrel⟩
  · exact of_fails (fails_bind.2 (.inl hfails)) (fails_bind.2 (.inl hfails'))
  · rcases hnext hgives hgives' hrel with ⟨e, e', hfails, hfails'⟩ | ⟨c, u, d, v, hc, hd, hrel'⟩
    · exact of_fails (fails_bind.2 (.inr ⟨a, s', hgives, hfails⟩))
        (fails_bind.2 (.inr ⟨b, t', hgives', hfails'⟩))
    · exact of_gives (gives_bind.2 ⟨a, s', hgives, hc⟩) (gives_bind.2 ⟨b, t', hgives', hd⟩) hrel'

/-- A step that ends well may come before one of the two only. -/
theorem bind_left {next : α → Build γ} {a : α} {post' : γ → BuildState → β → BuildState → Prop}
    (h : Gives step s a s') (hnext : Alike (next a) s' step' t post') :
    Alike (step >>= next) s step' t post' := by
  rcases hnext with ⟨e, e', hfails, hfails'⟩ | ⟨c, u, b, v, hc, hb, hrel⟩
  · exact of_fails (fails_bind.2 (.inr ⟨a, s', h, hfails⟩)) hfails'
  · exact of_gives (gives_bind.2 ⟨a, s', h, hc⟩) hb hrel

/-- Values computed from those of two steps. -/
theorem map {f : α → γ} {f' : β → δ} (h : Alike step s step' t post) :
    Alike (f <$> step) s (f' <$> step') t fun c s' d t' =>
      ∃ a b, post a s' b t' ∧ c = f a ∧ d = f' b := by
  rcases h with ⟨e, e', hfails, hfails'⟩ | ⟨a, s', b, t', hgives, hgives', hrel⟩
  · exact of_fails (fails_map.2 hfails) (fails_map.2 hfails')
  · exact of_gives (gives_map.2 ⟨a, hgives, rfl⟩) (gives_map.2 ⟨b, hgives', rfl⟩)
      ⟨a, b, hrel, rfl, rfl⟩

/-- Steps that are done while files are being read run alike if they do with the files behind those
that are being read. -/
theorem during {path path' : Path}
    (h : Alike step { s with inProgress := s.inProgress ++ [path] } step'
      { t with inProgress := t.inProgress ++ [path'] } fun a s' b t' =>
        post a { s' with inProgress := s'.inProgress.dropLast } b
          { t' with inProgress := t'.inProgress.dropLast }) :
    Alike (during path step) s (during path' step') t post := by
  rcases h with ⟨e, e', hfails, hfails'⟩ | ⟨a, s', b, t', hgives, hgives', hrel⟩
  · exact of_fails (fails_during.2 hfails) (fails_during.2 hfails')
  · exact of_gives (gives_during.2 ⟨s', hgives, rfl⟩) (gives_during.2 ⟨t', hgives', rfl⟩) hrel

/-- Looking at the states runs alike. -/
theorem get : Alike get s get t fun a s' b t' => (a = s ∧ s' = s) ∧ b = t ∧ t' = t :=
  of_gives (gives_get.2 ⟨rfl, rfl⟩) (gives_get.2 ⟨rfl, rfl⟩) ⟨⟨rfl, rfl⟩, rfl, rfl⟩

/-- Steps that do not look at the state run alike if both have a value or none. -/
theorem ofExcept {result : Except BuildError α} {result' : Except BuildError β} {f : α → β}
    (h : result'.toOption = result.toOption.map f) :
    Alike (ofExcept result) s (ofExcept result') t fun a s' b t' =>
      (result = .ok a ∧ b = f a) ∧ s' = s ∧ t' = t := by
  cases result with
  | error e =>
    cases result' with
    | error e' => exact of_fails (fails_ofExcept.2 rfl) (fails_ofExcept.2 rfl)
    | ok b => cases h
  | ok a =>
    cases result' with
    | error e' => cases h
    | ok b =>
      cases h
      exact of_gives (gives_ofExcept.2 ⟨rfl, rfl⟩) (gives_ofExcept.2 ⟨rfl, rfl⟩)
        ⟨⟨rfl, rfl⟩, rfl, rfl⟩

/-- Reading files runs alike if both can be read with the same text, or neither can. -/
theorem readText {file file' : Path}
    (h : (t.files.readText file').toOption = (s.files.readText file).toOption) :
    Alike (readText file) s (readText file') t fun text s' text' t' =>
      (s.files.readText file = .ok text ∧ text' = text) ∧ s' = s ∧ t' = t := by
  cases hread : s.files.readText file with
  | error fault =>
    cases hread' : t.files.readText file' with
    | error fault' =>
      exact of_fails (fails_readText.2 ⟨fault, hread, rfl⟩) (fails_readText.2 ⟨fault', hread', rfl⟩)
    | ok text' =>
      rw [hread, hread'] at h
      cases h
  | ok text =>
    cases hread' : t.files.readText file' with
    | error fault' =>
      rw [hread, hread'] at h
      cases h
    | ok text' =>
      rw [hread, hread'] at h
      cases h
      exact of_gives (gives_readText.2 ⟨hread, rfl⟩) (gives_readText.2 ⟨hread', rfl⟩)
        ⟨⟨rfl, rfl⟩, rfl, rfl⟩

/-- A compiler that does not look at any file runs alike everywhere, and leaves the states as they
are. -/
theorem compile {compiler : Compiler} (hpure : compiler.IsPure) {file file' : Path}
    {markup : Text} :
    Alike (compile compiler file markup) s (compile compiler file' markup) t
      fun functions s' functions' t' => functions' = functions ∧ s' = s ∧ t' = t := by
  obtain ⟨f, rfl⟩ := hpure
  have hrun (files : FileSystem) := Compiler.run_ofFunction f markup files
  cases hmarkup : f markup with
  | error fault =>
    have hfault (files : FileSystem) :
        ((Compiler.ofFunction f markup).run.run files).1 = .error fault := by
      rw [hrun, hmarkup]
    exact of_fails (fails_compile.2 ⟨fault, hfault _, rfl⟩) (fails_compile.2 ⟨fault, hfault _, rfl⟩)
  | ok functions =>
    have hok (files : FileSystem) :
        ((Compiler.ofFunction f markup).run.run files).1 = .ok functions := by
      rw [hrun, hmarkup]
    refine of_gives (gives_compile.2 ⟨hok _, ?_⟩) (gives_compile.2 ⟨hok _, ?_⟩) ⟨rfl, rfl, rfl⟩
    · rw [hrun]
    · rw [hrun]

/-- Modules are added alike. -/
theorem addModule {path path' : Path} {text text' : Text}
    {dependencies dependencies' : Dependencies} :
    Alike (addModule path text dependencies) s (addModule path' text' dependencies') t
      fun n s' n' t' =>
        (n = s.table.nextNumber ∧
          s' = { s with table := s.table.add path text dependencies }) ∧
        n' = t.table.nextNumber ∧
          t' = { t with table := t.table.add path' text' dependencies' } :=
  of_gives (gives_addModule.2 ⟨rfl, rfl⟩) (gives_addModule.2 ⟨rfl, rfl⟩) ⟨⟨rfl, rfl⟩, rfl, rfl⟩

/-- Styles are added alike. -/
theorem addStyles {file file' : Path} {styles styles' : List Text} :
    Alike (addStyles file styles) s (addStyles file' styles') t fun _ s' _ t' =>
      s' = { s with styles := s.styles ++ Stylesheet.ofComponent file styles } ∧
        t' = { t with styles := t.styles ++ Stylesheet.ofComponent file' styles' } :=
  of_gives (gives_addStyles.2 ⟨rfl, rfl⟩) (gives_addStyles.2 ⟨rfl, rfl⟩) ⟨rfl, rfl⟩

end Alike

end Build

end ScriptBundle

/-
# What a build keeps

A build only adds to what is there: modules and styles come at the end, the files being read are the
same again when a file is done, and the files only change by the compiler.

## Main content

- `BuildState.Grows` says that a state has all that an earlier one has.
- `Linker.Links.grows`, `Linker.Visits.grows_close`: linking parts and visiting files grows the
  state.
- `Linker.Links.consistent`: the table stays consistent.
- `Linker.Links.unique`, `Linker.Visits.unique`: derivations leave no choice.
- `Linker.Links.leads`: where the parts of a file lead, and which modules stand there in the end.
-/
import Mathlib.Data.List.Forall2
import ScriptBundle.Proofs.Build.Derivation
import ScriptBundle.Proofs.ModuleTable.Consistent

namespace ScriptBundle

variable {l : Linker} {s s₁ s₂ s' t : BuildState} {file path : Path}

/-! ## Growing states -/

/-- A later state has all modules and styles of an earlier one in front, the same files are being
read, and the files are what the compiler made of the earlier ones. -/
structure BuildState.Grows (l : Linker) (s s' : BuildState) : Prop where
  /-- The modules are kept. -/
  modules : s.table.modules <+: s'.table.modules
  /-- The styles are kept. -/
  styles : s.styles <+: s'.styles
  /-- The same files are being read. -/
  inProgress : s'.inProgress = s.inProgress
  /-- The files only change by the compiler. -/
  files : l.Becomes s.files s'.files

namespace BuildState.Grows

/-- A state has all that it has. -/
theorem refl (l : Linker) (s : BuildState) : s.Grows l s where
  modules := List.prefix_refl _
  styles := List.prefix_refl _
  inProgress := rfl
  files := .refl

/-- What is kept twice is kept. -/
theorem trans (h : s.Grows l t) (h' : t.Grows l s') : s.Grows l s' where
  modules := h.modules.trans h'.modules
  styles := h.styles.trans h'.styles
  inProgress := h'.inProgress.trans h.inProgress
  files := h.files.trans h'.files

end BuildState.Grows

namespace Linker

/-- With a compiler, what takes the place of a call is the compiled template in the file that the target
spells. -/
theorem of_gives_inlineText {compiler : Compiler} {target text : Text}
    (hcompiler : l.compiler = some compiler)
    (h : Build.Gives (l.inlineText file target) s text s') :
    ∃ markup functions, s.files.readText (Lookup.targetPath file target).folded = .ok markup ∧
      (compiler markup).run.run s.files = (.ok functions, s'.files) ∧
      s' = { s with files := s'.files } ∧ text = functions.optionText := by
  simp only [inlineText, hcompiler] at h
  obtain ⟨markup, u, hread, hcompile⟩ := Build.gives_bind.1 h
  obtain ⟨hmarkup, rfl⟩ := Build.gives_readText.1 hread
  obtain ⟨functions, v, hrun, hpure⟩ := Build.gives_bind.1 hcompile
  obtain ⟨hok, rfl⟩ := Build.gives_compile.1 hrun
  obtain ⟨rfl, rfl⟩ := Build.gives_pure.1 hpure
  exact ⟨markup, functions, hmarkup, Prod.ext hok rfl, rfl, rfl⟩

/-- Compiling a template in a file of its own only changes the files. -/
theorem state_of_gives_inlineText {target text : Text}
    (h : Build.Gives (l.inlineText file target) s text s') :
    ∃ files, l.Becomes s.files files ∧ s' = { s with files } := by
  cases hcompiler : l.compiler with
  | none =>
    simp only [inlineText, hcompiler] at h
    obtain ⟨-, rfl⟩ := Build.gives_pure.1 h
    exact ⟨s'.files, .refl, rfl⟩
  | some compiler =>
    obtain ⟨markup, functions, -, hrun, hstate, -⟩ := of_gives_inlineText hcompiler h
    exact ⟨s'.files, .single ⟨compiler, markup, hcompiler, (congrArg Prod.snd hrun).symm⟩, hstate⟩

/-- A part that enters no file only changes the files. -/
theorem Settles.state {part : Part} {link : Linked} (h : l.Settles s file part link s') :
    ∃ files, l.Becomes s.files files ∧ s' = { s with files } := by
  cases h with
  | copy => exact ⟨s.files, .refl, rfl⟩
  | inline htext => exact state_of_gives_inlineText htext
  | library _ => exact ⟨s.files, .refl, rfl⟩
  | complete _ _ => exact ⟨s.files, .refl, rfl⟩

/-- A part that enters no file keeps everything. -/
theorem Settles.grows {part : Part} {link : Linked} (h : l.Settles s file part link s') :
    s.Grows l s' := by
  obtain ⟨files, hfiles, rfl⟩ := h.state
  exact ⟨List.prefix_refl _, List.prefix_refl _, rfl, hfiles⟩

/-- The compiler makes the files that stand there after a template. -/
theorem becomes_filesAfter (files : FileSystem) (template : Option Text) :
    l.Becomes files (l.filesAfter files template) := by
  cases template with
  | none => exact .refl
  | some markup =>
    cases hcompiler : l.compiler with
    | none =>
      simp only [filesAfter, hcompiler]
      exact .refl
    | some compiler =>
      simp only [filesAfter, hcompiler]
      exact .single ⟨compiler, markup, hcompiler, rfl⟩

/-- Seeing to a template keeps the modules. -/
theorem prefix_tableAfter (table : ModuleTable) (file : Path) (template : Option Text) :
    table.modules <+: (l.tableAfter table file template).modules := by
  unfold tableAfter
  split
  · exact List.prefix_refl _
  · split
    · exact List.prefix_append _ _
    · exact List.prefix_refl _

/-- Opening a file keeps everything and puts the file behind those that are being read. -/
theorem Opens.grows {spans : List Span} (h : l.Opens s file spans s') :
    BuildState.Grows l { s with inProgress := s.inProgress ++ [file] } s' := by
  obtain ⟨hreads⟩ := h
  exact ⟨prefix_tableAfter _ _ _, List.prefix_append _ _, rfl, becomes_filesAfter _ _⟩

/-- Closing a file takes it off the files that are being read. -/
theorem grows_close {linked : List Linked}
    (h : BuildState.Grows l { s with inProgress := s.inProgress ++ [file] } s') :
    s.Grows l (s'.close file linked) where
  modules := by
    rw [BuildState.modules_close]
    exact h.modules.trans (List.prefix_append _ _)
  styles := h.styles
  inProgress := by
    show s'.inProgress.dropLast = s.inProgress
    rw [h.inProgress]
    exact List.dropLast_concat
  files := h.files

/-- Linking parts keeps everything. -/
theorem Links.grows {parts : List Part} {linked : List Linked}
    (h : l.Links s file parts linked s') : s.Grows l s' := by
  induction h with
  | nil => exact .refl l _
  | settle hpart _ ih => exact hpart.grows.trans ih
  | enter _ _ hopens _ _ ihinner ihparts =>
    -- the file stands behind the others while it is read, and closing it takes it off again
    exact (grows_close (hopens.grows.trans ihinner)).trans ihparts

/-- Visiting a file keeps everything when it is closed. -/
theorem Visits.grows_close {spans : List Span} {linked : List Linked}
    (h : l.Visits s file spans linked s') : s.Grows l (s'.close file linked) := by
  obtain ⟨s₁, hopens, hlinks⟩ := h
  exact Linker.grows_close (hopens.grows.trans hlinks.grows)

/-! ## Consistent tables -/

/-- Opening a file keeps the table consistent. -/
theorem Opens.consistent {spans : List Span} (h : l.Opens s file spans s')
    (hs : s.table.Consistent) : s'.table.Consistent := by
  obtain ⟨hreads⟩ := h
  show (l.tableAfter s.table file _).Consistent
  unfold tableAfter
  split
  · exact hs
  · split
    · exact hs.add _ _ _
    · exact hs

/-- Closing a file keeps the table consistent. -/
theorem consistent_close (hs : s.table.Consistent) (linked : List Linked) :
    (s.close file linked).table.Consistent := hs.add _ _ _

/-- Linking parts keeps the table consistent. -/
theorem Links.consistent {parts : List Part} {linked : List Linked}
    (h : l.Links s file parts linked s') (hs : s.table.Consistent) : s'.table.Consistent := by
  induction h with
  | nil => exact hs
  | settle hpart _ ih =>
    obtain ⟨files, -, rfl⟩ := hpart.state
    exact ih hs
  | enter _ _ hopens _ _ ihinner ihparts =>
    exact ihparts (consistent_close (ihinner (hopens.consistent hs)) _)

/-- Visiting a file keeps the table consistent. -/
theorem Visits.consistent {spans : List Span} {linked : List Linked}
    (h : l.Visits s file spans linked s') (hs : s.table.Consistent) : s'.table.Consistent := by
  obtain ⟨s₁, hopens, hlinks⟩ := h
  exact hlinks.consistent (hopens.consistent hs)

/-! ## No choice -/

/-- The slot of a file is filled in one way. -/
theorem Fills.unique {files : FileSystem} {template : Option Text} {filling filling' : List Piece}
    (h : l.Fills files file template filling) (h' : l.Fills files file template filling') :
    filling = filling' := by
  cases h with
  | bare =>
    cases h'
    rfl
  | reference hcompiler =>
    cases h' with
    | reference => rfl
    | compiled hcompiler' =>
      rw [hcompiler] at hcompiler'
      cases hcompiler'
  | compiled hcompiler hrun =>
    cases h' with
    | reference hcompiler' =>
      rw [hcompiler] at hcompiler'
      cases hcompiler'
    | compiled hcompiler' hrun' =>
      obtain rfl := Option.some.inj (hcompiler.symm.trans hcompiler')
      obtain rfl := Except.ok.inj (hrun.symm.trans hrun')
      rfl

/-- A file is read in one way. -/
theorem Reads.unique {files : FileSystem} {text text' : Text} {source source' : Source}
    {filling filling' : List Piece} (h : l.Reads files file text source filling)
    (h' : l.Reads files file text' source' filling') :
    text = text' ∧ source = source' ∧ filling = filling' := by
  obtain rfl := Except.ok.inj (h.text_eq.symm.trans h'.text_eq)
  obtain rfl := Except.ok.inj (h.source_eq.symm.trans h'.source_eq)
  exact ⟨rfl, rfl, h.fills.unique h'.fills⟩

/-- A file is opened in one way. -/
theorem Opens.unique {spans spans' : List Span} (h : l.Opens s file spans s₁)
    (h' : l.Opens s file spans' s₂) : spans = spans' ∧ s₁ = s₂ := by
  obtain ⟨hreads⟩ := h
  obtain ⟨hreads'⟩ := h'
  obtain ⟨rfl, rfl, rfl⟩ := hreads.unique hreads'
  exact ⟨rfl, rfl⟩

/-- A part that enters no file is linked in one way. -/
theorem Settles.unique {part : Part} {link link' : Linked} (h : l.Settles s file part link s₁)
    (h' : l.Settles s file part link' s₂) : link = link' ∧ s₁ = s₂ := by
  cases h with
  | copy =>
    cases h'
    exact ⟨rfl, rfl⟩
  | inline htext =>
    cases h' with
    | inline htext' =>
      obtain ⟨rfl, rfl⟩ := htext.unique htext'
      exact ⟨rfl, rfl⟩
  | library hdest =>
    cases h' with
    | library => exact ⟨rfl, rfl⟩
    | complete hdest' =>
      rw [hdest] at hdest'
      cases hdest'
  | complete hdest hfound =>
    cases h' with
    | library hdest' =>
      rw [hdest] at hdest'
      cases hdest'
    | complete hdest' hfound' =>
      rw [hdest] at hdest'
      cases hdest'
      obtain rfl := Option.some.inj (hfound.symm.trans hfound')
      exact ⟨rfl, rfl⟩

/-- A part that leads to a new file does not settle. -/
theorem Settles.not_new {call : Call} {link : Linked} (h : l.Settles s file (.follow call) link s')
    (hdest : l.destination s file call.target = .ok (.file path)) : ¬ s.IsNew path := by
  rintro ⟨hnone, -⟩
  cases h with
  | library hdest' =>
    rw [hdest] at hdest'
    cases hdest'
  | complete hdest' hfound =>
    rw [hdest] at hdest'
    cases hdest'
    rw [hnone] at hfound
    cases hfound

/-- Parts are linked in one way. -/
theorem Links.unique {parts : List Part} {linked linked' : List Linked}
    (h : l.Links s file parts linked s₁) (h' : l.Links s file parts linked' s₂) :
    linked = linked' ∧ s₁ = s₂ := by
  -- a call to a new file cannot settle, so both derivations take the same rule for each part
  induction h generalizing linked' s₂ with
  | nil =>
    cases h'
    exact ⟨rfl, rfl⟩
  | settle hpart _ ih =>
    cases h' with
    | settle hpart' hparts' =>
      obtain ⟨rfl, rfl⟩ := hpart.unique hpart'
      obtain ⟨rfl, rfl⟩ := ih hparts'
      exact ⟨rfl, rfl⟩
    | enter hdest hnew => exact absurd hnew (hpart.not_new hdest)
  | enter hdest hnew hopens _ _ ihinner ihparts =>
    cases h' with
    | settle hpart' => exact absurd hnew (hpart'.not_new hdest)
    | enter hdest' hnew' hopens' hinner' hparts' =>
      rw [hdest] at hdest'
      cases hdest'
      obtain ⟨rfl, rfl⟩ := hopens.unique hopens'
      obtain ⟨rfl, rfl⟩ := ihinner hinner'
      obtain ⟨rfl, rfl⟩ := ihparts hparts'
      exact ⟨rfl, rfl⟩

/-- A file is visited in one way. -/
theorem Visits.unique {spans spans' : List Span} {linked linked' : List Linked}
    (h : l.Visits s file spans linked s₁) (h' : l.Visits s file spans' linked' s₂) :
    spans = spans' ∧ linked = linked' ∧ s₁ = s₂ := by
  obtain ⟨t, hopens, hlinks⟩ := h
  obtain ⟨t', hopens', hlinks'⟩ := h'
  obtain ⟨rfl, rfl⟩ := hopens.unique hopens'
  obtain ⟨rfl, rfl⟩ := hlinks.unique hlinks'
  exact ⟨rfl, rfl, rfl⟩

/-! ## Lists of parts put together -/

/-- Parts behind other parts are linked behind them. -/
theorem Links.append {front back : List Part} {linked linked' : List Linked}
    (h : l.Links s file front linked t) (h' : l.Links t file back linked' s') :
    l.Links s file (front ++ back) (linked ++ linked') s' := by
  induction h with
  | nil => exact h'
  | settle hpart _ ih => exact .settle hpart (ih h')
  | enter hdest hnew hopens hinner _ _ ih => exact .enter hdest hnew hopens hinner (ih h')

/-- Linking parts passes through the state between the front and the back of the parts. -/
theorem Links.split {front back : List Part} {linked : List Linked}
    (h : l.Links s file (front ++ back) linked s') :
    ∃ linked₁ linked₂ t, l.Links s file front linked₁ t ∧ l.Links t file back linked₂ s' ∧
      linked = linked₁ ++ linked₂ := by
  induction front generalizing s linked with
  | nil => exact ⟨[], linked, s, .nil, h, rfl⟩
  | cons part front ih =>
    cases h with
    | settle hpart hparts =>
      obtain ⟨linked₁, linked₂, t, hfront, hback, rfl⟩ := ih hparts
      exact ⟨_, linked₂, t, .settle hpart hfront, hback, rfl⟩
    | enter hdest hnew hopens hinner hparts =>
      obtain ⟨linked₁, linked₂, t, hfront, hback, rfl⟩ := ih hparts
      exact ⟨_, linked₂, t, .enter hdest hnew hopens hinner hfront, hback, rfl⟩

/-- Every link is that of a part, which is linked on the way. -/
theorem Links.exists_part {parts : List Part} {linked : List Linked} {link : Linked}
    (h : l.Links s file parts linked s') (hlink : link ∈ linked) :
    ∃ front part back linked₁ s₁ s₂, parts = front ++ part :: back ∧
      l.Links s file front linked₁ s₁ ∧ l.Links s₁ file [part] [link] s₂ := by
  induction h with
  | nil => cases hlink
  | settle hpart _ ih =>
    rcases List.mem_cons.1 hlink with rfl | hrest
    · exact ⟨[], _, _, [], _, _, rfl, .nil, .settle hpart .nil⟩
    · obtain ⟨front, part, back, linked₁, t, u, rfl, hfront, hlinks⟩ := ih hrest
      exact ⟨_ :: front, part, back, _, t, u, rfl, .settle hpart hfront, hlinks⟩
  | enter hdest hnew hopens hinner _ _ ih =>
    rcases List.mem_cons.1 hlink with rfl | hrest
    · exact ⟨[], _, _, [], _, _, rfl, .nil, .enter hdest hnew hopens hinner .nil⟩
    · obtain ⟨front, part, back, linked₁, t, u, rfl, hfront, hlinks⟩ := ih hrest
      exact ⟨_ :: front, part, back, _, t, u, rfl, .enter hdest hnew hopens hinner hfront, hlinks⟩

/-! ## Where parts lead -/

/-- What a part of a file leads to in a build that goes on from the state `s` to the state `s'`: a
require leads to a vendor library, or to a module at its destination as it was on the way. -/
inductive Leads (l : Linker) (s s' : BuildState) (file : Path) : Part → Linked → Prop
  | copy {text : Text} {link : Linked} (hlink : link.dependency = none) :
    Leads l s s' file (.copy text) link
  | inline {target : Text} {link : Linked} (hlink : link.dependency = none) :
    Leads l s s' file (.inline target) link
  | library {t : BuildState} {call : Call} {target : Text} {link : Linked}
    (hbefore : s.Grows l t) (hafter : t.Grows l s')
    (hdest : l.destination t file call.target = .ok (.library target))
    (hlink : link.dependency = none) : Leads l s s' file (.follow call) link
  | module {t : BuildState} {call : Call} {path : Path} {m : Module} {link : Linked}
    (hbefore : s.Grows l t) (hafter : t.Grows l s') (htable : t.table.Consistent)
    (hdest : l.destination t file call.target = .ok (.file path))
    (hm : m ∈ s'.table.modules) (hpath : m.path.same path = true)
    (hlink : link.dependency = some (call.target, m.number)) :
    Leads l s s' file (.follow call) link

/-- What leads somewhere on a part of the way leads there on the whole way. -/
theorem Leads.mono {part : Part} {link : Linked} (h : l.Leads s₁ s₂ file part link)
    (hbefore : s.Grows l s₁) (hafter : s₂.Grows l s') : l.Leads s s' file part link := by
  cases h with
  | copy hlink => exact .copy hlink
  | inline hlink => exact .inline hlink
  | library hb ha hdest hlink => exact .library (hbefore.trans hb) (ha.trans hafter) hdest hlink
  | module hb ha htable hdest hm hpath hlink =>
    exact .module (hbefore.trans hb) (ha.trans hafter) htable hdest (hafter.modules.subset hm)
      hpath hlink

/-- Where a part leads that enters no file. -/
theorem Settles.leads {part : Part} {link : Linked} (h : l.Settles s file part link s')
    (hs : s.table.Consistent) : l.Leads s s' file part link := by
  have hgrows := h.grows
  cases h with
  | copy => exact .copy rfl
  | inline _ => exact .inline rfl
  | library hdest => exact .library (.refl l s) hgrows hdest rfl
  | complete hdest hfound =>
    obtain ⟨hmem, hsame⟩ := hs.of_find?_eq_some hfound
    exact .module (.refl l s) hgrows hs hdest hmem hsame rfl

/-- All parts of a file lead somewhere. -/
theorem Links.leads {parts : List Part} {linked : List Linked}
    (h : l.Links s file parts linked s') (hs : s.table.Consistent) :
    List.Forall₂ (l.Leads s s' file) parts linked := by
  induction h with
  | nil => exact .nil
  | settle hpart hparts ih =>
    -- this part leads somewhere now, and the parts behind it do so from the next state on
    have hgrows := hpart.grows
    have hleads := hpart.leads hs
    obtain ⟨files, -, rfl⟩ := hpart.state
    exact .cons (hleads.mono (.refl l _) hparts.grows)
      ((ih hs).imp fun _ _ hrest => hrest.mono hgrows (.refl l _))
  | @enter s s₁ s₂ s' file path call spans parts inner linked hdest hnew hopens hinner hparts _
    ih =>
    have hclose : s.Grows l (s₂.close path inner) :=
      Linker.grows_close (hopens.grows.trans hinner.grows)
    have htable := hinner.consistent (hopens.consistent hs)
    -- the module that was just completed has the number that the link records
    have hmodule : s₂.moduleOf path inner ∈ (s₂.close path inner).table.modules := by
      rw [BuildState.modules_close]
      exact List.mem_append_right _ (List.mem_singleton_self _)
    refine .cons ?_ ((ih (consistent_close htable _)).imp fun _ _ hleads =>
      hleads.mono hclose (.refl l _))
    exact .module (.refl l s) (hclose.trans hparts.grows) hs hdest
      (hparts.grows.modules.subset hmodule) (Path.same_refl path) rfl

end Linker

end ScriptBundle

/-
# The order of styles

The styles of a build come in the order in which it enters its files, while modules come in the
order in which they are completed.  A file is entered in front of all that is read inside it, and
all its style blocks are added at that moment, so no other block gets between them.

## Main content

- `Stylesheet.ofFile` is what a file brings into the styles: the blocks of a component in file order,
  and nothing for any other file.
- `Linker.Tours` goes through the parts of a file like `Linker.Links`, and lists the files that are
  entered on the way.
- `Linker.IsEntryOrder` says that a list has all files that a build enters, in this order;
  `Linker.IsEntryOrder.unique` that there is only one such list.
- `Job.styles_follow_entries`: the styles of a job are those of the files in the order of entering,
  and those of one component stand side by side and occur once.
-/
import ScriptBundle.Job.Run
import ScriptBundle.Proofs.Build.Memoization

namespace ScriptBundle

/-! ## The styles of a file -/

/-- What a file brings into the styles: the blocks of a component, with their texts in file order. -/
def Stylesheet.ofFile (files : FileSystem) (file : Path) : Stylesheet :=
  match FileKind.ofPath file, files.readText file with
  | .component, .ok text => ofComponent file (Component.takeApart text).styles
  | _, _ => []

/-- The styles that are added for a file are its own. -/
theorem Stylesheet.ofComponent_read {files : FileSystem} {file : Path} {text : Text}
    (h : files.readText file = .ok text) :
    ofComponent file (Source.read file text).styles = ofFile files file := by
  unfold ofFile Source.read
  rw [h]
  cases FileKind.ofPath file <;> rfl

/-- The blocks of a file have its path, and the file is a component. -/
theorem Stylesheet.of_mem_ofFile {files : FileSystem} {file : Path} {block : Block}
    (h : block ∈ ofFile files file) :
    block.component = file ∧ FileKind.ofPath file = .component := by
  unfold ofFile at h
  split at h
  · next hkind _ =>
    obtain ⟨css, -, rfl⟩ := List.mem_map.1 h
    exact ⟨rfl, hkind⟩
  · cases h

/-! ## Earlier and later states -/

namespace BuildState

variable {s s' t : BuildState} {path : Path}

/-- A state is before another one: what is new in the other one is new in it. -/
def IsBefore (s s' : BuildState) : Prop := ∀ p, s'.IsNew p → s.IsNew p

/-- A state is before itself. -/
theorem IsBefore.refl (s : BuildState) : s.IsBefore s := fun _ h => h

/-- Before what comes before is before. -/
theorem IsBefore.trans (h : s.IsBefore t) (h' : t.IsBefore s') : s.IsBefore s' :=
  fun p hnew => h p (h' p hnew)

/-- A state is before another one if its paths occur there. -/
theorem isBefore_of_subset (hs : s.table.Consistent) (hs' : s'.table.Consistent)
    (h : s.paths ⊆ s'.paths) : s.IsBefore s' := by
  intro p hnew
  rw [isNew_iff hs'] at hnew
  exact (isNew_iff hs).2 fun q hq => hnew q (h hq)

/-- A state is before all that it grows to. -/
theorem Grows.isBefore {l : Linker} (h : s.Grows l s') (hs : s.table.Consistent)
    (hs' : s'.table.Consistent) : s.IsBefore s' := by
  refine isBefore_of_subset hs hs' fun q hq => ?_
  rw [paths, List.mem_append] at hq ⊢
  rw [h.inProgress]
  exact hq.imp_left fun hmodule => (h.modules.map Module.path).subset hmodule

/-- A file that is being read is not new. -/
theorem not_isNew_of_mem (h : path ∈ s.inProgress) : ¬ s.IsNew path := by
  rintro ⟨-, hprogress⟩
  rw [List.any_eq_false] at hprogress
  exact hprogress path h (Path.same_refl path)

/-- Files with the same path are new at the same time. -/
theorem IsNew.of_same {p q : Path} (h : s.IsNew p) (hsame : p.same q = true) : s.IsNew q := by
  refine ⟨(s.table.find?_eq_of_same hsame).symm.trans h.1, ?_⟩
  have hother (r : Path) : r.same q = r.same p := by
    rw [Bool.eq_iff_iff, Path.same_iff, Path.same_iff, Path.same_iff.1 hsame]
  simp only [hother]
  exact h.2

end BuildState

namespace Linker

variable {l : Linker} {files : FileSystem} {root file path : Path} {s s₁ s₂ s' t final : BuildState}

/-- Opening a file adds its styles. -/
theorem Opens.styles_eq {spans : List Span} (h : l.Opens s file spans s₁) :
    s₁.styles = s.styles ++ Stylesheet.ofFile s.files file := by
  obtain ⟨hreads⟩ := h
  show s.styles ++ _ = _
  rw [Stylesheet.ofComponent_read hreads.text_eq]

/-- Opening a file goes on to a later state, in which the file is not new. -/
theorem Opens.isBefore {spans : List Span} (h : l.Opens s file spans s₁)
    (hs : s.table.Consistent) : s.IsBefore s₁ ∧ ¬ s₁.IsNew file := by
  constructor
  · have hread : s.IsBefore { s with inProgress := s.inProgress ++ [file] } := by
      refine BuildState.isBefore_of_subset hs hs ?_
      rw [BuildState.paths, BuildState.paths, ← List.append_assoc]
      exact List.subset_append_left _ _
    exact hread.trans (h.grows.isBefore hs (h.consistent hs))
  · apply BuildState.not_isNew_of_mem
    rw [h.grows.inProgress]
    exact List.mem_append_right _ (List.mem_singleton_self file)

/-- Closing the file that was read last goes on to a later state. -/
theorem isBefore_close {outer : List Path} (hs : s.table.Consistent)
    (hprogress : s.inProgress = outer ++ [file]) (linked : List Linked) :
    s.IsBefore (s.close file linked) :=
  BuildState.isBefore_of_subset hs (consistent_close hs linked)
    (BuildState.perm_paths_close hprogress linked).subset

/-! ## Tours -/

/-- A file that is entered, with the state in which it is. -/
structure Entry where
  /-- The state in which the file is entered. -/
  state : BuildState
  /-- The file. -/
  path : Path

/-- The styles that a file brings in when it is entered. -/
def Entry.styles (e : Entry) : Stylesheet := .ofFile e.state.files e.path

/-- An entry comes before another one: the other file is still new at the first one, and the file is
not new any more at the other one. -/
def Entry.Precedes (e e' : Entry) : Prop := e.state.IsNew e'.path ∧ ¬ e'.state.IsNew e.path

/-- A file that is entered behind another one has another path. -/
theorem Entry.Precedes.differs {e e' : Entry} (h : e.Precedes e')
    (hnew : e'.state.IsNew e'.path) : e.path.Differs e'.path := by
  refine Bool.eq_false_iff.2 fun hsame => h.2 (hnew.of_same ?_)
  rwa [Path.same_comm]

/-- What is entered is new. -/
theorem Enters.isNew (h : l.Enters files root s path) : s.IsNew path := by
  cases h with
  | root _ => exact ⟨rfl, rfl⟩
  | follow _ _ _ _ _ hnew => exact hnew

/-- Linking the parts of a file as `Links` does, with a list of the files that are entered.  A file
comes in front of those that are entered from it. -/
inductive Tours (l : Linker) :
    BuildState → Path → List Part → List Linked → BuildState → List Entry → Prop
  | nil {s : BuildState} {file : Path} : Tours l s file [] [] s []
  | settle {s s₁ s' : BuildState} {file : Path} {part : Part} {parts : List Part} {link : Linked}
    {linked : List Linked} {order : List Entry} (hpart : l.Settles s file part link s₁)
    (hparts : Tours l s₁ file parts linked s' order) :
    Tours l s file (part :: parts) (link :: linked) s' order
  | enter {s s₁ s₂ s' : BuildState} {file path : Path} {call : Call} {spans : List Span}
    {parts : List Part} {inner linked : List Linked} {inside order : List Entry}
    (hdest : l.destination s file call.target = .ok (.file path)) (hnew : s.IsNew path)
    (hopens : l.Opens s path spans s₁) (hinner : Tours l s₁ path (l.partsOf spans) inner s₂ inside)
    (hparts : Tours l (s₂.close path inner) file parts linked s' order) :
    Tours l s file (.follow call :: parts)
      (⟨call.text, some (call.target, s₂.table.nextNumber)⟩ :: linked) s'
      (⟨s, path⟩ :: inside ++ order)

variable {parts : List Part} {linked : List Linked} {order : List Entry}

/-- Parts that are linked can be toured. -/
theorem Links.exists_tours (h : l.Links s file parts linked s') :
    ∃ order, l.Tours s file parts linked s' order := by
  induction h with
  | nil => exact ⟨[], .nil⟩
  | settle hpart _ ih =>
    obtain ⟨order, htour⟩ := ih
    exact ⟨order, .settle hpart htour⟩
  | enter hdest hnew hopens _ _ ihinner ihparts =>
    obtain ⟨inside, hinside⟩ := ihinner
    obtain ⟨order, horder⟩ := ihparts
    exact ⟨_, .enter hdest hnew hopens hinside horder⟩

/-- Parts that are toured are linked. -/
theorem Tours.links (h : l.Tours s file parts linked s' order) : l.Links s file parts linked s' := by
  induction h with
  | nil => exact .nil
  | settle hpart _ ih => exact .settle hpart ih
  | enter hdest hnew hopens _ _ ihinner ihparts => exact .enter hdest hnew hopens ihinner ihparts

/-- The styles that come in on a tour are those of the files that are entered, one after the other. -/
theorem Tours.styles_eq (h : l.Tours s file parts linked s' order) :
    s'.styles = s.styles ++ order.flatMap Entry.styles := by
  induction h with
  | nil => exact (List.append_nil _).symm
  | settle hpart _ ih =>
    obtain ⟨changed, -, rfl⟩ := hpart.state
    exact ih
  | @enter s s₁ s₂ s' file path call spans parts inner linked inside order _ _ hopens _ _ ihinner
    ihparts =>
    -- closing a file adds no styles
    have hclosed : (s₂.close path inner).styles = s₂.styles := rfl
    rw [ihparts, hclosed, ihinner, hopens.styles_eq, List.cons_append, List.flatMap_cons,
      List.flatMap_append]
    simp only [Entry.styles, List.append_assoc]

/-- What a tour enters is entered by the build. -/
theorem Tours.enters (h : l.Tours s file parts linked s' order)
    (hamid : l.Amid files root s file parts) {e : Entry} (he : e ∈ order) :
    l.Enters files root e.state e.path := by
  induction h with
  | nil => cases he
  | settle hpart _ ih => exact ih (hamid.next (.settle hpart .nil)) he
  | enter hdest hnew hopens hinner _ ihinner ihparts =>
    have henters := hamid.enters hdest hnew
    rcases List.mem_append.1 he with hfirst | hbehind
    · rcases List.mem_cons.1 hfirst with rfl | hinside
      · exact henters
      · exact ihinner (henters.amid hopens) hinside
    · exact ihparts (hamid.next (.enter hdest hnew hopens hinner.links .nil)) hbehind

/-- A tour enters all files that the calls among its parts enter. -/
theorem Tours.mem_of_call (h : l.Tours s file parts linked s' order) {front back : List Part}
    {call : Call} {linked₁ : List Linked} (hparts : parts = front ++ .follow call :: back)
    (hfront : l.Links s file front linked₁ t)
    (hdest : l.destination t file call.target = .ok (.file path)) (hnew : t.IsNew path) :
    ⟨t, path⟩ ∈ order := by
  -- the parts in front of the call are linked in one way, so the tour comes to the call in `t`
  induction h generalizing front linked₁ with
  | nil => cases front <;> cases hparts
  | settle hpart _ ih =>
    cases front with
    | nil =>
      obtain ⟨rfl, -⟩ := List.cons.inj hparts
      cases hfront
      exact absurd hnew (hpart.not_new hdest)
    | cons first front =>
      obtain ⟨rfl, rfl⟩ := List.cons.inj hparts
      cases hfront with
      | settle hpart' hfront' =>
        obtain ⟨-, rfl⟩ := hpart.unique hpart'
        exact ih rfl hfront' hdest
      | enter hdest' hnew' => exact absurd hnew' (hpart.not_new hdest')
  | enter hdest' hnew' hopens hinner _ _ ih =>
    cases front with
    | nil =>
      obtain ⟨hcall, -⟩ := List.cons.inj hparts
      cases hcall
      cases hfront
      rw [hdest'] at hdest
      cases hdest
      exact List.mem_cons_self ..
    | cons first front =>
      obtain ⟨rfl, rfl⟩ := List.cons.inj hparts
      cases hfront with
      | settle hpart _ => exact absurd hnew' (hpart.not_new hdest')
      | enter hdest₂ _ hopens₂ hinner₂ hfront' =>
        rw [hdest'] at hdest₂
        cases hdest₂
        obtain ⟨rfl, rfl⟩ := hopens.unique hopens₂
        obtain ⟨rfl, rfl⟩ := hinner.links.unique hinner₂
        exact List.mem_append_right _ (ih rfl hfront' hdest)

/-- Inside a file that a tour enters, it enters all files that the calls there enter. -/
theorem Tours.mem_of_follow (h : l.Tours s file parts linked s' order) {e : Entry} (he : e ∈ order)
    {spans : List Span} {front back : List Part} {call : Call} {linked₁ : List Linked}
    (hopens : l.Opens e.state e.path spans s₁)
    (hparts : l.partsOf spans = front ++ .follow call :: back)
    (hfront : l.Links s₁ e.path front linked₁ t)
    (hdest : l.destination t e.path call.target = .ok (.file path)) (hnew : t.IsNew path) :
    ⟨t, path⟩ ∈ order := by
  induction h with
  | nil => cases he
  | settle _ _ ih => exact ih he
  | enter _ _ hopens' hinner _ ihinner ihparts =>
    rcases List.mem_append.1 he with hfirst | hbehind
    · refine List.mem_append_left _ (List.mem_cons_of_mem _ ?_)
      rcases List.mem_cons.1 hfirst with rfl | hinside
      · obtain ⟨rfl, rfl⟩ := hopens'.unique hopens
        exact hinner.mem_of_call hparts hfront hdest hnew
      · exact ihinner hinside
    · exact List.mem_append_right _ (ihparts hbehind)

/-- A tour goes on to a later state.  On the way it comes to its entries, each of which is new when
it is entered, and not new in the end. -/
theorem Tours.isBefore (h : l.Tours s file parts linked s' order) (hs : s.table.Consistent) :
    s.IsBefore s' ∧ ∀ e ∈ order, (s.IsBefore e.state ∧ e.state.IsBefore s') ∧
      e.state.IsNew e.path ∧ ¬ s'.IsNew e.path := by
  induction h with
  | nil => exact ⟨.refl _, nofun⟩
  | settle hpart _ ih =>
    obtain ⟨changed, -, rfl⟩ := hpart.state
    exact ih hs
  | @enter s s₁ s₂ s' file path call spans parts inner linked inside order hdest hnew hopens hinner
    hparts ihinner ihparts =>
    obtain ⟨hopened, hread⟩ := hopens.isBefore hs
    have hs₁ := hopens.consistent hs
    have hs₂ := hinner.links.consistent hs₁
    have hprogress := hinner.links.grows.inProgress.trans hopens.grows.inProgress
    have hclosed := isBefore_close hs₂ hprogress inner
    obtain ⟨hlinked, hinside⟩ := ihinner hs₁
    obtain ⟨hrest, horder⟩ := ihparts (consistent_close hs₂ inner)
    -- from the opened file on, the tour goes through the file, its end and the parts behind it
    have hend := hclosed.trans hrest
    have hall := hopened.trans (hlinked.trans hend)
    refine ⟨hall, fun e he => ?_⟩
    rcases List.mem_append.1 he with hfirst | hbehind
    · rcases List.mem_cons.1 hfirst with rfl | hmem
      · exact ⟨⟨.refl s, hall⟩, hnew, fun h => hread ((hlinked.trans hend) _ h)⟩
      · obtain ⟨⟨hbefore, hafter⟩, hfresh, hdone⟩ := hinside e hmem
        exact ⟨⟨hopened.trans hbefore, hafter.trans hend⟩, hfresh, fun h => hdone (hend _ h)⟩
    · obtain ⟨⟨hbefore, hafter⟩, hfresh, hdone⟩ := horder e hbehind
      exact ⟨⟨hopened.trans (hlinked.trans (hclosed.trans hbefore)), hafter⟩, hfresh, hdone⟩

/-- On a tour, the entries precede each other. -/
theorem Tours.pairwise (h : l.Tours s file parts linked s' order) (hs : s.table.Consistent) :
    order.Pairwise Entry.Precedes := by
  induction h with
  | nil => exact .nil
  | settle hpart _ ih =>
    obtain ⟨changed, -, rfl⟩ := hpart.state
    exact ih hs
  | @enter s s₁ s₂ s' file path call spans parts inner linked inside order hdest hnew hopens hinner
    hparts ihinner ihparts =>
    obtain ⟨hopened, hread⟩ := hopens.isBefore hs
    have hs₁ := hopens.consistent hs
    have hs₂ := hinner.links.consistent hs₁
    have hs₃ : (s₂.close path inner).table.Consistent := consistent_close hs₂ inner
    have hprogress := hinner.links.grows.inProgress.trans hopens.grows.inProgress
    have hclosed := isBefore_close hs₂ hprogress inner
    obtain ⟨hlinked, hinside⟩ := hinner.isBefore hs₁
    obtain ⟨-, horder⟩ := hparts.isBefore hs₃
    refine List.pairwise_append.2 ⟨List.pairwise_cons.2 ⟨?_, ihinner hs₁⟩, ihparts hs₃, ?_⟩
    · -- the file itself precedes what is entered while it is being read
      intro e he
      obtain ⟨⟨hbefore, -⟩, hfresh, -⟩ := hinside e he
      exact ⟨(hopened.trans hbefore) _ hfresh, fun h => hread (hbefore _ h)⟩
    · -- the file and all inside it precede what is entered by the parts behind the call
      intro e he e' he'
      obtain ⟨⟨hbefore', -⟩, hfresh', -⟩ := horder e' he'
      have hlater := hclosed.trans hbefore'
      rcases List.mem_cons.1 he with rfl | hmem
      · exact ⟨(hopened.trans (hlinked.trans hlater)) _ hfresh',
          fun h => hread ((hlinked.trans hlater) _ h)⟩
      · obtain ⟨⟨-, hafter⟩, -, hdone⟩ := hinside e hmem
        exact ⟨(hafter.trans hlater) _ hfresh', fun h => hdone (hlater _ h)⟩

/-! ## The order of entering -/

/-- A list has all files that a build enters, in the order in which it does. -/
structure IsEntryOrder (l : Linker) (files : FileSystem) (root : Path) (order : List Entry) :
    Prop where
  /-- The entries are the files that the build enters. -/
  mem_iff : ∀ e, e ∈ order ↔ l.Enters files root e.state e.path
  /-- What comes first in the list precedes what comes later. -/
  pairwise : order.Pairwise Entry.Precedes

namespace IsEntryOrder

variable {order' : List Entry}

/-- There is only one order of entering. -/
theorem unique (h : l.IsEntryOrder files root order) (h' : l.IsEntryOrder files root order') :
    order = order' := by
  have hnodup {entries : List Entry} (hentries : l.IsEntryOrder files root entries) :
      entries.Nodup := by
    refine hentries.pairwise.imp fun {a b} hab heq => ?_
    subst heq
    exact hab.2 hab.1
  have hperm : order.Perm order' :=
    (List.perm_ext_iff_of_nodup (hnodup h) (hnodup h')).2 fun e =>
      (h.mem_iff e).trans (h'.mem_iff e).symm
  exact List.Perm.eq_of_pairwise (fun a b _ _ hab hba => absurd hba.1 hab.2) h.pairwise h'.pairwise
    hperm

/-- What is entered while a file is being read comes behind the file. -/
theorem sublist_of_mem_inProgress (h : l.IsEntryOrder files root order) {e e' : Entry}
    (he : e ∈ order) (he' : e' ∈ order) (hread : e.path ∈ e'.state.inProgress) :
    [e, e'].Sublist order := by
  obtain ⟨before, behind, rfl⟩ := List.append_of_mem he
  have hnot := BuildState.not_isNew_of_mem hread
  rcases List.mem_append.1 he' with hbefore | hmem
  · have hprecedes := (List.pairwise_append.1 h.pairwise).2.2 e' hbefore e (List.mem_cons_self ..)
    exact absurd hprecedes.1 hnot
  · rcases List.mem_cons.1 hmem with rfl | hbehind
    · exact absurd ((h.mem_iff e').1 he).isNew hnot
    · exact ((List.singleton_sublist.2 hbehind).cons_cons e).trans (List.sublist_append_right _ _)

/-- The styles of a file that is entered stand side by side, and no other styles have its path. -/
theorem exists_styles_eq (h : l.IsEntryOrder files root order) {e : Entry} (he : e ∈ order) :
    ∃ front back, order.flatMap Entry.styles = front ++ e.styles ++ back ∧
      ∀ block ∈ front ++ back, block.component.Differs e.path := by
  obtain ⟨before, behind, rfl⟩ := List.append_of_mem he
  obtain ⟨-, hbehind, hbefore⟩ := List.pairwise_append.1 h.pairwise
  refine ⟨before.flatMap Entry.styles, behind.flatMap Entry.styles, ?_, fun block hblock => ?_⟩
  · rw [List.flatMap_append, List.flatMap_cons, List.append_assoc]
  · have hnew {e' : Entry} (he' : e' ∈ before ++ e :: behind) : e'.state.IsNew e'.path :=
      ((h.mem_iff e').1 he').isNew
    rcases List.mem_append.1 hblock with hblock | hblock
    · obtain ⟨e', he', hstyles⟩ := List.mem_flatMap.1 hblock
      rw [(Stylesheet.of_mem_ofFile hstyles).1]
      exact (hbefore e' he' e (List.mem_cons_self ..)).differs (hnew he)
    · obtain ⟨e', he', hstyles⟩ := List.mem_flatMap.1 hblock
      rw [(Stylesheet.of_mem_ofFile hstyles).1]
      have hprecedes := (List.pairwise_cons.1 hbehind).1 e' he'
      exact (hprecedes.differs (hnew (List.mem_append_right _ (List.mem_cons_of_mem _ he')))).symm

end IsEntryOrder

/-- The files that a build enters have an order, and the styles come in this order. -/
theorem Completes.exists_entryOrder (h : l.Completes files root final) :
    ∃ order, l.IsEntryOrder files root order ∧ final.styles = order.flatMap Entry.styles := by
  obtain ⟨path, spans, linked, s', hroot, ⟨s₁, hopens, hlinks⟩, rfl⟩ := h
  have henters : l.Enters files root { files } path := .root hroot
  obtain ⟨inside, htour⟩ := hlinks.exists_tours
  have hs₁ := hopens.consistent henters.consistent
  obtain ⟨hbefore, hread⟩ := hopens.isBefore henters.consistent
  refine ⟨⟨{ files }, path⟩ :: inside, ⟨fun e => ⟨fun he => ?_, fun he => ?_⟩, ?_⟩, ?_⟩
  · rcases List.mem_cons.1 he with rfl | hinside
    · exact henters
    · exact htour.enters (henters.amid hopens) hinside
  · obtain ⟨state, entered⟩ := e
    simp only at he
    -- on how the file is entered: a tour goes on from every file on it
    induction he with
    | root hroot' =>
      rw [hroot] at hroot'
      cases hroot'
      exact List.mem_cons_self ..
    | follow _ hopens' hparts hfront hdest hnew ih =>
      refine List.mem_cons_of_mem _ ?_
      rcases List.mem_cons.1 ih with heq | hinside
      · cases heq
        obtain ⟨rfl, rfl⟩ := hopens.unique hopens'
        exact htour.mem_of_call hparts hfront hdest hnew
      · exact htour.mem_of_follow hinside hopens' hparts hfront hdest hnew
  · refine List.pairwise_cons.2 ⟨fun e he => ?_, htour.pairwise hs₁⟩
    obtain ⟨⟨hfrom, -⟩, hfresh, -⟩ := (htour.isBefore hs₁).2 e he
    exact ⟨(hbefore.trans hfrom) _ hfresh, fun hnew => hread (hfrom _ hnew)⟩
  · show s'.styles = _
    rw [htour.styles_eq, hopens.styles_eq]
    rfl

end Linker

/-! ## The styles of a job -/

namespace Job

variable {job : Job} {fs : FileSystem} {compiler : Option Compiler} {product : Product}

/-- The styles of a job are those of the files that the build enters, in the order in which it first
enters them, and a file comes in front of all that is entered while it is being read.  The blocks of
a file stand side by side and no others have its path, all blocks are those of components, and the
style text is the texts of all blocks. -/
theorem styles_follow_entries (h : (job.makeWith fs compiler).1 = .ok product) :
    ∃ g order, (Linker.graph ⟨job.lookup fs, compiler⟩ fs job.root).1 = .ok g ∧
      product = g.product ∧
      Linker.IsEntryOrder ⟨job.lookup fs, compiler⟩ fs job.root order ∧
      (∀ e ∈ order, ∀ e' ∈ order, e.path ∈ e'.state.inProgress → [e, e'].Sublist order) ∧
      g.styles = order.flatMap Linker.Entry.styles ∧
      (∀ e ∈ order, ∃ front back, g.styles = front ++ e.styles ++ back ∧
        ∀ block ∈ front ++ back, block.component.Differs e.path) ∧
      (∀ block ∈ g.styles, FileKind.ofPath block.component = .component) ∧
      product.css = (g.styles.map Stylesheet.Block.css).flatten := by
  obtain ⟨g, hgraph, rfl⟩ := makeWith_eq_ok_iff.1 h
  obtain ⟨final, hfinal, rfl⟩ := Linker.completes_of_graph hgraph
  obtain ⟨order, horder, hstyles⟩ := hfinal.exists_entryOrder
  refine ⟨_, order, hgraph, rfl, horder, fun e he e' he' => horder.sublist_of_mem_inProgress he he',
    hstyles, fun e he => ?_, fun block hblock => ?_, List.flatMap_def⟩
  · obtain ⟨front, back, hsplit, hdiffers⟩ := horder.exists_styles_eq he
    exact ⟨front, back, hstyles.trans hsplit, hdiffers⟩
  · have hmem : block ∈ final.styles := hblock
    rw [hstyles] at hmem
    obtain ⟨e, -, hblock⟩ := List.mem_flatMap.1 hmem
    obtain ⟨hpath, hkind⟩ := Stylesheet.of_mem_ofFile hblock
    rw [hpath]
    exact hkind

/-- A script that requires two components, the first of which requires the second one as well. -/
def styledTree : FileSystem :=
  sampleFiles
    [("a.js", "require('./c.vue');\nrequire('./d.vue');\n"),
      ("c.vue",
        "<style>\np \x7b\x7d\n</style>\n<script>\nrequire('./d.vue');\n</script>\n<style>\nb \x7b\x7d\n</style>\n"),
      ("d.vue", "<style>\ni \x7b\x7d\n</style>\n")]

/-- The job of building it. -/
def styledJob : Job where
  root := ⟨"a.js".toList⟩
  output := ⟨"bundle.js".toList⟩

/-- The graph of this job.  The component that is entered first is completed last. -/
def styledGraph : ModuleGraph where
  modules :=
    [⟨1, ⟨"d.vue".toList⟩, [], []⟩,
      ⟨2, ⟨"c.vue".toList⟩, "require('./d.vue');\n".toList, [("./d.vue".toList, 1)]⟩,
      ⟨3, ⟨"a.js".toList⟩, "require('./c.vue');\nrequire('./d.vue');\n".toList,
        [("./c.vue".toList, 2), ("./d.vue".toList, 1)]⟩]
  entry := 3
  styles :=
    [⟨⟨"c.vue".toList⟩, "p \x7b\x7d\n".toList⟩, ⟨⟨"c.vue".toList⟩, "b \x7b\x7d\n".toList⟩,
      ⟨⟨"d.vue".toList⟩, "i \x7b\x7d\n".toList⟩]

/-- The styles of this job come in the order of entering. -/
theorem styles_styledTree :
    (styledJob.makeWith styledTree none).1 = .ok styledGraph.product ∧
      ∃ order, Linker.IsEntryOrder ⟨styledJob.lookup styledTree, none⟩ styledTree styledJob.root
          order ∧
        styledGraph.styles = order.flatMap Linker.Entry.styles := by
  have hgraph : (Linker.graph ⟨styledJob.lookup styledTree, none⟩ styledTree styledJob.root).1 =
      .ok styledGraph := by
    decide +kernel
  have hmake := makeWith_eq_ok_iff.2 ⟨styledGraph, hgraph, rfl⟩
  obtain ⟨g, order, hg, -, horder, -, hstyles, -⟩ := styles_follow_entries hmake
  obtain rfl := Except.ok.inj (hgraph.symm.trans hg)
  exact ⟨hmake, order, horder, hstyles⟩

end Job

end ScriptBundle

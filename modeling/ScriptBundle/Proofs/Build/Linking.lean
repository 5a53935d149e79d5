/-
# What modules depend on

The dependencies of a module come from the calls in its text, and from nothing else.  Every call
that is followed and names no vendor library has an entry, and the entry holds the number of a
module that stands where the target leads: at the path as it is written, or at the file that
looking the target up gives.

## Main content

- `Linker.IsFileModule.leads`: what every part of a file leads to, with the modules that were
  complete when the file was closed.
- `Linker.LinkedSoundly` says what the dependencies of a module have to do with its spans.
- `Linker.dependencies_sound_and_complete`: the modules of every graph are linked soundly, and those
  of templates and of markup depend on nothing.
-/
import ScriptBundle.Proofs.Build.Origin
import ScriptBundle.Proofs.ModuleTable.Dependencies
import ScriptBundle.Proofs.Require.Recognized

namespace ScriptBundle

/-! ## Markup -/

/-- Markup is linked without calls. -/
theorem Source.require_not_mem_spans_of_markup {file : Path} {text : Text} {source : Source}
    (hkind : FileKind.ofPath file = .markup)
    (hsource : (Source.read file text).source = .ok source) :
    source.template = none ∧ ∀ call, .require call ∉ source.spans [] := by
  rw [Source.read, hkind] at hsource
  obtain rfl := Except.ok.inj hsource
  refine ⟨rfl, fun call hmem => ?_⟩
  obtain ⟨piece, hpiece, hcall⟩ := Span.require_mem_ofPieces_iff.1 hmem
  rw [List.append_nil, List.append_nil, List.mem_singleton] at hpiece
  rw [hpiece] at hcall
  exact call_not_mem_map_char _ hcall

/-! ## Lists that go together -/

/-- What goes with an element of the first list. -/
theorem exists_mem_right_of_forall₂ {α β : Type} {R : α → β → Prop} {as : List α} {bs : List β}
    (h : List.Forall₂ R as bs) {a : α} (ha : a ∈ as) : ∃ b ∈ bs, R a b := by
  induction h with
  | nil => cases ha
  | cons hab _ ih =>
    rcases List.mem_cons.1 ha with rfl | hrest
    · exact ⟨_, List.mem_cons_self .., hab⟩
    · obtain ⟨b, hb, hR⟩ := ih hrest
      exact ⟨b, List.mem_cons_of_mem _ hb, hR⟩

/-- What goes with an element of the second list. -/
theorem exists_mem_left_of_forall₂ {α β : Type} {R : α → β → Prop} {as : List α} {bs : List β}
    (h : List.Forall₂ R as bs) {b : β} (hb : b ∈ bs) : ∃ a ∈ as, R a b :=
  exists_mem_right_of_forall₂ h.flip hb

namespace Linker

variable {l : Linker} {files : FileSystem} {root : Path} {m : Module} {spans : List Span}

/-! ## Where the parts of a file lead -/

/-- The parts of a file lead to modules that were complete when the file was closed. -/
theorem IsFileModule.leads (h : l.IsFileModule files root m spans) :
    ∃ s linked s', l.Becomes files s.files ∧ s'.table.Consistent ∧ m = s'.moduleOf m.path linked ∧
      List.Forall₂ (l.Leads s s' m.path) (l.partsOf spans) linked ∧
      ∀ final, l.Completes files root final → s'.table.modules <+: final.table.modules := by
  obtain ⟨s, linked, s', henters, ⟨s₁, hopens, hlinks⟩, hmodule⟩ := h
  have hs₁ := hopens.consistent henters.consistent
  refine ⟨s₁, linked, s', henters.becomes.trans hopens.grows.files, hlinks.consistent hs₁, hmodule,
    hlinks.leads hs₁, fun final hfinal => ?_⟩
  obtain ⟨spans', linked', t, hvisits', hkept⟩ := henters.visits hfinal
  obtain ⟨-, -, rfl⟩ := Visits.unique ⟨s₁, hopens, hlinks⟩ hvisits'
  rw [BuildState.modules_close] at hkept
  exact (List.prefix_append _ _).trans hkept

/-- An entry of the dependencies was recorded for a part. -/
theorem exists_linked_of_mem_dependencies {s : BuildState} {file : Path} {linked : List Linked}
    {target : Text} {number : ModuleNumber}
    (h : (target, number) ∈ (s.moduleOf file linked).dependencies) :
    ∃ link ∈ linked, link.dependency = some (target, number) :=
  List.mem_filterMap.1 (Dependencies.mem_of_mem_ofList h)

/-- Where a target leads is the path as it is written, under which a module is complete, or what
looking the target up gives. -/
theorem eq_or_of_destination_eq {s : BuildState} {file path : Path} {target : Text}
    (h : l.destination s file target = .ok (.file path)) :
    (path = (Lookup.targetPath file target).folded ∧ (s.table.find? path).isSome) ∨
      l.lookup.destination s.files file target = .ok (.file path) := by
  simp only [destination] at h
  split at h
  · next hsome =>
    cases h
    exact .inl ⟨rfl, hsome⟩
  · exact .inr h

/-- A target that leads to a vendor library names one. -/
theorem namesLibrary_of_destination {s : BuildState} {file : Path} {target other : Text}
    (h : l.destination s file target = .ok (.library other)) :
    l.lookup.namesLibrary target = true := by
  simp only [destination] at h
  split at h
  · cases h
  · unfold Lookup.destination at h
    split at h
    · assumption
    · split at h <;> cases h

/-- Every recorded target is that of a call that is followed, and its number is that of a module
that was complete before. -/
theorem IsFileModule.of_mem_dependencies (h : l.IsFileModule files root m spans) {target : Text}
    {number : ModuleNumber} (hmem : (target, number) ∈ m.dependencies) :
    ∃ call dep, .follow call ∈ l.partsOf spans ∧ call.target = target ∧ dep.number = number ∧
      1 ≤ number ∧ number < m.number ∧
      (∀ final, l.Completes files root final → dep ∈ final.table.modules) ∧
      (dep.path.same (Lookup.targetPath m.path target).folded = true ∨
        ∃ now path, l.Becomes files now ∧
          l.lookup.destination now m.path target = .ok (.file path) ∧
          dep.path.same path = true) := by
  obtain ⟨s, linked, s', hbecomes, htable, hmodule, hleads, hkept⟩ := h.leads
  rw [hmodule] at hmem
  obtain ⟨link, hlink, hdependency⟩ := exists_linked_of_mem_dependencies hmem
  obtain ⟨part, hpart, hlead⟩ := exists_mem_left_of_forall₂ hleads hlink
  cases hlead with
  | copy hnone => cases hnone.symm.trans hdependency
  | inline hnone => cases hnone.symm.trans hdependency
  | library _ _ _ hnone => cases hnone.symm.trans hdependency
  | @module t call path dep link hbefore hafter _ hdest hdep hpath hsome =>
    cases hsome.symm.trans hdependency
    -- the table had the module before the file was closed, so its number is in the table's bounds
    have hbounds := htable.number_bounds hdep
    have hnumber : m.number = s'.table.nextNumber := by rw [hmodule]; rfl
    refine ⟨call, dep, hpart, rfl, rfl, hbounds.1, hnumber ▸ hbounds.2,
      fun final hfinal => (hkept final hfinal).subset hdep, ?_⟩
    rcases eq_or_of_destination_eq hdest with ⟨rfl, -⟩ | hlookup
    · exact .inl hpath
    · exact .inr ⟨t.files, path, hbecomes.trans hbefore.files, hlookup, hpath⟩

/-- Every call that is followed and names no vendor library is recorded. -/
theorem IsFileModule.isSome_find? (h : l.IsFileModule files root m spans) {call : Call}
    (hcall : .follow call ∈ l.partsOf spans)
    (hlibrary : l.lookup.namesLibrary call.target = false) :
    (m.dependencies.find? call.target).isSome := by
  obtain ⟨s, linked, s', -, -, hmodule, hleads, -⟩ := h.leads
  obtain ⟨link, hlink, hlead⟩ := exists_mem_right_of_forall₂ hleads hcall
  cases hlead with
  | library _ _ hdest _ =>
    rw [namesLibrary_of_destination hdest] at hlibrary
    cases hlibrary
  | module _ _ _ _ _ _ hsome =>
    rw [hmodule]
    exact Dependencies.isSome_find?_ofList (List.mem_filterMap.2 ⟨link, hlink, hsome⟩)

/-- The spans of a file are those of its text, as the file was when the build entered it. -/
theorem IsFileModule.reads (h : l.IsFileModule files root m spans) :
    ∃ now text source filling, l.Becomes files now ∧ l.Reads now m.path text source filling ∧
      spans = source.spans filling := by
  obtain ⟨s, linked, s', henters, ⟨s₁, ⟨hreads⟩, -⟩, -⟩ := h
  exact ⟨s.files, _, _, _, henters.becomes, hreads, rfl⟩

/-- Markup requires nothing. -/
theorem IsFileModule.dependencies_eq_nil (h : l.IsFileModule files root m spans)
    (hkind : FileKind.ofPath m.path = .markup) : m.dependencies = [] := by
  obtain ⟨now, text, source, filling, -, hreads, rfl⟩ := h.reads
  rw [List.eq_nil_iff_forall_not_mem]
  rintro ⟨target, number⟩ hmem
  obtain ⟨call, -, hcall, -⟩ := h.of_mem_dependencies hmem
  have hrequire := Part.require_mem_of_follow_mem hcall
  have hfills := hreads.fills
  obtain ⟨htemplate, hnone⟩ := Source.require_not_mem_spans_of_markup hkind hreads.source_eq
  rw [htemplate] at hfills
  cases hfills
  exact hnone call hrequire

/-! ## Soundness and completeness -/

/-- A module of a graph is linked soundly from its spans. -/
structure LinkedSoundly (l : Linker) (files : FileSystem) (g : ModuleGraph) (m : Module)
    (spans : List Span) : Prop where
  /-- Every recorded target stands in a call. -/
  call_of_entry : ∀ {target number}, (target, number) ∈ m.dependencies →
    ∃ call, .require call ∈ spans ∧ call.target = target
  /-- Every call that is not replaced by a template and names no vendor library is recorded. -/
  entry_of_call : ∀ {call}, .follow call ∈ l.partsOf spans →
    l.lookup.namesLibrary call.target = false → (m.dependencies.find? call.target).isSome
  /-- Every recorded number is that of a module at the path as it is written, or at the file that
  looking the target up gives. -/
  module_of_entry : ∀ {target number}, (target, number) ∈ m.dependencies →
    ∃ dep ∈ g.modules, dep.number = number ∧
      (dep.path.same (Lookup.targetPath m.path target).folded = true ∨
        ∃ now path, l.Becomes files now ∧
          l.lookup.destination now m.path target = .ok (.file path) ∧ dep.path.same path = true)

/-- The modules of a graph are those of files and of templates.  Those of files are linked soundly
from the spans of their texts; those of markup and of templates depend on nothing. -/
theorem dependencies_sound_and_complete {g : ModuleGraph}
    (h : (l.graph files root).1 = .ok g) :
    (∀ m ∈ g.modules, (∃ spans, l.IsFileModule files root m spans) ∨
      l.IsTemplateModule files root m ∧ m.dependencies = []) ∧
    (∀ m spans, l.IsFileModule files root m spans → m ∈ g.modules ∧
      (∃ now text source filling, l.Becomes files now ∧ l.Reads now m.path text source filling ∧
        spans = source.spans filling) ∧
      l.LinkedSoundly files g m spans ∧
      (FileKind.ofPath m.path = .markup → m.dependencies = [])) := by
  obtain ⟨final, hfinal, rfl⟩ := completes_of_graph h
  constructor
  · intro m hm
    rcases hfinal.origin hm with hfile | htemplate
    · exact .inl hfile
    · obtain ⟨s, component, markup, hadds, rfl⟩ := htemplate
      exact .inr ⟨⟨s, component, markup, hadds, rfl⟩, rfl⟩
  · intro m spans hfile
    refine ⟨hfile.mem hfinal, hfile.reads, ⟨?_, ?_, ?_⟩, hfile.dependencies_eq_nil⟩
    · intro target number hmem
      obtain ⟨call, -, hcall, htarget, -⟩ := hfile.of_mem_dependencies hmem
      exact ⟨call, Part.require_mem_of_follow_mem hcall, htarget⟩
    · intro call hcall hlibrary
      exact hfile.isSome_find? hcall hlibrary
    · intro target number hmem
      obtain ⟨-, dep, -, -, hnumber, -, -, hkept, hpath⟩ := hfile.of_mem_dependencies hmem
      exact ⟨dep, hkept final hfinal, hnumber, hpath⟩

/-- In the small build, the script that requires markup is linked soundly. -/
theorem dependencies_sampleTree :
    (sampleLinker.graph sampleTree ⟨"a.js".toList⟩).1 = .ok sampleGraph ∧
      ∃ m spans, sampleGraph.modules[2]? = some m ∧
        m.dependencies = [("./d.html".toList, 2)] ∧
        sampleLinker.LinkedSoundly sampleTree sampleGraph m spans := by
  obtain ⟨hcases, hsound⟩ := dependencies_sound_and_complete graph_sampleTree
  rcases hcases _ (List.mem_of_getElem? (rfl : sampleGraph.modules[2]? = some _)) with
    ⟨spans, hfile⟩ | ⟨-, hnone⟩
  · exact ⟨graph_sampleTree, _, spans, rfl, rfl, (hsound _ spans hfile).2.2.1⟩
  · cases hnone

end Linker

end ScriptBundle

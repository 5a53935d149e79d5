/-
# Every path once

A file is looked up in the table before it is read, so it becomes one module however often it is
required.  The template of a component is added without being looked up.  If a module has its path
already, or a file with its path is still being read, then two modules have the same path in the
end, and the calls that lead there do not all get the same number.

## Main content

- `BuildState.Distinct` says that no path occurs twice among the complete modules and the files that
  are being read.
- `Linker.Opens.distinct`, `Linker.Links.distinct` and `Linker.Completes.distinct`: a build keeps
  this as long as the templates that it adds are new.
- `Linker.Enters.closes`: what is being read at some time is completed later.
- `Linker.Carries` says which number a call carries, and `Linker.IsFileModule.exists_carries` that
  every recorded number is carried.
- `Linker.pathsDistinct_iff_templatesAreNew`: the paths of a graph are distinct exactly if all
  templates were new.
-/
import Mathlib.Data.List.Pairwise
import ScriptBundle.Proofs.Build.Linking

namespace ScriptBundle

/-! ## Paths that differ -/

namespace Path

/-- Two paths differ in a component. -/
def Differs (p q : Path) : Prop := p.same q = false

instance (p q : Path) : Decidable (p.Differs q) := inferInstanceAs (Decidable (_ = false))

/-- Differing goes both ways. -/
theorem Differs.symm {p q : Path} (h : p.Differs q) : q.Differs p := by
  unfold Differs at *
  rwa [same_comm]

/-- A path that differs from all others may come in anywhere. -/
theorem pairwise_differs_middle {front back : List Path} {p : Path}
    (h : (front ++ back).Pairwise Differs) (hnew : ∀ q ∈ front ++ back, q.same p = false) :
    (front ++ p :: back).Pairwise Differs := by
  rw [List.pairwise_middle Differs.symm, List.pairwise_cons]
  exact ⟨fun q hq => Differs.symm (hnew q hq), h⟩

end Path

/-! ## Graphs without a path that occurs twice -/

namespace ModuleGraph

variable {g : ModuleGraph}

/-- No two modules of a graph have the same path. -/
def PathsDistinct (g : ModuleGraph) : Prop := (g.modules.map Module.path).Pairwise Path.Differs

instance : Decidable g.PathsDistinct := inferInstanceAs (Decidable (List.Pairwise _ _))

/-- If the paths of a graph are distinct, the path of a module differs from those in front of it. -/
theorem PathsDistinct.differs (h : g.PathsDistinct) {front : List Module} {m m' : Module}
    (hbegins : front ++ [m] <+: g.modules) (hm' : m' ∈ front) : m'.path.Differs m.path := by
  obtain ⟨back, hmodules⟩ := hbegins
  rw [PathsDistinct, ← hmodules, List.map_append, List.map_append, List.map_singleton] at h
  exact (List.pairwise_append.1 (List.pairwise_append.1 h).1).2.2 m'.path
    (List.mem_map_of_mem hm') m.path (List.mem_singleton_self _)

/-- If the paths of a graph are distinct, modules with the same path are the same module. -/
theorem PathsDistinct.eq_of_same (h : g.PathsDistinct) {m m' : Module} (hm : m ∈ g.modules)
    (hm' : m' ∈ g.modules) (hsame : m.path.same m'.path = true) : m = m' := by
  have hpairwise := List.pairwise_map.1 h
  have hsymm : Std.Symm fun a b : Module => a.path.Differs b.path := ⟨fun _ _ hab => hab.symm⟩
  by_contra hne
  have hdiffers := hpairwise.forall hm hm' hne
  rw [hdiffers] at hsame
  cases hsame

/-- If the paths of a graph are distinct, a path that occurs in it occurs once. -/
theorem PathsDistinct.countP_eq_one (h : g.PathsDistinct) {m : Module} {p : Path}
    (hm : m ∈ g.modules) (hsame : m.path.same p = true) :
    g.modules.countP (·.path.same p) = 1 := by
  obtain ⟨front, back, hmodules⟩ := List.append_of_mem hm
  have hpairwise := List.pairwise_map.1 h
  rw [hmodules, List.pairwise_append, List.pairwise_cons] at hpairwise
  obtain ⟨-, ⟨hback, -⟩, hfront⟩ := hpairwise
  have hother : ∀ m' : Module, m.path.Differs m'.path → ¬ m'.path.same p = true := by
    intro m' hdiffers hsame'
    rw [Path.same_comm] at hsame'
    rw [Path.Differs, Path.same_trans hsame hsame'] at hdiffers
    cases hdiffers
  -- the module itself counts, and none in front of it or behind it does
  rw [hmodules, List.countP_append, List.countP_cons, if_pos hsame,
    List.countP_eq_zero.2 fun m' hm' => hother m' (hfront m' hm' m (List.mem_cons_self ..)).symm,
    List.countP_eq_zero.2 fun m' hm' => hother m' (hback m' hm')]

end ModuleGraph

/-! ## States without a path that occurs twice -/

namespace BuildState

variable {s : BuildState} {path : Path}

/-- The paths of the complete modules, and behind them the files that are being read. -/
def paths (s : BuildState) : List Path := s.table.modules.map Module.path ++ s.inProgress

/-- No path occurs twice. -/
def Distinct (s : BuildState) : Prop := s.paths.Pairwise Path.Differs

/-- A file is new exactly if its path does not occur. -/
theorem isNew_iff (hs : s.table.Consistent) :
    s.IsNew path ↔ ∀ p ∈ s.paths, p.same path = false := by
  simp only [IsNew, paths, hs.find?_eq_none_iff, List.any_eq_false, List.mem_append, List.mem_map,
    Bool.not_eq_true]
  constructor
  · rintro ⟨htable, hprogress⟩ p (⟨m, hm, rfl⟩ | hp)
    · exact htable m hm
    · exact hprogress p hp
  · intro h
    exact ⟨fun m hm => h m.path (.inl ⟨m, hm, rfl⟩), fun p hp => h p (.inr hp)⟩

/-- A new file can be read. -/
theorem Distinct.read (h : s.Distinct) (hs : s.table.Consistent) (hnew : s.IsNew path) :
    Distinct { s with inProgress := s.inProgress ++ [path] } := by
  have hlast : (s.paths ++ [path]).Pairwise Path.Differs := by
    apply Path.pairwise_differs_middle
    · rwa [List.append_nil]
    · rw [List.append_nil]
      exact (isNew_iff hs).1 hnew
  rwa [paths, List.append_assoc] at hlast

/-- A new module can be added. -/
theorem Distinct.add (h : s.Distinct) (hs : s.table.Consistent) (hnew : s.IsNew path) (text : Text)
    (dependencies : Dependencies) :
    Distinct { s with table := s.table.add path text dependencies } := by
  have hmiddle := Path.pairwise_differs_middle h ((isNew_iff hs).1 hnew)
  unfold Distinct paths
  rw [ModuleTable.modules_add, List.map_append, List.append_assoc]
  exact hmiddle

/-- When the file that was read last is closed, its path goes over to its module. -/
theorem perm_paths_close {outer : List Path} (hprogress : s.inProgress = outer ++ [path])
    (linked : List Linker.Linked) : s.paths.Perm (s.close path linked).paths := by
  unfold paths
  rw [modules_close, List.map_append, List.append_assoc]
  apply List.Perm.append_left
  show s.inProgress.Perm ([path] ++ s.inProgress.dropLast)
  rw [hprogress, List.dropLast_concat]
  exact List.perm_append_comm

/-- The file that was read last can be closed. -/
theorem Distinct.close (h : s.Distinct) {outer : List Path}
    (hprogress : s.inProgress = outer ++ [path]) (linked : List Linker.Linked) :
    (s.close path linked).Distinct :=
  ((perm_paths_close hprogress linked).pairwise_iff Path.Differs.symm).1 h

end BuildState

namespace Linker

variable {l : Linker} {files : FileSystem} {root file : Path} {s s₁ s₂ s' final : BuildState}

/-! ## Builds that add new templates only -/

/-- All templates that a build adds are new: when the template of a component is seen to, no module
and no file that is being read has its path. -/
def TemplatesAreNew (l : Linker) (files : FileSystem) (root : Path) : Prop :=
  ∀ s component markup, l.AddsTemplate files root s component markup →
    BuildState.IsNew { s with inProgress := s.inProgress ++ [component] }
      (Source.templatePath component)

/-- Opening a new file keeps the paths distinct. -/
theorem Opens.distinct {spans : List Span} (h : l.Opens s file spans s₁)
    (htemplates : l.TemplatesAreNew files root) (henters : l.Enters files root s file)
    (hnew : s.IsNew file) (hs : s.Distinct) : s₁.Distinct := by
  have hread := hs.read henters.consistent hnew
  cases h with
  | @intro text source filling hreads =>
    show BuildState.Distinct (l.opened s file text source.template)
    unfold opened
    cases htemplate : source.template with
    | none => exact hread
    | some markup =>
      cases hcompiler : l.compiler with
      | some compiler =>
        simp only [tableAfter, hcompiler]
        exact hread
      | none =>
        simp only [tableAfter, hcompiler]
        have hadds : l.AddsTemplate files root s file markup :=
          ⟨hcompiler, henters, text, source, filling, hreads, htemplate⟩
        exact hread.add henters.consistent (htemplates s file markup hadds) _ _

/-- Linking parts keeps the paths distinct. -/
theorem Links.distinct {parts : List Part} {linked : List Linked}
    (h : l.Links s file parts linked s') (htemplates : l.TemplatesAreNew files root)
    (hamid : l.Amid files root s file parts) (hs : s.Distinct) : s'.Distinct := by
  induction h with
  | nil => exact hs
  | settle hpart _ ih =>
    have hnext := hamid.next (.settle hpart .nil)
    obtain ⟨changed, -, rfl⟩ := hpart.state
    exact ih hnext hs
  | enter hdest hnew hopens hinner _ ihinner ihparts =>
    have henters := hamid.enters hdest hnew
    have hopened := hopens.distinct htemplates henters hnew hs
    have hlinked := ihinner (henters.amid hopens) hopened
    -- the file that was entered is again the last one that is being read
    have hprogress := hinner.grows.inProgress.trans hopens.grows.inProgress
    exact ihparts (hamid.next (.enter hdest hnew hopens hinner .nil)) (hlinked.close hprogress _)

/-- A build that adds new templates only completes no path twice. -/
theorem Completes.distinct (h : l.Completes files root final)
    (htemplates : l.TemplatesAreNew files root) : final.Distinct := by
  obtain ⟨path, spans, linked, s', hroot, ⟨s₁, hopens, hlinks⟩, rfl⟩ := h
  have henters : l.Enters files root { files } path := .root hroot
  have hopened := hopens.distinct htemplates henters ⟨rfl, rfl⟩ .nil
  have hlinked := hlinks.distinct htemplates (henters.amid hopens) hopened
  exact hlinked.close (hlinks.grows.inProgress.trans hopens.grows.inProgress) linked

/-- If all templates are new, the paths of the graph are distinct. -/
theorem Completes.pathsDistinct {g : ModuleGraph} (h : l.Completes files root final)
    (hg : g.modules = final.table.modules) (htemplates : l.TemplatesAreNew files root) :
    g.PathsDistinct := by
  have hdistinct := h.distinct htemplates
  rw [ModuleGraph.PathsDistinct, hg]
  exact (List.pairwise_append.1 hdistinct).1

/-! ## What is being read is completed -/

/-- In a build that ends well, the parts of a file that are left are linked too, and the file is
closed. -/
theorem Enters.goesOn (h : l.Enters files root s file) (hfinal : l.Completes files root final)
    {spans : List Span} {front back : List Part} {linked : List Linked}
    (hopens : l.Opens s file spans s₁) (hparts : l.partsOf spans = front ++ back)
    (hlinks : l.Links s₁ file front linked s₂) :
    ∃ t all rest, l.Links s₁ file (l.partsOf spans) all t ∧ l.Links s₂ file back rest t ∧
      (t.close file all).table.modules <+: final.table.modules := by
  obtain ⟨spans', all, t, ⟨t₁, hopens', hall⟩, hkept⟩ := h.visits hfinal
  obtain ⟨rfl, rfl⟩ := hopens.unique hopens'
  have hsplit := hall
  rw [hparts] at hsplit
  obtain ⟨linked₁, linked₂, u, hfront, hback, -⟩ := hsplit.split
  obtain ⟨rfl, rfl⟩ := hlinks.unique hfront
  exact ⟨t, all, linked₂, hall, hback, hkept⟩

/-- In a build that ends well, all that is being read while a file is linked is completed later. -/
theorem Enters.closes (h : l.Enters files root s file) (hfinal : l.Completes files root final)
    {spans : List Span} {front back : List Part} {linked : List Linked}
    (hopens : l.Opens s file spans s₁) (hparts : l.partsOf spans = front ++ back)
    (hlinks : l.Links s₁ file front linked s₂) {path : Path} (hpath : path ∈ s₂.inProgress) :
    ∃ (t : BuildState) (inner : List Linked), s₂.table.modules <+: t.table.modules ∧
      (t.close path inner).table.modules <+: final.table.modules := by
  -- on how the file was entered: the files that are being read are it and those around it
  induction h generalizing s₁ s₂ spans front back linked with
  | root hroot =>
    obtain ⟨t, all, rest, -, hback, hkept⟩ :=
      Enters.goesOn (.root hroot) hfinal hopens hparts hlinks
    rw [hlinks.grows.inProgress, hopens.grows.inProgress] at hpath
    obtain rfl := List.mem_singleton.1 hpath
    exact ⟨t, all, hback.grows.modules, hkept⟩
  | follow houter houter₁ hparts₁ hfront hdest hnew ih =>
    obtain ⟨t, all, rest, hall, hback, hkept⟩ :=
      Enters.goesOn (.follow houter houter₁ hparts₁ hfront hdest hnew) hfinal hopens hparts hlinks
    rw [hlinks.grows.inProgress, hopens.grows.inProgress] at hpath
    rcases List.mem_append.1 hpath with hread | hfile
    · -- a file that was being read before is still being read when this one is closed
      have hclosed := hfront.append (.enter hdest hnew hopens hall .nil)
      have hstill := hclosed.grows.inProgress.trans hfront.grows.inProgress.symm
      obtain ⟨v, inner, hv, hlater⟩ :=
        ih houter₁ (hparts₁.trans (List.append_cons ..)) hclosed (hstill ▸ hread)
      refine ⟨v, inner, hback.grows.modules.trans (List.IsPrefix.trans ?_ hv), hlater⟩
      rw [BuildState.modules_close]
      exact List.prefix_append _ _
    · obtain rfl := List.mem_singleton.1 hfile
      exact ⟨t, all, hback.grows.modules, hkept⟩

/-- If the paths of a completed build are distinct, then all templates were new. -/
theorem Completes.templatesAreNew {g : ModuleGraph} (h : l.Completes files root final)
    (hg : g.modules = final.table.modules) (hdistinct : g.PathsDistinct) :
    l.TemplatesAreNew files root := by
  rintro s component markup ⟨hcompiler, henters, text, source, filling, hreads, htemplate⟩
  have hopens := Opens.intro hreads
  -- right after the component is opened, the module of the template is the last one
  have hadded : (l.opened s component text source.template).table.modules = s.table.modules ++
      [⟨s.table.nextNumber, Source.templatePath component, Literal.exportText markup, []⟩] := by
    simp only [opened, tableAfter, htemplate, hcompiler, ModuleTable.modules_add]
  refine (BuildState.isNew_iff (s := { s with inProgress := s.inProgress ++ [component] })
    henters.consistent).2 fun p hp => ?_
  rcases List.mem_append.1 hp with htable | hprogress
  · obtain ⟨m, hm, rfl⟩ := List.mem_map.1 htable
    obtain ⟨t, all, rest, -, hback, hkept⟩ :=
      henters.goesOn h hopens (List.nil_append _).symm .nil
    have hbegins := hback.grows.modules.trans ((List.prefix_append _ _).trans hkept)
    rw [hadded, ← hg] at hbegins
    have hdiffers := hdistinct.differs hbegins hm
    exact hdiffers
  · obtain ⟨t, inner, hgrows, hkept⟩ :=
      henters.closes h hopens (List.nil_append _).symm .nil hprogress
    rw [hadded] at hgrows
    rw [BuildState.modules_close, ← hg] at hkept
    have hmem := hgrows.subset (List.mem_append_right _ (List.mem_singleton_self _))
    have hdiffers := hdistinct.differs hkept hmem
    exact hdiffers.symm

/-! ## The numbers of calls -/

/-- At some time of a build, a call leads to a path, and this number is recorded for it. -/
def Carries (l : Linker) (files : FileSystem) (root path : Path) (number : ModuleNumber) : Prop :=
  ∃ s file call parts s', l.Amid files root s file (.follow call :: parts) ∧
    l.destination s file call.target = .ok (.file path) ∧
    l.Links s file [.follow call] [⟨call.text, some (call.target, number)⟩] s'

/-- The number that is recorded for a call is that of a module at the path to which it leads. -/
theorem Carries.exists_module {path : Path} {number : ModuleNumber}
    (h : l.Carries files root path number) (hfinal : l.Completes files root final) :
    ∃ m ∈ final.table.modules, m.number = number ∧ m.path.same path = true := by
  obtain ⟨s, file, call, parts, s', hamid, hdest, hlinks⟩ := h
  have hkept : s'.table.modules ⊆ final.table.modules := by
    obtain ⟨s₀, s₁, spans, front, linked, henters, hopens, hparts, hfront⟩ := hamid
    obtain ⟨t, all, rest, -, hback, hclosed⟩ :=
      henters.goesOn hfinal hopens (hparts.trans (List.append_cons ..)) (hfront.append hlinks)
    rw [BuildState.modules_close] at hclosed
    exact (hback.grows.modules.trans ((List.prefix_append _ _).trans hclosed)).subset
  have hs : s.table.Consistent := by
    obtain ⟨s₀, s₁, spans, front, linked, henters, hopens, -, hfront⟩ := hamid
    exact hfront.consistent (hopens.consistent henters.consistent)
  cases hlinks with
  | settle hpart hnil =>
    cases hnil
    cases hpart with
    | complete hdest' hfound =>
      obtain ⟨hmem, hsame⟩ := hs.of_find?_eq_some hfound
      rw [hdest] at hdest'
      cases hdest'
      exact ⟨_, hkept hmem, rfl, hsame⟩
  | @enter _ _ s₂ _ _ _ _ _ _ inner _ hdest' hnew hopens hinner hnil =>
    cases hnil
    rw [hdest] at hdest'
    cases hdest'
    refine ⟨s₂.moduleOf path inner, hkept ?_, rfl, Path.same_refl path⟩
    rw [BuildState.modules_close]
    exact List.mem_append_right _ (List.mem_singleton_self _)

/-- Every number that a module records is carried by one of its calls. -/
theorem IsFileModule.exists_carries {m : Module} {spans : List Span}
    (h : l.IsFileModule files root m spans) {target : Text} {number : ModuleNumber}
    (hmem : (target, number) ∈ m.dependencies) :
    ∃ path, l.Carries files root path number := by
  obtain ⟨s, linked, s', henters, ⟨s₁, hopens, hlinks⟩, hmodule⟩ := h
  rw [hmodule] at hmem
  obtain ⟨link, hlink, hdependency⟩ := exists_linked_of_mem_dependencies hmem
  obtain ⟨front, part, back, linked₁, t, u, hparts, hfront, hpart⟩ := hlinks.exists_part hlink
  have hamid : l.Amid files root t m.path (part :: back) :=
    ⟨s, s₁, spans, front, linked₁, henters, hopens, hparts, hfront⟩
  have hcall := hpart
  cases hpart with
  | settle hsettle _ =>
    cases hsettle with
    | copy => cases hdependency
    | inline _ => cases hdependency
    | library _ => cases hdependency
    | complete hdest _ =>
      cases hdependency
      exact ⟨_, t, m.path, _, back, u, hamid, hdest, hcall⟩
  | enter hdest _ _ _ _ =>
    cases hdependency
    exact ⟨_, t, m.path, _, back, u, hamid, hdest, hcall⟩

/-! ## Graphs -/

/-- The paths of a graph are distinct exactly if all templates were new when they were added.  If
they are, all calls that lead to the same path carry the same number, and every recorded number is
carried by a call. -/
theorem pathsDistinct_iff_templatesAreNew {g : ModuleGraph}
    (h : (l.graph files root).1 = .ok g) :
    (g.PathsDistinct ↔ l.TemplatesAreNew files root) ∧
    (g.PathsDistinct → ∀ path number path' number', l.Carries files root path number →
      l.Carries files root path' number' → path.same path' = true → number = number') ∧
    (∀ m ∈ g.modules, ∀ target number, (target, number) ∈ m.dependencies →
      ∃ path, l.Carries files root path number) := by
  obtain ⟨final, hfinal, rfl⟩ := completes_of_graph h
  refine ⟨⟨hfinal.templatesAreNew rfl, hfinal.pathsDistinct rfl⟩, ?_, ?_⟩
  · intro hdistinct path number path' number' hcarries hcarries' hsame
    -- both numbers are those of modules with this path, and there is one such module
    obtain ⟨m, hm, rfl, hpath⟩ := hcarries.exists_module hfinal
    obtain ⟨m', hm', rfl, hpath'⟩ := hcarries'.exists_module hfinal
    rw [Path.same_comm] at hpath'
    have hsame' := Path.same_trans (Path.same_trans hpath hsame) hpath'
    rw [hdistinct.eq_of_same hm hm' hsame']
  · intro m hm target number hmem
    rcases hfinal.origin hm with ⟨spans, hfile⟩ | ⟨s, component, markup, -, rfl⟩
    · exact hfile.exists_carries hmem
    · cases hmem

/-- In the small build no path occurs twice, so its template was new, and all calls that lead to the
script that is required twice carry its number. -/
theorem templatesAreNew_sampleTree :
    (sampleLinker.graph sampleTree ⟨"a.js".toList⟩).1 = .ok sampleGraph ∧
      sampleGraph.PathsDistinct ∧ sampleLinker.TemplatesAreNew sampleTree ⟨"a.js".toList⟩ ∧
      ∃ path, sampleLinker.Carries sampleTree ⟨"a.js".toList⟩ path 3 ∧
        ∀ path' number, sampleLinker.Carries sampleTree ⟨"a.js".toList⟩ path' number →
          path.same path' = true → 3 = number := by
  obtain ⟨hiff, hagree, hcarried⟩ := pathsDistinct_iff_templatesAreNew graph_sampleTree
  have hdistinct : sampleGraph.PathsDistinct := by decide +kernel
  have hmem := List.mem_of_getElem? (rfl : sampleGraph.modules[3]? = some _)
  obtain ⟨path, hpath⟩ := hcarried _ hmem "./b".toList 3 (List.mem_cons_self ..)
  exact ⟨graph_sampleTree, hdistinct, hiff.1 hdistinct, path, hpath,
    fun path' number hcarries hsame => hagree hdistinct path 3 path' number hpath hcarries hsame⟩

end Linker

/-! ## A template that is not new -/

/-- A component with a template, and a script that has the path of this template and is required in
front of the component. -/
def clashTree : FileSystem :=
  sampleFiles
    [("a.js", "require('./c.vue.template');\nrequire('./c.vue');\n"),
      ("c.vue", "<template>\n<p>\n</template>\n<script>\nmodule.exports = \x7b\n\x7d;\n"),
      ("c.vue.template", "module.exports = 1;\n")]

/-- The graph of a build in which the template is not new.  The script requires the other script by
the path, and the component its template. -/
def clashGraph : ModuleGraph where
  modules :=
    [⟨1, ⟨"c.vue.template".toList⟩, "module.exports = 1;\n".toList, []⟩,
      ⟨2, ⟨"c.vue.template".toList⟩, "module.exports = \"<p>\\n\";\n".toList, []⟩,
      ⟨3, ⟨"c.vue".toList⟩,
        "module.exports = \x7b\ntemplate: require('c.vue.template'),\x7d;\n".toList,
        [("c.vue.template".toList, 2)]⟩,
      ⟨4, ⟨"a.js".toList⟩, "require('./c.vue.template');\nrequire('./c.vue');\n".toList,
        [("./c.vue".toList, 3), ("./c.vue.template".toList, 1)]⟩]
  entry := 4
  styles := []

/-- Two modules of a graph can have the same path. -/
theorem not_pathsDistinct_clashTree :
    (Linker.graph {} clashTree ⟨"a.js".toList⟩).1 = .ok clashGraph ∧
      ¬ clashGraph.PathsDistinct := by
  decide +kernel

end ScriptBundle

/-
# The numbers of the modules

The modules of a graph are numbered from one in the order in which they were completed.  A module is
completed when all that it requires is complete, so what a module depends on always has a smaller
number, and the root comes last.

## Main content

- `Linker.Completes.getLast?`: the root is the last module.
- `Linker.Completes.number_lt_of_mem_dependencies`: dependencies are modules with smaller numbers.
- `ModuleGraph.Requires` is the relation between the numbers of modules that the dependencies make;
  `ModuleGraph.not_transGen_requires` says when there is no circle in it.
- `Linker.graph_numbered`: all this holds of every graph.
-/
import ScriptBundle.Proofs.Build.Linking

namespace ScriptBundle

/-! ## What the numbers require -/

namespace ModuleGraph

variable {g : ModuleGraph} {n k : ModuleNumber}

/-- The module with one number depends on the module with another one. -/
def Requires (g : ModuleGraph) (n k : ModuleNumber) : Prop :=
  ∃ m ∈ g.modules, m.number = n ∧ ∃ target, (target, k) ∈ m.dependencies

/-- If all dependencies have smaller numbers, so has all that is required in any number of steps. -/
theorem lt_of_transGen_requires
    (hsmaller : ∀ m ∈ g.modules, ∀ entry ∈ m.dependencies, entry.2 < m.number)
    (h : Relation.TransGen g.Requires n k) : k < n := by
  have hstep : ∀ {a b}, g.Requires a b → b < a := by
    rintro a b ⟨m, hm, rfl, target, hmem⟩
    exact hsmaller m hm _ hmem
  induction h with
  | single hrequires => exact hstep hrequires
  | tail _ hrequires ih => exact Nat.lt_trans (hstep hrequires) ih

/-- If all dependencies have smaller numbers, no module requires itself. -/
theorem not_transGen_requires
    (hsmaller : ∀ m ∈ g.modules, ∀ entry ∈ m.dependencies, entry.2 < m.number)
    (n : ModuleNumber) : ¬ Relation.TransGen g.Requires n n :=
  fun h => Nat.lt_irrefl n (lt_of_transGen_requires hsmaller h)

end ModuleGraph

namespace Linker

variable {l : Linker} {files : FileSystem} {root : Path} {final : BuildState} {m : Module}

/-! ## Completed builds -/

/-- The module of the root is the last one, and has the number in front of the next one. -/
theorem Completes.getLast? (h : l.Completes files root final) :
    ∃ m, final.table.modules.getLast? = some m ∧ m.number = final.table.nextNumber - 1 ∧
      l.lookup.rootFile files root = .ok m.path := by
  obtain ⟨path, spans, linked, s', hroot, -, rfl⟩ := h
  refine ⟨s'.moduleOf path linked, ?_, rfl, hroot⟩
  rw [BuildState.modules_close]
  exact List.getLast?_concat

/-- What a module depends on is a module with a smaller number. -/
theorem Completes.number_lt_of_mem_dependencies (h : l.Completes files root final)
    (hm : m ∈ final.table.modules) {target : Text} {number : ModuleNumber}
    (hmem : (target, number) ∈ m.dependencies) :
    1 ≤ number ∧ number < m.number ∧ ∃ dep ∈ final.table.modules, dep.number = number := by
  rcases h.origin hm with ⟨spans, hfile⟩ | ⟨s, component, markup, -, rfl⟩
  · obtain ⟨call, dep, -, -, hnumber, hpos, hlt, hkept, -⟩ := hfile.of_mem_dependencies hmem
    exact ⟨hpos, hlt, dep, hkept final h, hnumber⟩
  · -- a template requires nothing
    cases hmem

/-! ## Graphs -/

/-- The modules of a graph are numbered in their order, the entry is the last one, which is the
module of the root, dependencies have smaller numbers, and there is no circle. -/
theorem graph_numbered {g : ModuleGraph} (h : (l.graph files root).1 = .ok g) :
    (∀ i m, g.modules[i]? = some m → m.number = i + 1) ∧
    (g.entry = g.modules.length ∧ ∃ m, g.modules.getLast? = some m ∧ m.number = g.entry ∧
      l.lookup.rootFile files root = .ok m.path) ∧
    (∀ m ∈ g.modules, ∀ target number, (target, number) ∈ m.dependencies →
      1 ≤ number ∧ number < m.number ∧ ∃ dep ∈ g.modules, dep.number = number) ∧
    ∀ n, ¬ Relation.TransGen g.Requires n n := by
  obtain ⟨final, hfinal, rfl⟩ := completes_of_graph h
  have hconsistent := hfinal.consistent
  refine ⟨fun i m hm => hconsistent.number_eq hm, ⟨?_, hfinal.getLast?⟩, ?_, ?_⟩
  · show final.table.nextNumber - 1 = final.table.modules.length
    rw [hconsistent.nextNumber_eq, Nat.add_sub_cancel]
  · intro m hm target number hmem
    exact hfinal.number_lt_of_mem_dependencies hm hmem
  · apply ModuleGraph.not_transGen_requires
    rintro m hm ⟨target, number⟩ hmem
    exact (hfinal.number_lt_of_mem_dependencies hm hmem).2.1

/-- In the small build, the component requires the script in front of it, and nothing requires
itself. -/
theorem numbered_sampleTree :
    (sampleLinker.graph sampleTree ⟨"a.js".toList⟩).1 = .ok sampleGraph ∧
      (∃ m, sampleGraph.modules[3]? = some m ∧ m.number = 3 + 1 ∧
        ("./b".toList, 3) ∈ m.dependencies ∧ ∃ dep ∈ sampleGraph.modules, dep.number = 3) ∧
      sampleGraph.entry = sampleGraph.modules.length ∧
      ∀ n, ¬ Relation.TransGen sampleGraph.Requires n n := by
  obtain ⟨hnumbers, hentry, hdependencies, hcircle⟩ := graph_numbered graph_sampleTree
  refine ⟨graph_sampleTree, ⟨_, rfl, hnumbers 3 _ rfl, List.mem_cons_self .., ?_⟩, hentry.1,
    hcircle⟩
  have hmem := List.mem_of_getElem? (rfl : sampleGraph.modules[3]? = some _)
  exact (hdependencies _ hmem "./b".toList 3 (List.mem_cons_self ..)).2.2

end Linker

end ScriptBundle

/-
# The texts of modules

Without a compiler nothing is rewritten on the way from a file to its module.  A script is cut into
lines, tokens and spans and put together again from what was linked, and comes out as it was read.  The
module of a component is its script, line by line, with the reference to the template in its slot.

## Main content

- `Component.moduleText` is the text that the module of a component should have.
- `Source.text_spans_ofComponent`: the spans of a component make up this text.
- `Linker.texts_of_graph`: the texts of the modules of a graph.
-/
import Mathlib.Data.List.TakeWhile
import ScriptBundle.Proofs.Build.Ending

namespace ScriptBundle

/-! ## The text of a component -/

namespace Component

variable {file : Path} {lines : List Line}

/-- What stands for a script line in the module of a component: the line itself, or in the slot the
reference to the template. -/
def Line.textIn (file : Path) : Line → Text
  | .code text => text
  | .slot => Source.templateReference file

/-- The script lines of a component in their order, with the reference to the template in the slot. -/
def moduleText (file : Path) (component : Component) : Text :=
  component.script.flatMap (Line.textIn file)

/-- Lines without a slot are written as they are. -/
theorem text_pieces_of_slot_not_mem (h : .slot ∉ lines) :
    (lines.flatMap Line.pieces).flatMap Piece.text = lines.flatMap (Line.textIn file) := by
  rw [List.flatMap_assoc]
  apply List.flatMap_congr
  intro line hline
  cases line with
  | code text => exact List.append_nil text
  | slot => exact absurd hline h

/-- A script with one slot is cut there. -/
theorem exists_split_of_hasSlot {component : Component} (h : component.hasSlot = true)
    (hcount : component.script.count .slot ≤ 1) :
    ∃ front back, component.script = front ++ .slot :: back ∧ .slot ∉ front ∧ .slot ∉ back ∧
      component.script.takeWhile (· ≠ .slot) = front := by
  obtain ⟨front, back, heq, hfront⟩ := List.eq_append_cons_of_mem (List.contains_iff_mem.1 h)
  refine ⟨front, back, heq, hfront, ?_, ?_⟩
  · rw [heq, List.count_append, List.count_cons_self] at hcount
    rw [← List.count_eq_zero]
    omega
  · rw [heq, List.takeWhile_append_of_pos, List.takeWhile_cons_of_neg (by simp), List.append_nil]
    intro line hline
    exact decide_eq_true fun hslot => hfront (hslot ▸ hline)

end Component

/-- The spans of a component make up its script, with the reference to the template in the slot. -/
theorem Source.text_spans_ofComponent {l : Linker} {files : FileSystem} {file : Path}
    {component : Component} {source : Source} {filling : List Piece}
    (h : ofComponent file component = .ok source) (hcount : component.script.count .slot ≤ 1)
    (hcompiler : l.compiler = none) (hfills : l.Fills files file source.template filling) :
    (source.spans filling).flatMap Span.text = component.moduleText file := by
  rw [spans, Span.text_ofPieces, List.flatMap_append, List.flatMap_append, Component.moduleText]
  simp only [ofComponent] at h
  split at h
  case isTrue hslot =>
    obtain ⟨front, back, heq, hfront, hback, htake⟩ := Component.exists_split_of_hasSlot hslot hcount
    have hdrop : component.script.drop (front.length + 1) = back := by
      rw [heq, List.drop_length_add_append]
      rfl
    rw [htake, hdrop] at h
    split at h
    · cases h
    · cases h
      cases hfills with
      | compiled hsome => cases hcompiler.symm.trans hsome
      | reference =>
        rw [heq, List.flatMap_append, List.flatMap_cons,
          Component.text_pieces_of_slot_not_mem hfront,
          Component.text_pieces_of_slot_not_mem hback, List.append_assoc]
        exact congrArg (_ ++ ·) (congrArg (· ++ _) (List.append_nil _))
  case isFalse hslot =>
    have hnone : .slot ∉ component.script := fun hmem => hslot (List.contains_iff_mem.2 hmem)
    have hall : component.script.takeWhile (· ≠ .slot) = component.script := by
      rw [List.takeWhile_eq_self_iff]
      rintro line hline
      exact decide_eq_true fun hslot => hnone (hslot ▸ hline)
    cases h
    cases hfills
    rw [hall, Component.text_pieces_of_slot_not_mem hnone]
    exact (List.append_nil _).trans (List.append_nil _)

namespace Linker

variable {l : Linker} {files : FileSystem} {root : Path} {m : Module} {spans : List Span}

/-- The spans of a component make up the text that its module should have. -/
theorem Reads.text_of_component {file : Path} {text : Text} {source : Source} {filling : List Piece}
    (h : l.Reads files file text source filling) (hkind : FileKind.ofPath file = .component)
    (hcompiler : l.compiler = none) :
    ∃ component, (Component.takeApart text).rest = .ok component ∧
      (source.spans filling).flatMap Span.text = component.moduleText file := by
  have hsource := h.source_eq
  simp only [Source.read, hkind, Source.readComponent] at hsource
  cases hrest : (Component.takeApart text).rest with
  | error defect =>
    rw [hrest] at hsource
    cases hsource
  | ok component =>
    rw [hrest] at hsource
    exact ⟨component, rfl, Source.text_spans_ofComponent hsource (Component.count_slot_takeApart hrest)
      hcompiler h.fills⟩

/-! ## The modules of a graph -/

/-- The modules of a graph are those of files and of templates.  Without a compiler, the module of a
script has the text of its file, and the module of a component has the lines of its script in their
order, with the reference to the template in the slot and with nothing else. -/
theorem texts_of_graph {g : ModuleGraph} (h : (l.graph files root).1 = .ok g)
    (hcompiler : l.compiler = none) :
    (∀ m ∈ g.modules, (∃ spans, l.IsFileModule files root m spans) ∨
      l.IsTemplateModule files root m) ∧
    ∀ m spans, l.IsFileModule files root m spans → m ∈ g.modules ∧
      ∃ text, files.readText m.path = .ok text ∧
        (FileKind.ofPath m.path = .script → m.text = text) ∧
        (FileKind.ofPath m.path = .component →
          ∃ component, (Component.takeApart text).rest = .ok component ∧
            m.text = component.moduleText m.path) := by
  obtain ⟨final, hfinal, rfl⟩ := completes_of_graph h
  refine ⟨fun m hm => hfinal.origin hm, fun m spans hfile => ⟨hfile.mem hfinal, ?_⟩⟩
  have htext := hfile.text_eq hcompiler
  obtain ⟨now, text, source, filling, hnow, hreads, rfl⟩ := hfile.reads
  -- nothing but a compiler changes files in the course of a build
  obtain rfl := (keepsFiles_of_compiler_eq_none hcompiler files).eq_of_becomes hnow
  refine ⟨text, hreads.text_eq, fun hkind => ?_, fun hkind => ?_⟩
  · rw [htext, hreads.text_of_script hkind]
  · rw [htext]
    exact hreads.text_of_component hkind hcompiler

/-- The text of the component in the small build. -/
def sampleComponentText : Text :=
  ("<template>\n<b>\n</template>\n" ++
    "<script>\nrequire('./b');\nmodule.exports = \x7b\n\x7d;\n").toList

/-- The script of this component, with its slot. -/
def sampleScript : List Component.Line :=
  [.code "require('./b');\n".toList, .code "module.exports = \x7b\n".toList, .slot,
    .code "\x7d;\n".toList]

/-- In the small build, the module of the component has the script with the reference in it. -/
theorem texts_sampleTree :
    (sampleLinker.graph sampleTree ⟨"a.js".toList⟩).1 = .ok sampleGraph ∧
      sampleLinker.compiler = none ∧ FileKind.ofPath ⟨"c.vue".toList⟩ = .component ∧
      ∃ m ∈ sampleGraph.modules, m.path = ⟨"c.vue".toList⟩ ∧
        m.text = sampleScript.flatMap (Component.Line.textIn ⟨"c.vue".toList⟩) := by
  obtain ⟨hcases, htexts⟩ := texts_of_graph graph_sampleTree rfl
  have hm := List.mem_of_getElem? (rfl : sampleGraph.modules[3]? = some _)
  refine ⟨graph_sampleTree, rfl, by decide, _, hm, rfl, ?_⟩
  rcases hcases _ hm with ⟨spans, hfile⟩ | ⟨s, component, markup, -, heq⟩
  · obtain ⟨-, text, hread, -, hcomponent⟩ := htexts _ spans hfile
    obtain ⟨component, hrest, htext⟩ := hcomponent (by decide)
    have hfound : sampleTree.readText ⟨"c.vue".toList⟩ = .ok sampleComponentText := by
      decide +kernel
    cases hfound.symm.trans hread
    have htaken : (Component.takeApart sampleComponentText).rest =
        .ok ⟨some "<b>\n".toList, sampleScript⟩ := by
      decide +kernel
    cases htaken.symm.trans hrest
    exact htext
  · cases congrArg Module.dependencies heq

end Linker

end ScriptBundle

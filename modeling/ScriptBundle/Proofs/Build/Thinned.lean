/-
# Modules without those of templates

Without a compiler every template becomes a module of its own.  If the templates are compiled into
their components, these modules are missing, the other ones have lower numbers, and in the text of a
component the compiled template stands in place of the reference to its module.  All else is as it
was.

## Main content

- `renumber` gives the numbers that modules have without those of templates.
- `Module.CompilesTo` says what compiling makes of a module, and `ModuleTable.CompilesTo` what it
  makes of a table.
- `ModuleTable.CompilesTo.addTemplate` and `ModuleTable.CompilesTo.add`: a table without templates
  stays one when a template is added to the other table, or another module to both.
-/
import Mathlib.Data.List.Forall2
import ScriptBundle.Proofs.Build.Templates
import ScriptBundle.Proofs.ModuleTable.Dependencies

namespace ScriptBundle

/-- The ending of the file names of templates. -/
def Source.templateEnding : Text := ".vue.template".toList

/-- Paths with the same components have the same ending. -/
theorem Path.nameEndsWith_eq_of_same {p q : Path} (h : p.same q = true) (ending : Text) :
    p.nameEndsWith ending = q.nameEndsWith ending := by
  rw [nameEndsWith, nameEndsWith, fileName?_eq_of_same h]

/-- Whether a module has the name of a template. -/
def Module.isTemplate (m : Module) : Bool := m.path.nameEndsWith Source.templateEnding

/-- Whether a target is the one by which a component refers to its template. -/
def Source.isOwnTemplate (file : Path) (target : Text) : Bool :=
  Component.isComponent file && target == templateName file

/-! ## Numbers without templates -/

/-- The number that a module has without the templates: how many others there are up to it. -/
def renumber (modules : List Module) (n : ModuleNumber) : ModuleNumber :=
  (modules.take n).countP fun m => !m.isTemplate

variable {modules more : List Module} {n : ModuleNumber}

/-- Modules behind others do not change their numbers. -/
theorem renumber_append (h : n ≤ modules.length) (more : List Module) :
    renumber (modules ++ more) n = renumber modules n := by
  rw [renumber, List.take_append_of_le_length h, renumber]

/-- Numbers stay when a list of modules grows. -/
theorem renumber_of_isPrefix (h : modules <+: more) (hn : n ≤ modules.length) :
    renumber more n = renumber modules n := by
  obtain ⟨behind, rfl⟩ := h
  exact renumber_append hn behind

/-- The last number is that of the modules that are no templates. -/
theorem renumber_length (modules : List Module) :
    renumber modules modules.length = (modules.filter fun m => !m.isTemplate).length := by
  rw [renumber, List.take_length, List.countP_eq_length_filter]

/-- The dependencies of a file without the one on its template, with the numbers without templates. -/
def Dependencies.withoutTemplate (modules : List Module) (file : Path) (dependencies : Dependencies) :
    Dependencies :=
  dependencies.thin (fun target => !Source.isOwnTemplate file target) (renumber modules)

/-- Numbers within a list of modules stay when the list grows. -/
theorem Dependencies.withoutTemplate_of_isPrefix {file : Path} {dependencies : Dependencies}
    (h : modules <+: more) (hle : ∀ entry ∈ dependencies, entry.2 ≤ modules.length) :
    dependencies.withoutTemplate more file = dependencies.withoutTemplate modules file := by
  apply List.map_congr_left
  intro entry hentry
  rw [renumber_of_isPrefix h (hle entry (List.mem_filter.1 hentry).1)]

/-! ## One module -/

namespace Linker

/-- What compiling makes of the text of a file's module: the compiled template of the file and a
comma stand in place of the line that refers to its module. -/
structure CompilesText (compiler : Compiler) (files : FileSystem) (file : Path) (text text' : Text) :
    Prop where
  /-- A template is compiled in its place. -/
  of_template : ∀ markup, HasTemplate files file markup → ∃ functions opening closing,
    ((compiler markup).run.run files).1 = .ok functions ∧
      text = opening ++ Source.templateReference file ++ closing ∧
      text' = opening ++ (functions.optionText ++ [',']) ++ closing
  /-- All other texts stay as they are. -/
  of_none : (∀ markup, ¬ HasTemplate files file markup) → text' = text

end Linker

/-- What compiling makes of a module. -/
structure Module.CompilesTo (compiler : Compiler) (files : FileSystem) (modules : List Module)
    (m m' : Module) : Prop where
  /-- The path is the same. -/
  path_eq : m'.path = m.path
  /-- The number is that without templates. -/
  number_eq : m'.number = renumber modules m.number
  /-- The dependency on the template is gone, and all others have the new numbers. -/
  dependencies_eq : m'.dependencies = m.dependencies.withoutTemplate modules m.path
  /-- The template is compiled into the text. -/
  text : Linker.CompilesText compiler files m.path m.text m'.text

/-- The numbers of a module lie within a list of modules. -/
structure Module.Within (modules : List Module) (m : Module) : Prop where
  /-- The number of the module does. -/
  number_le : m.number ≤ modules.length
  /-- The numbers of the modules that it depends on do. -/
  dependencies_le : ∀ entry ∈ m.dependencies, entry.2 ≤ modules.length

/-- Numbers within a list lie within a longer one. -/
theorem Module.Within.append {m : Module} (h : m.Within modules) (more : List Module) :
    m.Within (modules ++ more) where
  number_le := by
    rw [List.length_append]
    exact Nat.le_add_right_of_le h.number_le
  dependencies_le := fun entry hentry => by
    rw [List.length_append]
    exact Nat.le_add_right_of_le (h.dependencies_le entry hentry)

/-- What compiling makes of a module does not depend on the modules behind it. -/
theorem Module.CompilesTo.append {compiler : Compiler} {files : FileSystem} {m m' : Module}
    (h : m.CompilesTo compiler files modules m') (hwithin : m.Within modules) (more : List Module) :
    m.CompilesTo compiler files (modules ++ more) m' where
  path_eq := h.path_eq
  number_eq := by rw [h.number_eq, renumber_append hwithin.number_le]
  dependencies_eq := by
    have hle := hwithin.dependencies_le
    rw [h.dependencies_eq, Dependencies.withoutTemplate_of_isPrefix (List.prefix_append _ more) hle]
  text := h.text

/-! ## Tables -/

namespace ModuleTable

variable {compiler : Compiler} {files : FileSystem} {a b : ModuleTable} {path p : Path}
  {text text' : Text} {dependencies dependencies' : Dependencies}

/-- What compiling makes of a table: the modules without those of templates, in the same order. -/
structure CompilesTo (compiler : Compiler) (files : FileSystem) (a b : ModuleTable) : Prop where
  /-- The table is consistent. -/
  left : a.Consistent
  /-- The other table is, too. -/
  right : b.Consistent
  /-- The numbers lie within the table. -/
  within : ∀ m ∈ a.modules, m.Within a.modules
  /-- The other table has the modules that are no templates. -/
  modules : List.Forall₂ (Module.CompilesTo compiler files a.modules)
    (a.modules.filter fun m => !m.isTemplate) b.modules
  /-- What is no template is found in both tables. -/
  find?_eq : ∀ p, p.nameEndsWith Source.templateEnding = false →
    (b.find? p).map Module.number = (a.find? p).map fun m => renumber a.modules m.number

/-- Empty tables are related. -/
theorem compilesTo_empty : CompilesTo compiler files {} {} where
  left := consistent_empty
  right := consistent_empty
  within := nofun
  modules := .nil
  find?_eq := fun _ _ => rfl

namespace CompilesTo

/-- The tables have as many modules that are no templates. -/
theorem length_eq (h : CompilesTo compiler files a b) :
    b.modules.length = renumber a.modules a.modules.length := by
  rw [renumber_length, h.modules.length_eq]

/-- The modules stay related when others come behind them. -/
theorem modules_append (h : CompilesTo compiler files a b) (more : List Module) :
    List.Forall₂ (Module.CompilesTo compiler files (a.modules ++ more))
      (a.modules.filter fun m => !m.isTemplate) b.modules := by
  have hboth := (List.forall₂_and_left _ _).2
    ⟨fun m hm => h.within m (List.mem_of_mem_filter hm), h.modules⟩
  exact hboth.imp fun m m' hm => hm.2.append hm.1 more

/-- What is found keeps its number when modules come behind the others. -/
theorem map_find?_append (h : CompilesTo compiler files a b) (more : List Module) (p : Path) :
    ((a.find? p).map fun m => renumber (a.modules ++ more) m.number) =
      (a.find? p).map fun m => renumber a.modules m.number := by
  cases hfound : a.find? p with
  | none => rfl
  | some m =>
    have hwithin := h.within m (h.left.of_find?_eq_some hfound).1
    rw [Option.map_some, Option.map_some, renumber_append hwithin.number_le]

/-- The numbers stay within the table when a module is added. -/
theorem within_add (h : CompilesTo compiler files a b)
    (hle : ∀ entry ∈ dependencies, entry.2 ≤ a.modules.length) :
    ∀ m ∈ (a.add path text dependencies).modules,
      m.Within (a.add path text dependencies).modules := by
  intro m hm
  rw [modules_add] at hm ⊢
  rcases List.mem_append.1 hm with hold | hnew
  · exact (h.within m hold).append _
  · obtain rfl := List.mem_singleton.1 hnew
    constructor
    · rw [List.length_append, h.left.nextNumber_eq]
      rfl
    · intro entry hentry
      rw [List.length_append]
      exact Nat.le_add_right_of_le (hle entry hentry)

/-- A template that is added does not show in the other table. -/
theorem addTemplate (h : CompilesTo compiler files a b)
    (hpath : path.nameEndsWith Source.templateEnding = true) (text : Text) :
    CompilesTo compiler files (a.add path text []) b where
  left := h.left.add path text []
  right := h.right
  within := h.within_add nofun
  modules := by
    have hfilter : [(⟨a.nextNumber, path, text, []⟩ : Module)].filter (fun m => !m.isTemplate) =
        [] := by
      rw [List.filter_cons_of_neg (by simp [Module.isTemplate, hpath]), List.filter_nil]
    rw [modules_add, List.filter_append, hfilter, List.append_nil]
    exact h.modules_append _
  find?_eq := by
    intro p hp
    have hsame : path.same p = false := by
      rw [← Bool.not_eq_true]
      intro hsame
      rw [Path.nameEndsWith_eq_of_same hsame, hp] at hpath
      cases hpath
    rw [h.left.find?_add, hsame, if_neg Bool.false_ne_true, modules_add, h.map_find?_append]
    exact h.find?_eq p hp

/-- A module that is no template is added to both tables. -/
theorem add (h : CompilesTo compiler files a b)
    (hpath : path.nameEndsWith Source.templateEnding = false)
    (hle : ∀ entry ∈ dependencies, entry.2 ≤ a.modules.length)
    (hdependencies : dependencies' = dependencies.withoutTemplate a.modules path)
    (htext : Linker.CompilesText compiler files path text text') :
    CompilesTo compiler files (a.add path text dependencies) (b.add path text' dependencies') ∧
      b.nextNumber = renumber (a.add path text dependencies).modules a.nextNumber := by
  have hkept : [(⟨a.nextNumber, path, text, dependencies⟩ : Module)].filter (fun m => !m.isTemplate) =
      [⟨a.nextNumber, path, text, dependencies⟩] := by
    rw [List.filter_cons_of_pos (by simp [Module.isTemplate, hpath]), List.filter_nil]
  have hnumber : b.nextNumber = renumber (a.add path text dependencies).modules a.nextNumber := by
    have hlength : a.nextNumber = (a.add path text dependencies).modules.length := by
      rw [modules_add, List.length_append, h.left.nextNumber_eq]
      rfl
    rw [hlength, renumber_length, modules_add, List.filter_append, hkept, List.length_append,
      h.right.nextNumber_eq, h.modules.length_eq]
    rfl
  refine ⟨⟨h.left.add .., h.right.add .., h.within_add hle, ?_, ?_⟩, hnumber⟩
  · rw [modules_add, modules_add, List.filter_append, hkept]
    refine List.rel_append (h.modules_append _) (.cons ⟨rfl, hnumber, ?_, htext⟩ .nil)
    rw [hdependencies, Dependencies.withoutTemplate_of_isPrefix (List.prefix_append _ _) hle]
  · intro p hp
    rw [h.left.find?_add, h.right.find?_add]
    split
    · rw [Option.map_some, Option.map_some, hnumber]
    · rw [modules_add, h.map_find?_append]
      exact h.find?_eq p hp

end CompilesTo

end ModuleTable

end ScriptBundle

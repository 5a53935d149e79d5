/-
# Modules

A module is a file, or the template of a component, as it goes into the bundle.  Modules are kept in
a table, which knows for every path the last module that was added under it.

## Main content

- `Dependencies` maps targets to module numbers, in ascending order of the targets;
  `Dependencies.find?_insert` is its law.
- `ModuleTable.add` gives the next number to a new module; `ModuleTable.find?` looks a path up.
- `ModuleTable.find?_add` says how the two go together.
-/
import ScriptBundle.Path

namespace ScriptBundle

/-- The number of a module.  The first is one, because the loader takes zero for no module. -/
abbrev ModuleNumber := Nat

/-- The modules that the targets in a file lead to, in ascending order of the targets. -/
abbrev Dependencies := List (Text × ModuleNumber)

namespace Dependencies

/-- Records where a target leads, in place of what was recorded for it. -/
def insert (target : Text) (number : ModuleNumber) : Dependencies → Dependencies
  | [] => [(target, number)]
  | entry :: entries =>
    if target = entry.1 then (target, number) :: entries
    else if target < entry.1 then (target, number) :: entry :: entries
    else entry :: insert target number entries

/-- The dependencies that a list of targets makes; a later entry takes the place of an earlier
one. -/
def ofList (entries : List (Text × ModuleNumber)) : Dependencies :=
  entries.foldl (fun found entry => insert entry.1 entry.2 found) []

/-- Where a target leads. -/
def find? (target : Text) (dependencies : Dependencies) : Option ModuleNumber :=
  dependencies.lookup target

/-- A recorded target leads where it was recorded to lead last, and all others lead where they
did. -/
theorem find?_insert (target other : Text) (number : ModuleNumber) (dependencies : Dependencies) :
    find? other (insert target number dependencies) =
      if other = target then some number else find? other dependencies := by
  unfold find?
  induction dependencies with
  | nil =>
    by_cases h : other = target
    · simp [insert, h]
    · simp [insert, List.lookup_cons, h, beq_eq_false_iff_ne.2 h]
  | cons entry entries ih =>
    obtain ⟨key, value⟩ := entry
    simp only [insert]
    split
    · next heq =>
      subst heq
      by_cases h : other = target
      · simp [h]
      · simp [List.lookup_cons, h, beq_eq_false_iff_ne.2 h]
    · next hne =>
      split
      · by_cases h : other = target
        · simp [h]
        · simp [List.lookup_cons, h, beq_eq_false_iff_ne.2 h]
      · by_cases h : other = key
        · subst h
          simp [Ne.symm hne]
        · simp only [List.lookup_cons, beq_eq_false_iff_ne.2 h, ih]

end Dependencies

/-- A file or template as it goes into the bundle. -/
structure Module where
  /-- The number of the module. -/
  number : ModuleNumber
  /-- Where the module comes from. -/
  path : Path
  /-- The body of the module's function. -/
  text : Text
  /-- Where the targets in the text lead. -/
  dependencies : Dependencies
  deriving DecidableEq

/-- The modules that are complete. -/
structure ModuleTable where
  /-- The modules in the order in which they were completed. -/
  modules : List Module := []
  /-- The positions of the modules by their paths, the last one first. -/
  index : List (Path × Nat) := []
  /-- The number of the next module. -/
  nextNumber : ModuleNumber := 1
  deriving DecidableEq

namespace ModuleTable

/-- The position of the last module with a path. -/
def position? (table : ModuleTable) (p : Path) : Option Nat :=
  (table.index.find? fun entry => entry.1.same p).map (·.2)

/-- The last module with a path. -/
def find? (table : ModuleTable) (p : Path) : Option Module :=
  table.position? p >>= fun position => table.modules[position]?

/-- The table with a new module at its end. -/
def add (table : ModuleTable) (path : Path) (text : Text) (dependencies : Dependencies) :
    ModuleTable where
  modules := table.modules ++ [⟨table.nextNumber, path, text, dependencies⟩]
  index := (path, table.modules.length) :: table.index
  nextNumber := table.nextNumber + 1

/-- A new module is found under its path, at the end of the table. -/
theorem position?_add (table : ModuleTable) (path p : Path) (text : Text)
    (dependencies : Dependencies) :
    (table.add path text dependencies).position? p =
      if path.same p then some table.modules.length else table.position? p := by
  unfold position? add
  by_cases h : path.same p <;> simp [h]

/-- A new module is the one that is found under its path. -/
theorem find?_add_self (table : ModuleTable) (path : Path) (text : Text)
    (dependencies : Dependencies) :
    (table.add path text dependencies).find? path =
      some ⟨table.nextNumber, path, text, dependencies⟩ := by
  rw [find?, position?_add]
  simp [add]

end ModuleTable

end ScriptBundle

/-
# Consistent module tables

A module table keeps its modules in the order of their numbers, beside an index from paths to
positions.  In a consistent table the parts fit together.  The empty table is consistent, and adding
a module keeps a table consistent, also under a path that is there already.

## Main content

- `ModuleTable.Consistent` says that the numbers count the modules from one, and that the index
  lists the paths of the modules with their positions, the last one first.
- `consistent_empty` and `Consistent.add`: all tables of a build are consistent.
- `Consistent.of_find?_eq_some` and `Consistent.find?_eq_none_iff` say what looking a path up means
  for the modules, and `Consistent.find?_add` how a new module shows.
- `Consistent.position?_eq_some_iff`: the index knows the last module with a path.
-/
import Mathlib.Tactic.ByContra
import ScriptBundle.ModuleTable

namespace ScriptBundle

/-! ## Paths that are the same -/

namespace Path

/-- Being the same goes both ways. -/
theorem same_comm {p q : Path} : p.same q = q.same p := by
  rw [Bool.eq_iff_iff, same_iff, same_iff]
  exact eq_comm

/-- Paths that are the same as a third one are the same. -/
theorem same_trans {p q r : Path} (h : p.same q = true) (h' : q.same r = true) :
    p.same r = true := by
  rw [same_iff] at *
  exact h.trans h'

end Path

/-! ## Consistency -/

namespace ModuleTable

/-- The modules of a table are numbered from one, and its index knows their paths. -/
structure Consistent (table : ModuleTable) : Prop where
  /-- The next number is the first that no module has. -/
  nextNumber_eq : table.nextNumber = table.modules.length + 1
  /-- The numbers of the modules count from one. -/
  numbers_eq : table.modules.map Module.number = List.range' 1 table.modules.length
  /-- The index lists the paths with their positions, the last one first. -/
  index_eq : table.index = (table.modules.map Module.path).zipIdx.reverse

/-- The empty table is consistent. -/
theorem consistent_empty : Consistent {} where
  nextNumber_eq := rfl
  numbers_eq := rfl
  index_eq := rfl

/-- The modules of a table with a new one. -/
@[simp] theorem modules_add (table : ModuleTable) (path : Path) (text : Text)
    (dependencies : Dependencies) :
    (table.add path text dependencies).modules =
      table.modules ++ [⟨table.nextNumber, path, text, dependencies⟩] := rfl

/-- The next number goes up by one. -/
@[simp] theorem nextNumber_add (table : ModuleTable) (path : Path) (text : Text)
    (dependencies : Dependencies) :
    (table.add path text dependencies).nextNumber = table.nextNumber + 1 := rfl

/-- The position of the last module with a path: a module with the path stands there, and none
behind it. -/
def IsLast (table : ModuleTable) (p : Path) (i : Nat) : Prop :=
  (∃ m, table.modules[i]? = some m ∧ m.path.same p = true) ∧
    ∀ j m, i < j → table.modules[j]? = some m → m.path.same p = false

/-- There is one last module with a path at most. -/
theorem IsLast.unique {table : ModuleTable} {p : Path} {i j : Nat} (h : table.IsLast p i)
    (h' : table.IsLast p j) : i = j := by
  obtain ⟨⟨m, hm, hsame⟩, hbehind⟩ := h
  obtain ⟨⟨m', hm', hsame'⟩, hbehind'⟩ := h'
  rcases Nat.lt_trichotomy i j with hlt | heq | hgt
  · rw [hbehind j m' hlt hm'] at hsame'
    cases hsame'
  · exact heq
  · rw [hbehind' i m hgt hm] at hsame
    cases hsame

namespace Consistent

variable {table : ModuleTable}

/-- A table stays consistent when a module is added. -/
theorem add (h : table.Consistent) (path : Path) (text : Text) (dependencies : Dependencies) :
    (table.add path text dependencies).Consistent where
  nextNumber_eq := by
    rw [nextNumber_add, modules_add, List.length_append, h.nextNumber_eq]
    rfl
  numbers_eq := by
    rw [modules_add, List.map_append, h.numbers_eq, List.length_append, List.length_singleton,
      List.range'_concat, List.map_singleton, h.nextNumber_eq, Nat.one_mul, Nat.add_comm]
  index_eq := by
    show (path, table.modules.length) :: table.index = _
    rw [h.index_eq, modules_add, List.map_append, List.zipIdx_append, List.reverse_append]
    simp

/-- The number of a module is one more than its position. -/
theorem number_eq (h : table.Consistent) {i : Nat} {m : Module} (hm : table.modules[i]? = some m) :
    m.number = i + 1 := by
  have hnumber : (table.modules.map Module.number)[i]? = some m.number := by
    rw [List.getElem?_map, hm]
    rfl
  rw [h.numbers_eq] at hnumber
  obtain ⟨hlt, heq⟩ := List.getElem?_eq_some_iff.1 hnumber
  rw [List.getElem_range'] at heq
  rw [← heq, Nat.one_mul, Nat.add_comm]

/-- The numbers of the modules lie between one and the next number. -/
theorem number_bounds (h : table.Consistent) {m : Module} (hm : m ∈ table.modules) :
    1 ≤ m.number ∧ m.number < table.nextNumber := by
  obtain ⟨i, hi⟩ := List.mem_iff_getElem?.1 hm
  have hlt : i < table.modules.length := (List.getElem?_eq_some_iff.1 hi).1
  rw [h.number_eq hi, h.nextNumber_eq]
  exact ⟨Nat.le_add_left 1 i, Nat.add_lt_add_right hlt 1⟩

/-- Modules with the same number are the same module. -/
theorem eq_of_number_eq (h : table.Consistent) {m m' : Module} (hm : m ∈ table.modules)
    (hm' : m' ∈ table.modules) (heq : m.number = m'.number) : m = m' := by
  obtain ⟨i, hi⟩ := List.mem_iff_getElem?.1 hm
  obtain ⟨j, hj⟩ := List.mem_iff_getElem?.1 hm'
  rw [h.number_eq hi, h.number_eq hj] at heq
  obtain rfl : i = j := Nat.add_right_cancel heq
  exact Option.some.inj (hi.symm.trans hj)

/-- An entry of the index belongs to a module. -/
theorem mem_index_iff (h : table.Consistent) {p : Path} {i : Nat} :
    (p, i) ∈ table.index ↔ ∃ m, table.modules[i]? = some m ∧ m.path = p := by
  rw [h.index_eq, List.mem_reverse, List.mem_zipIdx_iff_getElem?, List.getElem?_map,
    Option.map_eq_some_iff]

/-- What is found under a path is a module of the table with this path. -/
theorem of_find?_eq_some (h : table.Consistent) {p : Path} {m : Module}
    (hm : table.find? p = some m) : m ∈ table.modules ∧ m.path.same p = true := by
  obtain ⟨i, hi, hget⟩ := Option.bind_eq_some_iff.1 hm
  obtain ⟨⟨q, j⟩, hentry, rfl⟩ := Option.map_eq_some_iff.1 hi
  have hsame := List.find?_some hentry
  obtain ⟨m', hm', rfl⟩ := h.mem_index_iff.1 (List.mem_of_find?_eq_some hentry)
  obtain rfl := Option.some.inj (hm'.symm.trans hget)
  exact ⟨List.mem_of_getElem? hget, hsame⟩

/-- Nothing is found under a path exactly if no module has it. -/
theorem find?_eq_none_iff (h : table.Consistent) {p : Path} :
    table.find? p = none ↔ ∀ m ∈ table.modules, m.path.same p = false := by
  constructor
  · intro hnone m hm
    obtain ⟨i, hi⟩ := List.mem_iff_getElem?.1 hm
    by_contra hsame
    rw [Bool.not_eq_false] at hsame
    -- the index has an entry for `p`, and the entry that is found belongs to a module
    have hsome : (table.index.find? fun entry => entry.1.same p).isSome := by
      rw [List.find?_isSome]
      exact ⟨(m.path, i), h.mem_index_iff.2 ⟨m, hi, rfl⟩, hsame⟩
    obtain ⟨⟨q, j⟩, hentry⟩ := Option.isSome_iff_exists.1 hsome
    obtain ⟨m', hm', -⟩ := h.mem_index_iff.1 (List.mem_of_find?_eq_some hentry)
    have hfound : table.find? p = some m' := by
      rw [find?, position?, hentry]
      exact hm'
    rw [hnone] at hfound
    cases hfound
  · intro hother
    by_contra hsome
    obtain ⟨m, hm⟩ := Option.ne_none_iff_exists'.1 hsome
    obtain ⟨hmem, hsame⟩ := h.of_find?_eq_some hm
    rw [hother m hmem] at hsame
    cases hsame

/-- A new module is found under its path, and under all other paths what was found before. -/
theorem find?_add (h : table.Consistent) (path p : Path) (text : Text)
    (dependencies : Dependencies) :
    (table.add path text dependencies).find? p =
      if path.same p then some ⟨table.nextNumber, path, text, dependencies⟩ else table.find? p := by
  rw [find?, position?_add]
  split
  · simp
  · -- the positions that the index holds are those of the modules that were there before
    cases hposition : table.position? p with
    | none => rw [find?, hposition]; rfl
    | some i =>
      obtain ⟨⟨q, j⟩, hentry, rfl⟩ := Option.map_eq_some_iff.1 hposition
      obtain ⟨m, hm, -⟩ := h.mem_index_iff.1 (List.mem_of_find?_eq_some hentry)
      have hlt : j < table.modules.length := (List.getElem?_eq_some_iff.1 hm).1
      rw [find?, hposition, modules_add]
      exact List.getElem?_append_left hlt

/-- The index goes down in the positions. -/
theorem pairwise_index (h : table.Consistent) :
    table.index.Pairwise fun entry entry' => entry'.2 < entry.2 := by
  rw [h.index_eq, List.pairwise_reverse]
  refine List.pairwise_map.1 (?_ : (List.map Prod.snd _).Pairwise (· < ·))
  rw [List.zipIdx_map_snd]
  exact List.pairwise_lt_range'

/-- The index knows the last module with a path, and no other. -/
theorem position?_eq_some_iff (h : table.Consistent) {p : Path} {i : Nat} :
    table.position? p = some i ↔ table.IsLast p i := by
  have hlast : ∀ {k}, table.position? p = some k → table.IsLast p k := by
    intro k hk
    obtain ⟨⟨q, k⟩, hentry, rfl⟩ := Option.map_eq_some_iff.1 hk
    obtain ⟨hsame, front, back, hindex, hfront⟩ := List.find?_eq_some_iff_append.1 hentry
    obtain ⟨m, hm, rfl⟩ := h.mem_index_iff.1 (List.mem_of_find?_eq_some hentry)
    refine ⟨⟨m, hm, hsame⟩, fun j m' hlt hm' => ?_⟩
    -- the entry of a module further behind stands in front of the one that is found
    have hmem := h.mem_index_iff.2 ⟨m', hm', rfl⟩
    have hpairwise := h.pairwise_index
    rw [hindex] at hmem hpairwise
    rcases List.mem_append.1 hmem with hmem | hmem
    · simpa using hfront _ hmem
    · rcases List.mem_cons.1 hmem with heq | hmem
      · exact absurd (congrArg Prod.snd heq) (Nat.ne_of_gt hlt)
      · have hback := (List.pairwise_cons.1 (List.pairwise_append.1 hpairwise).2.1).1 _ hmem
        exact absurd hlt (Nat.lt_asymm hback)
  refine ⟨hlast, fun hi => ?_⟩
  obtain ⟨m, hm, hsame⟩ := hi.1
  have hsome : (table.index.find? fun entry => entry.1.same p).isSome :=
    List.find?_isSome.2 ⟨(m.path, i), h.mem_index_iff.2 ⟨m, hm, rfl⟩, hsame⟩
  obtain ⟨entry, hentry⟩ := Option.isSome_iff_exists.1 hsome
  have hposition : table.position? p = some entry.2 := congrArg _ hentry
  rw [hposition, (hlast hposition).unique hi]

end Consistent

/-- The same is found under paths that are the same. -/
theorem find?_eq_of_same (table : ModuleTable) {p q : Path} (h : p.same q = true) :
    table.find? p = table.find? q := by
  have hsame (r : Path) : r.same p = r.same q := by
    rw [Bool.eq_iff_iff, Path.same_iff, Path.same_iff, Path.same_iff.1 h]
  simp only [find?, position?, hsame]

end ModuleTable

end ScriptBundle

/-
# Folded paths are canonical

Folding keeps where a path leads, from every directory, and nothing else: two paths fold to the same
path exactly if they lead to the same place from all directories.  If folded paths differ, there is a
directory that tells them apart: deep down in directories of one name that neither path has, the depth
that is left counts the `..` in front of the names.

## Main content

- `Path.walk_join`: a joined path leads on from where the first one leads.
- `Path.IsPlace` says that a list of names is a directory, and `Path.exists_isName_not_mem` finds names
  for new ones.
- `Path.IsAnchor.eq_of_count` and `Path.IsAnchored.eq_of_walk`: places tell anchored components apart.
- `Path.folded_canonical`: folding is a canonical form for where paths lead.
-/
import Mathlib.Tactic.TFAE
import ScriptBundle.Proofs.Path.Anchor

namespace ScriptBundle

namespace Path

variable {p q : Path} {directory : List Text} {components components' : List Component}

/-! ## Joined paths -/

/-- An absolute path leads to the same place from everywhere. -/
theorem walk_of_isAbsolute (h : p.isAbsolute = true) (directory directory' : List Text) :
    walk directory p = walk directory' p := by
  have hleading : p.leading = [.root] := by
    rw [isAbsolute_eq] at h
    exact of_decide_eq_true h
  rw [walk_eq_foldl, walk_eq_foldl, components_eq, hleading]
  rfl

/-- A joined path leads on from where the first one leads. -/
theorem walk_join (directory : List Text) (base p : Path) :
    walk directory (base.join p) = walk (walk directory base) p := by
  cases habsolute : p.isAbsolute with
  | true =>
    rw [join, if_pos habsolute]
    exact walk_of_isAbsolute habsolute _ _
  | false =>
    by_cases hbase : base.text = []
    · have hjoin : base.join p = p := by
        rw [join, habsolute, if_neg Bool.false_ne_true, if_pos (.inl hbase), hbase]
        rfl
      have hstay : walk directory base = directory := by
        rw [walk_eq_foldl, components_eq_nil_iff.2 hbase]
        rfl
      rw [hjoin, hstay]
    · rw [walk_eq_foldl, components_join hbase habsolute, List.foldl_append, ← walk_eq_foldl,
        foldl_step_inner _ habsolute]

/-! ## Directories -/

/-- A list of names that can be a directory: all of them are names of entries. -/
def IsPlace (directory : List Text) : Prop := ∀ name ∈ directory, IsName name

/-- There are directories of any depth. -/
theorem isPlace_replicate {name : Text} (h : IsName name) (depth : Nat) :
    IsPlace (List.replicate depth name) := by
  intro other hother
  rw [List.eq_of_mem_replicate hother]
  exact h

/-- There is always one more name. -/
theorem exists_isName_not_mem (names : List Text) : ∃ name, IsName name ∧ name ∉ names := by
  refine ⟨List.replicate (names.flatten.length + 1) 'a', ⟨?_, ?_⟩, fun hmem => ?_⟩
  · intro hslash
    cases List.eq_of_mem_replicate hslash
  · rw [List.replicate_succ]
    simp [ofPiece?]
  · -- it is longer than all of them together
    have hle := (List.sublist_flatten_of_mem hmem).length_le
    rw [List.length_replicate] at hle
    omega

/-! ## Anchors from afar -/

/-- Climbing takes names away from a place. -/
theorem foldl_step_replicate_parent (count : Nat) (directory : List Text) :
    (List.replicate count Component.parent).foldl Component.step directory =
      directory.drop count := by
  induction count generalizing directory with
  | zero => rfl
  | succ count ih =>
    rw [List.replicate_succ, List.foldl_cons, ih]
    exact List.drop_tail

/-- Deep enough in directories of one name, anchors are told apart by how many of these are left. -/
theorem IsAnchor.eq_of_count {base base' : List Component} (h : IsAnchor base) (h' : IsAnchor base')
    {name : Text} {depth : Nat} (hdepth : base.length < depth) (hdepth' : base'.length < depth)
    (hcount : (base.foldl Component.step (List.replicate depth name)).count name =
      (base'.foldl Component.step (List.replicate depth name)).count name) : base = base' := by
  have hroot :
      ([Component.root].foldl Component.step (List.replicate depth name)).count name = 0 := rfl
  have hclimb (count : Nat) :
      ((List.replicate count Component.parent).foldl Component.step
        (List.replicate depth name)).count name = depth - count := by
    rw [foldl_step_replicate_parent, List.drop_replicate, List.count_replicate_self]
  rcases h with rfl | ⟨count, rfl⟩ <;> rcases h' with rfl | ⟨count', rfl⟩
  · rfl
  · -- nothing is left behind the root, and something is left behind a climb
    rw [hroot, hclimb] at hcount
    rw [List.length_replicate] at hdepth'
    omega
  · rw [hroot, hclimb] at hcount
    rw [List.length_replicate] at hdepth
    omega
  · rw [hclimb, hclimb] at hcount
    rw [List.length_replicate] at hdepth hdepth'
    have heq : count = count' := by omega
    rw [heq]

/-- Anchored components that lead to the same place from all directories are the same. -/
theorem IsAnchored.eq_of_walk (h : IsAnchored components) (h' : IsAnchored components')
    (hwalk : ∀ directory, IsPlace directory →
      components.foldl Component.step directory = components'.foldl Component.step directory) :
    components = components' := by
  obtain ⟨base, names, rfl, hbase⟩ := h
  obtain ⟨base', names', rfl, hbase'⟩ := h'
  obtain ⟨name, hname, hfresh⟩ := exists_isName_not_mem (names ++ names')
  rw [List.mem_append, not_or] at hfresh
  have hplaces := hwalk _ (isPlace_replicate hname (base.length + base'.length + 1))
  rw [List.foldl_append, List.foldl_append, foldl_step_names, foldl_step_names] at hplaces
  -- the new name is only among what the anchors leave of the directory
  have hcount := congrArg (List.count name) hplaces
  rw [List.count_append, List.count_append, List.count_reverse, List.count_reverse,
    List.count_eq_zero.2 hfresh.1, List.count_eq_zero.2 hfresh.2, Nat.zero_add, Nat.zero_add]
    at hcount
  obtain rfl := hbase.eq_of_count hbase' (by omega) (by omega) hcount
  rw [List.reverse_inj.1 (List.append_cancel_right hplaces)]

/-! ## The canonical form -/

/-- Paths that lead to the same place from all directories fold to the same path. -/
theorem folded_eq_of_walk
    (h : ∀ directory, IsPlace directory → walk directory p = walk directory q) :
    p.folded = q.folded := by
  have hcomponents : p.foldedComponents = q.foldedComponents := by
    apply (isAnchored_foldedComponents p).eq_of_walk (isAnchored_foldedComponents q)
    intro directory hdirectory
    rw [foldl_step_foldedComponents, foldl_step_foldedComponents, h directory hdirectory]
  rw [folded, folded, hcomponents]

/-- Folding is a canonical form for where paths lead.  A folded path leads to where the path leads, and
is folded already.  Two paths fold to the same path, text for text or component for component, exactly
if they lead to the same place from all directories.  So a path may be folded before another one is
joined to it. -/
theorem folded_canonical :
    (∀ directory p, walk directory p.folded = walk directory p) ∧
    (∀ p : Path, p.folded.folded = p.folded) ∧
    (∀ p q : Path, List.TFAE
      [p.folded = q.folded,
        p.folded.same q.folded = true,
        ∀ directory, walk directory p = walk directory q,
        ∀ directory, IsPlace directory → walk directory p = walk directory q]) ∧
    (∀ base p : Path, (base.folded.join p).folded = (base.join p).folded) := by
  refine ⟨walk_folded, fun p => ?_, fun p q => ?_, fun base p => ?_⟩
  · exact folded_eq_of_walk fun directory _ => walk_folded directory p
  · tfae_have 1 → 2 := fun heq => heq ▸ same_refl p.folded
    tfae_have 2 → 3 := fun hsame directory => by
      rw [← walk_folded directory p, ← walk_folded directory q, walk_eq_of_same hsame]
    tfae_have 3 → 4 := fun hwalk directory _ => hwalk directory
    tfae_have 4 → 1 := folded_eq_of_walk
    tfae_finish
  · refine folded_eq_of_walk fun directory _ => ?_
    rw [walk_join, walk_join, walk_folded]

/-- Climbing is only undone by going down behind it. -/
example : folded ⟨"a/./b/../../../c//d".toList⟩ = ⟨"../c/d".toList⟩ := by decide

end Path

end ScriptBundle

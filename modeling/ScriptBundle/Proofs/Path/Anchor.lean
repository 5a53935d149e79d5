/-
# How folded paths start

A folded path first climbs, or starts at the root, and then goes down through names only.  What stands
in front of its first name is its anchor.  Of the paths that lead to one place, those with the same
anchor have the same components.

## Main content

- `Path.anchor` is what stands in front of the first name of a path.
- `Path.IsAnchored` says that only names follow, and `Path.isAnchored_folded` that folded paths are
  of this form.
- `Path.components_eq_of_walk`: paths with the same anchor that lead to the same place have the same
  components.
-/
import ScriptBundle.Proofs.Path.Name

namespace ScriptBundle

namespace Path

variable {p q : Path} {components : List Component}

/-! ## Anchors -/

/-- Whether a component is a name. -/
def Component.isName : Component → Bool
  | .name _ => true
  | .root | .current | .parent => false

/-- The components in front of the first name of a path. -/
def anchor (p : Path) : List Component := p.components.takeWhile fun c => !c.isName

/-- A list of components that a path can start with: the root, or a number of `..`. -/
def IsAnchor (base : List Component) : Prop :=
  base = [.root] ∨ ∃ n, base = List.replicate n .parent

/-- The components go down through names only, from the root or a number of `..`. -/
def IsAnchored (components : List Component) : Prop :=
  ∃ (base : List Component) (names : List Text),
    components = base ++ names.map Component.name ∧ IsAnchor base

/-- There is no name in an anchor. -/
theorem IsAnchor.isName_eq_false {base : List Component} (h : IsAnchor base) :
    ∀ c ∈ base, c.isName = false := by
  rcases h with rfl | ⟨n, rfl⟩
  · intro c hc
    rw [List.mem_singleton.1 hc]
    rfl
  · intro c hc
    rw [List.eq_of_mem_replicate hc]
    rfl

/-- What names follow is the anchor. -/
theorem takeWhile_append_names {base : List Component} (hbase : ∀ c ∈ base, c.isName = false)
    (names : List Text) :
    (base ++ names.map Component.name).takeWhile (fun c => !c.isName) = base := by
  have hnames : (names.map Component.name).takeWhile (fun c => !c.isName) = [] := by
    cases names <;> rfl
  rw [List.takeWhile_append_of_pos fun c hc => by rw [hbase c hc]; rfl, hnames, List.append_nil]

/-- The anchor of anchored components is one. -/
theorem IsAnchored.isAnchor (h : IsAnchored p.components) : IsAnchor p.anchor := by
  obtain ⟨base, names, hcomponents, hbase⟩ := h
  rw [anchor, hcomponents, takeWhile_append_names hbase.isName_eq_false]
  exact hbase

/-- A name may be added to anchored components. -/
theorem IsAnchored.append_name (h : IsAnchored components) (name : Text) :
    IsAnchored (components ++ [.name name]) := by
  obtain ⟨base, names, rfl, hbase⟩ := h
  exact ⟨base, names ++ [name], by simp, hbase⟩

/-- The last one of anchored components may be taken away. -/
theorem IsAnchored.dropLast (h : IsAnchored components) : IsAnchored components.dropLast := by
  obtain ⟨base, names, rfl, hbase⟩ := h
  cases names using List.reverseRecOn with
  | append_singleton names name =>
    refine ⟨base, names, ?_, hbase⟩
    rw [List.map_append, List.map_singleton, ← List.append_assoc, List.dropLast_concat]
  | nil =>
    -- without names the anchor itself gets shorter
    refine ⟨base.dropLast, [], by simp, .inr ?_⟩
    rcases hbase with rfl | ⟨n, rfl⟩
    · exact ⟨0, rfl⟩
    · exact ⟨n - 1, List.dropLast_replicate⟩

/-! ## Folded paths are anchored -/

/-- A `..` may be added behind anchored components that do not end with a name or the root. -/
theorem IsAnchored.parent_of_getLast? {c : Component} (h : IsAnchored components)
    (hlast : components.getLast? = some c) (hc : c = .current ∨ c = .parent) :
    IsAnchored (components ++ [.parent]) := by
  obtain ⟨base, names, rfl, hbase⟩ := h
  cases names using List.reverseRecOn with
  | append_singleton names name =>
    rw [List.map_append, ← List.append_assoc, List.map_singleton, List.getLast?_concat] at hlast
    rcases hc with rfl | rfl <;> cases hlast
  | nil =>
    -- the components are an anchor, and it consists of `..`
    rw [List.map_nil, List.append_nil] at hlast ⊢
    rcases hbase with rfl | ⟨n, rfl⟩
    · rcases hc with rfl | rfl <;> cases hlast
    · exact ⟨_, [], (List.append_nil _).symm, .inr ⟨n + 1, List.replicate_succ'.symm⟩⟩

/-- Folding an inner component in keeps components anchored. -/
theorem IsAnchored.foldStep {stack : List Component} {c : Component}
    (h : IsAnchored stack.reverse) (hc : Component.IsInner c) :
    IsAnchored (foldStep stack c).reverse := by
  cases c with
  | root => cases hc.1
  | current => exact h
  | name text =>
    show IsAnchored (Component.name text :: stack).reverse
    rw [List.reverse_cons]
    exact h.append_name text
  | parent =>
    cases stack with
    | nil => exact ⟨[.parent], [], rfl, .inr ⟨1, rfl⟩⟩
    | cons top rest =>
      cases top with
      | root => exact h
      | name text =>
        have hdrop := h.dropLast
        rw [List.reverse_cons, List.dropLast_concat] at hdrop
        exact hdrop
      | current =>
        show IsAnchored (Component.parent :: .current :: rest).reverse
        rw [List.reverse_cons]
        exact h.parent_of_getLast? (by simp) (.inl rfl)
      | parent =>
        show IsAnchored (Component.parent :: .parent :: rest).reverse
        rw [List.reverse_cons]
        exact h.parent_of_getLast? (by simp) (.inr rfl)

/-- Folding a path keeps components anchored. -/
theorem isAnchored_foldedComponents (p : Path) : IsAnchored p.foldedComponents := by
  have hfold (components stack : List Component) (h : IsAnchored stack.reverse)
      (hcomponents : ∀ c ∈ components, Component.IsInner c) :
      IsAnchored (components.foldl Path.foldStep stack).reverse := by
    induction components generalizing stack with
    | nil => exact h
    | cons c components ih =>
      exact ih _ (h.foldStep (hcomponents c (List.mem_cons_self ..)))
        fun d hd => hcomponents d (List.mem_cons_of_mem _ hd)
  rw [foldedComponents, components_eq, List.foldl_append]
  refine hfold _ _ ?_ fun c hc => ofPiece?_text_of_mem_inner hc
  rcases p.leading_cases with hleading | hleading | hleading <;> rw [hleading]
  · exact ⟨[], [], rfl, .inr ⟨0, rfl⟩⟩
  · exact ⟨[.root], [], rfl, .inl rfl⟩
  · exact ⟨[], [], rfl, .inr ⟨0, rfl⟩⟩

/-- A folded path is a dot or anchored. -/
theorem isAnchored_folded (h : p.folded ≠ ⟨['.']⟩) : IsAnchored p.folded.components := by
  have hne : p.foldedComponents ≠ [] := by
    intro hnil
    apply h
    rw [folded, hnil]
  rw [components_folded, if_neg hne]
  exact isAnchored_foldedComponents p

/-! ## Anchored paths to the same place -/

/-- Anchored paths with the same anchor that lead to the same place have the same components. -/
theorem components_eq_of_walk (hp : IsAnchored p.components) (hq : IsAnchored q.components)
    (hanchor : p.anchor = q.anchor) {directory : List Text}
    (hwalk : walk directory p = walk directory q) : p.components = q.components := by
  obtain ⟨base, names, hcomponents, hbase⟩ := hp
  obtain ⟨base', names', hcomponents', hbase'⟩ := hq
  have heq : base = base' := by
    rw [anchor, anchor, hcomponents, hcomponents',
      takeWhile_append_names hbase.isName_eq_false,
      takeWhile_append_names hbase'.isName_eq_false] at hanchor
    exact hanchor
  subst heq
  -- behind the anchor both walks go down their names from the same place
  rw [walk_eq_foldl, walk_eq_foldl, hcomponents, hcomponents', List.foldl_append,
    List.foldl_append, foldl_step_names, foldl_step_names] at hwalk
  rw [hcomponents, hcomponents', List.reverse_inj.1 (List.append_cancel_right hwalk)]

/-! ## Extensions -/

/-- A folded path with a plain text behind it is anchored. -/
theorem isAnchored_folded_append (p : Path) {t : Text} (ht : IsPlain t) :
    IsAnchored (Path.components ⟨p.folded.text ++ t⟩) := by
  by_cases hdot : p.folded = ⟨['.']⟩
  · -- a dot becomes a part of a name
    rw [hdot, (ht.isName ['.'] (by decide)).components]
    exact ⟨[], [_], rfl, .inr ⟨0, rfl⟩⟩
  · have hanchored := isAnchored_folded hdot
    have hleading : p.folded.leading ≠ [.current] := by
      intro hcurrent
      obtain ⟨base, names, hcomponents, hbase⟩ := hanchored
      rw [components_eq, hcurrent] at hcomponents
      rcases hbase with rfl | ⟨n, rfl⟩
      · cases hcomponents
      · cases n with
        | zero => cases names <;> cases hcomponents
        | succ n => cases hcomponents
    obtain ⟨name, h | h⟩ := components_append_of_isPlain ht (text_folded_ne_nil p) hleading
    · rw [h]
      exact hanchored.dropLast.append_name name
    · rw [h]
      exact hanchored.append_name name

end Path

end ScriptBundle

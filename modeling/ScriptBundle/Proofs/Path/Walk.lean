/-
# Where paths lead

A path leads from a directory to a place, one component after the other.  Folding `.` and `..` away
does not change the place, whatever the directory is, so paths that fold to the same path lead to the
same place.

## Main content

- `Path.Component.step` is one step of a walk, and `Path.walk_eq_foldl` the walk as a fold of it.
- `Path.components_folded`: the components of a folded path.
- `Path.walk_folded`: a folded path leads to where the path leads.
- `Path.walk_of_fileName?`: a path with a file name leads on from where its directory leads.
-/
import ScriptBundle.Proofs.Path.Folded

namespace ScriptBundle

namespace Path

variable {p q : Path} {t : Text} {directory : List Text}

/-! ## Steps -/

/-- One step of a walk.  A place is the list of names that lead to it, the last one first. -/
def Component.step (place : List Text) : Component → List Text
  | .root => []
  | .current => place
  | .parent => place.tail
  | .name text => text :: place

/-- A walk takes the steps of all components. -/
theorem walk_eq_foldl (directory : List Text) (p : Path) :
    walk directory p = p.components.foldl Component.step directory := rfl

/-- Names are put in front of a place, the last one first. -/
theorem foldl_step_names (place names : List Text) :
    (names.map Component.name).foldl Component.step place = names.reverse ++ place := by
  rw [List.foldl_map]
  exact List.foldl_flip_cons_eq_append'

/-- A dot at the start of a path leads nowhere. -/
theorem foldl_step_inner (directory : List Text) (h : p.isAbsolute = false) :
    p.inner.foldl Component.step directory = walk directory p := by
  rw [walk_eq_foldl, components_eq, List.foldl_append]
  rcases p.leading_cases with hleading | hleading | hleading
  · rw [hleading]
    rfl
  · rw [isAbsolute_eq, hleading, decide_eq_true rfl] at h
    cases h
  · rw [hleading]
    rfl

/-! ## Folding -/

/-- Folding a component in leads to where the component leads. -/
theorem foldl_step_foldStep (stack : List Component) (c : Component) (directory : List Text) :
    (foldStep stack c).reverse.foldl Component.step directory =
      Component.step (stack.reverse.foldl Component.step directory) c := by
  have hadd (d : Component) : (d :: stack).reverse.foldl Component.step directory =
      Component.step (stack.reverse.foldl Component.step directory) d := by
    rw [List.reverse_cons, List.foldl_concat]
  cases c with
  | root => exact hadd .root
  | current => rfl
  | name text => exact hadd (.name text)
  | parent =>
    -- a `..` goes back to where the name was put, and nowhere from the root
    cases stack with
    | nil => rfl
    | cons top rest =>
      cases top with
      | current => exact hadd .parent
      | parent => exact hadd .parent
      | name text =>
        rw [List.reverse_cons, List.foldl_concat]
        rfl
      | root =>
        show (Component.root :: rest).reverse.foldl Component.step directory = _
        rw [List.reverse_cons, List.foldl_concat]
        rfl

/-- The folded components lead to where the path leads. -/
theorem foldl_step_foldedComponents (directory : List Text) (p : Path) :
    p.foldedComponents.foldl Component.step directory = walk directory p := by
  have hfold (components stack : List Component) :
      (components.foldl foldStep stack).reverse.foldl Component.step directory =
        components.foldl Component.step (stack.reverse.foldl Component.step directory) := by
    induction components generalizing stack with
    | nil => rfl
    | cons c components ih => rw [List.foldl_cons, ih, foldl_step_foldStep, List.foldl_cons]
  exact hfold p.components []

/-- The components of a path that is written with inner components. -/
theorem components_ofComponents {components : List Component} (hne : components ≠ [])
    (h : ∀ c ∈ components, Component.IsInner c) :
    (ofComponents components).components = components := by
  have hslash := slash_not_mem_map_text h
  have htext : ofComponents components = ⟨Text.join ['/'] (components.map Component.text)⟩ := by
    cases components with
    | nil => rfl
    | cons c components =>
      cases c with
      | root => cases (h _ (List.mem_cons_self ..)).1
      | current => rfl
      | parent => rfl
      | name text => rfl
  have hpieces : (ofComponents components).pieces = components.map Component.text := by
    rw [htext]
    exact pieces_join (by simpa using hne) hslash
  have hleading : (ofComponents components).leading = [] := by
    obtain ⟨c, rest, rfl⟩ := List.exists_cons_of_ne_nil hne
    have hc := (h c (List.mem_cons_self ..)).1
    rw [leading_eq_nil_iff, ← Bool.not_eq_true, isAbsolute_iff, hpieces]
    constructor
    · rintro ⟨piece, pieces, heq⟩
      rw [List.map_cons, List.cons.injEq] at heq
      rw [heq.1] at hc
      cases hc
    · rw [List.map_cons, List.head?_cons]
      intro hdot
      rw [Option.some.inj hdot] at hc
      cases hc
  rw [components_eq, hleading, List.nil_append, inner, hpieces]
  exact filterMap_map_text h

/-- The components of an absolute path that is written with inner components. -/
theorem components_ofComponents_root {components : List Component}
    (h : ∀ c ∈ components, Component.IsInner c) :
    (ofComponents (.root :: components)).components = .root :: components := by
  show Path.components ⟨[] ++ '/' :: Text.join ['/'] (components.map Component.text)⟩ = _
  rw [components_append, inner_join (slash_not_mem_map_text h), filterMap_map_text h]
  rfl

/-- The components of a folded path are the folded ones, and those of a dot if there are none. -/
theorem components_folded (p : Path) :
    p.folded.components = if p.foldedComponents = [] then [.current] else p.foldedComponents := by
  obtain ⟨body, hstack, hbody⟩ := isFolded_components p
  have hinner : ∀ c ∈ body.reverse, Component.IsInner c := fun c hc =>
    hbody c (List.mem_reverse.1 hc)
  have hcomponents : p.foldedComponents = body.reverse ∨
      p.foldedComponents = .root :: body.reverse := by
    unfold foldedComponents
    rcases hstack with hstack | hstack
    · exact .inl (by rw [hstack])
    · exact .inr (by rw [hstack, List.reverse_concat])
  by_cases hnil : p.foldedComponents = []
  · rw [if_pos hnil]
    unfold folded
    rw [hnil]
    rfl
  · have hfolded : p.folded = ofComponents p.foldedComponents := by
      unfold folded
      split
      · next h => exact absurd h hnil
      · rfl
    rw [if_neg hnil, hfolded]
    rcases hcomponents with h | h
    · rw [h] at hnil ⊢
      exact components_ofComponents hnil hinner
    · rw [h]
      exact components_ofComponents_root hinner

/-- A folded path leads to where the path leads. -/
theorem walk_folded (directory : List Text) (p : Path) :
    walk directory p.folded = walk directory p := by
  rw [← foldl_step_foldedComponents directory p, walk_eq_foldl, components_folded]
  split
  · next hnil =>
    rw [hnil]
    rfl
  · rfl

/-- Paths with the same components lead to the same place. -/
theorem walk_eq_of_same (h : p.same q = true) (directory : List Text) :
    walk directory p = walk directory q := by
  rw [walk_eq_foldl, walk_eq_foldl, same_iff.1 h]

/-! ## Paths with a file name -/

/-- The file name is the last component. -/
theorem fileName?_eq_some_iff :
    p.fileName? = some t ↔ ∃ front, p.components = front ++ [.name t] := by
  rw [← List.getLast?_eq_some_iff, fileName?]
  cases p.components.getLast? with
  | none => simp
  | some c => cases c <;> simp

/-- A file name is the last of the inner components. -/
theorem exists_inner_of_fileName? (h : p.fileName? = some t) :
    ∃ front, p.inner = front ++ [.name t] := by
  obtain ⟨front, hfront⟩ := fileName?_eq_some_iff.1 h
  rw [components_eq] at hfront
  cases hinner : p.inner using List.reverseRecOn with
  | nil =>
    rw [hinner, List.append_nil] at hfront
    have hmem : Component.name t ∈ p.leading := by
      rw [hfront]
      exact List.mem_append_right _ (List.mem_singleton_self _)
    rcases p.leading_cases with hleading | hleading | hleading <;> rw [hleading] at hmem <;>
      simp at hmem
  | append_singleton rest last =>
    rw [hinner, ← List.append_assoc] at hfront
    exact ⟨rest, by rw [(List.append_inj' hfront rfl).2]⟩

/-- A file name is the last component, behind those of the directory. -/
theorem components_of_fileName? {name : Text} (h : p.fileName? = some name) :
    p.components = p.directory.components ++ [.name name] := by
  obtain ⟨front, hfront⟩ := exists_inner_of_fileName? h
  have hinner : p.inner ≠ [] := by
    rw [hfront]
    exact List.append_ne_nil_of_right_ne_nil _ (List.cons_ne_nil _ _)
  rw [components_directory, if_neg hinner, components_eq, hfront, List.dropLast_concat,
    List.append_assoc]

/-- A path leads to its file name in the place to which its directory leads. -/
theorem walk_of_fileName? {name : Text} (h : p.fileName? = some name) (directory : List Text) :
    walk directory p = name :: walk directory p.directory := by
  rw [walk_eq_foldl, components_of_fileName? h, List.foldl_concat]
  rfl

end Path

end ScriptBundle

/-
# Folded paths

A folded path is written with as few pieces as its components allow: there is one piece for every
component, and an absolute path has a slash in front.

## Main content

- `Path.named` are the pieces of a path that stand for components.
- `Path.IsFolded` says how the components of a path stand while it is folded; `Path.IsFolded.step`
  is the step.
- `Path.folded_cases`: how folded paths are written.
-/
import ScriptBundle.Proofs.Path.Components

namespace ScriptBundle

namespace Path

/-! ## Named pieces -/

/-- The texts of the inner components. -/
def named (p : Path) : List Text := p.inner.map Component.text

/-- Paths with the same components have the same named pieces. -/
theorem named_eq_of_same {p q : Path} (h : p.same q = true) : p.named = q.named :=
  congrArg (List.map Component.text) (same_iff_leading.1 h).2

/-- The texts of components are those of their pieces. -/
theorem map_text_filterMap (pieces : List Text) :
    (pieces.filterMap ofPiece?).map Component.text =
      pieces.filter fun piece => (ofPiece? piece).isSome := by
  induction pieces with
  | nil => rfl
  | cons piece pieces ih =>
    cases hpiece : ofPiece? piece with
    | none => simp [hpiece, ih]
    | some c => simp [hpiece, ih, text_of_ofPiece? hpiece]

/-- The named pieces of a path are those that are neither empty nor a dot. -/
theorem named_eq_filter (p : Path) :
    p.named = p.pieces.filter fun piece => (ofPiece? piece).isSome :=
  map_text_filterMap p.pieces

/-! ## Components while a path is folded -/

/-- A component that a piece stands for. -/
def Component.IsInner (c : Component) : Prop := ofPiece? c.text = some c ∧ '/' ∉ c.text

/-- Folded components with the last one first: all are inner ones, but that the root may stand at
the end. -/
def IsFolded (stack : List Component) : Prop :=
  ∃ body, (stack = body ∨ stack = body ++ [.root]) ∧ ∀ c ∈ body, Component.IsInner c

/-- Adding an inner component keeps components folded. -/
theorem IsFolded.step {stack : List Component} {c : Component} (h : IsFolded stack)
    (hc : Component.IsInner c) : IsFolded (foldStep stack c) := by
  obtain ⟨body, hstack, hbody⟩ := h
  have hadd : IsFolded (c :: stack) := by
    refine ⟨c :: body, hstack.imp (congrArg (c :: ·)) (congrArg (c :: ·)), fun d hd => ?_⟩
    rcases List.mem_cons.1 hd with rfl | hrest
    · exact hc
    · exact hbody d hrest
  cases c with
  | root => exact hadd
  | current => exact ⟨body, hstack, hbody⟩
  | name text => exact hadd
  | parent =>
    -- a `..` takes away a name, and is dropped at the root
    cases stack with
    | nil => exact hadd
    | cons top rest =>
      cases top with
      | root => exact ⟨body, hstack, hbody⟩
      | current => exact hadd
      | parent => exact hadd
      | name text =>
        cases body with
        | nil => rcases hstack with heq | heq <;> cases heq
        | cons first body =>
          refine ⟨body, hstack.imp (fun heq => (List.cons.inj heq).2)
            (fun heq => (List.cons.inj heq).2), fun d hd => hbody d (List.mem_cons_of_mem _ hd)⟩

/-- Folding inner components keeps components folded. -/
theorem IsFolded.foldl {stack components : List Component} (h : IsFolded stack)
    (hcomponents : ∀ c ∈ components, Component.IsInner c) :
    IsFolded (components.foldl foldStep stack) := by
  induction components generalizing stack with
  | nil => exact h
  | cons c components ih =>
    exact ih (h.step (hcomponents c (List.mem_cons_self ..)))
      fun d hd => hcomponents d (List.mem_cons_of_mem _ hd)

/-- The components of a path are folded. -/
theorem isFolded_components (p : Path) : IsFolded (p.components.foldl foldStep []) := by
  rw [components_eq, List.foldl_append]
  refine IsFolded.foldl ?_ fun c hc => ofPiece?_text_of_mem_inner hc
  rcases p.leading_cases with h | h | h <;> rw [h]
  · exact ⟨[], .inl rfl, fun _ hc => nomatch hc⟩
  · exact ⟨[], .inr rfl, fun _ hc => nomatch hc⟩
  · exact ⟨[], .inl rfl, fun _ hc => nomatch hc⟩

/-! ## How folded paths are written -/

/-- The pieces of the texts of inner components. -/
theorem filterMap_map_text {components : List Component}
    (h : ∀ c ∈ components, Component.IsInner c) :
    (components.map Component.text).filterMap ofPiece? = components := by
  induction components with
  | nil => rfl
  | cons c components ih =>
    rw [List.map_cons, List.filterMap_cons_some (h c (List.mem_cons_self ..)).1,
      ih fun d hd => h d (List.mem_cons_of_mem _ hd)]

/-- There is no slash in the texts of inner components. -/
theorem slash_not_mem_map_text {components : List Component}
    (h : ∀ c ∈ components, Component.IsInner c) :
    ∀ piece ∈ components.map Component.text, '/' ∉ piece := by
  intro piece hpiece
  obtain ⟨c, hc, rfl⟩ := List.mem_map.1 hpiece
  exact (h c hc).2

/-- A folded path is a dot, or is written with its named pieces alone, with a slash in front if it
is absolute. -/
theorem folded_cases (p : Path) :
    p.folded = ⟨['.']⟩ ∨ p.folded.pieces = p.folded.named ∨
      p.folded.text = '/' :: Text.join ['/'] p.folded.named := by
  obtain ⟨body, hstack, hbody⟩ := isFolded_components p
  have hinner : ∀ c ∈ body.reverse, Component.IsInner c := fun c hc =>
    hbody c (List.mem_reverse.1 hc)
  have hslash := slash_not_mem_map_text hinner
  have hfilter := filterMap_map_text hinner
  unfold folded foldedComponents
  rcases hstack with hstack | hstack <;> rw [hstack]
  · cases hcomponents : body.reverse with
    | nil => exact .inl rfl
    | cons c components =>
      rw [hcomponents] at hslash hfilter hinner
      have hcons : ofComponents (c :: components) =
          ⟨Text.join ['/'] ((c :: components).map Component.text)⟩ := by
        cases c with
        | root => cases (hinner _ (List.mem_cons_self ..)).1
        | current => rfl
        | parent => rfl
        | name text => rfl
      refine .inr (.inl ?_)
      show (ofComponents (c :: components)).pieces = (ofComponents (c :: components)).named
      rw [hcons, named, inner_join hslash, hfilter]
      exact pieces_join (List.cons_ne_nil _ _) hslash
  · rw [List.reverse_concat]
    refine .inr (.inr ?_)
    have hnamed : Path.named ⟨'/' :: Text.join ['/'] (body.reverse.map Component.text)⟩ =
        body.reverse.map Component.text := by
      rw [named, inner_cons_slash, inner_join hslash, hfilter]
    exact congrArg (fun pieces => '/' :: Text.join ['/'] pieces) hnamed.symm

/-- A folded path is not empty. -/
theorem text_folded_ne_nil (p : Path) : p.folded.text ≠ [] := by
  intro hempty
  rcases folded_cases p with h | h | h
  · rw [h] at hempty
    cases hempty
  · have hinner := (List.append_eq_nil_iff.1 (components_eq_nil_iff.2 hempty)).2
    rw [named, show p.folded.inner = [] from hinner] at h
    exact pieces_ne_nil _ h
  · rw [hempty] at h
    cases h

/-- There is no slash in a named piece. -/
theorem slash_not_mem_of_mem_named {p : Path} {piece : Text} (h : piece ∈ p.named) :
    '/' ∉ piece :=
  slash_not_mem_map_text (fun _ hc => ofPiece?_text_of_mem_inner hc) piece h

end Path

end ScriptBundle

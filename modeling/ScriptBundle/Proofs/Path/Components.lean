/-
# The components of paths

Paths with the same components are interchangeable: what is joined to them has the same components,
their directories have the same components, and they fold to the same path.

## Main content

- `Path.components_join` and `Path.same_join`: joining goes by components.
- `Path.components_directory` and `Path.same_directory`: so does going to the directory of a file.
- `Path.folded_eq_of_same`: paths with the same components fold to the same path.
- `Path.fileName?_eq_of_same`: they have the same file name.
-/
import Mathlib.Data.List.DropRight
import ScriptBundle.Path

namespace ScriptBundle

namespace Path

/-! ## Pieces -/

/-- The pieces of a path are what its slashes leave. -/
theorem pieces_eq_splitOn (p : Path) : p.pieces = p.text.splitOn '/' := by
  have hsplit (s : Text) : Text.splitWith (· = '/') s = s.splitOn '/' := by
    induction s with
    | nil => rfl
    | cons c s ih =>
      rw [Text.splitWith_cons, List.splitOn_cons_eq_if_modifyHead, Text.consPiece, ih]
      by_cases h : c = '/'
      · simp [h]
      · obtain ⟨head, tail, hcons⟩ := List.exists_cons_of_ne_nil (List.splitOn_ne_nil '/' s)
        simp [h, hcons]
  exact hsplit p.text

/-- A path has a piece. -/
theorem pieces_ne_nil (p : Path) : p.pieces ≠ [] := Text.splitWith_ne_nil _ _

/-- A path is its pieces with slashes between them. -/
theorem text_eq_join (p : Path) : p.text = Text.join ['/'] p.pieces := by
  rw [pieces_eq_splitOn]
  exact (List.intercalate_splitOn '/').symm

/-- The pieces of pieces that are joined. -/
theorem pieces_join {pieces : List Text} (hne : pieces ≠ [])
    (hslash : ∀ piece ∈ pieces, '/' ∉ piece) :
    Path.pieces ⟨Text.join ['/'] pieces⟩ = pieces := by
  rw [pieces_eq_splitOn]
  exact List.splitOn_intercalate '/' hslash hne

/-- The pieces of texts that are put together with a slash. -/
theorem pieces_append (s t : Text) :
    Path.pieces ⟨s ++ '/' :: t⟩ = Path.pieces ⟨s⟩ ++ Path.pieces ⟨t⟩ := by
  simp only [pieces_eq_splitOn]
  exact List.splitOn_append_cons_self s t

/-- There is no slash in a piece. -/
theorem slash_not_mem_of_mem_pieces {p : Path} {piece : Text} (h : piece ∈ p.pieces) :
    '/' ∉ piece := by
  obtain ⟨s⟩ := p
  induction s generalizing piece with
  | nil =>
    obtain rfl := List.mem_singleton.1 h
    exact List.not_mem_nil
  | cons c s ih =>
    have hcons : Path.pieces ⟨c :: s⟩ = Text.consPiece (· = '/') c (Path.pieces ⟨s⟩) := rfl
    rw [hcons, Text.consPiece] at h
    obtain ⟨head, tail, hpieces⟩ := List.exists_cons_of_ne_nil (pieces_ne_nil ⟨s⟩)
    simp only [decide_eq_true_eq, hpieces, List.headD_cons, List.tail_cons] at h ih
    split at h
    · rcases List.mem_cons.1 h with rfl | hrest
      · exact List.not_mem_nil
      · exact ih hrest
    · next hc =>
      rcases List.mem_cons.1 h with rfl | hrest
      · rintro (_ | ⟨_, hmem⟩)
        · exact hc rfl
        · exact ih (List.mem_cons_self ..) hmem
      · exact ih (List.mem_cons_of_mem _ hrest)

/-- A path is absolute exactly if its first piece is empty and others follow. -/
theorem isAbsolute_iff {p : Path} :
    p.isAbsolute = true ↔ ∃ piece pieces, p.pieces = [] :: piece :: pieces := by
  obtain ⟨s⟩ := p
  cases s with
  | nil => simp [isAbsolute, pieces]
  | cons c s =>
    obtain ⟨head, tail, hpieces⟩ := List.exists_cons_of_ne_nil (pieces_ne_nil ⟨s⟩)
    have hcons : Path.pieces ⟨c :: s⟩ = Text.consPiece (· = '/') c (Path.pieces ⟨s⟩) := rfl
    rw [hcons, hpieces, isAbsolute, Text.consPiece]
    by_cases hc : c = '/' <;> simp [hc]

/-! ## Pieces that stand for components -/

/-- A piece stands for no component exactly if it is empty or a dot. -/
theorem ofPiece?_eq_none_iff {piece : Text} :
    ofPiece? piece = none ↔ piece = [] ∨ piece = ['.'] := by
  unfold ofPiece?
  split
  · simp [*]
  · split <;> simp [*]

/-- The text of a component is the piece that stands for it. -/
theorem text_of_ofPiece? {piece : Text} {c : Component} (h : ofPiece? piece = some c) :
    c.text = piece := by
  unfold ofPiece? at h
  split at h
  · cases h
  · split at h
    · next hparent =>
      cases h
      exact hparent.symm
    · cases h
      rfl

/-- The components that the inner pieces of a path stand for. -/
def inner (p : Path) : List Component := p.pieces.filterMap ofPiece?

/-- The components of a path are a leading one and the inner ones. -/
theorem components_eq (p : Path) : p.components = p.leading ++ p.inner := rfl

/-- Every inner component comes from its own text. -/
theorem ofPiece?_text_of_mem_inner {p : Path} {c : Component} (h : c ∈ p.inner) :
    ofPiece? c.text = some c ∧ '/' ∉ c.text := by
  obtain ⟨piece, hmem, hpiece⟩ := List.mem_filterMap.1 h
  rw [text_of_ofPiece? hpiece]
  exact ⟨hpiece, slash_not_mem_of_mem_pieces hmem⟩

/-- What can lead a path. -/
theorem leading_cases (p : Path) :
    p.leading = [] ∨ p.leading = [.root] ∨ p.leading = [.current] := by
  unfold leading
  split
  · exact .inr (.inl rfl)
  · split
    · exact .inr (.inr rfl)
    · exact .inl rfl

/-- Whether a component can only lead a path. -/
def Component.isLeading : Component → Bool
  | .root | .current => true
  | .parent | .name _ => false

/-- No inner component leads a path. -/
theorem isLeading_of_mem_inner {p : Path} {c : Component} (h : c ∈ p.inner) :
    c.isLeading = false := by
  have hpiece := (ofPiece?_text_of_mem_inner h).1
  cases c with
  | root => simp [Component.text, ofPiece?] at hpiece
  | current => simp [Component.text, ofPiece?] at hpiece
  | parent => rfl
  | name text => rfl

/-- The leading component can be read off the components. -/
theorem takeWhile_components (p : Path) :
    p.components.takeWhile Component.isLeading = p.leading := by
  -- no inner component is taken, and every leading one is
  have hinner : p.inner.takeWhile Component.isLeading = [] := by
    cases hcomponents : p.inner with
    | nil => rfl
    | cons c cs =>
      have hc := isLeading_of_mem_inner (hcomponents ▸ List.mem_cons_self .. : c ∈ p.inner)
      rw [List.takeWhile_cons, hc, if_neg Bool.false_ne_true]
  rw [components_eq, List.takeWhile_append_of_pos, hinner, List.append_nil]
  intro c hc
  rcases p.leading_cases with h | h | h <;> rw [h] at hc
  · cases hc
  · rw [List.mem_singleton.1 hc]
    rfl
  · rw [List.mem_singleton.1 hc]
    rfl

/-- Paths have the same components exactly if they have the same leading and the same inner ones. -/
theorem same_iff_leading {p q : Path} :
    p.same q = true ↔ p.leading = q.leading ∧ p.inner = q.inner := by
  rw [same_iff]
  constructor
  · intro h
    have hleading : p.leading = q.leading := by
      rw [← takeWhile_components, h, takeWhile_components]
    rw [components_eq, components_eq, hleading] at h
    exact ⟨hleading, List.append_cancel_left h⟩
  · rintro ⟨hleading, hinner⟩
    rw [components_eq, components_eq, hleading, hinner]

/-- A path is absolute exactly if the root leads it. -/
theorem isAbsolute_eq (p : Path) : p.isAbsolute = decide (p.leading = [.root]) := by
  unfold leading
  split
  · next h => simp [h]
  · next h =>
    split <;> simp [h]

/-- Paths with the same components are absolute or relative together. -/
theorem isAbsolute_eq_of_same {p q : Path} (h : p.same q = true) : p.isAbsolute = q.isAbsolute := by
  rw [isAbsolute_eq, isAbsolute_eq, (same_iff_leading.1 h).1]

/-- Only the empty path has no components. -/
theorem components_eq_nil_iff {p : Path} : p.components = [] ↔ p.text = [] := by
  constructor
  · intro h
    obtain ⟨hleading, hinner⟩ := List.append_eq_nil_iff.1 h
    obtain ⟨piece, rest, hpieces⟩ := List.exists_cons_of_ne_nil p.pieces_ne_nil
    -- the first piece is empty or a dot; as nothing leads the path it is empty, and the only one
    have hidle := ofPiece?_eq_none_iff.1
      (List.filterMap_eq_nil_iff.1 hinner piece (hpieces ▸ List.mem_cons_self ..))
    have hrelative : p.isAbsolute = false := by simp [isAbsolute_eq, hleading]
    have hhead : piece ≠ ['.'] := by
      rintro rfl
      simp [leading, hrelative, hpieces] at hleading
    obtain rfl := hidle.resolve_right hhead
    cases rest with
    | nil =>
      rw [text_eq_join, hpieces]
      rfl
    | cons next rest =>
      rw [isAbsolute_iff.2 ⟨next, rest, hpieces⟩] at hrelative
      cases hrelative
  · intro h
    obtain ⟨text⟩ := p
    subst h
    rfl

/-! ## Joining -/

/-- Behind a slash, a text adds its inner components. -/
theorem components_append (s t : Text) :
    Path.components ⟨s ++ '/' :: t⟩ = Path.components ⟨s ++ ['/']⟩ ++ Path.inner ⟨t⟩ := by
  have hhead : Path.isAbsolute ⟨s ++ '/' :: t⟩ = Path.isAbsolute ⟨s ++ ['/']⟩ := by
    cases s <;> rfl
  have hpiece : (Path.pieces ⟨s ++ '/' :: t⟩).head? = (Path.pieces ⟨s ++ ['/']⟩).head? := by
    rw [pieces_append, pieces_append, List.head?_append_of_ne_nil _ (pieces_ne_nil _),
      List.head?_append_of_ne_nil _ (pieces_ne_nil _)]
  have hinner : Path.inner ⟨s ++ '/' :: t⟩ = Path.inner ⟨s ++ ['/']⟩ ++ Path.inner ⟨t⟩ := by
    unfold inner
    rw [pieces_append, pieces_append, List.filterMap_append, List.filterMap_append]
    exact congrArg (· ++ _) (List.append_nil _).symm
  rw [components_eq, components_eq, hinner, leading, leading, hhead, hpiece, List.append_assoc]

/-- A slash in front adds no inner component. -/
theorem inner_cons_slash (t : Text) : Path.inner ⟨'/' :: t⟩ = Path.inner ⟨t⟩ := by
  have hpieces := pieces_append [] t
  rw [List.nil_append] at hpieces
  rw [inner, hpieces]
  rfl

/-- A slash at the end adds no component to a path that is not empty. -/
theorem components_append_slash {s : Text} (hs : s ≠ []) :
    Path.components ⟨s ++ ['/']⟩ = Path.components ⟨s⟩ := by
  have hhead : Path.isAbsolute ⟨s ++ ['/']⟩ = Path.isAbsolute ⟨s⟩ := by
    cases s with
    | nil => exact absurd rfl hs
    | cons c s => rfl
  have hpiece : (Path.pieces ⟨s ++ ['/']⟩).head? = (Path.pieces ⟨s⟩).head? := by
    rw [pieces_append, List.head?_append_of_ne_nil _ (pieces_ne_nil _)]
  have hinner : Path.inner ⟨s ++ ['/']⟩ = Path.inner ⟨s⟩ := by
    unfold inner
    rw [pieces_append, List.filterMap_append]
    exact List.append_nil _
  rw [components_eq, components_eq, hinner, leading, leading, hhead, hpiece]

/-- A relative path adds its inner components to a path that is not empty. -/
theorem components_join {base other : Path} (hbase : base.text ≠ [])
    (hother : other.isAbsolute = false) :
    (base.join other).components = base.components ++ other.inner := by
  obtain ⟨s⟩ := base
  obtain ⟨t⟩ := other
  rw [join, hother, if_neg Bool.false_ne_true]
  -- a slash comes in between unless the base ends with one
  by_cases hlast : s.getLast? = some '/'
  · rw [if_pos (.inr hlast)]
    obtain ⟨front, rfl⟩ := List.getLast?_eq_some_iff.1 hlast
    show Path.components ⟨front ++ ['/'] ++ t⟩ = _
    rw [List.append_assoc]
    exact components_append front t
  · rw [if_neg (not_or.2 ⟨hbase, hlast⟩), components_append, components_append_slash hbase]

/-- What is joined to paths with the same components has the same components. -/
theorem same_join {base base' : Path} (h : base.same base' = true) (other : Path) :
    (base.join other).same (base'.join other) = true := by
  have hcomponents := same_iff.1 h
  cases hother : other.isAbsolute with
  | true =>
    simp only [join, hother, if_true]
    exact same_refl other
  | false =>
    by_cases hempty : base.text = []
    · have hempty' : base'.text = [] := by
        rw [← components_eq_nil_iff, ← hcomponents]
        exact components_eq_nil_iff.2 hempty
      simp only [join, hother, hempty, hempty', true_or, if_true]
      exact same_refl _
    · have hempty' : base'.text ≠ [] := by
        rwa [Ne, ← components_eq_nil_iff, ← hcomponents, components_eq_nil_iff]
      rw [same_iff, components_join hempty hother, components_join hempty' hother, hcomponents]

/-! ## Directories -/

/-- Idle pieces at the end stand for no components. -/
theorem filterMap_dropIdle (pieces : List Text) :
    (dropIdle pieces).filterMap ofPiece? = pieces.filterMap ofPiece? := by
  show (pieces.rdropWhile fun piece => (ofPiece? piece).isNone).filterMap ofPiece? = _
  induction pieces using List.reverseRecOn with
  | nil => rfl
  | append_singleton pieces piece ih =>
    rw [List.rdropWhile_concat]
    cases hpiece : ofPiece? piece with
    | none => simp [hpiece, ih]
    | some c => simp

/-- Without its idle pieces at the end, a list of pieces ends with the piece of its last
component. -/
theorem filterMap_dropLast_dropIdle (pieces : List Text) :
    (dropIdle pieces).dropLast.filterMap ofPiece? = (pieces.filterMap ofPiece?).dropLast := by
  show (pieces.rdropWhile fun piece => (ofPiece? piece).isNone).dropLast.filterMap ofPiece? = _
  induction pieces using List.reverseRecOn with
  | nil => rfl
  | append_singleton pieces piece ih =>
    rw [List.rdropWhile_concat]
    cases hpiece : ofPiece? piece with
    | none => simp [hpiece, ih]
    | some c => simp [hpiece]

/-- Idle pieces at the end are dropped from a list of pieces. -/
theorem dropIdle_prefix_pieces (pieces : List Text) : dropIdle pieces <+: pieces :=
  List.rdropWhile_prefix _ _

/-- Nothing is left of pieces exactly if they stand for no components. -/
theorem dropIdle_eq_nil_iff {pieces : List Text} :
    dropIdle pieces = [] ↔ pieces.filterMap ofPiece? = [] := by
  show (pieces.rdropWhile fun piece => (ofPiece? piece).isNone) = [] ↔ _
  rw [List.rdropWhile_eq_nil_iff, List.filterMap_eq_nil_iff]
  simp only [Option.isNone_iff_eq_none]

/-- The pieces behind the leading component stand for the inner components. -/
theorem filterMap_body (p : Path) : p.body.filterMap ofPiece? = p.inner := by
  unfold body
  split
  · rfl
  · next hleading =>
    obtain ⟨piece, rest, hpieces⟩ := List.exists_cons_of_ne_nil p.pieces_ne_nil
    have hidle : ofPiece? piece = none := by
      rw [ofPiece?_eq_none_iff]
      unfold leading at hleading
      split at hleading
      · next habsolute =>
        obtain ⟨next, others, heq⟩ := isAbsolute_iff.1 habsolute
        exact .inl (List.cons.inj (hpieces.symm.trans heq)).1
      · split at hleading
        · next hdot =>
          rw [hpieces] at hdot
          exact .inr (Option.some.inj hdot)
        · exact absurd rfl hleading
    rw [inner, hpieces, List.tail_cons, List.filterMap_cons_none hidle]

/-- The inner components of joined pieces. -/
theorem inner_join {pieces : List Text} (hslash : ∀ piece ∈ pieces, '/' ∉ piece) :
    Path.inner ⟨Text.join ['/'] pieces⟩ = pieces.filterMap ofPiece? := by
  cases pieces with
  | nil => rfl
  | cons piece pieces => rw [inner, pieces_join (List.cons_ne_nil _ _) hslash]

/-- Nothing leads a path exactly if it is relative and does not begin with a dot. -/
theorem leading_eq_nil_iff {p : Path} :
    p.leading = [] ↔ p.isAbsolute = false ∧ p.pieces.head? ≠ some ['.'] := by
  unfold leading
  cases p.isAbsolute with
  | true => simp
  | false => simp

/-- What begins as a path without a leading component has none. -/
theorem leading_eq_nil_of_begins {p q : Path} (h : q.pieces <+: p.pieces) (hp : p.leading = []) :
    q.leading = [] := by
  rw [leading_eq_nil_iff] at *
  obtain ⟨rest, hrest⟩ := h
  constructor
  · rw [← Bool.not_eq_true, isAbsolute_iff]
    rintro ⟨piece, pieces, hq⟩
    rw [hq] at hrest
    have habsolute := isAbsolute_iff.2 ⟨piece, pieces ++ rest, hrest.symm⟩
    rw [habsolute] at hp
    cases hp.1
  · rw [← hrest, List.head?_append_of_ne_nil _ q.pieces_ne_nil] at hp
    exact hp.2

/-- The components of pieces that begin as those of a path without a leading component. -/
theorem components_join_of_begins {p : Path} {pieces : List Text} (h : pieces <+: p.pieces)
    (hp : p.leading = []) : Path.components ⟨Text.join ['/'] pieces⟩ = pieces.filterMap ofPiece? := by
  have hslash : ∀ piece ∈ pieces, '/' ∉ piece := fun piece hpiece =>
    slash_not_mem_of_mem_pieces (h.subset hpiece)
  cases pieces with
  | nil => rfl
  | cons piece pieces =>
    have hjoin := pieces_join (List.cons_ne_nil piece pieces) hslash
    rw [← hjoin] at h
    rw [components_eq, leading_eq_nil_of_begins h hp, inner_join hslash, List.nil_append]

/-- The components of pieces with a dot in front. -/
theorem components_join_dot {pieces : List Text} (hslash : ∀ piece ∈ pieces, '/' ∉ piece) :
    Path.components ⟨Text.join ['/'] (['.'] :: pieces)⟩ = .current :: pieces.filterMap ofPiece? := by
  have hdot : ∀ piece ∈ ['.'] :: pieces, '/' ∉ piece := by
    simpa using hslash
  have hjoin := pieces_join (List.cons_ne_nil _ _) hdot
  have hleading : Path.leading ⟨Text.join ['/'] (['.'] :: pieces)⟩ = [.current] := by
    unfold leading
    rw [hjoin, if_neg, List.head?_cons, if_pos rfl]
    rw [isAbsolute_iff, hjoin]
    rintro ⟨_, _, heq⟩
    cases heq
  rw [components_eq, hleading, inner_join hdot]
  rfl

/-- The directory of a path has all of its components but the last one. -/
theorem components_directory (p : Path) :
    p.directory.components = if p.inner = [] then [] else p.leading ++ p.inner.dropLast := by
  have hbegins : dropIdle (dropIdle p.body).dropLast <+: p.body :=
    (dropIdle_prefix_pieces _).trans ((List.dropLast_prefix _).trans (dropIdle_prefix_pieces _))
  have hbody : p.body <:+ p.pieces := by
    unfold body
    split
    · exact List.suffix_refl _
    · exact List.tail_suffix _
  have hslash : ∀ piece ∈ dropIdle (dropIdle p.body).dropLast, '/' ∉ piece := fun piece hpiece =>
    slash_not_mem_of_mem_pieces (hbody.subset (hbegins.subset hpiece))
  have hremaining :
      (dropIdle (dropIdle p.body).dropLast).filterMap ofPiece? = p.inner.dropLast := by
    rw [filterMap_dropIdle, filterMap_dropLast_dropIdle, filterMap_body]
  have hnil : dropIdle p.body = [] ↔ p.inner = [] := by
    rw [dropIdle_eq_nil_iff, filterMap_body]
  unfold directory parent?
  generalize dropIdle (dropIdle p.body).dropLast = remaining at hbegins hslash hremaining
  by_cases hinner : p.inner = []
  · rw [if_pos hinner, hnil.2 hinner]
    rcases p.leading_cases with h | h | h <;> rw [h] <;> rfl
  · obtain ⟨piece, rest, hdrop⟩ := List.exists_cons_of_ne_nil (mt hnil.1 hinner)
    rw [if_neg hinner, ← hremaining, hdrop]
    rcases p.leading_cases with h | h | h <;> simp only [h, Option.getD_some]
    · -- what is left is nothing, or begins as the path does
      rw [body, if_pos h] at hbegins
      exact components_join_of_begins hbegins h
    · exact (components_append [] _).trans (congrArg (_ ++ ·) (inner_join hslash))
    · exact components_join_dot hslash

/-- The directories of paths with the same components have the same components. -/
theorem same_directory {p q : Path} (h : p.same q = true) :
    p.directory.same q.directory = true := by
  obtain ⟨hleading, hinner⟩ := same_iff_leading.1 h
  rw [same_iff, components_directory, components_directory, hleading, hinner]

/-! ## Folding and file names -/

/-- Paths with the same components fold to the same path. -/
theorem folded_eq_of_same {p q : Path} (h : p.same q = true) : p.folded = q.folded := by
  simp only [folded, foldedComponents, same_iff.1 h]

/-- Paths with the same components have the same file name. -/
theorem fileName?_eq_of_same {p q : Path} (h : p.same q = true) : p.fileName? = q.fileName? := by
  simp only [fileName?, same_iff.1 h]

end Path

end ScriptBundle

/-
# Paths behind a directory

A path that does not climb out of the working directory folds in the same way when a directory is put
in front of it: the names of the directory come before what the path folds to.  So the paths of a
build keep their form, and stay apart, when all of them are seen from further up.

## Main content

- `Path.ofNames` is the path that goes down some names.
- `Path.IsDirect` says that a path goes down through names only; `Path.isDirect_folded` that folded
  paths do unless they climb.
- `Path.folded_eq_join` and `Path.folded_join_ofNames`: folding behind a directory.
- `Path.same_join_ofNames`: direct paths stay apart behind a directory.
- `Lookup.folded_targetPath_join`: a target leads to the same path behind a directory;
  `Lookup.isDirect_of_file?`: what is found at a direct path is direct.
-/
import ScriptBundle.Proofs.Lookup.Anchor

namespace ScriptBundle

namespace Path

variable {p q base : Path} {names : List Text}

/-! ## Going down some names -/

/-- The path that goes down some names. -/
def ofNames (names : List Text) : Path := ⟨Text.join ['/'] names⟩

/-- The names that a path can go down: there is one at least. -/
structure AreNames (names : List Text) : Prop where
  /-- There is a name. -/
  ne_nil : names ≠ []
  /-- All of them are names. -/
  isName : ∀ name ∈ names, IsName name

namespace AreNames

/-- The pieces of a path that goes down names. -/
theorem pieces (h : AreNames names) : (ofNames names).pieces = names :=
  pieces_join h.ne_nil fun name hname => (h.isName name hname).1

/-- The components that names stand for. -/
theorem filterMap_ofPiece? (h : ∀ name ∈ names, IsName name) :
    names.filterMap ofPiece? = names.map Component.name := by
  induction names with
  | nil => rfl
  | cons name names ih =>
    obtain ⟨hname, hnames⟩ := List.forall_mem_cons.1 h
    rw [List.filterMap_cons_some hname.2, ih hnames, List.map_cons]

/-- The inner components of a path that goes down names. -/
theorem inner (h : AreNames names) : (ofNames names).inner = names.map Component.name := by
  rw [Path.inner, h.pieces, filterMap_ofPiece? h.isName]

/-- Nothing leads a path that goes down names. -/
theorem leading (h : AreNames names) : (ofNames names).leading = [] := by
  obtain ⟨name, rest, rfl⟩ := List.exists_cons_of_ne_nil h.ne_nil
  have hname := (h.isName name (List.mem_cons_self ..)).2
  rw [leading_eq_nil_iff, ← Bool.not_eq_true, isAbsolute_iff, h.pieces]
  refine ⟨?_, ?_⟩
  · rintro ⟨piece, pieces, heq⟩
    rw [(List.cons.inj heq).1] at hname
    cases hname
  · rintro hdot
    rw [List.head?_cons, Option.some.injEq] at hdot
    rw [hdot] at hname
    cases hname

/-- The components of a path that goes down names. -/
theorem components (h : AreNames names) :
    (ofNames names).components = names.map Component.name := by
  rw [components_eq, h.leading, h.inner, List.nil_append]

/-- A path that goes down names is not empty. -/
theorem text_ne_nil (h : AreNames names) : (ofNames names).text ≠ [] := by
  rw [Ne, ← components_eq_nil_iff, h.components, List.map_eq_nil_iff]
  exact h.ne_nil

/-- A relative path comes behind the names with a slash in between. -/
theorem text_join (h : AreNames names) (hp : p.isAbsolute = false) :
    ((ofNames names).join p).text = (ofNames names).text ++ '/' :: p.text := by
  rw [join, hp, if_neg Bool.false_ne_true, if_neg]
  rintro (hempty | hlast)
  · exact h.text_ne_nil hempty
  · -- a slash at the end leaves an empty piece, which is no name
    obtain ⟨front, hfront⟩ := List.getLast?_eq_some_iff.1 hlast
    have hpieces : names = Path.pieces ⟨front⟩ ++ [[]] := by
      rw [← h.pieces, show ofNames names = ⟨front ++ '/' :: []⟩ from congrArg Path.mk hfront,
        pieces_append]
      rfl
    have hempty : IsName [] := h.isName [] (by
      rw [hpieces]
      exact List.mem_append_right _ (List.mem_singleton_self _))
    cases hempty.2

/-- The pieces of a relative path behind names. -/
theorem pieces_join (h : AreNames names) (hp : p.isAbsolute = false) :
    ((ofNames names).join p).pieces = names ++ p.pieces := by
  have htext := h.text_join hp
  rw [show (ofNames names).join p = ⟨(ofNames names).text ++ '/' :: p.text⟩ from
    congrArg Path.mk htext, pieces_append, show Path.pieces ⟨(ofNames names).text⟩ = names from
    h.pieces]

/-- The components of a relative path behind names. -/
theorem components_join (h : AreNames names) (hp : p.isAbsolute = false) :
    ((ofNames names).join p).components = names.map Component.name ++ p.inner := by
  rw [Path.components_join h.text_ne_nil hp, h.components]

end AreNames

/-- An absolute path does not change behind a directory. -/
theorem join_of_isAbsolute (hp : p.isAbsolute = true) : base.join p = p := by
  rw [join, if_pos hp]

/-- No path changes behind the empty path. -/
theorem join_nil (p : Path) : (ofNames []).join p = p := by
  unfold join
  split
  · rfl
  · rw [if_pos (.inl rfl)]
    rfl

/-- A path that is not empty is not empty behind a directory. -/
theorem text_join_ne_nil (base : Path) (hp : p.text ≠ []) : (base.join p).text ≠ [] := by
  unfold join
  split
  · exact hp
  · split
    · exact List.append_ne_nil_of_right_ne_nil _ hp
    · exact List.append_ne_nil_of_right_ne_nil _ (List.cons_ne_nil _ _)

/-! ## Direct paths -/

/-- A path goes down through names only, from the root or from the working directory, and does not
end where it begins. -/
def IsDirect (p : Path) : Prop :=
  ∃ names : List Text, p.components = .root :: names.map Component.name ∨
    names ≠ [] ∧ p.components = names.map Component.name

/-- An absolute path has the root among its components. -/
theorem isAbsolute_iff_root_mem : p.isAbsolute = true ↔ .root ∈ p.components := by
  rw [isAbsolute_eq, decide_eq_true_iff, components_eq, List.mem_append]
  constructor
  · intro h
    exact .inl (by simp [h])
  · rintro (hleading | hinner)
    · rcases p.leading_cases with h | h | h <;> rw [h] at hleading ⊢ <;> simp at hleading
    · cases isLeading_of_mem_inner hinner

/-- The root neither comes in nor goes away when a path is folded. -/
theorem root_mem_foldl_foldStep {components stack : List Component} :
    .root ∈ components.foldl foldStep stack ↔ .root ∈ stack ∨ .root ∈ components := by
  induction components generalizing stack with
  | nil => simp
  | cons c components ih =>
    have hstep : .root ∈ foldStep stack c ↔ .root ∈ stack ∨ c = .root := by
      cases c with
      | root => simp [foldStep]
      | current => simp [foldStep]
      | name text => simp [foldStep]
      | parent => cases stack with
        | nil => simp [foldStep]
        | cons top rest => cases top <;> simp [foldStep]
    rw [List.foldl_cons, ih, hstep, List.mem_cons, or_assoc, eq_comm (a := c)]

/-- A folded path is absolute exactly if the path is. -/
theorem isAbsolute_folded (p : Path) : p.folded.isAbsolute = p.isAbsolute := by
  have hfolded : .root ∈ p.folded.components ↔ .root ∈ p.foldedComponents := by
    rw [components_folded]
    split
    · next hnil => simp [hnil]
    · rfl
  rw [Bool.eq_iff_iff, isAbsolute_iff_root_mem, isAbsolute_iff_root_mem, hfolded, foldedComponents,
    List.mem_reverse, root_mem_foldl_foldStep]
  simp

/-- A path that is folded to something, and not to a climb, is direct. -/
theorem isDirect_folded (hdot : p.folded ≠ ⟨['.']⟩)
    (hclimb : p.folded.components.head? ≠ some .parent) : IsDirect p.folded := by
  obtain ⟨base, names, hcomponents, rfl | ⟨n, rfl⟩⟩ := isAnchored_folded hdot
  · exact ⟨names, .inl hcomponents⟩
  · cases n with
    | zero =>
      refine ⟨names, .inr ⟨?_, hcomponents⟩⟩
      rintro rfl
      exact text_folded_ne_nil p (components_eq_nil_iff.1 hcomponents)
    | succ n =>
      rw [hcomponents, List.replicate_succ] at hclimb
      exact absurd rfl hclimb

namespace IsDirect

/-- A direct path does not climb. -/
theorem parent_not_mem (h : IsDirect p) : .parent ∉ p.components := by
  obtain ⟨names, hcomponents | ⟨-, hcomponents⟩⟩ := h <;> rw [hcomponents] <;> simp

/-- The names of a direct relative path. -/
theorem exists_names (h : IsDirect p) (hp : p.isAbsolute = false) :
    ∃ names : List Text, names ≠ [] ∧ p.components = names.map Component.name := by
  obtain ⟨names, hcomponents | hnames⟩ := h
  · rw [isAbsolute_iff_root_mem.2 (by simp [hcomponents])] at hp
    cases hp
  · exact ⟨names, hnames⟩

/-- Nothing leads a direct relative path. -/
theorem leading_eq_nil (h : IsDirect p) (hp : p.isAbsolute = false) : p.leading = [] := by
  obtain ⟨names, -, hcomponents⟩ := h.exists_names hp
  rw [← takeWhile_components, hcomponents]
  cases names <;> rfl

/-- No dot leads a direct path. -/
theorem leading_ne_current (h : IsDirect p) : p.leading ≠ [.current] := by
  cases hp : p.isAbsolute with
  | true =>
    rw [isAbsolute_eq, decide_eq_true_eq] at hp
    rw [hp]
    nofun
  | false =>
    rw [h.leading_eq_nil hp]
    nofun

/-- A direct relative path has inner components only. -/
theorem components_eq_inner (h : IsDirect p) (hp : p.isAbsolute = false) :
    p.components = p.inner := by
  rw [components_eq, h.leading_eq_nil hp, List.nil_append]

/-- A direct path is not empty. -/
theorem text_ne_nil (h : IsDirect p) : p.text ≠ [] := by
  rw [Ne, ← components_eq_nil_iff]
  obtain ⟨names, hcomponents | ⟨hne, hcomponents⟩⟩ := h
  · simp [hcomponents]
  · simp [hcomponents, hne]

/-- A direct path that is folded has the folded components. -/
theorem components_folded (h : IsDirect p.folded) : p.folded.components = p.foldedComponents := by
  rw [Path.components_folded]
  split
  · next hnil =>
    obtain ⟨names, hcomponents | ⟨hne, hcomponents⟩⟩ := h <;>
      rw [Path.components_folded, if_pos hnil] at hcomponents
    · cases hcomponents
    · cases names with
      | nil => exact absurd rfl hne
      | cons name names => cases hcomponents
  · rfl

/-- A direct path that is folded has one piece for each component, if it is relative. -/
theorem pieces_folded (h : IsDirect p.folded) (hp : p.isAbsolute = false) :
    p.folded.pieces = p.foldedComponents.map Component.text := by
  have hrelative := (isAbsolute_folded p).trans hp
  rw [← h.components_folded, h.components_eq_inner hrelative]
  rcases folded_cases p with hfolded | hfolded | hfolded
  · have hleading := h.leading_eq_nil hrelative
    rw [hfolded] at hleading
    cases hleading
  · exact hfolded
  · rw [isAbsolute, hfolded] at hrelative
    cases hrelative

end IsDirect

/-! ## Folding behind a directory -/

/-- A climb does not go away when a path is folded. -/
theorem parent_mem_foldl_foldStep {components stack : List Component} (h : .parent ∈ stack) :
    .parent ∈ components.foldl foldStep stack := by
  induction components generalizing stack with
  | nil => exact h
  | cons c components ih =>
    apply ih
    cases c with
    | root => exact List.mem_cons_of_mem _ h
    | current => exact h
    | name text => exact List.mem_cons_of_mem _ h
    | parent =>
      cases stack with
      | nil => cases h
      | cons top rest =>
        cases top with
        | root => exact h
        | current => exact List.mem_cons_of_mem _ h
        | parent => exact List.mem_cons_of_mem _ h
        | name text => exact (List.mem_cons.1 h).resolve_left nofun

/-- What does not climb is folded in the same way behind other components. -/
theorem foldl_foldStep_append {components stack : List Component} (base : List Component)
    (hinner : ∀ c ∈ components, c.isLeading = false) (hstack : ∀ c ∈ stack, c.isName = true)
    (hclimb : .parent ∉ components.foldl foldStep stack) :
    components.foldl foldStep (stack ++ base) = components.foldl foldStep stack ++ base := by
  induction components generalizing stack with
  | nil => rfl
  | cons c components ih =>
    obtain ⟨hc, hcomponents⟩ := List.forall_mem_cons.1 hinner
    cases c with
    | root => cases hc
    | current => cases hc
    | name text =>
      have hnames : ∀ c ∈ Component.name text :: stack, c.isName = true :=
        List.forall_mem_cons.2 ⟨rfl, hstack⟩
      exact ih hcomponents hnames hclimb
    | parent =>
      cases stack with
      | nil =>
        -- a climb from where the path begins would be left over
        exact absurd (parent_mem_foldl_foldStep (List.mem_singleton_self _)) hclimb
      | cons top rest =>
        obtain ⟨htop, hrest⟩ := List.forall_mem_cons.1 hstack
        cases top with
        | name text => exact ih hcomponents hrest hclimb
        | root => cases htop
        | current => cases htop
        | parent => cases htop

/-- Only the inner components of a relative path count when it is folded. -/
theorem foldedComponents_eq_inner (hp : p.isAbsolute = false) :
    p.foldedComponents = (p.inner.foldl foldStep []).reverse := by
  rw [foldedComponents, components_eq]
  rcases p.leading_cases with hleading | hleading | hleading
  · rw [hleading, List.nil_append]
  · rw [isAbsolute_eq, hleading, decide_eq_true rfl] at hp
    cases hp
  · rw [hleading]
    rfl

/-- Names are folded to themselves. -/
theorem foldl_foldStep_names (names : List Text) (stack : List Component) :
    (names.map Component.name).foldl foldStep stack =
      (names.map Component.name).reverse ++ stack := by
  induction names generalizing stack with
  | nil => rfl
  | cons name names ih =>
    rw [List.map_cons, List.foldl_cons, ih, List.reverse_cons, List.append_assoc]
    rfl

/-- A path with the components of another one behind names folds to the other one behind these
names, if that does not climb. -/
theorem foldedComponents_of_names (hq : q.isAbsolute = false) (hclimb : .parent ∉ q.foldedComponents)
    (hp : p.components = names.map Component.name ++ q.inner) :
    p.foldedComponents = names.map Component.name ++ q.foldedComponents := by
  rw [foldedComponents_eq_inner hq, List.mem_reverse] at hclimb
  have hnone : ∀ c ∈ ([] : List Component), c.isName = true := nofun
  have happend := foldl_foldStep_append (names.map Component.name).reverse
    (fun c hc => isLeading_of_mem_inner hc) hnone hclimb
  rw [List.nil_append] at happend
  rw [foldedComponents, hp, List.foldl_append, foldl_foldStep_names, List.append_nil, happend,
    foldedComponents_eq_inner hq, List.reverse_append, List.reverse_reverse]

/-- A direct path stays direct when it is folded. -/
theorem IsDirect.folded (h : IsDirect p) : IsDirect p.folded := by
  have hfolded : p.foldedComponents = p.components := by
    obtain ⟨names, hcomponents | ⟨-, hcomponents⟩⟩ := h <;> rw [foldedComponents, hcomponents]
    · rw [List.foldl_cons, show foldStep [] .root = [.root] from rfl, foldl_foldStep_names]
      simp
    · simp [foldl_foldStep_names]
  have hne : p.foldedComponents ≠ [] := fun hnil =>
    h.text_ne_nil (components_eq_nil_iff.1 (hfolded.symm.trans hnil))
  have hcomponents : p.folded.components = p.components := by
    rw [Path.components_folded, if_neg hne, hfolded]
  obtain ⟨names, hnames⟩ := h
  exact ⟨names, by rwa [hcomponents]⟩

/-- A path that begins with names is relative. -/
theorem isAbsolute_of_names (hp : p.components = names.map Component.name ++ q.inner) :
    p.isAbsolute = false := by
  rw [← Bool.not_eq_true, isAbsolute_iff_root_mem, hp, List.mem_append]
  rintro (hname | hinner)
  · simp at hname
  · cases isLeading_of_mem_inner hinner

/-- Paths with the same pieces are the same. -/
theorem eq_of_pieces_eq (h : p.pieces = q.pieces) : p = q := by
  obtain ⟨s⟩ := p
  obtain ⟨t⟩ := q
  exact congrArg Path.mk ((text_eq_join ⟨s⟩).trans ((congrArg _ h).trans (text_eq_join ⟨t⟩).symm))

/-- Folding behind a directory. -/
theorem folded_eq_join (hnames : AreNames names) (hq : q.isAbsolute = false)
    (hdirect : IsDirect q.folded) (hp : p.components = names.map Component.name ++ q.inner) :
    p.folded = (ofNames names).join q.folded := by
  have hclimb := hdirect.parent_not_mem
  rw [hdirect.components_folded] at hclimb
  have hfolded := foldedComponents_of_names hq hclimb hp
  have hrelative : p.isAbsolute = false := isAbsolute_of_names hp
  have hbehind : IsDirect p.folded := by
    obtain ⟨below, hne, hbelow⟩ := hdirect.exists_names ((isAbsolute_folded q).trans hq)
    rw [hdirect.components_folded] at hbelow
    rw [hbelow, ← List.map_append] at hfolded
    refine ⟨names ++ below, .inr ⟨List.append_ne_nil_of_right_ne_nil names hne, ?_⟩⟩
    rw [components_folded, hfolded, if_neg]
    simpa using fun _ => hne
  apply eq_of_pieces_eq
  rw [hbehind.pieces_folded hrelative, hfolded, List.map_append,
    hnames.pieces_join ((isAbsolute_folded q).trans hq), hdirect.pieces_folded hq, List.map_map]
  exact congrArg (· ++ _) (List.map_id names)

/-! ## Direct paths behind a directory -/

/-- The components of a direct relative path behind names. -/
theorem IsDirect.components_join (h : IsDirect p) (hnames : AreNames names)
    (hp : p.isAbsolute = false) :
    ((ofNames names).join p).components = names.map Component.name ++ p.components := by
  rw [hnames.components_join hp, h.components_eq_inner hp]

/-- A directory in front does not make a path absolute. -/
theorem isAbsolute_join (hnames : AreNames names) (p : Path) :
    ((ofNames names).join p).isAbsolute = p.isAbsolute := by
  cases hp : p.isAbsolute with
  | true => rw [join_of_isAbsolute hp, hp]
  | false => exact isAbsolute_of_names (hnames.components_join hp)

/-- Direct paths stay apart behind a directory. -/
theorem same_join_ofNames (hnames : AreNames names) (hp : IsDirect p) (hq : IsDirect q) :
    ((ofNames names).join p).same ((ofNames names).join q) = p.same q := by
  by_cases habsolute : p.isAbsolute = q.isAbsolute
  · cases hpa : p.isAbsolute with
    | true => rw [join_of_isAbsolute hpa, join_of_isAbsolute (habsolute.symm.trans hpa)]
    | false =>
      rw [Bool.eq_iff_iff, same_iff, same_iff, hp.components_join hnames hpa,
        hq.components_join hnames (habsolute.symm.trans hpa), List.append_cancel_left_eq]
  · have hbehind : ((ofNames names).join p).isAbsolute ≠ ((ofNames names).join q).isAbsolute := by
      rwa [isAbsolute_join hnames, isAbsolute_join hnames]
    rw [Bool.eq_iff_iff]
    exact ⟨fun h => absurd (isAbsolute_eq_of_same h) hbehind,
      fun h => absurd (isAbsolute_eq_of_same h) habsolute⟩

/-- A relative path folds in the same way behind a directory. -/
theorem folded_join_ofNames (hnames : AreNames names) (hp : p.isAbsolute = false)
    (hdirect : IsDirect p.folded) : ((ofNames names).join p).folded = (ofNames names).join p.folded :=
  folded_eq_join hnames hp hdirect (hnames.components_join hp)

/-- A direct path keeps its file name behind a directory. -/
theorem fileName?_join_ofNames (hnames : AreNames names) (hp : IsDirect p) :
    ((ofNames names).join p).fileName? = p.fileName? := by
  cases hpa : p.isAbsolute with
  | true => rw [join_of_isAbsolute hpa]
  | false =>
    have hne : p.components ≠ [] := fun hnil => hp.text_ne_nil (components_eq_nil_iff.1 hnil)
    rw [fileName?, fileName?, hp.components_join hnames hpa, List.getLast?_append_of_ne_nil _ hne]

/-- The text of a relative path behind another one. -/
theorem text_join_of (hp : p.text ≠ []) (hq : q.isAbsolute = false) :
    (p.join q).text = p.text ++ if p.text.getLast? = some '/' then q.text else '/' :: q.text := by
  rw [join, hq, if_neg Bool.false_ne_true]
  simp only [hp, false_or]
  split <;> rfl

/-- A relative path does not change where another one starts. -/
theorem isAbsolute_join_of (hp : p.text ≠ []) (hq : q.isAbsolute = false) :
    (p.join q).isAbsolute = p.isAbsolute := by
  rw [Bool.eq_iff_iff, isAbsolute_iff_root_mem, isAbsolute_iff_root_mem, Path.components_join hp hq,
    List.mem_append, or_iff_left fun hmem => Bool.noConfusion (isLeading_of_mem_inner hmem)]

/-- What is joined to a path can be joined to it behind a directory. -/
theorem join_join (hnames : AreNames names) (hp : p.text ≠ []) (hq : q.isAbsolute = false) :
    ((ofNames names).join p).join q = (ofNames names).join (p.join q) := by
  have habsolute := isAbsolute_join_of hp hq
  cases hpa : p.isAbsolute with
  | true => rw [join_of_isAbsolute hpa, join_of_isAbsolute (habsolute.trans hpa)]
  | false =>
    have htext := hnames.text_join hpa
    have hlast : ((ofNames names).join p).text.getLast? = p.text.getLast? := by
      rw [htext, List.getLast?_append_of_ne_nil _ (List.cons_ne_nil _ _),
        List.getLast?_cons_of_ne_nil hp]
    apply congrArg Path.mk
    calc (((ofNames names).join p).join q).text
        = ((ofNames names).text ++ '/' :: p.text) ++
            if p.text.getLast? = some '/' then q.text else '/' :: q.text := by
          rw [text_join_of (text_join_ne_nil _ hp) hq, hlast, htext]
      _ = (ofNames names).text ++ '/' :: (p.join q).text := by
          rw [text_join_of hp hq, List.append_assoc, List.cons_append]
      _ = ((ofNames names).join (p.join q)).text := (hnames.text_join (habsolute.trans hpa)).symm

/-- An extension can be put behind a path in front of which a directory stands. -/
theorem text_join_append (hnames : AreNames names) (hp : p.text ≠ []) (t : Text) :
    (⟨((ofNames names).join p).text ++ t⟩ : Path) = (ofNames names).join ⟨p.text ++ t⟩ := by
  have happend : Path.isAbsolute ⟨p.text ++ t⟩ = p.isAbsolute := by
    rw [isAbsolute, isAbsolute, List.head?_append_of_ne_nil _ hp]
  cases hpa : p.isAbsolute with
  | true => rw [join_of_isAbsolute hpa, join_of_isAbsolute (happend.trans hpa)]
  | false =>
    have htext := hnames.text_join (happend.trans hpa)
    rw [hnames.text_join hpa, List.append_assoc, List.cons_append, ← htext]

/-- The inner components of a relative path behind one that goes down names. -/
theorem inner_join_of_names (hbase : base.components = names.map Component.name)
    (hq : q.isAbsolute = false) :
    (base.join q).isAbsolute = false ∧ (base.join q).inner = base.components ++ q.inner := by
  by_cases hempty : base.text = []
  · have hjoin : base.join q = q := by
      rw [join, hq, if_neg Bool.false_ne_true, if_pos (.inl hempty), hempty, List.nil_append]
    rw [hjoin, components_eq_nil_iff.2 hempty]
    exact ⟨hq, rfl⟩
  · have hcomponents := Path.components_join hempty hq
    have hleading : (base.join q).leading = [] := by
      rw [← takeWhile_components, hcomponents, hbase]
      cases names with
      | nil => exact absurd (components_eq_nil_iff.1 hbase) hempty
      | cons name names => rfl
    rw [components_eq, hleading, List.nil_append] at hcomponents
    refine ⟨(isAbsolute_join_of hempty hq).trans ?_, hcomponents⟩
    rw [← Bool.not_eq_true, isAbsolute_iff_root_mem, hbase]
    simp

namespace IsDirect

/-- A direct path with one more name is direct. -/
theorem append_name (h : IsDirect p) {name : Text}
    (hq : q.components = p.components ++ [.name name]) : IsDirect q := by
  obtain ⟨names, hcomponents | ⟨-, hcomponents⟩⟩ := h
  · exact ⟨names ++ [name], .inl (by simp [hq, hcomponents])⟩
  · exact ⟨names ++ [name], .inr ⟨by simp, by simp [hq, hcomponents]⟩⟩

/-- A direct path with another name at its end is direct. -/
theorem replace_name (h : IsDirect p) {name : Text}
    (hq : q.components = p.components.dropLast ++ [.name name]) : IsDirect q := by
  obtain ⟨names, hcomponents | ⟨-, hcomponents⟩⟩ := h
  · cases names with
    | nil => exact ⟨[name], .inr ⟨by simp, by simp [hq, hcomponents]⟩⟩
    | cons first names =>
      refine ⟨(first :: names).dropLast ++ [name], .inl ?_⟩
      rw [hq, hcomponents, List.map_append, List.map_dropLast]
      rfl
  · refine ⟨names.dropLast ++ [name], .inr ⟨by simp, ?_⟩⟩
    rw [hq, hcomponents, List.map_append, List.map_dropLast]
    rfl

end IsDirect

end Path

/-! ## Targets behind a directory -/

namespace Lookup

open ScriptBundle.Path (IsDirect AreNames ofNames)

variable {l : Lookup} {fs : FileSystem} {p file found : Path} {names : List Text} {target : Text}

/-- A target leads to the same path behind a directory. -/
theorem folded_targetPath_join {name : Text} (hnames : AreNames names) (hfile : IsDirect file)
    (hname : file.fileName? = some name) (hdirect : IsDirect (targetPath file target).folded) :
    (targetPath ((ofNames names).join file) target).folded =
      (ofNames names).join (targetPath file target).folded := by
  have hcomponents := Path.components_of_fileName? hname
  cases htarget : Path.isAbsolute ⟨target⟩ with
  | true =>
    rw [targetPath, targetPath, Path.join_of_isAbsolute htarget, Path.join_of_isAbsolute htarget,
      Path.join_of_isAbsolute ((Path.isAbsolute_folded _).trans htarget)]
  | false =>
    cases habsolute : file.isAbsolute with
    | true =>
      -- the directory of the file is absolute, and so is what is joined to it
      have hroot : .root ∈ file.directory.components := by
        have hmem := Path.isAbsolute_iff_root_mem.1 habsolute
        rw [hcomponents, List.mem_append] at hmem
        exact hmem.resolve_right (by simp)
      have hne : file.directory.text ≠ [] := fun hempty =>
        List.ne_nil_of_mem hroot (Path.components_eq_nil_iff.2 hempty)
      have htargetPath : (targetPath file target).isAbsolute = true :=
        (Path.isAbsolute_join_of hne htarget).trans (Path.isAbsolute_iff_root_mem.2 hroot)
      rw [Path.join_of_isAbsolute habsolute,
        Path.join_of_isAbsolute ((Path.isAbsolute_folded _).trans htargetPath)]
    | false =>
      have hbehind : ((ofNames names).join file).directory.components =
          names.map Path.Component.name ++ file.directory.components := by
        have hall := Path.components_of_fileName?
          ((Path.fileName?_join_ofNames hnames hfile).trans hname)
        rw [hfile.components_join hnames habsolute, hcomponents, ← List.append_assoc,
          List.append_cancel_right_eq] at hall
        exact hall.symm
      obtain ⟨all, -, hall⟩ := hfile.exists_names habsolute
      rw [hcomponents] at hall
      obtain ⟨below, last, rfl, hbelow, -⟩ := List.map_eq_append_iff.1 hall.symm
      obtain ⟨hrelative, hinner⟩ := Path.inner_join_of_names hbelow.symm htarget
      have hne : ((ofNames names).join file).directory.text ≠ [] := by
        rw [Ne, ← Path.components_eq_nil_iff, hbehind]
        simp [hnames.ne_nil]
      apply Path.folded_eq_join hnames hrelative hdirect
      rw [targetPath, Path.components_join hne htarget, hbehind, hinner, List.append_assoc]

/-- What is found at a direct path is direct. -/
theorem isDirect_of_file? (hplain : ∀ extension ∈ l.extensions, Path.IsPlain ('.' :: extension))
    (hp : IsDirect p.folded) (h : l.file? fs p = some found) : IsDirect found := by
  obtain ⟨-, rfl | rfl | ⟨extension, hmem, rfl⟩⟩ := file?_cases h
  · have hindex : Path.IsName "index.js".toList := ⟨by decide, by decide⟩
    exact hp.append_name (hindex.components_join _)
  · exact hp
  · obtain ⟨name, hname | hname⟩ := Path.components_append_of_isPlain (hplain extension hmem)
      hp.text_ne_nil hp.leading_ne_current
    · exact hp.replace_name hname
    · exact hp.append_name hname

end Lookup

end ScriptBundle

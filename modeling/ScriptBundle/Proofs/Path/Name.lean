/-
# Names in paths

A name goes into a path as one component.  File names are names, and so are file names with a text
behind them that has no slash and is not all dots, such as an extension.

## Main content

- `Path.IsName` says that a text is a name; `IsName.components_join` and `IsName.walk_join` say what
  joining it does.
- `Path.fileName?_folded` and `Path.fileName?_join`: folding and joining keep the file name.
- `Path.IsPlain` says that a text can stand behind a file name, and
  `Path.components_append_of_isPlain` what it does behind a path.
-/
import ScriptBundle.Proofs.Path.Walk

namespace ScriptBundle

namespace Path

variable {p : Path} {t : Text}

/-! ## Names -/

/-- A text is a name if it stands for a component as it is. -/
def IsName (t : Text) : Prop := '/' ∉ t ∧ ofPiece? t = some (.name t)

/-- The pieces of a name are the name. -/
theorem IsName.pieces (h : IsName t) : Path.pieces ⟨t⟩ = [t] := by
  have hjoin := pieces_join (List.cons_ne_nil t []) (by simpa using h.1)
  simpa [Text.join] using hjoin

/-- A name is a relative path. -/
theorem IsName.isAbsolute (h : IsName t) : Path.isAbsolute ⟨t⟩ = false := by
  rw [← Bool.not_eq_true, isAbsolute_iff, h.pieces]
  rintro ⟨piece, pieces, heq⟩
  cases heq

/-- The inner component of a name. -/
theorem IsName.inner (h : IsName t) : Path.inner ⟨t⟩ = [.name t] := by
  rw [Path.inner, h.pieces, List.filterMap_cons_some h.2, List.filterMap_nil]

/-- A name is its only component. -/
theorem IsName.components (h : IsName t) : Path.components ⟨t⟩ = [.name t] := by
  have hleading : Path.leading ⟨t⟩ = [] := by
    rw [leading_eq_nil_iff, h.pieces]
    refine ⟨h.isAbsolute, ?_⟩
    rintro hdot
    have hname := h.2
    rw [List.head?_cons, Option.some.injEq] at hdot
    rw [hdot] at hname
    cases hname
  rw [components_eq, hleading, h.inner, List.nil_append]

/-- A name that is joined to a path comes behind the components of the path. -/
theorem IsName.components_join (h : IsName t) (base : Path) :
    (base.join ⟨t⟩).components = base.components ++ [.name t] := by
  by_cases hbase : base.text = []
  · rw [components_eq_nil_iff.2 hbase, join, h.isAbsolute, if_neg Bool.false_ne_true,
      if_pos (.inl hbase), hbase]
    exact h.components
  · rw [Path.components_join hbase h.isAbsolute, h.inner]

/-- A name that is joined to a path leads to the name in the place of the path. -/
theorem IsName.walk_join (h : IsName t) (directory : List Text) (base : Path) :
    walk directory (base.join ⟨t⟩) = t :: walk directory base := by
  rw [walk_eq_foldl, h.components_join, List.foldl_concat]
  rfl

/-! ## File names -/

/-- File names are names. -/
theorem isName_of_fileName? (h : p.fileName? = some t) : IsName t := by
  obtain ⟨front, hfront⟩ := exists_inner_of_fileName? h
  have hmem : Component.name t ∈ p.inner := by
    rw [hfront]
    exact List.mem_append_right _ (List.mem_singleton_self _)
  exact (ofPiece?_text_of_mem_inner hmem).symm

/-- Folding keeps the file name. -/
theorem fileName?_folded (h : p.fileName? = some t) : p.folded.fileName? = some t := by
  obtain ⟨front, hfront⟩ := fileName?_eq_some_iff.1 h
  have hfolded : p.foldedComponents = (front.foldl foldStep []).reverse ++ [.name t] := by
    rw [foldedComponents, hfront, List.foldl_concat]
    exact List.reverse_cons
  rw [fileName?_eq_some_iff, components_folded, hfolded, if_neg (by simp)]
  exact ⟨_, rfl⟩

/-- A path that is joined to another one keeps its file name. -/
theorem fileName?_join (base : Path) (h : p.fileName? = some t) :
    (base.join p).fileName? = some t := by
  by_cases habsolute : p.isAbsolute = true
  · rw [join, if_pos habsolute]
    exact h
  · by_cases hbase : base.text = []
    · rw [join, if_neg habsolute, if_pos (.inl hbase), hbase]
      exact h
    · rw [Bool.not_eq_true] at habsolute
      obtain ⟨front, hfront⟩ := exists_inner_of_fileName? h
      rw [fileName?_eq_some_iff, Path.components_join hbase habsolute, hfront]
      exact ⟨_, (List.append_assoc ..).symm⟩

/-! ## Texts behind a path -/

/-- A text without slashes that is put behind a path goes into its last piece. -/
theorem pieces_append_of_not_mem (s : Text) (h : '/' ∉ t) :
    ∃ front last, Path.pieces ⟨s⟩ = front ++ [last] ∧ Path.pieces ⟨s ++ t⟩ = front ++ [last ++ t] := by
  induction s with
  | nil =>
    have hjoin := pieces_join (List.cons_ne_nil t []) (by simpa using h)
    exact ⟨[], [], rfl, by simpa [Text.join] using hjoin⟩
  | cons c s ih =>
    obtain ⟨front, last, hs, ht⟩ := ih
    have hcons (s : Text) : Path.pieces ⟨c :: s⟩ = Text.consPiece (· = '/') c (Path.pieces ⟨s⟩) := rfl
    rw [List.cons_append, hcons, hcons, hs, ht]
    by_cases hc : c = '/'
    · exact ⟨[] :: front, last, by simp [Text.consPiece, hc], by simp [Text.consPiece, hc]⟩
    · cases front with
      | nil => exact ⟨[], c :: last, by simp [Text.consPiece, hc], by simp [Text.consPiece, hc]⟩
      | cons piece front =>
        exact ⟨(c :: piece) :: front, last, by simp [Text.consPiece, hc],
          by simp [Text.consPiece, hc]⟩

/-- A text that can stand behind a file name: it has no slash, and is not all dots. -/
def IsPlain (t : Text) : Prop := '/' ∉ t ∧ ∃ c ∈ t, c ≠ '.'

/-- What ends with a plain text and has no slash is a name. -/
theorem IsPlain.isName (h : IsPlain t) (piece : Text) (hpiece : '/' ∉ piece) :
    IsName (piece ++ t) := by
  obtain ⟨hslash, c, hc, hdot⟩ := h
  have hother : ∀ s : Text, (∀ d ∈ s, d = '.') → piece ++ t ≠ s := by
    rintro s hs rfl
    exact hdot (hs c (List.mem_append_right _ hc))
  refine ⟨List.not_mem_append hpiece hslash, ?_⟩
  rw [ofPiece?, if_neg, if_neg (hother _ (by simp))]
  exact not_or.2 ⟨hother _ (by simp), hother _ (by simp)⟩

/-- A plain text behind a path that no dot leads makes a name: the last component gets longer, or a
new one comes in behind the others. -/
theorem components_append_of_isPlain (ht : IsPlain t) (hp : p.text ≠ [])
    (hleading : p.leading ≠ [.current]) :
    ∃ name, Path.components ⟨p.text ++ t⟩ = p.components.dropLast ++ [.name name] ∨
      Path.components ⟨p.text ++ t⟩ = p.components ++ [.name name] := by
  obtain ⟨front, last, hpieces, hpieces'⟩ := pieces_append_of_not_mem p.text ht.1
  rw [show Path.pieces ⟨p.text⟩ = p.pieces from rfl] at hpieces
  have hslash : '/' ∉ last := by
    apply slash_not_mem_of_mem_pieces (p := p)
    rw [hpieces]
    exact List.mem_append_right _ (List.mem_singleton_self last)
  have hname := (ht.isName last hslash).2
  have hsame : Path.leading ⟨p.text ++ t⟩ = p.leading := by
    have habsolute : Path.isAbsolute ⟨p.text ++ t⟩ = p.isAbsolute := by
      rw [isAbsolute, List.head?_append_of_ne_nil _ hp]
      rfl
    cases hroot : p.isAbsolute with
    | true => rw [leading, leading, habsolute, hroot, if_pos rfl, if_pos rfl]
    | false =>
      have hnil : p.leading = [] := by
        rcases p.leading_cases with h | h | h
        · exact h
        · rw [isAbsolute_eq, h] at hroot
          cases hroot
        · exact absurd h hleading
      rw [hnil, leading_eq_nil_iff, habsolute, hroot, hpieces']
      refine ⟨rfl, ?_⟩
      cases front with
      | nil =>
        rintro hdot
        rw [List.nil_append, List.head?_cons, Option.some.injEq] at hdot
        rw [hdot] at hname
        cases hname
      | cons piece front =>
        have hhead := (leading_eq_nil_iff.1 hnil).2
        rw [hpieces] at hhead
        exact hhead
  refine ⟨last ++ t, ?_⟩
  rw [components_eq, components_eq, hsame, inner, inner, hpieces', hpieces, List.filterMap_append,
    List.filterMap_append, List.filterMap_cons_some hname]
  cases hlast : ofPiece? last with
  | none =>
    rw [List.filterMap_cons_none hlast]
    exact .inr (by simp)
  | some c =>
    rw [List.filterMap_cons_some hlast]
    exact .inl (by simp [← List.append_assoc])

end Path

end ScriptBundle

/-
# Spellings of a path

Empty pieces and dots in a path lead nowhere; they only ask that a directory stands where they are
met.  So all spellings of a path that lead somewhere lead to the same location, and if any spelling
leads to a file, the folded one does.

## Main content

- `FileSystem.follow_named`: a path leads to the same location without its idle pieces.
- `FileSystem.readText_eq_of_same`: paths with the same components have the same text, if they can
  be read.
- `FileSystem.isFile_folded_of_same`: a file can be found under its folded path.
-/
import ScriptBundle.FileSystem.Basic
import ScriptBundle.Proofs.Path.Folded

namespace ScriptBundle

namespace FileSystem

open ScriptBundle.Path (ofPiece?)

variable {fs : FileSystem} {p q : Path} {place loc loc' : Location} {pieces : List Text}

/-- What is done in two steps ends well if both do. -/
theorem bind_eq_ok_iff {α β : Type} {x : Except IoFault α} {f : α → Except IoFault β} {b : β} :
    x >>= f = .ok b ↔ ∃ a, x = .ok a ∧ f a = .ok b := by
  cases x with
  | error fault =>
    constructor
    · intro h
      cases h
    · rintro ⟨a, h, -⟩
      cases h
  | ok a =>
    constructor
    · exact fun h => ⟨a, rfl, h⟩
    · rintro ⟨a', h, hf⟩
      cases h
      exact hf

/-! ## Idle pieces -/

/-- An idle piece leads nowhere, and only in a directory. -/
theorem enter_idle {piece : Text} (h : ofPiece? piece = none) :
    fs.enter place piece = .ok loc ↔ fs.node? place = some .directory ∧ loc = place := by
  unfold enter
  cases fs.node? place with
  | none => simp
  | some node =>
    cases node with
    | file content => simp
    | nullDevice => simp
    | directory =>
      rw [if_pos (Path.ofPiece?_eq_none_iff.1 h)]
      simp [eq_comm]

/-- The first step of a walk, and the rest of it. -/
theorem foldlM_enter_cons {piece : Text} :
    (piece :: pieces).foldlM fs.enter place = .ok loc ↔
      ∃ next, fs.enter place piece = .ok next ∧ pieces.foldlM fs.enter next = .ok loc := by
  rw [List.foldlM_cons]
  exact bind_eq_ok_iff

/-- A walk leads to the same location without its idle pieces. -/
theorem foldlM_enter_named (h : pieces.foldlM fs.enter place = .ok loc) :
    (pieces.filter fun piece => (ofPiece? piece).isSome).foldlM fs.enter place = .ok loc := by
  induction pieces generalizing place with
  | nil => exact h
  | cons piece pieces ih =>
    obtain ⟨next, henter, hrest⟩ := foldlM_enter_cons.1 h
    cases hpiece : ofPiece? piece with
    | none =>
      obtain ⟨-, rfl⟩ := (enter_idle hpiece).1 henter
      rw [List.filter_cons_of_neg (by simp [hpiece])]
      exact ih hrest
    | some c =>
      rw [List.filter_cons_of_pos (by simp [hpiece])]
      exact foldlM_enter_cons.2 ⟨next, henter, ih hrest⟩

/-! ## Where paths lead -/

/-- Idle pieces in front do not show among the others. -/
theorem filter_eq_of_dropWhile_eq {rest : List Text}
    (h : (pieces.dropWhile fun piece => piece = [] ∨ piece = ['.']) = ['.', '.'] :: rest) :
    (pieces.filter fun piece => (ofPiece? piece).isSome) =
      ['.', '.'] :: rest.filter fun piece => (ofPiece? piece).isSome := by
  induction pieces with
  | nil => cases h
  | cons piece pieces ih =>
    by_cases hidle : piece = [] ∨ piece = ['.']
    · rw [List.dropWhile_cons_of_pos (by simpa using hidle)] at h
      rw [List.filter_cons_of_neg (by simp [Path.ofPiece?_eq_none_iff.2 hidle]), ih h]
    · rw [List.dropWhile_cons_of_neg (by simpa using hidle)] at h
      cases h
      rfl

/-- A walk starts at the same place without its idle pieces. -/
theorem start_named {rest : List Text} (h : fs.start p pieces = .ok (place, rest)) :
    fs.start p (pieces.filter fun piece => (ofPiece? piece).isSome) =
      .ok (place, rest.filter fun piece => (ofPiece? piece).isSome) := by
  unfold start at *
  split at h
  · next habsolute =>
    cases h
    rw [if_pos habsolute]
  · next hrelative =>
    rw [if_neg hrelative]
    split at h
    · next hadrift =>
      rw [if_pos hadrift]
      split at h
      · next hdrop =>
        cases h
        rw [filter_eq_of_dropWhile_eq hdrop]
        rfl
      · cases h
    · next hhere =>
      cases h
      rw [if_neg hhere]

/-- A path is followed from where it starts. -/
theorem follow_eq_ok_iff :
    fs.follow p pieces = .ok loc ↔
      ∃ place rest, fs.start p pieces = .ok (place, rest) ∧
        rest.foldlM fs.enter place = .ok loc := by
  unfold follow
  exact bind_eq_ok_iff.trans Prod.exists

/-- A path leads to the same location without its idle pieces. -/
theorem follow_named (h : fs.follow p p.pieces = .ok loc) : fs.follow p p.named = .ok loc := by
  obtain ⟨place, rest, hstart, hrest⟩ := follow_eq_ok_iff.1 h
  rw [Path.named_eq_filter]
  exact follow_eq_ok_iff.2 ⟨place, _, start_named hstart, foldlM_enter_named hrest⟩

/-- Only the components of a path count for where it starts. -/
theorem follow_eq_of_same (h : p.same q = true) (pieces : List Text) :
    fs.follow p pieces = fs.follow q pieces := by
  unfold follow start
  rw [Path.isAbsolute_eq_of_same h]

/-- A path is located if it is a possible one and can be followed. -/
theorem locate_eq_ok_iff :
    fs.locate p = .ok loc ↔ checkPath p = .ok () ∧ fs.follow p p.pieces = .ok loc := by
  unfold locate
  rw [bind_eq_ok_iff]
  constructor
  · rintro ⟨⟨⟩, hcheck, hfollow⟩
    exact ⟨hcheck, hfollow⟩
  · rintro ⟨hcheck, hfollow⟩
    exact ⟨(), hcheck, hfollow⟩

/-- Paths with the same components do not lead to different locations. -/
theorem locate_eq_of_same (h : p.same q = true) (hp : fs.locate p = .ok loc)
    (hq : fs.locate q = .ok loc') : loc = loc' := by
  have hp' := follow_named (locate_eq_ok_iff.1 hp).2
  have hq' := follow_named (locate_eq_ok_iff.1 hq).2
  rw [Path.named_eq_of_same h, follow_eq_of_same h, hq'] at hp'
  cases hp'
  rfl

/-! ## Files -/

/-- What stands at the end of a path stands at its location. -/
theorem stat_eq_ok_iff {node : Node} :
    fs.stat p = .ok node ↔ ∃ loc, fs.locate p = .ok loc ∧ fs.node? loc = some node := by
  unfold stat
  rw [bind_eq_ok_iff]
  refine exists_congr fun loc => and_congr_right fun _ => ?_
  cases fs.node? loc with
  | none => simp
  | some found => simp

/-- A path leads to a file if a file stands at its location. -/
theorem isFile_iff :
    fs.isFile p = true ↔
      ∃ loc content, fs.locate p = .ok loc ∧ fs.node? loc = some (.file content) := by
  have hstat : fs.isFile p = true ↔ ∃ content, fs.stat p = .ok (.file content) := by
    unfold isFile
    split
    · next content heq => simp [heq]
    · next hother =>
      simp only [Bool.false_eq_true, false_iff, not_exists]
      exact hother
  simp only [hstat, stat_eq_ok_iff]
  exact exists_comm

/-- A path leads to a directory if one stands at its location. -/
theorem isDirectory_iff :
    fs.isDirectory p = true ↔ ∃ loc, fs.locate p = .ok loc ∧ fs.node? loc = some .directory := by
  rw [← stat_eq_ok_iff]
  unfold isDirectory
  split
  · next heq => simp [heq]
  · next hother =>
    simp only [Bool.false_eq_true, false_iff]
    exact hother

/-- The text of a path that can be read depends on its location alone. -/
theorem readText_eq_of_locate
    (h : ∀ loc loc', fs.locate p = .ok loc → fs.locate q = .ok loc' → loc = loc') {s t : Text}
    (hp : fs.readText p = .ok s) (hq : fs.readText q = .ok t) : s = t := by
  obtain ⟨bytes, hbytes, hdecode⟩ := bind_eq_ok_iff.1 hp
  obtain ⟨bytes', hbytes', hdecode'⟩ := bind_eq_ok_iff.1 hq
  obtain ⟨node, hstat, hread⟩ := bind_eq_ok_iff.1 hbytes
  obtain ⟨node', hstat', hread'⟩ := bind_eq_ok_iff.1 hbytes'
  obtain ⟨loc, hloc, hnode⟩ := stat_eq_ok_iff.1 hstat
  obtain ⟨loc', hloc', hnode'⟩ := stat_eq_ok_iff.1 hstat'
  obtain rfl := h loc loc' hloc hloc'
  obtain rfl := Option.some.inj (hnode.symm.trans hnode')
  obtain rfl := Except.ok.inj (hread.symm.trans hread')
  exact Except.ok.inj (hdecode.symm.trans hdecode')

/-- Paths with the same components have the same text, if they can be read. -/
theorem readText_eq_of_same (h : p.same q = true) {s t : Text} (hp : fs.readText p = .ok s)
    (hq : fs.readText q = .ok t) : s = t :=
  readText_eq_of_locate (fun _ _ hloc hloc' => locate_eq_of_same h hloc hloc') hp hq

/-! ## The folded spelling -/

/-- A part of a text takes no more bytes. -/
theorem size_le_of_sublist {s t : Text} (h : s.Sublist t) : Utf8.size s ≤ Utf8.size t := by
  induction h with
  | slnil => exact Nat.le_refl _
  | cons c _ ih => exact Nat.le_trans ih (by simp [Utf8.size])
  | cons_cons c _ ih => simpa [Utf8.size] using ih

/-- A part of a possible path is a possible path. -/
theorem checkPath_of_sublist (h : q.text.Sublist p.text) (hne : q.text ≠ [])
    (hp : checkPath p = .ok ()) : checkPath q = .ok () := by
  unfold checkPath at *
  split at hp
  · cases hp
  · next hzero =>
    split at hp
    · cases hp
    · split at hp
      · cases hp
      · next hsize =>
        rw [if_neg fun hmem => hzero (h.subset hmem), if_neg hne, if_neg]
        have hle := size_le_of_sublist h
        omega

/-- Joining some of the pieces gives a part of what joining all of them gives. -/
theorem join_sublist {some all : List Text} (h : some.Sublist all) :
    (Text.join ['/'] some).Sublist (Text.join ['/'] all) := by
  have hcons (piece : Text) (pieces : List Text) :
      Text.join ['/'] (piece :: pieces) =
        piece ++ if pieces = [] then [] else '/' :: Text.join ['/'] pieces := by
    cases pieces with
    | nil => simp [Text.join]
    | cons next pieces => simp [Text.join]
  induction h with
  | slnil => exact List.Sublist.refl _
  | @cons some all piece _ ih =>
    rw [hcons]
    split
    · next hnil =>
      subst hnil
      exact ih.trans (List.nil_sublist _)
    · exact (ih.trans (List.sublist_cons_self _ _)).trans (List.sublist_append_right _ _)
  | @cons_cons some all piece hrest ih =>
    rw [hcons, hcons]
    refine (List.Sublist.refl piece).append ?_
    split
    · exact List.nil_sublist _
    · next hsome =>
      have hall : all ≠ [] := by
        rintro rfl
        exact hsome (List.sublist_nil.1 hrest)
      rw [if_neg hall]
      exact ih.cons_cons '/'

/-- The named pieces are some of all pieces. -/
theorem named_sublist (p : Path) : p.named.Sublist p.pieces := by
  rw [Path.named_eq_filter]
  exact List.filter_sublist

/-- A folded path is a part of every path with the same components. -/
theorem text_folded_sublist {x : Path} (hdot : x.folded ≠ ⟨['.']⟩)
    (h : p.same x.folded = true) : x.folded.text.Sublist p.text := by
  have hnamed := named_sublist p
  rw [Path.named_eq_of_same h] at hnamed
  rcases Path.folded_cases x with hfolded | hfolded | hfolded
  · exact absurd hfolded hdot
  · rw [Path.text_eq_join, Path.text_eq_join p, hfolded]
    exact join_sublist hnamed
  · -- an absolute path has a slash in front of its other pieces
    have habsolute : p.isAbsolute = true := by
      rw [Path.isAbsolute_eq_of_same h, Path.isAbsolute, hfolded]
      rfl
    obtain ⟨t, ht⟩ : ∃ t, p = ⟨'/' :: t⟩ := by
      obtain ⟨text⟩ := p
      cases text with
      | nil => cases habsolute
      | cons c t =>
        obtain rfl := Option.some.inj (of_decide_eq_true habsolute)
        exact ⟨t, rfl⟩
    have hbehind := named_sublist ⟨t⟩
    rw [Path.named, ← Path.inner_cons_slash, ← ht, ← Path.named, Path.named_eq_of_same h] at hbehind
    rw [hfolded, ht]
    refine List.Sublist.cons_cons '/' ?_
    rw [show t = Text.join ['/'] (Path.pieces ⟨t⟩) from Path.text_eq_join ⟨t⟩]
    exact join_sublist hbehind

/-- If a path with the components of a dot leads somewhere, a directory stands there. -/
theorem node?_eq_directory_of_same_dot (h : p.same ⟨['.']⟩ = true) (hp : fs.locate p = .ok loc) :
    fs.node? loc = some .directory := by
  have hnamed : (p.pieces.filter fun piece => (ofPiece? piece).isSome) = [] := by
    rw [← Path.named_eq_filter, Path.named_eq_of_same h]
    rfl
  have hrelative : ¬ p.isAbsolute = true := by
    rw [Path.isAbsolute_eq_of_same h]
    exact Bool.false_ne_true
  obtain ⟨place, rest, hstart, hrest⟩ := follow_eq_ok_iff.1 (locate_eq_ok_iff.1 hp).2
  rw [start, if_neg hrelative] at hstart
  split at hstart
  · split at hstart
    · next hdrop =>
      rw [filter_eq_of_dropWhile_eq hdrop] at hnamed
      cases hnamed
    · cases hstart
  · cases hstart
    -- the path has an idle piece, which asks for a directory, and all others are idle too
    obtain ⟨piece, others, hpieces⟩ := List.exists_cons_of_ne_nil p.pieces_ne_nil
    rw [hpieces] at hrest hnamed
    obtain ⟨next, henter, hothers⟩ := foldlM_enter_cons.1 hrest
    rw [List.filter_eq_nil_iff, List.forall_mem_cons] at hnamed
    obtain ⟨hdirectory, rfl⟩ := (enter_idle (by simpa using hnamed.1)).1 henter
    have hothers' := foldlM_enter_named hothers
    rw [List.filter_eq_nil_iff.2 hnamed.2] at hothers'
    cases hothers'
    exact hdirectory

/-- A folded absolute path is followed as its named pieces are. -/
theorem follow_of_text_eq (htext : q.text = '/' :: Text.join ['/'] q.named)
    (h : fs.follow q q.named = .ok loc) : fs.follow q q.pieces = .ok loc := by
  have habsolute : q.isAbsolute = true := by
    rw [Path.isAbsolute, htext]
    rfl
  have hpieces : q.pieces = [] :: Path.pieces ⟨Text.join ['/'] q.named⟩ := by
    have happend := Path.pieces_append [] (Text.join ['/'] q.named)
    rwa [List.nil_append, ← htext] at happend
  have hroot : fs.enter [] [] = .ok [] := (enter_idle rfl).2 ⟨rfl, rfl⟩
  obtain ⟨place, rest, hstart, hrest⟩ := follow_eq_ok_iff.1 h
  rw [start, if_pos habsolute] at hstart
  cases hstart
  refine follow_eq_ok_iff.2 ⟨[], q.pieces, by rw [start, if_pos habsolute], ?_⟩
  rw [hpieces]
  refine foldlM_enter_cons.2 ⟨[], hroot, ?_⟩
  by_cases hnil : q.named = []
  · rw [hnil] at hrest ⊢
    exact foldlM_enter_cons.2 ⟨[], hroot, hrest⟩
  · rw [Path.pieces_join hnil fun _ hpiece => Path.slash_not_mem_of_mem_named hpiece]
    exact hrest

/-- A file that can be found under some path can be found under its folded path. -/
theorem isFile_folded_of_same {x : Path} (h : p.same x.folded = true) (hp : fs.isFile p = true) :
    fs.isFile x.folded = true := by
  obtain ⟨loc, content, hloc, hnode⟩ := isFile_iff.1 hp
  have hdot : x.folded ≠ ⟨['.']⟩ := by
    intro hdot
    rw [hdot] at h
    rw [node?_eq_directory_of_same_dot h hloc] at hnode
    cases hnode
  obtain ⟨hcheck, hfollow⟩ := locate_eq_ok_iff.1 hloc
  have hnamed := follow_named hfollow
  rw [Path.named_eq_of_same h, follow_eq_of_same h] at hnamed
  refine isFile_iff.2 ⟨loc, content, locate_eq_ok_iff.2 ⟨?_, ?_⟩, hnode⟩
  · exact checkPath_of_sublist (text_folded_sublist hdot h) (Path.text_folded_ne_nil x) hcheck
  · rcases Path.folded_cases x with hfolded | hfolded | hfolded
    · exact absurd hfolded hdot
    · rw [hfolded]
      exact hnamed
    · exact follow_of_text_eq hfolded hnamed

end FileSystem

end ScriptBundle

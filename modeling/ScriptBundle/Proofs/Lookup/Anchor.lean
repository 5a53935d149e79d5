/-
# One path for every file

The files that targets lead to are remembered by the components of their paths.  Such a path first
climbs, or starts at the root, and then goes down through names only.  Two of these paths to one file
have the same components exactly if they start in the same way.  Folding does not look at the working
directory, so a path that climbs out of it and comes back by its name is another path to the same
file, and so is an absolute one.  The index file of the working directory itself is found under a path
that starts with a dot, which no other path does.

## Main content

- `Lookup.anchored_of_file?`: the form of the paths that are found.
- `Lookup.same_iff_anchor_eq`: paths that are found for one file have the same components exactly if
  they have the same anchor.
-/
import ScriptBundle.Lookup
import ScriptBundle.Proofs.FileSystem.Location
import ScriptBundle.Proofs.Path.Anchor

namespace ScriptBundle

/-! ## Paths that are found -/

namespace Lookup

variable {l : Lookup} {fs : FileSystem} {p file : Path}

/-- A path that is found is anchored, or that of the index file of the working directory. -/
theorem anchored_of_file? (hplain : ∀ extension ∈ l.extensions, Path.IsPlain ('.' :: extension))
    (h : l.file? fs p = some file) :
    file = ⟨"./index.js".toList⟩ ∨ Path.IsAnchored file.components := by
  obtain ⟨hfile, rfl | rfl | ⟨extension, hmem, rfl⟩⟩ := file?_cases h
  · by_cases hdot : p.folded = ⟨['.']⟩
    · rw [hdot]
      exact .inl rfl
    · rw [Path.components_join (Path.text_folded_ne_nil p) rfl]
      exact .inr ((Path.isAnchored_folded hdot).append_name "index.js".toList)
  · refine .inr (Path.isAnchored_folded fun hdot => ?_)
    -- where a dot leads, there is a directory
    obtain ⟨loc, content, hloc, hnode⟩ := FileSystem.isFile_iff.1 hfile
    rw [hdot] at hloc
    rw [FileSystem.node?_eq_directory_of_same_dot (Path.same_refl _) hloc] at hnode
    cases hnode
  · exact .inr (Path.isAnchored_folded_append p (hplain extension hmem))

/-- If the extensions are plain, two paths that are found for one file have the same components
exactly if they start in the same way: at the root, with a dot, or with equally many `..`.  With a
dot starts only the path of the index file of the working directory. -/
theorem same_iff_anchor_eq (hplain : ∀ extension ∈ l.extensions, Path.IsPlain ('.' :: extension))
    {r₁ r₂ p₁ p₂ : Path} {t₁ t₂ : Text} (h₁ : l.destination fs r₁ t₁ = .ok (.file p₁))
    (h₂ : l.destination fs r₂ t₂ = .ok (.file p₂)) (hfile : fs.locate p₁ = fs.locate p₂) :
    (p₁.same p₂ = true ↔ p₁.anchor = p₂.anchor) ∧
      (p₁ = ⟨"./index.js".toList⟩ ∨ Path.IsAnchor p₁.anchor) := by
  obtain ⟨-, hfound₁⟩ := destination_eq_file_iff.1 h₁
  obtain ⟨-, hfound₂⟩ := destination_eq_file_iff.1 h₂
  have hform₁ := anchored_of_file? hplain hfound₁
  have hform₂ := anchored_of_file? hplain hfound₂
  refine ⟨⟨fun hsame => by rw [Path.anchor, Path.anchor, Path.same_iff.1 hsame], fun hanchor => ?_⟩,
    hform₁.imp_right Path.IsAnchored.isAnchor⟩
  obtain ⟨loc, content, hloc₁, -⟩ := FileSystem.isFile_iff.1 (isFile_of_file? hfound₁)
  have hloc₂ := hfile ▸ hloc₁
  have hwalk : p₁.walk fs.cwd.reverse = p₂.walk fs.cwd.reverse := by
    rw [← FileSystem.reverse_of_locate hloc₁, ← FileSystem.reverse_of_locate hloc₂]
  -- the anchor of the index file of the working directory is a dot, and no other one is
  have hdot : ∀ q : Path, Path.IsAnchored q.components →
      Path.anchor ⟨"./index.js".toList⟩ ≠ q.anchor := by
    intro q hq heq
    rcases hq.isAnchor with hbase | ⟨n, hbase⟩ <;> rw [hbase] at heq
    · cases heq
    · cases n <;> cases heq
  rcases hform₁ with rfl | hform₁ <;> rcases hform₂ with rfl | hform₂
  · exact Path.same_refl _
  · exact absurd hanchor (hdot p₂ hform₂)
  · exact absurd hanchor.symm (hdot p₁ hform₁)
  · exact Path.same_iff.2 (Path.components_eq_of_walk hform₁ hform₂ hanchor hwalk)

/-- The working directory and a directory in it, each with an index file. -/
def indexTree : FileSystem where
  nodes :=
    [(["index.js".toList], .file []), (["lib".toList], .directory),
      (["lib".toList, "index.js".toList], .file [])]

/-- A directory and its index file lead to paths with the same components. -/
theorem same_index_of_lib :
    (Lookup.destination {} indexTree ⟨"a.js".toList⟩ "./lib".toList =
        .ok (.file ⟨"lib/index.js".toList⟩) ∧
      Lookup.destination {} indexTree ⟨"a.js".toList⟩ "./b/../lib//index".toList =
        .ok (.file ⟨"lib/index.js".toList⟩)) ∧
      Path.same ⟨"lib/index.js".toList⟩ ⟨"lib/index.js".toList⟩ = true := by
  have hplain : ∀ extension ∈ ({} : Lookup).extensions, Path.IsPlain ('.' :: extension) := by
    intro extension hmem
    rw [List.mem_singleton.1 hmem]
    exact ⟨by decide, 'j', by decide, by decide⟩
  have hdirectory : Lookup.destination {} indexTree ⟨"a.js".toList⟩ "./lib".toList =
      .ok (.file ⟨"lib/index.js".toList⟩) := rfl
  have hindex : Lookup.destination {} indexTree ⟨"a.js".toList⟩ "./b/../lib//index".toList =
      .ok (.file ⟨"lib/index.js".toList⟩) := rfl
  exact ⟨⟨hdirectory, hindex⟩, (same_iff_anchor_eq hplain hdirectory hindex rfl).1.2 rfl⟩

/-- The working directory and its index file lead to paths with different components. -/
theorem not_same_index :
    Lookup.destination {} indexTree ⟨"a.js".toList⟩ ".".toList =
        .ok (.file ⟨"./index.js".toList⟩) ∧
      Lookup.destination {} indexTree ⟨"a.js".toList⟩ "./index.js".toList =
        .ok (.file ⟨"index.js".toList⟩) ∧
      indexTree.locate ⟨"./index.js".toList⟩ = indexTree.locate ⟨"index.js".toList⟩ ∧
      Path.same ⟨"./index.js".toList⟩ ⟨"index.js".toList⟩ = false :=
  ⟨rfl, rfl, rfl, rfl⟩

end Lookup

end ScriptBundle

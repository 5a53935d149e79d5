/-
# How deeply files are read inside each other

A file that is being read is not entered again, so the files being read are different from each
other, and all of them can be looked up.  There are only so many paths that lead to a file.  A build
therefore ends, whatever requires what, and it ends in the same way under every bound on the depth
that is not below the number of these paths.

## Main content

- `Build.Below` says that a step agrees with another one as long as it does not run out of depth;
  `Linker.below_reachWithin` is the case of two depths.
- `Linker.Enters.pairwise_differs`: the files being read are different from each other.
- `Linker.Covers` is a list of all files that a build can look up; `Linker.exists_covers` finds one
  that is shorter than the depth of a build.
- `Linker.stops_of_graph`: every failing build has a cause.
- `Linker.ends_within`: a build never runs out of depth.
-/
import ScriptBundle.Proofs.Build.Failure
import ScriptBundle.Proofs.Build.Reachability
import ScriptBundle.Proofs.Text.Rank

namespace ScriptBundle

/-! ## Steps that agree -/

namespace Build

variable {α β : Type}

/-- A step is below another one if the two run alike wherever the first one does not run out of
depth. -/
def Below (step step' : Build α) : Prop :=
  ∀ s, ¬ Fails step s .tooDeep → step'.run.run s = step.run.run s

namespace Below

/-- A step is below itself. -/
theorem refl (step : Build α) : Below step step := fun _ _ => rfl

/-- Two steps in a row are below two others. -/
theorem bind {step step' : Build α} {next next' : α → Build β} (h : Below step step')
    (hnext : ∀ a, Below (next a) (next' a)) : Below (step >>= next) (step' >>= next') := by
  intro s hs
  rw [run_bind, run_bind, h s fun hfails => hs (fails_bind.2 (.inl hfails))]
  rcases hrun : step.run.run s with ⟨result, t⟩
  cases result with
  | error e => rfl
  | ok a => exact hnext a t fun hfails => hs (fails_bind.2 (.inr ⟨a, t, hrun, hfails⟩))

/-- Doing a step while a file is being read is below doing another one. -/
theorem during {step step' : Build α} (h : Below step step') (path : Path) :
    Below (during path step) (during path step') := by
  intro s hs
  rw [run_during, run_during, h _ fun hfails => hs (fails_during.2 hfails)]

/-- Lists of steps are below each other if the steps are. -/
theorem mapM {f f' : α → Build β} (h : ∀ a, Below (f a) (f' a)) (as : List α) :
    Below (as.mapM f) (as.mapM f') := by
  induction as with
  | nil =>
    rw [List.mapM_nil, List.mapM_nil]
    exact .refl _
  | cons a as ih =>
    rw [List.mapM_cons, List.mapM_cons]
    exact (h a).bind fun b => ih.bind fun bs => .refl _

end Below

end Build

namespace Linker

open Build

variable {l : Linker} {files : FileSystem} {root file path : Path} {s : BuildState}
  {paths : List Path} {depth : Nat}

/-- Linking a part by a way to reach files is below linking it by another one. -/
theorem below_linkPart {reach reach' : Path → Build ModuleNumber}
    (h : ∀ path, Below (reach path) (reach' path)) (file : Path) (part : Part) :
    Below (l.linkPart reach file part) (l.linkPart reach' file part) := by
  cases part with
  | copy text => exact .refl _
  | inline target => exact .refl _
  | follow call =>
    refine .bind (.refl _) fun s => .bind (.refl _) fun destination => ?_
    cases destination with
    | library target => exact .refl _
    | file path => exact (h path).bind fun n => .refl _

/-- Reaching a file by a way to reach others is below reaching it by another one. -/
theorem below_reachStep {reach reach' : Path → Build ModuleNumber}
    (h : ∀ path, Below (reach path) (reach' path)) (path : Path) :
    Below (l.reachStep reach path) (l.reachStep reach' path) := by
  have hparts (text : Text) : Below (l.linkText reach path text) (l.linkText reach' path text) :=
    .bind (.refl _) fun _ => .bind (.refl _) fun _ => .bind (.refl _) fun _ =>
      .bind (.mapM (below_linkPart h path) _) fun _ => .refl _
  have hread := fun text => Below.bind ((hparts text).during path) fun linked =>
    .refl (Build.addModule path linked.1 linked.2)
  refine .bind (.refl _) fun s => ?_
  cases s.table.find? path with
  | some found => exact .refl _
  | none =>
    cases s.inProgress.any (·.same path) with
    | true => exact .bind (.refl _) fun _ => .bind (.refl _) hread
    | false => exact .bind (.refl _) hread

/-- Reaching a file with some files inside each other is below reaching it with more of them. -/
theorem below_reachWithin {more : Nat} (h : depth ≤ more) (path : Path) :
    Below (l.reachWithin depth path) (l.reachWithin more path) := by
  induction depth generalizing more path with
  | zero => exact fun s hs => absurd (fails_throw.2 rfl) hs
  | succ depth ih =>
    obtain ⟨more, rfl⟩ := Nat.exists_eq_add_of_lt h
    exact below_reachStep (fun path => ih (by omega) path) path

/-! ## The files being read -/

/-- Amid a file, it is the innermost one of those being read. -/
theorem Amid.inProgress {parts : List Part} (h : l.Amid files root s file parts) :
    ∃ s₀, l.Enters files root s₀ file ∧ s.inProgress = s₀.inProgress ++ [file] := by
  obtain ⟨s₀, s₁, spans, front, linked, henters, hopens, -, hfront⟩ := h
  exact ⟨s₀, henters, hfront.grows.inProgress.trans hopens.grows.inProgress⟩

/-- The files being read are different from each other, and from the one that is entered. -/
theorem Enters.pairwise_differs (h : l.Enters files root s path) :
    (s.inProgress ++ [path]).Pairwise Path.Differs := by
  induction h using Enters.induction_amid with
  | start _ => exact List.pairwise_singleton _ _
  | call _ _ hprogress _ hnew ih =>
    apply Path.pairwise_differs_middle
    · rw [List.append_nil, hprogress]
      exact ih
    · rw [List.append_nil]
      simpa using hnew.2

/-- Looking something up in files that the compiler can make gives a file. -/
def Finds (l : Linker) (files : FileSystem) (path : Path) : Prop :=
  ∃ now p, l.Becomes files now ∧ l.lookup.file? now p = some path

/-- The files being read are found by looking something up, and so is the one that is entered. -/
theorem Enters.finds (h : l.Enters files root s path) :
    ∀ p ∈ s.inProgress ++ [path], l.Finds files p := by
  induction h using Enters.induction_amid with
  | start hroot =>
    rw [List.nil_append, List.forall_mem_singleton]
    unfold Lookup.rootFile at hroot
    split at hroot
    · next hfile =>
      cases hroot
      exact ⟨files, root, .refl, hfile⟩
    · cases hroot
  | call _ hamid hprogress hdest hnew ih =>
    have hlookup := lookup_of_isNew hdest hnew
    rw [hprogress, List.forall_mem_append, List.forall_mem_singleton]
    exact ⟨ih, _, _, (hamid.enters hdest hnew).becomes,
      (Lookup.destination_eq_file_iff.1 hlookup).2⟩

/-! ## Files that can be looked up -/

/-- A list has all files that a build can look up. -/
def Covers (l : Linker) (files : FileSystem) (paths : List Path) : Prop :=
  ∀ p, l.Finds files p → ∃ q ∈ paths, q.same p = true

/-- Paths that are different from each other and stand in a list, by their components, are not more
than the list has. -/
theorem length_le_of_pairwise_differs {stack : List Path}
    (hdiffers : stack.Pairwise Path.Differs) (hmem : ∀ p ∈ stack, ∃ q ∈ paths, q.same p = true) :
    stack.length ≤ paths.length := by
  have hnodup : (stack.map Path.components).Nodup := by
    rw [List.Nodup, List.pairwise_map]
    refine hdiffers.imp fun {p q} hpq heq => ?_
    rw [Path.Differs, Path.same_iff.2 heq] at hpq
    cases hpq
  have hsubset : stack.map Path.components ⊆ paths.map Path.components := by
    intro components hcomponents
    obtain ⟨p, hp, rfl⟩ := List.mem_map.1 hcomponents
    obtain ⟨q, hq, hsame⟩ := hmem p hp
    exact List.mem_map.2 ⟨q, hq, Path.same_iff.1 hsame⟩
  simpa using (hnodup.subperm hsubset).length_le

/-- No more files are read inside each other than can be looked up. -/
theorem Enters.length_le (h : l.Enters files root s path) (hcovers : l.Covers files paths) :
    (s.inProgress ++ [path]).length ≤ paths.length :=
  length_le_of_pairwise_differs h.pairwise_differs fun p hp => hcovers p (h.finds p hp)

/-- Files are not nested more deeply than there are files that can be looked up. -/
theorem Nests.le (h : l.Nests files root depth) (hcovers : l.Covers files paths) :
    depth ≤ paths.length := by
  obtain ⟨s, path, hcalls, rfl⟩ := h
  cases hcalls with
  | root _ => exact Nat.zero_le _
  | follow hamid _ =>
    obtain ⟨s₀, henters, hprogress⟩ := hamid.inProgress
    rw [hprogress]
    exact henters.length_le hcovers

/-- The path of a file is short. -/
theorem size_lt_of_isFile {fs : FileSystem} (h : fs.isFile path = true) :
    Utf8.size path.text < FileSystem.pathLimit := by
  obtain ⟨loc, content, hloc, -⟩ := FileSystem.isFile_iff.1 h
  have hcheck := (FileSystem.locate_eq_ok_iff.1 hloc).1
  unfold FileSystem.checkPath at hcheck
  split_ifs at hcheck with hzero hempty hlong
  omega

/-- All files that a build can look up stand in one list, which is shorter than the depth that a
build has. -/
theorem exists_covers (l : Linker) (files : FileSystem) :
    ∃ paths, l.Covers files paths ∧ paths.length < depthBound := by
  obtain ⟨texts, hmem, hlength⟩ := Utf8.exists_list_of_size_lt FileSystem.pathLimit
  refine ⟨texts.map Path.mk, ?_, ?_⟩
  · rintro p ⟨now, q, -, hfile⟩
    have hsize := size_lt_of_isFile (Lookup.isFile_of_file? hfile)
    exact ⟨p, List.mem_map.2 ⟨p.text, hmem p.text hsize, rfl⟩, Path.same_refl p⟩
  · rw [List.length_map]
    delta depthBound
    -- the power is far too large to be computed, so its exponent becomes a variable
    generalize FileSystem.pathLimit = limit at hlength ⊢
    exact hlength

/-! ## Builds end -/

/-- A build with more depth than there are files that can be looked up does not run out of it. -/
theorem not_fails_tooDeep {start : Path} (hroot : l.lookup.rootFile files root = .ok start)
    (hcovers : l.Covers files paths) (hdepth : paths.length < depth) :
    ¬ Fails (l.reachWithin depth start) { files } .tooDeep := by
  intro hfails
  rcases (Calls.root hroot).stops_or_tooDeep hfails with hstops | ⟨-, hnests⟩
  · cases hstops
  · have hle := hnests.le hcovers
    simp only [List.length_nil] at hle
    omega

/-- Every failing build has a cause. -/
theorem stops_of_graph {e : BuildError} (h : (l.graph files root).1 = .error e) :
    l.Stops files root e := by
  obtain ⟨paths, hcovers, hlength⟩ := exists_covers l files
  rcases stops_or_tooDeep h with hstops | ⟨-, hnests⟩
  · exact hstops
  · exact absurd (hnests.le hcovers) (Nat.not_le.2 hlength)

/-- A build ends, and it does not run out of depth.  The files being read inside each other are
different from each other, so there are never more of them than files that can be looked up, and a
build runs alike under all bounds on the depth above the number of these files. -/
theorem ends_within (l : Linker) (files : FileSystem) (root : Path) :
    (l.graph files root).1 ≠ .error .tooDeep ∧
      (∀ s path, l.Enters files root s path → (s.inProgress ++ [path]).Pairwise Path.Differs) ∧
      (∃ paths, l.Covers files paths) ∧
      ∀ paths, l.Covers files paths →
        (∀ s path, l.Enters files root s path → (s.inProgress ++ [path]).length ≤ paths.length) ∧
        ∀ start, l.lookup.rootFile files root = .ok start → ∀ depth, paths.length < depth →
          (l.reachWithin depth start).run.run { files } = (l.reach start).run.run { files } := by
  obtain ⟨all, hall, hbound⟩ := exists_covers l files
  refine ⟨fun h => (nomatch stops_of_graph h), fun s path h => h.pairwise_differs, ⟨all, hall⟩,
    fun paths hcovers => ⟨fun s path h => h.length_le hcovers, fun start hroot depth hdepth => ?_⟩⟩
  have hshort := not_fails_tooDeep hroot hcovers hdepth
  have hlong := not_fails_tooDeep hroot hall hbound
  -- one of the two bounds is the larger one, and neither build runs out of depth
  rcases Nat.le_total depth depthBound with hle | hle
  · exact (below_reachWithin hle start _ hshort).symm
  · exact below_reachWithin hle start _ hlong

end Linker

end ScriptBundle

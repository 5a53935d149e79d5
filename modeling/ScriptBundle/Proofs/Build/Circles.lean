/-
# Circles of files

A build reports a circle exactly where one is: the paths that it lists lead around, each by a call
that the build resolved to the next one, and no build ends well that could come to a circle.

The first half follows the files being read, each of which was entered from a call of the one in
front of it.  The second half is that of a rank: a module has a higher number than those that it
requires, and along a circle the numbers would go down for ever.

## Main content

- `Linker.Resolves` is a call of a file that the build resolved to another one.
- `Linker.IsCircle` says when a list of paths leads around; `Linker.isCircle_of_graph`: the paths that
  a build reports do.
- `Linker.Completes.not_transGen`: a build that ends well and adds no templates comes to no circle.
- `Linker.circular_sound_and_complete` is both.
-/
import ScriptBundle.Proofs.Build.Depth

namespace ScriptBundle

/-- What is left of a list when its front is dropped begins with the first element that is not
dropped. -/
theorem exists_dropWhile_eq_cons {α : Type} {p : α → Bool} {as : List α} {a : α} (ha : a ∈ as)
    (hp : p a = false) : ∃ first rest, as.dropWhile p = first :: rest ∧ p first = false := by
  cases hdrop : as.dropWhile p with
  | nil =>
    rw [List.dropWhile_eq_nil_iff] at hdrop
    rw [hdrop a ha] at hp
    cases hp
  | cons first rest =>
    have hfirst := List.head?_dropWhile_not p as
    rw [hdrop] at hfirst
    exact ⟨first, rest, rfl, hfirst⟩

namespace Linker

variable {l : Linker} {files : FileSystem} {root file path p q : Path} {s final : BuildState}

/-! ## Calls that are resolved -/

/-- A build resolves a call of a file to another file: it comes to the call amid the file, and looking
the target up gives the other file. -/
def Resolves (l : Linker) (files : FileSystem) (root p q : Path) : Prop :=
  ∃ s call parts, l.Amid files root s p (.follow call :: parts) ∧
    l.lookup.destination s.files p call.target = .ok (.file q)

/-- A call that is resolved stands in the file. -/
theorem Resolves.exists_call (h : l.Resolves files root p q) :
    ∃ now text source filling call, l.Becomes files now ∧ l.Reads now p text source filling ∧
      .require call ∈ source.spans filling ∧ ∃ later, l.Becomes now later ∧
        l.lookup.destination later p call.target = .ok (.file q) := by
  obtain ⟨s, call, parts, ⟨s₀, s₁, spans, front, linked, henters, hopens, hparts, hfront⟩,
    hlookup⟩ := h
  have hcall : .follow call ∈ l.partsOf spans := by
    rw [hparts]
    exact List.mem_append_right _ (List.mem_cons_self ..)
  have hbecomes := hopens.grows.files.trans hfront.grows.files
  obtain ⟨hreads⟩ := hopens
  exact ⟨s₀.files, _, _, _, call, henters.becomes, hreads, Part.require_mem_of_follow_mem hcall,
    s.files, hbecomes, hlookup⟩

/-- The calls that a build resolves lead from its root to a file. -/
def Reached (l : Linker) (files : FileSystem) (root p : Path) : Prop :=
  ∃ start, l.lookup.rootFile files root = .ok start ∧
    Relation.ReflTransGen (l.Resolves files root) start p

/-- A new file is entered by a call that is resolved. -/
theorem Amid.resolves {call : Call} {parts : List Part}
    (h : l.Amid files root s file (.follow call :: parts))
    (hdest : l.destination s file call.target = .ok (.file path))
    (hnone : s.table.find? path = none) : l.Resolves files root file path := by
  refine ⟨s, call, parts, h, ?_⟩
  rcases eq_or_of_destination_eq hdest with ⟨-, hfound⟩ | hlookup
  · rw [hnone] at hfound
    cases hfound
  · exact hlookup

/-- Every file being read was entered by a call of the one in front of it, and the file that is
entered by a call of the last one. -/
theorem Enters.isChain (h : l.Enters files root s path) :
    (s.inProgress ++ [path]).IsChain (l.Resolves files root) := by
  induction h using Enters.induction_amid with
  | start _ => exact .singleton _
  | call _ hamid hprogress hdest hnew ih =>
    rw [hprogress]
    refine ih.append (.singleton _) ?_
    simpa using hamid.resolves hdest hnew.1

/-- The files being read are reached, and so is the one that is entered. -/
theorem Enters.reached (h : l.Enters files root s path) :
    ∀ p ∈ s.inProgress ++ [path], l.Reached files root p := by
  induction h using Enters.induction_amid with
  | start hroot =>
    rw [List.nil_append, List.forall_mem_singleton]
    exact ⟨_, hroot, .refl⟩
  | @call s₀ s file path _ _ _ hamid hprogress hdest hnew ih =>
    obtain ⟨start, hstart, hreached⟩ := ih file (by simp)
    rw [hprogress, List.forall_mem_append, List.forall_mem_singleton]
    exact ⟨ih, start, hstart, hreached.tail (hamid.resolves hdest hnew.1)⟩

/-! ## Circles that are reported -/

/-- A list of paths leads around: the last path is the first one again, no other one occurs twice,
every path but the last has a call that the build resolved to the next one, and the first one is
reached from the root. -/
structure IsCircle (l : Linker) (files : FileSystem) (root : Path) (chain : List Path) : Prop where
  /-- The last path is the first one again. -/
  closes : ∃ first inner last, chain = first :: inner ++ [last] ∧ last.same first = true ∧
    (first :: inner).Pairwise Path.Differs ∧ l.Reached files root first
  /-- Every path but the last leads to the next one. -/
  resolves : chain.IsChain (l.Resolves files root)

/-- A call that leads to a file being read closes a circle. -/
theorem Amid.isCircle {call : Call} {parts : List Part}
    (h : l.Amid files root s file (.follow call :: parts))
    (hdest : l.destination s file call.target = .ok (.file path))
    (hnone : s.table.find? path = none) (hprogress : s.inProgress.any (·.same path) = true) :
    l.IsCircle files root (circle s.inProgress path) := by
  obtain ⟨s₀, henters, heq⟩ := h.inProgress
  have hdiffers := henters.pairwise_differs
  have hchain := henters.isChain
  have hreached := henters.reached
  rw [← heq] at hdiffers hchain hreached
  obtain ⟨again, hagain, hsame⟩ := List.any_eq_true.1 hprogress
  obtain ⟨first, inner, hdrop, hfirst⟩ :=
    exists_dropWhile_eq_cons (p := fun file => !file.same path) hagain (by simpa using hsame)
  have hsuffix : first :: inner <:+ s.inProgress := hdrop ▸ List.dropWhile_suffix _
  -- the file that has the call is the last one being read, also of those that are not dropped
  have hlast : (first :: inner).getLast? = some file := by
    obtain ⟨front, hfront⟩ := hsuffix
    rw [← List.getLast?_append_of_ne_nil front (List.cons_ne_nil first inner), hfront, heq,
      List.getLast?_concat]
  rw [circle, hdrop]
  refine ⟨⟨first, inner, path, rfl, ?_, hdiffers.sublist hsuffix.sublist,
    hreached first (hsuffix.subset (List.mem_cons_self ..))⟩, ?_⟩
  · rw [Path.same_comm]
    simpa using hfirst
  · refine (hchain.suffix hsuffix).append (.singleton _) ?_
    rw [hlast]
    simpa using h.resolves hdest hnone

/-- The paths that a failing build reports lead around. -/
theorem isCircle_of_graph {chain : List Path}
    (h : (l.graph files root).1 = .error (.circular chain)) : l.IsCircle files root chain := by
  cases stops_of_graph h with
  | circle hamid hdest hnone hprogress => exact hamid.isCircle hdest hnone hprogress

/-! ## Circles that are not reported -/

/-- In a build that ends well and adds no templates, a file that is always required along a way has a
module, if the file at the beginning has one, and it has a lower number. -/
theorem Completes.exists_lower (h : l.Completes files root final)
    (hnone : ∀ s component markup, ¬ l.AddsTemplate files root s component markup)
    (hway : Relation.TransGen (l.AlwaysRequires files) p q) {m : Module}
    (hm : m ∈ final.table.modules) (hsame : m.path.same p = true) :
    ∃ dep ∈ final.table.modules, dep.path.same q = true ∧ dep.number < m.number := by
  induction hway with
  | single hrequires =>
    obtain ⟨spans, hfile⟩ := h.exists_isFileModule hnone hm
    exact hfile.exists_lower h hnone hsame hrequires
  | tail _ hrequires ih =>
    obtain ⟨between, hbetween, hsame', hlower⟩ := ih
    obtain ⟨spans, hfile⟩ := h.exists_isFileModule hnone hbetween
    obtain ⟨dep, hdep, hdepsame, hlower'⟩ := hfile.exists_lower h hnone hsame' hrequires
    exact ⟨dep, hdep, hdepsame, hlower'.trans hlower⟩

/-- A build that ends well and adds no templates has no module for a file on a circle. -/
theorem Completes.not_transGen (h : l.Completes files root final)
    (hnone : ∀ s component markup, ¬ l.AddsTemplate files root s component markup) {m : Module}
    (hm : m ∈ final.table.modules) (hsame : m.path.same p = true) :
    ¬ Relation.TransGen (l.AlwaysRequires files) p p := by
  intro hcircle
  -- going around once gives a module for the same file with a lower number
  induction hnumber : m.number using Nat.strong_induction_on generalizing m with
  | h number ih =>
    obtain ⟨dep, hdep, hdepsame, hlower⟩ := h.exists_lower hnone hcircle hm hsame
    exact ih dep.number (hnumber ▸ hlower) hdep hdepsame rfl

/-- A build does not end well that adds no templates and whose root leads to a circle. -/
theorem graph_ne_ok_of_transGen {start : Path}
    (hnone : ∀ s component markup, ¬ l.AddsTemplate files root s component markup)
    (hroot : l.lookup.rootFile files root = .ok start)
    (hway : Relation.ReflTransGen (l.AlwaysRequires files) start p)
    (hcircle : Relation.TransGen (l.AlwaysRequires files) p p) (g : ModuleGraph) :
    (l.graph files root).1 ≠ .ok g := by
  intro hgraph
  obtain ⟨final, hfinal, rfl⟩ := completes_of_graph hgraph
  obtain ⟨m, hlast, -, hroot'⟩ := hfinal.getLast?
  obtain rfl := Except.ok.inj (hroot.symm.trans hroot')
  have hm := List.mem_of_getLast? hlast
  -- the file on the circle has a module, because the root has one
  rcases Relation.reflTransGen_iff_eq_or_transGen.1 hway with rfl | hway
  · exact hfinal.not_transGen hnone hm (Path.same_refl _) hcircle
  · obtain ⟨dep, hdep, hsame, -⟩ := hfinal.exists_lower hnone hway hm (Path.same_refl _)
    exact hfinal.not_transGen hnone hdep hsame hcircle

/-! ## Both halves -/

/-- The paths that a build reports lead around, and the report lists them with arrows between them.
If no template becomes a module and a file that always requires itself, by way of others, can be
reached from the root, the build does not end well.  Where the compiler keeps the files, this is so
for every file that requires itself, by `RequiresFile.always`. -/
theorem circular_sound_and_complete (l : Linker) (files : FileSystem) (root : Path) :
    (∀ chain, (l.graph files root).1 = .error (.circular chain) →
      l.IsCircle files root chain ∧
        (BuildError.circular chain).message = "Circular dependency detected: ".toList ++
          Text.join " -> ".toList (chain.map Path.text)) ∧
    ((∀ s component markup, ¬ l.AddsTemplate files root s component markup) →
      ∀ start p, l.lookup.rootFile files root = .ok start →
        Relation.ReflTransGen (l.AlwaysRequires files) start p →
        Relation.TransGen (l.AlwaysRequires files) p p →
        ∀ g, (l.graph files root).1 ≠ .ok g) :=
  ⟨fun _ h => ⟨isCircle_of_graph h, rfl⟩,
    fun hnone _ _ hroot hway hcircle => graph_ne_ok_of_transGen hnone hroot hway hcircle⟩

/-! ## Two files that require each other -/

/-- Two scripts that require each other, and a third one that requires the first of them. -/
def circleTree : FileSystem :=
  sampleFiles
    [("a.js", "require('./b');\n"), ("b.js", "require('./c');\n"), ("c.js", "require('./b');\n")]

/-- The compiler keeps the circular tree. -/
theorem keepsFiles_circleTree : compilingLinker.KeepsFiles circleTree := by
  apply keepsFiles_of_isPure
  rintro compiler hcompiler
  cases hcompiler
  exact ⟨_, rfl⟩

/-- A script of the circular tree always requires another one if a call in its text leads there. -/
theorem alwaysRequires_circleTree (text : String) (call : Call)
    (h : circleTree.readText p = .ok text.toList ∧ FileKind.ofPath p = .script ∧
      .follow call ∈ compilingLinker.partsOf
        (Source.spans { opening := (Text.lines text.toList).map Piece.line } []) ∧
      compilingLinker.lookup.destination circleTree p call.target = .ok (.file q)) :
    compilingLinker.AlwaysRequires circleTree p q := by
  obtain ⟨htext, hkind, hcall, hlookup⟩ := h
  have hread : (Source.read p text.toList).source =
      .ok { opening := (Text.lines text.toList).map Piece.line } := by
    rw [Source.read, hkind]
  have hrequires : compilingLinker.RequiresFile circleTree p q :=
    ⟨_, _, [], call, ⟨htext, hread, .bare⟩, hcall, hlookup⟩
  exact hrequires.always keepsFiles_circleTree

/-- The two scripts that require each other are reported as a circle, and they lead around. -/
theorem circular_circleTree :
    (compilingLinker.graph circleTree ⟨"a.js".toList⟩).1 =
        .error (.circular [⟨"b.js".toList⟩, ⟨"c.js".toList⟩, ⟨"b.js".toList⟩]) ∧
      compilingLinker.IsCircle circleTree ⟨"a.js".toList⟩
        [⟨"b.js".toList⟩, ⟨"c.js".toList⟩, ⟨"b.js".toList⟩] ∧
      ∀ g, (compilingLinker.graph circleTree ⟨"a.js".toList⟩).1 ≠ .ok g := by
  have hgraph : (compilingLinker.graph circleTree ⟨"a.js".toList⟩).1 =
      .error (.circular [⟨"b.js".toList⟩, ⟨"c.js".toList⟩, ⟨"b.js".toList⟩]) := by
    decide +kernel
  obtain ⟨hsound, hcomplete⟩ :=
    circular_sound_and_complete compilingLinker circleTree ⟨"a.js".toList⟩
  have hnone : ∀ s component markup,
      ¬ compilingLinker.AddsTemplate circleTree ⟨"a.js".toList⟩ s component markup := by
    rintro s component markup ⟨hcompiler, -⟩
    cases hcompiler
  have hab : compilingLinker.AlwaysRequires circleTree ⟨"a.js".toList⟩ ⟨"b.js".toList⟩ :=
    alwaysRequires_circleTree "require('./b');\n" ⟨"./b".toList, "require('./b');".toList⟩
      (by decide +kernel)
  have hbc : compilingLinker.AlwaysRequires circleTree ⟨"b.js".toList⟩ ⟨"c.js".toList⟩ :=
    alwaysRequires_circleTree "require('./c');\n" ⟨"./c".toList, "require('./c');".toList⟩
      (by decide +kernel)
  have hcb : compilingLinker.AlwaysRequires circleTree ⟨"c.js".toList⟩ ⟨"b.js".toList⟩ :=
    alwaysRequires_circleTree "require('./b');\n" ⟨"./b".toList, "require('./b');".toList⟩
      (by decide +kernel)
  refine ⟨hgraph, (hsound _ hgraph).1, hcomplete hnone ⟨"a.js".toList⟩ ⟨"b.js".toList⟩ ?_ ?_ ?_⟩
  · decide +kernel
  · exact .single hab
  · exact .tail (.single hbc) hcb

end Linker

end ScriptBundle

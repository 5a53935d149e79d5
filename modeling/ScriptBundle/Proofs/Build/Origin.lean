/-
# Where the modules of a graph come from

Every module of a graph is either the module of a file that the build enters, or the module of the
template of a component that the build enters.  Nothing else gets into the table, and in a build
that ends well every file that is entered becomes a module.

## Main content

- `Linker.Amid` says that a build is at some part of a file that it entered;
  `Linker.Enters.induction_amid` is induction over the files that it enters from there.
- `Linker.IsFileModule` and `Linker.IsTemplateModule` are the two origins of a module.
- `Linker.Enters.visits`: a file that is entered is visited and completed.
- `Linker.Completes.origin`: every module has one of the two origins.
-/
import ScriptBundle.Proofs.Build.Growth

namespace ScriptBundle

namespace Linker

variable {l : Linker} {files : FileSystem} {root file path : Path} {s s₁ s' final : BuildState}

/-! ## The two origins -/

/-- A module of a file: the build enters the file, visits it, and closes it as this module.  The
spans are those that the file is linked from. -/
def IsFileModule (l : Linker) (files : FileSystem) (root : Path) (m : Module) (spans : List Span) :
    Prop :=
  ∃ s linked s', l.Enters files root s m.path ∧ l.Visits s m.path spans linked s' ∧
    m = s'.moduleOf m.path linked

/-- A component whose template becomes a module: the build enters the component, which has a
template in its slot, and there is no compiler. -/
def AddsTemplate (l : Linker) (files : FileSystem) (root : Path) (s : BuildState) (component : Path)
    (markup : Text) : Prop :=
  l.compiler = none ∧ l.Enters files root s component ∧
    ∃ text source filling, l.Reads s.files component text source filling ∧
      source.template = some markup

/-- The module of a template: it exports the markup under a path of its own and requires nothing. -/
def IsTemplateModule (l : Linker) (files : FileSystem) (root : Path) (m : Module) : Prop :=
  ∃ s component markup, l.AddsTemplate files root s component markup ∧
    m = ⟨s.table.nextNumber, Source.templatePath component, Literal.exportText markup, []⟩

/-! ## Being amid a file -/

/-- A build is amid a file: it entered and opened the file, has linked its parts up to here, and the
given parts are left. -/
def Amid (l : Linker) (files : FileSystem) (root : Path) (s : BuildState) (file : Path)
    (parts : List Part) : Prop :=
  ∃ s₀ s₁ spans front linked, l.Enters files root s₀ file ∧ l.Opens s₀ file spans s₁ ∧
    l.partsOf spans = front ++ parts ∧ l.Links s₁ file front linked s

/-- A file that is opened is at its first part. -/
theorem Enters.amid {spans : List Span} (h : l.Enters files root s file)
    (hopens : l.Opens s file spans s₁) : l.Amid files root s₁ file (l.partsOf spans) :=
  ⟨s, s₁, spans, [], [], h, hopens, rfl, .nil⟩

/-- A part that is linked is left behind. -/
theorem Amid.next {part : Part} {parts : List Part} {link : Linked}
    (h : l.Amid files root s file (part :: parts)) (hpart : l.Links s file [part] [link] s') :
    l.Amid files root s' file parts := by
  obtain ⟨s₀, s₁, spans, front, linked, henters, hopens, hparts, hfront⟩ := h
  refine ⟨s₀, s₁, spans, front ++ [part], linked ++ [link], henters, hopens, ?_,
    hfront.append hpart⟩
  rw [hparts, List.append_assoc]
  rfl

/-- A call that leads to a new file enters it. -/
theorem Amid.enters {call : Call} {parts : List Part}
    (h : l.Amid files root s file (.follow call :: parts))
    (hdest : l.destination s file call.target = .ok (.file path)) (hnew : s.IsNew path) :
    l.Enters files root s path := by
  obtain ⟨s₀, s₁, spans, front, linked, henters, hopens, hparts, hfront⟩ := h
  exact .follow henters hopens hparts hfront hdest hnew

/-- Induction over the files that a build enters: the file at the root, and each file that is called
from amid one that was entered before.  While the requiring file is linked, it is the innermost one of
those being read. -/
@[elab_as_elim]
theorem Enters.induction_amid {motive : ∀ path s, l.Enters files root s path → Prop}
    (start : ∀ {path} (hroot : l.lookup.rootFile files root = .ok path),
      motive path { files } (.root hroot))
    (call : ∀ {s₀ s file path call parts} (hfile : l.Enters files root s₀ file)
      (hamid : l.Amid files root s file (.follow call :: parts))
      (_ : s.inProgress = s₀.inProgress ++ [file])
      (hdest : l.destination s file call.target = .ok (.file path)) (hnew : s.IsNew path),
      motive file s₀ hfile → motive path s (hamid.enters hdest hnew))
    (h : l.Enters files root s path) : motive path s h := by
  induction h with
  | root hroot => exact start hroot
  | follow hfile hopens hparts hfront hdest hnew ih =>
    have hprogress := hfront.grows.inProgress.trans hopens.grows.inProgress
    exact call hfile ⟨_, _, _, _, _, hfile, hopens, hparts, hfront⟩ hprogress hdest hnew ih

/-! ## Files that are entered -/

/-- In a build that ends well, a file that is entered is visited, and what the table holds when it
is closed is kept to the end. -/
theorem Enters.visits (h : l.Enters files root s file) (hfinal : l.Completes files root final) :
    ∃ spans linked s', l.Visits s file spans linked s' ∧
      (s'.close file linked).table.modules <+: final.table.modules := by
  induction h with
  | root hroot =>
    obtain ⟨path, spans, linked, s', hroot', hvisits, rfl⟩ := hfinal
    rw [hroot] at hroot'
    cases hroot'
    exact ⟨spans, linked, s', hvisits, List.prefix_refl _⟩
  | follow hfile hopens hparts hfront hdest hnew ih =>
    -- the derivation of the requiring file passes through the state in which the new one is entered
    obtain ⟨spans', linked', s', ⟨s₁, hopens', hlinks⟩, hkept⟩ := ih
    obtain ⟨rfl, rfl⟩ := hopens.unique hopens'
    rw [hparts] at hlinks
    obtain ⟨linked₁, linked₂, t, hfront', hback, rfl⟩ := hlinks.split
    obtain ⟨rfl, rfl⟩ := hfront.unique hfront'
    cases hback with
    | settle hpart _ => exact absurd hnew (hpart.not_new hdest)
    | enter hdest' _ hopens₂ hinner hrest =>
      rw [hdest] at hdest'
      cases hdest'
      refine ⟨_, _, _, ⟨_, hopens₂, hinner⟩,
        hrest.grows.modules.trans (List.IsPrefix.trans ?_ hkept)⟩
      rw [BuildState.modules_close]
      exact List.prefix_append _ _

/-- The tables in which files are entered are consistent. -/
theorem Enters.consistent (h : l.Enters files root s file) : s.table.Consistent := by
  induction h with
  | root _ => exact ModuleTable.consistent_empty
  | follow _ hopens _ hfront _ _ ih => exact hfront.consistent (hopens.consistent ih)

/-- The files on which a build enters a file are what the compiler made of the first ones. -/
theorem Enters.becomes (h : l.Enters files root s file) : l.Becomes files s.files := by
  induction h with
  | root _ => exact .refl
  | follow _ hopens _ hfront _ _ ih => exact ih.trans (hopens.grows.trans hfront.grows).files

/-- The table of a completed build is consistent. -/
theorem Completes.consistent (h : l.Completes files root final) : final.table.Consistent := by
  obtain ⟨path, spans, linked, s', -, hvisits, rfl⟩ := h
  exact consistent_close (hvisits.consistent ModuleTable.consistent_empty) linked

/-! ## Every module has an origin -/

/-- A module has one of the two origins. -/
def HasOrigin (l : Linker) (files : FileSystem) (root : Path) (m : Module) : Prop :=
  (∃ spans, l.IsFileModule files root m spans) ∨ l.IsTemplateModule files root m

/-- A module that comes in when a file is opened is that of its template. -/
theorem Enters.origin_opens {spans : List Span} (h : l.Enters files root s file)
    (hopens : l.Opens s file spans s₁) {m : Module} (hm : m ∈ s₁.table.modules) :
    m ∈ s.table.modules ∨ l.HasOrigin files root m := by
  cases hopens with
  | @intro text source filling hreads =>
    have hmem : m ∈ (l.tableAfter s.table file source.template).modules := hm
    cases htemplate : source.template with
    | none =>
      rw [htemplate] at hmem
      exact .inl hmem
    | some markup =>
      rw [htemplate] at hmem
      cases hcompiler : l.compiler with
      | some compiler =>
        simp only [tableAfter, hcompiler] at hmem
        exact .inl hmem
      | none =>
        simp only [tableAfter, hcompiler, ModuleTable.modules_add] at hmem
        rcases List.mem_append.1 hmem with hold | hnew
        · exact .inl hold
        · rw [List.mem_singleton] at hnew
          exact .inr (.inr ⟨s, file, markup,
            ⟨hcompiler, h, text, source, filling, hreads, htemplate⟩, hnew⟩)

/-- Every module that comes in while parts of a file are linked has an origin. -/
theorem Links.origin {parts : List Part} {linked : List Linked}
    (h : l.Links s file parts linked s') (hamid : l.Amid files root s file parts) {m : Module}
    (hm : m ∈ s'.table.modules) : m ∈ s.table.modules ∨ l.HasOrigin files root m := by
  induction h with
  | nil => exact .inl hm
  | settle hpart _ ih =>
    have hnext := hamid.next (.settle hpart .nil)
    obtain ⟨changed, -, rfl⟩ := hpart.state
    exact ih hnext hm
  | enter hdest hnew hopens hinner _ ihinner ihparts =>
    have henters := hamid.enters hdest hnew
    -- a module comes in behind the call, when the file is closed, inside the file, or with its slot
    rcases ihparts (hamid.next (.enter hdest hnew hopens hinner .nil)) hm with hclosed | horigin
    · rw [BuildState.modules_close] at hclosed
      rcases List.mem_append.1 hclosed with hin | hmodule
      · rcases ihinner (henters.amid hopens) hin with hopened | horigin
        · exact henters.origin_opens hopens hopened
        · exact .inr horigin
      · rw [List.mem_singleton] at hmodule
        subst hmodule
        exact .inr (.inl ⟨_, _, _, _, henters, ⟨_, hopens, hinner⟩, rfl⟩)
    · exact .inr horigin

/-- Every module of a completed build has an origin. -/
theorem Completes.origin (h : l.Completes files root final) {m : Module}
    (hm : m ∈ final.table.modules) : l.HasOrigin files root m := by
  obtain ⟨path, spans, linked, s', hroot, hvisits, rfl⟩ := h
  obtain ⟨s₁, hopens, hlinks⟩ := hvisits
  have henters : l.Enters files root { files } path := .root hroot
  rw [BuildState.modules_close] at hm
  rcases List.mem_append.1 hm with hin | hmodule
  · rcases hlinks.origin (henters.amid hopens) hin with hopened | horigin
    · rcases henters.origin_opens hopens hopened with hnone | horigin
      · cases hnone
      · exact horigin
    · exact horigin
  · rw [List.mem_singleton] at hmodule
    subst hmodule
    exact .inl ⟨spans, _, _, _, henters, ⟨s₁, hopens, hlinks⟩, rfl⟩

/-- The module of a file is in the table of a completed build. -/
theorem IsFileModule.mem {m : Module} {spans : List Span} (h : l.IsFileModule files root m spans)
    (hfinal : l.Completes files root final) : m ∈ final.table.modules := by
  obtain ⟨s, linked, s', henters, hvisits, hmodule⟩ := h
  -- files are visited in one way, so this visit is the one that the build makes
  obtain ⟨spans', linked', t, hvisits', hkept⟩ := henters.visits hfinal
  obtain ⟨rfl, rfl, rfl⟩ := hvisits.unique hvisits'
  apply hkept.subset
  rw [BuildState.modules_close, ← hmodule]
  exact List.mem_append_right _ (List.mem_singleton_self m)

/-- The module of a template is in the table of a completed build. -/
theorem IsTemplateModule.mem {m : Module} (h : l.IsTemplateModule files root m)
    (hfinal : l.Completes files root final) : m ∈ final.table.modules := by
  obtain ⟨s, component, markup, ⟨hcompiler, henters, text, source, filling, hreads, htemplate⟩,
    rfl⟩ := h
  obtain ⟨spans, linked, t, ⟨s₁, hopens, hlinks⟩, hkept⟩ := henters.visits hfinal
  obtain ⟨-, rfl⟩ := hopens.unique (.intro hreads)
  apply hkept.subset
  rw [BuildState.modules_close]
  apply List.mem_append_left
  apply hlinks.grows.modules.subset
  simp only [opened, tableAfter, htemplate, hcompiler, ModuleTable.modules_add]
  exact List.mem_append_right _ (List.mem_singleton_self _)

end Linker

/-! ## A small build -/

/-- The answers of builds can be compared. -/
instance decEqExcept {ε α : Type} [DecidableEq ε] [DecidableEq α] : DecidableEq (Except ε α)
  | .ok a, .ok b => decidable_of_iff (a = b) ⟨congrArg _, Except.ok.inj⟩
  | .error e, .error f => decidable_of_iff (e = f) ⟨congrArg _, Except.error.inj⟩
  | .ok _, .error _ => isFalse nofun
  | .error _, .ok _ => isFalse nofun

/-- A file system with some files in its working directory. -/
def sampleFiles (entries : List (String × String)) : FileSystem where
  nodes := entries.map fun entry => ([entry.1.toList], .file (Utf8.encode entry.2.toList))

/-- A script, a component with a template, and what they require: another script, which is shared, a
file of markup, and a vendor library. -/
def sampleTree : FileSystem :=
  sampleFiles
    [("a.js", "require('./c.vue');\nrequire('./b');\nrequire('vue');\n"),
      ("b.js", "require('./d.html');\n"),
      ("c.vue",
        "<template>\n<b>\n</template>\n<script>\nrequire('./b');\nmodule.exports = \x7b\n\x7d;\n"),
      ("d.html", "<p>\n")]

/-- A linker that knows one vendor library and does not compile templates. -/
def sampleLinker : Linker := { lookup := { libraries := ["vue".toList] } }

/-- The graph of the small build. -/
def sampleGraph : ModuleGraph where
  modules :=
    [⟨1, ⟨"c.vue.template".toList⟩, "module.exports = \"<b>\\n\";\n".toList, []⟩,
      ⟨2, ⟨"d.html".toList⟩, "module.exports = \"<p>\\n\";\n".toList, []⟩,
      ⟨3, ⟨"b.js".toList⟩, "require('./d.html');\n".toList, [("./d.html".toList, 2)]⟩,
      ⟨4, ⟨"c.vue".toList⟩,
        "require('./b');\nmodule.exports = \x7b\ntemplate: require('c.vue.template'),\x7d;\n".toList,
        [("./b".toList, 3), ("c.vue.template".toList, 1)]⟩,
      ⟨5, ⟨"a.js".toList⟩, "require('./c.vue');\nrequire('./b');\nrequire('vue');\n".toList,
        [("./b".toList, 3), ("./c.vue".toList, 4)]⟩]
  entry := 5
  styles := []

/-- The small build gives its graph. -/
theorem graph_sampleTree :
    (sampleLinker.graph sampleTree ⟨"a.js".toList⟩).1 = .ok sampleGraph := by
  decide +kernel

end ScriptBundle

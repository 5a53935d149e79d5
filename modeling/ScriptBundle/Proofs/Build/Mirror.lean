/-
# Builds that mirror each other

A build sees the files through a few questions only: where a target leads, what text stands in a
file that it enters, and which paths are the same.  If another build gets the same answers, up to
the paths under which it knows the files, then it ends well exactly if the first one does, and its
graph is that of the first one under the other paths.

## Main content

- `ModuleGraph.moved` is a graph under other paths; `ModuleGraph.product_moved`: it leads to the same
  product.
- `Linker.Mirrors` lists the answers that have to agree, at the places to which the first build comes.
- `Linker.Mirrors.graph_eq_ok_iff`: the graphs then agree.
-/
import ScriptBundle.Job.Run
import ScriptBundle.Proofs.Build.Alike
import ScriptBundle.Proofs.Build.Reachability

namespace ScriptBundle

/-! ## Other paths -/

variable {move : Path → Path}

/-- A module under another path. -/
def Module.moved (move : Path → Path) (m : Module) : Module := { m with path := move m.path }

/-- A table under other paths. -/
def ModuleTable.moved (move : Path → Path) (table : ModuleTable) : ModuleTable :=
  { table with
    modules := table.modules.map (Module.moved move)
    index := table.index.map fun entry => (move entry.1, entry.2) }

/-- Styles under other paths. -/
def Stylesheet.moved (move : Path → Path) (sheet : Stylesheet) : Stylesheet :=
  sheet.map fun block => { block with component := move block.component }

/-- A graph under other paths. -/
def ModuleGraph.moved (move : Path → Path) (g : ModuleGraph) : ModuleGraph :=
  { g with modules := g.modules.map (Module.moved move), styles := g.styles.moved move }

/-- Where a target leads, under other paths. -/
def Destination.moved (move : Path → Path) : Destination → Destination
  | .file path => .file (move path)
  | .library target => .library target

/-- A state under other paths, with other files. -/
def BuildState.moved (move : Path → Path) (files : FileSystem) (s : BuildState) : BuildState where
  files := files
  table := s.table.moved move
  inProgress := s.inProgress.map move
  styles := s.styles.moved move

/-- The product of a graph does not depend on the paths. -/
theorem ModuleGraph.product_moved (move : Path → Path) (g : ModuleGraph) :
    (g.moved move).product = g.product := by
  have hmodules : (g.modules.map (Module.moved move)).map Bundle.moduleText =
      g.modules.map Bundle.moduleText := by
    rw [List.map_map]
    rfl
  have hstyles : (g.styles.moved move).css = g.styles.css := List.flatMap_map ..
  simp only [product, moved, Bundle.text, Bundle.callText, hmodules, hstyles, List.length_map]

/-- A path is looked up under its other path if it is told apart from the paths of the table. -/
theorem ModuleTable.find?_moved {table : ModuleTable} {p : Path}
    (h : ∀ entry ∈ table.index, (move entry.1).same (move p) = entry.1.same p) :
    (table.moved move).find? (move p) = (table.find? p).map (Module.moved move) := by
  have hposition : (table.moved move).position? (move p) = table.position? p := by
    simp only [position?, moved]
    generalize table.index = index at h ⊢
    induction index with
    | nil => rfl
    | cons entry index ih =>
      obtain ⟨hentry, hindex⟩ := List.forall_mem_cons.1 h
      rw [List.map_cons, List.find?_cons, List.find?_cons, hentry]
      cases entry.1.same p with
      | true => rfl
      | false => exact ih hindex
  rw [find?, find?, hposition]
  cases table.position? p with
  | none => rfl
  | some i => exact List.getElem?_map ..

/-- A module that is added under another path. -/
theorem ModuleTable.moved_add (table : ModuleTable) (path : Path) (text : Text)
    (dependencies : Dependencies) :
    (table.add path text dependencies).moved move =
      (table.moved move).add (move path) text dependencies := by
  simp only [add, moved, List.map_append, List.length_map, List.map_cons, List.map_nil,
    Module.moved]

namespace Linker

variable {l l' : Linker} {files files' : FileSystem} {root root' file path : Path}
  {s t : BuildState} {valid : Path → Prop}

/-! ## Answers that agree -/

/-- All that a build asks gets the same answers in another build, under other paths.  The valid
paths are those that may come up. -/
structure Mirrors (l l' : Linker) (files files' : FileSystem) (root root' : Path)
    (move : Path → Path) (valid : Path → Prop) : Prop where
  /-- The compiler is the same. -/
  compiler_eq : l'.compiler = l.compiler
  /-- The compiler does not look at any file. -/
  isPure : ∀ compiler, l.compiler = some compiler → compiler.IsPure
  /-- The same targets name vendor libraries. -/
  namesLibrary_eq : ∀ target, l'.lookup.namesLibrary target = l.lookup.namesLibrary target
  /-- Paths are told apart. -/
  same_eq : ∀ p q, valid p → valid q → (move p).same (move q) = p.same q
  /-- File names are kept. -/
  fileName_eq : ∀ p, valid p → (move p).fileName? = p.fileName?
  /-- The build starts at the same file. -/
  root_eq : l'.lookup.file? files' root' = (l.lookup.file? files root).map move
  /-- The file where it starts is valid. -/
  valid_root : ∀ start, l.lookup.file? files root = some start → valid start
  /-- A file that is entered has the same text. -/
  text_eq : ∀ s p, l.Enters files root s p → valid p →
    (files'.readText (move p)).toOption = (files.readText p).toOption
  /-- The template of a file that is entered is moved with the file. -/
  template_eq : ∀ s p, l.Enters files root s p → valid p →
    valid (Source.templatePath p) ∧ Source.templatePath (move p) = move (Source.templatePath p)
  /-- What a call spells is moved with the file. -/
  spelled_eq : ∀ s file call parts, l.Amid files root s file (.follow call :: parts) → valid file →
    valid (Lookup.targetPath file call.target).folded ∧
      (Lookup.targetPath (move file) call.target).folded =
        move (Lookup.targetPath file call.target).folded
  /-- A target that has to be looked up leads to the same file. -/
  file_eq : ∀ s file call parts, l.Amid files root s file (.follow call :: parts) → valid file →
    l.lookup.namesLibrary call.target = false →
    s.table.find? (Lookup.targetPath file call.target).folded = none →
    l'.lookup.file? files' (Lookup.targetPath (move file) call.target) =
        (l.lookup.file? files (Lookup.targetPath file call.target)).map move ∧
      ∀ found, l.lookup.file? files (Lookup.targetPath file call.target) = some found → valid found
  /-- A template in a file of its own has the same text. -/
  inlined_eq : ∀ s file target parts, l.Amid files root s file (.inline target :: parts) →
    valid file →
    (files'.readText (Lookup.targetPath (move file) target).folded).toOption =
      (files.readText (Lookup.targetPath file target).folded).toOption

/-- A state of the first build, with valid paths only, and the state of the other one. -/
structure Mirrored (files files' : FileSystem) (move : Path → Path) (valid : Path → Prop)
    (s t : BuildState) : Prop where
  /-- The files are the first ones. -/
  files_eq : s.files = files
  /-- The complete modules have valid paths. -/
  valid_index : ∀ entry ∈ s.table.index, valid entry.1
  /-- The files being read have valid paths. -/
  valid_inProgress : ∀ p ∈ s.inProgress, valid p
  /-- The other state is the first one under other paths. -/
  moved : t = s.moved move files'

namespace Mirrored

/-- A new module with a valid path. -/
theorem add (h : Mirrored files files' move valid s t) (hvalid : valid path) (text : Text)
    (dependencies : Dependencies) :
    Mirrored files files' move valid { s with table := s.table.add path text dependencies }
      { t with table := t.table.add (move path) text dependencies } where
  files_eq := h.files_eq
  valid_index := by
    intro entry hentry
    rcases List.mem_cons.1 hentry with rfl | hold
    · exact hvalid
    · exact h.valid_index entry hold
  valid_inProgress := h.valid_inProgress
  moved := by
    rw [h.moved]
    simp only [BuildState.moved, ModuleTable.moved_add]

/-- A file with a valid path is being read. -/
theorem read (h : Mirrored files files' move valid s t) (hvalid : valid path) :
    Mirrored files files' move valid { s with inProgress := s.inProgress ++ [path] }
      { t with inProgress := t.inProgress ++ [move path] } where
  files_eq := h.files_eq
  valid_index := h.valid_index
  valid_inProgress := by
    intro p hp
    rcases List.mem_append.1 hp with hold | hnew
    · exact h.valid_inProgress p hold
    · rwa [List.mem_singleton.1 hnew]
  moved := by
    rw [h.moved]
    simp only [BuildState.moved, List.map_append, List.map_singleton]

/-- The file that was read last is done. -/
theorem done (h : Mirrored files files' move valid s t) :
    Mirrored files files' move valid { s with inProgress := s.inProgress.dropLast }
      { t with inProgress := t.inProgress.dropLast } where
  files_eq := h.files_eq
  valid_index := h.valid_index
  valid_inProgress := fun p hp => h.valid_inProgress p (List.dropLast_subset _ hp)
  moved := by
    rw [h.moved]
    simp only [BuildState.moved, List.map_dropLast]

/-- Styles are added. -/
theorem style (h : Mirrored files files' move valid s t) (file : Path) (styles : List Text) :
    Mirrored files files' move valid
      { s with styles := s.styles ++ Stylesheet.ofComponent file styles }
      { t with styles := t.styles ++ Stylesheet.ofComponent (move file) styles } where
  files_eq := h.files_eq
  valid_index := h.valid_index
  valid_inProgress := h.valid_inProgress
  moved := by
    rw [h.moved]
    simp [BuildState.moved, Stylesheet.moved, Stylesheet.ofComponent, Function.comp_def]

/-- A path is looked up in both tables alike. -/
theorem find?_eq (h : Mirrored files files' move valid s t)
    (hm : l.Mirrors l' files files' root root' move valid) (hvalid : valid path) :
    t.table.find? (move path) = (s.table.find? path).map (Module.moved move) := by
  rw [h.moved]
  exact ModuleTable.find?_moved fun entry hentry =>
    hm.same_eq entry.1 path (h.valid_index entry hentry) hvalid

/-- A path is being read in both builds alike. -/
theorem any_same_eq (h : Mirrored files files' move valid s t)
    (hm : l.Mirrors l' files files' root root' move valid) (hvalid : valid path) :
    t.inProgress.any (·.same (move path)) = s.inProgress.any (·.same path) := by
  rw [h.moved, Bool.eq_iff_iff]
  simp only [BuildState.moved, List.any_map, List.any_eq_true]
  refine exists_congr fun p => and_congr_right fun hp => ?_
  rw [Function.comp, hm.same_eq p path (h.valid_inProgress p hp) hvalid]

end Mirrored

/-! ## Files with the same name -/

/-- What a text brings into a build goes by the name of its file. -/
theorem Source.read_eq_of_fileName? {p q : Path} (h : q.fileName? = p.fileName?) (text : Text) :
    (Source.read q text).styles = (Source.read p text).styles ∧
      (Source.read q text).source.toOption = (Source.read p text).source.toOption := by
  have hkind := FileKind.ofPath_eq_of_fileName? h
  refine ⟨?_, ?_⟩
  · simp only [Source.read, hkind]
    split <;> rfl
  · cases hp : (Source.read p text).source with
    | ok source => rw [Source.read_eq_ok_of_kind hkind.symm hp]
    | error e =>
      cases hq : (Source.read q text).source with
      | error e' => rfl
      | ok source =>
        rw [Source.read_eq_ok_of_kind hkind hq] at hp
        cases hp

/-! ## Builds run alike -/

open Build

section Lockstep

variable (hm : l.Mirrors l' files files' root root' move valid)

include hm

/-- A target leads to the same file in both builds. -/
theorem Mirrors.destination_eq (h : Mirrored files files' move valid s t) {call : Call}
    {parts : List Part} (hamid : l.Amid files root s file (.follow call :: parts))
    (hfile : valid file) :
    (l'.destination t (move file) call.target).toOption =
        (l.destination s file call.target).toOption.map (Destination.moved move) ∧
      ∀ found, l.destination s file call.target = .ok (.file found) → valid found := by
  obtain ⟨hvalid, hspelled⟩ := hm.spelled_eq s file call parts hamid hfile
  have hfind := h.find?_eq hm hvalid
  simp only [destination, hspelled, hfind, Option.isSome_map]
  cases hfound : s.table.find? (Lookup.targetPath file call.target).folded with
  | some found =>
    refine ⟨rfl, fun path hpath => ?_⟩
    cases hpath
    exact hvalid
  | none =>
    have ht : t.files = files' := by rw [h.moved]; rfl
    simp only [Option.isSome_none, Bool.false_eq_true, if_false, Lookup.destination,
      hm.namesLibrary_eq, h.files_eq, ht]
    cases hlibrary : l.lookup.namesLibrary call.target with
    | true =>
      refine ⟨rfl, fun found h => ?_⟩
      cases h
    | false =>
      obtain ⟨heq, hvalidfound⟩ := hm.file_eq s file call parts hamid hfile hlibrary hfound
      rw [heq]
      cases hlook : l.lookup.file? files (Lookup.targetPath file call.target) with
      | none =>
        refine ⟨rfl, fun found h => ?_⟩
        cases h
      | some found =>
        refine ⟨rfl, fun path hpath => ?_⟩
        cases hpath
        exact hvalidfound found hlook

/-- A template in a file of its own is compiled to the same text in both builds. -/
theorem Mirrors.alike_inlineText (h : Mirrored files files' move valid s t) {target : Text}
    {parts : List Part} (hamid : l.Amid files root s file (.inline target :: parts))
    (hfile : valid file) :
    Alike (l.inlineText file target) s (l'.inlineText (move file) target) t
      fun text s' text' t' => text' = text ∧ Mirrored files files' move valid s' t' := by
  have ht : t.files = files' := by rw [h.moved]; rfl
  cases hcompiler : l.compiler with
  | none =>
    simp only [inlineText, hm.compiler_eq, hcompiler]
    exact .pure ⟨rfl, h⟩
  | some compiler =>
    simp only [inlineText, hm.compiler_eq, hcompiler]
    have htext := hm.inlined_eq s file target parts hamid hfile
    rw [← h.files_eq, ← ht] at htext
    refine .bind (.readText htext) ?_
    rintro text s₁ text' t₁ - - ⟨⟨-, rfl⟩, rfl, rfl⟩
    refine .bind (.compile (hm.isPure compiler hcompiler)) ?_
    rintro functions s₂ functions' t₂ - - ⟨rfl, rfl, rfl⟩
    exact .pure ⟨rfl, h⟩

/-- The slot of a file is filled alike in both builds. -/
theorem Mirrors.alike_fillSlot (h : Mirrored files files' move valid s t)
    (hname : (move path).fileName? = path.fileName?)
    (htemplate : valid (Source.templatePath path) ∧
      Source.templatePath (move path) = move (Source.templatePath path))
    (template : Option Text) :
    Alike (l.fillSlot path template) s (l'.fillSlot (move path) template) t
      fun filling s' filling' t' =>
        filling' = filling ∧ Mirrored files files' move valid s' t' := by
  cases template with
  | none => exact .pure ⟨rfl, h⟩
  | some markup =>
    cases hcompiler : l.compiler with
    | none =>
      simp only [fillSlot, hm.compiler_eq, hcompiler]
      have hreference : Source.templateReference (move path) = Source.templateReference path := by
        simp only [Source.templateReference, Source.templateName, hname]
      have hadd := h.add htemplate.1 (Literal.exportText markup) []
      rw [← htemplate.2] at hadd
      refine .bind (.map .addModule) ?_
      rintro _ _ _ _ - - ⟨_, _, ⟨⟨-, rfl⟩, -, rfl⟩, -, -⟩
      rw [hreference]
      exact .pure ⟨rfl, hadd⟩
    | some compiler =>
      simp only [fillSlot, hm.compiler_eq, hcompiler]
      refine .bind (.compile (hm.isPure compiler hcompiler)) ?_
      rintro functions s₁ functions' t₁ - - ⟨rfl, rfl, rfl⟩
      exact .pure ⟨rfl, h⟩

/-- A part is linked alike in both builds if files are reached alike. -/
theorem Mirrors.alike_linkPart {reach reach' : Path → Build ModuleNumber}
    (hreach : ∀ {path s t}, l.Calls files root s path → valid path →
      Mirrored files files' move valid s t →
      Alike (reach path) s (reach' (move path)) t fun n s' n' t' =>
        n' = n ∧ Mirrored files files' move valid s' t')
    (h : Mirrored files files' move valid s t) {part : Part} {parts : List Part}
    (hamid : l.Amid files root s file (part :: parts)) (hfile : valid file) :
    Alike (l.linkPart reach file part) s (l'.linkPart reach' (move file) part) t
      fun link s' link' t' => link' = link ∧ Mirrored files files' move valid s' t' := by
  cases part with
  | copy text => exact .pure ⟨rfl, h⟩
  | inline target =>
    refine .bind (hm.alike_inlineText h hamid hfile) ?_
    rintro text s₁ text' t₁ - - ⟨rfl, h₁⟩
    exact .pure ⟨rfl, h₁⟩
  | follow call =>
    obtain ⟨hdest, hvalid⟩ := hm.destination_eq h hamid hfile
    refine .bind .get ?_
    rintro _ _ _ _ - - ⟨⟨rfl, rfl⟩, rfl, rfl⟩
    refine .bind (.ofExcept hdest) ?_
    rintro destination _ _ _ - - ⟨⟨hok, rfl⟩, rfl, rfl⟩
    cases destination with
    | library target => exact .pure ⟨rfl, h⟩
    | file path =>
      refine .bind (hreach (.follow hamid hok) (hvalid path hok) h) ?_
      rintro n s₂ n' t₂ - - ⟨rfl, h₂⟩
      exact .pure ⟨rfl, h₂⟩

/-- Parts are linked alike in both builds if files are reached alike. -/
theorem Mirrors.alike_mapM {reach reach' : Path → Build ModuleNumber}
    (hgives : ∀ {path s n s'}, Gives (reach path) s n s' → l.Reaches s path n s')
    (hreach : ∀ {path s t}, l.Calls files root s path → valid path →
      Mirrored files files' move valid s t →
      Alike (reach path) s (reach' (move path)) t fun n s' n' t' =>
        n' = n ∧ Mirrored files files' move valid s' t')
    (h : Mirrored files files' move valid s t) {parts : List Part}
    (hamid : l.Amid files root s file parts) (hfile : valid file) :
    Alike (parts.mapM (l.linkPart reach file)) s (parts.mapM (l'.linkPart reach' (move file))) t
      fun linked s' linked' t' => linked' = linked ∧ Mirrored files files' move valid s' t' := by
  induction parts generalizing s t with
  | nil =>
    rw [List.mapM_nil, List.mapM_nil]
    exact .pure ⟨rfl, h⟩
  | cons part parts ih =>
    rw [List.mapM_cons, List.mapM_cons]
    refine .bind (hm.alike_linkPart hreach h hamid hfile) ?_
    rintro link s₁ link' t₁ hlink - ⟨rfl, h₁⟩
    -- the part is linked by the rules, so the first build is then amid the parts behind it
    have hlinks : l.Links s file [part] [link'] s₁ :=
      links_of_gives hgives
        (gives_mapM_cons.2 ⟨link', s₁, [], hlink, gives_mapM_nil.2 ⟨rfl, rfl⟩, rfl⟩)
    refine .bind (ih h₁ (hamid.next hlinks)) ?_
    rintro linked s₂ linked' t₂ - - ⟨rfl, h₂⟩
    exact .pure ⟨rfl, h₂⟩

/-- A file that is entered is linked alike in both builds if others are reached alike. -/
theorem Mirrors.alike_linkText {reach reach' : Path → Build ModuleNumber}
    (hgives : ∀ {path s n s'}, Gives (reach path) s n s' → l.Reaches s path n s')
    (hreach : ∀ {path s t}, l.Calls files root s path → valid path →
      Mirrored files files' move valid s t →
      Alike (reach path) s (reach' (move path)) t fun n s' n' t' =>
        n' = n ∧ Mirrored files files' move valid s' t')
    (h : Mirrored files files' move valid s t) (hvalid : valid path)
    (henters : l.Enters files root s path) {text : Text}
    (htext : s.files.readText path = .ok text) :
    Alike (l.linkText reach path text) { s with inProgress := s.inProgress ++ [path] }
      (l'.linkText reach' (move path) text) { t with inProgress := t.inProgress ++ [move path] }
      fun linked s' linked' t' => linked' = linked ∧ Mirrored files files' move valid s' t' := by
  have hname := hm.fileName_eq path hvalid
  obtain ⟨hstyles, hsource⟩ := Source.read_eq_of_fileName? hname text
  refine .bind .addStyles ?_
  rintro _ _ _ _ - - ⟨rfl, rfl⟩
  have hstyled := (h.read hvalid).style path (Source.read path text).styles
  rw [hstyles]
  refine .bind (.ofExcept (f := id) (by rw [hsource, Option.map_id, id])) ?_
  rintro _ _ source _ - - ⟨⟨hok, rfl⟩, rfl, rfl⟩
  have htemplate := hm.template_eq s path henters hvalid
  refine .bind (hm.alike_fillSlot hstyled hname htemplate source.template) ?_
  rintro filling s₁ filling' t₁ hfill - ⟨rfl, h₁⟩
  obtain ⟨hfills, rfl⟩ := gives_fillSlot hfill
  have hamid := henters.amid (.intro ⟨htext, hok, hfills⟩)
  rw [linkSpans, linkSpans, hm.compiler_eq]
  refine .bind (hm.alike_mapM hgives hreach h₁ hamid hvalid) ?_
  rintro linked s₂ linked' t₂ - - ⟨rfl, h₂⟩
  exact .pure ⟨rfl, h₂⟩

/-- A file is reached alike in both builds. -/
theorem Mirrors.alike_reachWithin {depth : Nat} (hcalls : l.Calls files root s path)
    (hvalid : valid path) (h : Mirrored files files' move valid s t) :
    Alike (l.reachWithin depth path) s (l'.reachWithin depth (move path)) t fun n s' n' t' =>
      n' = n ∧ Mirrored files files' move valid s' t' := by
  induction depth generalizing path s t with
  | zero => exact .of_fails (fails_throw.2 rfl) (fails_throw.2 rfl)
  | succ depth ih =>
    have ht : t.files = files' := by rw [h.moved]; rfl
    have hfind := h.find?_eq hm hvalid
    have hany := h.any_same_eq hm hvalid
    refine .bind .get ?_
    rintro _ s _ t - - ⟨⟨rfl, rfl⟩, rfl, rfl⟩
    cases hfound : s.table.find? path with
    | some found =>
      simp only [hfind, hfound, Option.map_some]
      exact .pure ⟨rfl, h⟩
    | none =>
      simp only [hfind, hfound, Option.map_none, hany]
      cases hprogress : s.inProgress.any (·.same path) with
      | true =>
        exact .of_fails (fails_bind.2 (.inl (fails_throw.2 rfl)))
          (fails_bind.2 (.inl (fails_throw.2 rfl)))
      | false =>
        have henters := hcalls.enters ⟨hfound, hprogress⟩
        have htext := hm.text_eq s path henters hvalid
        rw [← h.files_eq, ← ht] at htext
        simp only [Bool.false_eq_true, if_false]
        refine .bind (.readText htext) ?_
        rintro _ s text t - - ⟨⟨hread, rfl⟩, rfl, rfl⟩
        have hlink : Alike (during path (l.linkText (l.reachWithin depth) path text)) s
            (during (move path) (l'.linkText (l'.reachWithin depth) (move path) text)) t
            fun linked s' linked' t' =>
              linked' = linked ∧ Mirrored files files' move valid s' t' :=
          .during ((hm.alike_linkText reaches_of_gives ih h hvalid henters hread).mono
            fun _ _ hrel => ⟨hrel.1, hrel.2.done⟩)
        refine .bind hlink ?_
        rintro linked s₁ _ t₁ - - ⟨rfl, h₁⟩
        refine .mono .addModule ?_
        rintro _ _ _ _ - - ⟨⟨rfl, rfl⟩, rfl, rfl⟩
        refine ⟨?_, h₁.add hvalid _ _⟩
        rw [h₁.moved]
        rfl

end Lockstep

/-! ## Graphs -/

/-- A build whose root is reached has a graph. -/
theorem graph_of_gives {start : Path} {n : ModuleNumber}
    (hroot : l.lookup.rootFile files root = .ok start) (h : Gives (l.reach start) { files } n s) :
    (l.graph files root).1 = .ok ⟨s.table.modules, n, s.styles⟩ := by
  have hrun : (l.reach start).run.run { files } = (.ok n, s) := h
  rw [graph, hroot]
  simp only
  rw [hrun]
  rfl

/-- A build whose root is not reached has none. -/
theorem graph_of_fails {start : Path} {e : BuildError}
    (hroot : l.lookup.rootFile files root = .ok start) (h : Fails (l.reach start) { files } e) :
    (l.graph files root).1 = .error e := by
  unfold Fails at h
  rw [graph, hroot]
  simp only
  rcases hrun : (l.reach start).run.run { files } with ⟨result, state⟩
  rw [hrun] at h
  rw [show result = .error e from h]
  rfl

/-- A build that gets the same answers as another one ends well exactly if the other one does, and
its graph is the same under other paths. -/
theorem Mirrors.graph_eq_ok_iff (hm : l.Mirrors l' files files' root root' move valid)
    {g' : ModuleGraph} :
    (l'.graph files' root').1 = .ok g' ↔
      ∃ g, (l.graph files root).1 = .ok g ∧ g.moved move = g' := by
  cases hfile : l.lookup.file? files root with
  | none =>
    rw [graph, graph, Lookup.rootFile, Lookup.rootFile, hm.root_eq, hfile]
    simp
  | some start =>
    have hroot : l.lookup.rootFile files root = .ok start := by
      rw [Lookup.rootFile, hfile]
    have hroot' : l'.lookup.rootFile files' root' = .ok (move start) := by
      rw [Lookup.rootFile, hm.root_eq, hfile]
      rfl
    have hmirrored : Mirrored files files' move valid { files } { files := files' } :=
      ⟨rfl, fun _ h => absurd h List.not_mem_nil, fun _ h => absurd h List.not_mem_nil, rfl⟩
    rcases hm.alike_reachWithin (.root hroot) (hm.valid_root start hfile) hmirrored with
      ⟨e, e', hfails, hfails'⟩ | ⟨n, s, n', t, hgives, hgives', rfl, hrel⟩
    · rw [graph_of_fails hroot hfails, graph_of_fails hroot' hfails']
      simp
    · rw [graph_of_gives hroot hgives, graph_of_gives hroot' hgives', hrel.moved]
      simp only [Except.ok.injEq, exists_eq_left']
      rfl

end Linker

end ScriptBundle

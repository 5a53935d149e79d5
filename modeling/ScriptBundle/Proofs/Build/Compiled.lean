/-
# Calls followed with and without a compiler

A build that makes modules of templates and one that compiles them link the same files.  If names tell
templates from files, a call leads to the same place in both builds, whatever templates are complete,
so the calls of a file are followed in lockstep.  The one call that is missing in the other build is
that of the template of a component, whose module is complete when the call is reached.

## Main content

- `Source.IsOf` says what a file brings into a build, and `TemplatesApart` that in some files no name
  is that of a template, and no call stands where it would be replaced.
- `BuildState.CompilesTo` relates the states of the two builds, and `Linker.ReachAlike` two ways to
  reach files.
- `Linker.alike_mapM_followCall` and `Linker.alike_mapM_followCall_template`: calls are followed alike,
  also if one of them leads to a template that the other build has compiled.
- `Linker.alike_linkSpans_of_none` and `Linker.alike_linkSpans_of_template`: files are linked alike,
  without a template and with one.
-/
import ScriptBundle.Proofs.Build.Alike
import ScriptBundle.Proofs.Build.Following
import ScriptBundle.Proofs.Build.Thinned

namespace ScriptBundle

/-! ## Files that keep templates apart -/

/-- A file has a source: it can be read, and its text is that of a file of its kind. -/
def Source.IsOf (files : FileSystem) (file : Path) (source : Source) : Prop :=
  files.isFile file = true ∧ ∃ text, files.readText file = .ok text ∧
    (Source.read file text).source = .ok source

/-- Templates are kept apart from files and from what files require. -/
structure TemplatesApart (files : FileSystem) : Prop where
  /-- The file names of components have target characters only. -/
  isTargetChar : ∀ p name, files.isFile p = true → Component.isComponent p = true →
    p.fileName? = some name → ∀ c ∈ name, isTargetChar c
  /-- No file has the name of a template. -/
  file_ending : ∀ p, files.isFile p = true → p.nameEndsWith Source.templateEnding = false
  /-- No call leads to the name of a template. -/
  target_ending : ∀ p source call, Source.IsOf files p source → .require call ∈ source.spans [] →
    (Lookup.targetPath p call.target).folded.nameEndsWith Source.templateEnding = false
  /-- No call stands directly behind the words of a template option. -/
  optionFree : ∀ p source, Source.IsOf files p source →
    Token.OptionFree (source.opening.flatMap Piece.tokens) ∧
      Token.OptionFree (source.closing.flatMap Piece.tokens)

namespace Source

variable {file : Path} {text : Text} {source : Source} {call : Call}

/-- Without a template nothing stands behind the slot. -/
theorem closing_eq_nil (h : (read file text).source = .ok source) (hnone : source.template = none) :
    source.closing = [] := by
  unfold read at h
  split at h
  · cases h
    rfl
  · rw [readComponent] at h
    split at h
    · next component hrest =>
      unfold ofComponent at h
      split at h
      · split at h
        · cases h
        · cases h
          cases hnone
      · cases h
        rfl
    · cases h
  · cases h
    rfl

/-- A file has one source. -/
theorem IsOf.unique {files : FileSystem} {source' : Source} (h : IsOf files file source)
    (h' : IsOf files file source') : source = source' := by
  obtain ⟨-, text, htext, hsource⟩ := h
  obtain ⟨-, text', htext', hsource'⟩ := h'
  obtain rfl := Except.ok.inj (htext.symm.trans htext')
  exact Except.ok.inj (hsource.symm.trans hsource')

/-- A file has a template if its source has one. -/
theorem IsOf.hasTemplate_iff {files : FileSystem} (h : IsOf files file source) {markup : Text} :
    Linker.HasTemplate files file markup ↔ source.template = some markup := by
  constructor
  · rintro ⟨text, source', htext, hsource, htemplate⟩
    rwa [h.unique ⟨h.1, text, htext, hsource⟩]
  · intro htemplate
    obtain ⟨-, text, htext, hsource⟩ := h
    exact ⟨text, source, htext, hsource, htemplate⟩

/-- Only components have templates. -/
theorem IsOf.isComponent {files : FileSystem} {markup : Text} (h : IsOf files file source)
    (htemplate : source.template = some markup) : Component.isComponent file = true := by
  obtain ⟨-, text, -, hsource⟩ := h
  exact isComponent_of_template hsource htemplate

/-- The calls in front of the slot. -/
def openingCalls (source : Source) : List Call :=
  (source.opening.flatMap Piece.tokens).filterMap Token.call?

/-- The calls behind the slot. -/
def closingCalls (source : Source) : List Call :=
  (source.closing.flatMap Piece.tokens).filterMap Token.call?

/-- The spans of a source with some tokens in its slot. -/
theorem spans_eq (source : Source) (filling : List Piece) :
    source.spans filling = Span.ofTokens (source.opening.flatMap Piece.tokens ++
      (filling.flatMap Piece.tokens ++ source.closing.flatMap Piece.tokens)) := by
  rw [spans, Span.ofPieces, List.flatMap_append, List.flatMap_append, List.append_assoc]

/-- The calls among the spans of a source. -/
theorem filterMap_call?_spans (source : Source) (filling : List Piece) :
    (source.spans filling).filterMap Span.call? = source.openingCalls ++
      ((filling.flatMap Piece.tokens).filterMap Token.call? ++ source.closingCalls) := by
  rw [spans_eq, Span.filterMap_call?_ofTokens, List.filterMap_append, List.filterMap_append]
  rfl

/-- The calls in front of the slot and behind it stand in the source. -/
theorem require_mem_spans (h : call ∈ source.openingCalls ∨ call ∈ source.closingCalls) :
    .require call ∈ source.spans [] := by
  have hcall : call ∈ (source.spans []).filterMap Span.call? := by
    rw [filterMap_call?_spans]
    rcases h with h | h <;> simp [h]
  obtain ⟨span, hspan, heq⟩ := List.mem_filterMap.1 hcall
  cases span with
  | plain text => cases heq
  | require other =>
    obtain rfl := Option.some.inj heq
    exact hspan

/-- The text of the spans of a source. -/
theorem text_spans (source : Source) (filling : List Piece) :
    (source.spans filling).flatMap Span.text = source.opening.flatMap Piece.text ++
      filling.flatMap Piece.text ++ source.closing.flatMap Piece.text := by
  rw [spans, Span.text_ofPieces, List.flatMap_append, List.flatMap_append]

/-- A compiled template is read character by character. -/
theorem flatMap_tokens_compiled (functions : RenderFunctions) :
    [Piece.verbatim functions.optionText, .verbatim [',']].flatMap Piece.tokens =
      (functions.optionText ++ [',']).map Token.char := by
  rw [List.flatMap_cons, List.flatMap_singleton, List.map_append]
  rfl

/-- The compiled template of a file stands in the text in place of the reference to its module. -/
theorem IsOf.compilesText {compiler : Compiler} {files : FileSystem} (h : IsOf files file source)
    {markup : Text} {functions : RenderFunctions} (htemplate : source.template = some markup)
    (hrun : ((compiler markup).run.run files).1 = .ok functions) :
    Linker.CompilesText compiler files file
      ((source.spans [.line (templateReference file)]).flatMap Span.text)
      ((source.spans [.verbatim functions.optionText, .verbatim [',']]).flatMap Span.text) where
  of_template := by
    intro other hother
    rw [h.hasTemplate_iff, htemplate] at hother
    obtain rfl := Option.some.inj hother
    refine ⟨functions, source.opening.flatMap Piece.text, source.closing.flatMap Piece.text, hrun,
      ?_, ?_⟩
    · rw [text_spans, List.flatMap_singleton]
      rfl
    · rw [text_spans, List.flatMap_cons, List.flatMap_singleton]
      rfl
  of_none := fun hnone => absurd (h.hasTemplate_iff.2 htemplate) (hnone markup)

/-- The name of a template has the ending of one. -/
theorem nameEndsWith_templatePath (h : Component.isComponent file = true) :
    (templatePath file).nameEndsWith templateEnding = true := by
  obtain ⟨name, hname⟩ := exists_fileName? h
  rw [Component.isComponent, Path.nameEndsWith, hname] at h
  obtain ⟨front, rfl⟩ := List.isSuffixOf_iff_suffix.1 h
  rw [Path.nameEndsWith, fileName?_templatePath, templateName_eq hname]
  rw [List.append_assoc]
  exact List.isSuffixOf_iff_suffix.2 (List.suffix_append front templateEnding)

end Source

/-- The line that refers to a template is read as an option with a call of its name. -/
theorem TemplatesApart.tokens_templateReference {files : FileSystem} {file : Path} {source : Source}
    {markup : Text} (h : TemplatesApart files) (hof : Source.IsOf files file source)
    (htemplate : source.template = some markup) :
    ∃ call, call.target = Source.templateName file ∧
      (Piece.line (Source.templateReference file)).tokens =
        Part.templateOption.map Token.char ++ [.call call, .char ','] := by
  have hcomponent := hof.isComponent htemplate
  obtain ⟨name, hname⟩ := Source.exists_fileName? hcomponent
  exact Source.tokens_templateReference
    (Source.isTargetChar_templateName hname (h.isTargetChar file name hof.1 hcomponent hname))

/-! ## States -/

/-- What compiling makes of the state of a build. -/
structure BuildState.CompilesTo (compiler : Compiler) (files : FileSystem) (s t : BuildState) :
    Prop where
  /-- The files are those at first. -/
  files_eq : s.files = files
  /-- The other files are, too. -/
  files_eq' : t.files = files
  /-- The same files are being read. -/
  inProgress_eq : t.inProgress = s.inProgress
  /-- The styles are the same. -/
  styles_eq : t.styles = s.styles
  /-- Of the complete modules those of templates are missing. -/
  table : s.table.CompilesTo compiler files t.table

/-- Two builds leave off in related states, and the first one has kept its modules. -/
structure BuildState.LeavesOff (compiler : Compiler) (files : FileSystem) (s s' t' : BuildState) :
    Prop where
  /-- The states are related. -/
  state : s'.CompilesTo compiler files t'
  /-- The modules are kept. -/
  modules : s.table.modules <+: s'.table.modules

variable {compiler : Compiler} {files : FileSystem} {s s' s'' t t' t'' : BuildState}

/-- Two builds that have done nothing. -/
theorem BuildState.CompilesTo.leavesOff (h : s.CompilesTo compiler files t) :
    s.LeavesOff compiler files s t := ⟨h, List.prefix_refl _⟩

/-- Two builds that go on. -/
theorem BuildState.LeavesOff.trans (h : s.LeavesOff compiler files s' t')
    (h' : s'.LeavesOff compiler files s'' t'') : s.LeavesOff compiler files s'' t'' :=
  ⟨h'.state, h.modules.trans h'.modules⟩

namespace Linker

open Build

variable {lookup : Lookup} {reach reach' : Path → Build ModuleNumber} {file path root : Path}
  {source : Source} {text : Text} {calls : List Call} {call : Call}

/-- Two ways to reach files that run alike: wherever the first one gives a number, the other one gives
the number without templates. -/
def ReachAlike (compiler : Compiler) (files : FileSystem) (reach reach' : Path → Build ModuleNumber) :
    Prop :=
  ∀ path s t, s.CompilesTo compiler files t → path.nameEndsWith Source.templateEnding = false →
    (s.table.find? path = none → files.isFile path = true) →
    Alike (reach path) s (reach' path) t fun n s' n' t' =>
      s.LeavesOff compiler files s' t' ∧ n ≤ s'.table.modules.length ∧
        n' = renumber s'.table.modules n

/-- What following calls records in both builds: the template is not recorded, and all others have the
new numbers. -/
structure FollowsTo (modules : List Module) (file : Path)
    (entries entries' : List (Text × ModuleNumber)) : Prop where
  /-- The numbers that are recorded lie within the modules. -/
  le : ∀ e ∈ entries, e.2 ≤ modules.length
  /-- The entries are those of the one build without the template. -/
  eq : entries' = Dependencies.withoutTemplate modules file entries

/-- A target that does not lead to the name of a template is not the one by which a component refers
to its template. -/
theorem isOwnTemplate_eq_false {target : Text}
    (h : (Lookup.targetPath file target).folded.nameEndsWith Source.templateEnding = false) :
    Source.isOwnTemplate file target = false := by
  rw [← Bool.not_eq_true, Source.isOwnTemplate, Bool.and_eq_true, beq_iff_eq]
  rintro ⟨hcomponent, rfl⟩
  have htemplate := Source.nameEndsWith_templatePath hcomponent
  rw [Source.templatePath, ← Lookup.targetPath, h] at htemplate
  cases htemplate

section Lockstep

variable (hapart : TemplatesApart files) (hreach : ReachAlike compiler files reach reach')

include hapart in
/-- A target leads to the same place in both builds. -/
theorem destination_eq_of_compilesTo (lookup : Lookup) (h : s.CompilesTo compiler files t)
    (hplain : (Lookup.targetPath file call.target).folded.nameEndsWith Source.templateEnding = false) :
    destination ⟨lookup, some compiler⟩ t file call.target =
        destination ⟨lookup, none⟩ s file call.target ∧
      ∀ path, destination ⟨lookup, none⟩ s file call.target = .ok (.file path) →
        path.nameEndsWith Source.templateEnding = false ∧
          (s.table.find? path = none → files.isFile path = true) := by
  have hsome := congrArg Option.isSome (h.table.find?_eq _ hplain)
  rw [Option.isSome_map, Option.isSome_map] at hsome
  refine ⟨by simp only [destination, hsome, h.files_eq, h.files_eq'], fun path hdest => ?_⟩
  rcases eq_or_of_destination_eq hdest with ⟨rfl, hfound⟩ | hlookup
  · refine ⟨hplain, fun hnone => ?_⟩
    rw [hnone] at hfound
    cases hfound
  · have hfile := Lookup.isFile_of_file? (Lookup.destination_eq_file_iff.1 hlookup).2
    rw [h.files_eq] at hfile
    exact ⟨hapart.file_ending path hfile, fun _ => hfile⟩

include hapart hreach in
/-- A call is followed alike in both builds. -/
theorem alike_followCall (h : s.CompilesTo compiler files t)
    (hplain : (Lookup.targetPath file call.target).folded.nameEndsWith Source.templateEnding = false) :
    Alike (followCall ⟨lookup, none⟩ reach file call) s
      (followCall ⟨lookup, some compiler⟩ reach' file call) t fun entry s' entry' t' =>
        s.LeavesOff compiler files s' t' ∧
          (∀ e ∈ entry, e.1 = call.target ∧ e.2 ≤ s'.table.modules.length) ∧
          entry' = entry.map fun e => (e.1, renumber s'.table.modules e.2) := by
  obtain ⟨hdest, hpath⟩ := destination_eq_of_compilesTo hapart lookup h hplain
  refine .bind .get ?_
  rintro _ _ _ _ - - ⟨⟨rfl, rfl⟩, rfl, rfl⟩
  refine .bind (.ofExcept (f := id) (by rw [hdest, Option.map_id, id])) ?_
  rintro _ _ destination _ - - ⟨⟨hok, rfl⟩, rfl, rfl⟩
  cases destination with
  | library target => exact .pure ⟨h.leavesOff, nofun, rfl⟩
  | file path =>
    refine .bind (hreach path _ _ h (hpath path hok).1 (hpath path hok).2) ?_
    rintro n s₂ n' t₂ - - ⟨hleaves, hn, rfl⟩
    refine .pure ⟨hleaves, ?_, rfl⟩
    intro e he
    obtain rfl := Option.some.inj he
    exact ⟨rfl, hn⟩

include hapart hreach in
/-- Calls are followed alike in both builds. -/
theorem alike_mapM_followCall (h : s.CompilesTo compiler files t)
    (hplain : ∀ call ∈ calls,
      (Lookup.targetPath file call.target).folded.nameEndsWith Source.templateEnding = false) :
    Alike (calls.mapM (followCall ⟨lookup, none⟩ reach file)) s
      (calls.mapM (followCall ⟨lookup, some compiler⟩ reach' file)) t fun entries s' entries' t' =>
        s.LeavesOff compiler files s' t' ∧
          FollowsTo s'.table.modules file (entries.filterMap id) (entries'.filterMap id) := by
  induction calls generalizing s t with
  | nil =>
    rw [List.mapM_nil, List.mapM_nil]
    exact .pure ⟨h.leavesOff, nofun, rfl⟩
  | cons call calls ih =>
    obtain ⟨hcall, hcalls⟩ := List.forall_mem_cons.1 hplain
    rw [List.mapM_cons, List.mapM_cons]
    refine .bind (alike_followCall hapart hreach h hcall) ?_
    rintro entry s₁ entry' t₁ - - ⟨h₁, hentry, rfl⟩
    refine .bind (ih h₁.state hcalls) ?_
    rintro entries s₂ entries' t₂ - - ⟨h₂, hfollows⟩
    refine .pure ⟨h₁.trans h₂, ?_⟩
    cases entry with
    | none => exact hfollows
    | some e =>
      obtain ⟨htarget, hle⟩ := hentry e rfl
      have hkeep : (!Source.isOwnTemplate file e.1) = true := by
        rw [htarget, isOwnTemplate_eq_false hcall, Bool.not_false]
      constructor
      · exact List.forall_mem_cons.2 ⟨hle.trans h₂.modules.length_le, hfollows.le⟩
      · -- the modules that are added later do not change the number
        refine Eq.trans ?_ (Dependencies.thin_cons_of_pos hkeep).symm
        show (e.1, renumber s₁.table.modules e.2) :: entries'.filterMap id = _
        rw [hfollows.eq, renumber_of_isPrefix h₂.modules hle]
        rfl

include hapart hreach in
/-- Calls are followed alike if one of them stands in the first build only and leads to a template
that is complete. -/
theorem alike_mapM_followCall_template {front back : List Call} {reference : Call}
    (hknown : ∀ {path s found}, s.table.find? path = some found → Gives (reach path) s found.number s)
    (h : s.CompilesTo compiler files t)
    (hplain : ∀ call, call ∈ front ∨ call ∈ back →
      (Lookup.targetPath file call.target).folded.nameEndsWith Source.templateEnding = false)
    (hown : Source.isOwnTemplate file reference.target = true)
    (hholds : ∃ m ∈ s.table.modules,
      m.path.same (Lookup.targetPath file reference.target).folded = true) :
    Alike ((front ++ reference :: back).mapM (followCall ⟨lookup, none⟩ reach file)) s
      ((front ++ back).mapM (followCall ⟨lookup, some compiler⟩ reach' file)) t
      fun entries s' entries' t' => s.LeavesOff compiler files s' t' ∧
        FollowsTo s'.table.modules file (entries.filterMap id) (entries'.filterMap id) := by
  rw [List.mapM_append, List.mapM_append, List.mapM_cons]
  simp only [bind_assoc, pure_bind]
  refine .bind (alike_mapM_followCall hapart hreach h fun call hcall => hplain call (.inl hcall)) ?_
  rintro entries s₁ entries' t₁ - - ⟨h₁, hfollows⟩
  -- the template is complete, so the call of it changes nothing
  obtain ⟨found, hfound⟩ : ∃ found,
      s₁.table.find? (Lookup.targetPath file reference.target).folded = some found := by
    obtain ⟨m, hm, hsame⟩ := hholds
    rw [← Option.ne_none_iff_exists']
    intro hnone
    rw [h₁.state.table.left.find?_eq_none_iff.1 hnone m (h₁.modules.subset hm)] at hsame
    cases hsame
  refine .bind_left (gives_followCall (hknown hfound) hfound) ?_
  refine .bind (alike_mapM_followCall hapart hreach h₁.state fun call hcall =>
    hplain call (.inr hcall)) ?_
  rintro more s₂ more' t₂ - - ⟨h₂, hfollows'⟩
  have hentries : (entries ++ some (reference.target, found.number) :: more).filterMap id =
      entries.filterMap id ++ (reference.target, found.number) :: more.filterMap id := by simp
  refine .pure ⟨h₁.trans h₂, ?_⟩
  rw [hentries, List.filterMap_append]
  constructor
  · intro e he
    rcases List.mem_append.1 he with he | he
    · exact (hfollows.le e he).trans h₂.modules.length_le
    · rcases List.mem_cons.1 he with rfl | he
      · have hmem := (h₁.state.table.left.of_find?_eq_some hfound).1
        exact (h₁.state.table.within _ hmem).number_le.trans h₂.modules.length_le
      · exact hfollows'.le e he
  · rw [Dependencies.withoutTemplate, Dependencies.thin_append,
      Dependencies.thin_cons_of_neg (by simp [hown]), hfollows.eq, hfollows'.eq,
      ← Dependencies.withoutTemplate_of_isPrefix h₂.modules hfollows.le]
    rfl

end Lockstep

/-! ## Files -/

/-- What two builds link a file to: the texts and the dependencies that are recorded. -/
structure LinksTo (compiler : Compiler) (files : FileSystem) (modules : List Module) (file : Path)
    (linked linked' : Text × Dependencies) : Prop where
  /-- The template is compiled into the text. -/
  text : CompilesText compiler files file linked.1 linked'.1
  /-- The numbers that are recorded lie within the modules. -/
  le : ∀ entry ∈ linked.2, entry.2 ≤ modules.length
  /-- The template is not recorded, and all others have the new numbers. -/
  dependencies : linked'.2 = linked.2.withoutTemplate modules file

variable {modules : List Module} {entries entries' : List (Text × ModuleNumber)} {text' : Text}

/-- What is recorded, without the template and with the new numbers. -/
theorem LinksTo.of_entries (htext : CompilesText compiler files file text text')
    (hfollows : FollowsTo modules file entries entries') :
    LinksTo compiler files modules file (text, Dependencies.ofList entries)
      (text', Dependencies.ofList entries') where
  text := htext
  le := fun e he => hfollows.le e (Dependencies.mem_of_mem_ofList he)
  dependencies := by
    rw [hfollows.eq]
    exact Dependencies.ofList_thin ..

section Lockstep

variable (hapart : TemplatesApart files) (hreach : ReachAlike compiler files reach reach')
  (hof : Source.IsOf files file source)

include hapart hreach hof

/-- A file without a template is linked alike in both builds. -/
theorem alike_linkSpans_of_none (h : s.CompilesTo compiler files t) (hnone : source.template = none) :
    Alike (linkSpans ⟨lookup, none⟩ reach file (source.spans [])) s
      (linkSpans ⟨lookup, some compiler⟩ reach' file (source.spans [])) t
      fun linked s' linked' t' => s.LeavesOff compiler files s' t' ∧
        LinksTo compiler files s'.table.modules file linked linked' := by
  have hclosing : source.closing = [] := by
    obtain ⟨-, text, -, hsource⟩ := hof
    exact Source.closing_eq_nil hsource hnone
  have hparts (compiling : Bool) :
      Part.ofSpans compiling (source.spans []) = (source.spans []).map Part.ofSpan := by
    rw [Source.spans_eq, hclosing, List.flatMap_nil, List.append_nil, List.append_nil]
    exact Part.ofSpans_of_optionFree (hapart.optionFree file source hof).1
  have hcalls : ∀ call ∈ (source.spans []).filterMap Span.call?,
      call ∈ source.openingCalls ∨ call ∈ source.closingCalls := by
    intro call hcall
    rw [Source.filterMap_call?_spans] at hcall
    simpa using hcall
  have htext : CompilesText compiler files file ((source.spans []).flatMap Span.text)
      ((source.spans []).flatMap Span.text) := by
    refine ⟨fun markup hmarkup => ?_, fun _ => rfl⟩
    rw [hof.hasTemplate_iff, hnone] at hmarkup
    cases hmarkup
  rw [linkSpans_eq (hparts _), linkSpans_eq (hparts _)]
  refine .mono (.map (alike_mapM_followCall hapart hreach h fun call hcall =>
    hapart.target_ending file source call hof (Source.require_mem_spans (hcalls call hcall)))) ?_
  rintro _ s' _ t' - - ⟨entries, entries', ⟨hleaves, hfollows⟩, rfl, rfl⟩
  exact ⟨hleaves, .of_entries htext hfollows⟩

/-- A component is linked alike in both builds if its template is in the table of the first one. -/
theorem alike_linkSpans_of_template
    (hknown : ∀ {path s found}, s.table.find? path = some found → Gives (reach path) s found.number s)
    (h : s.CompilesTo compiler files t) {markup : Text} {functions : RenderFunctions}
    (htemplate : source.template = some markup)
    (hrun : ((compiler markup).run.run files).1 = .ok functions)
    (hholds : ∃ m ∈ s.table.modules, m.path.same (Source.templatePath file) = true) :
    Alike (linkSpans ⟨lookup, none⟩ reach file
        (source.spans [.line (Source.templateReference file)])) s
      (linkSpans ⟨lookup, some compiler⟩ reach' file
        (source.spans [.verbatim functions.optionText, .verbatim [',']])) t
      fun linked s' linked' t' => s.LeavesOff compiler files s' t' ∧
        LinksTo compiler files s'.table.modules file linked linked' := by
  obtain ⟨reference, htarget, htokens⟩ := hapart.tokens_templateReference hof htemplate
  have hplain (call : Call) (hcall : call ∈ source.openingCalls ∨ call ∈ source.closingCalls) :=
    hapart.target_ending file source call hof (Source.require_mem_spans hcall)
  have hparts : Part.ofSpans true
      (source.spans [.verbatim functions.optionText, .verbatim [',']]) =
      (source.spans [.verbatim functions.optionText, .verbatim [',']]).map Part.ofSpan := by
    rw [Source.spans_eq, Source.flatMap_tokens_compiled]
    obtain ⟨hopening, hclosing⟩ := hapart.optionFree file source hof
    exact Part.ofSpans_of_optionFree (hopening.insert hclosing functions.optionText)
  have hcalls : (source.spans [.line (Source.templateReference file)]).filterMap Span.call? =
      source.openingCalls ++ reference :: source.closingCalls := by
    rw [Source.filterMap_call?_spans, List.flatMap_singleton, htokens, List.filterMap_append,
      Token.filterMap_call?_map_char]
    rfl
  have hcalls' : (source.spans
        [.verbatim functions.optionText, .verbatim [',']]).filterMap Span.call? =
      source.openingCalls ++ source.closingCalls := by
    rw [Source.filterMap_call?_spans, Source.flatMap_tokens_compiled,
      Token.filterMap_call?_map_char, List.nil_append]
  have hleft : linkSpans ⟨lookup, none⟩ reach file
      (source.spans [.line (Source.templateReference file)]) = _ :=
    linkSpans_eq (Part.ofSpans_false _)
  rw [hleft, linkSpans_eq (l := ⟨lookup, some compiler⟩) hparts, hcalls, hcalls']
  have hown : Source.isOwnTemplate file reference.target = true := by
    rw [htarget, Source.isOwnTemplate, hof.isComponent htemplate]
    simp
  refine .mono (.map (alike_mapM_followCall_template hapart hreach hknown h hplain hown ?_)) ?_
  · rw [htarget]
    exact hholds
  · rintro _ s' _ t' - - ⟨entries, entries', ⟨hleaves, hfollows⟩, rfl, rfl⟩
    exact ⟨hleaves, .of_entries (hof.compilesText htemplate hrun) hfollows⟩

end Lockstep

end Linker

end ScriptBundle

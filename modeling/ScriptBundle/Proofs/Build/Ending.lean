/-
# How modules end

The text of a module goes into the bundle as it is, and what closes its function comes directly
behind it.  So a text that ends in a comment takes the end of its module into the comment.  A module
ends in a comment only if its file does, or a text that the build puts in; and a script that is
bundled as it is ends in a comment exactly if its file does.

## Main content

- `Linker.Inserts` lists the texts that a build puts into modules.
- `Linker.Writes` says what is written for a part of a file, and `Linker.Links.writes` that linking
  does so.
- `LineState.Tracks` compares a text with one into which texts were put;
  `Linker.tracks_ofSpans` is the invariant along the spans of a file.
- `Linker.endsInComment_of_graph`: which modules end in comments, and what becomes of them in the
  bundle.
-/
import ScriptBundle.Bundle.Printer
import ScriptBundle.Proofs.Build.Linking
import ScriptBundle.Proofs.Component.ScriptLines
import ScriptBundle.Proofs.Markup.Literal
import ScriptBundle.Proofs.Require.LastLine

namespace ScriptBundle

open LineState (IsCodeChar blank)
open Text (EndsInComment)

/-! ## Texts that are put in -/

/-- A text has code at both of its ends. -/
def Text.IsCode (s : Text) : Prop :=
  (∃ c, s.head? = some c ∧ IsCodeChar c) ∧ ∃ c, s.getLast? = some c ∧ IsCodeChar c

/-- The options of a compiled template are code. -/
theorem RenderFunctions.isCode_optionText (functions : RenderFunctions) :
    Text.IsCode functions.optionText := by
  refine ⟨⟨'r', rfl, by decide, by decide⟩, ?_⟩
  unfold optionText
  by_cases hstatics : functions.statics = []
  · refine ⟨'}', ?_, by decide, by decide⟩
    unfold function
    rw [if_pos hstatics, List.append_nil, ← List.append_assoc, List.getLast?_concat]
  · refine ⟨']', ?_, by decide, by decide⟩
    rw [if_neg hstatics, ← List.append_assoc, List.getLast?_concat]

/-- A reference to a template is code. -/
theorem Source.isCode_templateReference (component : Path) :
    Text.IsCode (templateReference component) := by
  refine ⟨⟨'t', rfl, by decide, by decide⟩, ⟨',', ?_, by decide, by decide⟩⟩
  rw [templateReference, List.getLast?_append_of_ne_nil _ (by decide)]
  rfl

/-- A text that is exported has a newline at its end. -/
theorem Literal.not_endsInComment_exportText (s : Text) : ¬ EndsInComment (exportText s) := by
  rw [Text.endsInComment_iff]
  unfold exportText
  rw [LineState.after_append]
  rintro ⟨⟩

namespace LineState

variable {state state' : LineState} {s t : Text} {P : Prop}

/-- Behind code there is code or a comment. -/
theorem after_of_isCode (h : s.IsCode) (state : LineState) :
    state.after s = .code ∨ state.after s = .comment := by
  obtain ⟨-, c, hlast, hc⟩ := h
  obtain ⟨front, rfl⟩ := List.getLast?_eq_some_iff.1 hlast
  exact hc.after_concat

/-- Behind code there is no single slash. -/
theorem after_ne_slash (h : s.IsCode) (state : LineState) : state.after s ≠ .slash := by
  rcases after_of_isCode h state with hafter | hafter <;> rw [hafter] <;> nofun

/-- What stands behind code on the same line does not change how it ends. -/
theorem after_after_of_isCode (h : s.IsCode) (ht : '\n' ∉ t) (state : LineState) :
    (state.after s).after t = state.after s := by
  rcases after_of_isCode h state with hafter | hafter
  · rw [hafter, code_after ht]
  · rw [hafter, comment_after ht]

/-- Code ends in a comment only if it begins in one, or ends in one by itself. -/
theorem endsInComment_of_isCode (h : s.IsCode) (hafter : state.after s = .comment) :
    state = .comment ∨ EndsInComment s := by
  obtain ⟨⟨c, hhead, hc⟩, -⟩ := h
  obtain ⟨rest, rfl⟩ := List.head?_eq_some_iff.1 hhead
  rw [Text.endsInComment_iff]
  exact hc.after_eq_comment hafter

/-- A text into which others were put, beside the first one: it ends as the first one does, or in
code, or in a comment for a reason of its own. -/
def Tracks (P : Prop) (state state' : LineState) : Prop :=
  state' = state ∨ state' = .code ∨ state' = .comment ∧ P

/-- The same text behind both keeps this up: a newline starts both over. -/
theorem Tracks.after (h : Tracks P state state') (s : Text) :
    Tracks P (state.after s) (state'.after s) := by
  induction s generalizing state state' with
  | nil => exact h
  | cons c s ih =>
    apply ih
    by_cases hc : c = '\n'
    · rw [hc]
      exact .inl rfl
    · rcases h with rfl | rfl | ⟨rfl, hP⟩
      · exact .inl rfl
      · exact .inr (.inl (by rw [step, if_neg hc]))
      · exact .inr (.inr ⟨by rw [step, if_neg hc], hP⟩)

/-- Code may take the place of code without newlines, if ending in a comment is a reason. -/
theorem Tracks.replace (h : Tracks P state state') (hs : '\n' ∉ s) (ht : t.IsCode)
    (hP : EndsInComment t → P) :
    Tracks P (state.after s) (state'.after t) := by
  rcases after_of_isCode ht state' with hafter | hafter
  · exact .inr (.inl hafter)
  · rcases endsInComment_of_isCode ht hafter with rfl | hends
    · rcases h with rfl | hcase | ⟨-, hreason⟩
      · rw [comment_after hs]
        exact .inl hafter
      · cases hcase
      · exact .inr (.inr ⟨hafter, hreason⟩)
    · exact .inr (.inr ⟨hafter, hP hends⟩)

end LineState

namespace Linker

variable {l : Linker} {files : FileSystem} {root file : Path} {s s' : BuildState} {m : Module}
  {spans : List Span} {parts : List Part} {linked : List Linked} {link : Linked} {text : Text}

/-- The texts that a build puts into modules: references to templates, or compiled templates. -/
inductive Inserts (l : Linker) (files : FileSystem) : Text → Prop
  | reference (component : Path) (hcompiler : l.compiler = none) :
    Inserts l files (Source.templateReference component)
  | compiled {compiler : Compiler} {markup : Text} {now : FileSystem} {functions : RenderFunctions}
    (hcompiler : l.compiler = some compiler) (hnow : l.Becomes files now)
    (hrun : ((compiler markup).run.run now).1 = .ok functions) :
    Inserts l files functions.optionText

/-- What a build puts into modules is code. -/
theorem Inserts.isCode (h : l.Inserts files text) : text.IsCode := by
  cases h with
  | reference component _ => exact Source.isCode_templateReference component
  | compiled _ _ _ => exact RenderFunctions.isCode_optionText _

/-- A text that a build puts into modules ends in a comment. -/
def InsertsComment (l : Linker) (files : FileSystem) : Prop :=
  ∃ text, l.Inserts files text ∧ EndsInComment text

/-! ## What is written for the parts of a file -/

/-- What is written for a part of a file: the part itself, or a compiled template. -/
inductive Writes (l : Linker) (files : FileSystem) : Part → Text → Prop
  | copy {text : Text} : Writes l files (.copy text) text
  | follow {call : Call} : Writes l files (.follow call) call.text
  | inline {target text : Text} (hinserts : l.compiler.isSome = true → l.Inserts files text) :
    Writes l files (.inline target) text

/-- With a compiler, what is written in place is put in. -/
theorem Writes.inserts {target : Text} (h : l.Writes files (.inline target) text)
    (hcompiler : l.compiler.isSome = true) : l.Inserts files text := by
  cases h with
  | inline hinserts => exact hinserts hcompiler

/-- A compiled template is put in. -/
theorem inserts_of_gives_inlineText {target : Text} (hfiles : l.Becomes files s.files)
    (hcompiler : l.compiler.isSome = true)
    (h : Build.Gives (l.inlineText file target) s text s') : l.Inserts files text := by
  obtain ⟨compiler, hcompiler⟩ := Option.isSome_iff_exists.1 hcompiler
  obtain ⟨markup, functions, -, hrun, -, rfl⟩ := of_gives_inlineText hcompiler h
  exact .compiled hcompiler hfiles (congrArg Prod.fst hrun)

/-- What is written for a part that enters no file. -/
theorem Settles.writes {part : Part} (h : l.Settles s file part link s')
    (hfiles : l.Becomes files s.files) : l.Writes files part link.text := by
  cases h with
  | copy => exact .copy
  | inline htext =>
    exact .inline fun hcompiler => inserts_of_gives_inlineText hfiles hcompiler htext
  | library _ => exact .follow
  | complete _ _ => exact .follow

/-- What is written for the parts of a file. -/
theorem Links.writes (h : l.Links s file parts linked s') (hfiles : l.Becomes files s.files) :
    List.Forall₂ (l.Writes files) parts (linked.map Linked.text) := by
  induction h with
  | nil => exact .nil
  | settle hpart _ ih =>
    exact .cons (hpart.writes hfiles) (ih (hfiles.trans hpart.grows.files))
  | enter _ _ hopens hinner _ _ ih =>
    exact .cons .follow (ih ((hfiles.trans hopens.grows.files).trans hinner.grows.files))

/-- Without a compiler all spans are written as they are. -/
theorem flatten_of_writes {texts : List Text}
    (h : List.Forall₂ (l.Writes files) (Part.ofSpans false spans) texts) :
    texts.flatten = spans.flatMap Span.text := by
  fun_induction Part.ofSpans false spans generalizing texts with
  | case1 =>
    cases h
    rfl
  | case2 _ _ _ _ hfront => cases hfront
  | case3 text call spans _ ih =>
    cases h with
    | cons hcopy hrest =>
      cases hrest with
      | cons hfollow hrest =>
        cases hcopy
        cases hfollow
        rw [List.flatten_cons, List.flatten_cons, ih hrest]
        rfl
  | case4 text spans _ ih =>
    cases h with
    | cons hcopy hrest =>
      cases hcopy
      rw [List.flatten_cons, ih hrest]
      rfl
  | case5 call spans ih =>
    cases h with
    | cons hfollow hrest =>
      cases hfollow
      rw [List.flatten_cons, ih hrest]
      rfl

/-- What is written for the spans of a file, beside the spans: compiled templates take the place of
calls and of the words in front of them. -/
theorem tracks_ofSpans {texts : List Text}
    (h : List.Forall₂ (l.Writes files) (l.partsOf spans) texts)
    (hcalls : ∀ call, .require call ∈ spans → call.IsWritten) {state state' : LineState}
    (htracks : LineState.Tracks (l.InsertsComment files) state state') :
    LineState.Tracks (l.InsertsComment files) (state.after (spans.flatMap Span.text))
      (state'.after texts.flatten) := by
  unfold partsOf at h
  fun_induction Part.ofSpans l.compiler.isSome spans generalizing texts state state' with
  | case1 =>
    cases h
    exact htracks
  | case2 text call spans front hfront ih =>
    cases h with
    | cons hcopy hrest =>
      cases hrest with
      | cons hinline hrest =>
        cases hcopy
        rw [Option.ite_none_right_eq_some] at hfront
        obtain ⟨hcompiler, hfront⟩ := hfront
        obtain rfl := Part.before?_eq_some_iff.1 hfront
        have hinserts := hinline.inserts hcompiler
        -- the compiled template takes the place of these two, which have no newline
        have hnewline : '\n' ∉ Part.templateOption ++ call.text :=
          List.not_mem_append (by decide)
            (hcalls call (List.mem_cons_of_mem _ (List.mem_cons_self ..))).newline_not_mem
        have hreplaced := (htracks.after front).replace hnewline hinserts.isCode fun hends =>
          ⟨_, hinserts, hends⟩
        have hbehind := ih hrest (fun other hother =>
          hcalls other (List.mem_cons_of_mem _ (List.mem_cons_of_mem _ hother))) hreplaced
        simpa [Span.text, LineState.after_append] using hbehind
  | case3 text call spans _ ih =>
    cases h with
    | cons hcopy hrest =>
      cases hrest with
      | cons hfollow hrest =>
        cases hcopy
        cases hfollow
        have hbehind := ih hrest (fun other hother =>
          hcalls other (List.mem_cons_of_mem _ (List.mem_cons_of_mem _ hother)))
          ((htracks.after text).after call.text)
        simpa [Span.text, LineState.after_append] using hbehind
  | case4 text spans _ ih =>
    cases h with
    | cons hcopy hrest =>
      cases hcopy
      have hbehind := ih hrest (fun other hother => hcalls other (List.mem_cons_of_mem _ hother))
        (htracks.after text)
      simpa [Span.text, LineState.after_append] using hbehind
  | case5 call spans ih =>
    cases h with
    | cons hfollow hrest =>
      cases hfollow
      have hbehind := ih hrest (fun other hother => hcalls other (List.mem_cons_of_mem _ hother))
        (htracks.after call.text)
      simpa [Span.text, LineState.after_append] using hbehind

/-! ## Modules of files -/

/-- If nothing is put in, the text of a module is that of its spans. -/
theorem IsFileModule.text_of_partsOf (h : l.IsFileModule files root m spans)
    (hparts : l.partsOf spans = Part.ofSpans false spans) : m.text = spans.flatMap Span.text := by
  obtain ⟨s, linked, s', henters, ⟨s₁, hopens, hlinks⟩, hmodule⟩ := h
  have hwrites := hlinks.writes (henters.becomes.trans hopens.grows.files)
  rw [hparts] at hwrites
  rw [hmodule, ← flatten_of_writes hwrites]
  exact List.flatMap_def.symm

/-- Without a compiler the text of a module is that of its spans. -/
theorem IsFileModule.text_eq (h : l.IsFileModule files root m spans) (hcompiler : l.compiler = none) :
    m.text = spans.flatMap Span.text :=
  h.text_of_partsOf (by rw [partsOf, hcompiler, Option.isSome_none])

/-- A module ends in a comment only if its spans do, or a text that is put in. -/
theorem IsFileModule.endsInComment (h : l.IsFileModule files root m spans)
    (hm : EndsInComment m.text) :
    EndsInComment (spans.flatMap Span.text) ∨ l.InsertsComment files := by
  obtain ⟨now, text, source, filling, -, hreads, hspans⟩ := h.reads
  obtain ⟨s, linked, s', henters, ⟨s₁, hopens, hlinks⟩, hmodule⟩ := h
  have hwrites := hlinks.writes (henters.becomes.trans hopens.grows.files)
  have hcalls : ∀ call, .require call ∈ spans → call.IsWritten := by
    rw [hspans]
    exact fun call hcall => Span.isWritten_of_require_mem hcall
  have htext : m.text = (linked.map Linked.text).flatten := by
    rw [hmodule]
    exact List.flatMap_def
  rw [htext, Text.endsInComment_iff] at hm
  rw [Text.endsInComment_iff]
  rcases tracks_ofSpans hwrites hcalls (.inl (rfl : blank = blank)) with heq | hcode | ⟨-, hinserts⟩
  · rw [heq] at hm
    exact .inl hm
  · rw [hcode] at hm
    cases hm
  · exact .inr hinserts

/-- What fills the slot of a template is a text that is put in, with nothing but a comma behind it. -/
theorem Fills.exists_inserts {now : FileSystem} {markup : Text} {filling : List Piece}
    (h : l.Fills now file (some markup) filling) (hnow : l.Becomes files now) :
    ∃ inserted rest, l.Inserts files inserted ∧ '\n' ∉ rest ∧
      filling.flatMap Piece.text = inserted ++ rest := by
  cases h with
  | reference hcompiler =>
    exact ⟨_, [], .reference file hcompiler, List.not_mem_nil, by simp [Piece.text]⟩
  | compiled hcompiler hrun =>
    exact ⟨_, [','], .compiled hcompiler hnow hrun, by decide, by simp [Piece.text]⟩

/-- The spans of a file end in a comment only if the file does, or a text that is put in.  Markup ends
in none. -/
theorem Reads.endsInComment {now : FileSystem} {source : Source} {filling : List Piece}
    (h : l.Reads now file text source filling) (hnow : l.Becomes files now)
    (hends : EndsInComment ((source.spans filling).flatMap Span.text)) :
    FileKind.ofPath file ≠ .markup ∧ EndsInComment text ∨ l.InsertsComment files := by
  have hfills := h.fills
  rw [Source.spans, Span.text_ofPieces, List.flatMap_append, List.flatMap_append,
    Text.endsInComment_iff, LineState.after_append, LineState.after_append] at hends
  rw [Text.endsInComment_iff]
  by_cases hkind : FileKind.ofPath file = .markup
  · -- the exported string has its newline
    exfalso
    have hsource := h.source_eq
    rw [Source.read, hkind] at hsource
    obtain rfl := Except.ok.inj hsource
    cases hfills
    simp only [List.flatMap_cons, List.flatMap_nil, Piece.text, List.append_nil,
      LineState.after_nil] at hends
    exact Literal.not_endsInComment_exportText text (Text.endsInComment_iff.2 hends)
  · obtain ⟨front, back, hopening, hclosing, hfront, hback, hbare⟩ :=
      Source.lines_of_read hkind h.source_eq
    rw [hopening, hclosing, Piece.text_map_line, Piece.text_map_line] at hends
    cases htemplate : source.template with
    | none =>
      rw [htemplate] at hfills
      cases hfills
      rw [hbare htemplate] at hends
      exact .inl ⟨hkind, Text.after_eq_comment_of_sublist hfront hends⟩
    | some markup =>
      rw [htemplate] at hfills
      obtain ⟨inserted, rest, hinserts, hrest, hfilling⟩ := hfills.exists_inserts hnow
      have hcode := hinserts.isCode
      rw [hfilling, LineState.after_append, LineState.after_after_of_isCode hcode hrest] at hends
      rcases LineState.after_eq_comment (LineState.after_ne_slash hcode _) hends with
        hcomment | hcomment
      · rcases LineState.endsInComment_of_isCode hcode hcomment with hfile | hinserted
        · exact .inl ⟨hkind, Text.after_eq_comment_of_sublist hfront hfile⟩
        · exact .inr ⟨inserted, hinserts, hinserted⟩
      · exact .inl ⟨hkind, Text.after_eq_comment_of_sublist hback hcomment⟩

/-- The spans of a script make up its text. -/
theorem Reads.text_of_script {source : Source} {filling : List Piece}
    (h : l.Reads files file text source filling) (hkind : FileKind.ofPath file = .script) :
    (source.spans filling).flatMap Span.text = text := by
  rw [h.spans_of_script hkind, Span.text_ofText]

end Linker

/-! ## Modules in the bundle -/

/-- A literal is written on one line. -/
theorem Literal.newline_not_mem_quote (s : Text) : '\n' ∉ quote s := by
  have hescape : '\n' ∉ escape s := lineBreak_not_mem_escape (by decide) s
  exact List.not_mem_cons_of_ne_of_not_mem (by decide) (List.not_mem_append hescape (by decide))

namespace Bundle

/-- A character that is in no text and not between them is not in the joined text. -/
theorem not_mem_join {c : Char} {separator : Text} {texts : List Text} (hseparator : c ∉ separator)
    (htexts : ∀ text ∈ texts, c ∉ text) : c ∉ Text.join separator texts := by
  induction texts with
  | nil => simp [Text.join]
  | cons text texts ih =>
    have htext := htexts text (List.mem_cons_self ..)
    have hrest := ih fun other hother => htexts other (List.mem_cons_of_mem _ hother)
    cases texts with
    | nil => simpa [Text.join] using htext
    | cons next texts =>
      simp only [Text.join, List.intercalate_cons_cons, List.mem_append, not_or] at hrest ⊢
      exact ⟨⟨htext, hseparator⟩, hrest⟩

/-- The dependencies of a module are written on one line. -/
theorem newline_not_mem_dependenciesText (dependencies : Dependencies) :
    '\n' ∉ dependenciesText dependencies := by
  have hnumber (n : Nat) : '\n' ∉ Text.ofNat n := fun hmem =>
    absurd (Nat.isDigit_of_mem_toDigits (by decide) (by decide) hmem) (by decide)
  have hentries : ∀ text ∈ dependencies.map dependencyText, '\n' ∉ text := by
    intro text htext
    obtain ⟨entry, -, rfl⟩ := List.mem_map.1 htext
    exact List.not_mem_append
      (List.not_mem_append (Literal.newline_not_mem_quote entry.1) (by decide)) (hnumber _)
  exact List.not_mem_cons_of_ne_of_not_mem (by decide)
    (List.not_mem_append (not_mem_join (by decide) hentries) (by decide))

/-- A module whose text ends in a comment ends in this comment itself, if the text has a newline. -/
theorem endsInComment_moduleText {m : Module} (h : EndsInComment m.text) (hnewline : '\n' ∈ m.text) :
    EndsInComment (moduleText m) := by
  rw [Text.endsInComment_iff] at *
  have hclosing : '\n' ∉ ['}', ','] ++ (dependenciesText m.dependencies ++ [']']) :=
    List.not_mem_append (by decide)
      (List.not_mem_append (newline_not_mem_dependenciesText _) (by decide))
  simp only [moduleText, List.append_assoc] at hclosing ⊢
  rw [← List.append_assoc, LineState.after_append, LineState.after_append,
    LineState.after_eq_of_mem hnewline _ blank, h, LineState.comment_after hclosing]

end Bundle

/-! ## Which modules end in comments -/

namespace Linker

variable {l : Linker} {files : FileSystem} {root : Path}

/-- A module ends in a comment only if its file does, and is no markup, or a text that the build puts
into modules.  Without a compiler, a script ends in a comment exactly if its file does.  If a module of
several lines ends in a comment, then what closes its function in the bundle belongs to the comment. -/
theorem endsInComment_of_graph {g : ModuleGraph} (h : (l.graph files root).1 = .ok g) :
    (∀ m ∈ g.modules, EndsInComment m.text →
      (∃ now text, l.Becomes files now ∧ now.readText m.path = .ok text ∧
        FileKind.ofPath m.path ≠ .markup ∧ EndsInComment text) ∨
      ∃ text, l.Inserts files text ∧ EndsInComment text) ∧
    (l.compiler = none → ∀ m spans, l.IsFileModule files root m spans →
      FileKind.ofPath m.path = .script → ∃ text, files.readText m.path = .ok text ∧
        (EndsInComment m.text ↔ EndsInComment text)) ∧
    (∀ m ∈ g.modules, EndsInComment m.text → '\n' ∈ m.text →
      EndsInComment (Bundle.moduleText m)) := by
  obtain ⟨final, hfinal, rfl⟩ := completes_of_graph h
  refine ⟨?_, ?_, fun m _ hends hnewline => Bundle.endsInComment_moduleText hends hnewline⟩
  · intro m hm hends
    rcases hfinal.origin hm with ⟨spans, hfile⟩ | ⟨s, component, markup, -, rfl⟩
    · obtain ⟨now, text, source, filling, hnow, hreads, rfl⟩ := hfile.reads
      rcases hfile.endsInComment hends with hspans | hinserts
      · rcases hreads.endsInComment hnow hspans with ⟨hkind, htext⟩ | hinserts
        · exact .inl ⟨now, text, hnow, hreads.text_eq, hkind, htext⟩
        · exact .inr hinserts
      · exact .inr hinserts
    · exact absurd hends (Literal.not_endsInComment_exportText markup)
  · intro hcompiler m spans hfile hkind
    obtain ⟨now, text, source, filling, hnow, hreads, rfl⟩ := hfile.reads
    obtain rfl := (keepsFiles_of_compiler_eq_none hcompiler files).eq_of_becomes hnow
    refine ⟨text, hreads.text_eq, ?_⟩
    rw [hfile.text_eq hcompiler, hreads.text_of_script hkind]

/-- A script whose last line is a comment without a newline. -/
def commentTree : FileSystem := sampleFiles [("a.js", "module.exports = 1;\n// end")]

/-- The graph of this script. -/
def commentGraph : ModuleGraph where
  modules := [⟨1, ⟨"a.js".toList⟩, "module.exports = 1;\n// end".toList, []⟩]
  entry := 1
  styles := []

/-- The script gives its graph. -/
theorem graph_commentTree :
    (Linker.graph {} commentTree ⟨"a.js".toList⟩).1 = .ok commentGraph := by
  decide +kernel

/-- In the bundle, the end of the module belongs to the comment. -/
theorem moduleText_commentTree :
    (Linker.graph {} commentTree ⟨"a.js".toList⟩).1 = .ok commentGraph ∧
      ∃ m ∈ commentGraph.modules, EndsInComment (Bundle.moduleText m) := by
  have hm := List.mem_of_getElem? (rfl : commentGraph.modules[0]? = some _)
  exact ⟨graph_commentTree, _, hm, (endsInComment_of_graph graph_commentTree).2.2 _ hm
    ⟨"// end".toList, by decide, by decide, by decide⟩ (by decide)⟩

/-- A module can end in a comment. -/
theorem exists_endsInComment :
    (Linker.graph {} commentTree ⟨"a.js".toList⟩).1 = .ok commentGraph ∧
      ∃ m ∈ commentGraph.modules, EndsInComment m.text :=
  ⟨graph_commentTree, _, List.mem_of_getElem? (rfl : commentGraph.modules[0]? = some _),
    "// end".toList, by decide, by decide, by decide⟩

end Linker

end ScriptBundle

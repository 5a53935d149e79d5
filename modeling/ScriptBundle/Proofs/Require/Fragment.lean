/-
# Scripts whose templates are compiled

In a script whose templates are compiled, a call directly behind the words of a template option is
replaced together with these words, and everything else is kept.  Whether a call stands there can be told
from the plain text in front of it: what comes before this text ends with a call or with a compiled
template, so with a character that the option does not have, and no option reaches over it.

## Main content

- `Text.Sealed` says that no template option reaches over the end of a text;
  `Part.before?_append_of_sealed` looks for an option behind such a text.
- `Fragment` is a piece of a script, with what it becomes in the module.
- `Fragment.Shows` says what fragments show of a script, and `Fragment.exists_shows` that the parts of
  every script make up such fragments.
-/
import ScriptBundle.Linker
import ScriptBundle.Proofs.Require.Incremental
import ScriptBundle.Proofs.Require.Options

namespace ScriptBundle

/-! ## Texts over which no option reaches -/

namespace Text

variable {s : Text}

/-- No template option reaches over the end of a text: its last character is none of those in the words
of an option. -/
def Sealed (s : Text) : Prop := ∀ c, s.getLast? = some c → c ∉ Part.templateOption

/-- No option begins in a text without characters. -/
theorem sealed_nil : Sealed [] := nofun

/-- A character that the words of an option do not have seals a text in front of it. -/
theorem sealed_concat {c : Char} (h : c ∉ Part.templateOption) (s : Text) : Sealed (s ++ [c]) := by
  intro last hlast
  rw [List.getLast?_concat] at hlast
  obtain rfl := Option.some.inj hlast
  exact h

/-- Whether a text ends with the words of a template option is decided behind a sealed text. -/
theorem Sealed.suffix_append_iff (h : Sealed s) (t : Text) :
    Part.templateOption <:+ s ++ t ↔ Part.templateOption <:+ t := by
  refine ⟨fun hsuffix => ?_, fun hsuffix => hsuffix.trans (List.suffix_append s t)⟩
  rcases List.eq_nil_or_concat s with rfl | ⟨front, c, rfl⟩
  · exact hsuffix
  · rw [List.concat_eq_append, List.append_assoc, List.singleton_append] at hsuffix
    exact Token.suffix_of_suffix_append_cons hsuffix (h c (by simp))

/-- A sealed text does not end with the words of a template option. -/
theorem Sealed.not_suffix (h : Sealed s) : ¬ Part.templateOption <:+ s := by
  intro hsuffix
  have hnil := (h.suffix_append_iff []).1 (by rwa [List.append_nil])
  exact absurd (List.suffix_nil.1 hnil) (by decide)

end Text

open Text (Sealed)

/-- A call seals the text that it ends. -/
theorem Call.IsWritten.sealed {call : Call} (h : call.IsWritten) (s : Text) :
    Sealed (s ++ call.text) := by
  obtain ⟨left, right, semicolon, -, -, -, -, htext⟩ := h
  cases semicolon with
  | true =>
    have hlast : call.text = opening ++ left :: call.target ++ [right, ')'] ++ [';'] := htext
    rw [hlast, ← List.append_assoc]
    exact Text.sealed_concat (c := ';') (by decide) _
  | false =>
    have hlast : call.text = opening ++ left :: call.target ++ [right] ++ [')'] := by
      simpa [write] using htext
    rw [hlast, ← List.append_assoc]
    exact Text.sealed_concat (c := ')') (by decide) _

/-- A compiled template seals the text that it ends. -/
theorem RenderFunctions.sealed_optionText (functions : RenderFunctions) (s : Text) :
    Sealed (s ++ functions.optionText) := by
  obtain ⟨front, c, hlast, hc⟩ : ∃ front c, functions.optionText = front ++ [c] ∧
      c ∉ Part.templateOption := by
    unfold optionText
    by_cases hstatics : functions.statics = []
    · unfold function
      rw [if_pos hstatics, List.append_nil, ← List.append_assoc]
      exact ⟨_, '}', rfl, by decide⟩
    · rw [if_neg hstatics, ← List.append_assoc]
      exact ⟨_, ']', rfl, by decide⟩
  rw [hlast, ← List.append_assoc]
  exact Text.sealed_concat hc _

namespace Part

/-- What stands in front of an option behind a sealed text has this text in front. -/
theorem before?_append_of_sealed {s : Text} (h : Sealed s) (t : Text) :
    before? templateOption (s ++ t) = (before? templateOption t).map (s ++ ·) := by
  apply Option.ext
  intro front
  rw [Option.map_eq_some_iff, before?_eq_some_iff]
  constructor
  · intro heq
    obtain ⟨rest, rfl⟩ := (h.suffix_append_iff t).1 ⟨front, heq.symm⟩
    rw [← List.append_assoc] at heq
    exact ⟨rest, before?_eq_some_iff.2 rfl, List.append_cancel_right heq⟩
  · rintro ⟨rest, hrest, rfl⟩
    rw [before?_eq_some_iff.1 hrest, List.append_assoc]

/-- A sealed text has no option at its end. -/
theorem before?_eq_none_of_sealed {s : Text} (h : Sealed s) : before? templateOption s = none := by
  rw [Option.eq_none_iff_forall_ne_some]
  intro front hfront
  exact h.not_suffix ⟨front, (before?_eq_some_iff.1 hfront).symm⟩

end Part

/-! ## Canonical spans taken apart -/

namespace Span

variable {span : Span} {spans : List Span} {text : Text}

/-- The spans behind the first one are canonical. -/
theorem Canonical.tail (h : Canonical (span :: spans)) : Canonical spans :=
  ⟨fun text htext => h.ne_nil text (List.mem_cons_of_mem _ htext), h.apart.tail⟩

/-- Behind plain text comes a call, or nothing. -/
theorem Canonical.eq_nil_of_not_require (h : Canonical (.plain text :: spans))
    (hother : ∀ call rest, spans = .require call :: rest → False) : spans = [] := by
  cases spans with
  | nil => rfl
  | cons span rest =>
    cases span with
    | require call => exact absurd rfl (hother call rest)
    | plain other =>
      exact absurd ⟨rfl, rfl⟩ (List.isChain_cons_cons.1 h.apart).1

end Span

/-! ## Fragments -/

/-- A piece of a script, with what it becomes in a module. -/
inductive Fragment where
  /-- Text that is kept. -/
  | kept (text : Text)
  /-- A call that is kept, and the number of the module that it leads to, unless it leads to none. -/
  | followed (call : Call) (number : Option ModuleNumber)
  /-- A call behind the words of a template option, and the text that takes the place of both. -/
  | replaced (call : Call) (text : Text)
  deriving DecidableEq

namespace Fragment

/-- The text of a fragment in the script. -/
def source : Fragment → Text
  | kept text => text
  | followed call _ => call.text
  | replaced call _ => Part.templateOption ++ call.text

/-- The text of a fragment in the module. -/
def output : Fragment → Text
  | kept text => text
  | followed call _ => call.text
  | replaced _ text => text

/-- What a fragment adds to the dependencies of the module. -/
def dependency : Fragment → Option (Text × ModuleNumber)
  | followed call number => number.map (call.target, ·)
  | kept _ | replaced _ _ => none

/-- The calls of fragments, each with its offset in the script and whether it is replaced; the first
fragment stands at the given offset. -/
def callsFrom (offset : Nat) : List Fragment → List (Nat × Call × Bool)
  | [] => []
  | kept text :: fragments => callsFrom (offset + text.length) fragments
  | followed call _ :: fragments =>
    (offset, call, false) :: callsFrom (offset + call.text.length) fragments
  | replaced call _ :: fragments =>
    (offset + Part.templateOption.length, call, true) ::
      callsFrom (offset + Part.templateOption.length + call.text.length) fragments

/-- Whether the words of a template option stand directly in front of an offset of a text. -/
def behindOption (s : Text) (offset : Nat) : Bool := Part.templateOption.isSuffixOf (s.take offset)

/-- A fragment is what a part becomes.  What is put in the place of a template is related to the target
of the call. -/
inductive Writes (R : Text → Text → Prop) : Part → Linker.Linked → Prop
  | copy {text : Text} : Writes R (.copy text) { text }
  | follow {call : Call} (number : Option ModuleNumber) :
    Writes R (.follow call) ⟨call.text, number.map (call.target, ·)⟩
  | inline {target text : Text} (h : R target text) : Writes R (.inline target) { text }

/-- Fragments show what becomes of spans behind some text: what they are in the script and in the module,
which dependencies they add, and that exactly the calls behind template options are replaced. -/
structure Shows (R : Text → Text → Prop) (front : Text) (spans : List Span)
    (linked : List Linker.Linked) (fragments : List Fragment) : Prop where
  /-- In the script the fragments are the spans. -/
  source_eq : fragments.flatMap source = spans.flatMap Span.text
  /-- In the module they are what was linked. -/
  output_eq : fragments.flatMap output = linked.flatMap Linker.Linked.text
  /-- They add the dependencies that were linked. -/
  dependency_eq : fragments.filterMap dependency = linked.filterMap Linker.Linked.dependency
  /-- What takes the place of a call is related to its target. -/
  related : ∀ call text, .replaced call text ∈ fragments → R call.target text
  /-- The calls behind template options are replaced, and the others are not. -/
  calls_eq : callsFrom front.length fragments =
    (Span.callsFrom front.length spans).map fun found =>
      (found.1, found.2, behindOption (front ++ spans.flatMap Span.text) found.1)

variable {R : Text → Text → Prop} {s t front text : Text} {call : Call} {spans : List Span}
  {linked : List Linker.Linked} {fragments : List Fragment}

/-- At the end of a text, the text itself tells whether an option stands there. -/
theorem behindOption_append (s t : Text) :
    behindOption (s ++ t) s.length = Part.templateOption.isSuffixOf s := by
  rw [behindOption, List.take_left]

/-- No spans are shown by no fragments. -/
theorem Shows.nil : Shows R front [] [] [] := ⟨rfl, rfl, rfl, nofun, rfl⟩

/-- Plain text in front is kept. -/
theorem Shows.kept (h : Shows R (front ++ text) spans linked fragments) :
    Shows R front (.plain text :: spans) ({ text } :: linked) (.kept text :: fragments) where
  source_eq := congrArg (text ++ ·) h.source_eq
  output_eq := congrArg (text ++ ·) h.output_eq
  dependency_eq := h.dependency_eq
  related other out hmem := h.related other out (by simpa using hmem)
  calls_eq := by
    have hcalls := h.calls_eq
    rw [List.length_append] at hcalls
    rw [callsFrom, Span.callsFrom, hcalls, List.flatMap_cons, ← List.append_assoc]
    rfl

/-- A call in front that stands behind no option is followed. -/
theorem Shows.followed (h : Shows R (front ++ call.text) spans linked fragments)
    (hfront : ¬ Part.templateOption <:+ front) (number : Option ModuleNumber) :
    Shows R front (.require call :: spans) (⟨call.text, number.map (call.target, ·)⟩ :: linked)
      (.followed call number :: fragments) where
  source_eq := congrArg (call.text ++ ·) h.source_eq
  output_eq := congrArg (call.text ++ ·) h.output_eq
  dependency_eq := by
    cases number with
    | none => exact h.dependency_eq
    | some number => exact congrArg ((call.target, number) :: ·) h.dependency_eq
  related other out hmem := h.related other out (by simpa using hmem)
  calls_eq := by
    have hcalls := h.calls_eq
    have hbehind : behindOption (front ++ (call.text ++ spans.flatMap Span.text)) front.length =
        false := by
      rw [behindOption_append, ← Bool.not_eq_true, List.isSuffixOf_iff_suffix]
      exact hfront
    rw [List.length_append, List.append_assoc] at hcalls
    rw [callsFrom, Span.callsFrom, hcalls, List.map_cons, List.flatMap_cons]
    simp only [Span.text, hbehind]

/-- A call behind an option is replaced together with the option. -/
theorem Shows.replaced (h : Shows R (front ++ (s ++ Part.templateOption) ++ call.text) spans linked
      fragments) (hrelated : R call.target text) :
    Shows R front (.plain (s ++ Part.templateOption) :: .require call :: spans)
      ({ text := s } :: { text } :: linked) (.kept s :: .replaced call text :: fragments) where
  source_eq := by
    simp only [List.flatMap_cons, h.source_eq, source, Span.text, List.append_assoc]
  output_eq := by
    simp only [List.flatMap_cons, h.output_eq, output]
  dependency_eq := h.dependency_eq
  related other out hmem := by
    simp only [List.mem_cons, reduceCtorEq, false_or, Fragment.replaced.injEq] at hmem
    rcases hmem with ⟨rfl, rfl⟩ | hrest
    · exact hrelated
    · exact h.related other out hrest
  calls_eq := by
    have hcalls := h.calls_eq
    have hbehind : behindOption (front ++ (s ++ Part.templateOption) ++
        (call.text ++ spans.flatMap Span.text)) (front ++ (s ++ Part.templateOption)).length =
          true := by
      rw [behindOption_append, List.isSuffixOf_iff_suffix, ← List.append_assoc]
      exact List.suffix_append ..
    simp only [List.length_append, List.append_assoc, ← Nat.add_assoc] at hcalls hbehind
    simp only [callsFrom, Span.callsFrom, List.length_append, List.map_cons, List.flatMap_cons,
      Span.text, List.append_assoc, ← Nat.add_assoc, hcalls, hbehind]

/-- The parts of canonical spans behind a sealed text make up fragments. -/
theorem exists_shows (h : List.Forall₂ (Writes R) (Part.ofSpans true spans) linked)
    (hspans : Span.Canonical spans) (hcalls : ∀ call, .require call ∈ spans → call.IsWritten)
    (hfront : Sealed front) : ∃ fragments, Shows R front spans linked fragments := by
  -- along the parts; the text in front stays sealed, since plain text comes together with its call
  fun_induction Part.ofSpans true spans generalizing linked front with
  | case1 =>
    cases h
    exact ⟨[], .nil⟩
  | case2 text call spans before hbefore ih =>
    obtain rfl := Part.before?_eq_some_iff.1 hbefore
    obtain ⟨_, _, hcopy, hrest, rfl⟩ := List.forall₂_cons_left_iff.1 h
    obtain ⟨_, _, hinline, hbehind, rfl⟩ := List.forall₂_cons_left_iff.1 hrest
    cases hcopy
    cases hinline with
    | inline hrelated =>
      have hcall := hcalls call (by simp)
      obtain ⟨fragments, hshows⟩ := ih hbehind hspans.tail.tail
        (fun other hother => hcalls other (by simp [hother]))
        (hcall.sealed (front ++ (before ++ Part.templateOption)))
      exact ⟨_, hshows.replaced hrelated⟩
  | case3 text call spans hnone ih =>
    obtain ⟨_, _, hcopy, hrest, rfl⟩ := List.forall₂_cons_left_iff.1 h
    obtain ⟨_, _, hfollow, hbehind, rfl⟩ := List.forall₂_cons_left_iff.1 hrest
    cases hcopy
    cases hfollow with
    | follow number =>
      have hcall := hcalls call (by simp)
      obtain ⟨fragments, hshows⟩ := ih hbehind hspans.tail.tail
        (fun other hother => hcalls other (by simp [hother])) (hcall.sealed (front ++ text))
      have hoption : ¬ Part.templateOption <:+ front ++ text := by
        rw [hfront.suffix_append_iff]
        rintro ⟨before, hbefore⟩
        rw [if_pos rfl, Part.before?_eq_some_iff.2 hbefore.symm] at hnone
        cases hnone
      exact ⟨_, (hshows.followed hoption number).kept⟩
  | case4 text spans hother ih =>
    obtain ⟨_, _, hcopy, hrest, rfl⟩ := List.forall₂_cons_left_iff.1 h
    cases hcopy
    obtain rfl := hspans.eq_nil_of_not_require hother
    cases hrest
    exact ⟨_, Shows.nil.kept⟩
  | case5 call spans ih =>
    obtain ⟨_, _, hfollow, hrest, rfl⟩ := List.forall₂_cons_left_iff.1 h
    cases hfollow with
    | follow number =>
      have hcall := hcalls call (by simp)
      obtain ⟨fragments, hshows⟩ := ih hrest hspans.tail
        (fun other hother => hcalls other (by simp [hother])) (hcall.sealed front)
      exact ⟨_, hshows.followed hfront.not_suffix number⟩

end Fragment

end ScriptBundle

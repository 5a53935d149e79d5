/-
# Bundles show what is in them

Modules are written as they are, between marks that any text could contain.  As long as no module has
the mark `},{` in its text, a bundle still shows where each module ends, and so which modules it was
made from and which of them is run.

## Main content

- `Bundle.delimited_dependencies` and `Bundle.delimited_modules`: the dependencies of a module and the
  table of all modules show where they end.
- `Bundle.modules_eq_of_text_eq`: bundles with the same text have the same modules and entry.
-/
import ScriptBundle.Bundle.Printer
import ScriptBundle.Proofs.Markup.Literal
import ScriptBundle.Proofs.Text.Delimited

namespace ScriptBundle

namespace Bundle

open Text (BeginsWithoutDigit Delimited)

/-- What stands between the text of a module and its dependencies. -/
def boundary : Text := ['}', ',', '{']

/-- Modules that a bundle cannot tell apart: it does not show where a module comes from. -/
def SameContent (m m' : Module) : Prop :=
  m.number = m'.number ∧ m.text = m'.text ∧ m.dependencies = m'.dependencies

/-! ## Dependencies -/

/-- A dependency shows where it ends: its target with the quote, its number with the last digit. -/
theorem delimited_dependency :
    Delimited dependencyText (fun _ => True) BeginsWithoutDigit Eq := by
  rintro ⟨target, number⟩ ⟨target', number'⟩ rest rest' - - hrest hrest' h
  simp only [dependencyText, List.append_assoc] at h
  obtain ⟨rfl, hnumber⟩ := Literal.quote_append_inj h
  obtain ⟨rfl, rfl⟩ := Text.ofNat_append_inj hrest hrest' (List.append_cancel_left hnumber)
  exact ⟨rfl, rfl⟩

/-- The dependencies of a module show where they end. -/
theorem delimited_dependencies {dependencies dependencies' : Dependencies} {rest rest' : Text}
    (h : Text.join [',', ' '] (dependencies.map dependencyText) ++ '}' :: rest =
      Text.join [',', ' '] (dependencies'.map dependencyText) ++ '}' :: rest') :
    dependencies = dependencies' ∧ rest = rest' := by
  have hlist := delimited_dependency.join [',', ' '] ['}']
    (fun _ _ hc => by cases hc; rfl) (fun _ _ hc => by cases hc; rfl)
    (fun _ _ h => by cases h) (fun _ _ _ h => by cases h)
  obtain ⟨hsame, hrest⟩ := hlist (fun _ _ => trivial) (fun _ _ => trivial) trivial trivial
    (by simpa using h)
  exact ⟨List.forall₂_eq_eq_eq ▸ hsame, hrest⟩

/-! ## Modules -/

/-- A module shows where it ends, if the boundary behind its text does not stand in the text. -/
theorem delimited_module :
    Delimited moduleText (fun m => ¬ boundary <:+: m.text) (fun _ => True) SameContent := by
  intro m m' rest rest' hm hm' _ _ h
  simp only [moduleText, dependenciesText, List.append_assoc] at h
  obtain ⟨hnumber, hbehind⟩ := Text.ofNat_append_inj (fun c hc => by cases hc; rfl)
    (fun c hc => by cases hc; rfl) h
  obtain ⟨htext, hdependencies⟩ := Text.append_mark_inj '}' [',', '{']
    (by decide) hm hm' (List.append_cancel_left hbehind)
  obtain ⟨hsame, hclosed⟩ := delimited_dependencies (by simpa using hdependencies)
  exact ⟨⟨hnumber, htext, hsame⟩, (List.cons.inj hclosed).2⟩

/-- A number is not empty, and does not begin with a blank. -/
theorem ofNat_append_ne (n : Nat) (rest rest' : Text) : Text.ofNat n ++ rest ≠ ' ' :: rest' := by
  intro h
  obtain ⟨c, digits, hdigits⟩ := List.exists_cons_of_ne_nil (Nat.toDigits_ne_nil (n := n) (b := 10))
  have hc : c ∈ Nat.toDigits 10 n := hdigits ▸ List.mem_cons_self ..
  rw [Text.ofNat, hdigits] at h
  obtain rfl : c = ' ' := (List.cons.inj h).1
  exact absurd (Nat.isDigit_of_mem_toDigits (by decide) (by decide) hc) (by decide)

/-- What stands between the table of the modules and the number of the entry. -/
def closing : Text := [' ', '}', ',', ' ', '{', '}', ',', ' ', '[']

/-- The table of all modules shows where it ends, if no module has the boundary in its text. -/
theorem delimited_modules :
    Delimited (fun modules => Text.join [',', ' '] (modules.map moduleText) ++ closing)
      (fun modules => ∀ m ∈ modules, ¬ boundary <:+: m.text) (fun _ => True)
      (List.Forall₂ SameContent) := by
  apply delimited_module.join
  · exact fun _ => trivial
  · exact fun _ => trivial
  · intro rest rest' h
    cases h
  · intro m rest rest' h
    simp only [moduleText, List.append_assoc] at h
    exact ofNat_append_ne m.number _ _ h

/-! ## Bundles -/

/-- What follows the loader: the table, what closes it, and the entry. -/
theorem callText_eq (modules : List Module) (entry : ModuleNumber) :
    callText modules entry = "(\x7b ".toList ++
      (Text.join [',', ' '] (modules.map moduleText) ++ closing ++
        (Text.ofNat entry ++ "]);".toList)) := by
  have hclosing : " \x7d, \x7b\x7d, [".toList = closing := by decide
  unfold callText
  simp only [hclosing, List.append_assoc]

/-- Two bundles with the same text have the same entry and equally many modules, and these agree one by
one in their numbers, texts and dependencies, if no module has the boundary in its text. -/
theorem modules_eq_of_text_eq {modules modules' : List Module} {entry entry' : ModuleNumber}
    (hmodules : ∀ m ∈ modules, ¬ boundary <:+: m.text)
    (hmodules' : ∀ m ∈ modules', ¬ boundary <:+: m.text)
    (h : text modules entry = text modules' entry') :
    modules.length = modules'.length ∧
    (∀ (i : Nat) (m m' : Module), modules[i]? = some m → modules'[i]? = some m' →
      m.number = m'.number ∧ m.text = m'.text ∧ m.dependencies = m'.dependencies) ∧
    entry = entry' := by
  rw [text, text] at h
  have hcall := List.append_cancel_left h
  rw [callText_eq, callText_eq] at hcall
  obtain ⟨hsame, hentry⟩ := delimited_modules hmodules hmodules' trivial trivial
    (List.append_cancel_left hcall)
  obtain ⟨hnumber, -⟩ := Text.ofNat_append_inj (fun c hc => by cases hc; rfl)
    (fun c hc => by cases hc; rfl) hentry
  refine ⟨hsame.length_eq, fun i m m' hm hm' => ?_, hnumber⟩
  obtain ⟨hi, rfl⟩ := List.getElem?_eq_some_iff.1 hm
  obtain ⟨hi', rfl⟩ := List.getElem?_eq_some_iff.1 hm'
  exact hsame.get hi hi'

/-- A module whose text and targets are full of marks: a text that nearly ends with the boundary, and a
target that looks like the end of the module. -/
def markedModule (path : Text) : Module :=
  ⟨1, ⟨path⟩, "f(\x7b\x7d,[\x7b\x7d]);\x7d,".toList, [("\"\x7d], 2:[".toList, 1), ("./b".toList, 2)]⟩

/-- The bundle of this module does not show its path, and shows all else. -/
theorem modules_eq_of_text_eq_marked :
    (∀ m ∈ [markedModule "a.js".toList], ¬ boundary <:+: m.text) ∧
    (∀ m ∈ [markedModule "b.js".toList], ¬ boundary <:+: m.text) ∧
    text [markedModule "a.js".toList] 1 = text [markedModule "b.js".toList] 1 ∧
    ∀ (i : Nat) (m m' : Module), [markedModule "a.js".toList][i]? = some m →
      [markedModule "b.js".toList][i]? = some m' →
      m.number = m'.number ∧ m.text = m'.text ∧ m.dependencies = m'.dependencies := by
  have hmarks (path : Text) : ∀ m ∈ [markedModule path], ¬ boundary <:+: m.text := by
    intro m hm
    obtain rfl := List.mem_singleton.1 hm
    show ¬ boundary <:+: "f(\x7b\x7d,[\x7b\x7d]);\x7d,".toList
    decide +kernel
  have hmodule (path path' : Text) : moduleText (markedModule path) = moduleText (markedModule path') :=
    rfl
  have htext : text [markedModule "a.js".toList] 1 = text [markedModule "b.js".toList] 1 := by
    unfold text callText
    simp only [List.map_cons, List.map_nil, hmodule "a.js".toList "b.js".toList]
  exact ⟨hmarks _, hmarks _, htext, (modules_eq_of_text_eq (hmarks _) (hmarks _) htext).2.1⟩

end Bundle

end ScriptBundle

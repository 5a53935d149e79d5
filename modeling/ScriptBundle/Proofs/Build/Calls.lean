/-
# Builds at a call

When a build comes to a call, it looks at the modules that are complete at that moment: one of them
at the path that the target spells comes before all that looking the target up gives.

## Main content

- `Linker.AtCall` says that a build is at a call of a file that becomes a module, and
  `Linker.CompleteAt` that a module is complete at the path that the target of the call spells.
- `Linker.IsFileModule.exists_atCall`: every entry of the dependencies is recorded at a call, and
  `Linker.IsFileModule.atCall_of_mem`: the build comes to every call that is followed.
- `Linker.Links.dependency_of_find?`: what is complete at the path of a target is recorded for it.
-/
import ScriptBundle.Proofs.Build.Linking

namespace ScriptBundle

namespace Linker

variable {l : Linker} {files : FileSystem} {root file : Path} {m dep : Module} {target : Text}
  {spans : List Span} {call : Call} {t u final : BuildState} {link : Linked}

/-! ## At a call -/

/-- A build is at a call of a file that becomes a module: it has linked the parts in front of the
call, and will link the call and the parts behind it. -/
def AtCall (l : Linker) (files : FileSystem) (root : Path) (m : Module) (t : BuildState)
    (call : Call) : Prop :=
  ∃ s s₁ spans front back linked linked' s', l.Enters files root s m.path ∧
    l.Opens s m.path spans s₁ ∧ l.partsOf spans = front ++ .follow call :: back ∧
    l.Links s₁ m.path front linked t ∧ l.Links t m.path (.follow call :: back) linked' s' ∧
    m = s'.moduleOf m.path (linked ++ linked')

/-- A module was complete at the path that a target spells when the build was at a call of it. -/
def CompleteAt (l : Linker) (files : FileSystem) (root : Path) (m : Module) (target : Text)
    (dep : Module) : Prop :=
  ∃ t call, l.AtCall files root m t call ∧ call.target = target ∧
    t.table.find? (Lookup.targetPath m.path target).folded = some dep

/-- The build comes to every call that is followed. -/
theorem IsFileModule.atCall_of_mem (h : l.IsFileModule files root m spans)
    (hcall : .follow call ∈ l.partsOf spans) : ∃ t, l.AtCall files root m t call := by
  obtain ⟨s, linked, s', henters, ⟨s₁, hopens, hlinks⟩, hmodule⟩ := h
  obtain ⟨front, back, hparts⟩ := List.append_of_mem hcall
  rw [hparts] at hlinks
  obtain ⟨linked₁, linked₂, t, hfront, hback, rfl⟩ := hlinks.split
  exact ⟨t, s, s₁, spans, front, back, _, _, s', henters, hopens, hparts, hfront, hback, hmodule⟩

/-- What a call records, it records for its target. -/
theorem Links.target_eq {number : ModuleNumber} (h : l.Links t file [.follow call] [link] u)
    (hdependency : link.dependency = some (target, number)) : call.target = target := by
  cases h with
  | settle hpart _ =>
    cases hpart with
    | library _ => cases hdependency
    | complete _ _ => exact (Prod.mk.inj (Option.some.inj hdependency)).1
  | enter _ _ _ _ _ => exact (Prod.mk.inj (Option.some.inj hdependency)).1

/-- Every entry of the dependencies is recorded at a call. -/
theorem IsFileModule.exists_atCall (h : l.IsFileModule files root m spans)
    {number : ModuleNumber} (hmem : (target, number) ∈ m.dependencies) :
    ∃ t call link u, l.AtCall files root m t call ∧ call.target = target ∧
      l.Links t m.path [.follow call] [link] u ∧ link.dependency = some (target, number) := by
  obtain ⟨s, linked, s', henters, ⟨s₁, hopens, hlinks⟩, hmodule⟩ := h
  rw [hmodule] at hmem
  obtain ⟨link, hlink, hdependency⟩ := exists_linked_of_mem_dependencies hmem
  obtain ⟨front, part, back, linked₁, t, u, hparts, hfront, hpart⟩ := hlinks.exists_part hlink
  rw [hparts] at hlinks
  obtain ⟨linked₁', linked₂, t', hfront', hback, rfl⟩ := hlinks.split
  obtain ⟨rfl, rfl⟩ := hfront.unique hfront'
  -- no other part than a call is recorded
  cases part with
  | copy text =>
    cases hpart with
    | settle hsettle _ => cases hsettle; cases hdependency
  | inline other =>
    cases hpart with
    | settle hsettle _ => cases hsettle; cases hdependency
  | follow call =>
    exact ⟨t, call, link, u, ⟨s, s₁, spans, front, back, _, _, s', henters, hopens, hparts, hfront,
      hback, hmodule⟩, hpart.target_eq hdependency, hpart, hdependency⟩

/-- Targets that are recorded have target characters only. -/
theorem IsFileModule.isTargetChar_of_mem (h : l.IsFileModule files root m spans)
    {number : ModuleNumber} (hmem : (target, number) ∈ m.dependencies) :
    ∀ c ∈ target, isTargetChar c := by
  obtain ⟨-, -, source, filling, -, -, rfl⟩ := h.reads
  obtain ⟨call, -, hfollow, rfl, -⟩ := h.of_mem_dependencies hmem
  obtain ⟨-, -, -, -, -, -, hchars, -⟩ :=
    Span.isWritten_of_require_mem (Part.require_mem_of_follow_mem hfollow)
  exact hchars

/-- The table is consistent when a build is at a call. -/
theorem AtCall.consistent (h : l.AtCall files root m t call) : t.table.Consistent := by
  obtain ⟨s, s₁, spans, front, back, linked, linked', s', henters, hopens, -, hfront, -, -⟩ := h
  exact hfront.consistent (hopens.consistent henters.consistent)

/-- What is complete when a build is at a call stays in the table. -/
theorem AtCall.mem_of_mem (h : l.AtCall files root m t call) (hdep : dep ∈ t.table.modules)
    (hfinal : l.Completes files root final) : dep ∈ final.table.modules := by
  obtain ⟨s, s₁, spans, front, back, linked, linked', s', henters, hopens, hparts, hfront, hback,
    -⟩ := h
  obtain ⟨spans', linked'', u, hvisits, hkept⟩ := henters.visits hfinal
  have hlinks := hfront.append hback
  rw [← hparts] at hlinks
  obtain ⟨-, -, rfl⟩ := Visits.unique ⟨s₁, hopens, hlinks⟩ hvisits
  apply hkept.subset
  rw [BuildState.modules_close]
  exact List.mem_append_left _ (hback.grows.modules.subset hdep)

/-! ## What is complete at the path of a target -/

/-- What is complete at the path that a target spells is recorded for it. -/
theorem Links.dependency_of_find? (h : l.Links t file [.follow call] [link] u)
    (hfound : t.table.find? (Lookup.targetPath file call.target).folded = some dep) :
    link.dependency = some (call.target, dep.number) := by
  have hdest : l.destination t file call.target =
      .ok (.file (Lookup.targetPath file call.target).folded) := by
    simp only [destination]
    rw [if_pos (Option.isSome_of_eq_some hfound)]
  cases h with
  | settle hpart _ =>
    cases hpart with
    | library hdest' => cases hdest.symm.trans hdest'
    | complete hdest' hfound' =>
      cases hdest.symm.trans hdest'
      cases hfound.symm.trans hfound'
      rfl
  | enter hdest' hnew _ _ _ =>
    cases hdest.symm.trans hdest'
    cases hfound.symm.trans hnew.1

/-- If a module is complete at the path of a target, the target is recorded. -/
theorem CompleteAt.exists_mem_dependencies (h : l.CompleteAt files root m target dep) :
    ∃ number, (target, number) ∈ m.dependencies := by
  obtain ⟨t, call, ⟨s, s₁, spans, front, back, linked, linked', s', -, -, -, -, hback, hmodule⟩, rfl,
    hfound⟩ := h
  obtain ⟨links, rest, u, hcall, -, rfl⟩ :=
    Links.split (show l.Links t m.path ([.follow call] ++ back) linked' s' from hback)
  -- the call has one link, with a number
  obtain ⟨link, rfl⟩ : ∃ link, links = [link] := by
    cases hcall with
    | settle _ hnil => cases hnil; exact ⟨_, rfl⟩
    | enter _ _ _ _ hnil => cases hnil; exact ⟨_, rfl⟩
  have hmem : (call.target, dep.number) ∈
      (linked ++ ([link] ++ rest)).filterMap Linked.dependency :=
    List.mem_filterMap.2 ⟨link, by simp, hcall.dependency_of_find? hfound⟩
  rw [hmodule]
  exact Dependencies.exists_mem_of_isSome_find? (Dependencies.isSome_find?_ofList hmem)

/-- What is complete at the path of a target is a module of the graph, and has this path. -/
theorem CompleteAt.mem (h : l.CompleteAt files root m target dep)
    (hfinal : l.Completes files root final) :
    dep ∈ final.table.modules ∧
      dep.path.same (Lookup.targetPath m.path target).folded = true := by
  obtain ⟨t, call, hcall, -, hfound⟩ := h
  obtain ⟨hmem, hsame⟩ := hcall.consistent.of_find?_eq_some hfound
  exact ⟨hcall.mem_of_mem hmem hfinal, hsame⟩

end Linker

end ScriptBundle

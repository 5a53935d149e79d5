/-
# Recorded dependencies

Dependencies are recorded one target after the other, and a target that comes again takes the place
of what was recorded for it.  So the recorded entries are among those of the list, and no target of
the list is lost.

## Main content

- `Dependencies.mem_of_mem_ofList`: every entry comes from the list.
- `Dependencies.isSome_find?_ofList`: every target of the list is found.
- `Dependencies.exists_mem_of_isSome_find?`: what is found is an entry.
- `Dependencies.Ascending.insert`: the targets stand in ascending order.
- `Dependencies.thin` leaves entries out and changes numbers; `Dependencies.ofList_thin`: this may be
  done before or after the entries are recorded.
-/
import ScriptBundle.ModuleTable

namespace ScriptBundle

namespace Dependencies

/-- Recording a target adds no other entry. -/
theorem mem_of_mem_insert {target : Text} {number : ModuleNumber} {entry : Text × ModuleNumber}
    {dependencies : Dependencies} (h : entry ∈ insert target number dependencies) :
    entry = (target, number) ∨ entry ∈ dependencies := by
  induction dependencies with
  | nil => exact .inl (List.mem_singleton.1 h)
  | cons head dependencies ih =>
    simp only [insert] at h
    split at h
    · rcases List.mem_cons.1 h with rfl | hrest
      · exact .inl rfl
      · exact .inr (List.mem_cons_of_mem _ hrest)
    · split at h
      · rcases List.mem_cons.1 h with rfl | hrest
        · exact .inl rfl
        · exact .inr hrest
      · rcases List.mem_cons.1 h with rfl | hrest
        · exact .inr (List.mem_cons_self ..)
        · rcases ih hrest with heq | hold
          · exact .inl heq
          · exact .inr (List.mem_cons_of_mem _ hold)

/-- What is recorded comes from the list. -/
theorem mem_of_mem_ofList {entry : Text × ModuleNumber} {entries : List (Text × ModuleNumber)}
    (h : entry ∈ ofList entries) : entry ∈ entries := by
  suffices hfold : ∀ found : Dependencies,
      entry ∈ entries.foldl (fun found entry => insert entry.1 entry.2 found) found →
        entry ∈ found ∨ entry ∈ entries by
    rcases hfold [] h with hnil | hmem
    · cases hnil
    · exact hmem
  clear h
  induction entries with
  | nil => exact fun found h => .inl h
  | cons head entries ih =>
    intro found h
    rcases ih (insert head.1 head.2 found) h with hfound | hmem
    · rcases mem_of_mem_insert hfound with rfl | hold
      · exact .inr (List.mem_cons_self ..)
      · exact .inl hold
    · exact .inr (List.mem_cons_of_mem _ hmem)

/-- What is found for a target is an entry. -/
theorem exists_mem_of_isSome_find? {target : Text} {dependencies : Dependencies}
    (h : (find? target dependencies).isSome) : ∃ number, (target, number) ∈ dependencies := by
  obtain ⟨⟨key, number⟩, hmem, hkey⟩ := List.lookup_isSome_iff.1 h
  obtain rfl := eq_of_beq hkey
  exact ⟨number, hmem⟩

/-- Every target of the list is recorded. -/
theorem isSome_find?_ofList {target : Text} {number : ModuleNumber}
    {entries : List (Text × ModuleNumber)} (h : (target, number) ∈ entries) :
    (find? target (ofList entries)).isSome := by
  suffices hfold : ∀ found : Dependencies,
      (target, number) ∈ entries ∨ (find? target found).isSome →
        (find? target (entries.foldl (fun found entry => insert entry.1 entry.2 found)
          found)).isSome from hfold [] (.inl h)
  clear h
  induction entries with
  | nil =>
    rintro found (hnil | hfound)
    · cases hnil
    · exact hfound
  | cons head entries ih =>
    intro found h
    apply ih
    -- an entry that was recorded for the target stays, or another one takes its place
    rw [find?_insert]
    split
    · exact .inr rfl
    · next hne =>
      rcases h with hmem | hfound
      · rcases List.mem_cons.1 hmem with rfl | hrest
        · exact absurd rfl hne
        · exact .inl hrest
      · exact .inr hfound

/-! ## The order of the targets -/

/-- The targets stand in ascending order. -/
def Ascending (dependencies : Dependencies) : Prop :=
  dependencies.Pairwise fun entry entry' => entry.1 < entry'.1

/-- Of two targets that are different the one comes before the other. -/
theorem lt_of_ne_of_not_lt {target other : Text} (hne : target ≠ other) (hlt : ¬ target < other) :
    other < target := by
  refine Decidable.byContradiction fun hother => ?_
  exact hne (List.le_antisymm (List.not_lt.1 hother) (List.not_lt.1 hlt))

variable {target : Text} {number : ModuleNumber} {dependencies : Dependencies}

/-- A target that comes before all others is recorded in front. -/
theorem insert_of_lt (h : ∀ entry ∈ dependencies, target < entry.1) :
    insert target number dependencies = (target, number) :: dependencies := by
  cases dependencies with
  | nil => rfl
  | cons entry dependencies =>
    have hlt := h entry (List.mem_cons_self ..)
    have hne : target ≠ entry.1 := fun heq => List.lt_irrefl _ (heq ▸ hlt)
    rw [insert, if_neg hne, if_pos hlt]

/-- The targets stay in order when one is recorded. -/
theorem Ascending.insert (h : Ascending dependencies) :
    Ascending (insert target number dependencies) := by
  induction dependencies with
  | nil => exact List.pairwise_singleton _ _
  | cons entry dependencies ih =>
    obtain ⟨hentry, hrest⟩ := List.pairwise_cons.1 h
    rw [Dependencies.insert]
    split
    · next heq => exact List.pairwise_cons.2 ⟨fun other hother => heq ▸ hentry other hother, hrest⟩
    · next hne =>
      split
      · next hlt =>
        refine List.pairwise_cons.2 ⟨fun other hother => ?_, h⟩
        rcases List.mem_cons.1 hother with rfl | hother
        · exact hlt
        · exact List.lt_trans hlt (hentry other hother)
      · next hnlt =>
        refine List.pairwise_cons.2 ⟨fun other hother => ?_, ih hrest⟩
        rcases mem_of_mem_insert hother with rfl | hother
        · exact lt_of_ne_of_not_lt hne hnlt
        · exact hentry other hother

/-! ## Entries that are left out or changed -/

/-- The dependencies whose targets are kept, with other numbers. -/
def thin (keep : Text → Bool) (f : ModuleNumber → ModuleNumber) (dependencies : Dependencies) :
    Dependencies :=
  (dependencies.filter fun entry => keep entry.1).map fun entry => (entry.1, f entry.2)

variable {keep : Text → Bool} {f : ModuleNumber → ModuleNumber}

/-- An entry that is kept. -/
theorem thin_cons_of_pos {entry : Text × ModuleNumber} (h : keep entry.1 = true) :
    thin keep f (entry :: dependencies) = (entry.1, f entry.2) :: thin keep f dependencies := by
  rw [thin, List.filter_cons, if_pos h, List.map_cons, thin]

/-- An entry that is left out. -/
theorem thin_cons_of_neg {entry : Text × ModuleNumber} (h : ¬ keep entry.1 = true) :
    thin keep f (entry :: dependencies) = thin keep f dependencies := by
  rw [thin, List.filter_cons, if_neg h, thin]

/-- Entries behind others. -/
theorem thin_append (entries more : List (Text × ModuleNumber)) :
    thin keep f (entries ++ more) = thin keep f entries ++ thin keep f more := by
  rw [thin, List.filter_append, List.map_append, thin, thin]

/-- The targets of the entries that are kept are among all. -/
theorem exists_mem_of_mem_thin {entry : Text × ModuleNumber} (h : entry ∈ thin keep f dependencies) :
    ∃ old ∈ dependencies, entry.1 = old.1 := by
  obtain ⟨old, hold, rfl⟩ := List.mem_map.1 h
  exact ⟨old, (List.mem_filter.1 hold).1, rfl⟩

/-- A target that is kept is recorded with its new number. -/
theorem thin_insert_of_pos (h : Ascending dependencies) (hkeep : keep target = true) :
    thin keep f (insert target number dependencies) =
      insert target (f number) (thin keep f dependencies) := by
  induction dependencies with
  | nil => exact thin_cons_of_pos hkeep
  | cons entry dependencies ih =>
    obtain ⟨hentry, hrest⟩ := List.pairwise_cons.1 h
    by_cases heq : target = entry.1
    · have hkept : keep entry.1 = true := heq ▸ hkeep
      rw [insert, if_pos heq, thin_cons_of_pos hkeep, thin_cons_of_pos hkept, insert, if_pos heq]
    · by_cases hlt : target < entry.1
      · rw [insert, if_neg heq, if_pos hlt, thin_cons_of_pos hkeep, insert_of_lt]
        intro other hother
        obtain ⟨old, hold, htarget⟩ := exists_mem_of_mem_thin hother
        rw [htarget]
        rcases List.mem_cons.1 hold with rfl | hold
        · exact hlt
        · exact List.lt_trans hlt (hentry old hold)
      · rw [insert, if_neg heq, if_neg hlt]
        by_cases hkept : keep entry.1 = true
        · rw [thin_cons_of_pos hkept, thin_cons_of_pos hkept, ih hrest, insert, if_neg heq,
            if_neg hlt]
        · rw [thin_cons_of_neg hkept, thin_cons_of_neg hkept, ih hrest]

/-- A target that is not kept need not be recorded. -/
theorem thin_insert_of_neg (hkeep : ¬ keep target = true) :
    thin keep f (insert target number dependencies) = thin keep f dependencies := by
  induction dependencies with
  | nil => exact thin_cons_of_neg hkeep
  | cons entry dependencies ih =>
    rw [insert]
    split
    · next heq => rw [thin_cons_of_neg hkeep, thin_cons_of_neg (heq ▸ hkeep)]
    · split
      · exact thin_cons_of_neg hkeep
      · by_cases hkept : keep entry.1 = true
        · rw [thin_cons_of_pos hkept, thin_cons_of_pos hkept, ih]
        · rw [thin_cons_of_neg hkept, thin_cons_of_neg hkept, ih]

/-- Entries may be left out and changed before they are recorded. -/
theorem ofList_thin (keep : Text → Bool) (f : ModuleNumber → ModuleNumber)
    (entries : List (Text × ModuleNumber)) :
    ofList (thin keep f entries) = thin keep f (ofList entries) := by
  suffices hfold : ∀ found : Dependencies, Ascending found →
      (thin keep f entries).foldl (fun found entry => insert entry.1 entry.2 found)
          (thin keep f found) =
        thin keep f (entries.foldl (fun found entry => insert entry.1 entry.2 found) found) from
    hfold [] .nil
  induction entries with
  | nil => exact fun found _ => rfl
  | cons entry entries ih =>
    intro found hfound
    by_cases hkept : keep entry.1 = true
    · rw [thin_cons_of_pos hkept, List.foldl_cons, List.foldl_cons,
        ← thin_insert_of_pos hfound hkept]
      exact ih _ hfound.insert
    · rw [thin_cons_of_neg hkept, List.foldl_cons, ← ih _ hfound.insert, thin_insert_of_neg hkept]

end Dependencies

end ScriptBundle

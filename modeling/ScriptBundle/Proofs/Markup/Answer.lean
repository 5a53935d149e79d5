/-
# Reading the answers of compiler programs

An object is read as the render functions that it holds, in whatever order, spacing and escapes its
text is written, and whatever its members with other keys are.  An object without the render function,
with one of the two keys twice, or with something behind it is refused.

## Main content

- `RenderFunctions.IsHeldBy` says which render functions the members of an object hold,
  `RenderFunctions.Lacks` and `RenderFunctions.Repeats` what is wrong with members.
- `CompilerCommand.answer_object`: what an answer that is an object is read as;
  `CompilerCommand.exists_writes_of_answer`: a text that is no JSON value is refused.
-/
import Mathlib.Data.List.Forall2
import ScriptBundle.Markup.Command
import ScriptBundle.Proofs.Json.Exact
import ScriptBundle.Proofs.Text.Utf8

namespace ScriptBundle

namespace Json

/-! ## Strings -/

/-- A value is a string that stands for a text. -/
def Spells (v : Json) (s : Text) : Prop := ∃ units, v = .string units ∧ Denotes units s

/-- A value is a list of strings that stand for texts. -/
def SpellsAll (v : Json) (texts : List Text) : Prop :=
  ∃ values, v = .array values ∧ List.Forall₂ Spells values texts

/-- The text of a string. -/
theorem Spells.string? {v : Json} {s : Text} (h : v.Spells s) : v.string? = some s := by
  obtain ⟨units, rfl, hunits⟩ := h
  exact unitsText?_of_denotes hunits

/-- The texts of a list of strings. -/
theorem SpellsAll.strings? {v : Json} {texts : List Text} (h : v.SpellsAll texts) :
    v.strings? = some texts := by
  obtain ⟨values, rfl, hvalues⟩ := h
  show values.mapM Json.string? = _
  induction hvalues with
  | nil => rfl
  | cons hv _ ih =>
    rw [List.mapM_cons, hv.string?, ih]
    rfl

/-! ## Keys -/

/-- The keys of an object are written as the insides of strings. -/
theorem Writes.exists_writesUnits {members : List (List JsonUnit × Json)} {s : Text}
    (h : Writes (.members members) s) {member : List JsonUnit × Json} (hmem : member ∈ members) :
    ∃ t, WritesUnits member.1 t := by
  generalize hphrase : Phrase.members members = phrase at h
  induction h generalizing members with
  | lastMember hkey _ =>
    cases hphrase
    obtain ⟨-, hunits, -⟩ := hkey
    cases List.mem_singleton.1 hmem
    exact ⟨_, hunits⟩
  | member hkey _ _ _ ih =>
    cases hphrase
    obtain ⟨-, hunits, -⟩ := hkey
    rcases List.mem_cons.1 hmem with rfl | hmem
    · exact ⟨_, hunits⟩
    · exact ih hmem rfl
  | _ => cases hphrase

/-- A key of an object that is written has a text exactly if it stands for it. -/
theorem Writes.unitsText?_key {members : List (List JsonUnit × Json)} {s key : Text}
    (h : Writes (.item (.object members)) s) {member : List JsonUnit × Json} (hmem : member ∈ members) :
    unitsText? member.1 = some key ↔ Denotes member.1 key := by
  refine ⟨fun htext => denotes_of_unitsText? ?_ htext, unitsText?_of_denotes⟩
  intro n hn
  cases h with
  | item _ hobject _ =>
    cases hobject with
    | emptyObject _ => cases hmem
    | object hmembers =>
      obtain ⟨t, ht⟩ := hmembers.exists_writesUnits hmem
      exact ht.lt_of_code_mem hn

end Json

namespace RenderFunctions

open Json (Denotes)

variable {members : List (List JsonUnit × Json)} {functions : RenderFunctions} {key : Text}

/-! ## What members say -/

/-- The members that hold render functions.  If there are no static ones, their member may be
missing. -/
inductive Tells : RenderFunctions → List (List JsonUnit × Json) → Prop
  | render {units : List JsonUnit} {v : Json} {body : Text} (hkey : Denotes units renderKey)
    (h : v.Spells body) : Tells ⟨body, []⟩ [(units, v)]
  | both {units units' : List JsonUnit} {v v' : Json} {body : Text} {statics : List Text}
    (hkey : Denotes units renderKey) (h : v.Spells body) (hkey' : Denotes units' staticsKey)
    (h' : v'.SpellsAll statics) : Tells ⟨body, statics⟩ [(units, v), (units', v')]

/-- A member has a key, which is neither that of the render function nor that of the static ones. -/
def IsOther (member : List JsonUnit × Json) : Prop :=
  ∃ key, Denotes member.1 key ∧ key ≠ renderKey ∧ key ≠ staticsKey

/-- The members of an object are, in any order, those that hold render functions, and others. -/
def IsHeldBy (functions : RenderFunctions) (members : List (List JsonUnit × Json)) : Prop :=
  ∃ known others, Tells functions known ∧ (∀ member ∈ others, IsOther member) ∧
    members.Perm (known ++ others)

/-- No member has the key. -/
def Lacks (key : Text) (members : List (List JsonUnit × Json)) : Prop :=
  ∀ member ∈ members, ¬ Denotes member.1 key

/-- Two members have the key. -/
def Repeats (key : Text) (members : List (List JsonUnit × Json)) : Prop :=
  ∃ first second, [first, second].Sublist members ∧ Denotes first.1 key ∧ Denotes second.1 key

/-! ## Values by their keys -/

/-- The values of the members whose key has the given text. -/
def valuesAt (key : Text) (members : List (List JsonUnit × Json)) : List Json :=
  (members.filter fun member => Json.unitsText? member.1 = some key).map Prod.snd

/-- What the values of the two keys are read as. -/
def ofValues? : List Json → List Json → Option RenderFunctions
  | [render], [] => do some ⟨← render.string?, []⟩
  | [render], [statics] => do some ⟨← render.string?, ← statics.strings?⟩
  | _, _ => none

/-- The values of a key, if all keys have texts. -/
theorem valuesOf_of_keyed? {entries : List (Text × Json)} (h : keyed? members = some entries)
    (key : Text) : valuesOf key entries = valuesAt key members := by
  induction members generalizing entries with
  | nil =>
    cases h
    rfl
  | cons member members ih =>
    rw [keyed?, List.mapM_cons] at h
    obtain ⟨entry, hentry, h⟩ := Option.bind_eq_some_iff.1 h
    obtain ⟨entries', hentries, h⟩ := Option.bind_eq_some_iff.1 h
    obtain ⟨text, htext, rfl⟩ := Option.map_eq_some_iff.1 hentry
    cases h
    have hrest := ih hentries
    by_cases hkey : text = key
    · simp_all [valuesOf, valuesAt]
    · simp_all [valuesOf, valuesAt]

/-- Members whose keys have texts. -/
theorem exists_keyed? (h : ∀ member ∈ members, ∃ key, Denotes member.1 key) :
    ∃ entries, keyed? members = some entries := by
  induction members with
  | nil => exact ⟨[], rfl⟩
  | cons member members ih =>
    obtain ⟨key, hkey⟩ := h member (List.mem_cons_self ..)
    obtain ⟨entries, hentries⟩ := ih fun member hmem => h member (List.mem_cons_of_mem _ hmem)
    refine ⟨(key, member.2) :: entries, ?_⟩
    rw [keyed?] at hentries
    rw [keyed?, List.mapM_cons, Json.unitsText?_of_denotes hkey, hentries]
    rfl

/-- If all keys have texts, the values of the two keys are what counts. -/
theorem ofJson?_object (h : ∀ member ∈ members, ∃ key, Denotes member.1 key) :
    ofJson? (.object members) = ofValues? (valuesAt renderKey members) (valuesAt staticsKey members) := by
  obtain ⟨entries, hentries⟩ := exists_keyed? h
  rw [← valuesOf_of_keyed? hentries, ← valuesOf_of_keyed? hentries, ofJson?, hentries]
  rfl

/-- If the values of the two keys are refused, the object is. -/
theorem ofJson?_object_eq_none
    (h : ofValues? (valuesAt renderKey members) (valuesAt staticsKey members) = none) :
    ofJson? (.object members) = none := by
  rw [ofJson?]
  cases hentries : keyed? members with
  | none => rfl
  | some entries =>
    rw [← valuesOf_of_keyed? hentries, ← valuesOf_of_keyed? hentries] at h
    exact h

/-- Where a key is missing, it has no value. -/
theorem valuesAt_eq_nil (h : ∀ member ∈ members, Json.unitsText? member.1 ≠ some key) :
    valuesAt key members = [] := by
  rw [valuesAt, List.map_eq_nil_iff, List.filter_eq_nil_iff]
  intro member hmem
  simpa using h member hmem

/-- The values of a key, member by member. -/
theorem valuesAt_append (key : Text) (members others : List (List JsonUnit × Json)) :
    valuesAt key (members ++ others) = valuesAt key members ++ valuesAt key others := by
  simp only [valuesAt, List.filter_append, List.map_append]

/-- The values of a key, in another order, without the members that have other keys. -/
theorem valuesAt_of_perm {known others : List (List JsonUnit × Json)}
    (hperm : members.Perm (known ++ others))
    (hothers : ∀ member ∈ others, Json.unitsText? member.1 ≠ some key) :
    (valuesAt key members).Perm (valuesAt key known) := by
  have h : (valuesAt key members).Perm (valuesAt key (known ++ others)) := (hperm.filter _).map _
  rwa [valuesAt_append, valuesAt_eq_nil hothers, List.append_nil] at h

/-- A repeated key has two values. -/
theorem Repeats.two_le_length (h : Repeats key members) : 2 ≤ (valuesAt key members).length := by
  obtain ⟨first, second, hsub, hfirst, hsecond⟩ := h
  have hvalues := (hsub.filter fun member => Json.unitsText? member.1 = some key).length_le
  rw [valuesAt, List.length_map]
  simpa [Json.unitsText?_of_denotes hfirst, Json.unitsText?_of_denotes hsecond] using hvalues

/-! ## Objects -/

/-- The two keys differ. -/
theorem renderKey_ne_staticsKey : renderKey ≠ staticsKey := by decide

/-- The members that hold render functions have keys. -/
theorem Tells.exists_key {known : List (List JsonUnit × Json)} (h : Tells functions known)
    {member : List JsonUnit × Json} (hmem : member ∈ known) : ∃ key, Denotes member.1 key := by
  cases h with
  | render hkey _ =>
    cases List.mem_singleton.1 hmem
    exact ⟨_, hkey⟩
  | both hkey _ hkey' _ =>
    rcases List.mem_pair.1 hmem with rfl | rfl
    · exact ⟨_, hkey⟩
    · exact ⟨_, hkey'⟩

/-- The values of the members that hold render functions are read as these, in any order: one value
at most is there for each key. -/
theorem Tells.ofValues?_of_perm {known : List (List JsonUnit × Json)} (h : Tells functions known)
    {renders statics : List Json} (hrenders : renders.Perm (valuesAt renderKey known))
    (hstatics : statics.Perm (valuesAt staticsKey known)) :
    ofValues? renders statics = some functions := by
  cases h with
  | @render units v body hkey h =>
    have htext := Json.unitsText?_of_denotes hkey
    have hrender : renders = [v] := List.perm_singleton.1 (by simpa [valuesAt, htext] using hrenders)
    have hstatic : statics = [] :=
      List.perm_nil.1 (by simpa [valuesAt, htext, renderKey_ne_staticsKey] using hstatics)
    rw [hrender, hstatic, ofValues?, h.string?]
    rfl
  | @both units units' v v' body texts hkey h hkey' h' =>
    have htext := Json.unitsText?_of_denotes hkey
    have htext' := Json.unitsText?_of_denotes hkey'
    have hrender : renders = [v] := List.perm_singleton.1
      (by simpa [valuesAt, htext, htext', renderKey_ne_staticsKey.symm] using hrenders)
    have hstatic : statics = [v'] := List.perm_singleton.1
      (by simpa [valuesAt, htext, htext', renderKey_ne_staticsKey] using hstatics)
    rw [hrender, hstatic, ofValues?, h.string?, h'.strings?]
    rfl

/-- A member with another key has none of the two keys. -/
theorem IsOther.unitsText?_ne {member : List JsonUnit × Json} (h : IsOther member)
    (hkey : key = renderKey ∨ key = staticsKey) : Json.unitsText? member.1 ≠ some key := by
  obtain ⟨other, hother, hrender, hstatics⟩ := h
  rw [Json.unitsText?_of_denotes hother]
  rintro heq
  cases heq
  exact hkey.elim hrender hstatics

/-- The members of an object that holds render functions have keys. -/
theorem IsHeldBy.exists_key (h : functions.IsHeldBy members) {member : List JsonUnit × Json}
    (hmem : member ∈ members) : ∃ key, Denotes member.1 key := by
  obtain ⟨known, others, hknown, hothers, hperm⟩ := h
  rcases List.mem_append.1 (hperm.mem_iff.1 hmem) with hmem | hmem
  · exact hknown.exists_key hmem
  · obtain ⟨key, hkey, -⟩ := hothers member hmem
    exact ⟨key, hkey⟩

/-- An object is read as the render functions that its members hold. -/
theorem ofJson?_of_isHeldBy (h : functions.IsHeldBy members) :
    ofJson? (.object members) = some functions := by
  rw [ofJson?_object fun member hmem => h.exists_key hmem]
  obtain ⟨known, others, hknown, hothers, hperm⟩ := h
  have hvalues : ∀ key, key = renderKey ∨ key = staticsKey →
      (valuesAt key members).Perm (valuesAt key known) := fun key hkey =>
    valuesAt_of_perm hperm fun member hmem => (hothers member hmem).unitsText?_ne hkey
  exact hknown.ofValues?_of_perm (hvalues _ (.inl rfl)) (hvalues _ (.inr rfl))

/-- Two values of one key are refused. -/
theorem ofValues?_eq_none {renders statics : List Json}
    (h : 2 ≤ renders.length ∨ 2 ≤ statics.length) : ofValues? renders statics = none := by
  unfold ofValues?
  split
  · simp at h
  · simp at h
  · rfl

/-- An object with a repeated key is refused. -/
theorem ofJson?_of_repeats (hkey : key = renderKey ∨ key = staticsKey) (h : Repeats key members) :
    ofJson? (.object members) = none := by
  apply ofJson?_object_eq_none
  apply ofValues?_eq_none
  rcases hkey with rfl | rfl
  · exact .inl h.two_le_length
  · exact .inr h.two_le_length

end RenderFunctions

namespace CompilerCommand

open RenderFunctions
open Json (Denotes Spells Writes)

/-! ## Bytes behind an object -/

/-- The bytes of the blanks of JSON. -/
def blankBytes : Bytes := [0x20, 0x09, 0x0A, 0x0D]

/-- The numbers of the blanks of JSON. -/
theorem toNat_of_isJsonBlank {n : Nat} (h : Json.isJsonBlank (some (Char.ofNat n)) = true) :
    n ∈ blankBytes.map UInt8.toNat := by
  by_cases hvalid : n.isValidChar
  · have hn := Json.toNat_charOfNat hvalid
    simp only [Json.isJsonBlank, Bool.or_eq_true, decide_eq_true_eq, Option.some.injEq] at h
    rcases h with ((h | h) | h) | h <;> rw [h] at hn <;> subst hn <;> decide
  · rw [Char.ofNat, dif_neg hvalid] at h
    cases h

/-- Where a byte is no blank, a symbol is read that is none. -/
theorem exists_symbol_of_not_mem_blankBytes {bytes : Bytes} (h : ∃ byte ∈ bytes, byte ∉ blankBytes) :
    ∃ symbol ∈ Utf8.symbols bytes, Json.isJsonBlank symbol = false := by
  have hlow : ∀ n ∈ blankBytes.map UInt8.toNat, n < 64 := by decide
  obtain ⟨byte, hmem, hblank⟩ := h
  refine Utf8.exists_symbol_of_byte (by decide) (fun n hn => ?_) ⟨byte, hmem, fun _ => ?_⟩
  · rw [← Bool.not_eq_true]
    intro hall
    exact Nat.not_lt.2 hn (hlow n (toNat_of_isJsonBlank hall))
  · rw [← Bool.not_eq_true]
    intro hall
    obtain ⟨other, hother, heq⟩ := List.mem_map.1 (toNat_of_isJsonBlank hall)
    exact hblank (UInt8.toNat_inj.1 heq ▸ hother)

/-! ## Answers -/

/-- What an answer that is an object is read as.  If its members hold render functions, these are
given; it is refused if it has no render function, if one of the two keys is repeated, or if something
other than blanks stands behind it. -/
theorem answer_object (program : Text) {result : ProgramResult} (hstatus : result.status = 0)
    {members : List (List JsonUnit × Json)} {text : Text}
    (hwrites : Writes (.item (.object members)) text) :
    (result.output = Utf8.encode text →
      (∀ functions : RenderFunctions, functions.IsHeldBy members →
        answer program result = .ok functions) ∧
      (Lacks renderKey members ∨ Repeats renderKey members ∨ Repeats staticsKey members →
        answer program result = .error .unreadable)) ∧
    (∀ trailing, (∃ byte ∈ trailing, byte ∉ blankBytes) →
      result.output = Utf8.encode text ++ trailing →
        answer program result = .error .unreadable) := by
  have hread : ∀ functions, ofBytes? result.output = some functions →
      answer program result = .ok functions := by
    intro functions h
    rw [answer, if_pos hstatus, h]
  have hrefused : ofBytes? result.output = none → answer program result = .error .unreadable := by
    intro h
    rw [answer, if_pos hstatus, h]
  refine ⟨fun houtput => ?_, fun trailing htrailing houtput => ?_⟩
  · have hobject : ofBytes? result.output = ofJson? (.object members) := by
      rw [houtput, ofBytes?, Utf8.symbols_encode, ofSymbols?, Json.ofSymbols?_of_writes hwrites]
      rfl
    rw [hobject] at hread hrefused
    refine ⟨fun functions h => hread _ (ofJson?_of_isHeldBy h), fun h => hrefused ?_⟩
    rcases h with hlacks | hrepeats | hrepeats
    · apply ofJson?_object_eq_none
      rw [valuesAt_eq_nil fun member hmem htext =>
        hlacks member hmem ((hwrites.unitsText?_key hmem).1 htext)]
      rfl
    · exact ofJson?_of_repeats (.inl rfl) hrepeats
    · exact ofJson?_of_repeats (.inr rfl) hrepeats
  · apply hrefused
    rw [houtput, ofBytes?, Utf8.symbols_encode_append, ofSymbols?,
      Json.ofSymbols?_append_eq_none hwrites (exists_symbol_of_not_mem_blankBytes htrailing)]
    rfl

/-- A text that is read as render functions is a JSON value. -/
theorem exists_writes_of_answer {program text : Text} {result : ProgramResult}
    {functions : RenderFunctions} (houtput : result.output = Utf8.encode text)
    (h : answer program result = .ok functions) : ∃ v, Writes (.item v) text := by
  unfold answer at h
  split at h
  · split at h
    · next hread =>
      rw [houtput, ofBytes?, Utf8.symbols_encode] at hread
      obtain ⟨v, hv, -⟩ := Option.bind_eq_some_iff.1 hread
      exact ⟨v, Json.ofSymbols?_eq_some_iff.1 hv⟩
    · cases h
  · cases h

/-! ## An object in an unusual order -/

/-- A member with another key. -/
def sampleOther : List JsonUnit × Json := ("a".toList.map .char, .array [.number, .object []])

/-- A member with a static render function. -/
def sampleStatics : List JsonUnit × Json :=
  (staticsKey.map .char, .array [.string [.code 0xD83D, .code 0xDE00]])

/-- A member with a render function. -/
def sampleRender : List JsonUnit × Json :=
  (.code 0x72 :: "ender".toList.map .char, .string ("r()".toList.map .char))

/-- An object with the three members, with escapes and blanks. -/
def sampleText : Text :=
  ("\x7b\"a\":[-1.5e3,\x7b \x7d],\"staticRenderFns\":[\"\\uD83D\\ude00\"]," ++
    "\n\"\\u0072ender\" : \"r()\"\t\x7d\r\n").toList

/-- An object with a static render function only. -/
def sampleTextLacking : Text := "\x7b\"staticRenderFns\":[\"\\uD83D\\uDE00\"]\x7d".toList

/-- An object with two render functions. -/
def sampleTextRepeating : Text := "\x7b\"\\u0072ender\":\"r()\",\"render\":null\x7d".toList

/-- The answer of a program that wrote some bytes. -/
def sampleResult (output : Bytes) : ProgramResult := ⟨0, output, [], 0, {}⟩

/-- The key with the escape is that of the render function. -/
theorem denotes_sampleRender : Denotes sampleRender.1 renderKey :=
  .cons (c := 'r') (.code (by decide)) (.chars "ender".toList)

/-- The three members hold render functions. -/
theorem isHeldBy_sample : IsHeldBy ⟨"r()".toList, [[Char.ofNat 0x1F600]]⟩
    [sampleOther, sampleStatics, sampleRender] := by
  have hstatic : Spells (.string [.code 0xD83D, .code 0xDE00]) [Char.ofNat 0x1F600] :=
    ⟨_, rfl, .cons (c := Char.ofNat 0x1F600) (.pair (by decide)) .nil⟩
  refine ⟨_, [sampleOther], .both denotes_sampleRender ⟨_, rfl, .chars _⟩ (.chars staticsKey)
    ⟨_, rfl, .cons hstatic .nil⟩, ?_, ?_⟩
  · intro member hmem
    cases List.mem_singleton.1 hmem
    exact ⟨"a".toList, .chars _, by decide, by decide⟩
  · exact List.reverse_perm [sampleRender, sampleStatics, sampleOther]

/-- An object in an unusual order, the same with a byte behind it that is no blank, and objects
without the render function and with two. -/
theorem answer_object_sample :
    answer [] (sampleResult (Utf8.encode sampleText)) =
      .ok ⟨"r()".toList, [[Char.ofNat 0x1F600]]⟩ ∧
    answer [] (sampleResult (Utf8.encode sampleText ++ [0x0B])) = .error .unreadable ∧
    answer [] (sampleResult (Utf8.encode sampleTextLacking)) = .error .unreadable ∧
    answer [] (sampleResult (Utf8.encode sampleTextRepeating)) = .error .unreadable := by
  have hsample : Writes (.item (.object [sampleOther, sampleStatics, sampleRender])) sampleText :=
    Json.ofSymbols?_eq_some_iff.1 rfl
  have hlacking : Writes (.item (.object [sampleStatics])) sampleTextLacking :=
    Json.ofSymbols?_eq_some_iff.1 rfl
  have hrepeating : Writes (.item (.object [sampleRender, (renderKey.map .char, .null)]))
      sampleTextRepeating := Json.ofSymbols?_eq_some_iff.1 rfl
  refine ⟨?_, ?_, ?_, ?_⟩
  · exact ((answer_object [] rfl hsample).1 rfl).1 _ isHeldBy_sample
  · exact (answer_object [] rfl hsample).2 [0x0B] ⟨0x0B, by decide, by decide⟩ rfl
  · refine ((answer_object [] rfl hlacking).1 rfl).2 (.inl ?_)
    intro member hmem hkey
    cases List.mem_singleton.1 hmem
    have htext := Json.unitsText?_of_denotes hkey
    cases (show some staticsKey = some renderKey from htext)
  · refine ((answer_object [] rfl hrepeating).1 rfl).2 (.inr (.inl ⟨_, _, List.Sublist.refl _, ?_, ?_⟩))
    · exact denotes_sampleRender
    · exact .chars renderKey

end CompilerCommand

end ScriptBundle

/-
# Texts

A text is the list of its characters.  This file holds the operations on texts that all others
share: cutting a text into lines, looking for one text inside another, and writing numbers.

## Main content

- `lines` cuts a text behind every newline; `flatten_lines` says that nothing is lost.
- `suffixes` lists all ends of a text, longest first; `occurs` and `occurrences` look for a needle
  at the head of each of them.
- `splitWith` cuts a text at every separating character; `splitWith_cons` is its recursion.
-/

namespace ScriptBundle

/-- A text is the list of its characters. -/
abbrev Text := List Char

namespace Text

/-! ## Numbers and joined texts -/

/-- The decimal digits of a number. -/
def ofNat (n : Nat) : Text := Nat.toDigits 10 n

/-- The texts of a list, one after the other, with `separator` between neighbours. -/
def join (separator : Text) (texts : List Text) : Text := separator.intercalate texts

/-! ## Lines -/

/-- Puts one character in front of a text that is already cut into lines. -/
def consLine (c : Char) (ls : List Text) : List Text :=
  if c = '\n' then [c] :: ls else (c :: ls.headD []) :: ls.tail

/-- The lines of a text, each with the newline that ends it.  Only the last line may lack one, and
the empty text has no lines. -/
def lines (s : Text) : List Text := s.foldr consLine []

@[simp] theorem lines_nil : lines [] = [] := rfl

@[simp] theorem lines_cons (c : Char) (s : Text) : lines (c :: s) = consLine c (lines s) := rfl

/-- Putting a character in front of the first line puts it in front of the whole text. -/
theorem flatten_consLine (c : Char) (ls : List Text) :
    (consLine c ls).flatten = c :: ls.flatten := by
  unfold consLine
  split
  · rfl
  · cases ls <;> rfl

/-- Joining the lines gives the text back. -/
theorem flatten_lines (s : Text) : (lines s).flatten = s := by
  induction s with
  | nil => rfl
  | cons c s ih => rw [lines_cons, flatten_consLine, ih]

/-- The line with a newline at its end, added where it is missing. -/
def withNewline (line : Text) : Text :=
  if line.getLast? = some '\n' then line else line ++ ['\n']

/-! ## One text inside another -/

/-- All ends of a text, from the text itself down to the empty one. -/
def suffixes (s : Text) : List Text := s.foldr (fun c ends => (c :: ends.headD []) :: ends) [[]]

@[simp] theorem suffixes_nil : suffixes [] = [[]] := rfl

/-- The first end of a text is the text. -/
theorem headD_suffixes (s : Text) : (suffixes s).headD [] = s := by
  induction s with
  | nil => rfl
  | cons c s ih => exact congrArg (c :: ·) ih

@[simp] theorem suffixes_cons (c : Char) (s : Text) :
    suffixes (c :: s) = (c :: s) :: suffixes s := by
  show (c :: (suffixes s).headD []) :: suffixes s = _
  rw [headD_suffixes]

/-- Whether `needle` stands anywhere in the text. -/
def occurs (needle s : Text) : Bool := (suffixes s).any needle.isPrefixOf

/-- At how many places of the text `needle` stands.  For a needle whose first character does not
come again in it, no two of these places overlap. -/
def occurrences (needle s : Text) : Nat := (suffixes s).countP needle.isPrefixOf

/-- What follows `head` in a text that begins with it. -/
def after? (head s : Text) : Option Text :=
  if head.isPrefixOf s then some (s.drop head.length) else none

/-- The rest is what has to be put behind the head. -/
theorem after?_eq_some_iff {head s rest : Text} : after? head s = some rest ↔ s = head ++ rest := by
  unfold after?
  rw [Option.ite_none_right_eq_some, List.isPrefixOf_iff_prefix]
  constructor
  · rintro ⟨⟨tail, rfl⟩, h⟩
    simpa using h
  · rintro rfl
    exact ⟨List.prefix_append head rest, by simp⟩

/-! ## Splitting -/

/-- Puts one character in front of a text that is already cut at its separators. -/
def consPiece (separates : Char → Bool) (c : Char) (pieces : List Text) : List Text :=
  if separates c then [] :: pieces else (c :: pieces.headD []) :: pieces.tail

/-- The pieces of a text between the characters that separate.  There is one piece more than there
are such characters, so that neighbouring separators have an empty piece between them. -/
def splitWith (separates : Char → Bool) (s : Text) : List Text :=
  s.foldr (consPiece separates) [[]]

@[simp] theorem splitWith_nil (separates : Char → Bool) : splitWith separates [] = [[]] := rfl

@[simp] theorem splitWith_cons (separates : Char → Bool) (c : Char) (s : Text) :
    splitWith separates (c :: s) = consPiece separates c (splitWith separates s) := rfl

/-- There is always a piece. -/
theorem splitWith_ne_nil (separates : Char → Bool) (s : Text) : splitWith separates s ≠ [] := by
  cases s with
  | nil => simp
  | cons c s =>
    rw [splitWith_cons, consPiece]
    split <;> simp

/-! ## Sets of names -/

/-- Adds a name to an ascending list of distinct names. -/
def insertName (name : Text) : List Text → List Text
  | [] => [name]
  | other :: names =>
    if name = other then other :: names
    else if name < other then name :: other :: names
    else other :: insertName name names

/-- The distinct names of a list in ascending order, compared character by character. -/
def nameSet (names : List Text) : List Text := names.foldl (fun set name => insertName name set) []

/-- Inserting adds exactly the inserted name. -/
theorem mem_insertName {name other : Text} {names : List Text} :
    other ∈ insertName name names ↔ other = name ∨ other ∈ names := by
  induction names with
  | nil => simp [insertName]
  | cons head names ih =>
    unfold insertName
    split
    · next h => subst h; simp
    · split
      · simp
      · simp only [List.mem_cons, ih]
        constructor
        · rintro (h | h | h) <;> simp [h]
        · rintro (h | h | h) <;> simp [h]

/-- A name set has exactly the names it is made from. -/
theorem mem_nameSet {name : Text} {names : List Text} : name ∈ nameSet names ↔ name ∈ names := by
  suffices h : ∀ set : List Text,
      name ∈ names.foldl (fun set name => insertName name set) set ↔ name ∈ set ∨ name ∈ names by
    simpa [nameSet] using h []
  induction names with
  | nil => simp
  | cons head names ih =>
    intro set
    rw [List.foldl_cons, ih, mem_insertName]
    simp only [List.mem_cons]
    constructor
    · rintro ((h | h) | h) <;> simp [h]
    · rintro (h | h | h) <;> simp [h]

end Text

end ScriptBundle

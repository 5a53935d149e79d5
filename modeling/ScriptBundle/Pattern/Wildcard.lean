/-
# Wildcards

Patterns as file names use them: a star stands for any text, a question mark for any character, and
brackets for one of several.  They fit whole texts.

## Main content

- `Pattern.ofWildcard` is the pattern of a wildcard, and `Pattern.fits` says what it fits.
- `Pattern.stops` lists where it can end; `Pattern.literal?` is the text of a wildcard that stands
  for itself.
-/
import ScriptBundle.Pattern.Basic

namespace ScriptBundle

namespace Pattern

/-- The name of a class of characters, behind its opening, and what follows. -/
def readClass (s : Text) : Option (List (Char × Char) × Text) :=
  match s with
  | '[' :: ':' :: s =>
    let name := s.takeWhile Char.isAlpha
    match s.drop name.length with
    | ':' :: ']' :: rest => (CharSet.classRanges? name).map fun ranges => (ranges, rest)
    | _ => none
  | _ => none

/-- Reads the members of a bracket up to its end.  There is no answer where the end is missing. -/
def readMembers : Nat → Bool → List (Char × Char) → Text → Option (List (Char × Char) × Text)
  | 0, _, _, _ => none
  | limit + 1, isFirst, ranges, s =>
    match s with
    | [] => none
    | c :: rest =>
      if c = ']' ∧ !isFirst then some (ranges, rest)
      else
        match readClass s with
        | some (more, rest) => readMembers limit false (ranges ++ more) rest
        | none =>
          let (c, rest) := if c = '\\' then (rest.headD '\\', rest.drop 1) else (c, rest)
          match rest with
          | '-' :: d :: behind =>
            if d = ']' then readMembers limit false (ranges ++ [(c, c)]) rest
            else
              let (d, behind) := if d = '\\' then (behind.headD '\\', behind.drop 1) else (d, behind)
              readMembers limit false (ranges ++ [(c, d)]) behind
          | rest => readMembers limit false (ranges ++ [(c, c)]) rest

/-- Reads a bracket, behind its opening.  A mark in front of the members means all others. -/
def readChoice (marks : Text) (s : Text) : Option (CharSet × Text) :=
  let excluded := s.head?.any marks.contains
  let s := if excluded then s.drop 1 else s
  (readMembers (s.length + 1) true [] s).map fun (ranges, rest) => (⟨ranges, excluded⟩, rest)

/-- The pattern of a wildcard.  A backslash quotes the next character. -/
def wildcardWithin (marks : Text) : Nat → Text → Pattern
  | 0, _ => .nothing
  | limit + 1, s =>
    match s with
    | [] => .nothing
    | '*' :: s => .sequence (.repeated (.char .all) 0 none) (wildcardWithin marks limit s)
    | '?' :: s => .sequence (.char .all) (wildcardWithin marks limit s)
    | ['\\'] => .char (.single '\\')
    | '\\' :: c :: s => .sequence (.char (.single c)) (wildcardWithin marks limit s)
    | '[' :: s =>
      match readChoice marks s with
      | some (set, rest) => .sequence (.char set) (wildcardWithin marks limit rest)
      | none => .sequence (.char (.single '[')) (wildcardWithin marks limit s)
    | c :: s => .sequence (.char (.single c)) (wildcardWithin marks limit s)

/-- The pattern of a wildcard, with the marks that turn brackets around. -/
def ofWildcard (marks : Text) (s : Text) : Pattern := wildcardWithin marks (s.length + 1) s

/-- The wildcard that stands for a text. -/
def quoteWildcard (s : Text) : Text := s.flatMap fun c => ['\\', c]

/-- Where a pattern that begins at a position can end, the farthest first. -/
def stops (pattern : Pattern) (s : Text) (start : Nat) : List Nat :=
  (ends s false pattern ⟨start, none, s.drop start, []⟩).map (·.position)

/-- Whether a pattern fits a whole text. -/
def fits (pattern : Pattern) (anyCase : Bool) (s : Text) : Bool :=
  (ends s anyCase pattern ⟨0, none, s, []⟩).any (·.position = s.length)

/-- The text of a wildcard in which no character has a meaning of its own. -/
def literal? : Text → Option Text
  | [] => some []
  | '\\' :: c :: s => (literal? s).map (c :: ·)
  | c :: s => if c = '*' ∨ c = '?' ∨ c = '[' then none else (literal? s).map (c :: ·)

end Pattern

end ScriptBundle

/-
# Patterns

The patterns by which line tools find texts: regular expressions with groups, edges and back
references.  Of all places where a pattern fits, the leftmost counts, and there the longest.

## Main content

- `Pattern` is a pattern; `CharSet` says which characters stand in one place.
- `Pattern.ends` lists the spots at which a pattern that begins at a spot can end.
- `Pattern.find?` is the leftmost longest place from a given position on.
-/
import ScriptBundle.Text.Basic

namespace ScriptBundle

/-! ## Sets of characters -/

/-- A set of characters. -/
structure CharSet where
  /-- Ranges of characters, both ends included. -/
  ranges : List (Char × Char)
  /-- Whether the characters outside of the ranges are meant. -/
  excluded : Bool := false
  deriving DecidableEq

namespace CharSet

/-- Whether a character is in the set. -/
def contains (set : CharSet) (c : Char) : Bool :=
  (set.ranges.any fun range => range.1 ≤ c && c ≤ range.2) != set.excluded

/-- Whether a character or its other case is in the set. -/
def containsCase (set : CharSet) (c : Char) : Bool :=
  set.contains c || set.contains c.toLower || set.contains c.toUpper

/-- The set of one character. -/
def single (c : Char) : CharSet := { ranges := [(c, c)] }

/-- The set of all characters. -/
def all : CharSet := { ranges := [], excluded := true }

/-- The characters of words. -/
def word : List (Char × Char) := [('a', 'z'), ('A', 'Z'), ('0', '9'), ('_', '_')]

/-- The blank characters. -/
def space : List (Char × Char) := [(' ', ' '), ('\t', '\x0d')]

/-- The ranges of a named class. -/
def classRanges? (name : Text) : Option (List (Char × Char)) :=
  match String.ofList name with
  | "alpha" => some [('a', 'z'), ('A', 'Z')]
  | "digit" => some [('0', '9')]
  | "alnum" => some [('a', 'z'), ('A', 'Z'), ('0', '9')]
  | "upper" => some [('A', 'Z')]
  | "lower" => some [('a', 'z')]
  | "space" => some space
  | "blank" => some [(' ', ' '), ('\t', '\t')]
  | "punct" => some [('!', '/'), (':', '@'), ('[', '\x60'), ('\x7b', '~')]
  | "print" => some [(' ', '~')]
  | "graph" => some [('!', '~')]
  | "cntrl" => some [('\x00', '\x1f'), ('\x7f', '\x7f')]
  | "xdigit" => some [('0', '9'), ('a', 'f'), ('A', 'F')]
  | _ => none

/-- The characters of a range list below U+0100, in ascending order of each range. -/
def members (ranges : List (Char × Char)) : Text :=
  ranges.flatMap fun range =>
    (List.range (range.2.toNat + 1 - range.1.toNat)).map fun n => Char.ofNat (range.1.toNat + n)

end CharSet

/-! ## Patterns -/

/-- A place between two characters. -/
inductive Edge where
  /-- The start of the text. -/
  | start
  /-- The end of the text. -/
  | stop
  /-- The start of a line. -/
  | lineStart
  /-- The end of a line. -/
  | lineStop
  /-- The start of a word. -/
  | wordStart
  /-- The end of a word. -/
  | wordStop
  /-- Either end of a word. -/
  | word
  /-- A place that is no end of a word. -/
  | noWord
  deriving DecidableEq

/-- A pattern. -/
inductive Pattern where
  /-- The empty text. -/
  | nothing
  /-- A character of a set. -/
  | char (set : CharSet)
  /-- An edge. -/
  | edge (edge : Edge)
  /-- One pattern behind another. -/
  | sequence (first second : Pattern)
  /-- One pattern or another. -/
  | choice (first second : Pattern)
  /-- A pattern several times: at least `least` times and, if there is a bound, at most `most`. -/
  | repeated (body : Pattern) (least : Nat) (most : Option Nat)
  /-- A pattern whose text is remembered under a number. -/
  | group (number : Nat) (body : Pattern)
  /-- The text of a group. -/
  | again (number : Nat)
  deriving DecidableEq

namespace Pattern

/-- The pattern whose edges are those of lines instead of those of the text. -/
def byLines : Pattern → Pattern
  | .edge .start => .edge .lineStart
  | .edge .stop => .edge .lineStop
  | .sequence first second => .sequence (byLines first) (byLines second)
  | .choice first second => .choice (byLines first) (byLines second)
  | .repeated body least most => .repeated (byLines body) least most
  | .group number body => .group number (byLines body)
  | pattern => pattern

/-- A spot in a text that is searched. -/
structure Spot where
  /-- How many characters stand in front of the spot. -/
  position : Nat
  /-- The character in front of the spot. -/
  before : Option Char
  /-- The text behind the spot. -/
  rest : Text
  /-- The groups that are closed: their numbers, starts and stops, the last one first. -/
  groups : List (Nat × Nat × Nat) := []
  deriving DecidableEq

/-- Whether a character belongs to a word. -/
def isWordChar (c : Option Char) : Bool := c.any (CharSet.contains ⟨CharSet.word, false⟩)

/-- Whether a spot is an edge. -/
def isEdge (spot : Spot) : Edge → Bool
  | .start => spot.position = 0
  | .stop => spot.rest = []
  | .lineStart => spot.position = 0 || spot.before = some '\n'
  | .lineStop => spot.rest = [] || spot.rest.head? = some '\n'
  | .wordStart => !isWordChar spot.before && isWordChar spot.rest.head?
  | .wordStop => isWordChar spot.before && !isWordChar spot.rest.head?
  | .word => isWordChar spot.before != isWordChar spot.rest.head?
  | .noWord => isWordChar spot.before = isWordChar spot.rest.head?

/-- Some spots with the farthest first, each place once.  Of several ways to one place the first one
counts. -/
def arranged (spots : List Spot) : List Spot :=
  (spots.mergeSort fun a b => b.position ≤ a.position).foldr
    (fun spot others =>
      match others with
      | other :: rest => if other.position = spot.position then spot :: rest else spot :: others
      | [] => [spot])
    []

/-- The spots after some number of rounds. -/
def rounds (step : Spot → List Spot) : Nat → List Spot → List Spot
  | 0, spots => spots
  | n + 1, spots => rounds step n (arranged (spots.flatMap step))

/-- The spots after any number of rounds up to a limit, of which each has to reach new places. -/
def closure (step : Spot → List Spot) : Nat → List Spot → List Spot → List Spot
  | 0, seen, _ => seen
  | n + 1, seen, newest =>
    let next := (arranged (newest.flatMap step)).filter fun spot =>
      !seen.any (·.position = spot.position)
    if next = [] then seen else closure step n (next ++ seen) next

/-- The spot behind the next character. -/
def advance (spot : Spot) : Option Spot :=
  match spot.rest with
  | [] => none
  | c :: rest => some { spot with position := spot.position + 1, before := some c, rest }

/-- The spot behind a given text. -/
def advanceOver (spot : Spot) : Text → Option Spot
  | [] => some spot
  | c :: s => if spot.rest.head? = some c then (advance spot).bind (advanceOver · s) else none

/-- The text of a group. -/
def groupText (whole : Text) (groups : List (Nat × Nat × Nat)) (number : Nat) : Option Text :=
  (groups.lookup number).map fun (start, stop) => (whole.drop start).take (stop - start)

/-- Whether a character is meant by a set. -/
def accepts (anyCase : Bool) (set : CharSet) (c : Char) : Bool :=
  if anyCase then set.containsCase c else set.contains c

/-- The spots behind each of the next characters, at most `limit`, as long as they are in a set. -/
def stretch (anyCase : Bool) (set : CharSet) : Nat → Spot → List Spot → List Spot
  | 0, _, found => found
  | limit + 1, spot, found =>
    match spot.rest with
    | [] => found
    | c :: rest =>
      if accepts anyCase set c then
        let next := { spot with position := spot.position + 1, before := some c, rest }
        stretch anyCase set limit next (next :: found)
      else found

/-- The spots at which a pattern that begins at a spot of a text can end, the farthest first. -/
def ends (whole : Text) (anyCase : Bool) : Pattern → Spot → List Spot
  | .nothing, spot => [spot]
  | .char set, spot =>
    match spot.rest.head? with
    | some c => if accepts anyCase set c then (advance spot).toList else []
    | none => []
  | .edge kind, spot => if isEdge spot kind then [spot] else []
  | .sequence first second, spot =>
    match ends whole anyCase first spot with
    | [middle] => ends whole anyCase second middle
    | middles => arranged (middles.flatMap (ends whole anyCase second))
  | .choice first second, spot =>
    arranged (ends whole anyCase first spot ++ ends whole anyCase second spot)
  | .repeated (.char set) least most, spot =>
    let reached := stretch anyCase set (most.getD spot.rest.length) spot [spot]
    reached.filter fun stop => spot.position + least ≤ stop.position
  | .repeated body least most, spot =>
    let needed := rounds (ends whole anyCase body) least [spot]
    let more := match most with
      | some most => most - least
      | none => spot.rest.length + 1
    arranged (closure (ends whole anyCase body) more needed needed)
  | .group number body, spot =>
    (ends whole anyCase body spot).map fun stop =>
      { stop with groups := (number, spot.position, stop.position) :: stop.groups }
  | .again number, spot =>
    match groupText whole spot.groups number with
    | some text => (advanceOver spot text).toList
    | none => []

/-- A place where a pattern fits. -/
structure Found where
  /-- Where it starts. -/
  start : Nat
  /-- Where it stops. -/
  stop : Nat
  /-- Its groups. -/
  groups : List (Nat × Nat × Nat)
  deriving DecidableEq

/-- The leftmost longest place of a pattern behind a spot. -/
def findFrom (pattern : Pattern) (anyCase : Bool) (whole : Text) (position : Nat)
    (before : Option Char) (rest : Text) : Option Found :=
  let spot : Spot := { position, before, rest }
  match ends whole anyCase pattern spot with
  | stop :: _ => some ⟨position, stop.position, stop.groups⟩
  | [] =>
    match rest with
    | [] => none
    | c :: rest => findFrom pattern anyCase whole (position + 1) (some c) rest

/-- The leftmost longest place of a pattern from a position on. -/
def find? (pattern : Pattern) (anyCase : Bool) (s : Text) (start : Nat) : Option Found :=
  findFrom pattern anyCase s start (s.take start).getLast? (s.drop start)

/-- Whether a pattern fits somewhere. -/
def occursIn (pattern : Pattern) (anyCase : Bool) (s : Text) : Bool :=
  (pattern.find? anyCase s 0).isSome

/-- The text of a place. -/
def Found.text (found : Found) (s : Text) : Text :=
  (s.drop found.start).take (found.stop - found.start)

/-- The text of a group of a place; the whole place is group zero. -/
def Found.groupText (found : Found) (s : Text) (number : Nat) : Text :=
  if number = 0 then found.text s else (Pattern.groupText s found.groups number).getD []

/-- The places of a pattern from left to right.  An empty place directly behind another does not
count. -/
def places (pattern : Pattern) (anyCase : Bool) (s : Text) : Nat → Nat → Option Nat → List Found
  | 0, _, _ => []
  | limit + 1, start, behind =>
    match pattern.find? anyCase s start with
    | none => []
    | some found =>
      if found.start = found.stop then
        let others :=
          if found.start < s.length then
            pattern.places anyCase s limit (found.start + 1) none
          else []
        if behind = some found.start then others else found :: others
      else found :: pattern.places anyCase s limit found.stop (some found.stop)

/-- All places of a pattern. -/
def findAll (pattern : Pattern) (anyCase : Bool) (s : Text) : List Found :=
  pattern.places anyCase s (s.length + 2) 0 none

end Pattern

end ScriptBundle

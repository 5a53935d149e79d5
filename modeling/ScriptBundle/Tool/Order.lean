/-
# Order and repetition

Tools that put lines in order, and tools that compare neighbouring lines and ordered files.

## Main content

- `SortKey` says by which part of a line lines are compared, and how.
- `Tool.sort`, `Tool.distinct`, `Tool.compareOrdered` and `Tool.join` are the tools.
-/
import ScriptBundle.Tool.Whole

namespace ScriptBundle

/-! ## Keys -/

/-- How keys are compared. -/
structure KeyOrder where
  /-- Whether the order is reversed. -/
  reversed : Bool := false
  /-- Whether blanks in front of the key are skipped. -/
  skipsBlanks : Bool := false
  /-- Whether blanks in front of the end of the key are skipped. -/
  skipsEndBlanks : Bool := false
  /-- Whether letters count without their case. -/
  anyCase : Bool := false
  /-- Whether only letters, digits and blanks count. -/
  dictionary : Bool := false
  /-- Whether only printable characters count. -/
  printable : Bool := false
  /-- The letter of a comparison of values. -/
  values : Option Char := none
  deriving DecidableEq

/-- A part of a line with its order.  Fields and characters are counted from zero. -/
structure SortKey where
  /-- The first field. -/
  field : Nat := 0
  /-- The first character in it. -/
  char : Nat := 0
  /-- The last field, and how many characters of it; none means all. -/
  stop : Option (Nat × Nat) := none
  /-- How the parts are compared. -/
  order : KeyOrder := {}

namespace KeyOrder

/-- Adds what a letter stands for.  At the start and at the end of a key, blanks are skipped apart. -/
def withLetter? (atEnd : Bool) (order : KeyOrder) : Char → Option KeyOrder
  | 'b' => some (if atEnd then { order with skipsEndBlanks := true } else
      { order with skipsBlanks := true })
  | 'd' => some { order with dictionary := true }
  | 'f' => some { order with anyCase := true }
  | 'i' => some { order with printable := true }
  | 'r' => some { order with reversed := true }
  | c => if c ∈ ['g', 'h', 'n', 'M', 'V', 'R'] then some { order with values := some c } else none

/-- Whether nothing is said about the order. -/
def isUsual (order : KeyOrder) : Bool := decide (order = {})

end KeyOrder

namespace SortKey

/-- Whether a character separates fields where no separator is given. -/
def isBlank (c : Char) : Bool := c = ' ' || c = '\t'

/-- Skips fields.  A given separator behind the last one is skipped if `skipsLast` holds. -/
def skipFields (separator : Option Char) (skipsLast : Bool) : Nat → Text → Text
  | 0, s => s
  | n + 1, s =>
    match separator with
    | some mark =>
      let rest := s.dropWhile (· ≠ mark)
      skipFields separator skipsLast n (if n ≠ 0 ∨ skipsLast then rest.drop 1 else rest)
    | none => skipFields separator skipsLast n ((s.dropWhile isBlank).dropWhile fun c => !isBlank c)

/-- The part of a line that a key is about. -/
def part (separator : Option Char) (key : SortKey) (line : Text) : Text :=
  let start := skipFields separator true key.field line
  let start := if key.order.skipsBlanks then start.dropWhile isBlank else start
  let start := start.drop key.char
  match key.stop with
  | none => start
  | some (field, chars) =>
    let rest :=
      if chars = 0 then skipFields separator false (field + 1) line
      else
        let rest := skipFields separator true field line
        (if key.order.skipsEndBlanks then rest.dropWhile isBlank else rest).drop chars
    start.take (start.length - rest.length)

/-! ## Comparing -/

/-- The decimal number at the head of a text: its sign, the digits in front of the point and those
behind it. -/
def decimal (s : Text) : Bool × Text × Text :=
  let s := s.dropWhile isBlank
  let (negative, s) := match s with
    | '-' :: s => (true, s)
    | s => (false, s)
  let (front, rest) := Numeral.spanDigits 10 s
  match rest with
  | '.' :: behind => (negative, front, (Numeral.spanDigits 10 behind).1)
  | _ => (negative, front, [])

/-- Compares two decimal numbers. -/
def compareDecimals (a b : Bool × Text × Text) : Ordering :=
  let places := max a.2.2.length b.2.2.length
  let scaled (d : Bool × Text × Text) : Int :=
    let n : Int := Numeral.value 10 (d.2.1 ++ d.2.2 ++ List.replicate (places - d.2.2.length) '0')
    if d.1 then -n else n
  compare (scaled a) (scaled b)

/-- The rank of the unit that stands behind a number. -/
def unitRank (s : Text) : Int :=
  let (negative, front, back) := decimal s
  let rest := s.dropWhile isBlank
  let size := (if negative then 1 else 0) + front.length + back.length +
    (if back ≠ [] then 1 else 0)
  let rank : Int := match (rest.drop size).head? with
    | some 'k' | some 'K' => 1
    | some 'M' => 2
    | some 'G' => 3
    | some 'T' => 4
    | some 'P' => 5
    | some 'E' => 6
    | _ => 0
  if negative then -rank else rank

/-- The number of a month by the beginning of its name. -/
def month (s : Text) : Nat :=
  let name := ((s.dropWhile isBlank).take 3).map Char.toUpper
  let names := ["JAN", "FEB", "MAR", "APR", "MAY", "JUN", "JUL", "AUG", "SEP", "OCT", "NOV", "DEC"]
  match names.findIdx? fun month => month.toList = name with
  | some n => n + 1
  | none => 0

/-- The rank of a character inside a name with versions. -/
def versionRank (c : Option Char) : Int :=
  match c with
  | none => 0
  | some c =>
    if c.isDigit then 0 else if c.isAlpha then c.toNat else if c = '~' then -1 else c.toNat + 256

/-- Compares names with versions: rows of digits count as numbers. -/
def compareVersions : Nat → Text → Text → Ordering
  | 0, _, _ => .eq
  | limit + 1, a, b =>
    let isOther (s : Text) : Bool := s.head?.any fun c => !c.isDigit
    if isOther a || isOther b then
      match compare (versionRank a.head?) (versionRank b.head?) with
      | .eq =>
        compareVersions limit (if isOther a then a.tail else a) (if isOther b then b.tail else b)
      | different => different
    else if a = [] ∧ b = [] then .eq
    else
      let (row, restA) := Numeral.spanDigits 10 a
      let (other, restB) := Numeral.spanDigits 10 b
      match compare (Numeral.value 10 row) (Numeral.value 10 other) with
      | .eq => if row = [] ∧ other = [] then .eq else compareVersions limit restA restB
      | different => different

/-- Compares two floating numbers at the heads of texts.  What is no number comes first. -/
def compareReals (a b : Text) : Ordering :=
  match Real.ofText? a, Real.ofText? b with
  | none, none => .eq
  | none, some _ => .lt
  | some _, none => .gt
  | some (x, _), some (y, _) => if x < y then .lt else if y < x then .gt else .eq

/-- The characters of a key that count. -/
def counting (order : KeyOrder) (s : Text) : Text :=
  let s := if order.dictionary then s.filter fun c => c.isAlphanum || isBlank c
    else if order.printable then s.filter fun c => ' ' ≤ c && c ≤ '~' else s
  if order.anyCase then s.map Char.toUpper else s

/-- Compares two texts character by character. -/
def compareTexts : Text → Text → Ordering
  | [], [] => .eq
  | [], _ => .lt
  | _, [] => .gt
  | c :: a, d :: b => if c < d then .lt else if d < c then .gt else compareTexts a b

/-- Compares two parts of lines. -/
def compareParts (order : KeyOrder) (a b : Text) : Ordering :=
  let result := match order.values with
    | some 'n' => compareDecimals (decimal a) (decimal b)
    | some 'h' =>
      match compare (unitRank a) (unitRank b) with
      | .eq => compareDecimals (decimal a) (decimal b)
      | different => different
    | some 'g' => compareReals a b
    | some 'M' => compare (month a) (month b)
    | some 'V' => compareVersions (a.length + b.length + 2) a b
    | _ => compareTexts (counting order a) (counting order b)
  if order.reversed then result.swap else result

/-- Compares two lines by several keys, the first of which that differs counts. -/
def compareLines (separator : Option Char) (keys : List SortKey) (a b : Text) : Ordering :=
  match keys with
  | [] => .eq
  | key :: keys =>
    match compareParts key.order (part separator key a) (part separator key b) with
    | .eq => compareLines separator keys a b
    | different => different

/-! ## Reading keys -/

/-- Reads a position: a field, perhaps a character, and letters. -/
def readPosition (atEnd : Bool) (order : KeyOrder) (s : Text) :
    Option (Nat × Option Nat × KeyOrder × Text) := do
  let (row, s) := Numeral.spanDigits 10 s
  if row = [] then none
  let (char, s) ← match s with
    | '.' :: s =>
      match Numeral.spanDigits 10 s with
      | ([], _) => none
      | (row, s) => some (some (Numeral.value 10 row), s)
    | s => some (none, s)
  let letters := s.takeWhile (· ≠ ',')
  let order ← letters.foldlM (KeyOrder.withLetter? atEnd) order
  some (Numeral.value 10 row, char, order, s.drop letters.length)

/-- Reads a key. -/
def read (s : Text) : Option SortKey := do
  let (field, char, order, rest) ← readPosition false {} s
  if field = 0 ∨ char = some 0 then none
  let key : SortKey := { field := field - 1, char := char.getD 1 - 1, order }
  match rest with
  | ',' :: rest =>
    let (field, char, order, rest) ← readPosition true key.order rest
    if rest ≠ [] ∨ field = 0 then none
    some { key with stop := some (field - 1, char.getD 0), order }
  | _ => some key

end SortKey

namespace Tool

/-! ## Ordering -/

/-- The order that the options for all keys ask for. -/
def globalOrder (o : Options) : KeyOrder :=
  o.given.foldl
    (fun order (name, value) =>
      let letter := if name = "sort".toList then
          match String.ofList value with
          | "general-numeric" => 'g'
          | "human-numeric" => 'h'
          | "month" => 'M'
          | "numeric" => 'n'
          | "version" => 'V'
          | _ => ' '
        else match name with
          | [c] => if c = 'k' then ' ' else c
          | _ => ' '
      if letter = 'b' then { order with skipsBlanks := true, skipsEndBlanks := true }
      else (order.withLetter? false letter).getD order)
    {}

/-- Keeps the first of neighbouring lines that are equal. -/
def firstOfEqual (same : Text → Text → Bool) : Option Text → List Text → List Text
  | _, [] => []
  | last, line :: lines =>
    if last.any (same · line) then firstOfEqual same last lines
    else line :: firstOfEqual same (some line) lines

/-- The first line that stands behind one that should come later, with its number. -/
def firstDisorder (isBefore : Text → Text → Bool) : Nat → List Text → Option (Nat × Text)
  | n, a :: b :: lines =>
    if isBefore a b then firstDisorder isBefore (n + 1) (b :: lines) else some (n + 1, b)
  | _, _ => none

/-- Puts the lines of files in order. -/
def sort : Task Nat := do
  let o ← Task.options
    ("b|ignore-leading-blanks c|check? C d|dictionary-order f|ignore-case g|general-numeric-sort " ++
      "h|human-numeric-sort i|ignore-nonprinting k|key: M|month-sort m|merge n|numeric-sort " ++
      "o|output: r|reverse R|random-sort s|stable S|buffer-size: sort: t|field-separator: " ++
      "T|temporary-directory: u|unique V|version-sort z|zero-terminated parallel: debug") true 2
  let separator ← match o.value? "t" with
    | none => pure none
    | some [c] => pure (some c)
    | some ['\\', '0'] => pure (some '\x00')
    | some [] => Task.fail "empty tab".toList 2
    | some s => Task.fail ("multi-character tab ".toList ++ Quoted.plain s) 2
  let usual := globalOrder o
  let mut keys : List SortKey := []
  for text in o.values "k" do
    match SortKey.read text with
    | some key =>
      keys := keys ++ [if key.order.isUsual then { key with order := usual } else key]
    | none =>
      let row := (Numeral.spanDigits 10 text).1
      let reason := if row = [] then "invalid number at field start: invalid count at start of "
        else if Numeral.value 10 row = 0 then "field number is zero: invalid field specification "
        else "stray character in field spec: invalid field specification "
      Task.fail (reason.toList ++ Quoted.plain text) 2
  if keys = [] ∧ !({ usual with reversed := false } : KeyOrder).isUsual then
    keys := [{ order := usual }]
  let wholeLine (a b : Text) : Ordering :=
    let result := SortKey.compareTexts a b
    if usual.reversed then result.swap else result
  let finished := o.has "u" || o.has "s"
  let order (a b : Text) : Ordering :=
    match SortKey.compareLines separator keys a b with
    | .eq => if finished ∧ keys ≠ [] then .eq else wholeLine a b
    | different => different
  let mut content : Text := []
  for operand in sources o.operands do
    match ← Task.contentOf operand with
    | .ok more => content := content ++ more ++ (if more ≠ [] ∧ more.getLast? ≠ some '\n' then ['\n'] else [])
    | .error .isDirectory => Task.fail ("read failed: ".toList ++ Quoted.name operand ++ ": Is a directory".toList) 2
    | .error fault => Task.fail ("cannot read: ".toList ++ about operand fault) 2
  let lines := bareLines content
  if o.has "c" || o.has "C" then
    let accepts (a b : Text) : Bool := if o.has "u" then order a b = .lt else order a b ≠ .gt
    match firstDisorder accepts 1 lines with
    | none => return 0
    | some (n, line) =>
      if o.has "c" && o.value? "c" ≠ some "quiet".toList && o.value? "c" ≠ some "silent".toList then
        let name := o.operands.headD ['-']
        Task.complain (name ++ [':'] ++ Text.ofNat n ++ ": disorder: ".toList ++ line)
      return 1
  let ordered := lines.mergeSort fun a b => order a b ≠ .gt
  let ordered := if o.has "u" then firstOfEqual (fun a b => order a b = .eq) none ordered else ordered
  let result := ordered.flatMap (· ++ ['\n'])
  match o.value? "o" with
  | none => Task.out result
  | some file =>
    if let .error fault ← Task.writeFile file false result then
      Task.fail ("open failed: ".toList ++ about file fault) 2
  return 0

/-! ## Repetition -/

/-- Groups of neighbouring lines that are equal. -/
def equalRuns (same : Text → Text → Bool) : List Text → List (List Text)
  | [] => []
  | line :: lines =>
    match equalRuns same lines with
    | (next :: run) :: runs =>
      if same line next then (line :: next :: run) :: runs else [line] :: (next :: run) :: runs
    | _ => [[line]]

/-- Shows each of several equal neighbours once, or counts them. -/
def distinct : Task Nat := do
  let args := (← read).args.map fun arg =>
    match arg with
    | '-' :: row => if Numeral.isRow row then '-' :: 'f' :: row else arg
    | arg => arg
  let table := "c|count d|repeated D all-repeated? f|skip-fields: group? i|ignore-case " ++
    "s|skip-chars: u|unique w|check-chars: z|zero-terminated"
  let o ← match Options.read (OptionForm.table table) true args with
    | .ok o => pure o
    | .error message => Task.misuse message 1
  let amount (name what : String) : Task (Option Nat) := do
    match o.value? name with
    | none => return none
    | some row =>
      match Numeral.ofRow? row with
      | some n => return some n
      | none =>
        Task.fail (row ++ ": invalid number of ".toList ++ what.toList) 1
  let fields := (← amount "f" "fields to skip").getD 0
  let chars := (← amount "s" "bytes to skip").getD 0
  let width ← amount "w" "bytes to compare"
  if 2 < o.operands.length then
    Task.misuse ("extra operand ".toList ++ Quoted.plain (o.operands.getD 2 [])) 1
  let keyOf (line : Text) : Text :=
    let rest := (SortKey.skipFields none true fields line).drop chars
    let rest := match width with
      | some width => rest.take width
      | none => rest
    if o.has "i" then rest.map Char.toUpper else rest
  let source := o.operands.headD ['-']
  match ← Task.contentOf source with
  | .error fault => Task.fail (about source fault) 1
  | .ok content =>
    let runs := equalRuns (fun a b => keyOf a = keyOf b) (bareLines content)
    let showsAll := o.has "D" || o.has "all-repeated"
    let shown := runs.filter fun run =>
      if 1 < run.length then !(o.has "u") else !(o.has "d" || showsAll)
    let text := shown.flatMap fun run =>
      if showsAll then run.flatMap (· ++ ['\n'])
      else
        (if o.has "c" then padded 7 run.length ++ [' '] else []) ++ run.headD [] ++ ['\n']
    match o.operands[1]? with
    | none => Task.out text
    | some target =>
      if target = ['-'] then Task.out text
      else if let .error fault ← Task.writeFile target false text then
        Task.fail (about target fault) 1
    return 0

/-! ## Ordered files -/

/-- Merges two ordered lists of lines: what is only in the first, only in the second, or in both. -/
def mergeOrdered : Nat → List Text → List Text → List (Nat × Text)
  | 0, _, _ => []
  | _, [], b => b.map fun line => (2, line)
  | _, a, [] => a.map fun line => (1, line)
  | limit + 1, x :: a, y :: b =>
    match SortKey.compareTexts x y with
    | .lt => (1, x) :: mergeOrdered limit a (y :: b)
    | .gt => (2, y) :: mergeOrdered limit (x :: a) b
    | .eq => (3, x) :: mergeOrdered limit a b

/-- Compares two ordered files line by line. -/
def compareOrdered : Task Nat := do
  let o ← Task.usualOptions
    "1 2 3 check-order nocheck-order output-delimiter: total z|zero-terminated"
  match o.operands with
  | [first, second] =>
    let read (operand : Text) : Task (List Text) := do
      match ← Task.contentOf operand with
      | .ok content => return bareLines content
      | .error fault => Task.fail (about operand fault) 1
    let a ← read first
    let b ← read second
    let separator := (o.value? "output-delimiter").getD ['\t']
    let columns := [o.has "1", o.has "2", o.has "3"]
    for (column, line) in mergeOrdered (a.length + b.length) a b do
      if !columns.getD (column - 1) false then
        let shift := ((columns.take (column - 1)).filter (!·)).length
        Task.outLine ((List.replicate shift separator).flatten ++ line)
    let disorder (lines : List Text) : Bool :=
      (firstDisorder (fun a b => SortKey.compareTexts a b ≠ .gt) 1 lines).isSome
    if !o.has "nocheck-order" then
      let wrong := (if disorder a then [['1']] else []) ++ (if disorder b then [['2']] else [])
      for file in wrong do
        Task.complain ("file ".toList ++ file ++ " is not in sorted order".toList)
      if wrong ≠ [] then
        Task.complain "input is not in sorted order".toList
        return 1
    return 0
  | [] => Task.misuse "missing operand".toList 1
  | [only] => Task.misuse ("missing operand after ".toList ++ Quoted.plain only) 1
  | _ => Task.misuse ("extra operand ".toList ++ Quoted.plain (o.operands.getD 2 [])) 1

/-- The fields of a line. -/
def joinFields (separator : Option Char) (line : Text) : List Text :=
  match separator with
  | some mark => Text.splitWith (· = mark) line
  | none => (Text.splitWith SortKey.isBlank line).filter (· ≠ [])

/-- Joins the lines of two ordered files that agree in a field. -/
def join : Task Nat := do
  let o ← Task.usualOptions
    ("1: 2: j: a: v: e: i|ignore-case o: t: check-order nocheck-order header z|zero-terminated")
  match o.operands with
  | [first, second] =>
    let separator := (o.value? "t").bind List.head?
    let mark := separator.getD ' '
    let read (operand : Text) : Task (List (List Text)) := do
      match ← Task.contentOf operand with
      | .ok content => return (bareLines content).map (joinFields separator)
      | .error fault => Task.fail (about operand fault) 1
    let position (name : String) : Nat :=
      (((o.value? name).or (o.value? "j")).bind Numeral.ofRow?).getD 1 - 1
    let a ← read first
    let b ← read second
    let empty := (o.value? "e").getD []
    let keyOf (position : Nat) (row : List Text) : Text :=
      let key := row.getD position []
      if o.has "i" then key.map Char.toUpper else key
    let without (position : Nat) (row : List Text) : List Text :=
      row.take position ++ row.drop (position + 1)
    let field (row : List Text) (n : Nat) : Text :=
      match row.getD n [] with
      | [] => empty
      | s => s
    let format := o.value? "o"
    let shape (left right : Option (List Text)) : Text :=
      let key := match left, right with
        | some row, _ => row.getD (position "1") []
        | none, some row => row.getD (position "2") []
        | none, none => []
      match format with
      | some format =>
        let pieces := (Text.splitWith (fun c => c = ',' || c = ' ') format).filter (· ≠ [])
        Text.join [mark] (pieces.map fun piece =>
          match piece with
          | '1' :: '.' :: row => field (left.getD []) (Numeral.value 10 row - 1)
          | '2' :: '.' :: row => field (right.getD []) (Numeral.value 10 row - 1)
          | _ => key)
      | none =>
        Text.join [mark] (key :: (left.map (without (position "1"))).getD [] ++
          (right.map (without (position "2"))).getD [])
    let alone := o.values "a" ++ o.values "v"
    let matching (row : List Text) : List (List Text) :=
      b.filter fun other => keyOf (position "2") other = keyOf (position "1") row
    let both := if o.has "v" then [] else
      a.flatMap fun row => (matching row).map fun other =>
        (keyOf (position "1") row, shape (some row) (some other))
    let onlyLeft := if alone.contains ['1'] then
      (a.filter fun row => matching row = []).map fun row =>
        (keyOf (position "1") row, shape (some row) none) else []
    let onlyRight := if alone.contains ['2'] then
      (b.filter fun row => !(a.any fun other => keyOf (position "1") other = keyOf (position "2") row)).map
        fun row => (keyOf (position "2") row, shape none (some row)) else []
    let all := (both ++ onlyLeft ++ onlyRight).mergeSort fun x y =>
      SortKey.compareTexts x.1 y.1 ≠ .gt
    for (_, line) in all do Task.outLine line
    return 0
  | [] => Task.misuse "missing operand".toList 1
  | [only] => Task.misuse ("missing operand after ".toList ++ Quoted.plain only) 1
  | _ => Task.misuse ("extra operand ".toList ++ Quoted.plain (o.operands.getD 2 [])) 1

end Tool

end ScriptBundle

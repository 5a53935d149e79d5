/-
# Tools for files

Tools that make, copy, move, remove and list files and directories, and tools that take paths apart.

## Main content

- `Tool.lastNames` and `Tool.parents` take paths apart.
- `Tool.remove`, `Tool.makeDirectories`, `Tool.copy`, `Tool.move`, `Tool.touch` and others change
  files; `Tool.list` and `Tool.compareFiles` look at them.
-/
import ScriptBundle.Tool.Whole

namespace ScriptBundle

namespace Tool

/-! ## Paths -/

/-- A path without the slashes at its end. -/
def withoutSlashes (s : Text) : Text := (s.reverse.dropWhile (· = '/')).reverse

/-- The last name of a path. -/
def lastName (s : Text) : Text :=
  match withoutSlashes s with
  | [] => if s = [] then [] else ['/']
  | bare => (bare.reverse.takeWhile (· ≠ '/')).reverse

/-- A path without its last name. -/
def parentOf (s : Text) : Text :=
  match withoutSlashes s with
  | [] => if s = [] then ['.'] else ['/']
  | bare =>
    let above := (bare.reverse.dropWhile (· ≠ '/')).reverse
    if above = [] then ['.']
    else
      match withoutSlashes above with
      | [] => ['/']
      | above => above

/-- A name without an ending, unless nothing would be left. -/
def withoutEnding (ending name : Text) : Text :=
  if ending ≠ name ∧ ending.isSuffixOf name then name.take (name.length - ending.length) else name

/-- Shows the last names of paths. -/
def lastNames : Task Nat := do
  let o ← Task.options "a|multiple s|suffix: z|zero" false 1
  let extra (n : Nat) : Task Unit :=
    Task.misuse ("extra operand ".toList ++ Quoted.plain (o.operands.getD n [])) 1
  let ending := o.value? "s"
  match o.operands with
  | [] => Task.misuse "missing operand".toList 1
  | operands =>
    if o.has "a" || ending.isSome then
      for operand in operands do
        Task.outLine (withoutEnding (ending.getD []) (lastName operand))
    else
      if 2 < operands.length then extra 2
      Task.outLine (withoutEnding (operands.getD 1 []) (lastName (operands.headD [])))
    return 0

/-- Shows paths without their last names. -/
def parents : Task Nat := do
  let o ← Task.usualOptions "z|zero"
  if o.operands = [] then Task.misuse "missing operand".toList 1
  for operand in o.operands do Task.outLine (parentOf operand)
  return 0

/-- Shows the working directory. -/
def workingDirectory : Task Nat := do
  let place := (← Task.files).cwd
  Task.outLine ('/' :: Text.join ['/'] (place.map Utf8.narrow))
  return 0

/-! ## Removing -/

/-- Removes what stands at a path, with all below it. -/
def removeAll (path : Text) : Task (Except IoFault Unit) :=
  Task.change fun fs => do
    let (place, slash) ← fs.slot (Task.pathOf path)
    match fs.node? place with
    | some .directory => .ok (fs.removeTree place)
    | some .nullDevice => .error .denied
    | some (.file _) => if slash then .error .notDirectory else .ok (fs.erase place)
    | none => .error .notFound

/-- Whether a path ends with the name of the directory itself or of the one above. -/
def endsInDots (path : Text) : Bool :=
  let name := lastName path
  name = ['.'] || name = ['.', '.']

/-- Removes files, and directories if asked for. -/
def remove : Task Nat := do
  let o ← Task.usualOptions
    ("f|force i I interactive? r|recursive R d|dir v|verbose one-file-system no-preserve-root " ++
      "preserve-root?")
  let force := o.has "f"
  if o.operands = [] then
    if force then return 0 else Task.misuse "missing operand".toList 1
  let recursive := o.has "r" || o.has "R"
  let mut status := 0
  for operand in o.operands do
    let result ←
      if recursive && endsInDots operand then do
        Task.complain ("refusing to remove '.' or '..' directory: skipping ".toList ++
          Quoted.always operand)
        status := 1
        pure (.ok ())
      else if recursive then removeAll operand
      else
        match (← Task.files).stat (Task.pathOf operand) with
        | .ok .directory =>
          if o.has "d" then Task.change fun fs => fs.removeDirectory (Task.pathOf operand)
          else pure (.error .isDirectory)
        | _ => Task.change fun fs => fs.removeFile (Task.pathOf operand)
    match result with
    | .ok _ => if o.has "v" then Task.outLine ("removed ".toList ++ Quoted.always operand)
    | .error fault =>
      if !(force ∧ (fault = .notFound ∨ fault = .notDirectory)) then
        Task.complain ("cannot remove ".toList ++ Quoted.always operand ++ [':', ' '] ++ fault.words)
        status := 1
  return status

/-- Removes one path as the system does it. -/
def unlink : Task Nat := do
  match (← read).args with
  | [path] =>
    match ← Task.change fun fs => fs.removeFile (Task.pathOf path) with
    | .ok _ => return 0
    | .error fault =>
      Task.fail ("cannot unlink ".toList ++ Quoted.always path ++ [':', ' '] ++ fault.words) 1
  | _ => Task.misuse "missing operand".toList 1

/-- Removes empty directories. -/
def removeDirectories : Task Nat := do
  let o ← Task.usualOptions "p|parents v|verbose ignore-fail-on-non-empty"
  if o.operands = [] then Task.misuse "missing operand".toList 1
  let mut status := 0
  for operand in o.operands do
    let above := if o.has "p" then
        (List.range (operand.length + 1)).foldl
          (fun (paths : List Text) _ =>
            let next := parentOf (paths.getLastD [])
            if next = ['.'] ∨ next = ['/'] ∨ paths.contains next then paths else paths ++ [next])
          [operand]
      else [operand]
    let mut going := true
    for path in above do
      if going then
        if o.has "v" then Task.outLine ("rmdir: removing directory, ".toList ++ Quoted.always path)
        match ← Task.change fun fs => fs.removeDirectory (Task.pathOf path) with
        | .ok _ => pure ()
        | .error fault =>
          going := false
          if !(fault = .notEmpty ∧ o.has "ignore-fail-on-non-empty") then
            let what := if path = operand then "failed to remove " else "failed to remove directory "
            Task.complain (what.toList ++ Quoted.always path ++ [':', ' '] ++ fault.words)
            status := 1
  return status

/-! ## Making -/

/-- Makes a directory and those above it, where nothing stands yet. -/
def makeAll (fs : FileSystem) (p : Path) : Except IoFault FileSystem := do
  let pieces := p.pieces
  let starts := (List.range pieces.length).map fun n => Text.join ['/'] (pieces.take (n + 1))
  starts.foldlM
    (fun fs start =>
      if start = [] then .ok fs
      else
        match fs.stat ⟨start⟩ with
        | .ok .directory => .ok fs
        | .ok _ => .error (if start = withoutSlashes p.text then .alreadyThere else .notDirectory)
        | .error .notFound => fs.makeDirectory ⟨start⟩
        | .error fault => .error fault)
    fs

/-- Makes directories. -/
def makeDirectories : Task Nat := do
  let o ← Task.usualOptions "p|parents v|verbose m|mode: Z context?"
  if o.operands = [] then Task.misuse "missing operand".toList 1
  let mut status := 0
  for operand in o.operands do
    let path := Task.pathOf operand
    match ← Task.change fun fs => if o.has "p" then makeAll fs path else fs.makeDirectory path with
    | .ok _ => if o.has "v" then Task.outLine ("mkdir: created directory ".toList ++ Quoted.always operand)
    | .error fault =>
      Task.complain ("cannot create directory ".toList ++ Quoted.always operand ++ [':', ' '] ++
        fault.words)
      status := 1
  return status

/-- Makes empty files where nothing stands yet. -/
def touch : Task Nat := do
  let o ← Task.usualOptions "a c|no-create d|date: f h|no-dereference m r|reference: t: time:"
  if o.operands = [] then Task.misuse "missing file operand".toList 1
  let mut status := 0
  for operand in o.operands do
    let path := Task.pathOf operand
    let result ← Task.change fun fs =>
      match fs.stat path with
      | .ok _ => .ok fs
      | .error .notFound =>
        if o.has "c" then .ok fs
        else
          match fs.openForWriting path false with
          | .ok (_, fs) => .ok fs
          | .error .isDirectory => .error .notFound
          | .error fault => .error fault
      | .error fault => .error fault
    if let .error fault := result then
      Task.complain ("cannot touch ".toList ++ Quoted.always operand ++ [':', ' '] ++ fault.words)
      status := 1
  return status

/-! ## Copying and moving -/

/-- The path of an entry in a directory. -/
def inside (directory name : Text) : Text :=
  if directory.getLast? = some '/' then directory ++ name else directory ++ ['/'] ++ name

/-- Copies a directory with all below it to a location. -/
def copyTree (fs : FileSystem) (source target : Location) : FileSystem :=
  (fs.nodes.filter fun entry => source.isPrefixOf entry.1).foldl
    (fun fs (place, node) =>
      let new := target ++ place.drop source.length
      match node, fs.node? new with
      | .directory, some .directory => fs
      | node, _ => fs.insert new node)
    (if (fs.node? target).isSome then fs else fs.insert target .directory)

/-- The sources and the target of a tool that brings files to another place, and whether the target
is a directory that they are put into. -/
def journey (o : Options) : Task (List Text × Text × Bool) := do
  let isDirectory (path : Text) : Task Bool := return (← Task.files).isDirectory (Task.pathOf path)
  match o.value? "t" with
  | some target =>
    if o.operands = [] then Task.misuse "missing file operand".toList 1
    return (o.operands, target, true)
  | none =>
    match o.operands with
    | [] => Task.misuse "missing file operand".toList 1
    | [only] => Task.misuse ("missing destination file operand after ".toList ++ Quoted.always only) 1
    | operands =>
      let target := operands.getLastD []
      let sources := operands.dropLast
      let into ← if o.has "T" then pure false else isDirectory target
      if 1 < sources.length ∧ !into then
        let fault : IoFault := match (← Task.files).stat (Task.pathOf target) with
          | .ok _ => .notDirectory
          | .error fault => fault
        Task.fail ("target ".toList ++ Quoted.always target ++ [':', ' '] ++ fault.words) 1
      return (sources, target, into)

/-- Whether two paths lead to one place. -/
def samePlace (fs : FileSystem) (a b : Text) : Bool :=
  match fs.locate (Task.pathOf a), fs.locate (Task.pathOf b) with
  | .ok x, .ok y => x = y && (fs.node? x).isSome
  | _, _ => false

/-- Copies files, and directories if asked for. -/
def copy : Task Nat := do
  let o ← Task.usualOptions
    ("a|archive b backup? d f|force H i|interactive l|link L|dereference n|no-clobber P p preserve? " ++
      "r|recursive R s|symbolic-link S|suffix: t|target-directory: T|no-target-directory u|update? " ++
      "v|verbose x|one-file-system")
  let (sources, target, into) ← journey o
  let recursive := o.has "r" || o.has "R" || o.has "a"
  let mut status := 0
  for source in sources do
    let goal := if into then inside target (lastName source) else target
    let fs ← Task.files
    match fs.stat (Task.pathOf source) with
    | .error fault =>
      Task.complain ("cannot stat ".toList ++ Quoted.always source ++ [':', ' '] ++ fault.words)
      status := 1
    | .ok node =>
      if samePlace fs source goal then
        Task.complain (Quoted.always source ++ " and ".toList ++ Quoted.always goal ++
          " are the same file".toList)
        status := 1
      else
        match node with
        | .directory =>
          if !recursive then
            Task.complain ("-r not specified; omitting directory ".toList ++ Quoted.always source)
            status := 1
          else
            match fs.locate (Task.pathOf source), fs.slot (Task.pathOf goal) with
            | .ok old, .ok (new, _) =>
              if (fs.node? new.dropLast).isNone then
                Task.complain ("cannot create directory ".toList ++ Quoted.always goal ++
                  ": No such file or directory".toList)
                status := 1
              else if old.isPrefixOf new then
                Task.complain ("cannot copy a directory, ".toList ++ Quoted.always source ++
                  ", into itself, ".toList ++ Quoted.always goal)
                status := 1
              else modify fun w => { w with files := copyTree w.files old new }
            | _, .error fault =>
              Task.complain ("cannot create directory ".toList ++ Quoted.always goal ++ [':', ' '] ++
                fault.words)
              status := 1
            | .error _, _ => pure ()
        | _ =>
          let isThere := (fs.stat (Task.pathOf goal)).toOption.isSome
          if !(o.has "n" && isThere) then
            let content := (fs.readBytes (Task.pathOf source)).toOption.getD []
            if let .error fault ← Task.writeFile goal false (Utf8.spread content) then
              Task.complain ("cannot create regular file ".toList ++ Quoted.always goal ++
                [':', ' '] ++ fault.words)
              status := 1
            else if o.has "v" then
              Task.outLine (Quoted.always source ++ " -> ".toList ++ Quoted.always goal)
  return status

/-- Moves files and directories. -/
def move : Task Nat := do
  let o ← Task.usualOptions
    ("b backup? f|force i|interactive n|no-clobber S|suffix: t|target-directory: " ++
      "T|no-target-directory u|update? v|verbose")
  let (sources, target, into) ← journey o
  let mut status := 0
  for source in sources do
    let goal := if into then inside target (lastName source) else target
    let fs ← Task.files
    match fs.stat (Task.pathOf source) with
    | .error fault =>
      Task.complain ("cannot stat ".toList ++ Quoted.always source ++ [':', ' '] ++ fault.words)
      status := 1
    | .ok node =>
      let isThere := (fs.stat (Task.pathOf goal)).toOption.isSome
      if samePlace fs source goal then
        Task.complain (Quoted.always source ++ " and ".toList ++ Quoted.always goal ++
          " are the same file".toList)
        status := 1
      else if !(o.has "n" && isThere) then
        match ← Task.change fun fs => fs.move (Task.pathOf source) (Task.pathOf goal) with
        | .ok _ =>
          if o.has "v" then
            Task.outLine ("renamed ".toList ++ Quoted.always source ++ " -> ".toList ++
              Quoted.always goal)
        | .error fault =>
          let message := match node, fault with
            | .directory, .invalid =>
              "cannot move ".toList ++ Quoted.always source ++ " to a subdirectory of itself, ".toList ++
                Quoted.always goal
            | .directory, .notDirectory =>
              "cannot overwrite non-directory ".toList ++ Quoted.always goal ++
                " with directory ".toList ++ Quoted.always source
            | _, .isDirectory =>
              "cannot overwrite directory ".toList ++ Quoted.always goal ++
                " with non-directory".toList
            | _, fault =>
              "cannot move ".toList ++ Quoted.always source ++ " to ".toList ++ Quoted.always goal ++
                [':', ' '] ++ fault.words
          Task.complain message
          status := 1
  return status

/-- Makes other names for files.  As links are not kept apart from files, a link is a copy. -/
def link : Task Nat := do
  let o ← Task.usualOptions
    "b backup? d f|force i|interactive n|no-dereference r|relative s|symbolic t: T v|verbose"
  match o.operands with
  | [] => Task.misuse "missing file operand".toList 1
  | operands =>
    let source := operands.headD []
    let target := operands.getD 1 (lastName source)
    let fs ← Task.files
    let goal := if fs.isDirectory (Task.pathOf target) then inside target (lastName source) else target
    match fs.readBytes (Task.pathOf source) with
    | .error fault =>
      Task.fail ("failed to access ".toList ++ Quoted.always source ++ [':', ' '] ++ fault.words) 1
    | .ok content =>
      if (fs.stat (Task.pathOf goal)).toOption.isSome ∧ !o.has "f" then
        let kind := if o.has "s" then "failed to create symbolic link " else "failed to create hard link "
        Task.fail (kind.toList ++ Quoted.always goal ++ ": File exists".toList) 1
      match ← Task.writeFile goal false (Utf8.spread content) with
      | .ok _ => return 0
      | .error fault =>
        Task.fail ("failed to create hard link ".toList ++ Quoted.always goal ++ [':', ' '] ++
          fault.words) 1

/-- Accepts a mode for files, which are all alike. -/
def changeMode : Task Nat := do
  let args := (← read).args.filter fun arg => arg.head? ≠ some '-'
  match args with
  | [] => Task.misuse "missing operand".toList 1
  | [mode] => Task.misuse ("missing operand after ".toList ++ Quoted.plain mode) 1
  | _ :: paths =>
    let mut status := 0
    for path in paths do
      if let .error fault := (← Task.files).stat (Task.pathOf path) then
        Task.complain ("cannot access ".toList ++ Quoted.always path ++ [':', ' '] ++ fault.words)
        status := 1
    return status

/-- Changes the size of files. -/
def truncate : Task Nat := do
  let o ← Task.usualOptions "c|no-create o|io-blocks r|reference: s|size:"
  if o.operands = [] then Task.misuse "missing file operand".toList 1
  match (o.value? "s").bind size? with
  | none => Task.misuse ("you must specify either ".toList ++ Quoted.plain "--size".toList ++ " or ".toList ++
      Quoted.plain "--reference".toList) 1
  | some size =>
    for operand in o.operands do
      let old := match ← Task.fileContent operand with
        | .ok content => content
        | .error _ => []
      let _ ← Task.writeFile operand false
        (old.take size ++ List.replicate (size - old.length) '\x00')
    return 0

/-! ## Listing -/

/-- The names in a directory, in ascending order. -/
def sortedEntries (fs : FileSystem) (place : Location) : List Text :=
  Text.nameSet ((fs.entries place).map Utf8.narrow)

/-- A name with the mark of its kind. -/
def marked (o : Options) (fs : FileSystem) (place : Location) (name : Text) : Text :=
  let isDirectory := fs.node? place = some .directory
  name ++ (if isDirectory && (o.has "p" || o.has "F") then ['/'] else [])

/-- Shows a directory, and the ones below it if asked for. -/
def listDirectory (o : Options) (fs : FileSystem) : Nat → Text → Location → Text
  | 0, _, _ => []
  | depth + 1, title, place =>
    let names := sortedEntries fs place
    let all := if o.has "a" then ['.'] :: ['.', '.'] :: names else names
    let shown := all.filter fun name => o.has "a" || o.has "A" || name.head? ≠ some '.'
    let shown := if o.has "r" then shown.reverse else shown
    let lines := shown.flatMap fun name =>
      let inner := if name = ['.'] ∨ name = ['.', '.'] then place else place ++ [Utf8.widen name]
      marked o fs inner name ++ ['\n']
    let below := if o.has "R" then
        (shown.filter fun name => fs.node? (place ++ [Utf8.widen name]) = some .directory).flatMap
          fun name =>
            '\n' :: inside title name ++ [':', '\n'] ++
              listDirectory o fs depth (inside title name) (place ++ [Utf8.widen name])
      else []
    lines ++ below

/-- Lists directories and files. -/
def list : Task Nat := do
  let o ← Task.options
    ("1 a|all A|almost-all b B c C d|directory f F|classify? g G h i k l m n N o p q Q r|reverse " ++
      "R|recursive s S t u U v w: x X Z color? sort: time: group-directories-first") true 2
  let fs ← Task.files
  let mut status := 0
  let mut names : List Text := []
  let mut directories : List Text := []
  for operand in if o.operands = [] then [['.']] else o.operands do
    match fs.stat (Task.pathOf operand) with
    | .error fault =>
      Task.complain ("cannot access ".toList ++ Quoted.always operand ++ [':', ' '] ++ fault.words)
      status := 2
    | .ok .directory =>
      if o.has "d" then names := names ++ [operand] else directories := directories ++ [operand]
    | .ok _ => names := names ++ [operand]
  let arranged (names : List Text) : List Text :=
    let sorted := names.mergeSort fun a b => !(b < a)
    if o.has "r" then sorted.reverse else sorted
  for name in arranged names do
    let place := (fs.locate (Task.pathOf name)).toOption.getD []
    Task.outLine (marked o fs place name)
  let titles := 1 < o.operands.length || o.has "R"
  let mut isFirst := names.isEmpty
  for directory in arranged directories do
    let place := (fs.locate (Task.pathOf directory)).toOption.getD []
    if titles then Task.out ((if isFirst then [] else ['\n']) ++ directory ++ [':', '\n'])
    isFirst := false
    Task.out (listDirectory o fs (fs.nodes.length + 1) directory place)
  return status

/-- Shows where paths lead. -/
def resolvePaths (link : Bool) : Task Nat := do
  let o ← Task.usualOptions
    "f|canonicalize e|canonicalize-existing m|canonicalize-missing n|no-newline q s v z L P"
  if o.operands = [] then Task.misuse "missing operand".toList 1
  let follows := o.has "f" || o.has "e" || o.has "m" || !link
  let fs ← Task.files
  let mut status := 0
  for operand in o.operands do
    if !follows then status := 1
    else
      let place := if o.has "e" then fs.locate (Task.pathOf operand)
        else (fs.slot (Task.pathOf operand)).map (·.1)
      match place with
      | .ok place =>
        Task.out ('/' :: Text.join ['/'] (place.map Utf8.narrow) ++
          (if o.has "n" then [] else ['\n']))
      | .error fault =>
        if !link then Task.complain (about operand fault)
        status := 1
  return status

/-! ## Comparing -/

/-- Where two contents differ first: the number of the byte and of its line. -/
def firstDifference : Nat → Nat → Text → Text → Option (Nat × Nat × Bool)
  | _, _, [], [] => none
  | byte, line, [], _ | byte, line, _, [] => some (byte, line, false)
  | byte, line, c :: a, d :: b =>
    if c = d then firstDifference (byte + 1) (if c = '\n' then line + 1 else line) a b
    else some (byte, line, true)

/-- Compares two files byte by byte. -/
def compareFiles : Task Nat := do
  let o ← Task.options "b|print-bytes i: l|verbose n|bytes: s|quiet s|silent" true 2
  let first := o.operands.headD ['-']
  let second := o.operands.getD 1 ['-']
  if o.operands = [] then Task.misuse "missing operand after 'cmp'".toList 2
  let load (operand : Text) : Task Text := do
    match ← Task.contentOf operand with
    | .ok content => return content
    | .error fault =>
      if !o.has "s" then Task.complain (operand ++ [':', ' '] ++ fault.words)
      Task.quit 2
  let a ← load first
  let b ← load second
  let cut (s : Text) : Text := match (o.value? "n").bind size? with
    | some n => s.take n
    | none => s
  let a := cut a
  let b := cut b
  match firstDifference 1 1 a b with
  | none => return 0
  | some (byte, line, true) =>
    if !o.has "s" then
      Task.outLine (first ++ [' '] ++ second ++ " differ: byte ".toList ++ Text.ofNat byte ++
        ", line ".toList ++ Text.ofNat line)
    return 1
  | some (byte, line, false) =>
    if !o.has "s" then
      let short := if a.length < b.length then first else second
      let content := if a.length < b.length then a else b
      if content = [] then Task.complain ("EOF on ".toList ++ Quoted.plain short ++ " which is empty".toList)
      else
        let place := if content.getLast? = some '\n' then ", line ".toList ++ Text.ofNat (line - 1)
          else ", in line ".toList ++ Text.ofNat line
        Task.complain ("EOF on ".toList ++ Quoted.plain short ++ " after byte ".toList ++
          Text.ofNat (byte - 1) ++ place)
    return 1

end Tool

end ScriptBundle

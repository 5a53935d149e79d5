/-
# Arithmetic

Expressions over whole numbers of 64 bits, with variables that they can set.

## Main content

- `Calculation.combine` computes the operations on two numbers.
- `Action.calculate` computes an expression; what is not needed is read and not computed.
-/
import ScriptBundle.Shell.Session

namespace ScriptBundle

namespace Shell

namespace Calculation

/-- A symbol of an expression. -/
inductive Symbol where
  /-- A number. -/
  | number (n : Int)
  /-- A variable. -/
  | name (s : Text)
  /-- A sign. -/
  | sign (s : String)
  deriving DecidableEq

/-- The signs, longer ones before those that they begin with. -/
def signs : List String :=
  ["<<=", ">>=", "<<", ">>", "<=", ">=", "==", "!=", "&&", "||", "+=", "-=", "*=", "/=", "%=", "&=",
    "|=", "^=", "(", ")", "!", "~", "*", "/", "%", "+", "-", "<", ">", "&", "^", "|", "?", ":", "="]

/-- The symbols of an expression.  A character that means nothing is a sign of its own. -/
def symbols : Nat → Text → List Symbol
  | 0, _ => []
  | limit + 1, s =>
    match s with
    | [] => []
    | c :: rest =>
      if Numeral.isBlank c then symbols limit rest
      else if c.isDigit then
        match Numeral.readNatural true s with
        | some (n, rest) => .number (Numeral.clamp n) :: symbols limit rest
        | none => [.sign "."]
      else if startsName c then
        let name := s.takeWhile continuesName
        .name name :: symbols limit (s.drop name.length)
      else
        match signs.find? fun sign => sign.toList.isPrefixOf s with
        | some sign => .sign sign :: symbols limit (s.drop sign.length)
        | none => [.sign "."]

/-- How tightly an operation binds its numbers; tighter ones have smaller levels. -/
def level? : String → Option Nat
  | "*" | "/" | "%" => some 0
  | "+" | "-" => some 1
  | "<<" | ">>" => some 2
  | "<" | "<=" | ">" | ">=" => some 3
  | "==" | "!=" => some 4
  | "&" => some 5
  | "^" => some 6
  | "|" => some 7
  | _ => none

/-- How many levels there are. -/
def levels : Nat := 8

/-- The operation that a sign for setting a variable carries out first, if any. -/
def setting? : String → Option (Option String)
  | "=" => some none
  | "*=" => some "*"
  | "/=" => some "/"
  | "%=" => some "%"
  | "+=" => some "+"
  | "-=" => some "-"
  | "<<=" => some "<<"
  | ">>=" => some ">>"
  | "&=" => some "&"
  | "^=" => some "^"
  | "|=" => some "|"
  | _ => none

/-- The number of a truth value. -/
def ofBool (b : Bool) : Int := if b then 1 else 0

/-- Computes an operation on the bits of two numbers. -/
def onBits (f : BitVec 64 → BitVec 64 → BitVec 64) (a b : Int) : Int :=
  (f (BitVec.ofInt 64 a) (BitVec.ofInt 64 b)).toInt

/-- Computes an operation on two numbers.  Numbers turn around at 64 bits, and division goes toward
zero; there is no answer for a division by zero. -/
def combine (sign : String) (a b : Int) : Option Int :=
  match sign with
  | "*" => some (Numeral.wrap (a * b))
  | "/" => if b = 0 then none else some (Numeral.wrap (Int.tdiv a b))
  | "%" => if b = 0 then none else some (Int.tmod a b)
  | "+" => some (Numeral.wrap (a + b))
  | "-" => some (Numeral.wrap (a - b))
  | "<<" => some (onBits (fun x y => x <<< (y.toNat % 64)) a b)
  | ">>" => some (onBits (fun x y => x.sshiftRight (y.toNat % 64)) a b)
  | "<" => some (ofBool (a < b))
  | "<=" => some (ofBool (a ≤ b))
  | ">" => some (ofBool (b < a))
  | ">=" => some (ofBool (b ≤ a))
  | "==" => some (ofBool (a = b))
  | "!=" => some (ofBool (a ≠ b))
  | "&" => some (onBits (· &&& ·) a b)
  | "^" => some (onBits (· ^^^ ·) a b)
  | "|" => some (onBits (· ||| ·) a b)
  | _ => none

/-- Refuses an expression. -/
def refuse {α : Type} (whole : Text) (message : String) : Action α :=
  Action.refuse ("arithmetic expression: ".toList ++ message.toList ++ ": \"".toList ++ whole ++ ['"'])

/-- The number of a variable.  One without a value counts as zero. -/
def look (name : Text) : Action Int := do
  let value := (← Action.value? name).getD []
  if value.all Numeral.isBlank then return 0
  match Action.integerOf? true value with
  | some n => return n
  | none => Action.refuseNumber value

/-- Computes an operation on two numbers, if its result is needed. -/
def apply (whole : Text) (sign : String) (isLive : Bool) (a b : Int) : Action Int := do
  if !isLive then return b
  match combine sign a b with
  | some n => return n
  | none => refuse whole "division by zero"

/-- What is computed from the symbols at the head, and what follows. -/
abbrev Step := Action (Int × List Symbol)

/-- How expressions inside an expression are computed. -/
structure Inner where
  /-- Computes an expression that may set a variable. -/
  whole : Bool → List Symbol → Step

/-- Computes an operand. -/
def operand (text : Text) (inner : Inner) (isLive : Bool) : List Symbol → Step
  | .number n :: rest => return (n, rest)
  | .name name :: rest => do
    let n ← if isLive then look name else pure 0
    return (n, rest)
  | .sign sign :: rest => do
    match sign with
    | "(" =>
      let (n, rest) ← inner.whole isLive rest
      match rest with
      | .sign ")" :: rest => return (n, rest)
      | _ => refuse text "expecting ')'"
    | "+" => operand text inner isLive rest
    | "-" =>
      let (n, rest) ← operand text inner isLive rest
      return (Numeral.wrap (-n), rest)
    | "!" =>
      let (n, rest) ← operand text inner isLive rest
      return (ofBool (n = 0), rest)
    | "~" =>
      let (n, rest) ← operand text inner isLive rest
      return (-n - 1, rest)
    | _ => refuse text "expecting primary"
  | [] => refuse text "expecting primary"

/-- Computes the operations of a level that follow a number. -/
def further (text : Text) (isLive : Bool) (level : Nat) (next : List Symbol → Step) :
    Nat → Int → List Symbol → Step
  | 0, a, rest => return (a, rest)
  | limit + 1, a, rest => do
    match rest with
    | .sign sign :: behind =>
      if level? sign = some level then
        let (b, rest) ← next behind
        further text isLive level next limit (← apply text sign isLive a b) rest
      else return (a, rest)
    | rest => return (a, rest)

/-- Computes operations below a level. -/
def operations (text : Text) (inner : Inner) (isLive : Bool) : Nat → List Symbol → Step
  | 0, symbols => operand text inner isLive symbols
  | level + 1, symbols => do
    let (a, rest) ← operations text inner isLive level symbols
    further text isLive level (operations text inner isLive level) rest.length a rest

/-- Computes a conjunction. -/
def conjunction (text : Text) (inner : Inner) : Nat → Bool → List Symbol → Step
  | 0, isLive, symbols => operations text inner isLive levels symbols
  | limit + 1, isLive, symbols => do
    let (a, rest) ← operations text inner isLive levels symbols
    match rest with
    | .sign "&&" :: rest =>
      let (b, rest) ← conjunction text inner limit (isLive && a ≠ 0) rest
      return (ofBool (a ≠ 0 && b ≠ 0), rest)
    | rest => return (a, rest)

/-- Computes a disjunction. -/
def disjunction (text : Text) (inner : Inner) : Nat → Bool → List Symbol → Step
  | 0, isLive, symbols => conjunction text inner symbols.length isLive symbols
  | limit + 1, isLive, symbols => do
    let (a, rest) ← conjunction text inner symbols.length isLive symbols
    match rest with
    | .sign "||" :: rest =>
      let (b, rest) ← disjunction text inner limit (isLive && a = 0) rest
      return (ofBool (a ≠ 0 || b ≠ 0), rest)
    | rest => return (a, rest)

/-- Computes a choice. -/
def choice (text : Text) (inner : Inner) : Nat → Bool → List Symbol → Step
  | 0, isLive, symbols => disjunction text inner symbols.length isLive symbols
  | limit + 1, isLive, symbols => do
    let (a, rest) ← disjunction text inner symbols.length isLive symbols
    match rest with
    | .sign "?" :: rest =>
      let (b, rest) ← inner.whole (isLive && a ≠ 0) rest
      match rest with
      | .sign ":" :: rest =>
        let (c, rest) ← choice text inner limit (isLive && a = 0) rest
        return (if a ≠ 0 then b else c, rest)
      | _ => refuse text "expecting ':'"
    | rest => return (a, rest)

/-- Computes an expression that may set a variable. -/
def whole (text : Text) : Nat → Bool → List Symbol → Step
  | 0, _, _ => refuse text "expecting primary"
  | limit + 1, isLive, symbols => do
    let inner : Inner := ⟨whole text limit⟩
    match symbols with
    | .name name :: .sign sign :: rest =>
      match setting? sign with
      | some operation =>
        let (b, rest) ← whole text limit isLive rest
        if !isLive then return (b, rest)
        let n ← match operation with
          | some operation => apply text operation true (← look name) b
          | none => pure b
        Action.setValue name (Numeral.ofInt n)
        return (n, rest)
      | none => choice text inner symbols.length isLive symbols
    | symbols => choice text inner symbols.length isLive symbols

end Calculation

namespace Action

/-- Computes an expression. -/
def calculate (text : Text) : Action Int := do
  let symbols := Calculation.symbols (text.length + 1) text
  let (n, rest) ← Calculation.whole text (symbols.length + 1) true symbols
  if rest ≠ [] then Calculation.refuse text "expecting EOF"
  return n

end Action

end Shell

end ScriptBundle

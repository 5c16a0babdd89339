import Scaffold.Script.Occurrence
import Scaffold.Script.Utility

/-!
# Formula — arguments that are calculated

A formula is written as a row of arguments, texts and operators. A text that spells an integer is a
number for the operators that need one.
-/

set_option autoImplicit false

namespace Scaffold.Script

namespace Formula

/-- What is wrong with a formula. -/
inductive Fault
  | missingOperand
  | missingAfter (text : String)
  | unexpected (text : String)
  | unclosedAfter (text : String)
  | notInteger
  | divisionByZero
  | badPattern (fault : Expression.Fault)
  deriving DecidableEq, Repr

/-- The wording of a fault. -/
def Fault.message : Fault → String
  | .missingOperand => "missing operand"
  | .missingAfter text => "syntax error: missing argument after '" ++ text ++ "'"
  | .unexpected text => "syntax error: unexpected argument '" ++ text ++ "'"
  | .unclosedAfter text => "syntax error: expecting ')' after '" ++ text ++ "'"
  | .notInteger => "non-integer argument"
  | .divisionByZero => "division by zero"
  | .badPattern fault => fault.message

/-- The integer that a text spells. -/
def integer? (text : String) : Option Int :=
  let (negative, digits) := match text.toList with
    | '-' :: rest => (true, rest)
    | rest => (false, rest)
  if digits.isEmpty || !digits.all Char.isDigit then none
  else
    let n : Nat := digits.foldl (fun n c => n * 10 + (c.toNat - 48)) 0
    some (if negative then -(n : Int) else n)

/-- The text counts as false. -/
def isNull (text : String) : Bool := text.isEmpty || integer? text = some 0

/-- A truth value as a text. -/
def truth (b : Bool) : String := if b then "1" else "0"

/-- The operators of every level, the weakest first. -/
def levels : List (List String) :=
  [["|"], ["&"], ["<", "<=", "=", "==", "!=", ">=", ">"], ["+", "-"], ["*", "/", "%"], [":"]]

/-- Compares two numbers, or two texts. -/
def compare (op a b : String) : Bool :=
  let order : Ordering := match integer? a, integer? b with
    | some m, some n => Ord.compare m n
    | _, _ => if a < b then .lt else if b < a then .gt else .eq
  match op with
  | "<" => order = .lt
  | "<=" => order ≠ .gt
  | "=" | "==" => order = .eq
  | "!=" => order ≠ .eq
  | ">=" => order ≠ .lt
  | _ => order = .gt

/-- Calculates with two numbers. -/
def arithmetic (op : String) (m n : Int) : Except Fault Int :=
  match op with
  | "+" => .ok (m + n)
  | "-" => .ok (m - n)
  | "*" => .ok (m * n)
  | "/" => if n = 0 then .error .divisionByZero else .ok (m.tdiv n)
  | _ => if n = 0 then .error .divisionByZero else .ok (m.tmod n)

/-- The part of a text at its start that a pattern matches: the first group if there is one, or how
long the part is. -/
def matched (text pattern : String) : Except Fault String :=
  match Expression.ofText { hasEmptyRanges := true } pattern with
  | .error fault => .error (.badPattern fault)
  | .ok p =>
    let chars := text.toList.toArray
    let found := p.findAt? chars 0
    let part (n : Nat) : Option (Nat × Nat) := found.bind (·.group? n)
    if 0 < p.groups then
      .ok ((part 1).elim "" fun (b, e) => String.ofList (chars.extract b e).toList)
    else .ok (toString ((part 0).elim 0 fun (b, e) => e - b))

/-- The value of an operator on two values. -/
def apply (op a b : String) : Except Fault String :=
  match op with
  | "|" => .ok (if !isNull a then a else if !isNull b then b else "0")
  | "&" => .ok (if isNull a || isNull b then "0" else a)
  | ":" => matched a b
  | op =>
    if ["+", "-", "*", "/", "%"].contains op then
      match integer? a, integer? b with
      | some m, some n => (arithmetic op m n).map toString
      | _, _ => .error .notInteger
    else .ok (truth (compare op a b))

/-- The place of the first character of a text that is one of others, counted from one. -/
def firstOf (text chars : String) : Nat :=
  match text.toList.findIdx? chars.toList.contains with
  | some n => n + 1
  | none => 0

/-- A part of a text, from a place counted from one. -/
def partOf (text start length : String) : String :=
  match integer? start, integer? length with
  | some start, some length =>
    if start ≤ 0 || length ≤ 0 then ""
    else String.ofList ((text.toList.drop (start.toNat - 1)).take length.toNat)
  | _, _ => ""

mutual

/-- Calculates an operand; `last` is the argument in front of it. -/
def operand : Nat → String → List String → Except Fault (String × String × List String)
  | 0, last, _ | _, last, [] => .error (.missingAfter last)
  | fuel + 1, _, word :: rest =>
    let one (f : String → String) : Except Fault (String × String × List String) := do
      let (a, last, rest) ← operand fuel word rest
      return (f a, last, rest)
    match word with
    | "(" => do
      let (a, last, rest) ← level fuel levels word rest
      match rest with
      | ")" :: rest => return (a, ")", rest)
      | [] => throw (.unclosedAfter last)
      | text :: _ => throw (.unexpected text)
    | ")" => .error (.unexpected ")")
    | "+" =>
      match rest with
      | [] => .error (.missingAfter "+")
      | text :: rest => .ok (text, text, rest)
    | "length" => one fun a => toString a.length
    | "match" => do
      let (a, last, rest) ← operand fuel word rest
      let (b, last, rest) ← operand fuel last rest
      return (← matched a b, last, rest)
    | "index" => do
      let (a, last, rest) ← operand fuel word rest
      let (b, last, rest) ← operand fuel last rest
      return (toString (firstOf a b), last, rest)
    | "substr" => do
      let (a, last, rest) ← operand fuel word rest
      let (b, last, rest) ← operand fuel last rest
      let (c, last, rest) ← operand fuel last rest
      return (partOf a b c, last, rest)
    | text => .ok (text, text, rest)

/-- Calculates operators of a level and those that bind more strongly. -/
def level : Nat → List (List String) → String → List String →
    Except Fault (String × String × List String)
  | 0, _, last, _ => .error (.missingAfter last)
  | fuel + 1, [], last, ts => operand fuel last ts
  | fuel + 1, ops :: more, last, ts => do
    let (a, last, rest) ← level fuel more last ts
    chain fuel ops more a last rest

/-- Goes on with operators of a level behind a value. -/
def chain : Nat → List String → List (List String) → String → String → List String →
    Except Fault (String × String × List String)
  | 0, _, _, a, last, ts => .ok (a, last, ts)
  | _, _, _, a, last, [] => .ok (a, last, [])
  | fuel + 1, ops, more, a, last, op :: rest =>
    if ops.contains op then do
      let (b, last, rest) ← level fuel more op rest
      let c ← apply op a b
      chain fuel ops more c last rest
    else .ok (a, last, op :: rest)

end

/-- The value of a formula. -/
def value (args : List String) : Except Fault String := do
  if args.isEmpty then throw .missingOperand
  let (a, _, rest) ← level (10 * args.length + 20) levels "" args
  match rest with
  | [] => return a
  | text :: _ => throw (.unexpected text)

/-- Calculates a formula. -/
def expr : Program := fun args _ s =>
  match value (if args.head? == some "--" then args.drop 1 else args) with
  | .ok text => Utility.bad (if isNull text then 1 else 0) (out (text ++ "\n")) s
  | .error .missingOperand => Tool.misused "expr" Fault.missingOperand.message 2 s
  | .error fault => Utility.bad 2 (err ("expr: " ++ fault.message ++ "\n")) s

end Formula

end Scaffold.Script

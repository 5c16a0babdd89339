import Scaffold.Script.Expression
import Scaffold.Script.Utility

/-!
# Conditions — arguments that say what must hold

A condition is written as a row of arguments: operators on texts, numbers and files, joined by `-a`
and `-o`. The number of arguments says how a short row is read: three arguments with an operator in
the middle compare the outer two, whatever these look like.
-/

set_option autoImplicit false

namespace Scaffold.Script

namespace Conditions

/-- How patterns of conditions are written. -/
def patternStyle : Expression.Style :=
  { isExtended := true, lead := .fault, isStrict := true, hasLooseClose := true }

/-- What is wrong with a condition. -/
inductive Fault
  | notNumber (text : String)
  | missingOperand (op : String)
  | unexpected (text : String)
  | notUnary (text : String)
  | notBinary (text : String)
  | tooMany
  /-- A parenthesis is not closed; another argument may stand in its place. -/
  | unclosed (found : Option String)
  | noBracket
  deriving DecidableEq, Repr

/-- The wording of a fault. -/
def Fault.message (isBash : Bool) : Fault → String
  | .notNumber text =>
    if isBash then text ++ ": integer expression expected" else "Illegal number: " ++ text
  | .missingOperand op => if isBash then "argument expected" else op ++ ": argument expected"
  | .unexpected text => text ++ ": unexpected operator"
  | .notUnary text => text ++ ": unary operator expected"
  | .notBinary text => text ++ ": binary operator expected"
  | .tooMany => "too many arguments"
  | .unclosed found =>
    if isBash then "\x60)' expected" ++ found.elim "" (", found " ++ ·)
    else "closing paren expected"
  | .noBracket => if isBash then "missing \x60]'" else "missing ]"

/-! ## Operators -/

/-- The operators on one operand. -/
def unaryNames (isBash : Bool) : List String :=
  ["-n", "-z", "-e", "-f", "-d", "-r", "-w", "-x", "-s", "-h", "-L", "-t", "-b", "-c", "-p", "-u",
    "-g", "-k", "-S", "-O", "-G"] ++ if isBash then ["-a", "-v", "-o", "-N", "-R"] else []

/-- The operators on two texts. -/
def textNames (isBash : Bool) : List String :=
  ["=", "!=", "<", ">"] ++ if isBash then ["=="] else []

/-- The operators on two numbers. -/
def numberNames : List String := ["-eq", "-ne", "-lt", "-le", "-gt", "-ge"]

/-- The operators on two files. -/
def fileNames : List String := ["-nt", "-ot", "-ef"]

/-- The argument is an operator on two operands. -/
def isBinary (isBash : Bool) (op : String) : Bool :=
  (textNames isBash).contains op || numberNames.contains op || fileNames.contains op

/-- The condition on one operand holds. -/
def unary (s : Session) (op text : String) : Bool :=
  match op with
  | "-n" => !text.isEmpty
  | "-z" => text.isEmpty
  | "-f" => s.tree.kind? text = some .file
  | "-d" => s.tree.kind? text = some .directory
  | "-h" | "-L" => match s.tree.named? text with
    | some (.link _) => true
    | _ => false
  | "-s" => match s.tree.read text with
    | .ok content => !content.isEmpty
    | .error _ => s.tree.kind? text = some .directory
  | "-x" => s.tree.kind? text = some .directory ||
    match s.tree.place text with
    | .ok p => s.runnable.contains p
    | .error _ => false
  | "-v" => (s.value? text).isSome || (s.row? text).isSome
  | "-c" => text == "/dev/null"
  | "-e" | "-a" | "-r" | "-w" | "-O" | "-G" => (s.tree.kind? text).isSome || text == "/dev/null"
  | _ => false

/-- The number that an operand spells. -/
def number (text : String) : Except Fault Int :=
  let isSpace (c : Char) : Bool := [' ', '\t', '\n', '\x0b', '\x0c', '\x0d'].contains c
  let cs := ((text.toList.dropWhile isSpace).reverse.dropWhile isSpace).reverse
  let (negative, digits) := match cs with
    | '-' :: rest => (true, rest)
    | '+' :: rest => (false, rest)
    | rest => (false, rest)
  let n : Nat := digits.foldl (fun n c => n * 10 + (c.toNat - 48)) 0
  let most : Nat := Nat.pow 2 63
  if digits.isEmpty || !digits.all Char.isDigit || most ≤ n then .error (.notNumber text)
  else .ok (if negative then -(n : Int) else n)

/-- Compares two numbers. -/
def compare (op : String) (m n : Int) : Bool :=
  match op with
  | "-eq" => m = n
  | "-ne" => m ≠ n
  | "-lt" => m < n
  | "-le" => m ≤ n
  | "-gt" => m > n
  | _ => m ≥ n

/-- The condition on two operands holds. -/
def binary (s : Session) (op a b : String) : Except Fault Bool :=
  match op with
  | "=" | "==" => .ok (a == b)
  | "!=" => .ok (a != b)
  | "<" => .ok (a < b)
  | ">" => .ok (b < a)
  | "-ef" => .ok (match s.tree.place a, s.tree.place b with
    | .ok p, .ok q => p = q
    | _, _ => false)
  | "-nt" => .ok ((s.tree.kind? a).isSome && (s.tree.kind? b).isNone)
  | "-ot" => .ok ((s.tree.kind? b).isSome && (s.tree.kind? a).isNone)
  | op => do
    let m ← number a
    let n ← number b
    return compare op m n

/-! ## Rows that are read by their operators -/

/-- What an argument is, in front of others. -/
inductive Role
  | ending | operand | unaryOp | binaryOp | both | either | not | opening | closing
  deriving DecidableEq, Repr

/-- What the first argument is. An operator on one operand is an operand itself in front of an
operator on two. -/
def role : List String → Role
  | [] => .ending
  | t :: rest =>
    if (unaryNames false).contains t then
      match rest with
      | [] => .operand
      | [_] => .unaryOp
      | next :: _ :: _ => if isBinary false next then .operand else .unaryOp
    else if isBinary false t then .binaryOp
    else
      match t, rest with
      | "-a", _ => .both
      | "-o", _ => .either
      | "!", _ => .not
      | "(", [] => .operand
      | "(", _ => .opening
      | ")", _ => .closing
      | _, _ => .operand

mutual

/-- Conditions of which one holds. -/
def someOf (s : Session) : Nat → Role → List String → Except Fault (Bool × List String)
  | 0, _, ts => .ok (false, ts)
  | fuel + 1, r, ts => do
    let (a, ts) ← allOf s fuel r ts
    if role ts = .either then
      let (b, ts) ← someOf s fuel (role (ts.drop 1)) (ts.drop 1)
      return (a || b, ts)
    else return (a, ts)

/-- Conditions that all hold. -/
def allOf (s : Session) : Nat → Role → List String → Except Fault (Bool × List String)
  | 0, _, ts => .ok (false, ts)
  | fuel + 1, r, ts => do
    let (a, ts) ← single s fuel r ts
    if role ts = .both then
      let (b, ts) ← allOf s fuel (role (ts.drop 1)) (ts.drop 1)
      return (a && b, ts)
    else return (a, ts)

/-- A condition without `-a` and `-o` around it. -/
def single (s : Session) : Nat → Role → List String → Except Fault (Bool × List String)
  | 0, _, ts => .ok (false, ts)
  | fuel + 1, r, ts =>
    match r, ts with
    | .ending, ts => .ok (false, ts)
    | _, [] => .ok (false, [])
    | .not, _ :: rest => do
      let (a, ts) ← single s fuel (role rest) rest
      return (!a, ts)
    | .opening, _ :: rest => do
      if role rest = .closing then return (false, rest.drop 1)
      let (a, ts) ← someOf s fuel (role rest) rest
      if role ts = .closing then return (a, ts.drop 1) else throw (.unclosed none)
    | .unaryOp, op :: text :: rest => .ok (unary s op text, rest)
    | .unaryOp, [op] => .error (.missingOperand op)
    | _, a :: rest =>
      match rest with
      | op :: more =>
        if role rest = .binaryOp then
          match more with
          | [] => .error (.missingOperand op)
          | b :: more => do
            let x ← binary s op a b
            return (x, more)
        else .ok (!a.isEmpty, rest)
      | [] => .ok (!a.isEmpty, [])

end

/-- The condition that a row states; nothing may be left of the row. -/
def plain (s : Session) (first : Role) (ts : List String) : Except Fault Bool := do
  let (a, rest) ← someOf s (3 * ts.length + 3) first ts
  if rest.isEmpty then return a
  else throw (.unexpected ((ts[ts.length - rest.length - 1]?).getD ""))

/-- The condition that a row of arguments states, in the standard shell. -/
def standard (s : Session) : Nat → List String → Except Fault Bool
  | 0, _ | _, [] => .ok false
  | fuel + 1, ts =>
    let outer : Except Fault Bool :=
      match ts with
      | "(" :: rest =>
        if rest.getLast? == some ")" then plain s (role rest.dropLast) rest.dropLast
        else plain s (role ts) ts
      | "!" :: rest => (standard s fuel rest).map (!·)
      | ts => plain s (role ts) ts
    match ts with
    | [_, op, _] => if isBinary false op then plain s .operand ts else outer
    | [_, _, _, _] => outer
    | ts => plain s (role ts) ts

/-! ## Rows that are read by their length -/

mutual

/-- Conditions of which one holds. -/
def anyWithin (s : Session) (closer : Option String) :
    Nat → List String → Except Fault (Bool × List String)
  | 0, ts => .ok (false, ts)
  | fuel + 1, ts => do
    let (a, ts) ← allWithin s closer fuel ts
    match ts with
    | "-o" :: ts =>
      let (b, ts) ← anyWithin s closer fuel ts
      return (a || b, ts)
    | ts => return (a, ts)

/-- Conditions that all hold. -/
def allWithin (s : Session) (closer : Option String) :
    Nat → List String → Except Fault (Bool × List String)
  | 0, ts => .ok (false, ts)
  | fuel + 1, ts => do
    let (a, ts) ← oneWithin s closer fuel ts
    match ts with
    | "-a" :: ts =>
      let (b, ts) ← allWithin s closer fuel ts
      return (a && b, ts)
    | ts => return (a, ts)

/-- A condition without `-a` and `-o` around it. -/
def oneWithin (s : Session) (closer : Option String) :
    Nat → List String → Except Fault (Bool × List String)
  | 0, ts => .ok (false, ts)
  | fuel + 1, ts =>
    match ts with
    | [] => .error (.missingOperand "")
    | "!" :: rest => do
      let (a, ts) ← oneWithin s closer fuel rest
      return (!a, ts)
    | "(" :: rest => do
      let (a, ts) ← anyWithin s closer fuel rest
      match ts with
      | ")" :: ts => return (a, ts)
      | t :: _ => throw (.unclosed (some t))
      | [] => throw (.unclosed closer)
    | a :: op :: b :: rest =>
      if isBinary true op then do
        let x ← binary s op a b
        return (x, rest)
      else if (unaryNames true).contains a then .ok (unary s a op, b :: rest)
      else .ok (!a.isEmpty, op :: b :: rest)
    | [op, text] =>
      if (unaryNames true).contains op then .ok (unary s op text, []) else .ok (!op.isEmpty, [text])
    | [a] => .ok (!a.isEmpty, [])

end

/-- The condition that a row of arguments states, in the extended shell. -/
def extended (s : Session) (closer : Option String) (ts : List String) : Except Fault Bool :=
  let pair (op text : String) : Except Fault Bool :=
    if op == "!" then .ok text.isEmpty
    else if (unaryNames true).contains op then .ok (unary s op text)
    else .error (.notUnary op)
  let triple (a op b : String) : Except Fault Bool :=
    if isBinary true op then binary s op a b
    else if op == "-a" then .ok (!a.isEmpty && !b.isEmpty)
    else if op == "-o" then .ok (!a.isEmpty || !b.isEmpty)
    else if a == "!" then (pair op b).map (!·)
    else if a == "(" && b == ")" then .ok (!op.isEmpty)
    else .error (.notBinary op)
  let whole : Except Fault Bool := do
    let (a, rest) ← anyWithin s closer (3 * ts.length + 3) ts
    if rest.isEmpty then return a else throw .tooMany
  match ts with
  | [] => .ok false
  | [a] => .ok (!a.isEmpty)
  | [op, text] => pair op text
  | [a, op, b] => triple a op b
  | [a, b, c, d] =>
    if a == "!" then (triple b c d).map (!·)
    else if a == "(" && d == ")" then pair b c
    else whole
  | _ => whole

/-- Tests the condition that arguments state, under the name of a command. -/
def testAs (title : String) (closer : Option String) (args : List String) (s : Session) :
    Printed × Session :=
  let result := if s.isBash then extended s closer args
    else standard s (args.length + 1) args
  match result with
  | .ok holds => ([], s.finish (if holds then 0 else 1))
  | .error fault =>
    (err (s.complaint (title ++ ": " ++ fault.message s.isBash)), s.finish 2)

/-- Tests a condition. -/
def test : Program := fun args _ s => testAs "test" none args s

/-- Tests a condition that a bracket closes. -/
def bracket : Program := fun args _ s =>
  if args.getLast? == some "]" then testAs "[" (some "]") args.dropLast s
  else (err (s.complaint ("[: " ++ Fault.noBracket.message s.isBash)), s.finish 2)

end Conditions

end Scaffold.Script

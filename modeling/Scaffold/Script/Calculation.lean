import Scaffold.Script.Numeral

/-!
# Calculation — numbers in scripts

A calculation is made of numbers, variables, signs, brackets and operators; stronger operators bind
first, and equal ones from the left. A calculation can assign to variables, and the value of a
variable is a calculation again in the extended shell, which has more operators as well.

The text is read token by token, and a fault names the last token that was read.
-/

set_option autoImplicit false

namespace Scaffold.Script.Calculation

open Numeral (wrapped)

/-! ## Faults -/

/-- Why a calculation has no value. -/
inductive Cause
  /-- No operand stands there. -/
  | noOperand
  /-- No operator stands there. -/
  | noOperator
  /-- Something follows the calculation. -/
  | leftover
  | divisionByZero
  | noBracket
  /-- The second branch of a choice is missing. -/
  | noBranch
  /-- A branch of a choice is empty. -/
  | emptyBranch
  /-- Something else than a variable is assigned to. -/
  | noVariable
  | negativeExponent
  /-- A sign that counts a variable up or down has none. -/
  | noneToCount (sign : String)
  /-- The values of variables lead to each other without end. -/
  | tooDeep
  | badPlace
  | number (fault : Numeral.Fault)
  /-- The value of a variable is no number. -/
  | noNumber (text : String)
  | unset (name : String)
  /-- The variable keeps its value. -/
  | fixed (name : String)
  deriving DecidableEq, Repr

/-- A fault of a calculation: the text that it was found in, and the last token that was read, with
all that follows it. -/
structure Fault where
  cause : Cause
  whole : String
  token : String
  deriving DecidableEq, Repr

/-- The wording of a fault of the extended shell. -/
def Cause.extended : Cause → String
  | .noOperand => "syntax error: operand expected"
  | .noOperator => "syntax error: invalid arithmetic operator"
  | .leftover => "syntax error in expression"
  | .divisionByZero => "division by 0"
  | .noBracket => "missing \x60)'"
  | .noBranch => "\x60:' expected for conditional expression"
  | .emptyBranch => "expression expected"
  | .noVariable => "attempted assignment to non-variable"
  | .negativeExponent => "exponent less than 0"
  | .noneToCount sign => sign ++ ": assignment requires lvalue"
  | .tooDeep => "expression recursion level exceeded"
  | .badPlace => "bad array subscript"
  | .number .digit => "value too great for base"
  | .number .twoBases => "invalid number"
  | .number .base => "invalid arithmetic base"
  | .number .noDigit => "invalid integer constant"
  | .noNumber _ => "value too great for base"
  | .unset name => name ++ ": unbound variable"
  | .fixed name => name ++ ": readonly variable"

/-- The wording of a fault of the plain shell. -/
def Cause.plain : Cause → String
  | .leftover => "expecting EOF"
  | .divisionByZero => "division by zero"
  | .noBracket => "expecting ')'"
  | .noBranch => "expecting ':'"
  | .noNumber text => "Illegal number: " ++ text
  | .fixed name => name ++ ": is read only"
  | _ => "expecting primary"

/-- The wording of a fault in the calculation that a text spells. -/
def Fault.message (fault : Fault) (isBash : Bool) (text : String) : String :=
  if isBash then
    match fault.cause with
    | .unset _ | .fixed _ => fault.cause.extended
    | cause =>
      String.ofList (fault.whole.toList.dropWhile fun c => c == ' ' || c == '\t')
        ++ ": " ++ cause.extended ++ " (error token is \"" ++ fault.token ++ "\")"
  else
    match fault.cause with
    | .noNumber _ | .fixed _ => fault.cause.plain
    | cause => "arithmetic expression: " ++ cause.plain ++ ": \"" ++ text ++ "\""

/-! ## Operators -/

/-- One for what holds, zero for what does not. -/
def truth (b : Bool) : Int := if b then 1 else 0

/-- The bits of a number. -/
def bits (n : Int) : Nat := (n % (Nat.pow 2 64 : Nat)).toNat

/-- An operator on two operands; it has no value where the second operand is a zero that divides. -/
abbrev Operator := Int → Int → Option Int

/-- The operators, the weakest first. -/
def operators : List (List (String × Operator)) := [
  [("||", fun a b => some (truth (a != 0 || b != 0)))],
  [("&&", fun a b => some (truth (a != 0 && b != 0)))],
  [("|", fun a b => some (wrapped ((bits a ||| bits b : Nat) : Int)))],
  [("^", fun a b => some (wrapped ((bits a ^^^ bits b : Nat) : Int)))],
  [("&", fun a b => some (wrapped ((bits a &&& bits b : Nat) : Int)))],
  [("==", fun a b => some (truth (a == b))), ("!=", fun a b => some (truth (a != b)))],
  [("<=", fun a b => some (truth (decide (a ≤ b)))),
    (">=", fun a b => some (truth (decide (b ≤ a)))),
    ("<", fun a b => some (truth (decide (a < b)))),
    (">", fun a b => some (truth (decide (b < a))))],
  [("<<", fun a b => some (wrapped (a * (Nat.pow 2 (bits b % 64) : Nat)))),
    (">>", fun a b => some (Int.fdiv a (Nat.pow 2 (bits b % 64) : Nat)))],
  [("+", fun a b => some (wrapped (a + b))), ("-", fun a b => some (wrapped (a - b)))],
  [("*", fun a b => some (wrapped (a * b))),
    ("/", fun a b => if b = 0 then none else some (wrapped (a.tdiv b))),
    ("%", fun a b => if b = 0 then none else some (a.tmod b))]]

/-- A number multiplied by itself so many times; the power is taken by squares. -/
def power (n : Int) (exponent : Nat) : Int :=
  if exponent = 0 then 1
  else
    let half := power (wrapped (n * n)) (exponent / 2)
    if exponent % 2 = 0 then half else wrapped (n * half)
termination_by exponent

/-! ## Tokens -/

/-- A variable, perhaps with the text between square brackets that names one of its places. -/
structure Variable where
  name : String
  place : Option String := none
  deriving DecidableEq, Repr

/-- A token; a variable has its value with it in the extended shell. -/
inductive Token
  | finish
  | number (n : Int)
  | variable_ (of : Variable) (value : Int)
  /-- An operator, a bracket or another sign. -/
  | sign (text : String)
  /-- Assigns, after an operator has been applied. -/
  | assigns (op : String)
  /-- Counts the variable that follows. -/
  | counts (d : Int)
  /-- Counts the variable in front. -/
  | counted (d : Int)
  /-- The value of a variable that was counted. -/
  | outcome
  | unknown
  deriving DecidableEq, Repr

/-- The signs that both shells have; where one begins like another, the longer one stands first. -/
def signs : List (String × Token) :=
  (["<<", ">>", "&", "|", "^", "*", "/", "%", "+", "-"].map fun op => (op ++ "=", .assigns op))
    ++ (["<<", ">>", "<=", ">=", "==", "!=", "&&", "||"].map fun op => (op, .sign op))
    ++ ("=", .assigns "")
    :: (["<", ">", "&", "|", "^", "*", "/", "%", "+", "-", "!", "~", "(", ")", "?", ":"].map
      fun op => (op, .sign op))

/-- The sign that a text begins with, and what follows it. -/
def sign? (isBash : Bool) (text : List Char) : Option (Token × List Char) :=
  let known := if isBash then ("**", .sign "**") :: (",", .sign ",") :: signs else signs
  known.findSome? fun (sign, token) => (sign.toList.isPrefixOf? text).map (token, ·)

/-- The character is a blank between tokens. -/
def isBlank (c : Char) : Bool := c == ' ' || c == '\t' || c == '\n'

/-- Skips blanks. -/
def skipBlanks (text : List Char) : List Char := text.dropWhile isBlank

/-- The character can begin a name. -/
def beginsName (c : Char) : Bool := c.isAlpha || c == '_'

/-- The character belongs to a name. -/
def isNameChar (c : Char) : Bool := c.isAlphanum || c == '_'

/-- The token that a text begins with in the plain shell, and what follows it. -/
def plainToken (text : List Char) : Token × List Char :=
  match skipBlanks text with
  | [] => (.finish, [])
  | c :: rest =>
    if c.isDigit then
      let (n, rest) := Numeral.plain (c :: rest)
      (.number (min n Numeral.greatest : Nat), rest)
    else if beginsName c then
      let name := (c :: rest).takeWhile isNameChar
      (.variable_ ⟨String.ofList name, none⟩ 0, (c :: rest).drop name.length)
    else (sign? false (c :: rest)).getD (.unknown, c :: rest)

/-- How long a text between square brackets is, the bracket that closes it included. -/
def placeLength : Nat → List Char → Option Nat
  | _, [] => none
  | depth, '[' :: rest => (placeLength (depth + 1) rest).map (· + 1)
  | 0, ']' :: _ => some 1
  | depth + 1, ']' :: rest => (placeLength depth rest).map (· + 1)
  | depth, _ :: rest => (placeLength depth rest).map (· + 1)

/-! ## Reading -/

/-- What a calculation works on. -/
structure Store (σ : Type) where
  isBash : Bool
  /-- The value of a variable, or of one of its places. -/
  value? : σ → Variable → Option String
  assign : σ → Variable → Int → σ
  /-- The place behind the last one, where places are numbers. -/
  next? : σ → String → Option Nat
  /-- The variable keeps its value. -/
  isFixed : σ → String → Bool
  /-- A variable without a value is a fault. -/
  needsValues : σ → Bool

/-- How far a calculation is read. -/
structure Reader (σ : Type) where
  state : σ
  whole : String
  rest : List Char
  /-- The token that was read last. -/
  token : Token := .finish
  /-- The text from that token on. -/
  last : List Char := []
  /-- What is read has effects. -/
  isLive : Bool := true
  /-- How many variables are around the calculation. -/
  depth : Nat := 0

/-- Reads a part of a calculation; what was assigned in front of a fault stays. -/
abbrev Reading (σ α : Type) := ExceptT Fault (StateM (Reader σ)) α

variable {σ : Type}

/-- A fault at the last token. -/
def fail {α : Type} (cause : Cause) : Reading σ α := do
  let r ← get
  throw ⟨cause, r.whole, String.ofList r.last⟩

/-- The value of a part, and the variable that it is. -/
abbrev Operand := Int × Option Variable

/-- How many variables may lead to each other. -/
def maxDepth : Nat := 1024

/-- Assigns to a variable, if what is read has effects. -/
def assign (store : Store σ) (v : Variable) (n : Int) : Reading σ Unit := do
  let r ← get
  if r.isLive then
    if store.isFixed r.state v.name then fail (.fixed v.name)
    set { r with state := store.assign r.state v n }

/-- Goes to the next token of the plain shell. -/
def nextPlain : Reading σ Unit := do
  let r ← get
  let (token, rest) := plainToken r.rest
  set { r with token, rest }

mutual

/-- Goes to the next token. A name is looked up at once, unless a value is assigned to it. -/
def next (store : Store σ) : Nat → Reading σ Unit
  | 0 => fail .noOperand
  | fuel + 1 => do
    if !store.isBash then nextPlain
    else
      let r ← get
      match skipBlanks r.rest with
      | [] => set { r with token := .finish, rest := [] }
      | c :: cs =>
        set { r with last := c :: cs }
        if c.isDigit then
          let digits := (c :: cs).takeWhile Numeral.isNumberChar
          match Numeral.extended digits with
          | .ok n =>
            let number := Token.number (wrapped (n : Int))
            set { r with token := number, rest := (c :: cs).drop digits.length, last := c :: cs }
          | .error fault =>
            let front := r.whole.toList.take (r.whole.length - (c :: cs).length)
            throw ⟨.number fault, String.ofList (front ++ digits), String.ofList digits⟩
        else if beginsName c then nextName store fuel c cs
        else
          match c, cs with
          | '+', '+' :: rest => nextCount fuel "+" 1 rest
          | '-', '-' :: rest => nextCount fuel "-" (-1) rest
          | _, _ =>
            match sign? true (c :: cs) with
            | some (token, rest) => set { r with token, rest, last := c :: cs }
            | none =>
              match r.token with
              | .number _ | .variable_ .. | .outcome => fail .noOperator
              | _ => fail .noOperand

/-- Goes on with two equal signs. -/
def nextCount : Nat → String → Int → List Char → Reading σ Unit
  | 0, _, _, _ => fail .noOperand
  | _, sign, d, rest => do
    let r ← get
    match r.token, (skipBlanks rest).head?.any beginsName with
    | .variable_ .., _ => set { r with token := .counted d, rest }
    | .outcome, _ => fail (.noneToCount (sign ++ sign))
    | _, true => set { r with token := .counts d, rest }
    | _, false => set { r with token := .sign sign, rest := sign.toList ++ rest }

/-- Goes on with a name. -/
def nextName (store : Store σ) : Nat → Char → List Char → Reading σ Unit
  | 0, _, _ => fail .noOperand
  | fuel + 1, c, cs => do
    let r ← get
    let name := (c :: cs).takeWhile isNameChar
    let behind := (c :: cs).drop name.length
    let (place, rest) ← match behind with
      | '[' :: inner =>
        match placeLength 0 inner with
        | some n => pure (some (String.ofList (inner.take (n - 1))), inner.drop n)
        | none => fail .badPlace
      | behind => pure (none, behind)
    let v : Variable := ⟨String.ofList name, place⟩
    set { r with rest, isLive := false, token := .variable_ v 0 }
    next store fuel
    let isAssigned := (← get).token == .assigns ""
    set { r with rest }
    let counts := match r.token with
      | .counts _ => true
      | _ => false
    if counts || !isAssigned then
      let (v, n) ← valueOf store fuel v
      modify fun r => { r with token := .variable_ v n }
    else modify fun r => { r with token := .variable_ v 0 }

/-- The value of a variable of the extended shell, and the variable with the place that is meant. -/
def valueOf (store : Store σ) : Nat → Variable → Reading σ (Variable × Int)
  | 0, v => return (v, 0)
  | fuel + 1, v => do
    let r ← get
    if !r.isLive then return (v, 0)
    let v ← placed store fuel v
    match store.value? r.state v with
    | none =>
      if store.needsValues r.state then throw ⟨.unset v.name, "", ""⟩ else return (v, 0)
    | some text =>
      let n ← readText store fuel text
      return (v, n)

/-- The variable with a number as its place, where places are numbers. -/
def placed (store : Store σ) : Nat → Variable → Reading σ Variable
  | 0, v => return v
  | fuel + 1, v => do
    match v.place, store.next? (← get).state v.name with
    | some text, some count =>
      let n ← readText store fuel text
      return { v with place := some (toString (if n < 0 then (count : Int) + n else n)) }
    | _, _ => return v

/-- The value of a text within another calculation. -/
def readText (store : Store σ) : Nat → String → Reading σ Int
  | 0, _ => return 0
  | fuel + 1, text => do
    if text.toList.all isBlank then return 0
    let outer ← get
    if maxDepth ≤ outer.depth + 1 then fail .tooDeep
    set { outer with whole := text, rest := text.toList, token := .finish, depth := outer.depth + 1 }
    let n ← readWhole store fuel
    modify fun r => { outer with state := r.state }
    return n

/-- The value of a whole text. -/
def readWhole (store : Store σ) : Nat → Reading σ Int
  | 0 => fail .noOperand
  | fuel + 1 => do
    next store fuel
    let n ← readRow store fuel
    if (← get).token == .finish then return n else fail .leftover

/-- The value of the last of some calculations between commas; the plain shell has no commas. -/
def readRow (store : Store σ) : Nat → Reading σ Int
  | 0 => fail .noOperand
  | fuel + 1 => do
    let (n, _) ← if store.isBash then readAssigning store fuel else readPlainAssigning store fuel
    if (← get).token == .sign "," then
      next store fuel
      readRow store fuel
    else return n

/-- The value of a calculation of the extended shell that may assign. -/
def readAssigning (store : Store σ) : Nat → Reading σ Operand
  | 0 => fail .noOperand
  | fuel + 1 => do
    let (before, v) ← readChoice store fuel
    match (← get).token, v with
    | .assigns _, none => fail .noVariable
    | .assigns op, some v => do
      next store fuel
      let (n, _) ← readAssigning store fuel
      let n ← match operators.flatten.lookup op with
        | none => pure n
        | some f =>
          match f before n with
          | some n => pure n
          | none => if (← get).isLive then fail .divisionByZero else pure before
      let v ← if (← get).isLive then placed store fuel v else pure v
      assign store v n
      return (n, none)
    | _, _ => return (before, v)

/-- The value of a calculation of the plain shell that may assign. -/
def readPlainAssigning (store : Store σ) : Nat → Reading σ Operand
  | 0 => fail .noOperand
  | fuel + 1 => do
    let r ← get
    match r.token, plainToken r.rest with
    | .variable_ v _, (.assigns op, rest) => do
      set { r with rest }
      next store fuel
      let (n, _) ← readPlainAssigning store fuel
      let n ← match operators.flatten.lookup op with
        | none => pure n
        | some f =>
          match f (← plainValue store v) n with
          | some n => pure n
          | none => if (← get).isLive then fail .divisionByZero else pure 0
      assign store v n
      return (n, none)
    | _, _ => readChoice store fuel

/-- The value of a variable of the plain shell. -/
def plainValue (store : Store σ) (v : Variable) : Reading σ Int := do
  let r ← get
  if !r.isLive then return 0
  let text := (store.value? r.state v).getD ""
  match Numeral.value? text with
  | some n => return n
  | none => fail (.noNumber text)

/-- The value of a choice. -/
def readChoice (store : Store σ) : Nat → Reading σ Operand
  | 0 => fail .noOperand
  | fuel + 1 => do
    let (test, v) ← readRank store fuel operators
    if (← get).token != .sign "?" then return (test, v)
    let wasLive := (← get).isLive
    modify fun r => { r with isLive := wasLive && test != 0 }
    next store fuel
    let token := (← get).token
    if store.isBash && (token == .finish || token == .sign ":") then fail .emptyBranch
    let yes ← readRow store fuel
    modify fun r => { r with isLive := wasLive && test == 0 }
    if (← get).token != .sign ":" then fail .noBranch
    next store fuel
    if store.isBash && (← get).token == .finish then fail .emptyBranch
    let (no, _) ← readChoice store fuel
    modify fun r => { r with isLive := wasLive }
    return (if test != 0 then yes else no, none)

/-- The value of the operators of some ranks. -/
def readRank (store : Store σ) : Nat → List (List (String × Operator)) → Reading σ Operand
  | 0, _ => fail .noOperand
  | fuel + 1, [] => readPower store fuel
  | fuel + 1, rank :: stronger => do
    let first ← readRank store fuel stronger
    readMoreOf store fuel rank stronger first

/-- Goes on with the operators of a rank. -/
def readMoreOf (store : Store σ) : Nat → List (String × Operator) →
    List (List (String × Operator)) → Operand → Reading σ Operand
  | 0, _, _, _ => fail .noOperand
  | fuel + 1, rank, stronger, (first, v) => do
    let r ← get
    let known := match r.token with
      | .sign text => (rank.lookup text).map (text, ·)
      | _ => none
    match known with
    | none => return (first, v)
    | some (sign, f) => do
      let goesOn := match sign with
        | "||" => first == 0
        | "&&" => first != 0
        | _ => true
      set { r with isLive := r.isLive && goesOn }
      next store fuel
      let (second, _) ← readRank store fuel stronger
      modify fun now => { now with isLive := r.isLive }
      match f first second with
      | some n => readMoreOf store fuel rank stronger (n, none)
      | none =>
        if r.isLive then
          let isGap (c : Char) : Bool := c == ' ' || c == '\t'
          modify fun now => { now with last := r.rest.dropWhile isGap }
          fail .divisionByZero
        else readMoreOf store fuel rank stronger (first, none)

/-- The value of an operand, to a power in the extended shell. -/
def readPower (store : Store σ) : Nat → Reading σ Operand
  | 0 => fail .noOperand
  | fuel + 1 => do
    let (base, v) ← readSigned store fuel
    if (← get).token != .sign "**" then return (base, v)
    next store fuel
    let (exponent, _) ← readPower store fuel
    if exponent < 0 then fail .negativeExponent
    return (power base exponent.toNat, none)

/-- The value of an operand, perhaps with signs in front. -/
def readSigned (store : Store σ) : Nat → Reading σ Operand
  | 0 => fail .noOperand
  | fuel + 1 => do
    let signed (f : Int → Int) : Reading σ Operand := do
      next store fuel
      let (n, _) ← readSigned store fuel
      return (wrapped (f n), none)
    match (← get).token with
    | .sign "!" => signed fun n => truth (n == 0)
    | .sign "~" => signed fun n => -n - 1
    | .sign "-" => signed fun n => -n
    | .sign "+" => signed id
    | _ => readOperand store fuel

/-- The value of an operand. -/
def readOperand (store : Store σ) : Nat → Reading σ Operand
  | 0 => fail .noOperand
  | fuel + 1 => do
    match (← get).token with
    | .counts d => do
      next store fuel
      match (← get).token with
      | .variable_ v n => do
        let n := wrapped (n + d)
        assign store v n
        modify fun r => { r with token := .outcome }
        next store fuel
        return (n, none)
      | _ => fail .noOperand
    | .sign "(" => do
      next store fuel
      let n ← readRow store fuel
      if (← get).token != .sign ")" then fail .noBracket
      next store fuel
      return (n, none)
    | .number n => do
      next store fuel
      return (n, none)
    | .variable_ v n => do
      let r ← get
      set { r with isLive := false }
      next store fuel
      match (← get).token with
      | .counted d => do
        modify fun now => { now with isLive := r.isLive }
        assign store v (wrapped (n + d))
        modify fun now => { now with token := .number n }
        next store fuel
        return (n, none)
      | _ => do
        set r
        next store fuel
        if store.isBash then return (n, some v)
        return (← plainValue store v, none)
    | _ => fail .noOperand

end

/-- How deep a calculation is read. -/
def maxSteps : Nat := 1000000000

/-- The value of a calculation; a blank one is zero in the extended shell. -/
def run (store : Store σ) (state : σ) (text : String) : Except Fault Int × σ :=
  if store.isBash && text.toList.all isBlank then (.ok 0, state)
  else
    let (result, r) := (readWhole store maxSteps).run.run
      { state, whole := text, rest := text.toList }
    (result, r.state)

end Scaffold.Script.Calculation

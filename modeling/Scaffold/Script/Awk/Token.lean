import Scaffold.Script.Quoting
import Scaffold.Script.Numeral

/-!
# Token — the programs of the pattern language and their tokens
-/

set_option autoImplicit false

/-!
## Tree — programs that go through records

A program is a list of rules. A rule has a pattern and an action; the action is run for every
record for which the pattern holds. Some actions are run before the first record or behind the last
one.
-/

namespace Scaffold.Script.Awk

/-- Operators between numbers. -/
inductive Arithmetic
  | add | subtract | multiply | divide | modulo | power
  deriving DecidableEq, Repr

/-- Comparisons. -/
inductive Relation
  | lt | le | eq | ne | gt | ge
  deriving DecidableEq, Repr

/-- What a line is read from. -/
inductive Origin
  /-- The records of the program. -/
  | records
  | file
  | command
  deriving DecidableEq, Repr

/-- An expression. -/
inductive Expr
  | number (x : Float)
  | text (s : String)
  /-- A pattern; by itself it asks about the record. -/
  | pattern (s : String)
  | variable (name : String)
  /-- The value at a place of a table. -/
  | cell (name : String) (place : List Expr)
  | field (place : Expr)
  /-- Assigns a value, or the value of an operation with it. -/
  | assign (target : Expr) (op : Option Arithmetic) (value : Expr)
  | choice (condition yes no : Expr)
  | both (a b : Expr)
  | either (a b : Expr)
  | negation (a : Expr)
  | isIn (place : List Expr) (name : String)
  | fits (a pattern : Expr) (negated : Bool)
  | relation (op : Relation) (a b : Expr)
  | concat (a b : Expr)
  | arithmetic (op : Arithmetic) (a b : Expr)
  /-- The number that a value stands for, perhaps with the other sign. -/
  | signed (isNegative : Bool) (a : Expr)
  /-- Adds to a place; the value is that from before or from behind. -/
  | step (target : Expr) (by_ : Float) (isBefore : Bool)
  | call (name : String) (args : List Expr)
  | builtin (name : String) (args : List Expr)
  /-- Reads a line into a place or the record. -/
  | getline (target : Option Expr) (origin : Origin) (source : Option Expr)
  /-- Several values in brackets. -/
  | several (items : List Expr)
  deriving Inhabited

/-- Where output goes. -/
inductive Redirection
  | replace
  | append
  | command
  deriving DecidableEq, Repr

/-- A statement. -/
inductive Stmt
  | expr (e : Expr)
  | print (args : List Expr) (target : Option (Redirection × Expr))
  | printf (args : List Expr) (target : Option (Redirection × Expr))
  | choice (condition : Expr) (yes : Stmt) (no : Option Stmt)
  | while (condition : Expr) (body : Stmt)
  | until (body : Stmt) (condition : Expr)
  | loop (start : Option Stmt) (condition : Option Expr) (step : Option Stmt) (body : Stmt)
  | each (name table : String) (body : Stmt)
  | block (body : List Stmt)
  | next
  | nextFile
  | exit (status : Option Expr)
  | return (value : Option Expr)
  | leave
  | again
  | delete (name : String) (place : Option (List Expr))
  deriving Inhabited

/-- For which records an action is run. -/
inductive Pattern
  | all
  | holds (e : Expr)
  /-- From a record for which the first one holds up to one for which the second one does. -/
  | range (first last : Expr)

/-- A rule; without an action the record is printed. -/
structure Rule where
  pattern : Pattern
  action : Option (List Stmt)

/-- A function of the program. -/
structure Function where
  name : String
  parameters : List String
  body : List Stmt

/-- A program. -/
structure Program where
  begins : List (List Stmt) := []
  rules : List Rule := []
  ends : List (List Stmt) := []
  functions : List Function := []

end Scaffold.Script.Awk

/-!
## Token — the pieces of a program

A slash begins a pattern where an operand can stand, and divides elsewhere.
-/

namespace Scaffold.Script.Awk

/-- A piece of a program. -/
inductive Token
  | number (x : Float)
  | text (s : String)
  | pattern (s : String)
  | name (s : String)
  /-- A name with a bracket right behind it. -/
  | callee (s : String)
  /-- A name of a function that is always there. -/
  | builtin (s : String)
  | keyword (s : String)
  | sign (s : String)
  | newline
  | finish

/-- A piece with its line. -/
structure Piece where
  token : Token
  line : Nat

/-- Why a program is not understood. -/
inductive Fault
  | character (line : Nat) (c : Char)
  | openText (line : Nat) (shown : String)
  | openPattern (line : Nat) (shown : String)
  | misplaced (line : Nat) (shown : String)
  | openBrace (line : Nat)
  | strayBrace (line : Nat)
  | argumentCount (line : Nat) (name : String)
  | tooManyArguments (line : Nat) (name : String)
  | unknownFunction (line : Nat) (name : String)
  | twice (line : Nat) (name : String)
  | twiceParameter (line : Nat) (name : String)
  | strayReturn (line : Nat)
  | strayNext (line : Nat)
  | strayLeave (line : Nat) (isAgain : Bool)
  | badPattern (line : Nat) (reason text : String)

/-- The wording of a fault. -/
def Fault.message : Fault → String
  | .character line c => toString line ++ ": unexpected character '" ++ String.singleton c ++ "'"
  | .openText line shown => at_ line ++ "runaway string constant " ++ shown
  | .openPattern line shown => at_ line ++ "runaway regular expression " ++ shown
  | .misplaced line shown => at_ line ++ "syntax error at or near " ++ shown
  | .openBrace line => at_ line ++ "missing \x7d near end of file"
  | .strayBrace line => at_ line ++ "extra '\x7d'"
  | .argumentCount line name => at_ line ++ "wrong number of arguments in call to " ++ name
  | .tooManyArguments line name => at_ line ++ "too many arguments in call to " ++ name
  | .unknownFunction line name => at_ line ++ "function " ++ name ++ " never defined"
  | .twice line name => at_ line ++ "redefinition of " ++ name
  | .twiceParameter line name => at_ line ++ name ++ " is duplicated in argument list"
  | .strayReturn line => at_ line ++ "return outside function body"
  | .strayNext line => at_ line ++ "improper use of next"
  | .strayLeave line isAgain =>
    at_ line ++ (if isAgain then "continue" else "break") ++ " statement outside of loop"
  | .badPattern line reason text =>
    at_ line ++ "regular expression compile failed (" ++ reason ++ ")\n" ++ text
where
  /-- The place of a fault. -/
  at_ (line : Nat) : String := "line " ++ toString line ++ ": "

namespace Token

/-- The piece as a fault shows it. -/
def shown : Token → String
  | .number x => toString x
  | .text s => s
  | .pattern s => "/" ++ s ++ "/"
  | .name s | .callee s | .builtin s | .keyword s | .sign s => s
  | .newline => "end of line"
  | .finish => "end of file"

/-- The words that have a meaning of their own. -/
def keywords : List String := ["BEGIN", "END", "function", "if", "else", "while", "do", "for", "in",
  "break", "continue", "next", "nextfile", "exit", "return", "delete", "print", "printf", "getline"]

/-- The functions that are always there. -/
def builtins : List String := ["length", "substr", "index", "split", "sub", "gsub", "match",
  "sprintf", "toupper", "tolower", "sin", "cos", "atan2", "exp", "log", "sqrt", "int", "rand",
  "srand", "system", "close", "fflush", "systime", "strftime", "mktime"]

/-- An operand ends here, so that a slash divides. -/
def endsOperand : Token → Bool
  | .number _ | .text _ | .pattern _ | .name _ | .builtin _ => true
  | .sign s => s == ")" || s == "]" || s == "$" || s == "++" || s == "--"
  | _ => false

/-- The signs, the longer ones first. -/
def signs : List String := ["**=", "&&", "||", "==", "<=", ">=", "!=", "!~", "++", "--", "+=", "-=",
  "*=", "/=", "%=", "^=", ">>", "\x7b", "\x7d", "(", ")", "[", "]", ";", ",", "+", "-", "*", "/", "%",
  "^", "!", ">", "<", "|", "?", ":", "~", "$", "="]

/-- Reads what a backslash spells in a text; what it does not know keeps its backslash. -/
def escape (c : Char) (rest : List Char) : List Char × List Char :=
  match Escapes.letters.lookup c with
  | some b => ([Char.ofNat b.toNat], rest)
  | none =>
    if c == '"' then ([c], rest)
    else if '0' ≤ c && c ≤ '7' then
      let (n, rest) := (spelledNumber 8 3 (c :: rest)).getD (0, rest)
      ([Char.ofNat (n % 256)], rest)
    else (['\\', c], rest)

/-- Reads a text up to the quote that ends it; none if there is none. -/
def readText : Nat → List Char → List Char → Option (List Char × List Char)
  | 0, _, _ | _, _, [] | _, _, '\n' :: _ => none
  | _, done, '"' :: rest => some (done.reverse, rest)
  | fuel + 1, done, '\\' :: '\n' :: rest => readText fuel done rest
  | fuel + 1, done, '\\' :: c :: rest =>
    let (cs, rest) := escape c rest
    readText fuel (cs.reverse ++ done) rest
  | fuel + 1, done, c :: rest => readText fuel (c :: done) rest

/-- Reads a pattern up to the slash that ends it; a slash in a set ends none. -/
def readPattern : Nat → Bool → List Char → List Char → Option (List Char × List Char)
  | 0, _, _, _ | _, _, _, [] | _, _, _, '\n' :: _ => none
  | _, false, done, '/' :: rest => some (done.reverse, rest)
  | fuel + 1, inSet, done, '\\' :: '/' :: rest => readPattern fuel inSet ('/' :: done) rest
  | fuel + 1, inSet, done, '\\' :: c :: rest => readPattern fuel inSet (c :: '\\' :: done) rest
  | fuel + 1, false, done, '[' :: '^' :: ']' :: rest =>
    readPattern fuel true (']' :: '^' :: '[' :: done) rest
  | fuel + 1, false, done, '[' :: ']' :: rest => readPattern fuel true (']' :: '[' :: done) rest
  | fuel + 1, false, done, '[' :: rest => readPattern fuel true ('[' :: done) rest
  | fuel + 1, true, done, ']' :: rest => readPattern fuel false (']' :: done) rest
  | fuel + 1, inSet, done, c :: rest => readPattern fuel inSet (c :: done) rest

/-- The first characters of a text that a fault shows. -/
def opening (cs : List Char) : String := String.ofList (cs.takeWhile (· != '\n')) ++ " ..."

/-- Reads the pieces of a program. -/
def readAll : Nat → Nat → Option Token → List Char → Except Fault (List Piece)
  | 0, line, _, _ | _, line, _, [] => .ok [⟨.finish, line⟩]
  | fuel + 1, line, last, c :: rest => do
    let go (token : Token) (rest : List Char) : Except Fault (List Piece) := do
      return ⟨token, line⟩ :: (← readAll fuel line (some token) rest)
    if c == '\n' then
      return ⟨.newline, line⟩ :: (← readAll fuel (line + 1) (some .newline) rest)
    else if c == ' ' || c == '\t' || c == '\r' then readAll fuel line last rest
    else if c == '#' then readAll fuel line last (rest.dropWhile (· != '\n'))
    else if c == '\\' && rest.head? == some '\n' then
      readAll fuel (line + 1) last (rest.drop 1)
    else if c == '"' then
      match readText (rest.length + 1) [] rest with
      | some (cs, rest) => go (.text (String.ofList cs)) rest
      | none => throw (.openText line (opening (c :: rest)))
    else if c == '/' && !last.any endsOperand then
      match readPattern (rest.length + 1) false [] rest with
      | some (cs, rest) => go (.pattern (String.ofList cs)) rest
      | none => throw (.openPattern line (opening (c :: rest)))
    else if c.isAlpha || c == '_' then
      let name := String.ofList ((c :: rest).takeWhile fun c => c.isAlphanum || c == '_')
      let behind := (c :: rest).drop name.length
      if keywords.contains name then go (.keyword name) behind
      else if builtins.contains name then go (.builtin name) behind
      else if behind.head? == some '(' then go (.callee name) behind
      else go (.name name) behind
    else
      match Floating.numeral (c :: rest) with
      | _ :: _ =>
        let digits := Floating.numeral (c :: rest)
        go (.number ((Decimal.decimal? digits).getD 0)) ((c :: rest).drop digits.length)
      | [] =>
        match signs.find? fun s => s.toList.isPrefixOf (c :: rest) with
        | some s => go (.sign s) ((c :: rest).drop s.length)
        | none => throw (.character line c)

/-- The pieces of a program; it ends with a line. -/
def read (text : String) : Except Fault (List Piece) :=
  readAll (text.length + 2) 1 none (text.toList ++ ['\n'])

end Token

end Scaffold.Script.Awk

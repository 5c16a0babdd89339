/-!
# Tree — scripts

A script is a command; commands are put together in lists, pipelines, choices and loops. Words are
kept as they are written and expanded when the command is run.
-/

set_option autoImplicit false

namespace Scaffold.Script

/-- What a script can ask the value of: a variable, an argument, or the state of the shell. -/
structure Parameter where
  name : String
  /-- The place in a variable that holds several values. -/
  place : Option String := none
  /-- The value of the variable is the name of the one that is meant. -/
  isIndirect : Bool := false
  deriving Repr, DecidableEq

/-- Where in a value a pattern is looked for. -/
inductive Extent
  | first
  | everywhere
  | start
  | finish
  deriving Repr, DecidableEq

/-- What is made of letters. -/
inductive LetterChange
  | capital
  | small
  /-- Small letters become capitals, and capitals small letters. -/
  | swapped
  deriving Repr, DecidableEq

/-- What is made of the value of a parameter. -/
inductive Change
  | keep
  /-- The text stands for a parameter that is not there, or is used only where it is there; `mark`
  tells which, and `empty` whether an empty parameter counts as one that is not there. -/
  | absent (mark : Char) (empty : Bool) (text : String)
  /-- Without what fits a pattern at one end. -/
  | trim (atEnd longest : Bool) (pattern : String)
  /-- With a text in place of what fits a pattern. -/
  | replace (extent : Extent) (pattern text : String)
  /-- With other letters, at the first character or everywhere, where a pattern fits them. -/
  | recase (kind : LetterChange) (everywhere : Bool) (pattern : String)
  /-- In the form that a letter asks for, such as between quotes. -/
  | shown (letter : Char)
  /-- A part, by where it starts and how long it is. -/
  | slice (start : String) (length : Option String)
  deriving Repr, DecidableEq

/-- A piece of a word; a quoted one is not split and stands for no pattern. -/
inductive Piece
  | text (text : String) (quoted : Bool)
  | parameter (p : Parameter) (change : Change) (quoted : Bool)
  /-- The number of characters of a parameter, or of its values if it has several. -/
  | size (p : Parameter) (quoted : Bool)
  /-- The places of a variable that holds several values. -/
  | places (name : String) (quoted : Bool)
  /-- The names of the variables that begin with a text; they may be one text between quotes. -/
  | names (start : String) (isOne quoted : Bool)
  /-- The value of a calculation. -/
  | calculation (text : String) (quoted : Bool)
  /-- What a script prints. -/
  | output (script : String) (quoted : Bool)
  /-- The path of a file that holds what a script prints. -/
  | outputFile (script : String)
  /-- Something between braces that stands for nothing. -/
  | wrong (text : String)
  deriving Repr, DecidableEq

/-- A word. -/
abbrev Word := List Piece

/-- Where a redirection leads. -/
inductive RedirectKind
  | write
  | append
  | read
  | duplicate
  /-- Both the output and the errors. -/
  | writeBoth
  /-- The target is the input itself. -/
  | here
  deriving DecidableEq, Repr

/-- A redirection of a stream. -/
structure Redirect where
  stream : Nat
  kind : RedirectKind
  target : Word
  deriving Repr

/-- What is assigned to a variable. -/
inductive Assigned
  | one (value : Word)
  | several (values : List Word)
  deriving Repr

/-- An assignment to a variable, or to a place of it. -/
structure Assignment where
  name : String
  place : Option Word := none
  /-- The value is put behind the one that is there. -/
  isAppended : Bool := false
  value : Assigned
  deriving Repr

/-- A condition between double brackets. -/
inductive Condition
  | word (w : Word)
  | unary (op : String) (w : Word)
  | binary (op : String) (a b : Word)
  | not (c : Condition)
  | both (a b : Condition)
  | either (a b : Condition)
  deriving Repr

/-- A command. -/
inductive Command
  /-- A command on a line of the script. -/
  | simple (line : Nat) (assignments : List Assignment) (words : List Word)
    (redirects : List Redirect)
  | pipeline (negated : Bool) (parts : List Command)
  /-- The second command runs if the first one succeeds. -/
  | both (a b : Command)
  /-- The second command runs if the first one fails. -/
  | either (a b : Command)
  | sequence (commands : List Command)
  /-- The command is not waited for. -/
  | background (c : Command)
  /-- Commands in a row with common redirections, perhaps in a shell of their own. -/
  | group (apart : Bool) (body : Command) (redirects : List Redirect)
  | choice (test yes : Command) (no : Option Command)
  | each (name : String) (words : List Word) (body : Command)
  | loop (until_ : Bool) (test body : Command)
  /-- A loop with a calculation in front of it, one as its test and one behind its body. -/
  | count (first test next : String) (body : Command)
  /-- The commands of the first row with a pattern that fits; each row tells with `;;`, `;&` or
  `;;&` how it goes on. -/
  | cases (word : Word) (rows : List (List Word × Command × String))
  /-- A command gets a name. -/
  | named (name : String) (body : Command)
  | condition (line : Nat) (c : Condition)
  | calculation (line : Nat) (text : String)
  deriving Repr

/-- A piece of a word, about as it is written in the script. -/
def Piece.source : Piece → String
  | .text t _ => t
  | .parameter p .keep _ => if p.place.isSome then "$\x7b" ++ p.name ++ "\x7d" else "$" ++ p.name
  | .parameter p _ _ | .size p _ => "$\x7b" ++ p.name ++ "\x7d"
  | .places name _ => "$\x7b!" ++ name ++ "[@]\x7d"
  | .names start _ _ => "$\x7b!" ++ start ++ "*\x7d"
  | .calculation t _ => "$((" ++ t ++ "))"
  | .output script _ => "$(" ++ script ++ ")"
  | .outputFile script => "<(" ++ script ++ ")"
  | .wrong t => "$\x7b" ++ t ++ "\x7d"

/-- The piece is quoted. -/
def Piece.isQuoted : Piece → Bool
  | .text _ quoted | .parameter _ _ quoted | .size _ quoted | .places _ quoted
  | .names _ _ quoted | .calculation _ quoted | .output _ quoted => quoted
  | .outputFile _ | .wrong _ => false

/-- The pieces of a word, about as they are written in the script; `open_` tells that a double quote
is open in front of them. -/
def sourceOf (open_ : Bool) : Word → String
  | [] => if open_ then "\"" else ""
  | piece :: rest =>
    (if piece.isQuoted == open_ then "" else "\"") ++ piece.source ++ sourceOf piece.isQuoted rest

instance : Inhabited Command := ⟨.sequence []⟩

end Scaffold.Script

import Scaffold.Script.Quoting
import Scaffold.Script.Session

/-!
# Utility — what programs have in common

A program prints and ends with a status. What it cannot do for one of its operands it reports, and
it goes on with the others.
-/

set_option autoImplicit false

namespace Scaffold.Script

namespace Utility

/-- Ends well. -/
def good (p : Printed) (s : Session) : Printed × Session := (p, s.finish 0)

/-- Ends with a status. -/
def bad (status : Nat) (p : Printed) (s : Session) : Printed × Session := (p, s.finish status)

/-- The options in front of the arguments, letter by letter, and the arguments. -/
def options : List String → List Char × List String
  | [] => ([], [])
  | arg :: args =>
    match arg.toList with
    | ['-', '-'] => ([], args)
    | '-' :: c :: cs =>
      let (letters, rest) := options args
      (c :: cs ++ letters, rest)
    | _ => ([], arg :: args)

/-- Acts on arguments in order; the last failure sets the status. -/
def onEach (f : String → Session → Printed × Session) :
    List String → Session → Printed × Session
  | [], s => good [] s
  | a :: as, s =>
    let (p, s) := f a s
    let status := s.status
    let (q, s) := onEach f as s
    (p ++ q, if s.status = 0 then s.finish status else s)

/-- Applies a change of the files, or reports the fault. -/
def change (s : Session) (title : String) (r : Except FileFault FileTree) : Printed × Session :=
  match r with
  | .ok tree => good [] { s with tree }
  | .error fault => bad 1 (err (title ++ ": " ++ plainFault fault ++ "\n")) s

/-- The value of up to three digits in base eight. -/
def octal (most : Nat) (cs : List Char) : Nat × List Char :=
  let digits := (cs.take most).takeWhile fun c => '0' ≤ c && c ≤ '7'
  (digits.foldl (fun n c => n * 8 + (c.toNat - 48)) 0, cs.drop digits.length)

/-- Prints its arguments. -/
def echo : Program := fun args _ s =>
  let isOption (a : String) : Bool :=
    if s.isBash then
      match a.toList with
      | '-' :: c :: cs => (c :: cs).all fun c => ['n', 'e', 'E'].contains c
      | _ => false
    else a == "-n"
  let opts := if s.isBash then args.takeWhile isOption else (args.take 1).takeWhile isOption
  let letters := opts.flatMap String.toList
  let text := " ".intercalate (args.drop opts.length)
  let isRead := letters.reverse.find? fun c => c == 'e' || c == 'E'
  let (bytes, stop) :=
    if !s.isBash then Escapes.plain.bytes text.toList
    else if isRead == some 'e' then Escapes.extended.bytes text.toList
    else (Raw.bytes text, false)
  good [(1, if letters.contains 'n' || stop then bytes else bytes ++ [10])] s

/-- A text with blanks in front of it or behind it. -/
def padded (width : Nat) (left : Bool) (b : Bytes) : Bytes :=
  let gap := List.replicate (width - b.length) 32
  if left then b ++ gap else gap ++ b

/-- The content of an argument of a program that reads; a single dash stands for its input. What
cannot be read is reported under a title. -/
def contentOf (title : String → String) (input : Bytes) (path : String) (s : Session) :
    Except Printed Bytes :=
  if path == "-" then .ok input
  else
    match s.content input path with
    | .ok b => .ok b
    | .error fault => .error (err (title path ++ ": " ++ plainFault fault ++ "\n"))

/-- The title of a report: the program and the path. -/
def titled (program path : String) : String := program ++ ": " ++ Quoting.pathIfNeeded path

/-- The words of a text, between blanks. -/
def words (text : String) : List String :=
  let isBlank (c : Char) : Bool := c == ' ' || ('\t' ≤ c && c ≤ '\r')
  ((text.splitToList isBlank).filter (!·.isEmpty))

/-- The lines of bytes, each with its end, which is a byte. -/
def linesTo (last : UInt8) (b : Bytes) : List Bytes :=
  b.foldr (fun x ls =>
    if x = last then [x] :: ls
    else match ls with
      | [] => [[x]]
      | l :: rest => (x :: l) :: rest) []

/-- The lines of bytes, each with its end. -/
def lines (b : Bytes) : List Bytes := linesTo 10 b

/-- The lines of bytes without their ends. -/
def bareLines (last : UInt8) (b : Bytes) : List Bytes :=
  (linesTo last b).map fun line => if line.getLast? == some last then line.dropLast else line

/-- A line without its end. -/
def bareLine (line : Bytes) : Bytes :=
  if line.getLast? == some 10 then line.dropLast else line

/-- The title under which a program reports what it cannot open. -/
def unopened (program path : String) : String :=
  program ++ ": cannot open " ++ Quoting.path path ++ " for reading"

/-- The count that a text spells; a letter behind it stands for a unit, and may stand alone. A second
letter tells whether units are powers of 1000 or of 1024. -/
def count? (text : String) : Option Nat :=
  let cs := text.toList.dropWhile fun c => c == ' ' || ('\t' ≤ c && c ≤ '\r')
  let cs := if cs.head? == some '+' then cs.drop 1 else cs
  let digits := cs.takeWhile Char.isDigit
  let unit := cs.drop digits.length
  let units : List Char := ['K', 'M', 'G', 'T', 'P', 'E', 'Z', 'Y', 'R', 'Q']
  let sized (c : Char) (base : Nat) : Option Nat :=
    if c == 'b' then some 512
    else
      let c := if c == 'k' then 'K' else if c == 'm' then 'M' else c
      if units.contains c then some (Nat.pow base (units.idxOf c + 1)) else none
  let size : Option Nat := match unit with
    | [] => if digits.isEmpty then none else some 1
    | [c] => sized c 1024
    | ['b', _] => none
    | [c, 'B'] => sized c 1000
    | [c, 'i', 'B'] => if c == 'b' then none else sized c 1024
    | _ => none
  let n := if digits.isEmpty then 1 else digits.foldl (fun n c => n * 10 + (c.toNat - 48)) 0
  (size.map (n * ·)).filter (· < Nat.pow 2 64)

/-- A program that turns the content of its arguments into output. -/
def onContent (title : String → String) (f : Bytes → Bytes) (args : List String) :
    Bytes → Session → Printed × Session := fun input s =>
  let args := if args.isEmpty then ["-"] else args
  onEach (fun path s =>
    match contentOf title input path s with
    | .ok b => good [(1, f b)] s
    | .error p => bad 1 p s) args s

end Utility

end Scaffold.Script

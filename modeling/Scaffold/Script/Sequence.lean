import Scaffold.Script.Utility
import Scaffold.Decimal
import Scaffold.Text.Directive

/-!
# Sequence — utilities that make numbers
-/

set_option autoImplicit false

/-!
## Factors — prime factors and orders

One program splits numbers into their prime factors, another one puts names into an order in which
each stands behind those that have to stand in front of it.
-/

namespace Scaffold.Script

namespace Factors

/-! ## Prime factors -/

/-- The prime factors of a number from a candidate on, where no smaller one divides it. -/
def factorsFrom : Nat → Nat → Nat → List Nat
  | 0, _, n => if 1 < n then [n] else []
  | fuel + 1, d, n =>
    if n < 2 then []
    else if n < d * d then [n]
    else if n % d = 0 then d :: factorsFrom fuel d (n / d)
    else factorsFrom fuel (if d = 2 then 3 else d + 2) n

/-- How many candidates are tried. -/
def maxTrials : Nat := 3000000

/-- The prime factors of a number in order. -/
def factors (n : Nat) : List Nat := factorsFrom maxTrials 2 n

/-- The line of a number; a power may stand for equal factors. -/
def factorLine (usesPowers : Bool) (n : Nat) : String :=
  let found := factors n
  let power (p : Nat) : String :=
    let count := found.count p
    toString p ++ (if 1 < count then "^" ++ toString count else "")
  let parts := if usesPowers then found.eraseDups.map power else found.map toString
  toString n ++ ":" ++ String.join (parts.map (" " ++ ·)) ++ "\n"

/-- Splits numbers into their prime factors. -/
def factor : Tool where
  name := "factor"
  flags := "h"
  names := [("exponents", 'h')]
  reads o := o.operands.isEmpty
  run o input s :=
    let texts := if o.operands.isEmpty then Utility.words (Raw.text input) else o.operands
    Utility.onEach (fun text s =>
      let cs := text.toList.dropWhile (· == ' ')
      let digits := if cs.head? == some '+' then cs.drop 1 else cs
      match (if digits.all Char.isDigit then (String.ofList digits).toNat? else none) with
      | some n => Utility.good (out (factorLine (o.has 'h') n)) s
      | none =>
        Utility.bad 1 (err ("factor: " ++ Quoting.path text ++ " is not a valid positive integer\n"))
          s) texts s

/-! ## Orders -/

/-- Names and those that stand behind each of them; the last one given stands first. -/
structure Graph where
  /-- How often a name has to wait, and which names wait for it. -/
  nodes : List (String × Nat × List String) := []

/-- A name of the graph. -/
def Graph.add (g : Graph) (name : String) : Graph :=
  if (g.nodes.lookup name).isSome then g else ⟨g.nodes ++ [(name, 0, [])]⟩

/-- The second name has to stand behind the first one. -/
def Graph.relate (g : Graph) (a b : String) : Graph :=
  let g := (g.add a).add b
  if a == b then g
  else
    ⟨g.nodes.map fun (name, count, waiting) =>
      let count := if name == b then count + 1 else count
      let waiting := if name == a then b :: waiting else waiting
      (name, count, waiting)⟩

/-- The pairs of a row of names. -/
def Graph.ofWords : List String → Graph → Option Graph
  | a :: b :: rest, g => Graph.ofWords rest (g.relate a b)
  | [_], _ => none
  | [], g => some g

/-- The names that wait for nothing, in the order of their letters. -/
def Graph.free (g : Graph) : List String :=
  ((g.nodes.filter (·.2.1 = 0)).map Prod.fst).mergeSort fun a b => a ≤ b

/-- Takes names from the front of a row; those that wait for nothing any more stand at its end. -/
def Graph.takeFree : Nat → Graph → List String → List String × Graph
  | 0, g, _ | _, g, [] => ([], g)
  | fuel + 1, g, name :: row =>
    let waiting := ((g.nodes.lookup name).map Prod.snd).getD []
    let step (found : Graph × List String) (w : String) : Graph × List String :=
      let nodes := found.1.nodes.map fun (n, count, ws) => if n == w then (n, count - 1, ws)
        else (n, count, ws)
      let isFree := (nodes.lookup w).any (·.1 = 0)
      (⟨nodes⟩, if isFree then found.2 ++ [w] else found.2)
    let (g, freed) := waiting.foldl step (⟨g.nodes.filter (·.1 != name)⟩, [])
    let (rest, g) := Graph.takeFree fuel g (row ++ freed)
    (name :: rest, g)

/-- Puts names into an order. Names that wait for each other are reported and stand at the end. -/
def tsort : Tool where
  name := "tsort"
  reads := Tool.readsInput
  run o input s :=
    match o.operands with
    | _ :: extra :: _ => Tool.misused "tsort" ("extra operand " ++ Quoting.path extra) 1 s
    | operands =>
      let path := operands.headD "-"
      match Utility.contentOf (Utility.titled "tsort") input path s with
      | .error p => Utility.bad 1 p s
      | .ok b =>
        match Graph.ofWords (Utility.words (Raw.text b)) {} with
        | none =>
          Utility.bad 1
            (err ("tsort: " ++ Quoting.pathIfNeeded path
              ++ ": input contains an odd number of tokens\n")) s
        | some g =>
          let (names, left) := Graph.takeFree (g.nodes.length + 1) g g.free
          let lines := String.join (names.map (· ++ "\n"))
          if left.nodes.isEmpty then Utility.good (out lines) s
          else
            let said := "tsort: " ++ Quoting.pathIfNeeded path ++ ": input contains a loop:\n"
            let named := String.join (left.nodes.map fun (n, _) => "tsort: " ++ n ++ "\n")
            let rest := String.join (left.nodes.map fun (n, _) => n ++ "\n")
            Utility.bad 1 (out (lines ++ rest) ++ err (said ++ named)) s

/-- The programs on factors and orders. -/
def factorTools : List Tool := [factor, tsort]

end Factors

end Scaffold.Script

/-!
## Sequence — numbers in equal steps

Numbers are calculated in decimals, so that every step is exact. They are written with as many
places as the first number or the step has, or in a format.
-/

namespace Scaffold.Script

open Scaffold.Text (Directive Measure)

/-- A number that a sequence is given by. -/
structure Step where
  /-- The number is this one, divided by ten as often as it has places. -/
  scaled : Int
  places : Nat
  /-- How many places are written of it. -/
  precision : Nat
  /-- How many signs it takes with them. -/
  width : Nat

namespace Step

/-- The number in smaller units. -/
def inPlaces (n : Step) (places : Nat) : Int := n.scaled * (Nat.pow 10 (places - n.places) : Nat)

/-- The width of a number that is written with a point: one without digits in front of it or behind
it is written in another way. -/
def spelledWidth (text : List Char) : Nat :=
  let body := text.takeWhile fun c => c != 'e' && c != 'E'
  let whole := body.takeWhile (· != '.')
  match body.drop whole.length with
  | [] => body.length
  | ['.'] => body.length - 1
  | _ => if whole.getLast?.any Char.isDigit then body.length else body.length + 1

/-- Reads a number. -/
def ofText? (text : String) : Option Step := do
  let cs := text.toList.dropWhile fun c => c == ' ' || ('\t' ≤ c && c ≤ '\r')
  let (isNegative, digits) := match cs with
    | '-' :: rest => (true, rest)
    | '+' :: rest => (false, rest)
    | rest => (false, rest)
  let (n, exponent) ← match digits with
    | '0' :: 'x' :: hex | '0' :: 'X' :: hex =>
      (Decimal.digits? 16 hex).map fun n => (n, (0 : Int))
    | digits => Decimal.scientific? digits
  let places := (-exponent).toNat
  let magnitude : Nat := n * Nat.pow 10 exponent.toNat
  let isPlain := digits.all fun c => c != 'e' && c != 'E'
  let shown := if isNegative then '-' :: digits else digits
  let whole := (toString (magnitude / Nat.pow 10 places)).length
  let exponentWidth :=
    whole + (if places = 0 then 0 else places + 1) + (if isNegative then 1 else 0)
  return {
    scaled := if isNegative then -(magnitude : Int) else magnitude
    places
    precision := places
    width := if isPlain then spelledWidth shown else exponentWidth }

/-- A whole number. -/
def one : Step := ⟨1, 0, 0, 1⟩

end Step

/-- How the numbers of a sequence are written. -/
structure StepFormat where
  front : String
  directive : Directive
  behind : String

namespace StepFormat

/-- Reads what stands around the directive of a format: up to a percent sign that stands for no
percent sign, and what follows it. -/
def literal : List Char → List Char × Option (List Char)
  | '%' :: '%' :: rest =>
    let (text, behind) := literal rest
    ('%' :: text, behind)
  | '%' :: rest => ([], some rest)
  | c :: rest =>
    let (text, behind) := literal rest
    (c :: text, behind)
  | [] => ([], none)

/-- Reads a format, or tells what is wrong with it. -/
def read (text : String) : Except String StepFormat := do
  let title := "format " ++ Quoting.path text
  let (front, rest) ← match literal text.toList with
    | (front, some rest) => pure (front, rest)
    | (_, none) => throw (title ++ " has no % directive")
  let isFlag (c : Char) : Bool := Directive.isFlag c || c == '\''
  let flags := rest.takeWhile isFlag
  let (width, rest) := Directive.readNumber (rest.dropWhile isFlag)
  let (precision, rest) := match rest with
    | '.' :: rest => ((Directive.readNumber rest).1.getD 0 |> some, (Directive.readNumber rest).2)
    | rest => (none, rest)
  let rest := if rest.head? == some 'L' then rest.drop 1 else rest
  match rest with
  | [] => throw (title ++ " ends in %")
  | conversion :: rest =>
    if !(['e', 'f', 'g', 'a', 'E', 'F', 'G', 'A'].contains conversion) then
      throw (title ++ " has unknown %" ++ String.singleton conversion ++ " directive")
    else
      match literal rest with
      | (_, some _) => throw (title ++ " has too many % directives")
      | (behind, none) =>
        let measure (n : Option Nat) : Measure := (n.map Measure.given).getD .absent
        return {
          front := String.ofList front
          directive := { flags, width := measure width, precision := measure precision, conversion }
          behind := String.ofList behind }

/-- Writes a number with places; 64 bits of it are kept. -/
def write (f : StepFormat) (places : Nat) (n : Int) : String :=
  let number (m : Measure) (otherwise : Nat) : Nat := match m with
    | .given n => n
    | _ => otherwise
  let x : Decimal.Double := .finite (n < 0) (.nearestTo 64 n.natAbs (Nat.pow 10 places))
  f.front ++ f.directive.double (number f.directive.width 0) (number f.directive.precision 6) x
    ++ f.behind

end StepFormat

namespace Sequence

/-- A number with so many digits behind the point, perhaps with zeros in front. -/
def decimalText (places width : Nat) (n : Int) : String :=
  let digits := toString n.natAbs
  let digits := String.ofList (List.replicate (places + 1 - digits.length) '0') ++ digits
  let cut := digits.length - places
  let body := if places = 0 then digits
    else String.ofList (digits.toList.take cut ++ '.' :: digits.toList.drop cut)
  let sign := if n < 0 then "-" else ""
  sign ++ String.ofList (List.replicate (width - sign.length - body.length) '0') ++ body

/-- Numbers in equal steps up to a last one. -/
def stepped (step last : Int) : Nat → Int → List Int
  | 0, _ => []
  | fuel + 1, n =>
    if (0 ≤ step && last < n) || (step < 0 && n < last) then []
    else n :: stepped step last fuel (n + step)

/-- The width that all numbers of a sequence have when they are written alike. -/
def evenWidth (shown : Nat) (first last : Step) : Nat :=
  let ofFirst := first.width + (shown - first.precision)
    + (if first.precision = 0 && 0 < shown then 1 else 0)
  let ofLast := last.width + shown - last.precision
  let ofLast :=
    if 0 < last.precision && shown = 0 then ofLast - 1
    else if last.precision = 0 && 0 < shown then ofLast + 1
    else ofLast
  max ofFirst ofLast

/-- The numbers of a sequence as texts. -/
def texts (format : Option StepFormat) (isEven : Bool) (first step last : Step) : List String :=
  let places := max (max first.places step.places) last.places
  let shown := max first.precision step.precision
  let (from_, by_, upTo) := (first.inPlaces places, step.inPlaces places, last.inPlaces places)
  let count := (upTo - from_).natAbs / by_.natAbs + 1
  let width := if isEven then evenWidth shown first last else 0
  (stepped by_ upTo count from_).map fun n =>
    match format with
    | some f => f.write places n
    | none => decimalText shown width (n / (Nat.pow 10 (places - shown) : Nat))

/-- The arguments of a sequence: from the first one that is no option on, all are numbers. -/
def prepare : List String → List String
  | [] => []
  | "--" :: rest => "--" :: rest
  | "-f" :: value :: rest => "-f" :: value :: prepare rest
  | "-s" :: value :: rest => "-s" :: value :: prepare rest
  | arg :: rest =>
    match arg.toList with
    | '-' :: c :: _ => if c == '.' || c.isDigit then "--" :: arg :: rest else arg :: prepare rest
    | _ => "--" :: arg :: rest

/-- Prints numbers in equal steps. -/
def seq : Tool where
  name := "seq"
  flags := "w"
  valued := "fs"
  names := [("format", 'f'), ("separator", 's'), ("equal-width", 'w')]
  prepare := prepare
  run o _ s :=
    let misused (text : String) : Printed × Session := Tool.misused "seq" text 1 s
    let format := (o.value? 'f').map StepFormat.read
    match o.operands, format with
    | [], _ => misused "missing operand"
    | _ :: _ :: _ :: extra :: _, _ => misused ("extra operand " ++ Quoting.path extra)
    | _, some (.error text) => Utility.bad 1 (err ("seq: " ++ text ++ "\n")) s
    | operands, format =>
      let format := format.bind Except.toOption
      if format.isSome && o.has 'w' then
        misused "format string may not be specified when printing equal width strings"
      else
        match operands.find? fun a => (Step.ofText? a).isNone with
        | some text => misused ("invalid floating point argument: " ++ Quoting.path text)
        | none =>
          let go (first step last : Step) : Printed × Session :=
            if step.scaled = 0 then
              misused ("invalid Zero increment value: "
                ++ Quoting.path ((operands[1]?).getD "0"))
            else
              match texts format (o.has 'w') first step last with
              | [] => Utility.good [] s
              | texts =>
                let separator := (o.value? 's').getD "\n"
                Utility.good (out (separator.intercalate texts ++ "\n")) s
          match operands.filterMap Step.ofText? with
          | [last] => go .one .one last
          | [first, last] => go first .one last
          | [first, step, last] => go first step last
          | _ => misused "missing operand"

end Sequence

end Scaffold.Script

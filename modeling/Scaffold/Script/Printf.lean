import Scaffold.Decimal
import Scaffold.Script.Clock
import Scaffold.Script.Utility
import Scaffold.Text.Directive

/-!
# Printf — arguments in a format

A format is gone through over and over until all arguments are used. Numbers are read as far as they
are numbers; what is wrong with them is reported, and the output goes on.
-/

set_option autoImplicit false

namespace Scaffold.Script

open Scaffold.Text (Directive Measure)

namespace Utility

/-- What is wrong with an argument. -/
structure ArgumentFault where
  text : String
  /-- The format failed on account of it. -/
  isFailure : Bool := true

/-- What a pass over a format has made. -/
structure Formatted where
  bytes : Bytes := []
  /-- What is wrong with arguments. -/
  faults : List ArgumentFault := []
  /-- The arguments that are left. -/
  arguments : List String
  /-- An argument was asked for. -/
  used : Bool := false
  /-- Nothing more is printed. -/
  stops : Bool := false
  /-- The format cannot be read. -/
  isBroken : Bool := false

/-- Puts output in front. -/
def Formatted.after (b : Bytes) (f : Formatted) : Formatted := { f with bytes := b ++ f.bytes }

/-- What is wrong with a number that has a rest, or of which nothing is a number. -/
def numberFault (isBash isEmpty : Bool) (text : String) : ArgumentFault :=
  if isBash then { text := text ++ ": invalid number" }
  else if isEmpty then { text := text ++ ": expected numeric value" }
  else { text := text ++ ": not completely converted" }

/-- The integer that an argument spells, and what is wrong with it. A quote in front of a character
makes its number; a number that is too large becomes the largest one. -/
def integerOf (isBash : Bool) (text : String) : Int × List ArgumentFault :=
  let cs := text.toList.dropWhile fun c => c == ' ' || c == '\t'
  match cs with
  | '\'' :: c :: _ | '"' :: c :: _ => (c.toNat, [])
  | cs =>
    let (negative, cs) := match cs with
      | '-' :: rest => (true, rest)
      | '+' :: rest => (false, rest)
      | rest => (false, rest)
    let (base, digits) : Nat × List Char := match cs with
      | '0' :: 'x' :: rest | '0' :: 'X' :: rest => (16, rest)
      | '0' :: rest => (8, '0' :: rest)
      | rest => (10, rest)
    let (n, rest) := (spelledNumber base digits.length digits).getD (0, digits)
    let isAny := rest.length < digits.length
    let isWhole := rest.isEmpty && (isAny || text.isEmpty)
    let most : Nat := if negative then Nat.pow 2 63 else Nat.pow 2 63 - 1
    let isTooLarge := most < n
    let n : Int := if isTooLarge then most else n
    let large : ArgumentFault :=
      if isBash then
        { text := "warning: " ++ text ++ ": Numerical result out of range", isFailure := false }
      else { text := text ++ ": Numerical result out of range" }
    (if negative then -n else n,
      if !isWhole then [numberFault isBash (!isAny) text] else if isTooLarge then [large] else [])

/-- The number with a fraction that an argument spells, and what is wrong with it. The extended
shell keeps 64 bits of it. -/
def doubleOf (isBash : Bool) (text : String) : Decimal.Double × List ArgumentFault :=
  let cs := text.toList
  let (isNegative, digits) := match cs with
    | '-' :: rest => (true, rest)
    | '+' :: rest => (false, rest)
    | rest => (false, rest)
  match isBash, Decimal.scientific? digits, Decimal.decimal? cs with
  | true, some (n, .ofNat e), _ => (.finite isNegative (.nearestTo 64 (n * Nat.pow 10 e) 1), [])
  | true, some (n, .negSucc e), _ =>
    (.finite isNegative (.nearestTo 64 n (Nat.pow 10 (e + 1))), [])
  | _, _, some x => (.ofFloat x, [])
  | _, _, none =>
    if text.isEmpty then (.ofFloat 0.0, [])
    else
      let (n, _) := integerOf isBash text
      (.ofFloat (Float.ofInt n), [numberFault isBash (cs.head?.all (!·.isDigit)) text])

/-- An integer as one of the conversions of integers writes it. -/
def integerText (d : Directive) (width : Nat) (precision : Option Nat) (n : Int) : String :=
  let bits : Nat := (n % (Nat.pow 2 64 : Nat)).toNat
  let digits (base m : Nat) : String := String.ofList (Nat.toDigits base m)
  let (sign, body) := match d.conversion with
    | 'o' => ((if d.flags.contains '#' then "0" else ""), digits 8 bits)
    | 'x' => ((if d.flags.contains '#' && bits != 0 then "0x" else ""), digits 16 bits)
    | 'X' =>
      ((if d.flags.contains '#' && bits != 0 then "0X" else ""), (digits 16 bits).map Char.toUpper)
    | 'u' => ("", digits 10 bits)
    | _ => (Directive.signOf d.flags (n < 0), digits 10 n.natAbs)
  let body := String.ofList (List.replicate ((precision.getD 1) - body.length) '0') ++ body
  Directive.place d.flags width precision.isNone sign body

/-- The number of a width or precision, and the arguments left. -/
def measure (isBash : Bool) (args : List String) : Measure → Option Int × List String
  | .absent => (none, args)
  | .given n => (some n, args)
  | .argument => (some (integerOf isBash (args.headD "")).1, args.drop 1)

/-- What is wrong with a letter behind a backslash that no digits follow. -/
def missingDigit (isBash : Bool) (c : Char) : List ArgumentFault :=
  let fault (text : String) : List ArgumentFault := [{ text, isFailure := false }]
  if !isBash then []
  else if c == 'x' then fault "missing hex digit for \\x"
  else if c == 'u' || c == 'U' then fault ("missing unicode digit for \\" ++ String.singleton c)
  else []

/-- What is wrong with the escapes of an argument. -/
def missingDigits (isBash : Bool) : List Char → List ArgumentFault
  | '\\' :: c :: rest =>
    let isMissing := ['x', 'u', 'U'].contains c && (spelledNumber 16 1 rest).isNone
    (if isMissing then missingDigit isBash c else []) ++ missingDigits isBash rest
  | _ :: rest => missingDigits isBash rest
  | [] => []

/-- Writes an argument as a directive says. -/
def written (isBash : Bool) (d : Directive) (width : Nat) (precision : Option Nat)
    (args : List String) : Formatted :=
  let arg := args.headD ""
  let rest := args.drop 1
  let left := d.flags.contains '-'
  let text (b : Bytes) : Formatted :=
    { bytes := padded width left (precision.elim b b.take), arguments := rest, used := true }
  match d.conversion with
  | 's' => text (Raw.bytes arg)
  | 'q' => text (Raw.bytes (Quoting.backslashed arg))
  | 'Q' =>
    let part := String.ofList (precision.elim arg.toList arg.toList.take)
    { bytes := padded width left (Raw.bytes (Quoting.backslashed part)), arguments := rest
      used := true }
  | 'c' =>
    { bytes := padded width left ((Raw.bytes arg ++ [0]).take 1), arguments := rest, used := true }
  | 'b' =>
    let (b, stops) := (Escapes.argument isBash).bytes arg.toList
    { text b with stops, faults := missingDigits isBash arg.toList }
  | 'd' | 'i' | 'u' | 'o' | 'x' | 'X' =>
    let (n, faults) := integerOf isBash arg
    { bytes := Raw.bytes (integerText d width precision n), faults, arguments := rest
      used := true }
  | 'e' | 'E' | 'f' | 'F' | 'g' | 'G' =>
    let (x, faults) := doubleOf isBash arg
    { bytes := Raw.bytes (d.double width (precision.getD 6) x), faults, arguments := rest
      used := true }
  | _ => { arguments := args }

/-- The letters of conversions. -/
def conversions (isBash : Bool) : List Char :=
  ['s', 'c', 'b', 'd', 'i', 'u', 'o', 'x', 'X', 'e', 'E', 'f', 'F', 'g', 'G']
    ++ if isBash then ['q', 'Q'] else []

/-- Reads what follows a percent sign: the directive and what follows it, or what is wrong. -/
def readDirective (isBash : Bool) (text : List Char) :
    Except String (Directive × List Char) :=
  let flags := text.takeWhile Directive.isFlag
  let (width, rest) := Directive.readMeasure .absent (text.dropWhile Directive.isFlag)
  let (precision, rest) := match rest with
    | '.' :: rest => Directive.readMeasure (.given 0) rest
    | rest => (.absent, rest)
  let rest := if isBash then rest.dropWhile ['h', 'j', 'l', 'L', 't', 'z'].contains else rest
  match rest with
  | [] =>
    .error (if isBash then "\x60%" ++ String.ofList text ++ "': missing format character"
      else "missing format character")
  | c :: behind =>
    if (conversions isBash).contains c then
      .ok ({ flags, width, precision, conversion := c }, behind)
    else if isBash then
      .error ("\x60" ++ String.singleton c ++ "': invalid format character")
    else
      .error ("%" ++ String.ofList (text.take (text.length - behind.length))
        ++ ": invalid directive")

/-- The format of a moment in brackets between a percent sign and its letter. -/
def readMoment (text : List Char) : Option (Directive × String × List Char) :=
  let flags := text.takeWhile Directive.isFlag
  let (width, rest) := Directive.readMeasure .absent (text.dropWhile Directive.isFlag)
  let (precision, rest) := match rest with
    | '.' :: rest => Directive.readMeasure (.given 0) rest
    | rest => (.absent, rest)
  match rest with
  | '(' :: inner =>
    let format := inner.takeWhile (· != ')')
    match inner.drop format.length with
    | ')' :: 'T' :: behind =>
      some ({ flags, width, precision, conversion := 'T' }, String.ofList format, behind)
    | _ => none
  | _ => none

/-- Writes the moment that an argument spells in seconds, in a format. -/
def writtenMoment (d : Directive) (format : String) (width : Nat) (precision : Option Nat)
    (args : List String) : Formatted :=
  let (n, faults) := integerOf true (args.headD "")
  let format := if format.isEmpty then "%X" else format
  let b := Raw.bytes (Clock.stamp (Calendar.Moment.ofSeconds n) 0 format)
  { bytes := padded width (d.flags.contains '-') (precision.elim b b.take), faults
    arguments := args.drop 1, used := true }

/-- A pass over a format. -/
def formatWithin (isBash : Bool) : Nat → List Char → List String → Formatted
  | 0, _, args | _, [], args => { arguments := args }
  | fuel + 1, '%' :: '%' :: rest, args => (formatWithin isBash fuel rest args).after [37]
  | fuel + 1, '%' :: rest, args =>
    let moment := if isBash then readMoment rest else none
    let read : Except String (Directive × List Char) := match moment with
      | some (d, _, rest) => .ok (d, rest)
      | none => readDirective isBash rest
    match read with
    | .error text => { faults := [{ text }], arguments := args, stops := true, isBroken := true }
    | .ok (d, rest) =>
      let (width, args) := measure isBash args d.width
      let (precision, args) := measure isBash args d.precision
      let d := if width.any (· < 0) then { d with flags := '-' :: d.flags } else d
      let precision := (precision.filter (0 ≤ ·)).map Int.toNat
      let width := (width.getD 0).natAbs
      let f := match moment with
        | some (_, format, _) => writtenMoment d format width precision args
        | none => written isBash d width precision args
      if f.stops then f
      else
        let more := formatWithin isBash fuel rest f.arguments
        { more with
          bytes := f.bytes ++ more.bytes
          faults := f.faults ++ more.faults
          used := true }
  | fuel + 1, '\\' :: c :: rest, args =>
    let (b, behind) := ((Escapes.format isBash).one c rest).getD ([92], c :: rest)
    let f := (formatWithin isBash fuel behind args).after b
    if behind.length = rest.length + 1 then
      { f with faults := missingDigit isBash c ++ f.faults }
    else f
  | fuel + 1, c :: rest, args => (formatWithin isBash fuel rest args).after ([c.toNat.toUInt8])

/-- Formats arguments, over and over until all are used. -/
def formatAll (isBash : Bool) (format : List Char) : Nat → List String → Formatted
  | 0, args => { arguments := args }
  | fuel + 1, args =>
    let f := formatWithin isBash (format.length + 1) format args
    if f.used && !f.stops && !f.arguments.isEmpty then
      let more := formatAll isBash format fuel f.arguments
      { more with bytes := f.bytes ++ more.bytes, faults := f.faults ++ more.faults }
    else f

/-- Prints its arguments in a format. -/
def printf : Program := fun args _ s =>
  match if args.head? == some "--" then args.drop 1 else args with
  | [] =>
    bad 2 (err (s.complaint
      (if s.isBash then "printf: usage: printf [-v var] format [arguments]"
        else "printf: usage: printf format [arg ...]"))) s
  | format :: args =>
    let f := formatAll s.isBash format.toList (args.length + 1) args
    let faults := f.faults.map fun fault => s.complaint ("printf: " ++ fault.text)
    let status := if f.isBroken && !s.isBash then 2
      else if f.faults.any (·.isFailure) then 1 else 0
    bad status ((1, f.bytes) :: err (String.join faults)) s

end Utility

end Scaffold.Script

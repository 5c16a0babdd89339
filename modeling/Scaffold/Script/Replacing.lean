import Scaffold.Script.Utility

/-!
# Replacing — a program that replaces, removes and squeezes characters

Two sets of characters are spelled in order, with ranges, classes and repetitions, and each
character of the first one stands for the one at the same place of the second one.
-/

set_option autoImplicit false

namespace Scaffold.Script

namespace Replacing

/-- A part of a set. -/
inductive Part
  | plain (c : UInt8)
  | range (first last : UInt8)
  | named (name : String)
  | same (c : UInt8)
  /-- So often, or as often as it takes. -/
  | repeated (c : UInt8) (count : Option Nat)

/-- What is wrong with sets. -/
inductive Fault
  | backwards (first last : UInt8)
  | noClass (name : String)
  | lacksName
  | lacksCharacter
  | manyCharacters (text : String)
  | badCount (text : String)
  | fillInFirst
  | fillTwice
  | fillIdle
  | sameInSecond
  | classInSecond
  | misaligned
  | endsWithClass
  | empty
  | complemented

/-- A character as it is shown. -/
def shown (c : UInt8) : String :=
  match Escapes.letters.find? (·.2 == c) with
  | some (letter, _) => String.ofList ['\\', letter]
  | none =>
    if 32 ≤ c && c ≤ 126 then Raw.text [c]
    else String.ofList (Quoting.octal (Char.ofNat c.toNat))

/-- The wording of a fault. -/
def Fault.message : Fault → String
  | .backwards a b =>
    "range-endpoints of '" ++ shown a ++ "-" ++ shown b ++ "' are in reverse collating sequence order"
  | .noClass name => "invalid character class " ++ Quoting.path name
  | .lacksName => "missing character class name '[::]'"
  | .lacksCharacter => "missing equivalence class character '[==]'"
  | .manyCharacters text => text ++ ": equivalence class operand must be a single character"
  | .badCount text => "invalid repeat count " ++ Quoting.path text ++ " in [c*n] construct"
  | .fillInFirst => "the [c*] repeat construct may not appear in string1"
  | .fillTwice => "only one [c*] repeat construct may appear in string2"
  | .fillIdle => "the [c*] construct may appear in string2 only when translating"
  | .sameInSecond => "[=c=] expressions may not appear in string2 when translating"
  | .classInSecond =>
    "when translating, the only character classes that may appear in\nstring2 are 'upper' and 'lower'"
  | .misaligned => "misaligned [:upper:] and/or [:lower:] construct"
  | .endsWithClass =>
    "when translating with string1 longer than string2,\nthe latter string must not end with a character class"
  | .empty => "when not truncating set1, string2 must be non-empty"
  | .complemented =>
    "when translating with complemented character classes,\nstring2 must map all characters in the domain to one"

/-! ## Reading sets -/

/-- A character of a set as it is written; one behind a backslash is no sign. -/
structure Sign where
  byte : UInt8
  isEscaped : Bool := false
  deriving DecidableEq

/-- The characters behind their backslashes, and what is said about some of them. -/
def signs : List Char → List Sign × List String
  | [] => ([], [])
  | '\\' :: rest =>
    match rest with
    | [] =>
      ([⟨92, false⟩], ["warning: an unescaped backslash at end of string is not portable"])
    | c :: behind =>
      let one (byte : UInt8) (isEscaped : Bool) (rest : List Sign × List String) :
          List Sign × List String := (⟨byte, isEscaped⟩ :: rest.1, rest.2)
      let digit (c : Char) : Nat := c.toNat - 48
      let isOctal (c : Char) : Bool := '0' ≤ c && c ≤ '7'
      if isOctal c then
        match behind with
        | d :: e :: more =>
          if isOctal d && isOctal e then
            let n := (digit c * 8 + digit d) * 8 + digit e
            if n < 256 then one n.toUInt8 true (signs more)
            else
              let (found, said) := one (digit c * 8 + digit d).toUInt8 true (signs (e :: more))
              let three := String.ofList [c, d, e]
              (found, ("warning: the ambiguous octal escape \\" ++ three
                ++ " is being\n\tinterpreted as the 2-byte sequence \\0" ++ String.ofList [c, d]
                ++ ", " ++ String.singleton e) :: said)
          else if isOctal d then one (digit c * 8 + digit d).toUInt8 true (signs (e :: more))
          else one (digit c).toUInt8 true (signs (d :: e :: more))
        | [d] =>
          if isOctal d then ([⟨(digit c * 8 + digit d).toUInt8, true⟩], [])
          else one (digit c).toUInt8 true (signs [d])
        | [] => ([⟨(digit c).toUInt8, true⟩], [])
      else
        match Escapes.letters.lookup c with
        | some b => one b true (signs behind)
        | none => one c.toNat.toUInt8 true (signs behind)
  | c :: rest =>
    let (found, said) := signs rest
    (⟨c.toNat.toUInt8, false⟩ :: found, said)

/-- The sign is a character without a backslash. -/
def Sign.is (g : Sign) (c : Char) : Bool := !g.isEscaped && g.byte == c.toNat.toUInt8

/-- The characters up to a sign and a bracket, and what follows them. -/
def closed (c : Char) : List Sign → Option (Bytes × List Sign)
  | a :: b :: rest =>
    if a.is c && b.is ']' then some ([], rest)
    else (closed c (b :: rest)).map fun (found, rest) => (a.byte :: found, rest)
  | _ => none

/-- A repetition behind the bracket that opens it. -/
def repetition? : List Sign → Except Fault (Option (Part × List Sign))
  | c :: star :: rest =>
    if !star.is '*' then .ok none
    else
      let inner := rest.takeWhile fun g => !g.isEscaped && !g.is ']'
      match rest.drop inner.length with
      | close :: behind =>
        if !close.is ']' then .ok none
        else
          let digits := (Raw.text (inner.map (·.byte))).toList
          let base := if digits.head? == some '0' then 8 else 10
          if digits.isEmpty then .ok (some (.repeated c.byte none, behind))
          else
            match spelledNumber base digits.length digits with
            | some (n, []) =>
              .ok (some (.repeated c.byte (if n = 0 then none else some n), behind))
            | _ => .error (.badCount (String.ofList digits))
      | [] => .ok none
  | _ => .ok none

/-- Names of classes. -/
def classNames : List String :=
  ["alnum", "alpha", "blank", "cntrl", "digit", "graph", "lower", "print", "punct", "space",
    "upper", "xdigit"]

/-- A class or a group of equal characters behind the bracket that opens it. -/
def bracketed? (rest : List Sign) : Except Fault (Option (Part × List Sign)) :=
  let isRepetition : Bool := match rest with
    | _ :: star :: more =>
      star.is '*' &&
        ((more.dropWhile fun g => !g.isEscaped && 48 ≤ g.byte && g.byte ≤ 57).head?.any (·.is ']'))
    | _ => false
  match rest with
  | kind :: inner =>
    let found := if kind.is ':' then closed ':' inner
      else if kind.is '=' then closed '=' inner else none
    match found with
    | none => .ok none
    | some ([], _) => .error (if kind.is ':' then .lacksName else .lacksCharacter)
    | some (text, behind) =>
      if kind.is ':' then
        if classNames.contains (Raw.text text) then .ok (some (.named (Raw.text text), behind))
        else if isRepetition then .ok none
        else .error (.noClass (Raw.text text))
      else
        match text with
        | [c] => .ok (some (.same c, behind))
        | _ =>
          if isRepetition then .ok none
          else .error (.manyCharacters (String.join (text.map shown)))
  | [] => .ok none

/-- The parts of a set. -/
def partsWithin : Nat → List Sign → Except Fault (List Part)
  | 0, _ => .ok []
  | fuel + 1, a :: b :: c :: rest => do
    let isOpen := a.is '['
    let found ← if isOpen then bracketed? (b :: c :: rest) else pure none
    let found ← if isOpen && found.isNone then repetition? (b :: c :: rest) else pure found
    match found with
    | some (part, rest) => return part :: (← partsWithin fuel rest)
    | none =>
      if b.is '-' then
        if c.byte < a.byte then throw (.backwards a.byte c.byte)
        return .range a.byte c.byte :: (← partsWithin fuel rest)
      else return .plain a.byte :: (← partsWithin fuel (b :: c :: rest))
  | _ + 1, few => .ok (few.map fun g => .plain g.byte)

/-- The parts of a set that a text spells. -/
def parts (signs : List Sign) : Except Fault (List Part) := partsWithin (signs.length + 1) signs

/-! ## Sets -/

/-- The characters of a named class. -/
def classBytes (name : String) : Bytes :=
  let holds : Char → Bool := match name with
    | "upper" => Char.isUpper
    | "lower" => Char.isLower
    | "digit" => Char.isDigit
    | "alpha" => Char.isAlpha
    | "alnum" => Char.isAlphanum
    | "space" => fun c => [' ', '\t', '\n', '\x0b', '\x0c', '\r'].contains c
    | "blank" => fun c => c == ' ' || c == '\t'
    | "cntrl" => fun c => c.toNat < 32 || c.toNat = 127
    | "print" => fun c => 32 ≤ c.toNat && c.toNat < 127
    | "graph" => fun c => 32 < c.toNat && c.toNat < 127
    | "punct" => fun c => 32 < c.toNat && c.toNat < 127 && !c.isAlphanum
    | "xdigit" => fun c => c.isDigit || ('a' ≤ c && c ≤ 'f') || ('A' ≤ c && c ≤ 'F')
    | _ => fun _ => false
  ((List.range 128).filter fun n => holds (Char.ofNat n)).map UInt8.ofNat

/-- The characters of a part; a repetition without a count is filled with so many. -/
def Part.bytes (fill : Nat) : Part → Bytes
  | .plain c | .same c => [c]
  | .range a b => ((List.range (b.toNat + 1)).filter (a.toNat ≤ ·)).map UInt8.ofNat
  | .named name => classBytes name
  | .repeated c count => List.replicate (count.getD fill) c

/-- The part is a repetition without a count. -/
def Part.fills : Part → Bool
  | .repeated _ none => true
  | _ => false

/-- The part is a class. -/
def Part.isClass : Part → Bool
  | .named _ => true
  | _ => false

/-- The class of a part with letters of one case. -/
def Part.letterCase? : Part → Option String
  | .named name => if name == "upper" || name == "lower" then some name else none
  | _ => none

/-- The characters of parts. -/
def bytesOf (fill : Nat) (parts : List Part) : Bytes := parts.flatMap (Part.bytes fill)

/-- The characters that are not in a set. -/
def otherBytes (set : Bytes) : Bytes :=
  ((List.range 256).map UInt8.ofNat).filter (!set.contains ·)

/-- Every class of letters of one case in the second set stands where such a class stands in the
first one; the places count such a class as one character. -/
def isAligned (first second : List Part) : Bool :=
  let places (parts : List Part) : List Nat :=
    (parts.foldl (fun (found : List Nat × Nat) p =>
      if p.letterCase?.isSome then (found.1 ++ [found.2], found.2 + 1)
      else (found.1, found.2 + (p.bytes 0).length)) ([], 0)).1
  (places second).all (places first).contains

/-- What characters become; of several a later one counts. -/
structure Replacement where
  from_ : Bytes
  into : Bytes

/-- What a character becomes. -/
def Replacement.apply (r : Replacement) (c : UInt8) : UInt8 :=
  ((r.from_.zip r.into).reverse.lookup c).getD c

/-- Checks two sets, one of which replaces the other. -/
def replacement (isComplement cuts : Bool) (first second : List Part) :
    Except Fault Replacement := do
  if second.any fun p => match p with | .same _ => true | _ => false then throw .sameInSecond
  if second.any fun p => p.isClass && p.letterCase?.isNone then throw .classInSecond
  let set := bytesOf 0 first
  let from_ := if isComplement then otherBytes set else set
  let bare := bytesOf 0 second
  let hasClass := first.any Part.isClass
  if !isComplement && hasClass && !isAligned first second then throw .misaligned
  let fill := if second.any Part.fills then from_.length - bare.length else 0
  let into := bytesOf fill second
  let into ←
    if into.length < from_.length && !cuts then
      match second.getLast? with
      | none => throw .empty
      | some part => do
        if part.isClass then throw .endsWithClass
        match into.getLast? with
        | none => throw .empty
        | some last => pure (into ++ List.replicate (from_.length - into.length) last)
    else pure into
  if isComplement && hasClass
      && !(into.length = from_.length && into.all (some · == into.head?)) then
    throw .complemented
  return ⟨from_, into⟩

/-- Keeps only the first of equal characters in a row. -/
def squeezed (set : Bytes) : Bytes → Bytes
  | a :: b :: rest =>
    if a == b && set.contains a then squeezed set (b :: rest) else a :: squeezed set (b :: rest)
  | b => b

/-- What is wrong with the number of operands. -/
def countFault? (deletes squeezes : Bool) (operands : List String) : Option String :=
  let least := if deletes == squeezes then 2 else 1
  let most := if deletes && !squeezes then 1 else 2
  if operands.isEmpty then some "missing operand"
  else if operands.length < least then
    some ("missing operand after " ++ Quoting.path (operands.getLastD "")
      ++ (if squeezes then
        "\nTwo strings must be given when both deleting and squeezing repeats."
      else "\nTwo strings must be given when translating."))
  else if most < operands.length then
    some ("extra operand " ++ Quoting.path (operands.getD most "")
      ++ (if operands.length = 2 then
        "\nOnly one string may be given when deleting without squeezing repeats."
      else ""))
  else none

/-- Reads both sets, and says what may not be in them. -/
def setsOf (operands : List (List Sign)) (replaces : Bool) :
    Except Fault (List Part × Option (List Part)) := do
  let first ← parts (operands.headD [])
  let second ← (operands[1]?).mapM parts
  if first.any Part.fills then throw .fillInFirst
  let fills := ((second.getD []).filter Part.fills).length
  if 1 < fills then throw .fillTwice
  if 0 < fills && !replaces then throw .fillIdle
  return (first, second)

/-- Replaces, removes or squeezes characters. -/
def tr : Tool where
  name := "tr"
  flags := "cCdst"
  names := [("complement", 'c'), ("delete", 'd'), ("squeeze-repeats", 's'),
    ("truncate-set1", 't')]
  isFront := true
  reads _ := true
  run o input s :=
    let isComplement := o.has 'c' || o.has 'C'
    match countFault? (o.has 'd') (o.has 's') o.operands with
    | some text => Tool.misused "tr" text 1 s
    | none =>
      let read := o.operands.map fun text => signs (Raw.text (Raw.bytes text)).toList
      let said : Printed := read.flatMap fun (_, said) =>
        said.flatMap fun line => err ("tr: " ++ line ++ "\n")
      let replaces := o.operands.length = 2 && !o.has 'd'
      let chosen (set : List Part) : Bytes :=
        if isComplement then otherBytes (bytesOf 0 set) else bytesOf 0 set
      let run : Except Fault Bytes := do
        match ← setsOf (read.map Prod.fst) replaces with
        | (first, none) =>
          return if o.has 'd' then input.filter (!(chosen first).contains ·)
            else squeezed (chosen first) input
        | (first, some second) =>
          if o.has 'd' then
            return squeezed (bytesOf 0 second) (input.filter (!(chosen first).contains ·))
          let r ← replacement isComplement (o.has 't') first second
          let b := input.map r.apply
          return if o.has 's' then squeezed r.into b else b
      match run with
      | .ok b => Utility.good (said ++ [(1, b)]) s
      | .error fault => Utility.bad 1 (said ++ err ("tr: " ++ fault.message ++ "\n")) s

end Replacing

end Scaffold.Script

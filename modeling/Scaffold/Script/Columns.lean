import Scaffold.Occurrences
import Scaffold.Script.Utility

/-!
# Columns — programs on the parts of lines

They print parts of lines, put lines side by side, and change how wide lines and tabs are.
-/

set_option autoImplicit false

namespace Scaffold.Script

namespace Columns

/-- The byte at which lines end. -/
def ending (o : Settings) : UInt8 := if o.has 'z' then 0 else 10

/-! ## Parts of lines -/

/-- A range of places; places are counted from one, and a range may have no end. -/
abbrev Places := Nat × Option Nat

/-- What is wrong with a list of ranges. -/
inductive PlacesFault
  | zero
  | decreasing
  | twoDashes
  | noEndpoint
  | tooLarge (digits : String)
  | noNumber (text : String)

/-- The wording of a fault in a list of fields or of bytes. -/
def PlacesFault.message (isFields : Bool) : PlacesFault → String
  | .zero =>
    (if isFields then "fields" else "byte/character positions") ++ " are numbered from 1"
  | .decreasing => "invalid decreasing range"
  | .twoDashes => "invalid " ++ (if isFields then "field range" else "byte or character range")
  | .noEndpoint => "invalid range with no endpoint: -"
  | .tooLarge digits =>
    (if isFields then "field number " else "byte/character offset ") ++ Quoting.path digits
      ++ " is too large"
  | .noNumber text =>
    "invalid " ++ (if isFields then "field value " else "byte/character position ")
      ++ Quoting.path text

/-- A range that is being read: its first number and, behind a dash, its second one. -/
structure PlacesReader where
  first : Option Nat := none
  hasDash : Bool := false
  second : Option Nat := none

/-- The range that was read. -/
def PlacesReader.close (r : PlacesReader) : Except PlacesFault Places :=
  if !r.hasDash then
    match r.first with
    | none | some 0 => .error .zero
    | some n => .ok (n, some n)
  else
    match r.first, r.second with
    | none, none => .error .noEndpoint
    | first, none => .ok (first.getD 1, none)
    | first, some last =>
      if last < first.getD 1 then .error .decreasing else .ok (first.getD 1, some last)

/-- Reads ranges; a number that is too large is reported with the digits of all of it. -/
def readPlaces : List Char → PlacesReader → String → Except PlacesFault (List Places)
  | [], r, _ => do return [← r.close]
  | c :: rest, r, digits =>
    if c == ',' || c == ' ' || c == '\t' then do
      let range ← r.close
      return range :: (← readPlaces rest {} "")
    else if c == '-' then
      if r.hasDash then .error .twoDashes
      else if r.first = some 0 then .error .zero
      else readPlaces rest { r with hasDash := true } ""
    else if c.isDigit then
      let digits := digits.push c
      let grown (n : Option Nat) : Nat := n.getD 0 * 10 + (c.toNat - 48)
      let number := grown (if r.hasDash then r.second else r.first)
      if Nat.pow 2 64 - 1 ≤ number then
        .error (.tooLarge (digits ++ String.ofList (rest.takeWhile Char.isDigit)))
      else if r.hasDash then readPlaces rest { r with second := some number } digits
      else readPlaces rest { r with first := some number } digits
    else .error (.noNumber (String.ofList (c :: rest)))

/-- Ranges in order; those that overlap become one. -/
def mergedPlaces : List Places → List Places
  | [] => []
  | range :: rest =>
    match range, mergedPlaces rest with
    | (a, none), _ => [(a, none)]
    | (a, some b), (c, d) :: more =>
      if c ≤ b then (a, d.map (max b)) :: more else (a, some b) :: (c, d) :: more
    | range, [] => [range]

/-- The places from `n` on that are in none of the ranges, which are in order. -/
def otherPlaces : Nat → List Places → List Places
  | n, [] => [(n, none)]
  | n, (a, b) :: rest =>
    let gap : List Places := if n < a then [(n, some (a - 1))] else []
    match b with
    | none => gap
    | some b => gap ++ otherPlaces (max n (b + 1)) rest

/-- The parts of a list at ranges that are in order. -/
def atPlaces {α : Type} (ranges : List Places) (xs : List α) : List (List α) :=
  (ranges.map fun (a, b) => match b with
    | some b => (xs.take b).drop (a - 1)
    | none => xs.drop (a - 1)).filter (!·.isEmpty)

/-- Prints parts of lines. Options without a letter are known by signs that no argument holds. -/
def cut : Tool where
  name := "cut"
  flags := "nszκ"
  valued := "bcdfδ"
  names := [("bytes", 'b'), ("characters", 'c'), ("delimiter", 'd'), ("fields", 'f'),
    ("only-delimited", 's'), ("output-delimiter", 'δ'), ("complement", 'κ'),
    ("zero-terminated", 'z')]
  reads := Tool.readsInput
  run o input s :=
    let misused (text : String) : Printed × Session := Tool.misused "cut" text 1 s
    let lists := o.given.filter fun (c, _) => c == 'b' || c == 'c' || c == 'f'
    let delimiter := ((o.value? 'd').map Raw.bytes).getD [9]
    match lists with
    | [] =>
      if 1 < delimiter.length then misused "the delimiter must be a single character"
      else misused "you must specify a list of bytes, characters, or fields"
    | _ :: _ :: _ => misused "only one list may be specified"
    | [(kind, list)] =>
      let isFields := kind == 'f'
      if 1 < delimiter.length then misused "the delimiter must be a single character"
      else if !isFields && o.has 'd' then
        misused "an input delimiter may be specified only when operating on fields"
      else if !isFields && o.has 's' then
        misused "suppressing non-delimited lines makes sense\n\tonly when operating on fields"
      else
        match readPlaces list.toList {} "" with
        | .error fault => misused (fault.message isFields)
        | .ok ranges =>
          let ranges := mergedPlaces (ranges.mergeSort fun a b => a.1 ≤ b.1)
          let ranges := if o.has 'κ' then otherPlaces 1 ranges else ranges
          let byte (text : String) : Bytes := if text.isEmpty then [0] else Raw.bytes text
          let delimiter := if delimiter.isEmpty then [0] else delimiter
          let last := ending o
          let one (line : Bytes) : Bytes :=
            if isFields then
              let parts := Occurrences.split delimiter line
              if parts.length ≤ 1 then if o.has 's' then [] else line ++ [last]
              else
                let between := ((o.value? 'δ').map byte).getD delimiter
                between.intercalate (atPlaces ranges parts).flatten ++ [last]
            else
              let between := ((o.value? 'δ').map byte).getD []
              between.intercalate (atPlaces ranges line) ++ [last]
          Utility.onContent (Utility.titled "cut")
            (fun b => (Utility.bareLines last b).flatMap one) o.operands input s

/-! ## Lines side by side -/

/-- Texts with separators between them, one after the other and over again. -/
def joinedBy (separators : List Bytes) : Nat → List Bytes → Bytes
  | _, [] => []
  | _, [b] => b
  | n, b :: more =>
    b ++ (separators[n % separators.length]?).getD [] ++ joinedBy separators (n + 1) more

/-- The rows of columns that may be of different lengths. -/
def rowsOf : Nat → List (List Bytes) → List (List Bytes)
  | 0, _ => []
  | n + 1, columns =>
    columns.map (·.headD []) :: rowsOf n (columns.map List.tail)

/-- The separators that a text spells; none if a backslash stands at its end. -/
def separatorsOf : List Char → Option (List Bytes)
  | [] => some []
  | '\\' :: rest =>
    match rest with
    | [] => none
    | c :: rest =>
      let letters : List (Char × Bytes) :=
        [('0', []), ('b', [8]), ('f', [12]), ('n', [10]), ('r', [13]), ('t', [9]), ('v', [11])]
      (separatorsOf rest).map (((letters.lookup c).getD [c.toNat.toUInt8]) :: ·)
  | c :: rest => (separatorsOf rest).map ([c.toNat.toUInt8] :: ·)

/-- Puts lines of several contents side by side. -/
def paste : Tool where
  name := "paste"
  flags := "sz"
  valued := "d"
  names := [("delimiters", 'd'), ("serial", 's'), ("zero-terminated", 'z')]
  reads := Tool.readsInput
  run o input s :=
    let paths := if o.operands.isEmpty then ["-"] else o.operands
    let last := ending o
    let text := (o.value? 'd').getD "\t"
    match separatorsOf text.toList with
    | none =>
      Utility.bad 1 (err ("paste: delimiter list ends with an unescaped backslash: "
        ++ text ++ "\n")) s
    | some separators =>
      if o.has 's' then
        let (_, p, s) := paths.foldl (fun (input, p, s) path =>
          match Utility.contentOf (Utility.titled "paste") input path s with
          | .error fault => (input, p ++ fault, s.finish 1)
          | .ok b =>
            let row := joinedBy separators 0 (Utility.bareLines last b) ++ [last]
            (if path == "-" then [] else input, p ++ [(1, row)], s)) (input, [], s.finish 0)
        (p, s)
      else
        match paths.mapM fun path =>
            Utility.contentOf (Utility.titled "paste") input path s with
        | .error p => Utility.bad 1 p s
        | .ok contents =>
          let columns := contents.map (Utility.bareLines last)
          let dashes := (paths.filter (· == "-")).length
          let taken (column : List Bytes) (turn : Nat) : List Bytes :=
            (((List.range column.length).zip column).filter fun (n, _) =>
              n % dashes = turn).map (·.2)
          let (columns, _) := (paths.zip columns).foldl (fun (done, turn) (path, column) =>
            if path == "-" then (done ++ [taken column turn], turn + 1)
            else (done ++ [column], turn)) (([] : List (List Bytes)), 0)
          let height := (columns.map List.length).foldl max 0
          let rows := rowsOf height columns
          Utility.good [(1, rows.flatMap fun row => joinedBy separators 0 row ++ [last])] s

/-! ## Widths -/

/-- The column behind a byte. -/
def columnAfter (countsBytes : Bool) (column : Nat) (c : UInt8) : Nat :=
  if countsBytes then column + 1
  else if c = 8 then column - 1
  else if c = 13 then 0
  else if c = 9 then column + (8 - column % 8)
  else column + 1

/-- The part of a line up to its last blank, and the rest. -/
def splitAtBlank (line : Bytes) : Option (Bytes × Bytes) :=
  let behind := (line.reverse.takeWhile fun c => c != 32 && c != 9).reverse
  if behind.length = line.length then none
  else some (line.take (line.length - behind.length), behind)

/-- Puts a byte behind the part of a line that is kept for now, which is ended before it if the byte
would stand too far to the right. Also what is ended. -/
def folded (countsBytes atBlanks : Bool) (width : Nat) (line : Bytes) (c : UInt8) :
    Bytes × Bytes :=
  let column := line.foldl (columnAfter countsBytes) 0
  if columnAfter countsBytes column c ≤ width then (line ++ [c], [])
  else
    match if atBlanks then splitAtBlank line else none with
    | some (done, behind) =>
      let column := behind.foldl (columnAfter countsBytes) 0
      if columnAfter countsBytes column c ≤ width || behind.isEmpty then
        (behind ++ [c], done ++ [10])
      else ([c], done ++ [10] ++ behind ++ [10])
    | none => if line.isEmpty then ([c], []) else ([c], line ++ [10])

/-- Breaks lines that are too wide. -/
def foldLines (countsBytes atBlanks : Bool) (width : Nat) (b : Bytes) : Bytes :=
  let (line, done) := b.foldl (fun (line, done) c =>
    if c = 10 then ([], [10] :: line :: done)
    else
      let (line, ended) := folded countsBytes atBlanks width line c
      (line, if ended.isEmpty then done else ended :: done)) (([] : Bytes), ([] : List Bytes))
  (line :: done).reverse.flatten

/-- A number of columns as an option of its own becomes the value of an option. -/
def preparedWidth (letter : String) (args : List String) : List String :=
  args.map fun a => match a.toList with
    | '-' :: c :: cs =>
      if (c :: cs).all fun c => c.isDigit || (letter == "-t" && c == ',') then
        letter ++ String.ofList (c :: cs)
      else a
    | _ => a

/-- Breaks wide lines. -/
def fold : Tool where
  name := "fold"
  flags := "bs"
  valued := "w"
  names := [("bytes", 'b'), ("spaces", 's'), ("width", 'w')]
  prepare := preparedWidth "-w"
  reads := Tool.readsInput
  run o input s :=
    let text := (o.value? 'w').getD "80"
    match text.toNat? with
    | none =>
      Utility.bad 1 (err ("fold: invalid number of columns: " ++ Quoting.path text ++ "\n")) s
    | some 0 =>
      Utility.bad 1 (err ("fold: invalid number of columns: " ++ Quoting.path text
        ++ ": Numerical result out of range\n")) s
    | some width =>
      Utility.onContent (Utility.titled "fold") (foldLines (o.has 'b') (o.has 's') width)
        o.operands input s

/-- Where tabs lead to: a list of columns, or all columns at a distance. -/
inductive Tabs
  | every (n : Nat)
  /-- Columns in order; behind the last one, those at a distance from it, if there is one. -/
  | columns (ns : List Nat) (distance : Option Nat)

/-- The column that a tab leads to; none if there is no further one. -/
def Tabs.next? : Tabs → Nat → Option Nat
  | .every n, column => some (column + (n - column % n))
  | .columns ns distance, column =>
    match ns.find? (column < ·), distance with
    | some n, _ => some n
    | none, some n =>
      let start := ns.getLast?.getD 0
      some (column + (n - (column - start) % n))
    | none, none => none

/-- The list of columns that a text gives, or what is wrong with it. -/
def Tabs.read (text : String) : Except String Tabs := do
  let parts := (text.splitToList fun c => c == ',' || c == ' ').filter (!·.isEmpty)
  let number (part : String) : Except String Nat :=
    match part.toList.find? (!·.isDigit), part.toNat? with
    | some _, _ =>
      .error ("tab size contains invalid character(s): "
        ++ Quoting.path (String.ofList (part.toList.dropWhile Char.isDigit)))
    | none, some n => .ok n
    | none, none => .error ("tab size contains invalid character(s): " ++ Quoting.path part)
  match parts.getLast?.map String.toList with
  | none => return .every 8
  | some ('/' :: n) | some ('+' :: n) => do
    let n ← number (String.ofList n)
    let ns ← parts.dropLast.mapM number
    return if ns.isEmpty then .every n else .columns ns (some n)
  | some _ => do
    let ns ← parts.mapM number
    if ns.contains 0 then throw "tab size cannot be 0"
    else if (ns.zip ns.tail).any fun (a, b) => b ≤ a then throw "tab sizes must be ascending"
    else match ns with
      | [n] => return .every n
      | ns => return .columns ns none

/-- Replaces the tabs of a line by blanks; only those in front if that is asked for. -/
def expanded (tabs : Tabs) (onlyFirst : Bool) (line : Bytes) : Bytes :=
  let (done, _, _) := line.foldl (fun (done, column, isOn) c =>
    if isOn && c = 9 then
      let next := (tabs.next? column).getD (column + 1)
      (List.replicate (next - column) 32 ++ done, next, isOn)
    else if c = 8 then (c :: done, column - 1, isOn && !onlyFirst)
    else (c :: done, column + 1, isOn && (!onlyFirst || c = 32 || c = 9)))
    (([] : Bytes), 0, true)
  done.reverse

/-- A line whose blanks are being replaced by tabs. -/
structure Tabbing where
  /-- What is done, backwards. -/
  done : Bytes := []
  column : Nat := 0
  /-- Blanks are still replaced. -/
  isOn : Bool := true
  /-- Blanks that may become a tab. -/
  pending : Bytes := []
  /-- One of the pending blanks stands right in front of a tab stop. -/
  isAtStop : Bool := false
  wasBlank : Bool := true

/-- What stands for pending blanks. -/
def Tabbing.flush (t : Tabbing) : Tabbing :=
  let pending := if t.isAtStop && 1 < t.pending.length then 9 :: t.pending.drop 1 else t.pending
  if t.pending.isEmpty then t
  else { t with done := pending.reverse ++ t.done, pending := [], isAtStop := false }

/-- Takes a byte of a line. -/
def Tabbing.take (tabs : Tabbing → Option Nat) (all : Bool) (t : Tabbing) (c : UInt8) : Tabbing :=
  let put (t : Tabbing) : Tabbing := { t with done := c :: t.done }
  if !t.isOn then put t
  else if c = 32 || c = 9 then
    match tabs t with
    | none =>
      let t := t.flush
      put { t with isOn := false, wasBlank := true }
    | some next =>
      let tabbed (column : Nat) : Tabbing :=
        -- a blank right in front of the last tab stop becomes a tab, other blanks are left out
        let kept : Bytes := if t.isAtStop then [9] else []
        { t with
          done := 9 :: (kept ++ t.done), column, pending := [], isAtStop := false
          wasBlank := true }
      if c = 9 then tabbed next
      else if t.wasBlank && t.column + 1 = next then tabbed next
      else
        { t with
          column := t.column + 1, isAtStop := t.isAtStop || t.column + 1 = next
          pending := t.pending ++ [c], wasBlank := true }
  else
    let t := t.flush
    put { t with
      column := if c = 8 then t.column - 1 else t.column + 1, wasBlank := false, isOn := all }

/-- Replaces blanks of a line by tabs; only those in front unless all are asked for. -/
def tabbed (tabs : Tabs) (all : Bool) (line : Bytes) : Bytes :=
  (line.foldl (Tabbing.take (fun t => tabs.next? t.column) all) {}).flush.done.reverse

/-- Replaces tabs by blanks, or blanks by tabs. -/
def tabTool (name flags : String) (names : List (String × Char))
    (change : Settings → Tabs → Bytes → Bytes) : Tool where
  name := name
  flags := flags
  valued := "t"
  names := ("tabs", 't') :: names
  prepare := preparedWidth "-t"
  reads := Tool.readsInput
  run o input s :=
    match Tabs.read (",".intercalate (o.values 't')) with
    | .error text => Utility.bad 1 (err (name ++ ": " ++ text ++ "\n")) s
    | .ok tabs =>
      Utility.onContent (Utility.titled name) (fun b =>
        (Utility.lines b).flatMap fun line =>
          let bare := Utility.bareLine line
          change o tabs bare ++ line.drop bare.length) o.operands input s

/-- Replaces tabs by blanks. -/
def expand : Tool :=
  tabTool "expand" "i" [("initial", 'i')] fun o tabs => expanded tabs (o.has 'i')

/-- Replaces blanks by tabs. -/
def unexpand : Tool :=
  tabTool "unexpand" "af" [("all", 'a'), ("first-only", 'f')] fun o tabs =>
    tabbed tabs ((o.has 'a' || o.has 't') && !o.has 'f')

/-- The programs on parts of lines. -/
def columnTools : List Tool := [cut, paste, fold, expand, unexpand]

end Columns

end Scaffold.Script

import Scaffold.Script.Awk
import Scaffold.Script.Occurrence
import Scaffold.Script.Programs
import Scaffold.Script.Variables
import Scaffold.Script.Searching
import Scaffold.Script.Streams

/-!
# Run — scripts in a session

A script prints and changes its session. A number bounds how long it runs; a script that would go
on for ever ends there.
-/

set_option autoImplicit false

namespace Scaffold.Script

mutual

/-- Expands a piece of a word. -/
def expandPiece : Nat → Piece → Session → List Segment × Printed × Session
  | 0, _, s => ([], [], s)
  | fuel + 1, piece, s =>
    let one (text : String) (quoted : Bool) : List Segment := [⟨text, quoted, !quoted, false⟩]
    match piece with
    | .text text quoted => ([⟨text, quoted, false, false⟩], [], s)
    | .wrong text =>
      let (p, s) := if s.isBash then breaksOff ("$\x7b" ++ text ++ "\x7d: bad substitution") 1 s
        else breaksOff "Bad substitution" 2 s
      ([], p, s)
    | .parameter p change quoted =>
      if isExtended p change && !s.isBash then
        let (p, s) := breaksOff "Bad substitution" 2 s
        ([], p, s)
      else
        let isIndirect := p.isIndirect
        let (p, a, s) := expandPlace fuel p s
        let v := valueOf s p.1 p.2
        let (lost, s) : Printed × Session :=
          if isIndirect && p.1.name.isEmpty then
            breaksOff (p.1.place.getD "" ++ ": invalid indirect expansion") 1 s
          else ([], s)
        let a := a ++ lost
        let isList := p.1.name == "@" || p.1.name == "*" || p.2 == "@" || p.2 == "*"
        match change with
        | .absent mark empty text =>
          let absent := v.isAbsent empty
          if mark == '+' then
            if absent then (one "" quoted, a, s)
            else
              let (segments, b, s) := expandText fuel quoted text s
              (segments, a ++ b, s)
          else if !absent then (segmentsOf s quoted v, a, s)
          else if mark == '=' then
            let (segments, b, s) := expandText fuel quoted text s
            let text := String.join (segments.map Segment.text)
            let (c, s) := put "" s p.1.name text
            (one text quoted, a ++ b ++ c, s)
          else if mark == '?' then
            let (segments, b, s) := expandText fuel quoted text s
            let said := String.join (segments.map Segment.text)
            let said := if !text.isEmpty then said
              else if !empty then "parameter not set"
              else if s.isBash then "parameter null or not set"
              else "parameter not set or null"
            let (c, s) := breaksOff (p.1.name ++ ": " ++ said) (if s.isBash then 127 else 2) s
            ([], a ++ b ++ c, s)
          else
            let (segments, b, s) := expandText fuel quoted text s
            (segments, a ++ b, s)
        | change =>
          if s.needsValues && !isList && v.isAbsent false then
            let (b, s) := breaksOffAt p.1.name s
            ([], a ++ b, s)
          else
            let (v, b, s) := changed fuel p.1 change v s
            (segmentsOf s quoted v, a ++ b, s)
    | .size p quoted =>
      if p.place.isSome && !s.isBash then
        let (p, s) := breaksOff "Bad substitution" 2 s
        ([], p, s)
      else
        let (p, a, s) := expandPlace fuel p s
        let v := valueOf s p.1 p.2
        let n := match v with
          | .several texts _ => texts.length
          | v => (v.text " ").length
        if s.needsValues && v.isAbsent false then
          let (b, s) := breaksOffAt p.1.name s
          ([], a ++ b, s)
        else (one (toString n) quoted, a, s)
    | .places name quoted =>
      if !s.isBash then
        let (p, s) := breaksOff "Bad substitution" 2 s
        ([], p, s)
      else
        let places := ((s.row? name).getD {}).cells.map Prod.fst
        (segmentsOf s quoted (.several places false), [], s)
    | .names start isOne quoted =>
      if !s.isBash then
        let (p, s) := breaksOff "Bad substitution" 2 s
        ([], p, s)
      else
        let names := (s.values.map Prod.fst ++ s.rows.map Prod.fst).filter (start.isPrefixOf ·)
        (segmentsOf s quoted (.several (names.mergeSort fun a b => a ≤ b) isOne), [], s)
    | .calculation text quoted =>
      let w := wordOf s.isBash (if s.isBash then .quotedBraces else .lines) text
      let (segments, p, s) := expandPieces fuel w s
      let text := String.join (segments.map Segment.text)
      let (n, q, s) := reckoned "" text s
      (one (toString n) quoted, p ++ q, s)
    | .output script quoted =>
      match read s.isBash script with
      | .error fault =>
        let s := if s.isBash then { s.finish 1 with substituted := some 1 }
          else { s with ended := true, status := 2 }
        ([], err (fault.message s.isBash (titleOf s "command substitution") script s.inside), s)
      | .ok c =>
        let (p, inner) := runApart fuel false c { s with
          stopsOnError := s.stopsOnError && !s.isBash
          nesting := s.nesting + 1 }
        let b := p.on 1
        let text := Raw.text ((b.reverse.dropWhile (· == 10)).reverse.filter (· != 0))
        let after := s.after inner
        (one text quoted, p.filter (·.1 != 1), { after with
          substituted := some after.status
          status := if s.isBash then after.status else s.status })
    | .outputFile script =>
      let (commands, fault) := readScript s.isBash script
      match fault with
      | some fault =>
        ([], err (fault.message s.isBash (titleOf s "process substitution") script), s.finish 1)
      | none =>
        let (p, inner) := runApart fuel false (.sequence commands) s
        let path := "/dev/fd/" ++ toString (63 - s.devices.length)
        let s := { s.after inner with status := s.status }
        ([⟨path, true, false, false⟩], p.filter (·.1 != 1),
          { s with devices := (path, p.on 1) :: s.devices })

/-- The parameter that is meant, and what its place expands to. Where a variable should name it but
does not, it has no name, and its place is the name of that variable. -/
def expandPlace : Nat → Parameter → Session → (Parameter × String) × Printed × Session
  | 0, p, s => ((p, ""), [], s)
  | fuel + 1, p, s =>
    let named := if p.isIndirect then (valueOf s { p with place := none } "").text " " else p.name
    match named.isEmpty, p.place with
    | true, _ => (({ p with name := "", place := some p.name }, ""), [], s)
    | false, none => (({ p with name := named }, ""), [], s)
    | false, some text =>
      let (segments, a, s) := expandText fuel true text s
      let place := String.join (segments.map Segment.text)
      let row := (s.row? named).getD {}
      let (place, b, s) := if place == "@" || place == "*" || !s.isBash then (place, [], s)
        else placeIn row place s
      let isBefore := place.startsWith "-" && row.isNumbered && !s.ended
      let c := if isBefore then err (s.report (named ++ ": bad array subscript")) else []
      (({ p with name := named }, place), a ++ b ++ c, s)

/-- A value with a change. -/
def changed : Nat → Parameter → Change → Value → Session → Value × Printed × Session
  | 0, _, _, v, s => (v, [], s)
  | fuel + 1, parameter, change, v, s =>
    match change with
    | .keep | .absent .. => (v, [], s)
    | .trim atEnd longest pattern =>
      let (marked, p, s) := expandPattern fuel (wordOf s.isBash .braces pattern) s
      (v.map fun t => String.ofList (Pattern.trim atEnd longest marked t.toList), p, s)
    | .replace extent pattern text =>
      let (marked, p, s) := expandPattern fuel (wordOf s.isBash .braces pattern) s
      let (segments, q, s) := expandText fuel false text s
      let text := String.join (segments.map Segment.text)
      (v.map (replaced extent marked text), p ++ q, s)
    | .recase kind everywhere pattern =>
      let (marked, p, s) := expandPattern fuel (wordOf s.isBash .braces pattern) s
      (v.map (recased kind everywhere marked), p, s)
    | .shown letter => (v.map (shownText s parameter.name letter), [], s)
    | .slice start length =>
      let (segments, p, s) := expandText fuel true start s
      let title := parameter.name
        ++ parameter.place.elim ": " fun place => "[" ++ place ++ "]: "
      let (start, a, s) := reckoned title (String.join (segments.map Segment.text)) s
      let isThere := match v with
        | .nothing => false
        | .one text => decide (start.natAbs ≤ text.length)
        | .several .. => true
      match s.ended, length with
      | true, _ => (v, p ++ a, s)
      | false, none => (sliced start none v, p ++ a, s)
      | false, some length =>
        let (segments, q, s) := expandText fuel true length s
        let length := String.join (segments.map Segment.text)
        let (n, b, s) := if isThere then reckoned title length s else (0, [], s)
        let size : Int := match v with
          | .one text => text.length
          | _ => 0
        let first := if start < 0 then size + start else start
        let (c, s) := if n < 0 && isThere && size + n < first then
            breaksOff (length ++ ": substring expression < 0") 1 s
          else ([], s)
        (sliced start (some n) v, p ++ a ++ q ++ b ++ c, s)

/-- Expands the pieces of a word. -/
def expandPieces : Nat → Word → Session → List Segment × Printed × Session
  | 0, _, s | _, [], s => ([], [], s)
  | fuel + 1, piece :: pieces, s =>
    if s.ended then ([], [], s)
    else
      let (a, p, s) := expandPiece fuel piece s
      let (b, q, s) := expandPieces fuel pieces s
      (a ++ b, p ++ q, s)

/-- Expands a text between braces, perhaps between double quotes as well; it is cut where it is not
quoted. -/
def expandText : Nat → Bool → String → Session → List Segment × Printed × Session
  | 0, _, _, s => ([], [], s)
  | fuel + 1, quoted, text, s =>
    let w := wordOf s.isBash (if quoted then .quotedBraces else .braces) text
    let (segments, p, s) := expandPieces fuel (if quoted then w else untilded s w) s
    let isCut (seg : Segment) : Segment := { seg with isCut := seg.isCut || !seg.quoted }
    (segments.map isCut, p, s)

/-- Expands a word to a single text. -/
def expandWhole : Nat → Word → Session → String × Printed × Session
  | 0, _, s => ("", [], s)
  | fuel + 1, w, s =>
    let (segments, p, s) := expandPieces fuel (untilded s w) s
    let text := String.join (segments.map fun seg => if seg.ends then seg.text ++ " " else seg.text)
    (text, p, s)

/-- Expands a word to a pattern. -/
def expandPattern : Nat → Word → Session → List Marked × Printed × Session
  | 0, _, s => ([], [], s)
  | fuel + 1, w, s =>
    let (segments, p, s) := expandPieces fuel w s
    (segments.flatMap Segment.marked, p, s)

/-- Expands words to fields. -/
def expandWords : Nat → List Word → Session → List String × Printed × Session
  | 0, _, s | _, [], s => ([], [], s)
  | fuel + 1, w :: ws, s =>
    if s.ended then ([], [], s)
    else
      let (fields, p, s) := expandEach fuel (if s.isBash then Braces.expand w else [w]) s
      let (more, q, s) := expandWords fuel ws s
      (fields ++ more, p ++ q, s)

/-- Expands words without braces to fields. -/
def expandEach : Nat → List Word → Session → List String × Printed × Session
  | 0, _, s | _, [], s => ([], [], s)
  | fuel + 1, w :: ws, s =>
    let (segments, p, s) := expandPieces fuel (untilded s w) s
    let fields := (Expansion.cut s.separators segments).flatMap (Expansion.fieldTexts s)
    let (more, q, s) := expandEach fuel ws s
    (fields ++ more, p ++ q, s)

/-- Makes an assignment; tells what it looks like. -/
def assign : Nat → Assignment → Session → String × Printed × Session
  | 0, _, s => ("", [], s)
  | fuel + 1, a, s =>
    if s.fixed.contains a.name then
      let (p, s) := if s.isBash then breaksOff (a.name ++ ": readonly variable") 1 s
        else breaksOff (a.name ++ ": is read only") 2 s
      ("", p, s)
    else
      match a.value, a.place with
      | .several words, _ =>
        let (texts, p, s) := expandWords fuel words s
        let row := (s.row? a.name).getD {}
        let row := if a.isAppended then row else { isNumbered := row.isNumbered }
        let placed (before : Row × Printed × Session) (text : String) : Row × Printed × Session :=
          let (row, p, s) := before
          let next (text : String) : Row × Printed × Session :=
            let (text, q, s) := kept "" s a.name text
            (row.set (toString row.next) text, p ++ q, s)
          if s.ended then before
          else
            match text.toList with
            | '[' :: rest =>
              match cutAt ']' rest with
              | some (place, '=' :: value) =>
                let (place, q, s) := placeIn row (String.ofList place) s
                let (text, r, s) := kept "" s a.name (String.ofList value)
                (row.set place text, p ++ q ++ r, s)
              | _ => next text
            | _ => next text
        let (row, q, s) := texts.foldl placed (row, [], s)
        (a.name ++ "=(" ++ " ".intercalate (texts.map (shownWord s.isBash)) ++ ")", p ++ q,
          if s.ended then s else s.setRow a.name row)
      | .one w, some place =>
        let (text, p, s) := expandWhole fuel w s
        let (place, q, s) := expandWhole fuel place s
        let row := (s.row? a.name).getD {}
        let given := place
        let (place, r, s) := placeIn row place s
        if row.isNumbered && place.startsWith "-" && !s.ended then
          let (e, s) := breaksOff (a.name ++ "[" ++ given ++ "]: bad array subscript") 1 s
          ("", p ++ q ++ r ++ e, s)
        else
        let text := if a.isAppended then (row.cells.lookup place).getD "" ++ text else text
        let (text, t, s) := if s.ended then (text, [], s) else kept "" s a.name text
        (a.name ++ "[" ++ place ++ "]=" ++ shownWord s.isBash text, p ++ q ++ r ++ t,
          if s.ended then s else s.setRow a.name (row.set place text))
      | .one w, none =>
        let (text, p, s) := expandWhole fuel w s
        let before := (s.value? a.name).getD ""
        let shown (text : String) : String :=
          a.name ++ "=" ++ if s.isBash && text.isEmpty then "" else shownWord s.isBash text
        if a.isAppended && s.integers.contains a.name then
          let (m, q, s) := reckoned "" before s
          let (n, r, s) := reckoned "" text s
          let text := toString (Numeral.wrapped (m + n))
          (shown text, p ++ q ++ r, if s.ended then s else s.setVariable a.name text)
        else
          let text := if a.isAppended then before ++ text else text
          let (q, s) := put "" s a.name text
          (shown text, p ++ q, s)

/-- Makes assignments in order; tells what they look like. -/
def assignAll : Nat → List Assignment → Session → List String × Printed × Session
  | 0, _, s | _, [], s => ([], [], s)
  | fuel + 1, a :: more, s =>
    if s.ended then ([], [], s)
    else
      let (text, p, s) := assign fuel a s
      let (texts, q, s) := assignAll fuel more s
      (text :: texts, p ++ q, s)

/-- Shows a command before it is run. The mark in front of it is repeated where the script is part
of others. -/
def traced : Nat → String → Session → Printed
  | 0, _, _ => []
  | fuel + 1, text, s =>
    if !s.traces then []
    else
      let mark := (s.value? "PS4").getD "+ "
      let (segments, _, _) := expandText fuel true mark { s with traces := false }
      let lead := String.join (segments.map Segment.text)
      let again := if s.isBash then List.replicate s.nesting (lead.toList.take 1) else []
      err (String.ofList again.flatten ++ lead ++ text ++ "\n")

/-- Opens redirections in order. -/
def openAll : Nat → List Redirect → Streams → Session → Except Printed Streams × Printed × Session
  | 0, _, f, s | _, [], f, s => (.ok f, [], s)
  | fuel + 1, r :: more, f, s =>
    let (target, p, s) := expandWhole fuel r.target s
    match applyRedirect r target f s with
    | .error q =>
      let isNumber := target.toNat?.isSome || target == "-"
      let breaks := !s.isBash && r.kind = .duplicate && !isNumber
      (.error q, p, if breaks then { s with ended := true, status := 2 } else s)
    | .ok (f, s) =>
      let (result, q, s) := openAll fuel more f s
      (result, p ++ q, s)

/-- The condition holds; none if it cannot be told. -/
def holds : Nat → Condition → Session → Option Bool × Printed × Session
  | 0, _, s => (none, [], s)
  | fuel + 1, c, s =>
    match c with
    | .word w =>
      let (text, p, s) := expandWhole fuel w s
      (some (!text.isEmpty), p ++ traced fuel ("[[ -n " ++ shownWord true text ++ " ]]") s, s)
    | .unary op w =>
      let (text, p, s) := expandWhole fuel w s
      let t := traced fuel ("[[ " ++ op ++ " " ++ shownWord true text ++ " ]]") s
      (some (Conditions.unary s op text), p ++ t, s)
    | .not c =>
      let (b, p, s) := holds fuel c s
      (b.map (!·), p, s)
    | .both a b =>
      let (x, p, s) := holds fuel a s
      if x = some true then
        let (y, q, s) := holds fuel b s
        (y, p ++ q, s)
      else (x, p, s)
    | .either a b =>
      let (x, p, s) := holds fuel a s
      if x = some false then
        let (y, q, s) := holds fuel b s
        (y, p ++ q, s)
      else (x, p, s)
    | .binary op a b =>
      let (text, p, s) := expandWhole fuel a s
      if op == "=" || op == "==" || op == "!=" then
        let (pattern, q, s) := expandPattern fuel (untilded s b) s
        let other := Pattern.plain pattern
        let t := traced fuel ("[[ " ++ shownWord true text ++ " " ++ op ++ " " ++
          (if other.isEmpty then "''" else other) ++ " ]]") s
        (some (Pattern.fits pattern text.toList == (op != "!=")), p ++ q ++ t, s)
      else if op == "=~" then
        let (marked, q, s) := expandPattern fuel b s
        match Expression.ofText Conditions.patternStyle (Pattern.expression marked) with
        | .error _ => (none, p ++ q, s)
        | .ok pattern =>
          let cs := text.toList.toArray
          match pattern.find? cs 0 with
          | none => (some false, p ++ q, s.setRow "BASH_REMATCH" {})
          | some m =>
            let part (index : Nat) : String :=
              ((m.group? index).map fun (b, e) => String.ofList (cs.extract b e).toList).getD ""
            let parts := (List.range (pattern.groups + 1)).map part
            (some true, p ++ q, s.setRow "BASH_REMATCH" (.ofList parts))
      else
        let (other, q, s) := expandWhole fuel b s
        let q := q ++ traced fuel
          ("[[ " ++ shownWord true text ++ " " ++ op ++ " " ++ shownWord true other ++ " ]]") s
        match op with
        | "<" => (some (decide (text < other)), p ++ q, s)
        | ">" => (some (decide (other < text)), p ++ q, s)
        | op =>
          if Conditions.fileNames.contains op then
            ((Conditions.binary s op text other).toOption, p ++ q, s)
          else if Conditions.numberNames.contains op then
            let said (text : String) (fault : Calculation.Fault) : Printed :=
              err (s.report ("[[: " ++ fault.message true text))
            match calculated s text with
            | (.error fault, s) => (some false, p ++ q ++ said text fault, s)
            | (.ok m, s) =>
              match calculated s other with
              | (.error fault, s) => (some false, p ++ q ++ said other fault, s)
              | (.ok n, s) => (some (Conditions.compare op m n), p ++ q, s)
          else (none, p ++ q, s)

/-- Runs a script that is given as a text in the shell itself. -/
def evaluate : Nat → Bool → String → Session → Printed × Session
  | 0, _, _, s => ([], s)
  | fuel + 1, guarded, script, s =>
    let (commands, fault) := readScript s.isBash script
    let inside := if s.inside.isEmpty then "eval: " else s.inside
    let (p, inner) := runAll fuel guarded commands { s with inside, nesting := s.nesting + 1 }
    let s := { inner with inside := s.inside, nesting := s.nesting }
    match if s.isDone then none else fault with
    | none => (p, s)
    | some fault =>
      let isFile := s.isBash && !s.inside.isEmpty
      let title := if isFile then s.title else titleOf s "eval"
      (p ++ err (fault.message s.isBash title script inside),
        if s.isBash then s.finish 2 else { s with ended := true, status := 2 })

/-- Runs the script of a file in the shell itself. -/
def source : Nat → String → List String → Session → Printed × Session
  | 0, _, _, s => ([], s)
  | fuel + 1, path, args, s =>
    let isFound := s.isBash || Occurrences.occurs ['/'] path.toList
    match if isFound then s.content s.input path else .error .missing with
    | .error fault =>
      if s.isBash then (err (s.report (path ++ ": " ++ plainFault fault)), s.finish 1)
      else if isFound then
        Builtin.breaks (".: cannot open " ++ path ++ ": No such file") s
      else Builtin.breaks (".: " ++ path ++ ": not found") s
    | .ok b =>
      let arguments := if args.isEmpty then s.arguments else args
      let (p, inner) := evaluate fuel s.isGuarded (Raw.text b)
        { s.enterFrame with
          arguments
          status := 0
          inside := path ++ ": "
          title := if s.isBash then path else s.title
          source := path }
      let inner := { inner with
        frames := s.frames
        arguments := if args.isEmpty then inner.arguments else s.arguments
        inside := s.inside
        title := s.title
        source := s.source }
      (p, if inner.leaving = some .returns then { inner with leaving := none } else inner)

/-- Calls a program for the arguments that its input gives. -/
def callEach : Nat → List (List String) → Session → Printed × Session
  | 0, _, s | _, [], s => ([], s.finish 0)
  | fuel + 1, args :: more, s =>
    let (p, inner) := call fuel args { s with input := [] }
    let (q, s) := callEach fuel more (s.after inner)
    (p ++ q, if inner.status = 0 then s
      else s.finish (if inner.status = 127 then 127 else 123))

/-- Calls a command by name. -/
def call : Nat → List String → Session → Printed × Session
  | 0, _, s | _, [], s => ([], s)
  | fuel + 1, name :: args, s =>
    match s.commands.lookup name with
    | some named =>
      let (p, inner) := run fuel s.isGuarded named.body
        { s.enterFrame with
          arguments := args
          loops := 0
          called := name :: s.called
          title := if s.isBash then named.source else s.title }
      let inner := if inner.leaving = some .returns then { inner with leaving := none } else inner
      (p, { inner.leaveFrame with
        arguments := s.arguments
        loops := s.loops
        called := s.called
        title := s.title })
    | none => if s.isShell then callShipped fuel name args s else callProgram fuel name args s

/-- Calls a command that the shell or the system has. -/
def callShipped : Nat → String → List String → Session → Printed × Session
  | 0, _, _, s => ([], s)
  | fuel + 1, name, args, s =>
    match name, s.isBash with
    | "eval", _ => evaluate fuel s.isGuarded (" ".intercalate args) (s.finish 0)
    | ".", _ | "source", true =>
      match args with
      | path :: args => source fuel path args s
      | [] =>
        if s.isBash then
          (err (s.complaint (name ++ ": filename argument required")
            ++ name ++ ": usage: " ++ name ++ " filename [arguments]\n"), s.finish 2)
        else ([], s.finish 0)
    | "exec", _ =>
      match args with
      | [] => ([], s.finish 0)
      | program :: args =>
        let isPath := Occurrences.occurs ['/'] program.toList
        let (p, inner) := if isPath || (s.findsPrograms && isProgram program) then
            callProgram fuel program args { s with inside := "exec: " }
          else (err (s.complaint ("exec: " ++ program ++ ": not found")), s.finish 127)
        (p, { inner with ended := true, traps := [], inside := s.inside })
    | "command", _ | "builtin", true =>
      match args with
      | "-v" :: names => locate names s
      | "-V" :: names => describe "command" names s
      | "-p" :: name :: args | name :: args => callShipped fuel name args s
      | [] => ([], s.finish 0)
    | "type", isBash =>
      match args, isBash with
      | "-t" :: names, true => describeBy 't' names s
      | "-p" :: names, true | "-P" :: names, true => describeBy 'p' names s
      | "-a" :: names, true | names, _ => describe "type" names s
    | "hash", _ => hash args s
    | "kill", _ =>
      let (p, after) := Builtin.kill args s
      let name := (after.signal.bind Builtin.signalName?).getD ""
      match s.traps.lookup name with
      | some action =>
        let (q, s) := evaluate fuel false action s
        (p ++ q, s.finish 0)
      | none => (p, after)
    | name, _ =>
      match Builtin.run? name args s with
      | some r => r
      | none => callProgram fuel name args s

/-- Calls a program. -/
def callProgram : Nat → String → List String → Session → Printed × Session
  | 0, _, _, s => ([], s)
  | fuel + 1, path, args, s =>
    let name := programName path
    let isPath := Occurrences.occurs ['/'] path.toList
    let input := s.input
    let s := if s.isShell && s.isBash then
        { s with program := if isPath then path else pathOfProgram name }
      else s
    if !isPath && !s.findsPrograms then notFound path s
    else if isPath && name == path then
      match s.tree.place path with
      | .error _ => notFound path s
      | .ok p =>
        if s.tree.entry? p = some .directory then
          (err (s.report (path ++ if s.isBash then ": Is a directory" else ": Permission denied")),
            s.finish 126)
        else if !s.runnable.contains p then
          (err (s.report (path ++ ": Permission denied")), s.finish 126)
        else
          match s.tree.read path with
          | .ok content =>
            shell fuel (shellOf (if s.isBash then "bash" else "sh") content) (path :: args) s
          | .error _ => notFound path s
    else if shells.contains name then shell fuel path args s
    else
      match name with
      | "env" =>
        let (given, args) := environmentOf args s.environment
        let inner := s.handed "env" given
        if args.isEmpty then
          let (p, after) := Programs.printenv [] input inner
          (p, s.finish after.status)
        else
          let (p, after) := call fuel args { inner with input }
          (p, s.after after)
      | "kill" => Builtin.kill args s
      | "which" => which args s
      | "xargs" =>
        let (size, mark, zero, args) := callOptions args
        let args := if args.isEmpty then ["echo"] else args
        let given := inputArguments zero input
        let calls := match mark with
          | some mark =>
            (((Utility.lines input).map fun l => Raw.text (Utility.bareLine l)).filter
              (!·.isEmpty)).map fun line => args.map (insteadOf mark line)
          | none =>
            match size with
            | some n => (inGroups (max n 1) (given.length + 1) given).map (args ++ ·)
            | none => [args ++ given]
        let (p, after) := callEach fuel calls { s.handed "xargs" s.environment with input := [] }
        (p, s.after after)
      | "awk" | "mawk" =>
        let perform : Awk.Shell := fun text input s =>
          let (p, after) := call fuel ["sh", "-c", text] { s with input }
          (p, s.after after)
        let (p, after) := Awk.awk perform args input (s.handed "awk" s.environment)
        (p, s.after after)
      | "find" =>
        match Searching.search args s with
        | .error fault => (err ("find: " ++ fault.message ++ "\n"), s.finish 1)
        | .ok (actions, faults) =>
          let (p, inner) := act fuel actions (s.handed "find" s.environment)
          let status := inner.status
          let (q, inner) := callEach fuel (Searching.collected actions) inner
          let after := s.after inner
          (faults ++ p ++ q, after.finish
            (if !faults.isEmpty then 1 else if after.status = 0 then status else after.status))
      | name =>
        match Programs.named? name with
        | some program => program args input s
        | none => notFound path s

/-- Does what a search asks for. -/
def act : Nat → List Searching.Action → Session → Printed × Session
  | 0, _, s | _, [], s => ([], s.finish 0)
  | fuel + 1, action :: more, s =>
    let (p, s) : Printed × Session := match action with
      | .say text => (out text, s)
      | .collect .. => ([], s)
      | .remove place path =>
        if s.tree.entry? place = some .directory && !(s.tree.names place).isEmpty then
          (err ("find: cannot delete '" ++ path ++ "': Directory not empty\n"), s)
        else ([], { s with tree := s.tree.remove place })
      | .call args =>
        let (p, inner) := call fuel args s
        (p, (s.after inner).finish s.status)
    let (q, s) := act fuel more s
    (p ++ q, s)

/-- Runs a script in a shell of its own. -/
def runApart : Nat → Bool → Command → Session → Printed × Session
  | 0, _, _, s => ([], { s with ended := true })
  | fuel + 1, guarded, c, s =>
    let (p, s) := run fuel guarded c s.apart
    let (q, s) := runExit fuel s
    (p ++ q ++ s.pending, { s with pending := [] })

/-- Runs what is to be run at the end of a shell. -/
def runExit : Nat → Session → Printed × Session
  | 0, s => ([], s)
  | fuel + 1, s =>
    match s.signal, s.traps.lookup "EXIT" with
    | none, some action =>
      let (p, inner) := evaluate fuel false action
        { s with
          ended := false
          leaving := none
          traps := []
          stopsOnError := false
          standing := [] }
      let (p, inner) := route { sinks := s.standing } p inner
      (p, if inner.ended then inner else { inner with ended := s.ended, status := s.status })
    | _, _ => ([], s)

/-- Starts a shell with arguments: options, then a script or the path of one. -/
def shell : Nat → String → List String → Session → Printed × Session
  | 0, _, _, s => ([], s)
  | fuel + 1, path, args, s =>
    let isOption (a : String) : Bool :=
      match a.toList with
      | c :: _ :: _ => c == '-' || c == '+'
      | _ => false
    let options := args.takeWhile isOption
    let letters := options.flatMap fun a => a.toList.drop 1
    let rest := args.drop options.length
    let named := if letters.contains 'o' then rest.head? else none
    let rest := if letters.contains 'o' then rest.drop 1 else rest
    let options := rest.takeWhile isOption
    let letters := letters ++ options.flatMap fun a => a.toList.drop 1
    let rest := rest.drop options.length
    let isBash := programName path == "bash"
    let isCommand := letters.contains 'c'
    let isInput := letters.contains 's' || rest.isEmpty
    let name := if isCommand then (rest[1]?).getD path
      else if isInput then path else rest.headD path
    let given := s.environment.filter fun (n, _) => n != "PWD" && !(isBash && n == "_")
    let level := ((s.environment.lookup "SHLVL").bind String.toNat?).getD 0 + 1
    let given := if isBash then given.filter (·.1 != "SHLVL") ++ [("SHLVL", toString level)]
      else given
    let reached := (s.environment.lookup "PWD").bind fun path =>
      match Path.isAbsolute path, s.tree.place path with
      | true, .ok p => if p == s.tree.current then some (Builtin.stepsFrom [] path) else none
      | _, _ => none
    let inner : Session :=
      { tree := s.tree
        values := given.reverse
        exported := given.map Prod.fst
        arguments := if isCommand then rest.drop 2 else if isInput then rest else rest.drop 1
        input := if isCommand || !isInput then s.input else []
        sources := s.sources
        isBash
        name
        title := if isCommand || !isInput then name else path
        source := if isCommand then "environment" else if isInput then "main" else name
        isArgument := isCommand
        stopsOnError := letters.contains 'e'
        needsValues := letters.contains 'u'
        traces := letters.contains 'x'
        keepsPatterns := letters.contains 'f'
        failsAnywhere := named = some "pipefail"
        opened := s.opened
        mask := s.mask
        devices := s.devices
        reached := reached.filter (· != s.tree.current)
        runnable := s.runnable }
    let inner := (inner.setVariable "PWD" inner.directory).exportVariable "PWD"
    let script : Except Printed String := match isCommand, rest with
      | true, script :: _ => .ok script
      | true, [] =>
        .error (err (path ++ if isBash then ": -c: option requires an argument\n"
          else ": 0: -c requires an argument\n"))
      | false, rest =>
        match isInput, rest with
        | false, file :: _ =>
          match s.tree.read file with
          | .ok b => .ok (Raw.text b)
          | .error fault =>
            .error (err (path ++ if isBash then ": " ++ file ++ ": " ++ plainFault fault ++ "\n"
              else ": 0: cannot open " ++ file ++ ": No such file\n"))
        | _, _ => .ok (Raw.text s.input)
    match script with
    | .error p => (p, s.finish (if isBash && !isCommand then 127 else 2))
    | .ok script =>
      let (commands, fault) := readScript isBash script
      let (p, inner) := runAll fuel false commands inner
      let (q, inner) : Printed × Session := match if inner.isDone then none else fault with
        | some fault =>
          let title := if isBash && isCommand then inner.title ++ ": -c" else inner.title
          (err (fault.message isBash title script), { inner with ended := true, status := 2 })
        | none => ([], inner)
      let (r, inner) := runExit fuel inner
      (p ++ q ++ r ++ inner.pending, { s.after inner with signal := inner.signal })

/-- What is done about a command that has failed: a trap is run, and the shell ends where failures
end it. -/
def settle : Nat → Bool → Session → Printed × Session
  | 0, _, s => ([], s)
  | fuel + 1, guarded, s =>
    if guarded || s.status = 0 || s.isDone then ([], s)
    else
      let stopped (s : Session) : Session := if s.stopsOnError then { s with ended := true } else s
      match if s.called.isEmpty then s.traps.lookup "ERR" else none with
      | none => ([], stopped s)
      | some action =>
        let (p, after) := evaluate fuel true action { s with traps := [] }
        (p, if after.ended then after
          else stopped { after with traps := s.traps, status := s.status })

/-- Runs a command; a guarded one may fail where failures end the shell. -/
def run : Nat → Bool → Command → Session → Printed × Session
  | 0, _, _, s => ([], { s with ended := true })
  | fuel + 1, guarded, c, s =>
    if s.isDone then ([], s)
    else
      match c with
      | .simple line assignments words redirects =>
        let (args, p, s) := expandWords fuel words { s with line, substituted := none }
        if s.ended then (p, s)
        else
          let (q, s) := runSimple fuel guarded assignments args redirects s
          (p ++ q, s)
      | .sequence commands => runAll fuel guarded commands s
      | .background c =>
        let (p, inner) := runApart fuel false c { s with input := [] }
        let after := s.after inner
        let job : Job := ⟨4243 + s.jobs.length, after.status⟩
        ([], { after with
          input := s.input
          status := 0
          jobs := job :: s.jobs
          pending := s.pending ++ p })
      | .both a b =>
        let (p, s) := run fuel true a s
        if s.status = 0 then
          let (q, s) := run fuel guarded b s
          (p ++ q, s)
        else (p, s)
      | .either a b =>
        let (p, s) := run fuel true a s
        if s.status = 0 then (p, s)
        else
          let (q, s) := run fuel guarded b s
          (p ++ q, s)
      | .pipeline negated parts =>
        let (p, inner) := if parts.length = 1 then
            runAll fuel (guarded || negated) parts s
          else pipe fuel (guarded || negated) 0 parts s
        let s := if negated && !inner.isDone then inner.finish (if inner.status = 0 then 1 else 0)
          else inner
        if negated || parts.length = 1 then (p, s)
        else
          let (q, s) := settle fuel guarded s
          (p ++ q, s)
      | .group apart body redirects =>
        let (result, q, s) := openAll fuel redirects {} s
        match result with
        | .error e =>
          let (r, s) := settle fuel guarded (s.finish (if s.isBash then 1 else 2))
          (q ++ e ++ r, s)
        | .ok f =>
          let before := { s with
            input := f.input.getD s.input
            opened := f.opening s.opened
            sources := f.reading s.sources
            pending := [] }
          let (printed, inner) := if apart then runApart fuel guarded body before
            else run fuel guarded body before
          let inner := if apart then before.after inner else inner
          let (printed, s) := routeAll f printed s.pending (f.rest s inner)
          let (r, s) := if apart then settle fuel guarded s else ([], s)
          (q ++ printed ++ r, s)
      | .choice test yes no =>
        let (p, s) := run fuel true test s
        if s.isDone then (p, s)
        else if s.status = 0 then
          let (q, s) := run fuel guarded yes s
          (p ++ q, s)
        else
          match no with
          | some no =>
            let (q, s) := run fuel guarded no s
            (p ++ q, s)
          | none => (p, s.finish 0)
      | .each name words body =>
        let (values, p, s) := expandWords fuel words s
        if s.ended then (p, s)
        else if !isName name.toList then
          (p ++ err (s.report ("\x60" ++ name ++ "': not a valid identifier")), s.finish 1)
        else
          let sources := " ".intercalate (words.map (sourceOf false))
          let shown := if s.isBash then traced fuel ("for " ++ name ++ " in " ++ sources) s else []
          let (q, s) := runEach fuel guarded name shown values body
            { s.finish 0 with loops := s.loops + 1 }
          (p ++ q, { s with loops := s.loops - 1 })
      | .loop until_ test body =>
        let (p, s) := runLoop fuel guarded until_ test body 0 { s with loops := s.loops + 1 }
        (p, { s with loops := s.loops - 1 })
      | .count first test next body =>
        let (p, fails, s) := runStep fuel first s
        if fails then (p, s)
        else
          let (q, s) := runCount fuel guarded test next body 0 { s with loops := s.loops + 1 }
          (p ++ q, { s with loops := s.loops - 1 })
      | .cases w rows =>
        let t := if s.isBash then traced fuel ("case " ++ sourceOf false w ++ " in") s else []
        let (text, p, s) := expandWhole fuel w s
        let (q, s) := runCases fuel guarded text.toList false rows (s.finish 0)
        (t ++ p ++ q, s)
      | .named name body =>
        ([], { s with
          commands := (name, ⟨body, s.source⟩) :: s.commands.filter (·.1 != name)
          status := 0 })
      | .condition line c =>
        let (b, p, s) := holds fuel c { s with line }
        let status := match b with
          | some true => 0
          | some false => 1
          | none => 2
        let (q, s) := settle fuel guarded (s.finish status)
        (p ++ q, s)
      | .calculation line text =>
        let (p, s) := runCalculation fuel text { s with line }
        let (q, s) := settle fuel guarded s
        (p ++ q, s)

/-- Calculates; zero counts as a failure. -/
def runCalculation : Nat → String → Session → Printed × Session
  | 0, _, s => ([], s)
  | fuel + 1, text, s =>
    let (p, _, s) := runStep fuel text s
    (p, s)

/-- Calculates; tells whether the calculation has no value. -/
def runStep : Nat → String → Session → Printed × Bool × Session
  | 0, _, s => ([], false, s)
  | fuel + 1, text, s =>
    let (segments, p, s) := expandText fuel true text s
    let text := String.join (segments.map Segment.text)
    let p := p ++ traced fuel ("(( " ++ text ++ " ))") s
    match calculated s text with
    | (.ok n, s) => (p, false, s.finish (if n = 0 then 1 else 0))
    | (.error fault, s) =>
      match fault.cause with
      | .unset name =>
        let (q, s) := breaksOffAt name s
        (p ++ q, true, s)
      | _ => (p ++ err (s.report ("((: " ++ fault.message s.isBash text)), true, s.finish 1)

/-- Runs an expanded command: what stands in front of it is assigned for it alone. -/
def runSimple : Nat → Bool → List Assignment → List String → List Redirect → Session →
    Printed × Session
  | 0, _, _, _, _, s => ([], s)
  | fuel + 1, guarded, assignments, args, redirects, s =>
    let (result, p, s) := openAll fuel redirects {} s
    match result with
    | .error e =>
      let isSpecial := !s.isBash && args.head?.any
        [":", ".", "break", "continue", "eval", "exec", "exit", "export", "readonly", "return",
          "set", "shift", "trap", "unset"].contains
      let s := s.finish (if s.isBash then 1 else 2)
      let isSpecial := isSpecial || s.ended
      let (r, s) := if isSpecial then ([], { s with ended := true }) else settle fuel guarded s
      (p ++ e ++ r, s)
    | .ok f =>
      match args with
      | [] =>
        let before := s
        let (texts, q, s) := assignAll fuel assignments s
        let s := if s.ended then s else s.finish (s.substituted.getD 0)
        let t := if s.isBash then texts.flatMap fun text => traced fuel text before
          else if texts.isEmpty then [] else traced fuel (" ".intercalate texts) s
        let (q, s) := route f (q ++ t) s
        let (r, s) := settle fuel guarded s
        (p ++ q ++ r, { s with lastWord := "", statuses := [s.status] })
      | name :: operands =>
        let words := (name :: operands).map (shownWord s.isBash)
        let shown := " ".intercalate words
        let declares := s.isBash
          && ["declare", "typeset", "local", "export", "readonly"].contains name
        let ended (s : Session) : Session :=
          { s with lastWord := operands.getLast?.getD name, statuses := [s.status] }
        if name == "exec" && operands.isEmpty then
          (p ++ traced fuel shown s, { s with
            standing := f.sinks
            opened := f.opening s.opened
            sources := f.reading s.sources
            input := f.input.getD s.input
            status := 0 })
        else if declares then
          let sets := if name == "export" || name == "readonly" then
              operands.filterMap fun a => (Builtin.named a).2.map fun value =>
                (Builtin.named a).1 ++ "=" ++ shownWord true value
            else []
          let t := (shown :: sets).flatMap fun text => traced fuel text s
          let (q, s) := call fuel ((name :: operands) ++ assignments.map (·.name)) s
          let (_, r, s) := assignAll fuel assignments s
          let (printed, s) := route f (q ++ r) s
          let (r, s) := settle fuel guarded s
          (p ++ t ++ printed ++ r, ended s)
        else
          let (texts, q, inner) := assignAll fuel assignments s
          let t := if s.isBash then
              (texts.flatMap fun text => traced fuel text s) ++ traced fuel shown s
            else traced fuel (" ".intercalate (texts ++ words)) s
          let inner := assignments.foldl (fun (s : Session) a => s.exportVariable a.name) inner
          let inner := { inner with
            input := f.input.getD inner.input
            opened := f.opening inner.opened
            sources := f.reading inner.sources
            pending := if f.sinks.isEmpty then inner.pending else []
            isGuarded := guarded }
          let (printed, after) := if inner.ended then ([], inner)
            else call fuel (name :: operands) inner
          let restored (after : Session) (a : Assignment) : Session :=
            match s.values.lookup a.name with
            | some v => after.setVariable a.name v
            | none => after.unset a.name
          let after := if assignments.isEmpty then after
            else { assignments.foldl restored after with exported := s.exported }
          let after := { f.rest s after with isGuarded := s.isGuarded }
          let isLost := f.isClosed 1 && Builtin.isBuiltin s name && !(Printed.on printed 1).isEmpty
          let lost := if !isLost then []
            else err (s.complaint (name ++ ": " ++
              (if s.isBash then "write error: Bad file descriptor" else name ++ ": I/O error")))
          let after := if isLost then after.finish 1 else after
          let (printed, after) :=
            if f.sinks.isEmpty then route f printed after
            else routeAll f (printed ++ lost) s.pending after
          let (r, after) := settle fuel guarded after
          (p ++ q ++ t ++ printed ++ r, ended after)

/-- Runs commands in a row. What one of them says of the streams holds for those behind it. -/
def runAll : Nat → Bool → List Command → Session → Printed × Session
  | 0, _, _, s | _, _, [], s => ([], s)
  | fuel + 1, guarded, c :: cs, s =>
    let outer := s.standing
    let (p, s) := run fuel guarded c { s with standing := [] }
    let (p, s) := route { sinks := outer } p s
    let led := Streams.through { sinks := s.standing } { sinks := outer }
    let (q, s) := runAll fuel guarded cs { s with standing := led.sinks }
    (p ++ q, s)

/-- What is left to do behind a round of a loop: whether it goes on. -/
def roundEnds : Nat → Session → Bool × Session
  | 0, s => (true, s)
  | _, s =>
    match s.leaving with
    | some (.stops n) =>
      (true, { s with leaving := if n ≤ 1 then none else some (.stops (n - 1)) })
    | some (.skips n) =>
      if n ≤ 1 then (false, { s with leaving := none })
      else (true, { s with leaving := some (.skips (n - 1)) })
    | some .returns => (true, s)
    | none => (s.ended, s)

/-- Runs a body for every value of a variable; `shown` stands in front of every round. -/
def runEach : Nat → Bool → String → Printed → List String → Command → Session →
    Printed × Session
  | 0, _, _, _, _, _, s | _, _, _, _, [], _, s => ([], s)
  | fuel + 1, guarded, name, shown, v :: vs, body, s =>
    let (r, s) := put "" s name v
    let (p, s) := run fuel guarded body s
    let (stops, s) := roundEnds fuel s
    if stops then (shown ++ r ++ p, s)
    else
      let (q, s) := runEach fuel guarded name shown vs body s
      (shown ++ r ++ p ++ q, s)

/-- Runs a body as long as a test holds; `status` is that of the last round. -/
def runLoop : Nat → Bool → Bool → Command → Command → Nat → Session → Printed × Session
  | 0, _, _, _, _, _, s => ([], { s with ended := true })
  | fuel + 1, guarded, until_, test, body, status, s =>
    let (p, s) := run fuel true test s
    if s.isDone then
      let (_, s) := roundEnds fuel s
      (p, s)
    else if (s.status = 0) == until_ then (p, s.finish status)
    else
      let (q, s) := run fuel guarded body s
      let (stops, s) := roundEnds fuel s
      if stops then (p ++ q, s)
      else
        let (r, s) := runLoop fuel guarded until_ test body s.status s
        (p ++ q ++ r, s)

/-- Runs a body as long as a calculation is not zero, with another one behind each round. -/
def runCount : Nat → Bool → String → String → Command → Nat → Session → Printed × Session
  | 0, _, _, _, _, _, s => ([], { s with ended := true })
  | fuel + 1, guarded, test, next, body, status, s =>
    let (p, fails, s) := if (Calculation.skipBlanks test.toList).isEmpty then ([], false, s.finish 0)
      else runStep fuel test s
    if fails then (p, s)
    else if s.status != 0 then (p, s.finish status)
    else
      let (q, s) := run fuel guarded body s
      let (stops, s) := roundEnds fuel s
      if stops then (p ++ q, s)
      else
        let status := s.status
        let (a, fails, s) := runStep fuel next s
        if fails then (p ++ q ++ a, s)
        else
          let (r, s) := runCount fuel guarded test next body status s
          (p ++ q ++ a ++ r, s)

/-- Runs the first row with a pattern that fits; `goesOn` tells that the row before went on into
this one. -/
def runCases : Nat → Bool → List Char → Bool → List (List Word × Command × String) → Session →
    Printed × Session
  | 0, _, _, _, _, s | _, _, _, _, [], s => ([], s)
  | fuel + 1, guarded, text, goesOn, (patterns, body, mark) :: rows, s =>
    let (fits, p, s) := if goesOn then (true, [], s) else fitsAny fuel text patterns s
    if fits then
      let (q, s) := run fuel guarded body s
      if mark == ";;" || s.isDone then (p ++ q, s)
      else
        let (r, s) := runCases fuel guarded text (mark == ";&") rows s
        (p ++ q ++ r, s)
    else
      let (q, s) := runCases fuel guarded text false rows s
      (p ++ q, s)

/-- One of the patterns fits a text. -/
def fitsAny : Nat → List Char → List Word → Session → Bool × Printed × Session
  | 0, _, _, s | _, _, [], s => (false, [], s)
  | fuel + 1, text, w :: ws, s =>
    let (pattern, p, s) := expandPattern fuel (untilded s w) s
    if Pattern.fits pattern text then (true, p, s)
    else
      let (fits, q, s) := fitsAny fuel text ws s
      (fits, p ++ q, s)

/-- Runs the parts of a pipeline, each in a shell of its own; `failed` is the last status that was
not zero. -/
def pipe : Nat → Bool → Nat → List Command → Session → Printed × Session
  | 0, _, _, _, s | _, _, _, [], s => ([], s)
  | fuel + 1, guarded, failed, c :: cs, s =>
    let (p, inner) := runApart fuel guarded c s
    let rest := inner.input
    let status := (s.after inner).status
    let failed := if status = 0 then failed else status
    if cs.isEmpty then
      (p, { s.after inner with
        status := if s.failsAnywhere then failed else status
        statuses := [status] })
    else
      let (q, s) := pipe fuel guarded failed cs { s.after inner with input := p.on 1 }
      (p.filter (·.1 != 1) ++ q, { s with input := rest, statuses := status :: s.statuses })

end

/-- How long a script may run. -/
def maxSteps : Nat := 100000

end Scaffold.Script

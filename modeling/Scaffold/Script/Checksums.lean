import Scaffold.Digest
import Scaffold.Encoding.Digits
import Scaffold.Script.Utility

/-!
# Checksums — programs that print digests and check them

A line gives a digest and the name of the file that it belongs to. Lines of this form can be read
again and compared with the files.
-/

set_option autoImplicit false

namespace Scaffold.Script

namespace Checksums

/-- A way to make digests. -/
structure Method where
  /-- The name in lines that name it. -/
  title : String
  digest : Bytes → Bytes
  /-- The number of bytes of a digest. -/
  size : Nat

/-- The methods that have a program of their own. -/
def methods : List (String × Method) := [
  ("md5", ⟨"MD5", Digest.Md5.md5, 16⟩), ("sha1", ⟨"SHA1", Digest.Sha1.sha1, 20⟩),
  ("sha224", ⟨"SHA224", Digest.Sha2.sha224, 28⟩), ("sha256", ⟨"SHA256", Digest.Sha2.sha256, 32⟩),
  ("sha384", ⟨"SHA384", Digest.Sha2.sha384, 48⟩), ("sha512", ⟨"SHA512", Digest.Sha2.sha512, 64⟩)]

/-! ## Lines -/

/-- A name as it stands in a line, and whether it had to be changed for that. -/
def shownName (name : String) : String × Bool :=
  let shown := name.toList.flatMap fun c =>
    if c == '\\' then ['\\', '\\']
    else if c == '\n' then ['\\', 'n']
    else if c == '\r' then ['\\', 'r']
    else [c]
  (String.ofList shown, shown.length != name.length)

/-- The name that stands in a line that marks it as changed. -/
def readName : List Char → List Char
  | '\\' :: 'n' :: rest => '\n' :: readName rest
  | '\\' :: 'r' :: rest => '\r' :: readName rest
  | '\\' :: '\\' :: rest => '\\' :: readName rest
  | c :: rest => c :: readName rest
  | [] => []

/-- The line for a file. -/
def line (m : Method) (o : Settings) (isTagged : Bool) (path : String) (b : Bytes) : String :=
  let digest := String.ofList (Hex.encode (m.digest b))
  let (name, isChanged) := if o.has 'z' then (path, false) else shownName path
  (if isChanged then "\\" else "")
    ++ (if isTagged then m.title ++ " (" ++ name ++ ") = " ++ digest
      else digest ++ (if o.has 'b' then " *" else "  ") ++ name)
    ++ (if o.has 'z' then "\x00" else "\n")

/-- The digest and the name that a line gives. -/
def readLine (m : Method) (text : List Char) : Option (List Char × String) :=
  let (isChanged, text) := match text.dropWhile fun c => c == ' ' || c == '\t' with
    | '\\' :: rest => (true, rest)
    | rest => (false, rest)
  let name (cs : List Char) : String := String.ofList (if isChanged then readName cs else cs)
  let isDigest (cs : List Char) : Bool :=
    cs.length == 2 * m.size && cs.all fun c => (Hex.value? c.toNat.toUInt8).isSome
  let tag := (m.title ++ " (").toList
  if tag.isPrefixOf text then
    let behind := text.drop tag.length
    let digest := (behind.reverse.takeWhile (· != ' ')).reverse
    let front := behind.take (behind.length - digest.length)
    if isDigest digest && ") = ".toList.isSuffixOf front then
      some (digest, name (front.take (front.length - 4)))
    else none
  else
    let digest := text.take (2 * m.size)
    match text.drop (2 * m.size) with
    | ' ' :: c :: rest =>
      if isDigest digest && (c == ' ' || c == '*') && !rest.isEmpty then some (digest, name rest)
      else if isDigest digest then some (digest, name (c :: rest))
      else none
    | _ => none

/-! ## Checking -/

/-- What came of a check. -/
structure Outcome where
  printed : Printed := []
  /-- Lines that could be read. -/
  formed : Nat := 0
  malformed : Nat := 0
  unread : Nat := 0
  different : Nat := 0
  matched : Nat := 0

/-- Checks a line. -/
def checkLine (program : String) (m : Method) (o : Settings) (input : Bytes) (s : Session)
    (path : String) (r : Outcome) (numbered : Nat × Bytes) : Outcome :=
  let text := (Raw.text numbered.2).toList
  if text.isEmpty || text.head? == some '#' then r
  else
    match readLine m text with
    | none =>
      let warned : Printed :=
        if o.has 'w' then
          err (program ++ ": " ++ path ++ ": " ++ toString numbered.1 ++ ": improperly formatted "
            ++ m.title ++ " checksum line\n")
        else []
      { r with malformed := r.malformed + 1, printed := r.printed ++ warned }
    | some (digest, name) =>
      let r := { r with formed := r.formed + 1 }
      let reported (text : String) : Printed :=
        let (shown, isChanged) := shownName name
        if o.has 'σ' then []
        else out ((if isChanged then "\\" else "") ++ shown ++ ": " ++ text ++ "\n")
      match Utility.contentOf (Utility.titled program) input name s with
      | .error p =>
        if o.has 'ι' && (s.tree.kind? name).isNone then r
        else
          { r with unread := r.unread + 1, printed := r.printed ++ p ++ reported "FAILED open or read" }
      | .ok b =>
        if Hex.encode (m.digest b) == digest.map Char.toLower then
          { r with
            matched := r.matched + 1
            printed := r.printed ++ (if o.has 'q' then [] else reported "OK") }
        else { r with different := r.different + 1, printed := r.printed ++ reported "FAILED" }

/-- A warning that counts. -/
def counted (program : String) (n : Nat) (one many : String) : Printed :=
  if n = 0 then []
  else
    err (program ++ ": WARNING: " ++ toString n ++ " " ++ (if n = 1 then one else many) ++ "\n")

/-- Checks the lines of a file. -/
def checkFile (program : String) (m : Method) (o : Settings) (input : Bytes) (path : String)
    (s : Session) : Printed × Session :=
  match Utility.contentOf (Utility.titled program) input path s with
  | .error p => Utility.bad 1 p s
  | .ok b =>
    let shown := if path == "-" then "'standard input'" else Quoting.pathIfNeeded path
    let ls := Utility.bareLines 10 b
    let r := (((List.range ls.length).map (· + 1)).zip ls).foldl
      (checkLine program m o input s shown) {}
    if r.formed = 0 then
      Utility.bad 1 (r.printed ++ err (program ++ ": " ++ shown
        ++ ": no properly formatted checksum lines found\n")) s
    else
      let lacks := o.has 'ι' && r.matched = 0 && r.different = 0
      let warnings :=
        if o.has 'σ' then []
        else
          counted program r.malformed "line is improperly formatted"
              "lines are improperly formatted"
            ++ counted program r.unread "listed file could not be read"
              "listed files could not be read"
            ++ counted program r.different "computed checksum did NOT match"
              "computed checksums did NOT match"
            ++ (if lacks then err (program ++ ": " ++ shown ++ ": no file was verified\n") else [])
      let isGood := r.unread = 0 && r.different = 0 && !lacks
        && (r.malformed = 0 || !o.has 'ς')
      Utility.bad (if isGood then 0 else 1) (r.printed ++ warnings) s

/-! ## Programs -/

/-- The long names of options; those without a letter are known by signs that no argument holds. -/
def optionNames : List (String × Char) := [
  ("binary", 'b'), ("check", 'c'), ("tag", 'τ'), ("text", 't'), ("zero", 'z'),
  ("ignore-missing", 'ι'), ("quiet", 'q'), ("status", 'σ'), ("strict", 'ς'), ("warn", 'w')]

/-- Prints digests by a method, or checks them. -/
def printOrCheck (program : String) (m : Method) (isTagged : Bool) (o : Settings) (input : Bytes)
    (s : Session) : Printed × Session :=
  let misused (text : String) : Printed × Session := Tool.misused program text 1 s
  let paths := if o.operands.isEmpty then ["-"] else o.operands
  let onlyChecking : List (Char × String) :=
    [('ι', "--ignore-missing"), ('σ', "--status"), ('w', "--warn"), ('q', "--quiet"),
      ('ς', "--strict")]
  if o.has 'c' && o.has 'τ' then
    misused "the --tag option is meaningless when verifying checksums"
  else if o.has 'c' && (o.has 'b' || o.has 't') then
    misused "the --binary and --text options are meaningless when verifying checksums"
  else if o.has 'c' then
    Utility.onEach (checkFile program m o input) paths s
  else
    match onlyChecking.find? fun (c, _) => o.has c with
    | some (_, name) =>
      misused ("the " ++ name ++ " option is meaningful only when verifying checksums")
    | none =>
      Utility.onEach (fun path s =>
        match Utility.contentOf (Utility.titled program) input path s with
        | .ok b => Utility.good (out (line m o isTagged path b)) s
        | .error p => Utility.bad 1 p s) paths s

/-- The program of a method. -/
def digestTool (name : String) (m : Method) : Tool where
  name := name ++ "sum"
  flags := "bcctwzτισςq"
  names := optionNames
  reads := Tool.readsInput
  run o := printOrCheck (name ++ "sum") m (o.has 'τ') o

/-- Prints a short sum of every file, with a length in blocks. -/
def onSums (program : String) (o : Settings) (input : Bytes) (s : Session)
    (text : Bytes → String) : Printed × Session :=
  Utility.onEach (fun path s =>
    match Utility.contentOf (Utility.titled program) input path s with
    | .ok b =>
      let name := if o.operands.isEmpty then "" else " " ++ path
      Utility.good (out (text b ++ name ++ "\n")) s
    | .error p => Utility.bad 1 p s) (if o.operands.isEmpty then ["-"] else o.operands) s

/-- Blocks of a size, as many as hold a content. -/
def blockCount (size : Nat) (b : Bytes) : Nat := (b.length + size - 1) / size

/-- A sum that is turned, and a length in blocks, in columns. -/
def turningLine (b : Bytes) : String :=
  let digits := toString (Digest.Sum.turning b)
  let count := toString (blockCount 1024 b)
  String.ofList (List.replicate (5 - digits.length) '0') ++ digits ++ " "
    ++ String.ofList (List.replicate (5 - count.length) ' ') ++ count

/-- A plain sum and a length in blocks. -/
def plainLine (b : Bytes) : String :=
  toString (Digest.Sum.plain b) ++ " " ++ toString (blockCount 512 b)

/-- Prints sums in 16 bits. -/
def sum : Tool where
  name := "sum"
  flags := "rs"
  names := [("sysv", 's')]
  reads := Tool.readsInput
  run o input s :=
    let isPlain := (o.given.map Prod.fst).getLast? == some 's'
    onSums "sum" o input s (if isPlain then plainLine else turningLine)

/-- Prints cyclic sums, or digests by a method that is named. -/
def cksum : Tool where
  name := "cksum"
  flags := "bctwzτυισςq"
  valued := "al"
  names := ("algorithm", 'a') :: ("untagged", 'υ') :: ("length", 'l') :: optionNames
  reads := Tool.readsInput
  run o input s :=
    match (o.value? 'a').getD "crc" with
    | "crc" =>
      onSums "cksum" o input s fun b =>
        toString (Digest.Sum.cyclic b) ++ " " ++ toString b.length
    | "bsd" => onSums "cksum" o input s turningLine
    | "sysv" => onSums "cksum" o input s plainLine
    | name =>
      match methods.lookup name with
      | some m => printOrCheck "cksum" m (!o.has 'υ') { o with
          given := o.given.filter fun (c, _) => c != 'τ' } input s
      | none =>
        Tool.misused "cksum" ("invalid argument " ++ Quoting.path name
          ++ " for '--algorithm'\nValid arguments are:\n  - 'bsd'\n  - 'sysv'\n  - 'crc'\n"
          ++ "  - 'md5'\n  - 'sha1'\n  - 'sha224'\n  - 'sha256'\n  - 'sha384'\n  - 'sha512'\n"
          ++ "  - 'blake2b'\n  - 'sm3'") 1 s

/-- The programs that print sums and digests. -/
def checksumTools : List Tool :=
  methods.map (fun (name, m) => digestTool name m) ++ [sum, cksum]

end Checksums

end Scaffold.Script

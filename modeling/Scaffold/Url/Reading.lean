import Scaffold.Url.Basic
import Scaffold.Url.Host

/-!
# Reading — texts as addresses

A text is an address by itself, or together with the address it stands in: what it leaves out is
then taken from there. Controls and spaces around it and line breaks in it do not count.
-/

set_option autoImplicit false

namespace Scaffold.Url

/-- A text without what does not count. -/
def cleaned (text : String) : List Char :=
  let outer (c : Char) : Bool := c.toNat ≤ 32
  let inner := ((text.toList.dropWhile outer).reverse.dropWhile outer).reverse
  inner.filter fun c => !(['\t', '\n', '\r'].contains c)

/-- The scheme in front of a text, in small letters, and what follows its colon. -/
def cutScheme (text : List Char) : Option (String × List Char) :=
  let isPart (c : Char) : Bool := c.isAlphanum || ['+', '-', '.'].contains c
  match text with
  | [] => none
  | c :: _ =>
    if c.isAlpha then
      match text.dropWhile isPart with
      | ':' :: rest =>
        some (String.ofList ((text.takeWhile isPart).map Char.toLower), rest)
      | _ => none
    else none

/-- The character ends an authority or the part of a path. -/
def isSlash (special : Bool) (c : Char) : Bool :=
  c == '/' || (special && c == '\\')

/-- The character ends an authority. -/
def endsAuthority (special : Bool) (c : Char) : Bool :=
  isSlash special c || c == '?' || c == '#'

/-- A port and what follows it; the port of the scheme is not kept. -/
def readPort (scheme : String) (text : List Char) : Option (Option Nat) :=
  if !text.all Char.isDigit then none
  else
    let port : Nat := text.foldl (fun n c => n * 10 + (c.toNat - 48)) 0
    if 65535 < port then none
    else if text.isEmpty || defaultPort? scheme = some port then some none
    else some (some port)

/-- The end of a host: a colon that stands outside of brackets. -/
def cutHost (inBrackets : Bool) : List Char → List Char × List Char
  | [] => ([], [])
  | c :: rest =>
    if c == ':' && !inBrackets then ([], c :: rest)
    else
      let inBrackets := if c == '[' then true else if c == ']' then false else inBrackets
      let (host, rest) := cutHost inBrackets rest
      (c :: host, rest)

/-- Name and password of a text. -/
def readUser (text : List Char) : String × String :=
  let write (part : List Char) : String := String.ofList (percentEncode .userinfo part)
  (write (text.takeWhile (· != ':')), write ((text.dropWhile (· != ':')).drop 1))

/-- What stands in front of the last character of some kind, and what follows it. -/
def cutLast (stop : Char) (text : List Char) : Option (List Char × List Char) :=
  match text.reverse.dropWhile (· != stop) with
  | [] => none
  | _ :: front => some (front.reverse, (text.reverse.takeWhile (· != stop)).reverse)

/-- Reads the authority of an address. -/
def readAuthority (scheme : String) (text : List Char) : Option Url := do
  let special := isSpecial scheme
  let (user, rest) := match cutLast '@' text with
    | some (user, rest) => (some user, rest)
    | none => (none, text)
  let (username, password) := match user with
    | some user => readUser user
    | none => ("", "")
  let (hostText, rest) := cutHost false rest
  if hostText.isEmpty && (special || user.isSome || !rest.isEmpty) then none
  else
    let host ← if special then Host.ofWeb? hostText else Host.ofOther? hostText
    let port ← readPort scheme (rest.drop 1)
    return { scheme, username, password, host := some (String.ofList host), port }

/-- The parts of a path between slashes. -/
def parts (special : Bool) : List Char → List (List Char)
  | [] => [[]]
  | c :: rest =>
    if isSlash special c then [] :: parts special rest
    else
      match parts special rest with
      | part :: more => (c :: part) :: more
      | [] => [[c]]

/-- The part stands for its own directory. -/
def isSingleDot (part : List Char) : Bool :=
  [".", "%2e"].contains (String.ofList (part.map Char.toLower))

/-- The part stands for the directory above. -/
def isDoubleDot (part : List Char) : Bool :=
  ["..", ".%2e", "%2e.", "%2e%2e"].contains (String.ofList (part.map Char.toLower))

/-- The part is the letter of a drive. -/
def isDrive (part : List Char) : Bool :=
  match part with
  | [c, ':'] | [c, '|'] => c.isAlpha
  | _ => false

/-- A path without its last part; the drive of a file stays. -/
def shorten (scheme : String) (path : List String) : List String :=
  match path with
  | [part] => if scheme == "file" && isDrive part.toList then path else []
  | path => path.dropLast

/-- Walks the parts of a path from a directory. -/
def walk (scheme : String) : List (List Char) → List String → List String
  | [], path => path
  | part :: more, path =>
    let isLast := more.isEmpty
    if isDoubleDot part then
      let path := shorten scheme path
      walk scheme more (if isLast then path ++ [""] else path)
    else if isSingleDot part then walk scheme more (if isLast then path ++ [""] else path)
    else
      let part := match scheme == "file" && path.isEmpty && isDrive part, part with
        | true, c :: _ => [c, ':']
        | _, part => part
      walk scheme more (path ++ [String.ofList (percentEncode .path part)])

/-- The query and the fragment of an address. -/
def withTail (u : Url) (text : List Char) : Url :=
  let set := if isSpecial u.scheme then PercentSet.specialQuery else .query
  let fragment : Option String :=
    match text.dropWhile (· != '#') with
    | _ :: rest => some (String.ofList (percentEncode .fragment rest))
    | [] => none
  match text.takeWhile (· != '#') with
  | '?' :: rest => { u with query := some (String.ofList (percentEncode set rest)), fragment }
  | _ => { u with fragment }

/-- Where the path of a text ends. -/
def endsPath (c : Char) : Bool := c == '?' || c == '#'

/-- Reads a path from a directory, and what follows it. -/
def withPath (u : Url) (directory : List String) (text : List Char) : Url :=
  let path := text.takeWhile (!endsPath ·)
  let special := isSpecial u.scheme
  ({ u with
      path := .segments (walk u.scheme (parts special path) directory)
      query := none }).withTail
    (text.dropWhile (!endsPath ·))

/-- Reads what follows an authority. -/
def withPathStart (u : Url) (text : List Char) : Url :=
  let special := isSpecial u.scheme
  match text with
  | c :: rest =>
    if isSlash special c then u.withPath [] rest
    else if special then u.withPath [] text
    else u.withTail text
  | [] => if special then { u with path := .segments [""] } else u

/-- Reads an address behind its two slashes. -/
def readAfterSlashes (scheme : String) (text : List Char) : Option Url := do
  let stop := endsAuthority (isSpecial scheme)
  let u ← readAuthority scheme (text.takeWhile (!stop ·))
  return u.withPathStart (text.dropWhile (!stop ·))

/-- Reads the address of a file behind its scheme. -/
def readFile (text : List Char) : Option Url :=
  let u : Url := { scheme := "file", host := some "" }
  match text with
  | a :: rest =>
    if !isSlash true a then some (u.withPath [] text)
    else
      match rest with
      | b :: rest' =>
        if !isSlash true b then some (u.withPath [] rest)
        else
          let hostText := rest'.takeWhile (!endsAuthority true ·)
          let behind := rest'.dropWhile (!endsAuthority true ·)
          if isDrive hostText then some (u.withPath [] rest')
          else if hostText.isEmpty then some (u.withPathStart behind)
          else do
            let host ← Host.ofWeb? hostText
            let host := if host = "localhost".toList then [] else host
            return { u with host := some (String.ofList host) }.withPathStart behind
      | [] => some (u.withPath [] rest)
  | [] => some { u with path := .segments [""] }

/-- Reads an address that has no authority and no slash behind its scheme. -/
def readPlain (scheme : String) (text : List Char) : Url :=
  let path := percentEncode .controls (text.takeWhile (!endsPath ·))
  ({ scheme, path := .plain (String.ofList path) } : Url).withTail (text.dropWhile (!endsPath ·))

/-- The directory that an address stands in. -/
def directory (u : Url) : List String :=
  match u.path with
  | .segments parts => shorten u.scheme parts
  | .plain _ => []

/-- Reads a text that leaves out its scheme. -/
def readRelative (base : Url) (text : List Char) : Option Url :=
  let special := isSpecial base.scheme
  match text with
  | [] => some { base with fragment := none }
  | '?' :: _ => some ({ base with query := none }.withTail text)
  | '#' :: _ => some (base.withTail text)
  | c :: rest =>
    if isSlash special c then
      match rest with
      | d :: rest' =>
        if isSlash special d then
          readAfterSlashes base.scheme
            (if c == '/' && d == '/' then rest' else text.dropWhile (isSlash special))
        else some (base.withPath [] rest)
      | [] => some (base.withPath [] rest)
    else some (base.withPath base.directory text)

/-- Reads a text behind its scheme. -/
def readBehind (base : Option Url) (scheme : String) (text : List Char) : Option Url :=
  if scheme == "file" then readFile text
  else if isSpecial scheme then
    let slashes := (text.takeWhile (isSlash true)).length
    match base.filter fun b => b.scheme == scheme && slashes < 2 with
    | some base => readRelative base text
    | none => readAfterSlashes scheme (text.dropWhile (isSlash true))
  else
    match text with
    | '/' :: '/' :: rest => readAfterSlashes scheme rest
    | '/' :: rest => some (({ scheme } : Url).withPath [] rest)
    | text => some (readPlain scheme text)

/-- The address that a text stands for, on its own or where it is found. -/
def ofTextIn? (base : Option Url) (text : String) : Option Url :=
  let cs := cleaned text
  match cutScheme cs with
  | some (scheme, rest) => readBehind base scheme rest
  | none =>
    match base with
    | none => none
    | some base =>
      match base.path, cs with
      | .plain _, '#' :: _ => some (base.withTail cs)
      | .plain _, _ => none
      | _, _ => readRelative base cs

/-- The address that a text stands for. -/
def ofText? (text : String) : Option Url :=
  ofTextIn? none text

/-- The address that a text stands for in another one. -/
def join? (base : Url) (text : String) : Option Url :=
  ofTextIn? (some base) text

end Scaffold.Url

/-!
## Sending — addresses as requests use them

A request carries name and password apart from its address, and not every address can be written
into a request.
-/

namespace Scaffold.Url

/-- A text with its percent signs resolved, if that is a text again. -/
def readable? (text : String) : Option Bytes :=
  let bytes := percentDecode (Utf8.ofString text)
  if (Utf8.toString? bytes).isSome then some bytes else none

/-- Name and password, if there are any to be read. A password that cannot be read counts as left
out. -/
def login? (u : Url) : Option (Bytes × Bytes) :=
  match readable? u.username with
  | none => none
  | some name =>
    let password := (readable? u.password).getD []
    if name.isEmpty && password.isEmpty then none else some (name, password)

/-- The address without name and password, unless they stay because they cannot be read. -/
def bare (u : Url) : Url :=
  if u.login?.isSome then { u with username := "", password := "" } else u

/-- The characters that a host may have but a request cannot. -/
def unsendable : List Char := ['"', '\x60', '\x7b', '\x7d']

/-- The most bytes of an address in a request. -/
def maxLength : Nat := 65534

/-- The address leads to a place on the web and can be written into a request. -/
def isSendable (u : Url) : Bool :=
  u.isWeb && Utf8.size u.text ≤ maxLength
    && match u.host with
      | some host => !host.toList.any unsendable.contains
      | none => false

end Scaffold.Url

import Scaffold.Encoding.Digits
import Scaffold.Text.Utf8

/-!
# Url — addresses

An address in its parts, each of them as it is written: what needs percent signs has them.
-/

set_option autoImplicit false

namespace Scaffold

/-- The path of an address: the parts between slashes, or any text behind a scheme alone. -/
inductive Url.Path
  | segments (parts : List String)
  | plain (text : String)
  deriving DecidableEq, Repr

/-- An address. -/
structure Url where
  scheme : String
  username : String := ""
  password : String := ""
  host : Option String := none
  port : Option Nat := none
  path : Url.Path := .segments []
  query : Option String := none
  fragment : Option String := none
  deriving DecidableEq, Repr

namespace Url

/-- The schemes that the web defines, with their ports. -/
def defaultPort? (scheme : String) : Option Nat :=
  match scheme with
  | "http" | "ws" => some 80
  | "https" | "wss" => some 443
  | "ftp" => some 21
  | _ => none

/-- A scheme with rules of its own. -/
def isSpecial (scheme : String) : Bool :=
  (defaultPort? scheme).isSome || scheme == "file"

/-- Name and password in front of a host. -/
def credentials (u : Url) : String :=
  if u.username.isEmpty && u.password.isEmpty then ""
  else u.username ++ (if u.password.isEmpty then "" else ":" ++ u.password) ++ "@"

/-- The path as it is written. -/
def pathText (u : Url) : String :=
  match u.path with
  | .plain text => text
  | .segments parts =>
    let text := String.join (parts.map ("/" ++ ·))
    if u.host.isNone && parts.head? == some "" && 1 < parts.length then "/." ++ text else text

/-- Where the address leads: everything in front of the path. -/
def authority (u : Url) : String :=
  match u.host with
  | none => ""
  | some host =>
    "//" ++ u.credentials ++ host ++
      match u.port with
      | some port => ":" ++ toString port
      | none => ""

/-- The address as it is written. -/
def text (u : Url) : String :=
  u.scheme ++ ":" ++ u.authority ++ u.pathText
    ++ (match u.query with | some query => "?" ++ query | none => "")
    ++ (match u.fragment with | some fragment => "#" ++ fragment | none => "")

/-- The address belongs to the web. -/
def isWeb (u : Url) : Bool :=
  u.scheme == "http" || u.scheme == "https"

end Url

end Scaffold

/-!
## Percent — bytes written as a percent sign and two digits

Every part of an address has characters of its own that are written this way; controls and what is
not ASCII are in all of them.
-/

namespace Scaffold.Url

/-- Characters that are written with percent signs, besides controls and what is not ASCII. -/
abbrev PercentSet := List Char

namespace PercentSet

/-- Nothing but controls and what is not ASCII. -/
def controls : PercentSet := []

/-- The set of fragments. -/
def fragment : PercentSet := [' ', '"', '<', '>', '\x60']

/-- The set of queries. -/
def query : PercentSet := [' ', '"', '#', '<', '>']

/-- The set of queries of the schemes of the web. -/
def specialQuery : PercentSet := '\'' :: query

/-- The set of paths. -/
def path : PercentSet := fragment ++ ['#', '?', '\x7b', '\x7d']

/-- The set of names and passwords. -/
def userinfo : PercentSet := path ++ ['/', ':', ';', '=', '@', '[', '\\', ']', '^', '|']

end PercentSet

/-- A byte with a percent sign. -/
def percentByte (b : UInt8) : List Char :=
  ['%', FormUrl.upperDigit (b.toNat / 16), FormUrl.upperDigit (b.toNat % 16)]

/-- A character, with percent signs if it belongs to a set. -/
def percentChar (set : PercentSet) (c : Char) : List Char :=
  if c.toNat < 32 || 126 < c.toNat || set.contains c then (Utf8.encodeChar c).flatMap percentByte
  else [c]

/-- A text whose characters of a set are written with percent signs. -/
def percentEncode (set : PercentSet) (text : List Char) : List Char :=
  text.flatMap (percentChar set)

/-- The bytes of a text with percent signs; a sign without two digits stands for itself. -/
def percentDecode : Bytes → Bytes
  | [] => []
  | 37 :: a :: b :: rest =>
    match Hex.value? a, Hex.value? b with
    | some x, some y => UInt8.ofNat (16 * x + y) :: percentDecode rest
    | _, _ => 37 :: percentDecode (a :: b :: rest)
  | b :: rest => b :: percentDecode rest

end Scaffold.Url

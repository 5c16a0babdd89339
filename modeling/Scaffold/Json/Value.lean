import Scaffold.Decimal
import Scaffold.OrderedMap

/-!
# Json — values of the interchange format

An object is the list of its members. What is read as generic data is `isSorted`: the members of
every object stand in strictly increasing order of their names.
-/

set_option autoImplicit false

namespace Scaffold

/-- A JSON value; a number is exact if it is an integer. -/
inductive Json
  | null
  | bool (b : Bool)
  | int (n : Int)
  | float (x : Float)
  | string (s : String)
  | array (items : List Json)
  | object (members : List (String × Json))

namespace Json

instance : Inhabited Json := ⟨.null⟩

/-- Names in strictly increasing order. -/
def increasing : List String → Bool
  | a :: b :: rest => a < b && increasing (b :: rest)
  | _ => true

mutual

/-- The members of every object stand in strictly increasing order of their names. -/
def isSorted : Json → Bool
  | .array items => sortedItems items
  | .object members => increasing (members.map Prod.fst) && sortedMembers members
  | _ => true

/-- Every item is sorted. -/
def sortedItems : List Json → Bool
  | [] => true
  | j :: js => j.isSorted && sortedItems js

/-- The value of every member is sorted. -/
def sortedMembers : List (String × Json) → Bool
  | [] => true
  | (_, j) :: members => j.isSorted && sortedMembers members

end

/-- Writes a member into sorted members: in place of one of the same name, or where its name
belongs. -/
def insertMember (name : String) (value : Json) : List (String × Json) → List (String × Json)
  | [] => [(name, value)]
  | (n, v) :: members =>
    if name = n then (n, value) :: members
    else if name < n then (name, value) :: (n, v) :: members
    else (n, v) :: insertMember name value members

end Json

end Scaffold

/-!
## Print — compact text

Values without blanks between their parts. A text is written between quotation marks; the
quotation mark, the backslash and the controls are escaped, all other characters stand as they
are.
-/

namespace Scaffold.Json

/-- How floating point numbers are written: small exponents positionally, larger ones with a sign
and two digits. -/
def floatLayout : Decimal.Layout :=
  ⟨some (-5), some 15, "+", 2, "null", "null", "null"⟩

/-- The digit of a number below sixteen. -/
def hexDigit (n : Nat) : Char :=
  if n < 10 then Char.ofNat (48 + n) else Char.ofNat (87 + n)

/-- How a character stands in a text. -/
def escapeChar (c : Char) : List Char :=
  if c = '"' then ['\\', '"']
  else if c = '\\' then ['\\', '\\']
  else if c = '\x08' then ['\\', 'b']
  else if c = '\x0c' then ['\\', 'f']
  else if c = '\n' then ['\\', 'n']
  else if c = '\r' then ['\\', 'r']
  else if c = '\t' then ['\\', 't']
  else if c.toNat < 32 then
    ['\\', 'u', '0', '0', hexDigit (c.toNat / 16), hexDigit (c.toNat % 16)]
  else [c]

/-- A text between quotation marks. -/
def printString (s : String) : List Char :=
  '"' :: (s.toList.flatMap escapeChar ++ ['"'])

mutual

/-- The compact text of a value. -/
def printChars : Json → List Char
  | .null => "null".toList
  | .bool b => (if b then "true" else "false").toList
  | .int n => (toString n).toList
  | .float x => (floatLayout.render x).toList
  | .string s => printString s
  | .array items => '[' :: (printItems items ++ [']'])
  | .object members => '\x7b' :: (printMembers members ++ ['\x7d'])

/-- The items of an array, with commas between them. -/
def printItems : List Json → List Char
  | [] => []
  | [j] => j.printChars
  | j :: js => j.printChars ++ ',' :: printItems js

/-- The members of an object, with commas between them. -/
def printMembers : List (String × Json) → List Char
  | [] => []
  | [(name, j)] => printString name ++ ':' :: j.printChars
  | (name, j) :: members => printString name ++ ':' :: (j.printChars ++ ',' :: printMembers members)

end

/-- The compact text of a value. -/
def print (j : Json) : String :=
  String.ofList j.printChars

end Scaffold.Json

/-!
### Indented — one part a line

Every item and member stands on a line of its own, indented once more than what holds it; what is
empty stays on one line.
-/

namespace Scaffold.Json

/-- A line break and the indentation behind it. -/
def lineBreak (indent : List Char) (depth : Nat) : List Char :=
  '\n' :: (List.replicate depth indent).flatten

mutual

/-- The indented text of a value inside of `depth` others. -/
def indentedChars (indent : List Char) (depth : Nat) : Json → List Char
  | .array [] => "[]".toList
  | .array (item :: items) =>
    '[' :: (lineBreak indent (depth + 1) ++ indentedChars indent (depth + 1) item
      ++ indentedItems indent (depth + 1) items ++ lineBreak indent depth ++ [']'])
  | .object [] => ['\x7b', '\x7d']
  | .object ((name, value) :: members) =>
    '\x7b' :: (lineBreak indent (depth + 1) ++ printString name ++ [':', ' ']
      ++ indentedChars indent (depth + 1) value ++ indentedMembers indent (depth + 1) members
      ++ lineBreak indent depth ++ ['\x7d'])
  | j => j.printChars

/-- The items behind the first one. -/
def indentedItems (indent : List Char) (depth : Nat) : List Json → List Char
  | [] => []
  | item :: items =>
    ',' :: (lineBreak indent depth ++ indentedChars indent depth item
      ++ indentedItems indent depth items)

/-- The members behind the first one. -/
def indentedMembers (indent : List Char) (depth : Nat) : List (String × Json) → List Char
  | [] => []
  | (name, value) :: members =>
    ',' :: (lineBreak indent depth ++ printString name ++ [':', ' ']
      ++ indentedChars indent depth value ++ indentedMembers indent depth members)

end

/-- The indented text of a value. -/
def printIndented (width : Nat) (j : Json) : String :=
  String.ofList (indentedChars (List.replicate width ' ') 0 j)

end Scaffold.Json

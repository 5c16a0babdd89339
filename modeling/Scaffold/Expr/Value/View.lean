import Scaffold.Expr.Value
import Scaffold.Text.Utf8

/-!
# View — values as texts, rows and maps

What an operation may take a value for: bytes that spell a text count as that text, a map counts
as the row of its keys. Handles of an evaluation count as nothing here; they are replaced by what
they stand for before an operation sees them.
-/

set_option autoImplicit false

namespace Scaffold.Expr.Value

/-- The text of a value: its own, or the one that its bytes spell. -/
def text? : Value → Option String
  | .string s _ => some s
  | .bytes b => Utf8.toString? b
  | _ => Option.none

/-- The most elements that are produced. -/
def maxElements : Nat := 10000000

/-- Items several times, as far as so many are produced. -/
def repetition (items : List Value) (times : Nat) : List Value :=
  (List.replicate (min times (maxElements / max items.length 1)) items).flatten

/-- The items of a group as its second element. -/
def groupItems (items : List Value) : Value := .iterable items true

/-- The elements of a row or the keys of a map. -/
def elements? : Value → Option (List Value)
  | .seq items _ | .iterable items _ _ => some items
  | .repeated items times _ => some (repetition items times)
  | .group key items _ => some [key, groupItems items]
  | .map entries _ _ | .view _ _ entries => some (entries.map Prod.fst)
  | .fields m _ => some (m.keys.map text)
  | _ => Option.none

/-- What a loop runs over: the elements, the characters of a text, or nothing. -/
def items? : Value → Option (List Value)
  | .undefined | .none => some []
  | .string s _ => some (s.toList.map fun c => text (String.singleton c))
  | v => v.elements?

/-- The entries of a map. -/
def pairs? : Value → Option (List (Value × Value))
  | .map entries _ _ | .view _ _ entries => some entries
  | .fields m _ => some (m.entries.map fun (key, value) => (text key, ofField value))
  | _ => Option.none

/-- How many elements there are is known before they are produced. -/
def isCounted : Value → Bool
  | .iterable _ counted _ => counted
  | .string .. => false
  | _ => true

/-- The number of characters, bytes or elements, if it is known. -/
def length? : Value → Option Nat
  | .string s _ => some s.length
  | .iterable _ false _ => Option.none
  | .repeated items times _ => some (items.length * times % Nat.pow 2 64)
  | .bytes b => some b.length
  | v => v.elements?.map List.length

/-- Whether a condition on the value holds. -/
def isTrue : Value → Bool
  | .bool b => b
  | .int n _ => n != 0
  | .float x => x != 0.0
  | .string s _ => !s.isEmpty
  | .bytes b => !b.isEmpty
  | .undefined | .none | .invalid _ => false
  | v => v.length? != some 0

/-- A value that was left out or is none. -/
def isAbsent : Value → Bool
  | .undefined | .none => true
  | _ => false

/-- A row of elements. -/
def isRow (v : Value) : Bool :=
  v.kind = .seq || v.kind = .iterable

/-- A text that is not escaped again. -/
def isSafe : Value → Bool
  | .string _ safe => safe
  | _ => false

mutual

/-- The value with something in place of every reference to the evaluation. -/
def fill (meaning : Value → Value) : Value → Value
  | .cell kind id => meaning (.cell kind id)
  | .routine r closure usesCaller => meaning (.routine r closure usesCaller)
  | .seq items id => .seq (fillAll meaning items) id
  | .iterable items counted id => .iterable (fillAll meaning items) counted id
  | .repeated items times id => .repeated (fillAll meaning items) times id
  | .group key items id => .group (key.fill meaning) (fillAll meaning items) id
  | .map entries form id => .map (fillEntries meaning entries) form id
  | v => v

/-- Values with something in place of every reference. -/
def fillAll (meaning : Value → Value) : List Value → List Value
  | [] => []
  | v :: vs => v.fill meaning :: fillAll meaning vs

/-- Entries with something in place of every reference. -/
def fillEntries (meaning : Value → Value) : List (Value × Value) → List (Value × Value)
  | [] => []
  | (key, v) :: entries => (key.fill meaning, v.fill meaning) :: fillEntries meaning entries

end

mutual

/-- The value contains itself. What is `spelled` is not looked into where it is written in another
way than by its attributes. -/
def isEndless (spelled : Bool) : Value → Bool
  | .again _ => true
  | .seq items _ | .iterable items _ _ | .repeated items _ _ => anyEndless spelled items
  | .group key items _ => key.isEndless spelled || anyEndless spelled items
  | .map entries _ _ => anyEndlessEntry spelled entries
  | .view _ shown entries => !(spelled && shown.isSome) && anyEndlessEntry spelled entries
  | _ => false

/-- One of the values contains itself. -/
def anyEndless (spelled : Bool) : List Value → Bool
  | [] => false
  | v :: vs => v.isEndless spelled || anyEndless spelled vs

/-- A key or a value of the entries contains itself. -/
def anyEndlessEntry (spelled : Bool) : List (Value × Value) → Bool
  | [] => false
  | (key, v) :: entries =>
    key.isEndless spelled || v.isEndless spelled || anyEndlessEntry spelled entries

end

/-- The first of the values that contains itself. -/
def firstEndless? (spelled : Bool) (values : List Value) : Option Value :=
  values.find? (·.isEndless spelled)

/-- The value, if comparing it to another one never comes to an end. -/
def endlessBeside? (a b : Value) : Option Value :=
  if a.isEndless false && b.isEndless false && !a.isOneObject b then some a else Option.none

/-- The value, if looking for it in a container never comes to an end. -/
def endlessWithin? (a container : Value) : Option Value :=
  (container.elements?.getD []).findSome? a.endlessBeside?

mutual

/-- The value with references to the evaluation in place of what they stood for. -/
def thaw : Value → Value
  | .view .undefined shown entries => .view .undefined shown entries
  | .again .undefined => .again .undefined
  | .view of _ _ | .again of => of
  | .seq items id => .seq (thawAll items) id
  | .iterable items counted id => .iterable (thawAll items) counted id
  | .repeated items times id => .repeated (thawAll items) times id
  | .group key items id => .group key.thaw (thawAll items) id
  | .map entries form id => .map (thawEntries entries) form id
  | v => v

/-- Values with references in place of what they stood for. -/
def thawAll : List Value → List Value
  | [] => []
  | v :: vs => v.thaw :: thawAll vs

/-- Entries with references in place of what they stood for. -/
def thawEntries : List (Value × Value) → List (Value × Value)
  | [] => []
  | (key, v) :: entries => (key.thaw, v.thaw) :: thawEntries entries

end

mutual

/-- The value without references to the evaluation, which it outlives. -/
def detach : Value → Value
  | .view _ shown entries => .view .undefined shown (detachEntries entries)
  | .again _ => .again .undefined
  | .seq items _ => .seq (detachAll items)
  | .iterable items counted _ => .iterable (detachAll items) counted
  | .repeated items times _ => .repeated (detachAll items) times
  | .group key items _ => .group key.detach (detachAll items)
  | .map entries form _ => .map (detachEntries entries) form
  | v => v

/-- Values without references to the evaluation. -/
def detachAll : List Value → List Value
  | [] => []
  | v :: vs => v.detach :: detachAll vs

/-- Entries without references to the evaluation. -/
def detachEntries : List (Value × Value) → List (Value × Value)
  | [] => []
  | (key, v) :: entries => (key.detach, v.detach) :: detachEntries entries

end

end Scaffold.Expr.Value

import Scaffold.Expr.Value.Print
import Scaffold.Expr.Value.Order

/-!
# Escaping — values inside of marked-up text

A template may ask for its values to be written so that they mean nothing to what reads the text.
-/

set_option autoImplicit false

namespace Scaffold.Expr

/-- What the written values are escaped for. -/
inductive Escaping
  | none
  | html
  | json
  deriving DecidableEq, Repr

/-- The escaped form of a character. -/
def escapeHtmlChar (c : Char) : List Char :=
  match c with
  | '<' => "&lt;".toList
  | '>' => "&gt;".toList
  | '&' => "&amp;".toList
  | '"' => "&quot;".toList
  | '\'' => "&#x27;".toList
  | '/' => "&#x2f;".toList
  | c => [c]

/-- A text in which no character marks anything up. -/
def escapeHtml (text : String) : String :=
  String.ofList (text.toList.flatMap escapeHtmlChar)

/-- The text that a value is written as, escaped unless it is safe. -/
def Escaping.write (e : Escaping) (v : Value) : Except Halt String :=
  match v, e with
  | .invalid _, _ => .error .invalid
  | .string s true, _ => .ok s
  | v, .none => .ok v.print
  | v, .html =>
    match v.text?, v.kind with
    | some s, _ => .ok (escapeHtml s)
    | Option.none, .undefined | Option.none, .none | Option.none, .bool | Option.none, .number =>
      .ok v.print
    | Option.none, _ => .ok (escapeHtml v.print)
  | v, .json => return (← v.toJson).print

/-- The text that a value is written as in marked-up text. -/
def escaped (v : Value) : String :=
  match Escaping.html.write v with
  | .ok s => s
  | .error _ => v.print

/-- The escaping that a value switches on: by name, or the one of the part that it stands in. -/
def Escaping.ofValue (initial : Escaping) (v : Value) : Except Halt Escaping :=
  match v.text? with
  | some "html" => .ok .html
  | some "json" => .ok .json
  | some "none" => .ok .none
  | some _ => .error .invalid
  | Option.none =>
    if v.same (.bool true) then .ok (if initial = .none then .html else initial) else .ok .none

end Scaffold.Expr

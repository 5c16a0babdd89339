import Scaffold.Calendar.Format
import Scaffold.Expr.Value

/-!
# Failure — why an expression has no value

A failure has a kind and the line it is reported at; some tell more. The line is set once, by the
innermost part that failed.
-/

set_option autoImplicit false

namespace Scaffold.Expr

/-- The kinds of failures. -/
inductive Failure.Kind
  | malformed
  | badEscape
  | invalidOperation
  | undefinedValue
  | unknownFilter
  | unknownFunction
  | unknownTest
  | unknownMethod
  | unknownBlock
  | missingArgument
  | tooManyArguments
  | templateNotFound
  | cannotUnpack
  | notSerializable
  deriving DecidableEq, Repr

/-- The wording of a kind. -/
def Failure.Kind.text : Failure.Kind → String
  | .malformed => "syntax error"
  | .badEscape => "bad string escape"
  | .invalidOperation => "invalid operation"
  | .undefinedValue => "undefined value"
  | .unknownFilter => "unknown filter"
  | .unknownFunction => "unknown function"
  | .unknownTest => "unknown test"
  | .unknownMethod => "unknown method"
  | .unknownBlock => "unknown block"
  | .missingArgument => "missing argument"
  | .tooManyArguments => "too many arguments"
  | .templateNotFound => "template not found"
  | .cannotUnpack => "cannot unpack"
  | .notSerializable => "could not serialize to value"

/-- A failure of an evaluation. -/
structure Failure where
  kind : Failure.Kind
  detail : Option String := none
  line : Option Nat := none
  deriving DecidableEq, Repr

/-- The failure as it is reported. -/
def Failure.message (f : Failure) : String :=
  f.kind.text ++ (match f.detail with | some detail => ": " ++ detail | none => "")
    ++ (match f.line with | some line => " (in <string>:" ++ toString line ++ ")" | none => "")

/-- Sets the line of a failure that has none. -/
def Failure.onLine (f : Failure) (line : Nat) : Failure :=
  { f with line := some (f.line.getD line) }

/-- What stops an evaluation at once. -/
inductive Stop
  /-- A format that a moment cannot be written by. -/
  | unwritable (instant : Calendar.Instant) (format : String)
  /-- A text that is too long when it stands there so often. -/
  | overlong (text : String) (times : Nat)
  /-- A place behind the end of a row. -/
  | behindEnd (length place : Nat)
  /-- A cycle of no values. -/
  | emptyCycle
  /-- A scope that is open where the loop around it ends. -/
  | openScope
  /-- A value that contains itself, where it is looked through as a whole. -/
  | endless (v : Value)
  /-- A width or precision that is larger than can be written. -/
  | overwide (n : Nat)
  /-- A name outside of ASCII in a directive. -/
  | foreignName (name : String)

/-- How an evaluation ends without a value. -/
inductive Halt
  | failed (failure : Failure)
  /-- Nothing can be reported and nothing is handed back. -/
  | aborted (stop : Stop)

namespace Halt

/-- A failure of a kind. -/
def of (kind : Failure.Kind) : Halt := .failed { kind }

/-- An operation that its operands do not have. -/
def invalid : Halt := of .invalidOperation

/-- An operation that its operands do not have, with the reason. -/
def because (detail : String) : Halt := .failed { kind := .invalidOperation, detail := some detail }

/-- Sets the line of a failure that has none. -/
def onLine (line : Nat) : Halt → Halt
  | .failed f => .failed (f.onLine line)
  | .aborted stop => .aborted stop

end Halt

end Scaffold.Expr

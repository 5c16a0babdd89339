/-!
# Log — the report of a run

Every meaningful step of a run adds an entry: the block it belongs to and a message. A report is
the list of its entries in order; nothing in a run depends on it.
-/

set_option autoImplicit false

namespace Scaffold.Log

/-- One reported step. -/
structure Entry where
  block : String
  message : String
  deriving DecidableEq, Repr

/-- The messages of one block, in order. -/
def messages (block : String) (entries : List Entry) : List String :=
  (entries.filter (·.block == block)).map (·.message)

/-- The line that shows an entry; line breaks at the end of the message are dropped. -/
def Entry.line (entry : Entry) : String :=
  let body := (entry.message.toList.reverse.dropWhile (· == '\n')).reverse
  "[" ++ entry.block ++ "] -> " ++ String.ofList body ++ "\n"

end Scaffold.Log

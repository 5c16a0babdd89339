import Scaffold.Occurrences

/-!
# Segments — a text seen as pieces between a separator

`select` keeps the first or the last segments of a text and joins them with dots.
-/

set_option autoImplicit false

namespace Scaffold.Text

/-- The segments of a text around the occurrences of a separator. -/
def segments (flag text : String) : List (List Char) :=
  Occurrences.split flag.toList text.toList

/-- Joins segments with a dot between neighbours. -/
def dotted (parts : List (List Char)) : List Char :=
  ['.'].intercalate parts

/-- The first `position` segments of `text`, or the last `-position` ones, joined with dots.
Position zero counts as one. A position that leaves out no segment, and an empty separator,
select nothing. -/
def select (position : Int) (flag text : String) : String :=
  if flag.isEmpty then ""
  else
    let parts := segments flag text
    let count := max position.natAbs 1
    if parts.length ≤ count then ""
    else if 0 ≤ position then String.ofList (dotted (parts.take count))
    else String.ofList (dotted (parts.drop (parts.length - count)))

end Scaffold.Text

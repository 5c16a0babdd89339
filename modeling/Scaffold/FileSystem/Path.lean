import Scaffold.Occurrences

/-!
# Path — paths as texts

A path is kept as it is written. Joining never resolves anything; only the parent of a path looks
at its components, between which slashes and single dots in other places than the first do not
count.
-/

set_option autoImplicit false

namespace Scaffold.Path

/-- The path begins at the root. -/
def isAbsolute (path : String) : Bool :=
  path.toList.head? == some '/'

/-- A path below another one; an absolute path stands for itself. -/
def join (base path : String) : String :=
  if isAbsolute path then path
  else if base.isEmpty || base.toList.getLast? == some '/' then base ++ path
  else base ++ "/" ++ path

/-- The parts between slashes, from the left. -/
def parts (path : String) : List String :=
  (Occurrences.split ['/'] path.toList).map String.ofList

/-- The names that lead to the path, from the left; empty parts count for nothing. -/
def steps (path : String) : List String :=
  (parts path).filter (!·.isEmpty)

/-- The path ends in a slash. -/
def endsInSlash (path : String) : Bool :=
  path.toList.getLast? == some '/'

/-- The number of characters in front of the components: a root, or a single dot that stands for
the first component. -/
def headLength : List Char → Nat
  | '/' :: _ => 1
  | ['.'] => 1
  | '.' :: '/' :: _ => 1
  | _ => 0

/-- The last part of a reversed body and what stands in front of it; the slash between them belongs
to neither. -/
def lastPart (reversed : List Char) : List Char × List Char :=
  (reversed.takeWhile (· != '/'), (reversed.dropWhile (· != '/')).drop 1)

theorem lastPart_snd_length_lt {reversed : List Char} (h : reversed ≠ []) :
    (lastPart reversed).2.length < reversed.length := by
  have h₁ := (List.dropWhile_sublist (· != '/') (l := reversed)).length_le
  have h₂ := List.length_pos_iff.2 h
  simp only [lastPart, List.length_drop]
  omega

/-- Drops the parts at the end of a reversed body that are no components. -/
def dropEmpty (reversed : List Char) : List Char :=
  if _h : reversed = [] then []
  else if (lastPart reversed).1 = [] ∨ (lastPart reversed).1 = ['.'] then
    dropEmpty (lastPart reversed).2
  else reversed
termination_by reversed.length
decreasing_by exact lastPart_snd_length_lt _h

/-- The path without its last component; a root and an empty path have no parent. -/
def parent? (path : String) : Option String :=
  let cs := path.toList
  let head := headLength cs
  let body := dropEmpty (cs.drop head).reverse
  match body, cs with
  | [], '/' :: _ | [], [] => none
  | [], _ => some ""
  | body, cs => some (String.ofList (cs.take head ++ (dropEmpty (lastPart body).2).reverse))

/-- A path and its parents up to some number. -/
def ancestorsWithin : Nat → String → List String
  | 0, path => [path]
  | fuel + 1, path =>
    match parent? path with
    | some parent => path :: ancestorsWithin fuel parent
    | none => [path]

/-- A path and its parents, the path first. -/
def ancestors (path : String) : List String :=
  ancestorsWithin path.length path

/-- The last component, if it is a name. -/
def fileName? (path : String) : Option String :=
  let cs := path.toList
  let body := dropEmpty (cs.drop (headLength cs)).reverse
  match (lastPart body).1.reverse with
  | [] | ['.', '.'] => none
  | name => some (String.ofList name)

end Scaffold.Path

import Scaffold.Occurrences
import Scaffold.Text.Utf8

/-!
# Splice — raw blocks in place of markers

A rendered buffer is text in which every block of raw bytes is announced by a marker. Writing it
out puts the queued blocks where the markers stand, one block per marker, in order.
-/

set_option autoImplicit false

namespace Scaffold.Splice

/-- The text that stands for one block of raw bytes in a rendered buffer. -/
def markerText : String := "\x01\x02<skelgen:raw-bytes>\x02\x01"

/-- The marker as it stands in a rendered buffer. -/
def marker : Bytes := Utf8.ofString markerText

/-- Why markers and blocks do not match up. -/
inductive Fault
  /-- A block is queued for which no marker is left. -/
  | blockWithoutMarker
  /-- A marker is left once every block is written. -/
  | markerWithoutBlock
  deriving DecidableEq, Repr

/-- The wording of a mismatch. -/
def Fault.message : Fault → String
  | .blockWithoutMarker => "raw bytes were queued but no marker is left"
  | .markerWithoutBlock => "marker found without queued raw bytes"

/-- What splicing has written, which blocks it has not taken from the queue, and how it ended. -/
structure Result where
  written : Bytes
  left : List Bytes
  fault : Option Fault
  deriving DecidableEq

/-- Writes a buffer, taking the next queued block for each marker from the left. A block leaves
the queue before its marker is looked for. -/
def splice (rendered : Bytes) : List Bytes → Result
  | [] =>
    match Occurrences.cut marker rendered with
    | some _ => ⟨[], [], some .markerWithoutBlock⟩
    | none => ⟨rendered, [], none⟩
  | block :: queue =>
    match Occurrences.cut marker rendered with
    | none => ⟨[], queue, some .blockWithoutMarker⟩
    | some (before, after) =>
      let rest := splice after queue
      { rest with written := before ++ block ++ rest.written }

end Scaffold.Splice

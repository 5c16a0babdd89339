import Mathlib.Control.Monad.Basic
import Scaffold.Emission
import Scaffold.Proofs.Dialogue
import Scaffold.Proofs.FileSystem.Changes
import Scaffold.Proofs.Occurrences
import Scaffold.System.Machine

/-!
# Splicing — raw blocks on their way into a file

The content of a file is rendered with a marker for every block of raw bytes that it queues, and the
blocks are put where the markers stand when the file is written. `plan_and_apply_spliced` follows
them all the way: what was queued is what is planned, and what is planned ends up in the file, each
block behind its own segment of the text.

What is written when markers and blocks do not match up, and what is left of the blocks, is said of
the pieces that the leftmost markers leave of any buffer (`splice_matches_pieces`).

The marker begins and ends with the same byte. A segment that ends in all of the marker but its last
byte would therefore be completed by the marker behind it; this is why a segment must be free of
markers together with the first byte of one (`Separable`).
-/

set_option autoImplicit false

namespace Scaffold

/-! ## The blocks of an evaluation -/

/-- The blocks that questions queue, in order. -/
def queuedBy (questions : List Expr.Question) : List Bytes :=
  questions.filterMap fun
    | .queueBytes block => some block
    | _ => none

/-- The blocks that the evaluation of a content queues: it calls for one after the other. -/
def queuedBlocks (content : String) (names : Bindings) (c : Context) : List Bytes :=
  if Text.isBlankText content then []
  else queuedBy ((Expr.render content names.entries).asked Context.answer c)

theorem queuedBy_cons (q : Expr.Question) (questions : List Expr.Question) :
    queuedBy (q :: questions) = queuedBy [q] ++ queuedBy questions := by
  rw [← List.singleton_append]
  exact List.filterMap_append

/-- Only what queues a block changes the queue, and it adds the block at its end. -/
theorem answer_writes (q : Expr.Question) (c : Context) :
    (Context.answer q c).2.writes = c.writes ++ queuedBy [q] := by
  cases q <;> first | rfl | exact (List.append_nil _).symm

/-- Behind an evaluation the queue holds what was in it and what the evaluation has queued. -/
theorem run_writes {α : Type} (d : Expr.Asking α) (c : Context) :
    (d.run Context.answer c).2.writes = c.writes ++ queuedBy (d.asked Context.answer c) := by
  induction d generalizing c with
  | done a => exact (List.append_nil _).symm
  | ask q next ih =>
    rw [Dialogue.run, ih, answer_writes, List.append_assoc, ← queuedBy_cons]
    rfl

theorem render_writes (template : String) (names : Bindings) (c : Context) :
    (render template names c).2.writes =
      ((Expr.render template names.entries).run Context.answer c).2.writes := by
  rw [render]
  split
  next h => rw [h]
  next h => rw [h]; rfl
  next h =>
    rw [h]
    split <;> rfl

theorem evaluateContent_writes (content : String) (names : Bindings) (c : Context) :
    (evaluateContent content names c).2.writes = c.writes ++ queuedBlocks content names c := by
  rw [evaluateContent, queuedBlocks]
  split
  · exact (List.append_nil _).symm
  · rw [render_writes, run_writes]

/-! ## Markers and blocks -/

namespace Splice

theorem marker_ne_nil : marker ≠ [] := by decide

/-- The marker overlaps itself by the byte that it begins and ends with, and by no more. -/
theorem marker_overlapsAtMostByOne : Occurrences.OverlapsAtMostByOne marker := by
  have hall : ∀ k < marker.length, 0 < k → k + 1 < marker.length → ¬ marker.drop k <+: marker := by
    decide
  exact fun k hpos hlong => hall k (Nat.lt_of_succ_lt hlong) hpos hlong

/-- A text with a marker for each of its blocks: segments with a marker behind each, then a last
segment. -/
def marked : List (String × Bytes) → String → String
  | [], last => last
  | (segment, _) :: pieces, last => segment ++ markerText ++ marked pieces last

/-- What a marked text stands for: the same segments, with the blocks in between. -/
def spliced : List (String × Bytes) → String → Bytes
  | [], last => Utf8.ofString last
  | (segment, block) :: pieces, last => Utf8.ofString segment ++ block ++ spliced pieces last

/-- The markers of a marked text are those behind its segments, and no others. -/
structure Separable (pieces : List (String × Bytes)) (last : String) : Prop where
  segments : ∀ piece ∈ pieces, ¬ marker <:+: Utf8.ofString piece.1 ++ marker.take 1
  last : ¬ marker <:+: Utf8.ofString last

theorem ofString_marked_cons (segment : String) (block : Bytes) (pieces : List (String × Bytes))
    (last : String) :
    Utf8.ofString (marked ((segment, block) :: pieces) last) =
      Utf8.ofString segment ++ marker ++ Utf8.ofString (marked pieces last) := by
  rw [marked, Utf8.ofString, String.toList_append, String.toList_append, Utf8.encode_append,
    Utf8.encode_append]
  rfl

/-- Splicing puts every block where its marker stands. -/
theorem splice_marked {pieces : List (String × Bytes)} {last : String}
    (h : Separable pieces last) :
    splice (Utf8.ofString (marked pieces last)) (pieces.map Prod.snd) =
      ⟨spliced pieces last, [], none⟩ := by
  induction pieces with
  | nil =>
    have hnone := (Occurrences.cut_eq_none_iff marker_ne_nil).2 h.last
    rw [List.map_nil, splice, marked, hnone]
    rfl
  | cons piece pieces ih =>
    obtain ⟨segment, block⟩ := piece
    have hcut : Occurrences.cut marker (Utf8.ofString (marked ((segment, block) :: pieces) last)) =
        some (Utf8.ofString segment, Utf8.ofString (marked pieces last)) := by
      rw [ofString_marked_cons]
      exact Occurrences.cut_append_append marker_ne_nil marker_overlapsAtMostByOne
        (h.segments _ List.mem_cons_self)
    have hrest := ih ⟨fun piece hmem => h.segments piece (List.mem_cons_of_mem _ hmem), h.last⟩
    rw [List.map_cons, splice, hcut]
    dsimp only
    rw [hrest]
    rfl

/-! ## Slices by place

The same writer on places takes its slices only where they lie within the buffer. It never comes upon
one that does not. -/

open Occurrences

/-- What stands up to a place, if the place is within the buffer. -/
def upTo? (k : Nat) (xs : Bytes) : Option Bytes :=
  if k ≤ xs.length then some (xs.take k) else none

/-- What stands from a place on, if the place is within the buffer. -/
def from? (k : Nat) (xs : Bytes) : Option Bytes :=
  if k ≤ xs.length then some (xs.drop k) else none

/-- The slices around the marker at a place, if both lie within the buffer. -/
def around? (k : Nat) (xs : Bytes) : Option (Bytes × Bytes) :=
  (upTo? k xs).bind fun front => (from? (k + marker.length) xs).map fun rest => (front, rest)

/-- Splicing by places: a marker is looked for by its place, and what stands around it is sliced
off. It has no result where a slice does not lie within what is left of the buffer. -/
def splicePlaces (rendered : Bytes) : List Bytes → Option Result
  | [] =>
    match place? marker rendered with
    | some _ => some ⟨[], [], some .markerWithoutBlock⟩
    | none => some ⟨rendered, [], none⟩
  | block :: queue =>
    match place? marker rendered with
    | none => some ⟨[], queue, some .blockWithoutMarker⟩
    | some k =>
      (around? k rendered).bind fun (front, behind) =>
        (splicePlaces behind queue).map fun rest =>
          { rest with written := front ++ block ++ rest.written }

theorem upTo?_append (front rest : Bytes) : upTo? front.length (front ++ rest) = some front := by
  rw [upTo?, if_pos (by rw [List.length_append]; omega), List.take_left]

theorem from?_append (front rest : Bytes) : from? front.length (front ++ rest) = some rest := by
  rw [from?, if_pos (by rw [List.length_append]; omega), List.drop_left]

/-- Around a marker there is something to slice off. -/
theorem around?_append (front rest : Bytes) :
    around? front.length (front ++ marker ++ rest) = some (front, rest) := by
  have hbehind : from? (front.length + marker.length) (front ++ marker ++ rest) = some rest := by
    rw [← List.length_append, from?_append]
  rw [around?, hbehind, List.append_assoc, upTo?_append]
  rfl

/-- Every slice that is taken lies within the buffer, and splicing by places is splicing. -/
theorem splicePlaces_eq (rendered : Bytes) (queue : List Bytes) :
    splicePlaces rendered queue = some (splice rendered queue) := by
  induction queue generalizing rendered with
  | nil =>
    rw [splicePlaces, splice, place?_eq_cut marker_ne_nil]
    cases cut marker rendered <;> rfl
  | cons block queue ih =>
    rw [splicePlaces, splice, place?_eq_cut marker_ne_nil]
    cases hcut : cut marker rendered with
    | none => rfl
    | some parts =>
      obtain ⟨front, rest⟩ := parts
      obtain rfl := eq_append_of_cut hcut
      dsimp only [Option.map_some]
      rw [around?_append, Option.bind_some, ih, Option.map_some]

/-! ## What a division makes of the blocks -/

/-- Pieces with a block behind each, as far as there are both. -/
def between (fronts blocks : List Bytes) : Bytes :=
  (List.zipWith (· ++ ·) fronts blocks).flatten

/-- What splicing does with a queue, said of the pieces that the markers leave. -/
def outcome (fronts : List Bytes) (last : Bytes) (queue : List Bytes) : Result :=
  if queue.length < fronts.length then
    ⟨between (fronts.take queue.length) queue, [], some .markerWithoutBlock⟩
  else if fronts.length < queue.length then
    ⟨between fronts (queue.take fronts.length), queue.drop (fronts.length + 1),
      some .blockWithoutMarker⟩
  else ⟨between fronts queue ++ last, [], none⟩

theorem outcome_cons (front : Bytes) (fronts : List Bytes) (last block : Bytes)
    (queue : List Bytes) :
    outcome (front :: fronts) last (block :: queue) =
      { outcome fronts last queue with
        written := front ++ block ++ (outcome fronts last queue).written } := by
  simp only [outcome, List.length_cons, Nat.add_lt_add_iff_right]
  split
  · rfl
  · split
    · rfl
    · simp only [between, List.zipWith_cons_cons, List.flatten_cons, List.append_assoc]

/-- One marker and one block at a time, splicing comes to what the division says. -/
theorem splice_of_pieces {rendered last : Bytes} {fronts : List Bytes}
    (h : Pieces marker rendered fronts last) (queue : List Bytes) :
    splice rendered queue = outcome fronts last queue := by
  induction h generalizing queue with
  | last hfree =>
    have hnone := (cut_eq_none_iff marker_ne_nil).2 hfree
    cases queue with
    | nil => rw [splice, hnone]; rfl
    | cons block queue => rw [splice, hnone]; rfl
  | next hfirst _ ih =>
    have hcut := cut_eq_some_iff.2 ⟨rfl, hfirst⟩
    cases queue with
    | nil => rw [splice, hcut]; rfl
    | cons block queue =>
      rw [splice, hcut, outcome_cons]
      dsimp only
      rw [ih]

/-- Splicing succeeds exactly if there are as many blocks as markers, and what it writes and leaves
is determined by the pieces around the leftmost markers that do not overlap. With as many blocks it
writes all pieces, a block behind each but the last, and empties the queue. With too few it writes as
many pieces as there are blocks, each with its block, and empties the queue. With too many it writes
the pieces in front of a marker, each with its block; the block behind them is taken from the queue
and lost, and the others are left. No piece contains a marker, and no slice of the buffer is taken
beyond its end. -/
theorem splice_matches_pieces (rendered : Bytes) (queue : List Bytes) :
    ∃ fronts last,
      (∀ fronts' last', Pieces marker rendered fronts' last' ↔ fronts' = fronts ∧ last' = last) ∧
      (∀ front ∈ fronts, ¬ marker <:+: front) ∧ ¬ marker <:+: last ∧
      ((splice rendered queue).fault = none ↔ queue.length = fronts.length) ∧
      (queue.length = fronts.length →
        splice rendered queue = ⟨between fronts queue ++ last, [], none⟩) ∧
      (queue.length < fronts.length →
        splice rendered queue =
          ⟨between (fronts.take queue.length) queue, [], some .markerWithoutBlock⟩) ∧
      (fronts.length < queue.length →
        splice rendered queue =
          ⟨between fronts (queue.take fronts.length), queue.drop (fronts.length + 1),
            some .blockWithoutMarker⟩) ∧
      splicePlaces rendered queue = some (splice rendered queue) := by
  obtain ⟨fronts, last, hpieces⟩ := exists_pieces marker_ne_nil rendered
  have hdivided := (hpieces fronts last).2 ⟨rfl, rfl⟩
  obtain ⟨hfronts, hlast⟩ := hdivided.free marker_ne_nil
  have houtcome := splice_of_pieces hdivided queue
  have hsame (h : queue.length = fronts.length) :
      splice rendered queue = ⟨between fronts queue ++ last, [], none⟩ := by
    rw [houtcome, outcome, if_neg (by omega), if_neg (by omega)]
  have hfew (h : queue.length < fronts.length) :
      splice rendered queue =
        ⟨between (fronts.take queue.length) queue, [], some .markerWithoutBlock⟩ := by
    rw [houtcome, outcome, if_pos h]
  have hmany (h : fronts.length < queue.length) :
      splice rendered queue =
        ⟨between fronts (queue.take fronts.length), queue.drop (fronts.length + 1),
          some .blockWithoutMarker⟩ := by
    rw [houtcome, outcome, if_neg (by omega), if_pos h]
  refine ⟨fronts, last, hpieces, hfronts, hlast, ⟨fun hnone => ?_, fun h => by rw [hsame h]⟩,
    hsame, hfew, hmany, splicePlaces_eq rendered queue⟩
  rcases Nat.lt_trichotomy queue.length fronts.length with h | h | h
  · rw [hfew h] at hnone
    cases hnone
  · exact h
  · rw [hmany h] at hnone
    cases hnone

end Splice

/-! ## From the template to the file -/

namespace Emission

/-- A content is planned together with the blocks that it queues, if nothing was queued before. -/
theorem planContent_eq_ok {content text : String} {names : Bindings} {c : Context}
    (hempty : c.writes = [])
    (hrendered : (evaluateContent content names c).1.map Evaluated.text = .ok text) :
    (planContent content names c).1 = .ok (Utf8.ofString text, queuedBlocks content names c) := by
  have hwrites := evaluateContent_writes content names c
  rw [hempty, List.nil_append] at hwrites
  rw [planContent]
  split
  next h =>
    rw [h] at hrendered hwrites
    cases hrendered
    rw [hwrites]
  next h =>
    rw [h] at hrendered
    cases hrendered

/-- What is planned for a template with a content of its own. -/
theorem plan_content {roots : Roots} {template target : String} {spec : FileSpec}
    {names : Bindings} {c c₁ : Context} {content : Bytes} {blocks : List Bytes}
    (hpath : planPath roots template names c = (.ok target, c₁))
    (hfile : spec.isDir = false) (hown : Text.isBlankText spec.path = true)
    (hsome : spec.content.isEmpty = false)
    (hcontent : (planContent spec.content names c₁).1 = .ok (content, blocks)) :
    (plan roots template spec names c).1 = .ok (.write target content blocks) := by
  have hplan : plan roots template spec names c =
      ((planContent spec.content names >>= fun planned =>
        pure (Operation.write target planned.1 planned.2) : Step Operation) c₁) := by
    rw [plan]
    change Step.bind _ _ c = _
    rw [Step.bind, hpath]
    simp only [hfile, hown, hsome]
    rfl
  rw [hplan]
  change (Step.bind _ _ c₁).1 = _
  rw [Step.bind]
  cases hresult : planContent spec.content names c₁ with
  | mk result c₂ =>
    rw [hresult] at hcontent
    subst hcontent
    rfl

theorem run_bind {α β : Type} (s : Surroundings) (m : Machine) (x : System α) (f : α → System β) :
    m.run s (x >>= f) = (m.run s x).2.run s (f (m.run s x).1) :=
  Dialogue.run_bind (Machine.answer s) x f m

/-- Where the directories that lead to a target can be made, nothing stands in the way of what
follows. -/
theorem run_below {s : Surroundings} {m m₁ : Machine} {target : String}
    (hparents : m.run s (System.makeParents target) = (.ok (), m₁))
    (next : System (Except Error Unit)) : m.run s (below target next) = m₁.run s next := by
  rw [below, run_bind, hparents]

/-- A write whose blocks match its markers is done where the target leads. -/
theorem run_apply_write {s : Surroundings} {template target : String} {content written : Bytes}
    {blocks : List Bytes} {m m₁ : Machine} {place : Place}
    (hspliced : Splice.splice content blocks = ⟨written, [], none⟩)
    (hparents : m.run s (System.makeParents target) = (.ok (), m₁))
    (hwritable : m₁.tree.writable target = .ok place) :
    (m.run s (apply template (.write target content blocks))).1 = .ok () ∧
      (m.run s (apply template (.write target content blocks))).2.tree =
        m₁.tree.set place (.file written) := by
  have hwrite : m₁.tree.write target written = .ok (m₁.tree.set place (.file written)) := by
    rw [FileTree.write, hwritable]
    rfl
  have hrun : m₁.run s (System.write target written) =
      (.ok (), ⟨m₁.tree.set place (.file written), .write target written :: m₁.journal⟩) := by
    change (Machine.answer s (.write target written) m₁) = _
    rw [Machine.answer, Machine.reply, hwrite]
    rfl
  rw [apply, run_below hparents]
  dsimp only
  rw [run_bind, hspliced, hrun]
  exact ⟨rfl, rfl⟩

/-- The blocks of a file arrive in it. Where the content of a template, evaluated with an empty
queue, queues blocks and renders to a text with a marker for each of them, exactly these blocks are
planned; and where the target can be created and written, the planned write succeeds and leaves the
segments of the text with the blocks in between, whatever was there before, and nothing else. -/
theorem plan_and_apply_spliced (roots : Roots) (template : String) (spec : FileSpec)
    (names : Bindings) (c c₁ : Context) (target : String) (pieces : List (String × Bytes))
    (last : String) (hpath : planPath roots template names c = (.ok target, c₁))
    (hempty : c₁.writes = []) (hfile : spec.isDir = false)
    (hown : Text.isBlankText spec.path = true) (hsome : spec.content.isEmpty = false)
    (hqueued : queuedBlocks spec.content names c₁ = pieces.map Prod.snd)
    (hrendered : (evaluateContent spec.content names c₁).1.map Evaluated.text =
      .ok (Splice.marked pieces last))
    (hseparable : Splice.Separable pieces last) :
    ∃ operation, (plan roots template spec names c).1 = .ok operation ∧
      operation = .write target (Utf8.ofString (Splice.marked pieces last))
        (pieces.map Prod.snd) ∧
      ∀ (s : Surroundings) (m m₁ : Machine) (place : Place),
        m.run s (System.makeParents target) = (.ok (), m₁) →
        m₁.tree.writable target = .ok place →
        (m.run s (apply template operation)).1 = .ok () ∧
          ∀ p, FileTree.entry? (m.run s (apply template operation)).2.tree p =
            if p = place then some (.file (Splice.spliced pieces last))
            else m₁.tree.entry? p := by
  have hcontent := planContent_eq_ok hempty hrendered
  rw [hqueued] at hcontent
  refine ⟨_, plan_content hpath hfile hown hsome hcontent, rfl, ?_⟩
  intro s m m₁ place hparents hwritable
  obtain ⟨hok, htree⟩ :=
    run_apply_write (Splice.splice_marked hseparable) hparents hwritable
  refine ⟨hok, fun p => ?_⟩
  rw [htree]
  exact FileTree.entry?_set m₁.tree (FileTree.ne_nil_of_writableWithin hwritable) _ p

/-- A file of text around two blocks. -/
def blockFile : FileSpec where
  content := "A\x7b\x7b writeBytes([0, 255]) \x7d\x7dB\x7b\x7b writeBytes([1, 2]) \x7d\x7d"

/-- A context in which nothing has happened yet. -/
def pristine : Context where
  document := {}
  project := {}

/-- Surroundings that do nothing. -/
def idle : Surroundings where
  network _ _ := .error "offline"
  executor _ tree := ({}, tree)

/-- Two blocks arrive in a new file in a new directory. -/
theorem plan_and_apply_spliced_blockFile :
    ∃ operation,
      (plan ⟨"out", "."⟩ "f" blockFile (.standard {}) pristine).1 = .ok operation ∧
      FileTree.entry? ((Machine.mk {} []).run idle (apply "f" operation)).2.tree ["out", "f"] =
        some (.file [65, 0, 255, 66, 1, 2]) := by
  have htarget : (planPath ⟨"out", "."⟩ "f" (.standard {}) pristine).1 = .ok "out/f" := by
    decide +kernel
  obtain ⟨operation, hplan, -, happly⟩ := plan_and_apply_spliced ⟨"out", "."⟩ "f" blockFile
    (.standard {}) pristine _ "out/f" [("A", [0, 255]), ("B", [1, 2])] "" (Prod.ext htarget rfl)
    (by decide +kernel) rfl (by decide +kernel) (by decide +kernel) (by decide +kernel)
    (by decide +kernel) ⟨by decide +kernel, by decide +kernel⟩
  have hparents : ((Machine.mk {} []).run idle (System.makeParents "out/f")).1 = .ok () := by
    decide +kernel
  obtain ⟨-, hfile⟩ := happly idle ⟨{}, []⟩ _ ["out", "f"] (Prod.ext hparents rfl)
    (by decide +kernel)
  refine ⟨operation, hplan, (hfile _).trans ?_⟩
  decide +kernel

end Emission

end Scaffold

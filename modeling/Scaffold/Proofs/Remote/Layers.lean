import Scaffold.Expr.Filter.Data
import Scaffold.Proofs.Encoding.Digits
import Scaffold.Proofs.Remote.Stages

/-!
# Layers — bytes that were encoded several times over

A layer is one encoding of bytes as a text, with blanks around the text; the bytes of that text are
what the next layer is put around. A stage takes one layer off, whatever number of text stages
stands in front of it (`Layer.foldlM_stages`), so that the stages of all layers, the outermost one
first, are left with the bytes inside (`foldlM_undoing`). The filters of expressions undo each other
in the same way, for bytes and for sequences of numbers (`hexdec_hexenc`, `b64dec_b64enc`).
-/

set_option autoImplicit false

namespace Scaffold.Pipeline

open Scaffold.Text (Blanks)

/-! ## One layer -/

/-- How bytes are written as a text: with digits, those at some places as capitals, or in Base64. -/
inductive Coding
  | hex (capital : Nat → Bool)
  | base64

/-- The text that bytes are written as. -/
def Coding.write : Coding → Bytes → List Char
  | .hex capital, b => Hex.encodeCased capital b
  | .base64, b => Base64.encode b

/-- The stage that reads such a text. -/
def Coding.stage : Coding → Stage
  | .hex _ => .hex
  | .base64 => .base64

/-- The name of that stage. -/
def Coding.name : Coding → String
  | .hex _ => "hex"
  | .base64 => "base64"

/-- An encoding with the blanks around its text, and the number of text stages in front of the stage
that undoes it. -/
structure Layer where
  coding : Coding
  front : List Char
  behind : List Char
  texts : Nat
  front_blank : Blanks front
  behind_blank : Blanks behind

namespace Layer

/-- The text around bytes. -/
def text (l : Layer) (b : Bytes) : List Char :=
  l.front ++ l.coding.write b ++ l.behind

/-- Puts a layer around bytes. -/
def wrap (l : Layer) (b : Bytes) : Bytes :=
  Utf8.encode (l.text b)

/-- The stages that take a layer off. -/
def stages (l : Layer) : List String :=
  List.replicate l.texts "text" ++ [l.coding.name]

end Layer

theorem Coding.ofName?_name (coding : Coding) :
    Stage.ofName? coding.name = some coding.stage := by
  cases coding <;> rfl

theorem Coding.not_isBlank_of_mem {coding : Coding} {b : Bytes} {c : Char}
    (h : c ∈ coding.write b) : Text.isBlank c = false := by
  cases coding with
  | hex capital => exact Hex.not_isBlank_of_mem h
  | base64 => exact Base64.not_isBlank_of_mem h

/-- Without the blanks around it, the text of a layer is what was written. -/
theorem Layer.trimChars_text (l : Layer) (b : Bytes) :
    Text.trimChars (l.text b) = l.coding.write b := by
  rw [Layer.text, Text.trimChars_pad l.front_blank l.behind_blank,
    Text.trimChars_of_not_isBlank fun c => Coding.not_isBlank_of_mem]

/-- A stage reads what was written for it. -/
theorem Coding.run_stage {coding : Coding} {b : Bytes} {p : Payload}
    (h : p.trimmed = Utf8.encode (coding.write b)) : coding.stage.run p = .ok (.bytes b) := by
  cases coding with
  | hex capital =>
    change p.trimmed = Utf8.encode (Hex.encodeCased capital b) at h
    simp only [Coding.stage, Stage.run, h, Hex.decode_encodeCased]
  | base64 =>
    change p.trimmed = Utf8.encode (Base64.encode b) at h
    simp only [Coding.stage, Stage.run, h, Base64.decode_encode]

/-- Text stages do not change what a payload is read as. -/
theorem foldlM_texts (n : Nat) (p : Payload) :
    ∃ p', (List.replicate n "text").foldlM runNamed p = .ok p' ∧ p'.readable = p.readable := by
  induction n generalizing p with
  | zero => exact ⟨p, rfl, rfl⟩
  | succ n ih =>
    obtain ⟨p', hfold, hread⟩ := ih (.text p.readable)
    refine ⟨p', ?_, hread⟩
    rw [List.replicate_succ, List.foldlM_cons]
    exact hfold

/-- The stages of a layer take it off. -/
theorem Layer.foldlM_stages (l : Layer) (b : Bytes) :
    l.stages.foldlM runNamed (.bytes (l.wrap b)) = .ok (.bytes b) := by
  obtain ⟨p, hfold, hread⟩ := foldlM_texts l.texts (.bytes (l.wrap b))
  have htext : p.readable = String.ofList (l.text b) := by
    rw [hread, Payload.readable, Layer.wrap, Utf8.toStringLossy, Utf8.decodeLossy_encode]
  have htrimmed : p.trimmed = Utf8.encode (l.coding.write b) := by
    rw [Payload.trimmed, htext, Utf8.ofString, Text.trim, String.toList_ofList,
      String.toList_ofList, l.trimChars_text]
  rw [Layer.stages, List.foldlM_append, hfold]
  change [l.coding.name].foldlM runNamed p = _
  simp only [List.foldlM_cons, List.foldlM_nil, bind_pure, runNamed, l.coding.ofName?_name,
    Coding.run_stage htrimmed]

/-! ## All layers -/

/-- Puts layers around bytes, the first one innermost. -/
def wrapAll (layers : List Layer) (b : Bytes) : Bytes :=
  layers.foldl (fun b l => l.wrap b) b

/-- The stages that take layers off, those of the last one first. -/
def undoing (layers : List Layer) : List String :=
  layers.reverse.flatMap Layer.stages

theorem undoing_cons (l : Layer) (layers : List Layer) :
    undoing (l :: layers) = undoing layers ++ l.stages := by
  rw [undoing, List.reverse_cons, List.flatMap_append, List.flatMap_singleton, undoing]

/-- What is left under all layers are the bytes that they were put around. -/
theorem foldlM_undoing (layers : List Layer) (b : Bytes) :
    (undoing layers).foldlM runNamed (.bytes (wrapAll layers b)) = .ok (.bytes b) := by
  induction layers generalizing b with
  | nil => rfl
  | cons l layers ih =>
    rw [undoing_cons, List.foldlM_append]
    change (undoing layers).foldlM runNamed (.bytes (wrapAll layers (l.wrap b))) >>= _ = _
    rw [ih (l.wrap b)]
    exact l.foldlM_stages b

/-- The stages of layers are named as they are written. -/
theorem stageNames_undoing (layers : List Layer) :
    stageNames (joined ((undoing layers).map String.toList)) = undoing layers := by
  have hname : ∀ name ∈ undoing layers,
      '|' ∉ name.toList ∧ nameOf name.toList = name ∧ name.isEmpty = false := by
    intro name hmem
    obtain ⟨l, -, hstage⟩ := List.mem_flatMap.1 hmem
    rcases List.mem_append.1 hstage with htext | hcoding
    · rw [List.eq_of_mem_replicate htext]
      decide
    · rw [List.mem_singleton.1 hcoding]
      have hcodings : ∀ name ∈ ["hex", "base64"],
          '|' ∉ name.toList ∧ nameOf name.toList = name ∧ name.isEmpty = false := by decide
      refine hcodings _ ?_
      cases l.coding <;> simp [Coding.name]
  rw [stageNames_joined, List.map_map, List.map_congr_left (g := id), List.map_id,
    List.filter_eq_self.2]
  · intro name hmem
    rw [(hname name hmem).2.2]
    rfl
  · exact fun name hmem => (hname name hmem).2.1
  · intro piece hmem
    obtain ⟨name, hname', rfl⟩ := List.mem_map.1 hmem
    exact (hname name hname').1

end Scaffold.Pipeline

/-! ## Filters -/

namespace Scaffold.Expr.Filter

/-- A value holds bytes: it is bytes, or the sequence of them as numbers, each in either kind of
word. -/
inductive Holds (b : Bytes) : Value → Prop
  | bytes : Holds b (.bytes b)
  | seq {items : List Value} {identity : Identity}
      (h : List.Forall₂ (fun item (byte : UInt8) => ∃ signed, item = .int byte.toNat signed)
        items b) :
      Holds b (.seq items identity)

theorem fits_byte (byte : UInt8) : fits 64 byte.toNat = true := by
  have hbyte : byte.toNat < 256 := byte.toNat_lt
  have hpow : Nat.pow 2 (64 - 1) = 9223372036854775808 := by decide
  rw [fits, hpow, Bool.and_eq_true, decide_eq_true_eq, decide_eq_true_eq]
  omega

theorem byteOf?_int (byte : UInt8) (signed : Bool) :
    byteOf? (.int byte.toNat signed) = some byte := by
  have hbyte : byte.toNat < 256 := byte.toNat_lt
  have hinteger : Value.integer? 64 (.int byte.toNat signed) = some (byte.toNat : Int) := by
    simp only [Value.integer?, fits_byte, if_true]
  rw [byteOf?, hinteger]
  change (if byte.toNat < 256 then some byte.toNat.toUInt8 else none) = some byte
  rw [if_pos hbyte, toUInt8_toNat]

/-- The bytes that a value holds are those that are encoded. -/
theorem Holds.bytesOf?_eq {b : Bytes} {v : Value} (h : Holds b v) : bytesOf? v = some b := by
  cases h with
  | bytes => rfl
  | @seq items identity h =>
    change items.mapM byteOf? = some b
    induction h with
    | nil => rfl
    | @cons item byte items b hitem _ ih =>
      obtain ⟨signed, rfl⟩ := hitem
      rw [List.mapM_cons, byteOf?_int, ih]
      rfl

theorem encodeWith_eq {b : Bytes} {v : Value} (h : Holds b v) (expects : String)
    (encode : Bytes → List Char) :
    encodeWith expects encode ⟨[v], none⟩ = pure (.text (String.ofList (encode b))) := by
  simp [encodeWith, Params.positional, Params.value, Params.next?, Params.noMore, Arguments.flat,
    h.bytesOf?_eq]

/-- A filter that takes a text does with a text what it says. -/
theorem positional_text {f : String → Params Value} {text : String} {v : Value}
    (h : f text = pure v) :
    Params.positional
      (Params.takeAs Params.asText >>= fun text => Params.noMore >>= fun _ => f text)
      ⟨[.text text], none⟩ = .ok v := by
  refine Params.positional_of_run ?_
  simp only [StateT.run_bind, Params.run_takeAs, Params.asText_text, Params.run_noMore,
    StateT.run_pure, pure_bind, h]

/-- A text without blanks is read as it is. -/
theorem ofString_trim {text : List Char} (h : ∀ c ∈ text, Text.isBlank c = false) :
    Utf8.ofString (Text.trim (String.ofList text)) = Utf8.encode text := by
  rw [Utf8.ofString, Text.trim, String.toList_ofList, String.toList_ofList,
    Text.trimChars_of_not_isBlank h]

/-- What was written with digits is read as the bytes that it was written for. -/
theorem hexdec_hexenc {b : Bytes} {v : Value} (h : Holds b v) :
    (hexenc ⟨[v], none⟩ >>= fun text => hexdec ⟨[text], none⟩) = .ok (.bytes b) := by
  have hblank : ∀ c ∈ Hex.encode b, Text.isBlank c = false := by
    rw [← Hex.encodeCased_lower]
    exact fun c => Hex.not_isBlank_of_mem
  rw [hexenc, encodeWith_eq h, pure_bind, hexdec]
  refine positional_text ?_
  rw [ofString_trim hblank, Hex.decode_encode]

/-- What was written with symbols is read as the bytes that it was written for. -/
theorem b64dec_b64enc {b : Bytes} {v : Value} (h : Holds b v) :
    (b64enc ⟨[v], none⟩ >>= fun text => b64dec ⟨[text], none⟩) = .ok (.bytes b) := by
  rw [b64enc, encodeWith_eq h, pure_bind, b64dec]
  refine positional_text ?_
  rw [ofString_trim fun c => Base64.not_isBlank_of_mem, Base64.decode_encode]

end Scaffold.Expr.Filter

/-! ## Bytes come back -/

namespace Scaffold.Pipeline

open Scaffold.Text (Blanks)

open Expr.Filter in
/-- The stages that undo the layers around bytes, however they are spelled, give the bytes back, and
so do the filters that decode for bytes that the filters that encode were given. -/
theorem run_wrapAll {layers : List Layer} {pieces : List (List Char)}
    (h : Respelled ((undoing layers).map String.toList) pieces) (b : Bytes) :
    run (joined pieces) (wrapAll layers b) = .ok (.bytes b) ∧
    ∀ v, Holds b v →
      (hexenc ⟨[v], none⟩ >>= fun text => hexdec ⟨[text], none⟩) = .ok (.bytes b) ∧
      (b64enc ⟨[v], none⟩ >>= fun text => b64dec ⟨[text], none⟩) = .ok (.bytes b) := by
  refine ⟨?_, fun v hv => ⟨hexdec_hexenc hv, b64dec_b64enc hv⟩⟩
  rw [run_eq, ← stageNames_of_respelled h, stageNames_undoing, foldlM_undoing]
  rfl

/-- Capital digits with a line break behind them, and all that in Base64 behind a blank. -/
def twoLayers : List Layer :=
  [⟨.hex fun _ => true, [], ['\n'], 1, by decide, by decide⟩,
    ⟨.base64, [' '], [], 0, by decide, by decide⟩]

/-- A parser text for two layers, with a blank piece and one name in capital letters. -/
theorem run_wrapAll_twoLayers :
    Respelled ((undoing twoLayers).map String.toList)
      ["BASE64 ".toList, " ".toList, "text".toList, " hex".toList] ∧
    run (joined ["BASE64 ".toList, " ".toList, "text".toList, " hex".toList])
      (wrapAll twoLayers [0xAB, 0x00]) = .ok (.bytes [0xAB, 0x00]) := by
  have hspelled : Respelled ((undoing twoLayers).map String.toList)
      ["BASE64 ".toList, " ".toList, "text".toList, " hex".toList] := by
    have hempty : Blanks [] := by decide
    have hblank : Blanks [' '] := by decide
    have hbase64 : IsName "base64".toList := ⟨by decide, by decide⟩
    have hcapitals : IsName "BASE64".toList := ⟨by decide, by decide⟩
    have htext : IsName "text".toList := ⟨by decide, by decide⟩
    have hhex : IsName "hex".toList := ⟨by decide, by decide⟩
    have hcase : SameLetters "base64".toList "BASE64".toList := .inr (by decide +kernel)
    have hthird := Respelled.stage hempty hempty hblank hempty hhex hhex (.inr rfl) .nil
    have hsecond := Respelled.stage hempty hempty hempty hempty htext htext (.inr rfl) hthird
    exact Respelled.stage hempty hempty hempty hblank hbase64 hcapitals hcase
      (.blankRight hblank hsecond)
  exact ⟨hspelled, (run_wrapAll hspelled [0xAB, 0x00]).1⟩

end Scaffold.Pipeline

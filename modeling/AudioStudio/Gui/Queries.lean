import AudioStudio.Gui.HttpFiles
import Mathlib.Logic.Function.Basic

/-!
# Query strings

`parseQuery` of `http_server.cpp` as the automaton that it is, and the encodings that it reads
back.
-/

namespace AudioStudio

open LittleEndian

/-! ## The automaton -/

/-- The state of the loop: what stands before and behind the first `=` of a piece. -/
structure QueryScan where
  key : Bytes := []
  val : Bytes := []
  inVal : Bool := false
  out : Bytes → Option Bytes := fun _ => none

namespace QueryScan

/-- The end of a piece; one without a key assigns nothing. -/
def assign (scan : QueryScan) : QueryScan where
  out :=
    if scan.key = [] then scan.out
    else Function.update scan.out (Gui.urlDecode scan.key) (some (Gui.urlDecode scan.val))

def step (scan : QueryScan) (c : UInt8) : QueryScan :=
  if c = 0x26 then scan.assign
  else if c = 0x3d ∧ scan.inVal = false then { scan with inVal := true }
  else if scan.inVal = false then { scan with key := scan.key ++ [c] }
  else { scan with val := scan.val ++ [c] }

end QueryScan

/-- The assignments that the loop has made behind the end of the query, which counts as `&`. -/
def HttpServer.parseQuery (q : Bytes) : Bytes → Option Bytes :=
  ((q ++ [0x26]).foldl QueryScan.step {}).out

namespace Gui

/-! ## Encodings -/

/-- Letters, digits, and `-`, `.`, `_`, `~`. -/
def IsUnreserved (c : UInt8) : Prop :=
  isAlnum c = true ∨ c = 0x2d ∨ c = 0x2e ∨ c = 0x5f ∨ c = 0x7e

/-- A hexadecimal digit in either case. -/
inductive IsHexDigit : UInt8 → Nat → Prop where
  | decimal {value : Nat} (hvalue : value < 10) : IsHexDigit (0x30 + value.toUInt8) value
  | upper {value : Nat} (hvalue : value < 6) : IsHexDigit (0x41 + value.toUInt8) (10 + value)
  | lower {value : Nat} (hvalue : value < 6) : IsHexDigit (0x61 + value.toUInt8) (10 + value)

inductive EncodesByte : UInt8 → Bytes → Prop where
  | plain {c : UInt8} (hplain : IsUnreserved c) : EncodesByte c [c]
  | space : EncodesByte 0x20 [0x2b]
  | percent {c high low : UInt8} (hhigh : IsHexDigit high (c.toNat / 16))
      (hlow : IsHexDigit low (c.toNat % 16)) : EncodesByte c [0x25, high, low]

inductive Encodes : Bytes → Bytes → Prop where
  | nil : Encodes [] []
  | cons {c : UInt8} {value piece text : Bytes} (hpiece : EncodesByte c piece)
      (htext : Encodes value text) : Encodes (c :: value) (piece ++ text)

/-- Pairs that are joined by `&` in their order. -/
inductive EncodesPairs : List (Bytes × Bytes) → Bytes → Prop where
  | nil : EncodesPairs [] []
  | one {key value keyText valueText : Bytes} (hkey : Encodes key keyText)
      (hvalue : Encodes value valueText) :
      EncodesPairs [(key, value)] (keyText ++ 0x3d :: valueText)
  | cons {key value keyText valueText rest : Bytes} {pair : Bytes × Bytes}
      {pairs : List (Bytes × Bytes)} (hkey : Encodes key keyText)
      (hvalue : Encodes value valueText) (hrest : EncodesPairs (pair :: pairs) rest) :
      EncodesPairs ((key, value) :: pair :: pairs)
        (keyText ++ 0x3d :: (valueText ++ 0x26 :: rest))

/-- The pairs of a finite map, in any order. -/
structure Lists (pairs : List (Bytes × Bytes)) (map : Bytes → Option Bytes) : Prop where
  distinct : (pairs.map Prod.fst).Nodup
  entries : ∀ key value, (key, value) ∈ pairs ↔ map key = some value

/-! ## Decoding -/

theorem hexValue_digit {digit : UInt8} {value : Nat} (hdigit : IsHexDigit digit value) :
    hexValue digit = some value.toUInt8 := by
  cases hdigit with
  | decimal hvalue =>
      revert hvalue
      revert value
      decide
  | upper hvalue =>
      rename_i value
      revert hvalue
      revert value
      decide
  | lower hvalue =>
      rename_i value
      revert hvalue
      revert value
      decide

variable {c : UInt8}

theorem urlDecode_self (hplus : c ≠ 0x2b) (hpercent : c ≠ 0x25) (rest : Bytes) :
    urlDecode (c :: rest) = c :: urlDecode rest := by
  match rest with
  | [] => simp [urlDecode, hplus]
  | [last] => simp [urlDecode, hplus]
  | high :: low :: rest => rw [urlDecode, if_neg hplus, if_neg hpercent]

theorem urlDecode_plus (rest : Bytes) : urlDecode (0x2b :: rest) = 0x20 :: urlDecode rest := by
  match rest with
  | [] => rfl
  | [last] => rfl
  | high :: low :: rest => rw [urlDecode, if_pos rfl]

theorem ne_of_unreserved {other : UInt8} (hplain : IsUnreserved c) (hother : ¬IsUnreserved other) :
    c ≠ other :=
  fun heq => hother (heq ▸ hplain)

theorem urlDecode_piece {piece : Bytes} (hpiece : EncodesByte c piece) (rest : Bytes) :
    urlDecode (piece ++ rest) = c :: urlDecode rest := by
  cases hpiece with
  | plain hplain =>
      refine urlDecode_self (ne_of_unreserved hplain ?_) (ne_of_unreserved hplain ?_) rest
      · unfold IsUnreserved; decide
      · unfold IsUnreserved; decide
  | space => exact urlDecode_plus rest
  | percent hhigh hlow =>
      have hvalue : (c.toNat / 16).toUInt8 * 16 + (c.toNat % 16).toUInt8 = c := by
        rw [← UInt8.toNat_inj]
        have hlt := c.toNat_lt
        simp
        omega
      change urlDecode (0x25 :: _ :: _ :: rest) = _
      rw [urlDecode, if_neg (by decide), if_pos rfl, hexValue_digit hhigh, hexValue_digit hlow]
      dsimp only
      rw [hvalue]

variable {value text : Bytes}

theorem urlDecode_encoded (htext : Encodes value text) : urlDecode text = value := by
  induction htext with
  | nil => rfl
  | cons hpiece _ ih => rw [urlDecode_piece hpiece, ih]

/-! ## Scanning -/

theorem hexDigit_separates {digit : UInt8} {value : Nat} (hdigit : IsHexDigit digit value) :
    digit ≠ 0x26 ∧ digit ≠ 0x3d := by
  have hvalue := hexValue_digit hdigit
  constructor
  · rintro rfl
    cases hvalue
  · rintro rfl
    cases hvalue

/-- An encoded text has no separators. -/
theorem encoded_separates (htext : Encodes value text) : ∀ c ∈ text, c ≠ 0x26 ∧ c ≠ 0x3d := by
  induction htext with
  | nil => rintro _ ⟨⟩
  | cons hpiece _ ih =>
      refine List.forall_mem_append.mpr ⟨?_, ih⟩
      cases hpiece with
      | plain hplain =>
          refine List.forall_mem_singleton.mpr ⟨ne_of_unreserved hplain ?_, ne_of_unreserved hplain ?_⟩
          · unfold IsUnreserved; decide
          · unfold IsUnreserved; decide
      | space => exact List.forall_mem_singleton.mpr ⟨by decide, by decide⟩
      | percent hhigh hlow =>
          refine List.forall_mem_cons.mpr ⟨⟨by decide, by decide⟩, ?_⟩
          refine List.forall_mem_cons.mpr ⟨?_, List.forall_mem_singleton.mpr ?_⟩
          · exact hexDigit_separates hhigh
          · exact hexDigit_separates hlow

theorem encoded_ne_nil (htext : Encodes value text) (hne : value ≠ []) : text ≠ [] := by
  rintro rfl
  exact hne (urlDecode_encoded htext).symm

theorem foldl_key (htext : ∀ c ∈ text, c ≠ 0x26 ∧ c ≠ 0x3d) (scan : QueryScan)
    (hmode : scan.inVal = false) :
    text.foldl QueryScan.step scan = { scan with key := scan.key ++ text } := by
  induction text generalizing scan with
  | nil => rw [List.foldl_nil, List.append_nil]
  | cons c text ih =>
      obtain ⟨⟨hamp, hequals⟩, hrest⟩ := List.forall_mem_cons.mp htext
      have hstep : scan.step c = { scan with key := scan.key ++ [c] } := by
        rw [QueryScan.step, if_neg hamp, if_neg fun hboth => hequals hboth.1, if_pos hmode]
      rw [List.foldl_cons, hstep, ih hrest { scan with key := scan.key ++ [c] } hmode]
      simp

theorem foldl_val (htext : ∀ c ∈ text, c ≠ 0x26) (scan : QueryScan) (hmode : scan.inVal = true) :
    text.foldl QueryScan.step scan = { scan with val := scan.val ++ text } := by
  induction text generalizing scan with
  | nil => rw [List.foldl_nil, List.append_nil]
  | cons c text ih =>
      obtain ⟨hamp, hrest⟩ := List.forall_mem_cons.mp htext
      have hstep : scan.step c = { scan with val := scan.val ++ [c] } := by
        rw [QueryScan.step, if_neg hamp, hmode, if_neg fun hboth => Bool.noConfusion hboth.2,
          if_neg Bool.noConfusion]
      rw [List.foldl_cons, hstep, ih hrest { scan with val := scan.val ++ [c] } hmode]
      simp

variable {key : Bytes}

/-- One pair and the separator behind it make one assignment. -/
theorem foldl_pair {keyText valueText : Bytes} (hkey : Encodes key keyText)
    (hvalue : Encodes value valueText) (hne : key ≠ []) (out : Bytes → Option Bytes) (rest : Bytes)
    :
    (keyText ++ 0x3d :: (valueText ++ 0x26 :: rest)).foldl QueryScan.step { out } =
      rest.foldl QueryScan.step { out := Function.update out key (some value) } := by
  have hequals : QueryScan.step { key := keyText, out } 0x3d =
      { key := keyText, inVal := true, out } := rfl
  rw [List.foldl_append, foldl_key (encoded_separates hkey) _ rfl, List.foldl_cons,
    List.nil_append, hequals, List.foldl_append,
    foldl_val (fun c hmem => (encoded_separates hvalue c hmem).1) _ rfl, List.nil_append,
    List.foldl_cons, QueryScan.step, if_pos rfl, QueryScan.assign,
    if_neg (encoded_ne_nil hkey hne), urlDecode_encoded hkey, urlDecode_encoded hvalue]

def assignPair (out : Bytes → Option Bytes) (pair : Bytes × Bytes) : Bytes → Option Bytes :=
  Function.update out pair.1 (some pair.2)

variable {pairs : List (Bytes × Bytes)}

theorem foldl_pairs (hpairs : EncodesPairs pairs text) (hne : ∀ pair ∈ pairs, pair.1 ≠ [])
    (out : Bytes → Option Bytes) :
    ((text ++ [0x26]).foldl QueryScan.step { out }).out =
      pairs.foldl assignPair out := by
  induction hpairs generalizing out with
  | nil => rfl
  | one hkey hvalue =>
      rw [List.append_assoc, List.cons_append,
        foldl_pair hkey hvalue (hne _ (List.mem_singleton_self _)) out []]
      rfl
  | cons hkey hvalue _ ih =>
      obtain ⟨hfirst, hrest⟩ := List.forall_mem_cons.mp hne
      rw [List.append_assoc, List.cons_append, List.append_assoc, List.cons_append,
        foldl_pair hkey hvalue hfirst, ih hrest]
      rfl

/-! ## Maps -/

theorem foldl_update_absent (hkey : key ∉ pairs.map Prod.fst) (out : Bytes → Option Bytes) :
    pairs.foldl assignPair out key = out key := by
  induction pairs generalizing out with
  | nil => rfl
  | cons pair pairs ih =>
      rw [List.map_cons, List.mem_cons, not_or] at hkey
      rw [List.foldl_cons, ih hkey.2, assignPair, Function.update_of_ne hkey.1]

theorem foldl_update_mem (hdistinct : (pairs.map Prod.fst).Nodup) (hmem : (key, value) ∈ pairs)
    (out : Bytes → Option Bytes) :
    pairs.foldl assignPair out key =
      some value := by
  induction pairs generalizing out with
  | nil => cases hmem
  | cons pair pairs ih =>
      rw [List.map_cons, List.nodup_cons] at hdistinct
      rcases List.mem_cons.mp hmem with rfl | hrest
      · rw [List.foldl_cons, foldl_update_absent hdistinct.1, assignPair, Function.update_self]
      · rw [List.foldl_cons, ih hdistinct.2 hrest]

theorem Lists.foldl_update {map : Bytes → Option Bytes} (hlists : Lists pairs map) :
    pairs.foldl assignPair (fun _ => none) =
      map := by
  funext key
  cases hvalue : map key with
  | some value => exact foldl_update_mem hlists.distinct ((hlists.entries key value).mpr hvalue) _
  | none =>
      refine foldl_update_absent (fun hmem => ?_) _
      obtain ⟨⟨_, value⟩, hpair, rfl⟩ := List.mem_map.mp hmem
      rw [(hlists.entries _ value).mp hpair] at hvalue
      cases hvalue

/-- Every encoding of a finite map with non-empty keys is read as that map. -/
theorem parseQuery_encoded {pairs : List (Bytes × Bytes)} {map : Bytes → Option Bytes}
    {text : Bytes} (hlists : Lists pairs map) (hne : ∀ key, map key ≠ none → key ≠ [])
    (htext : EncodesPairs pairs text) : HttpServer.parseQuery text = map := by
  rw [HttpServer.parseQuery, foldl_pairs htext, hlists.foldl_update]
  intro pair hmem
  refine hne pair.1 fun hnone => ?_
  rw [(hlists.entries pair.1 pair.2).mp hmem] at hnone
  cases hnone

/-- The name of an edge, with the arrow in it escaped. -/
theorem parseQuery_encoded_edge :
    HttpServer.parseQuery (asciiBytes "e=a%2D%3eb") =
      Function.update (fun _ => none) (asciiBytes "e") (some (asciiBytes "a->b")) := by
  have hletter (c : UInt8) (hc : isAlnum c = true) : EncodesByte c [c] := .plain (.inl hc)
  have hkey : Encodes (asciiBytes "e") (asciiBytes "e") :=
    .cons (hletter 0x65 (by decide)) .nil
  have hdash : EncodesByte 0x2d [0x25, 0x32, 0x44] :=
    .percent (@IsHexDigit.decimal 2 (by decide)) (@IsHexDigit.upper 3 (by decide))
  have hangle : EncodesByte 0x3e [0x25, 0x33, 0x65] :=
    .percent (@IsHexDigit.decimal 3 (by decide)) (@IsHexDigit.lower 4 (by decide))
  have hvalue : Encodes (asciiBytes "a->b") (asciiBytes "a%2D%3eb") :=
    .cons (hletter 0x61 (by decide)) (.cons hdash (.cons hangle
      (.cons (hletter 0x62 (by decide)) .nil)))
  have hlists : Lists [(asciiBytes "e", asciiBytes "a->b")]
      (Function.update (fun _ => none) (asciiBytes "e") (some (asciiBytes "a->b"))) := by
    refine ⟨by simp, fun key value => ?_⟩
    by_cases he : key = asciiBytes "e"
    · subst he
      simp [eq_comm]
    · simp [he]
  refine parseQuery_encoded hlists (fun key hsome => ?_) (.one hkey hvalue)
  rintro rfl
  exact hsome (Function.update_of_ne (by decide) _ _)

end Gui

end AudioStudio

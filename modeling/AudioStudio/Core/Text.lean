import AudioStudio.Core.LittleEndian
import Mathlib.Data.Nat.Digits.Defs

/-!
# Text

Strings of the sources are byte strings; their literals are ASCII.
-/

namespace AudioStudio

open LittleEndian

/-- The characters of an ASCII literal as bytes. -/
def asciiBytes (literal : String) : Bytes :=
  literal.toList.map fun char => char.toNat.toUInt8

/-! ## Character classes of the C locale -/

/-- `std::tolower` in the C locale. -/
def toLower (byte : UInt8) : UInt8 :=
  if 0x41 ≤ byte ∧ byte ≤ 0x5a then byte + 0x20 else byte

/-- `std::isspace` in the C locale. -/
def isSpace (byte : UInt8) : Bool :=
  byte = 0x20 ∨ 0x09 ≤ byte ∧ byte ≤ 0x0d

/-- `std::isdigit`. -/
def isDigit (byte : UInt8) : Bool :=
  0x30 ≤ byte ∧ byte ≤ 0x39

/-- `std::isalnum` in the C locale. -/
def isAlnum (c : UInt8) : Bool :=
  (0x41 ≤ c ∧ c ≤ 0x5a) ∨ (0x61 ≤ c ∧ c ≤ 0x7a) ∨ (0x30 ≤ c ∧ c ≤ 0x39)

theorem isSpace_of_isDigit {byte : UInt8} (hdigit : isDigit byte = true) : isSpace byte = false := by
  simp only [isDigit, isSpace, decide_eq_true_eq, decide_eq_false_iff_not] at hdigit ⊢
  rintro (rfl | ⟨_, hupper⟩)
  · exact absurd hdigit.1 (by decide)
  · exact absurd (UInt8.le_trans hdigit.1 hupper) (by decide)

/-! ## Searching -/

/-- `std::string::find`: the first position of a key. -/
def findText (key : Bytes) : Bytes → Option Nat
  | [] => if key = [] then some 0 else none
  | byte :: rest =>
      if key.isPrefixOf (byte :: rest) then some 0 else (findText key rest).map (· + 1)

variable {key text : Bytes}

theorem findText_eq_none (habsent : ¬ key <:+: text) : findText key text = none := by
  induction text with
  | nil =>
      unfold findText
      rw [if_neg]
      rintro rfl
      exact habsent (List.infix_refl [])
  | cons byte rest ih =>
      have hprefix : ¬ key <+: byte :: rest := fun hkey => habsent hkey.isInfix
      have hrest : ¬ key <:+: rest := fun hkey => habsent (hkey.trans (List.suffix_cons byte rest).isInfix)
      unfold findText
      rw [if_neg (by rwa [List.isPrefixOf_iff_prefix]), ih hrest]
      rfl

theorem findText_prefix {rest : Bytes} (hkey : key ≠ []) : findText key (key ++ rest) = some 0 := by
  cases htext : key ++ rest with
  | nil => exact absurd (List.append_eq_nil_iff.mp htext).1 hkey
  | cons byte text =>
      have hprefix : key <+: byte :: text := htext ▸ List.prefix_append key rest
      unfold findText
      rw [if_pos (List.isPrefixOf_iff_prefix.mpr hprefix)]

/-- A key that no earlier position shows is found where it stands. -/
theorem findText_append {front rest : Bytes} (hkey : key ≠ [])
    (habsent : ¬ key <:+: front ++ key.dropLast) :
    findText key (front ++ (key ++ rest)) = some front.length := by
  induction front with
  | nil => exact findText_prefix hkey
  | cons byte front ih =>
      have hnext : ¬ key <:+: front ++ key.dropLast := fun hinside =>
        habsent (hinside.trans (List.suffix_cons byte _).isInfix)
      have hhere : ¬ key <+: byte :: (front ++ (key ++ rest)) := by
        intro hprefix
        apply habsent
        have hshort : byte :: (front ++ key.dropLast) <+: byte :: (front ++ (key ++ rest)) := by
          refine ⟨[key.getLast hkey] ++ rest, ?_⟩
          rw [List.cons_append, List.append_assoc, ← List.append_assoc key.dropLast,
            List.dropLast_concat_getLast]
        refine (List.prefix_of_prefix_length_le hprefix hshort ?_).isInfix
        rw [List.length_cons, List.length_append, List.length_dropLast]
        omega
      rw [List.cons_append, findText, if_neg (by rwa [List.isPrefixOf_iff_prefix]), ih hnext]
      rfl

theorem findText_isSome_iff : (findText key text).isSome = true ↔ key <:+: text := by
  constructor
  · intro hsome
    by_contra habsent
    rw [findText_eq_none habsent] at hsome
    cases hsome
  · intro hinside
    induction text with
    | nil =>
        rw [List.infix_nil.mp hinside]
        rfl
    | cons byte rest ih =>
        unfold findText
        split
        · rfl
        · next hprefix =>
            rw [List.isPrefixOf_iff_prefix] at hprefix
            rcases List.infix_cons_iff.mp hinside with hhere | hrest
            · exact absurd hhere hprefix
            · rw [Option.isSome_map]
              exact ih hrest

variable {pos : Nat}

theorem findText_fits (hfound : findText key text = some pos) : pos + key.length ≤ text.length := by
  induction text generalizing pos with
  | nil =>
      unfold findText at hfound
      split at hfound
      · next hkey =>
          cases hfound
          rw [hkey]
          exact Nat.le_refl 0
      · cases hfound
  | cons byte rest ih =>
      unfold findText at hfound
      split at hfound
      · next hprefix =>
          cases hfound
          have hlength := (List.isPrefixOf_iff_prefix.mp hprefix).length_le
          omega
      · obtain ⟨before, hbefore, rfl⟩ := Option.map_eq_some_iff.mp hfound
        have hrest := ih hbefore
        rw [List.length_cons]
        omega

/-- The key stands where it is found. -/
theorem findText_stands (hfound : findText key text = some pos) : key <+: text.drop pos := by
  induction text generalizing pos with
  | nil =>
      unfold findText at hfound
      split at hfound
      · next hkey =>
          rw [hkey]
          exact List.nil_prefix
      · cases hfound
  | cons byte rest ih =>
      unfold findText at hfound
      split at hfound
      · next hprefix =>
          cases hfound
          exact List.isPrefixOf_iff_prefix.mp hprefix
      · obtain ⟨before, hbefore, rfl⟩ := Option.map_eq_some_iff.mp hfound
        exact ih hbefore

/-- A first occurrence stays the first when the text grows. -/
theorem findText_grows (more : Bytes) (hfound : findText key text = some pos) :
    findText key (text ++ more) = some pos := by
  induction text generalizing pos with
  | nil =>
      unfold findText at hfound
      split at hfound
      · next hkey =>
          cases hfound
          subst hkey
          cases more <;> rfl
      · cases hfound
  | cons byte rest ih =>
      unfold findText at hfound
      rw [List.cons_append]
      unfold findText
      split at hfound
      · next hprefix =>
          cases hfound
          rw [if_pos]
          rw [List.isPrefixOf_iff_prefix] at hprefix ⊢
          exact hprefix.trans (List.prefix_append (byte :: rest) more)
      · next hprefix =>
          obtain ⟨before, hbefore, rfl⟩ := Option.map_eq_some_iff.mp hfound
          have hfits := findText_fits hbefore
          rw [if_neg, ih hbefore]
          · rfl
          · rw [List.isPrefixOf_iff_prefix] at hprefix ⊢
            intro hlonger
            refine hprefix (List.prefix_of_prefix_length_le hlonger
              (List.prefix_append (byte :: rest) more) ?_)
            rw [List.length_cons]
            omega

/-! ## Decimal numbers -/

/-- `std::to_string` and the stream output of an unsigned number. -/
def decimalText (number : Nat) : Bytes :=
  if number = 0 then [0x30] else (Nat.digits 10 number).reverse.map fun digit => 0x30 + digit.toUInt8

/-- The value of a run of decimal digits. -/
def decimalValue (digits : Bytes) : Nat :=
  digits.foldl (fun value digit => 10 * value + (digit - 0x30).toNat) 0

theorem isDigit_of_lt : ∀ digit < 10, isDigit (0x30 + digit.toUInt8) = true := by
  decide

theorem digit_sub_zero : ∀ digit < 10, (0x30 + digit.toUInt8 - 0x30).toNat = digit := by
  decide

theorem isDigit_of_mem_decimalText {number : Nat} {byte : UInt8}
    (hmem : byte ∈ decimalText number) : isDigit byte = true := by
  unfold decimalText at hmem
  split at hmem
  · rw [List.mem_singleton.mp hmem]
    rfl
  · obtain ⟨digit, hdigit, rfl⟩ := List.mem_map.mp hmem
    exact isDigit_of_lt digit (Nat.digits_lt_base (by decide) (List.mem_reverse.mp hdigit))

theorem decimalText_ne_nil (number : Nat) : decimalText number ≠ [] := by
  unfold decimalText
  split
  · exact List.cons_ne_nil _ _
  · next hnumber => simpa [Nat.digits_eq_nil_iff_eq_zero] using hnumber

theorem decimalValue_digits {digits : List Nat} (hdigits : ∀ digit ∈ digits, digit < 10) :
    decimalValue (digits.reverse.map fun digit => 0x30 + digit.toUInt8) = Nat.ofDigits 10 digits := by
  unfold decimalValue
  rw [List.foldl_map, List.foldl_reverse]
  induction digits with
  | nil => rfl
  | cons digit digits ih =>
      rw [List.foldr_cons, ih fun other hother => hdigits other (List.mem_cons_of_mem digit hother),
        digit_sub_zero digit (hdigits digit List.mem_cons_self), Nat.ofDigits_cons, Nat.add_comm]

@[simp] theorem decimalValue_decimalText (number : Nat) :
    decimalValue (decimalText number) = number := by
  unfold decimalText
  split
  · next hnumber => rw [hnumber]; rfl
  · rw [decimalValue_digits fun _ hdigit => Nat.digits_lt_base (by decide) hdigit,
      Nat.ofDigits_digits]

end AudioStudio

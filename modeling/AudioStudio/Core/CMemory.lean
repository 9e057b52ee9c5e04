import AudioStudio.Core.LittleEndian

/-!
# Memory and C strings

A memory is a byte for every address.  A C string stands where its bytes are followed by a null
byte.
-/

namespace AudioStudio

open LittleEndian (Bytes)

abbrev Memory := Nat → UInt8

namespace Memory

/-- `memcpy` of bytes from outside the written range. -/
def memcpy (memory : Memory) (start : Nat) (bytes : Bytes) : Memory := fun address =>
  if start ≤ address ∧ address < start + bytes.length then bytes.getD (address - start) 0
  else memory address

def store (memory : Memory) (start : Nat) (byte : UInt8) : Memory :=
  Function.update memory start byte

/-- The string at an address: its bytes, none of them null, and the null byte behind them. -/
structure CStringAt (memory : Memory) (start : Nat) (text : Bytes) : Prop where
  bytes : ∀ index (hindex : index < text.length), memory (start + index) = text[index]
  terminated : memory (start + text.length) = 0
  nulFree : (0 : UInt8) ∉ text

/-- The memories differ only in some bytes from an address on. -/
def SameOutside (start size : Nat) (before after : Memory) : Prop :=
  ∀ address, address < start ∨ start + size ≤ address → after address = before address

variable {memory before after : Memory} {start size : Nat} {text more : Bytes}

theorem memcpy_outside {address : Nat} (houtside : address < start ∨ start + text.length ≤ address) :
    memory.memcpy start text address = memory address := by
  rw [memcpy, if_neg]
  omega

theorem memcpy_inside {index : Nat} (hindex : index < text.length) :
    memory.memcpy start text (start + index) = text[index] := by
  rw [memcpy, if_pos (by omega), Nat.add_sub_cancel_left, List.getD_eq_getElem text 0 hindex]

theorem store_same (byte : UInt8) : memory.store start byte start = byte := by
  rw [store, Function.update_self]

theorem store_other {address : Nat} (byte : UInt8) (hother : address ≠ start) :
    memory.store start byte address = memory address := by
  rw [store, Function.update_of_ne hother]

/-- A string is lengthened by copying behind it and ending it again. -/
theorem CStringAt.append (hstring : memory.CStringAt start text) (hmore : (0 : UInt8) ∉ more) :
    ((memory.memcpy (start + text.length) more).store (start + text.length + more.length)
      0).CStringAt start (text ++ more) where
  bytes index hindex := by
    rw [List.length_append] at hindex
    rw [store_other 0 (by omega)]
    by_cases hold : index < text.length
    · rw [memcpy_outside (.inl (by omega)), hstring.bytes index hold, List.getElem_append_left hold]
    · have hnew : index - text.length < more.length := by omega
      have hplace : start + index = start + text.length + (index - text.length) := by omega
      rw [hplace, memcpy_inside hnew, List.getElem_append_right (not_lt.mp hold)]
  terminated := by
    rw [List.length_append, ← Nat.add_assoc, store_same]
  nulFree hmem := by
    rcases List.mem_append.mp hmem with htext | hmem
    · exact hstring.nulFree htext
    · exact hmore hmem

theorem SameOutside.append (hsame : SameOutside start size before memory)
    (hfits : text.length + more.length < size) :
    SameOutside start size before
      ((memory.memcpy (start + text.length) more).store (start + text.length + more.length) 0) := by
  intro address houtside
  rw [store_other 0 (by omega), memcpy_outside (by omega), hsame address houtside]

end Memory

end AudioStudio

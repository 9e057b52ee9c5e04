import AudioStudio.Core.ByteReader

/-!
# Fields of a byte stream

Readers of bytes and words, and what holds of everything that a reader returns.
-/

namespace AudioStudio.ByteReader

open LittleEndian

variable {ε α β : Type}

/-! ## Results -/

/-- Whatever the reader returns has the property. -/
def Ensures (reader : ByteReader ε α) (property : α → Prop) : Prop :=
  ∀ input value rest, reader input = .ok (value, rest) → property value

variable {property : α → Prop}

theorem ensures_pure {value : α} (hvalue : property value) :
    Ensures (pure value : ByteReader ε α) property := by
  intro input result rest hread
  cases hread
  exact hvalue

theorem ensures_throw (fault : ε) : Ensures (fun _ => .error fault : ByteReader ε α) property := by
  intro input value rest hread
  cases hread

theorem ensures_true (reader : ByteReader ε α) : Ensures reader fun _ => True :=
  fun _ _ _ _ => trivial

variable {reader : ByteReader ε α}

theorem Ensures.bind {next : α → ByteReader ε β} {between : α → Prop} {property : β → Prop}
    (hreader : Ensures reader between)
    (hnext : ∀ value, between value → Ensures (next value) property) :
    Ensures (reader >>= next) property := by
  intro input result rest hread
  change (reader input >>= fun read => next read.1 read.2) = _ at hread
  cases hfirst : reader input with
  | error fault =>
      rw [hfirst] at hread
      cases hread
  | ok read =>
      rw [hfirst] at hread
      exact hnext read.1 (hreader input read.1 read.2 hfirst) read.2 result rest hread

/-- What follows a reader whose value does not matter. -/
theorem ensures_bind (reader : ByteReader ε α) {next : α → ByteReader ε β} {property : β → Prop}
    (hnext : ∀ value, Ensures (next value) property) : Ensures (reader >>= next) property :=
  (ensures_true reader).bind fun value _ => hnext value

/-- What a reader returns that first checks a condition. -/
theorem ensures_unless {condition : Prop} [Decidable condition] {fault : ε}
    (hreader : ¬ condition → Ensures reader property) :
    Ensures (if condition then fun _ => .error fault else reader) property := by
  split
  · exact ensures_throw fault
  · next hcondition => exact hreader hcondition

theorem ensures_times (hreader : Ensures reader property) (count : Nat) :
    Ensures (times reader count) fun values =>
      values.length = count ∧ ∀ value ∈ values, property value := by
  induction count with
  | zero => exact ensures_pure ⟨rfl, List.forall_mem_nil _⟩
  | succ count ih =>
      refine hreader.bind fun value hvalue => ih.bind fun values hvalues => ensures_pure ?_
      exact ⟨congrArg (· + 1) hvalues.1, List.forall_mem_cons.mpr ⟨hvalue, hvalues.2⟩⟩

/-! ## Fields -/

/-- The next bytes, if there are so many. -/
def takeBytes (count : Nat) : ByteReader Unit Bytes :=
  fun input =>
    if input.length < count then .error () else .ok (input.take count, input.drop count)

theorem reads_takeBytes {bytes : Bytes} {count : Nat} (hlength : bytes.length = count) :
    Reads (takeBytes count) bytes bytes := by
  intro rest
  subst hlength
  rw [takeBytes, if_neg (by rw [List.length_append]; omega), List.take_left, List.drop_left]

def readLe16 : ByteReader Unit UInt16 := do
  let bytes ← takeBytes 2
  return word16 bytes 0

def readLe32 : ByteReader Unit UInt32 := do
  let bytes ← takeBytes 4
  return word32 bytes 0

theorem reads_readLe16 (value : UInt16) : Reads readLe16 (le16 value) value := by
  have hword : word16 (le16 value) 0 = value := of16_le16 value
  have hreads : Reads readLe16 (le16 value) (word16 (le16 value) 0) :=
    (reads_takeBytes (le16_length value)).bind_last (reads_pure _)
  rwa [hword] at hreads

theorem reads_readLe32 (value : UInt32) : Reads readLe32 (le32 value) value := by
  have hword : word32 (le32 value) 0 = value := of32_le32 value
  have hreads : Reads readLe32 (le32 value) (word32 (le32 value) 0) :=
    (reads_takeBytes (le32_length value)).bind_last (reads_pure _)
  rwa [hword] at hreads

end AudioStudio.ByteReader

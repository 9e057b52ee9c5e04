import AudioStudio.Core.LittleEndian

/-!
# Readers of a byte stream

A reader takes its bytes from the front of a stream and leaves the rest.  It reads
a string as a value when, whatever follows the string, it returns the value and
leaves what follows: no byte behind the string is consumed or looked at.
-/

namespace AudioStudio

open LittleEndian

abbrev ByteReader (ε α : Type) := StateT Bytes (Except ε) α

namespace ByteReader

variable {ε α β : Type}

/-- The reader consumes exactly `bytes` and returns `value`. -/
def Reads (reader : ByteReader ε α) (bytes : Bytes) (value : α) : Prop :=
  ∀ rest, reader (bytes ++ rest) = .ok (value, rest)

theorem reads_pure (value : α) : Reads (pure value : ByteReader ε α) [] value :=
  fun _ => rfl

variable {reader : ByteReader ε α} {next : α → ByteReader ε β} {bytes : Bytes} {value : α}

theorem Reads.bind {tail : Bytes} {result : β} (hreader : Reads reader bytes value)
    (hnext : Reads (next value) tail result) : Reads (reader >>= next) (bytes ++ tail) result := by
  intro rest
  change (reader (bytes ++ tail ++ rest) >>= fun read => next read.1 read.2) = _
  rw [List.append_assoc, hreader (tail ++ rest)]
  exact hnext rest

theorem Reads.bind_last {result : β} (hreader : Reads reader bytes value)
    (hnext : Reads (next value) [] result) : Reads (reader >>= next) bytes result := by
  have hbind := hreader.bind hnext
  rwa [List.append_nil] at hbind

/-! ## Longer streams -/

/-- What the reader returns does not change when more bytes follow. -/
def Extends (reader : ByteReader ε α) : Prop :=
  ∀ input value rest more, reader input = .ok (value, rest) →
    reader (input ++ more) = .ok (value, rest ++ more)

theorem Extends.bind (hreader : Extends reader) (hnext : ∀ value, Extends (next value)) :
    Extends (reader >>= next) := by
  intro input result rest more hread
  change (reader input >>= fun read => next read.1 read.2) = _ at hread
  change (reader (input ++ more) >>= fun read => next read.1 read.2) = _
  cases hfirst : reader input with
  | error fault =>
      rw [hfirst] at hread
      cases hread
  | ok read =>
      rw [hfirst] at hread
      rw [hreader input read.1 read.2 more hfirst]
      exact hnext read.1 read.2 result rest more hread

/-- Run a reader `count` times and collect its values. -/
def times (reader : ByteReader ε α) : Nat → ByteReader ε (List α)
  | 0 => pure []
  | count + 1 => do
      let value ← reader
      let values ← times reader count
      return value :: values

/-- Strings written back to back are read one by one. -/
theorem reads_times {reader : ByteReader ε β} {write : α → Bytes} {expected : α → β}
    {messages : List α}
    (hreader : ∀ message ∈ messages, Reads reader (write message) (expected message)) :
    Reads (times reader messages.length) (messages.flatMap write) (messages.map expected) := by
  induction messages with
  | nil => exact reads_pure []
  | cons message messages ih =>
      have htail := ih fun other hother => hreader other (List.mem_cons_of_mem message hother)
      exact (hreader message List.mem_cons_self).bind (htail.bind_last (reads_pure _))

end ByteReader

end AudioStudio

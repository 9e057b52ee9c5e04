import AudioStudio.Core.Accumulate
import AudioStudio.Core.Text
import Mathlib.Logic.Function.Basic

/-!
# Requests of HTTP clients

`readRequest` of `http_server.cpp` over the blocks that `recv` returns until the connection is
closed or fails.  A number that `std::stoul` does not take is thrown, and nothing catches it.
-/

namespace AudioStudio.HttpServer

open LittleEndian

/-! ## The parts of a head -/

/-- What `std::stoul` throws. -/
inductive ConversionFault where
  | invalidArgument
  | outOfRange
  deriving DecidableEq, Repr

/-- `std::stoul`: a sign may stand before the digits, and what stands behind them is ignored. -/
def stoul (text : Bytes) : Except ConversionFault UInt64 :=
  let text := text.dropWhile isSpace
  let unsigned := if text.head? = some 0x2b ∨ text.head? = some 0x2d then text.drop 1 else text
  let digits := unsigned.takeWhile isDigit
  if digits = [] then .error .invalidArgument
  else if 2 ^ 64 ≤ decimalValue digits then .error .outOfRange
  else if text.head? = some 0x2d then .ok (0 - (decimalValue digits).toUInt64)
  else .ok (decimalValue digits).toUInt64

/-- The lines that `std::getline` reads: nothing behind the last line feed is no line. -/
def getLines (text : Bytes) : List Bytes :=
  let pieces := text.splitOn 0x0a
  if pieces.getLast? = some [] then pieces.dropLast else pieces

/-- A line without a carriage return at its end. -/
def chomp (line : Bytes) : Bytes :=
  if line.getLast? = some 0x0d then line.dropLast else line

/-- `operator>>` into a string, and what is left behind the word. -/
def nextWord (text : Bytes) : Bytes × Bytes :=
  let text := text.dropWhile isSpace
  (text.takeWhile fun c => !isSpace c, text.dropWhile fun c => !isSpace c)

/-- The name of a header line and its value behind the blanks. -/
def splitHeader (line : Bytes) : Option (Bytes × Bytes) :=
  (line.findIdx? (· = 0x3a)).map fun pos =>
    (line.take pos, (line.drop (pos + 1)).dropWhile (· = 0x20))

structure Headers where
  fields : Bytes → Option Bytes := fun _ => none
  contentLength : Nat := 0

def headerLine (headers : Headers) (line : Bytes) : Except ConversionFault Headers :=
  match splitHeader (chomp line) with
  | none => .ok headers
  | some (key, value) =>
      let fields := Function.update headers.fields key (some value)
      if key.map toLower = asciiBytes "content-length" then do
        let length ← stoul value
        .ok { fields, contentLength := length.toNat }
      else .ok { headers with fields }

def parseHeaders (lines : List Bytes) : Except ConversionFault Headers :=
  lines.foldlM headerLine {}

structure HttpRequest where
  method : Bytes
  path : Bytes
  query : Bytes
  headers : Bytes → Option Bytes
  body : Bytes

/-! ## Reading -/

def blankLine : Bytes := [0x0d, 0x0a, 0x0d, 0x0a]

/-- The first loop: up to a block that brings the blank line, or to the end. -/
def readHead (data : Bytes) : List Bytes → Option (Bytes × List Bytes)
  | [] => some (data, [])
  | block :: blocks =>
      if (findText blankLine (data ++ block)).isSome then some (data ++ block, blocks)
      else if 1024 * 1024 < (data ++ block).length then none
      else readHead (data ++ block) blocks

/-- The second loop: up to the length of the body, or to the end. -/
def readBody (body : Bytes) (contentLength : Nat) : List Bytes → Bytes
  | [] => body
  | block :: blocks =>
      if body.length < contentLength then readBody (body ++ block) contentLength blocks else body

/-- What stands before the blank line, and what stands behind it. -/
def headOf (data : Bytes) : Bytes :=
  match findText blankLine data with
  | some headerEnd => data.take headerEnd
  | none => data

def bodyOf (data : Bytes) : Bytes :=
  match findText blankLine data with
  | some headerEnd => data.drop (headerEnd + 4)
  | none => []

/-- The request, nothing when `false` is returned, or what is thrown. -/
def readRequest (blocks : List Bytes) : Except ConversionFault (Option HttpRequest) :=
  match readHead [] blocks with
  | none => .ok none
  | some (data, blocks) =>
      if data = [] then .ok none
      else
        match getLines (headOf data) with
        | [] => .ok none
        | first :: lines => do
            let (method, rest) := nextWord (chomp first)
            let (target, _) := nextWord rest
            let headers ← parseHeaders lines
            let body := readBody (bodyOf data) headers.contentLength blocks
            .ok (some
              { method
                path := target.takeWhile (· ≠ 0x3f)
                query := (target.dropWhile (· ≠ 0x3f)).drop 1
                headers := headers.fields
                body := body.take headers.contentLength })

/-! ## Blocks -/

theorem readBody_take (body : Bytes) (contentLength : Nat) (blocks : List Bytes) :
    (readBody body contentLength blocks).take contentLength =
      (body ++ blocks.flatten).take contentLength := by
  induction blocks generalizing body with
  | nil => rw [readBody, List.flatten_nil, List.append_nil]
  | cons block blocks ih =>
      rw [readBody]
      split
      · rw [ih, List.append_assoc, List.flatten_cons]
      · next hfull => rw [List.take_append_of_le_length (not_lt.mp hfull)]

variable {head : Bytes} {blocks rest : List Bytes}

/-- The head ends where the blank line has come, or with the stream. -/
theorem readHead_stream {data : Bytes} (hread : readHead data blocks = some (head, rest)) :
    head ++ rest.flatten = data ++ blocks.flatten ∧
      ((findText blankLine head).isSome ∨ rest = []) := by
  induction blocks generalizing data with
  | nil =>
      cases hread
      exact ⟨rfl, .inr rfl⟩
  | cons block blocks ih =>
      rw [readHead] at hread
      split at hread
      · next hblank =>
          cases hread
          exact ⟨by rw [List.flatten_cons, List.append_assoc], .inl hblank⟩
      split at hread
      · cases hread
      · rw [List.flatten_cons, ← List.append_assoc]
        exact ih hread

/-- However the stream is cut, the head and what of the body came with it are its own. -/
theorem parts_of_readHead (hread : readHead [] blocks = some (head, rest)) :
    headOf head = headOf blocks.flatten ∧
      bodyOf head ++ rest.flatten = bodyOf blocks.flatten := by
  obtain ⟨hstream, hend⟩ := readHead_stream hread
  rw [List.nil_append] at hstream
  cases hfind : findText blankLine head with
  | some headerEnd =>
      have hwhole := findText_grows rest.flatten hfind
      have hfits := findText_fits hfind
      rw [← hstream]
      unfold headOf bodyOf
      rw [hfind, hwhole]
      dsimp only
      have hlength : blankLine.length = 4 := rfl
      rw [List.take_append_of_le_length (by omega), List.drop_append_of_le_length (by omega)]
      exact ⟨rfl, rfl⟩
  | none =>
      have hnil : rest = [] := by
        rcases hend with hsome | hnil
        · rw [hfind] at hsome
          cases hsome
        · exact hnil
      rw [hnil, List.flatten_nil, List.append_nil] at hstream ⊢
      rw [hstream]
      exact ⟨rfl, rfl⟩

/-! ## Header lines -/

/-- The value of a line that names the length of the body is a number. -/
def LineConverts (line : Bytes) : Prop :=
  ∀ key value, splitHeader (chomp line) = some (key, value) →
    key.map toLower = asciiBytes "content-length" → ∃ length, stoul value = .ok length

theorem headerLine_ok_iff (headers : Headers) (line : Bytes) :
    (∃ headers', headerLine headers line = .ok headers') ↔ LineConverts line := by
  unfold headerLine LineConverts
  cases hsplit : splitHeader (chomp line) with
  | none =>
      refine iff_of_true ⟨headers, rfl⟩ fun key value hsome => ?_
      cases hsome
  | some field =>
      obtain ⟨key, value⟩ := field
      dsimp only
      split
      · next hname =>
          constructor
          · rintro ⟨headers', hheaders⟩ key' value' hsome -
            cases hsome
            obtain ⟨length, hlength, -⟩ := bind_eq_ok hheaders
            exact ⟨length, hlength⟩
          · intro hconverts
            obtain ⟨length, hlength⟩ := hconverts key value rfl hname
            rw [hlength]
            exact ⟨_, rfl⟩
      · next hname =>
          refine iff_of_true ⟨_, rfl⟩ fun key' value' hsome hname' => ?_
          cases hsome
          exact absurd hname' hname

theorem parseHeaders_ok_iff (lines : List Bytes) :
    (∃ headers, parseHeaders lines = .ok headers) ↔ ∀ line ∈ lines, LineConverts line := by
  rw [parseHeaders]
  generalize ({} : Headers) = headers
  induction lines generalizing headers with
  | nil => exact iff_of_true ⟨headers, rfl⟩ (by rintro _ ⟨⟩)
  | cons line lines ih =>
      rw [List.foldlM_cons, List.forall_mem_cons, ← headerLine_ok_iff headers line]
      constructor
      · rintro ⟨final, hfinal⟩
        obtain ⟨middle, hmiddle, hrest⟩ := bind_eq_ok hfinal
        exact ⟨⟨middle, hmiddle⟩, (ih middle).mp ⟨final, hrest⟩⟩
      · rintro ⟨⟨middle, hmiddle⟩, hall⟩
        obtain ⟨final, hrest⟩ := (ih middle).mpr hall
        rw [hmiddle]
        exact ⟨final, hrest⟩

/-! ## A request -/

/-- The header lines of a stream. -/
def headerLines (stream : Bytes) : List Bytes := (getLines (headOf stream)).drop 1

/-- Nothing is thrown, and the body is what the stream has behind its blank line, up to the length
that its head gives. -/
structure ReadsRequest (blocks : List Bytes) : Prop where
  returns : ∃ result, readRequest blocks = .ok result
  body : ∀ request, readRequest blocks = .ok (some request) →
    ∃ headers, parseHeaders (headerLines blocks.flatten) = .ok headers ∧
      request.body.length ≤ headers.contentLength ∧
      request.body = (bodyOf blocks.flatten).take headers.contentLength

theorem readRequest_of_readHead (hread : readHead [] blocks = some (head, rest)) :
    (∃ fault, parseHeaders (headerLines blocks.flatten) = .error fault ∧
        readRequest blocks = .error fault) ∨
      ∃ headers, parseHeaders (headerLines blocks.flatten) = .ok headers ∧
        (readRequest blocks = .ok none ∨ ∃ request, readRequest blocks = .ok (some request) ∧
          request.body = (bodyOf blocks.flatten).take headers.contentLength) := by
  obtain ⟨hhead, hbody⟩ := parts_of_readHead hread
  rw [readRequest, hread, headerLines, ← hhead]
  dsimp only
  split
  · next hnil =>
      subst hnil
      exact .inr ⟨{}, rfl, .inl rfl⟩
  cases hlines : getLines (headOf head) with
  | nil => exact .inr ⟨{}, rfl, .inl rfl⟩
  | cons first lines =>
      rw [List.drop_succ_cons, List.drop_zero]
      dsimp only
      cases hheaders : parseHeaders lines with
      | error fault => exact .inl ⟨fault, rfl, rfl⟩
      | ok headers =>
          refine .inr ⟨headers, rfl, .inr ⟨_, rfl, ?_⟩⟩
          dsimp only
          rw [readBody_take, hbody]

/-- A request is read, whatever the blocks are, exactly when each length in its head is a
number. -/
theorem readRequest_iff (blocks : List Bytes) :
    ReadsRequest blocks ↔ (readHead [] blocks ≠ none →
      ∀ line ∈ headerLines blocks.flatten, LineConverts line) := by
  rw [← parseHeaders_ok_iff]
  cases hread : readHead [] blocks with
  | none =>
      have hfalse : readRequest blocks = .ok none := by
        rw [readRequest, hread]
      refine iff_of_true ⟨⟨none, hfalse⟩, fun request hrequest => ?_⟩ fun hsome => absurd rfl hsome
      rw [hfalse] at hrequest
      cases hrequest
  | some read =>
      obtain ⟨head, rest⟩ := read
      rcases readRequest_of_readHead hread with ⟨fault, hheaders, hthrows⟩ | ⟨headers, hheaders, hends⟩
      · refine iff_of_false ?_ ?_
        · rintro ⟨⟨result, hresult⟩, -⟩
          rw [hthrows] at hresult
          cases hresult
        · intro hall
          obtain ⟨headers, hok⟩ := hall (by rintro ⟨⟩)
          rw [hheaders] at hok
          cases hok
      · refine iff_of_true ?_ fun _ => ⟨headers, hheaders⟩
        rcases hends with hnone | ⟨request, hrequest, hbody⟩
        · refine ⟨⟨none, hnone⟩, fun request hrequest => ?_⟩
          rw [hnone] at hrequest
          cases hrequest
        · refine ⟨⟨_, hrequest⟩, fun request' hrequest' => ?_⟩
          rw [hrequest] at hrequest'
          cases hrequest'
          refine ⟨headers, hheaders, ?_, hbody⟩
          rw [hbody]
          exact List.length_take_le _ _

/-- One request with a length that is no number ends the server. -/
theorem wordy_length_throws :
    readRequest [asciiBytes "POST / HTTP/1.1\r\nContent-Length: x\r\n\r\n"] =
      .error .invalidArgument := by
  rfl

end AudioStudio.HttpServer

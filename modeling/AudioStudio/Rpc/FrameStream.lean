import AudioStudio.Rpc.Framing
import Mathlib.Data.Nat.Digits.Lemmas

/-!
# Mixed stream framing

Each reader consumes exactly the bytes of one frame, and the first four bytes tell
the two formats apart.  A loop over a stream of frames therefore recovers them.
-/

namespace AudioStudio.Rpc

open AudioStudio.LittleEndian ByteReader

theorem reads_readByte (byte : UInt8) : Reads readByte [byte] byte :=
  fun _ => rfl

theorem reads_readBytes (bytes : Bytes) : Reads (readBytes bytes.length) bytes bytes := by
  have hreads : Reads (readBytes bytes.length) (bytes.flatMap fun byte => [byte]) (bytes.map id) :=
    reads_times fun byte _ => reads_readByte byte
  rw [List.map_id, List.flatMap_singleton'] at hreads
  exact hreads

theorem reads_lift {α : Type} {result : Except RpcReadError α} {value : α}
    (hresult : result = .ok value) : Reads (StateT.lift result : RpcReader α) [] value := by
  subst hresult
  exact fun _ => rfl

/-! ## Binary frames -/

namespace RpcBinaryFrame

/-- The header bytes of an encoded frame. -/
def headerBytes (frame : RpcBinaryFrame) : Bytes :=
  encodeHeader frame.sealed.header frame.sealed.header.headerCrc32

theorem encode_eq (frame : RpcBinaryFrame) :
    encodeBinaryFrame frame = frame.headerBytes ++ frame.payload := rfl

@[simp] theorem headerBytes_length (frame : RpcBinaryFrame) :
    frame.headerBytes.length = kBinaryHeaderSize :=
  encodeHeader_length _ _

theorem decodeHeader_headerBytes (frame : RpcBinaryFrame) (rest : Bytes) :
    decodeHeader (frame.headerBytes ++ rest) = frame.sealed.header :=
  decodeHeader_encodeHeader _ _ _

@[simp] theorem sealed_magic (frame : RpcBinaryFrame) :
    frame.sealed.header.magic = kBinaryMagic := rfl

@[simp] theorem sealed_headerSize (frame : RpcBinaryFrame) :
    frame.sealed.header.headerSize.toNat = kBinaryHeaderSize := rfl

@[simp] theorem sealed_payloadCrc32 (frame : RpcBinaryFrame) :
    frame.sealed.header.payloadCrc32 = payloadCrc frame.payload := rfl

variable {frame : RpcBinaryFrame}

theorem sealed_payloadLen (hpayload : frame.payload.length < 2 ^ 32) :
    frame.sealed.header.payloadLen.toNat = frame.payload.length :=
  UInt32.toNat_ofNat_of_lt' hpayload

theorem headerCrc (frame : RpcBinaryFrame) :
    rpcCrc32 (poke frame.headerBytes 40 [0, 0, 0, 0]) = frame.sealed.header.headerCrc32 := by
  rw [headerBytes, poke_encodeHeader]
  exact congrArg rpcCrc32 (encodeHeader_headerCrc32 _ _ _)

theorem asrp_eq : asciiBytes "ASRP" = le32 kBinaryMagic := by
  decide

/-- The front that the serving loops read first. -/
theorem headerBytes_eq (frame : RpcBinaryFrame) :
    frame.headerBytes = asciiBytes "ASRP" ++ frame.headerBytes.drop 4 := by
  rw [asrp_eq]
  exact encodeHeader_eq frame.sealed.header _

theorem decode_encode (hpayload : frame.payload.length < 2 ^ 32) :
    decodeBinaryFrame (encodeBinaryFrame frame) = .ok frame.sealed := by
  have htake : (encodeBinaryFrame frame).take kBinaryHeaderSize = frame.headerBytes := by
    rw [encode_eq]
    exact List.take_left' frame.headerBytes_length
  have hdrop : (encodeBinaryFrame frame).drop kBinaryHeaderSize = frame.payload := by
    rw [encode_eq]
    exact List.drop_left' frame.headerBytes_length
  have hlength : (encodeBinaryFrame frame).length = kBinaryHeaderSize + frame.payload.length := by
    rw [encode_eq, List.length_append, headerBytes_length]
  unfold decodeBinaryFrame
  rw [hdrop, htake, hlength, encode_eq, decodeHeader_headerBytes, headerCrc]
  dsimp only
  rw [sealed_magic, sealed_headerSize, sealed_payloadCrc32, sealed_payloadLen hpayload]
  rw [if_neg (by omega), if_neg (by simp), if_neg (by simp), if_neg (by simp), if_neg (by simp),
    if_neg (by simp)]
  rfl

/-- Behind a front of the frame the reader takes the rest of the frame, no more. -/
theorem reads_readBinaryFrame {front tail : Bytes} (hheader : front ++ tail = frame.headerBytes)
    (hpayload : frame.payload.length ≤ maxBinaryPayload) :
    Reads (readBinaryFrameWithPrefix front) (tail ++ frame.payload) frame.sealed := by
  have hsmall : frame.payload.length < 2 ^ 32 :=
    lt_of_le_of_lt hpayload (by unfold maxBinaryPayload; norm_num)
  have hdecoded := decodeHeader_headerBytes frame []
  rw [List.append_nil] at hdecoded
  have hcount : kBinaryHeaderSize - front.length = tail.length := by
    rw [← headerBytes_length frame, ← hheader, List.length_append, Nat.add_sub_cancel_left]
  unfold readBinaryFrameWithPrefix
  rw [hcount]
  refine (reads_readBytes tail).bind ?_
  dsimp only
  rw [hheader, hdecoded, sealed_magic, sealed_headerSize, sealed_payloadLen hsmall,
    if_neg (by simp), if_neg (by simp), if_neg (Nat.not_lt.mpr hpayload), headerBytes_length,
    Nat.add_sub_cancel_left]
  have hdecode := decode_encode hsmall
  rw [encode_eq] at hdecode
  exact (reads_readBytes frame.payload).bind_last (reads_lift hdecode)

end RpcBinaryFrame

/-! ## Content-Length frames -/

/-- The one header line of an encoded JSON text. -/
def contentLine (length : Nat) : Bytes :=
  asciiBytes "Content-Length: " ++ decimalText length

/-- No line feed stands before the blank line. -/
theorem count_contentLine (length : Nat) : (contentLine length).count 0x0a = 0 := by
  rw [contentLine, List.count_append, show (asciiBytes "Content-Length: ").count 0x0a = 0 by decide,
    Nat.zero_add, List.count_eq_zero]
  intro hmem
  exact absurd (isDigit_of_mem_decimalText hmem) (by decide)

theorem kHeaderEnd_ne_nil : kHeaderEnd ≠ [] := by
  decide

variable {length : Nat} {tail : Bytes}

/-- A part of the header that lacks its last byte shows no end of the header. -/
theorem headerEnd_absent {header : Bytes} (htail : tail ≠ [])
    (hheader : header ++ tail = contentLine length ++ kHeaderEnd) : ¬ kHeaderEnd <:+: header := by
  intro hinside
  have htotal : (header ++ tail).count 0x0a = 2 := by
    rw [hheader, List.count_append, count_contentLine]
    decide
  have hcount : 2 ≤ header.count 0x0a := hinside.count_le 0x0a
  have hlast : tail.getLast? = some 0x0a := by
    have hends := congrArg List.getLast? hheader
    rw [List.getLast?_append, List.getLast?_append, List.getLast?_eq_some_getLast htail] at hends
    rw [List.getLast?_eq_some_getLast htail]
    exact hends
  have hmem : 0 < tail.count 0x0a :=
    List.count_pos_iff.mpr (List.mem_of_getLast? hlast)
  rw [List.count_append] at htotal
  omega

theorem findText_header (length : Nat) :
    findText kHeaderEnd (contentLine length ++ kHeaderEnd) = some (contentLine length).length := by
  have habsent : ¬ kHeaderEnd <:+: contentLine length ++ kHeaderEnd.dropLast := by
    have hsplit : contentLine length ++ kHeaderEnd.dropLast ++ [0x0a] =
        contentLine length ++ kHeaderEnd := by
      rw [List.append_assoc]
      rfl
    exact headerEnd_absent (List.cons_ne_nil _ _) hsplit
  rw [← List.append_nil kHeaderEnd]
  exact findText_append kHeaderEnd_ne_nil habsent

theorem readHeader_eq (hlength : (contentLine length ++ kHeaderEnd).length ≤ 4096) {header : Bytes}
    (rest : Bytes) (hheader : header ++ tail = contentLine length ++ kHeaderEnd) :
    readHeader header (tail ++ rest) = .ok (contentLine length ++ kHeaderEnd, rest) := by
  induction tail generalizing header with
  | nil =>
      rw [List.append_nil] at hheader
      subst hheader
      unfold readHeader
      rw [if_pos (by rw [findText_header]; rfl)]
      rfl
  | cons byte tail ih =>
      have hnext : header ++ [byte] ++ tail = contentLine length ++ kHeaderEnd := by
        rw [List.append_assoc]
        exact hheader
      have hshort : ¬ (header ++ [byte]).length > 4096 := by
        rw [← hnext, List.length_append] at hlength
        omega
      have habsent := headerEnd_absent (List.cons_ne_nil byte tail) hheader
      unfold readHeader
      rw [if_neg (by rw [findText_eq_none habsent]; exact Bool.false_ne_true)]
      dsimp only [List.cons_append]
      rw [if_neg hshort]
      exact ih hnext

theorem parseContentLength_header (hlength : length < 2 ^ 64) :
    parseContentLength (contentLine length ++ kHeaderEnd) = .ok length := by
  have hkey : contentLine length ++ kHeaderEnd =
      asciiBytes "Content-Length:" ++ ([0x20] ++ (decimalText length ++ kHeaderEnd)) := by
    rw [contentLine, show asciiBytes "Content-Length: " = asciiBytes "Content-Length:" ++ [0x20] by
      decide]
    simp only [List.append_assoc]
  have hblank : ([0x20] ++ (decimalText length ++ kHeaderEnd)).dropWhile (isSpace ·) =
      decimalText length ++ kHeaderEnd := by
    cases hdigits : decimalText length with
    | nil => exact absurd hdigits (decimalText_ne_nil length)
    | cons digit digits =>
        have hdigit : isSpace digit = false :=
          isSpace_of_isDigit (isDigit_of_mem_decimalText (hdigits ▸ List.mem_cons_self))
        rw [List.singleton_append, List.dropWhile_cons_of_pos (by decide), List.cons_append,
          List.dropWhile_cons_of_neg (by rw [hdigit]; exact Bool.false_ne_true)]
  have hdigits : (decimalText length ++ kHeaderEnd).takeWhile (isDigit ·) = decimalText length := by
    rw [List.takeWhile_append_of_pos fun byte hbyte => isDigit_of_mem_decimalText hbyte]
    rw [show kHeaderEnd.takeWhile (isDigit ·) = [] by decide, List.append_nil]
  unfold parseContentLength
  dsimp only
  rw [hkey, findText_prefix (by decide)]
  dsimp only
  rw [Nat.zero_add, List.drop_left, hblank, hdigits, if_neg (decimalText_ne_nil length),
    decimalValue_decimalText, if_pos hlength]

theorem contentLine_length_le (hlength : length < 2 ^ 64) :
    (contentLine length ++ kHeaderEnd).length ≤ 4096 := by
  have hdigits : (decimalText length).length ≤ 64 := by
    unfold decimalText
    split
    · decide
    · rw [List.length_map, List.length_reverse, Nat.digits_length_le_iff (by decide)]
      exact hlength.trans_le (by norm_num)
  rw [contentLine, List.length_append, List.length_append,
    show (asciiBytes "Content-Length: ").length = 16 by decide,
    show kHeaderEnd.length = 4 by decide]
  omega

/-- The front that the serving loops read first. -/
theorem contentLine_eq (length : Nat) :
    contentLine length ++ kHeaderEnd =
      asciiBytes "Cont" ++ (contentLine length ++ kHeaderEnd).drop 4 := by
  rw [contentLine, show asciiBytes "Content-Length: " = asciiBytes "Cont" ++ asciiBytes "ent-Length: "
    by decide]
  simp only [List.append_assoc]
  exact congrArg (asciiBytes "Cont" ++ ·) (List.drop_left' (by decide)).symm

/-- Behind a front of the frame the reader takes the rest of the frame, no more. -/
theorem reads_readContentLengthFrame {json front : Bytes}
    (hsplit : front ++ tail = contentLine json.length ++ kHeaderEnd)
    (hjson : json.length ≤ maxJsonPayload) :
    Reads (readContentLengthFrameWithPrefix front) (tail ++ json) json := by
  have hsmall : json.length < 2 ^ 64 :=
    lt_of_le_of_lt hjson (by unfold maxJsonPayload; norm_num)
  have hheader : Reads (readHeader front) tail (contentLine json.length ++ kHeaderEnd) :=
    fun rest => readHeader_eq (contentLine_length_le hsmall) rest hsplit
  have hend : (contentLine json.length ++ kHeaderEnd).length = (contentLine json.length).length + 4 := by
    rw [List.length_append]
    rfl
  unfold readContentLengthFrameWithPrefix
  refine hheader.bind ?_
  dsimp only
  rw [findText_header, Option.getD_some, ← hend, List.take_length, List.drop_length]
  refine (reads_lift (parseContentLength_header hsmall)).bind ?_
  rw [if_neg (Nat.not_lt.mpr hjson), List.length_nil, Nat.sub_zero]
  refine (reads_readBytes json).bind_last ?_
  rw [List.nil_append, List.take_length]
  exact reads_pure json

/-! ## The mixed stream -/

/-- The payload is within the limit of its format. -/
def RpcMessage.WithinLimits : RpcMessage → Prop
  | .json text => text.length ≤ maxJsonPayload
  | .binary frame => frame.payload.length ≤ maxBinaryPayload

instance : DecidablePred RpcMessage.WithinLimits
  | .json text => inferInstanceAs (Decidable (text.length ≤ maxJsonPayload))
  | .binary frame => inferInstanceAs (Decidable (frame.payload.length ≤ maxBinaryPayload))

/-- The message with the header fields that its encoder computes. -/
def RpcMessage.sealed : RpcMessage → RpcMessage
  | .json text => .json text
  | .binary frame => .binary frame.sealed

theorem reads_front {bytes : Bytes} (hlength : bytes.length = 4) :
    Reads (readBytes 4) bytes bytes :=
  hlength ▸ reads_readBytes bytes

theorem reads_readMessage {message : RpcMessage} (hlimits : message.WithinLimits) :
    Reads readMessage message.encode message.sealed := by
  cases message with
  | json text =>
      have hframe : encodeContentLengthFrame text =
          asciiBytes "Cont" ++ ((contentLine text.length ++ kHeaderEnd).drop 4 ++ text) := by
        rw [← List.append_assoc, ← contentLine_eq]
        rfl
      rw [RpcMessage.encode, hframe]
      refine (reads_front (by decide)).bind ?_
      rw [if_neg (by decide)]
      exact (reads_readContentLengthFrame (contentLine_eq text.length).symm hlimits).bind_last
        (reads_pure _)
  | binary frame =>
      have hframe : encodeBinaryFrame frame =
          asciiBytes "ASRP" ++ (frame.headerBytes.drop 4 ++ frame.payload) := by
        rw [← List.append_assoc, ← RpcBinaryFrame.headerBytes_eq]
        rfl
      rw [RpcMessage.encode, hframe]
      refine (reads_front (by decide)).bind ?_
      rw [if_pos rfl]
      exact (RpcBinaryFrame.reads_readBinaryFrame frame.headerBytes_eq.symm hlimits).bind_last
        (reads_pure _)

/-- A serving loop over frames written back to back recovers the messages in
order, each read consuming its own frame: whatever follows a frame is untouched.
A binary frame comes back with its payload and the fields its sender chose; the
magic, the sizes and the checksums are those its encoder computed. -/
theorem serve_recovers (messages : List RpcMessage)
    (hlimits : ∀ message ∈ messages, message.WithinLimits) :
    (∀ message ∈ messages, ∀ rest,
      readMessage (message.encode ++ rest) = .ok (message.sealed, rest)) ∧
    ∀ rest, serve messages.length (messages.flatMap RpcMessage.encode ++ rest) =
      .ok (messages.map RpcMessage.sealed, rest) :=
  ⟨fun message hmem => reads_readMessage (hlimits message hmem),
    reads_times fun message hmem => reads_readMessage (hlimits message hmem)⟩

theorem serve_recovers_example :
    serve 2 ([RpcMessage.json (asciiBytes "{}"),
        .binary { header := { requestId := 7 }, payload := kHeaderEnd }].flatMap RpcMessage.encode) =
      .ok ([.json (asciiBytes "{}"),
        .binary (RpcBinaryFrame.sealed { header := { requestId := 7 }, payload := kHeaderEnd })],
        []) := by
  have hserve := (serve_recovers [RpcMessage.json (asciiBytes "{}"),
    .binary { header := { requestId := 7 }, payload := kHeaderEnd }] (by decide)).2 []
  rwa [List.append_nil] at hserve

end AudioStudio.Rpc

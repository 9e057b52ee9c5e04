import AudioStudio.Controller.Channels

/-!
# Audio streams

`ac_audio.c`: sixteen stream slots, commanded over the audio control channel, and
their data channels.  Functions that return a code return it here, with the value
of an output parameter beside it.
-/

namespace AudioStudio.Controller

open LittleEndian
open Wire

def acAudioDefaultPeriodUs : Nat := 4000
def acAudioDefaultPeriodCount : UInt32 := 4
def acAudioStreamWaitRetries : Nat := 5000

def acTransportAudioOpen : UInt16 := 1
def acTransportAudioConfig : UInt16 := 2
def acTransportAudioStart : UInt16 := 3
def acTransportAudioWrite : UInt16 := 4
def acTransportAudioRead : UInt16 := 5
def acTransportAudioDrain : UInt16 := 6
def acTransportAudioStop : UInt16 := 7
def acTransportAudioClose : UInt16 := 8

def acTransportAudioDirectionPlayback : UInt32 := 1
def acTransportAudioDirectionCapture : UInt32 := 2

/-- The characters a C string of at most `dstSize` bytes keeps of `src`. -/
def acAudioCopyName (dstSize : Nat) (src : Bytes) : Bytes :=
  (src.takeWhile (· ≠ 0)).take (dstSize - 1)

def acAudioValidDirection (direction : UInt32) : Bool :=
  direction = acTransportAudioDirectionPlayback ∨ direction = acTransportAudioDirectionCapture

namespace AcAudioController

def find (audio : AcAudioController) (wanted : AcAudioStreamSlot → Bool) : Option SlotIndex :=
  (List.finRange acTransportAudioMaxStreams).find? fun index => wanted (audio.streams index)

def modify (audio : AcAudioController) (index : SlotIndex)
    (change : AcAudioStreamSlot → AcAudioStreamSlot) : AcAudioController where
  streams := Function.update audio.streams index (change (audio.streams index))

end AcAudioController

def acAudioFindStream (audio : AcAudioController) (streamId : UInt32) : Option SlotIndex :=
  if streamId = 0 then none
  else audio.find fun slot => slot.allocated ∧ slot.id = streamId

def acAudioFindStreamByChannel (audio : AcAudioController) (channelId : UInt16) :
    Option SlotIndex :=
  audio.find fun slot => slot.allocated ∧ slot.dataChannelId = channelId

/-- `ac_audio_init`, once driver and allocator are there. -/
def acAudioInit : AcAudioController where
  streams index :=
    { id := index.val.toUInt32 + 1
      dataChannelId := (acTransportAudioDataChannelFirst + index.val).toUInt16 }

/-! ## Configuration -/

def acAudioSetDefaultChmap (channels : UInt16) (position : Nat) : SofChmap :=
  if channels = 1 then if position = 0 then .mono else .unknown
  else if position < channels.toNat then
    [.fl, .fr, .fc, .lfe, .rl, .rr, .sl, .sr].getD position .unknown
  else .unknown

def acAudioFrameFormat (bytesPerSample : UInt16) : Option SofFrame :=
  if bytesPerSample = 2 then some .s16Le
  else if bytesPerSample = 4 then some .s32Le
  else none

def freeBuffer : Option Nat → ControllerProc Unit
  | none => pure ()
  | some raw => command (.free raw)

def acAudioFreeDma (index : SlotIndex) : ControllerProc Unit := do
  let audio ← streams
  freeBuffer (audio.streams index).dmaRaw
  modifySlot index ({ · with dmaRaw := none, dmaAligned := 0, dmaBufferSize := 0 })

/-- The sizes of a period and of the DMA buffer; the periods are computed in 64 bits
and everything after them in 32. -/
def acAudioDmaSizes (sampleRate frameBytes : UInt32) : Option (UInt32 × UInt32) :=
  let periodBytes64 :=
    (sampleRate.toNat * acAudioDefaultPeriodUs * frameBytes.toNat + 1000000 - 1) / 1000000
  if frameBytes = 0 then none
  else if periodBytes64 = 0 ∨ periodBytes64 > 0xffffffff then none
  else
    let periodBytes := periodBytes64.toUInt32
    let periodBytes := (periodBytes + frameBytes - 1) / frameBytes * frameBytes
    let dmaBufSize := periodBytes * acAudioDefaultPeriodCount
    if dmaBufSize < periodBytes then none
    else some (periodBytes,
      (dmaBufSize + acAudioDmaAlignment - 1) &&& ~~~(acAudioDmaAlignment - 1))

def alignedAddress (address : Nat) : Nat :=
  let alignment := acAudioDmaAlignment.toNat
  (address + alignment - 1) / alignment * alignment

/-- The period size and DMA buffer for the stream parameters; `none` for a failure. -/
def acAudioPrepareDma (index : SlotIndex) (frameBytes : UInt32) :
    ControllerProc (Option (UInt32 × SofDmaBuffer)) := do
  let audio ← streams
  match acAudioDmaSizes (audio.streams index).config.sampleRate frameBytes with
  | none => pure none
  | some (periodBytes, dmaBufSize) => do
      acAudioFreeDma index
      let allocSize := dmaBufSize.toNat + acAudioDmaAlignment.toNat - 1
      let dmaRaw : Option Nat ← command (.alloc allocSize acAudioDmaAlignment)
      match dmaRaw with
      | none => pure none
      | some raw => do
          modifySlot index ({ · with
            dmaRaw := some raw, dmaAligned := alignedAddress raw, dmaBufferSize := dmaBufSize })
          pure (some (periodBytes,
            { size := dmaBufSize
              pages := (dmaBufSize + acAudioDmaAlignment - 1) / acAudioDmaAlignment
              addr := alignedAddress raw }))

def acAudioResetSlot (index : SlotIndex) : ControllerProc Unit := do
  acAudioFreeDma index
  modifySlot index fun slot =>
    { id := slot.id
      dataChannelId := slot.dataChannelId
      channelRegistered := slot.channelRegistered }

/-- The frame size of a configuration, as a 32-bit product. -/
def AcAudioStreamConfig.frameBytes (config : AcAudioStreamConfig) : UInt32 :=
  config.channels.toUInt32 * config.bytesPerSample.toUInt32

/-- The parameters that `ac_audio_prepare_sof_stream` fills in for a configuration. -/
def AcAudioStreamConfig.params (config : AcAudioStreamConfig) (frameFmt : SofFrame)
    (hostPeriodBytes : UInt32) (dmaBuffer : SofDmaBuffer) : SofStreamParams where
  frameFmt := frameFmt
  rate := config.sampleRate
  channels := config.channels
  hostPeriodBytes := hostPeriodBytes
  chmap := acAudioSetDefaultChmap config.channels
  dmaBuffer := dmaBuffer

/-- The stream of a slot, opened if it has none yet. -/
def acAudioOpenSofStream (index : SlotIndex) : ControllerProc (Option Nat) := do
  let audio ← streams
  match (audio.streams index).stream with
  | some stream => pure (some stream)
  | none => do
      let stream : Option Nat ← command (.sofStreamOpen (audio.streams index).streamName)
      modifySlot index ({ · with stream := stream })
      pure stream

def acAudioPrepareSofStream (index : SlotIndex) : ControllerProc Int := do
  let audio ← streams
  let config := (audio.streams index).config
  if !(audio.streams index).allocated then pure (-1)
  else if config.sampleRate = 0 ∨ config.channels = 0 ∨ config.bytesPerSample = 0 then pure (-2)
  else match acAudioFrameFormat config.bytesPerSample with
    | none => pure (-3)
    | some frameFmt =>
        let frameBytes := config.frameBytes
        if frameBytes = 0 ∨ frameBytes > 65535 then pure (-4)
        else do
          match ← acAudioOpenSofStream index with
          | none => pure (-5)
          | some stream => do
              match ← acAudioPrepareDma index frameBytes with
              | none => pure (-6)
              | some (hostPeriodBytes, dmaBuffer) => do
                  let params := config.params frameFmt hostPeriodBytes dmaBuffer
                  let ret : Int ← command (.sofStreamConfig stream params)
                  if ret ≠ 0 then do
                    acAudioFreeDma index
                    pure (-7)
                  else do
                    modifySlot index ({ · with
                      frameBytes := frameBytes.toUInt16, configured := true })
                    pure 0

def acAudioConfigErrorMessage (ret : Int) : String :=
  if ret = -1 then "audio config failed: stream slot is not allocated"
  else if ret = -2 then "audio config failed: invalid stream parameters"
  else if ret = -3 then "audio config failed: unsupported sample format"
  else if ret = -4 then "audio config failed: invalid frame size"
  else if ret = -5 then "audio config failed: stream open failed"
  else if ret = -6 then "audio config failed: dma prepare failed"
  else if ret = -7 then "audio config failed: sof stream config failed"
  else "audio config failed"

/-! ## Stream commands -/

/-- `streamName` is the C string that the caller passes. -/
def acAudioOpen (direction : UInt32) (streamName : Bytes) : ControllerProc (Int × UInt32) := do
  if !acAudioValidDirection direction ∨ streamName = [] then pure (-1, 0)
  else do
    let audio ← streams
    match audio.find (!·.allocated) with
    | none => pure (-1, 0)
    | some index => do
        acAudioResetSlot index
        modifySlot index ({ · with
          allocated := true, direction := direction,
          streamName := acAudioCopyName acAudioStreamNameSize streamName })
        pure (0, (audio.streams index).id)

def acAudioConfigure (streamId : UInt32) (config : AcAudioStreamConfig) : ControllerProc Int := do
  let audio ← streams
  match acAudioFindStream audio streamId with
  | none => pure (-1)
  | some index =>
      if (audio.streams index).running then pure (-1)
      else do
        modifySlot index ({ · with config := config })
        acAudioPrepareSofStream index

/-- Register the data channel of a slot unless that was done before. -/
def acAudioRegisterDataChannel (index : SlotIndex) (slot : AcAudioStreamSlot) :
    ControllerProc Int := do
  if slot.channelRegistered then pure 0
  else do
    let ret : Int ← command (.registerChannel slot.dataChannelId .audioData)
    if ret ≠ 0 then pure (-1)
    else do
      modifySlot index ({ · with channelRegistered := true })
      pure 0

/-- Start the stream of a slot unless it runs. -/
def acAudioTriggerStart (index : SlotIndex) (slot : AcAudioStreamSlot) (stream : Nat) :
    ControllerProc Int := do
  if slot.running then pure 0
  else do
    let ret : Int ← command (.sofStreamTrigger stream .start)
    if ret ≠ 0 then pure (-1)
    else do
      modifySlot index ({ · with running := true })
      pure 0

def acAudioStart (streamId : UInt32) : ControllerProc (Int × UInt16) := do
  let audio ← streams
  match acAudioFindStream audio streamId with
  | none => pure (-1, 0)
  | some index =>
      let slot := audio.streams index
      match slot.stream with
      | none => pure (-1, 0)
      | some stream =>
          if !slot.configured then pure (-1, 0)
          else do
            let ret ← acAudioRegisterDataChannel index slot
            if ret ≠ 0 then pure (-1, 0)
            else do
              let ret : Int ← command (.openChannel slot.dataChannelId)
              if ret ≠ 0 then pure (-1, 0)
              else do
                let ret ← acAudioTriggerStart index slot stream
                if ret ≠ 0 then pure (-1, 0)
                else pure (0, slot.dataChannelId)

/-- Stop the stream of a slot if it runs. -/
def acAudioTriggerStop (slot : AcAudioStreamSlot) : ControllerProc Int := do
  if !slot.running then pure 0
  else match slot.stream with
    | none => pure 0
    | some stream => command (.sofStreamTrigger stream .stop)

def acAudioStop (streamId : UInt32) : ControllerProc Int := do
  let audio ← streams
  match acAudioFindStream audio streamId with
  | none => pure (-1)
  | some index => do
      let ret ← acAudioTriggerStop (audio.streams index)
      if ret ≠ 0 then pure (-1)
      else do
        modifySlot index ({ · with running := false })
        pure 0

/-- Close the SOF stream of a slot, whatever SOF returns. -/
def acAudioCloseSofStream (index : SlotIndex) : Option Nat → ControllerProc Unit
  | none => pure ()
  | some stream => do
      let _ ← command (.sofStreamClose stream)
      modifySlot index ({ · with stream := none })

def acAudioClose (streamId : UInt32) : ControllerProc Int := do
  let audio ← streams
  match acAudioFindStream audio streamId with
  | none => pure (-1)
  | some index => do
      let _ ← acAudioStop streamId
      acAudioCloseSofStream index (audio.streams index).stream
      acAudioFreeDma index
      modifySlot index ({ · with
        allocated := false, configured := false, running := false, direction := 0,
        streamName := [], frameBytes := 0, framesWritten := 0, framesRead := 0 })
      pure 0

/-- The loop of `ac_audio_deinit` over the slots from `indices`. -/
def acAudioDeinitFrom : List SlotIndex → ControllerProc Unit
  | [] => pure ()
  | index :: indices => do
      let audio ← streams
      let slot := audio.streams index
      let _ ← if slot.allocated then acAudioClose slot.id else pure 0
      acAudioDeinitFrom indices

def acAudioDeinit : ControllerProc Unit :=
  acAudioDeinitFrom (List.finRange acTransportAudioMaxStreams)

/-- `ac_transport_close_channel` on the data channel of the slot, if that has one. -/
def acAudioCloseDataChannel (audio : AcAudioController) :
    Option SlotIndex → ControllerProc Unit
  | none => pure ()
  | some index =>
      let slot := audio.streams index
      if slot.channelRegistered then acTransportCloseChannel slot.dataChannelId else pure ()

/-! ## The control channel -/

def acAudioHandleOpen (request : AcTransportFrame) : ControllerProc Int := do
  if request.payload.length < 4 then acTransportSendError request "bad audio open request"
  else do
    let direction := word32 request.payload 0
    let behind : Bytes ← command .bytesBehind
    let streamName := (request.payload.drop 4 ++ behind).takeWhile (· ≠ 0)
    let (ret, streamId) ← acAudioOpen direction streamName
    if ret ≠ 0 then acTransportSendError request "audio open failed"
    else acTransportSendResponse request 0 (le32 streamId)

/-- The configuration in a CONFIG request, behind the stream id. -/
def AcAudioStreamConfig.ofPayload (payload : Bytes) : AcAudioStreamConfig where
  sampleRate := word32 payload 4
  channels := word16 payload 8
  bytesPerSample := word16 payload 10

def acAudioHandleConfig (request : AcTransportFrame) : ControllerProc Int := do
  if request.payload.length < 12 then acTransportSendError request "bad audio config request"
  else do
    let streamId := word32 request.payload 0
    let ret ← acAudioConfigure streamId (.ofPayload request.payload)
    if ret ≠ 0 then acTransportSendError request (acAudioConfigErrorMessage ret)
    else acTransportSendResponse request 0 []

def acAudioHandleStart (request : AcTransportFrame) : ControllerProc Int := do
  let streamId := word32 request.payload 0
  let (ret, dataChannelId) ← acAudioStart streamId
  if ret ≠ 0 then acTransportSendError request "audio start failed"
  else acTransportSendResponse request 0 (le32 streamId ++ le16 dataChannelId ++ le16 0)

def acAudioHandleStop (request : AcTransportFrame) : ControllerProc Int := do
  let streamId := word32 request.payload 0
  let audio ← streams
  let ret ← acAudioStop streamId
  if ret ≠ 0 then acTransportSendError request "audio stop failed"
  else do
    acAudioCloseDataChannel audio (acAudioFindStream audio streamId)
    acTransportSendResponse request 0 []

def acAudioHandleClose (request : AcTransportFrame) : ControllerProc Int := do
  let streamId := word32 request.payload 0
  let audio ← streams
  acAudioCloseDataChannel audio (acAudioFindStream audio streamId)
  let ret ← acAudioClose streamId
  if ret ≠ 0 then acTransportSendError request "audio close failed"
  else acTransportSendResponse request 0 []

def acAudioControlTransportHandler (request : AcTransportFrame) : ControllerProc Int :=
  if request.commandId = acTransportAudioOpen then acAudioHandleOpen request
  else if request.payload.length < 4 then acTransportSendError request "bad audio stream request"
  else if request.commandId = acTransportAudioConfig then acAudioHandleConfig request
  else if request.commandId = acTransportAudioStart then acAudioHandleStart request
  else if request.commandId = acTransportAudioStop then acAudioHandleStop request
  else if request.commandId = acTransportAudioClose then acAudioHandleClose request
  else acTransportSendError request "bad audio control command"

/-! ## Data channels -/

/-- What one round of a transfer loop comes to: nothing could be moved yet, or
`count` bytes were moved, of which `data` is what a read brought. -/
inductive StreamRound where
  | fail
  | wait
  | advance (count : Nat) (data : Bytes) (hcount : 0 < count)

/-- The polling and sleeping of `ac_audio_wait_stream_progress`. -/
def acAudioWaitStreamProgress (stream : Nat) : ControllerProc Int := do
  let ret : Int ← command (.sofStreamPollPosition stream)
  if ret ≠ 0 then pure (-1)
  else do
    let _ ← command (.sleepMs 1)
    pure 0

/-- The `while (remaining > 0u)` of both transfer functions: `retriesLeft` counts
down to the limit of `wait_retries`.  The result is what was read, if all went well. -/
def acAudioTransfer (stream : Nat) (round : Nat → ControllerProc StreamRound)
    (remaining : Nat) (transferred : Bytes) (retriesLeft : Nat) :
    ControllerProc (Option Bytes) :=
  if _hremaining : remaining = 0 then pure (some transferred)
  else do
    match ← round remaining with
    | .fail => pure none
    | .wait =>
        match retriesLeft with
        | 0 => pure none
        | retriesLeft + 1 => do
            let ret ← acAudioWaitStreamProgress stream
            if ret ≠ 0 then pure none
            else acAudioTransfer stream round remaining transferred retriesLeft
    | .advance count data _hcount =>
        acAudioTransfer stream round (remaining - count) (transferred ++ data)
          acAudioStreamWaitRetries
termination_by (remaining, retriesLeft)
decreasing_by
  · exact Prod.Lex.right _ (Nat.lt_succ_self _)
  · exact Prod.Lex.left _ _ (by omega)

/-- A number of bytes, cut to whole frames. -/
def wholeFrames (size frameBytes : Nat) : Nat :=
  size / frameBytes * frameBytes

def acAudioWriteRound (index : SlotIndex) (stream frameBytes : Nat) (payload : Bytes)
    (remaining : Nat) : ControllerProc StreamRound := do
  let freeSize : Int ← command (.sofStreamGetFreeSize stream)
  let writeSize := wholeFrames (min remaining freeSize.toNat) frameBytes
  if freeSize ≤ 0 ∨ writeSize = 0 then pure .wait
  else do
    let current := payload.drop (payload.length - remaining)
    let ret : Option Nat ← command (.sofStreamWrite stream (current.take writeSize))
    match ret with
    | none => pure .fail
    | some ret =>
        if ret > writeSize then pure .fail
        else if hret : ret = 0 then pure .wait
        else if ret % frameBytes ≠ 0 then pure .fail
        else do
          modifySlot index fun slot =>
            { slot with framesWritten := slot.framesWritten + ret / frameBytes }
          pure (.advance ret [] (Nat.pos_of_ne_zero hret))

def acAudioWriteStream (index : SlotIndex) (slot : AcAudioStreamSlot) (payload : Bytes) :
    ControllerProc Int := do
  match slot.stream with
  | none => pure (-1)
  | some stream =>
      if !slot.running ∨ slot.direction ≠ acTransportAudioDirectionPlayback then pure (-1)
      else if payload.length = 0 then pure (-1)
      else if slot.frameBytes = 0 ∨ payload.length % slot.frameBytes.toNat ≠ 0 then pure (-1)
      else do
        let written ← acAudioTransfer stream
          (acAudioWriteRound index stream slot.frameBytes.toNat payload)
          payload.length [] acAudioStreamWaitRetries
        pure (if written.isSome then 0 else -1)

def acAudioReadRound (index : SlotIndex) (stream frameBytes : Nat) (remaining : Nat) :
    ControllerProc StreamRound := do
  let availSize : Int ← command (.sofStreamGetAvailSize stream)
  let readSize := wholeFrames (min remaining availSize.toNat) frameBytes
  if availSize ≤ 0 ∨ readSize = 0 then pure .wait
  else do
    let data : Option Bytes ← command (.sofStreamRead stream readSize)
    match data with
    | none => pure .fail
    | some data =>
        if data.length > readSize then pure .fail
        else if hdata : data.length = 0 then pure .wait
        else if data.length % frameBytes ≠ 0 then pure .fail
        else do
          modifySlot index fun slot =>
            { slot with framesRead := slot.framesRead + data.length / frameBytes }
          pure (.advance data.length data (Nat.pos_of_ne_zero hdata))

/-- At most `capacity` bytes of the stream; `none` for a failure. -/
def acAudioReadStream (index : SlotIndex) (slot : AcAudioStreamSlot) (maxBytes : UInt32)
    (capacity : Nat) : ControllerProc (Option Bytes) := do
  match slot.stream with
  | none => pure none
  | some stream =>
      if !slot.running ∨ slot.direction ≠ acTransportAudioDirectionCapture then pure none
      else if slot.frameBytes = 0 then pure none
      else
        let maxBytes :=
          if maxBytes = 0 ∨ maxBytes.toNat > capacity then capacity else maxBytes.toNat
        let maxBytes := wholeFrames maxBytes slot.frameBytes.toNat
        if maxBytes = 0 then pure none
        else
          acAudioTransfer stream (acAudioReadRound index stream slot.frameBytes.toNat)
            maxBytes [] acAudioStreamWaitRetries

def acAudioHandleWrite (index : SlotIndex) (slot : AcAudioStreamSlot)
    (request : AcTransportFrame) : ControllerProc Int := do
  let ret ← acAudioWriteStream index slot request.payload
  if ret ≠ 0 then acTransportSendError request "audio write failed"
  else acTransportSendResponse request 0 []

def acAudioHandleRead (index : SlotIndex) (slot : AcAudioStreamSlot)
    (request : AcTransportFrame) : ControllerProc Int := do
  let maxBytes :=
    if request.payload.length ≥ 4 then word32 request.payload 0
    else acTransportMaxPayload.toUInt32
  match ← acAudioReadStream index slot maxBytes acTransportMaxPayload with
  | none => acTransportSendError request "audio read failed"
  | some payload => acTransportSendResponse request 0 payload

def acAudioHandleDrain (slot : AcAudioStreamSlot) (request : AcTransportFrame) :
    ControllerProc Int := do
  match slot.stream with
  | none => acTransportSendError request "audio drain failed"
  | some stream =>
      if slot.direction ≠ acTransportAudioDirectionPlayback then
        acTransportSendError request "audio drain failed"
      else do
        let ret : Int ← command (.sofStreamPollPosition stream)
        if ret ≠ 0 then acTransportSendError request "audio drain failed"
        else acTransportSendResponse request 0 []

def acAudioDataTransportHandler (request : AcTransportFrame) : ControllerProc Int := do
  let audio ← streams
  match acAudioFindStreamByChannel audio request.channelId with
  | none => acTransportSendError request "audio stream channel not found"
  | some index =>
      let slot := audio.streams index
      if request.commandId = acTransportAudioWrite then acAudioHandleWrite index slot request
      else if request.commandId = acTransportAudioRead then acAudioHandleRead index slot request
      else if request.commandId = acTransportAudioDrain then acAudioHandleDrain slot request
      else acTransportSendError request "bad audio data command"

end AudioStudio.Controller

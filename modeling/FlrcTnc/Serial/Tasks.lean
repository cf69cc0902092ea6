import FlrcTnc.Kiss.Hosts
import FlrcTnc.Serial.Integrity

/-! The serial tasks of `main.cpp`: `serialRxTask` from the bytes of the host to the backlog of
`PayloadFrame`s for the MAC, and the encoding half of `serialTxTask`. -/

namespace FlrcTnc.Serial

open Kiss

inductive TransportMode
  | genericFragmented | nativePacket
  deriving DecidableEq, Repr

def serialRxBacklogDepth : Nat := 32
/-- `SERIAL_WRAPPED_MAX_LEN * 2u + 3u`. -/
def serialKissEncodedMax : Nat := (tncPayloadMaxLen + serialIntegrityHdrLen) * 2 + 3

/-! ### `serialRxTask` -/

/-- The payload behind a good integrity header; `none` stands for the drop that
`serialRxIntegrityDrops` counts. -/
def integrityPayload (data : List UInt8) : Option (List UInt8) :=
  match parseSerialIntegrityHeader data with
  | none => none
  | some hdr =>
    let payload := (data.drop serialIntegrityHdrLen).take hdr.payloadLen.toNat
    if hdr.magic ≠ serialIntegrityMagic ∨
        hdr.payloadLen.toNat ≠ data.length - serialIntegrityHdrLen ∨
        computeCrc32 payload ≠ hdr.payloadCrc32 then none
    else some payload

/-- The decoder and the backlog, oldest frame first.  Of a `PayloadFrame` the model keeps
`data[0 .. len)`, whatever the length that was copied. -/
structure SerialRx where
  decoder : Decoder := {}
  backlog : List (List UInt8) := []
  deriving DecidableEq, Repr

/-- What happens to the task: a byte of the host while `modemConfig.transportMode` is `mode`, or
room for one frame in `txQueue`. -/
inductive Input
  | read (mode : TransportMode) (byte : UInt8)
  | txQueueSpace
  deriving DecidableEq, Repr

/-- What the task does: `noteKissMalformedFrame`, `handleControlCommand`, an integrity drop, a frame
put in the backlog and one sent to `txQueue`. -/
inductive Output
  | malformed (oversize : Bool)
  | control (data : List UInt8)
  | integrityDrop
  | queued (payload : List UInt8)
  | sent (payload : List UInt8)
  deriving DecidableEq, Repr

def Output.queued? : Output → Option (List UInt8)
  | .queued payload => some payload
  | _ => none

def Output.sent? : Output → Option (List UInt8)
  | .sent payload => some payload
  | _ => none

theorem mem_queued? {outputs : List Output} {payload : List UInt8} :
    payload ∈ outputs.filterMap Output.queued? ↔ .queued payload ∈ outputs := by
  rw [List.mem_filterMap]
  constructor
  · rintro ⟨output, houtput, hpayload⟩
    cases output with
    | queued queued => exact Option.some.inj hpayload ▸ houtput
    | malformed | control | integrityDrop | sent => cases hpayload
  · intro h
    exact ⟨_, h, rfl⟩

/-- A complete frame. -/
def receiveFrame (mode : TransportMode) (frame : KissFrame) : List Output :=
  if frame.command = kissControlFrame then [.control frame.data]
  else if frame.command ≠ kissDataFrame then []
  else
    match mode with
    | .genericFragmented =>
      match integrityPayload frame.data with
      | none => [.integrityDrop]
      | some payload => [.queued payload]
    | .nativePacket => [.queued frame.data]

def receiveResult (mode : TransportMode) : KissDecodeResult → List Output
  | .none => []
  | .oversizeDrop => [.malformed true]
  | .invalidEscapeDrop => [.malformed false]
  | .frame frame => receiveFrame mode frame

/-- One turn of `serialRxTask`; a full backlog leaves the byte unread. -/
def serialRxTask (rx : SerialRx) : Input → SerialRx × List Output
  | .read mode byte =>
    if rx.backlog.length = serialRxBacklogDepth then (rx, [])
    else
      let r := decodeFrameEx rx.decoder byte
      let outputs := receiveResult mode r.2
      ({ decoder := r.1, backlog := rx.backlog ++ outputs.filterMap Output.queued? }, outputs)
  | .txQueueSpace =>
    match rx.backlog with
    | [] => (rx, [])
    | frame :: backlog => ({ rx with backlog }, [.sent frame])

def serialRxRun : SerialRx → List Input → SerialRx × List Output := Transducer.run serialRxTask

/-! ### `serialTxTask` -/

/-- The bytes for the host; none if `encBuf` is too small. -/
def serialTxEncode (mode : TransportMode) (payload : List UInt8) : List UInt8 :=
  match mode with
  | .genericFragmented =>
    let crc := computeCrc32 payload
    let wrapperBuf := buildSerialIntegrityHeader (.ofNat payload.length) crc ++ payload
    encodeFrame kissDataFrame wrapperBuf serialKissEncodedMax
  | .nativePacket => encode payload serialKissEncodedMax

/-! ### The backlog -/

theorem sent?_receiveResult (mode : TransportMode) (result : KissDecodeResult) :
    (receiveResult mode result).filterMap Output.sent? = [] := by
  cases result with
  | none | oversizeDrop | invalidEscapeDrop => rfl
  | frame frame =>
    rw [receiveResult, receiveFrame.eq_def]
    split
    · rfl
    · split
      · rfl
      · cases mode with
        | nativePacket => rfl
        | genericFragmented =>
          dsimp only
          split <;> rfl

/-- The backlog is a queue: a turn keeps the order and loses no frame. -/
theorem serialRxTask_backlog (rx : SerialRx) (input : Input) :
    rx.backlog ++ (serialRxTask rx input).2.filterMap Output.queued? =
      (serialRxTask rx input).2.filterMap Output.sent? ++ (serialRxTask rx input).1.backlog := by
  cases input with
  | read mode byte =>
    rw [serialRxTask]
    split
    · exact List.append_nil _
    · dsimp only
      rw [sent?_receiveResult, List.nil_append]
  | txQueueSpace =>
    obtain ⟨decoder, backlog⟩ := rx
    cases backlog with
    | nil => rfl
    | cons frame backlog => exact List.append_nil _

theorem serialRxRun_backlog (rx : SerialRx) (inputs : List Input) :
    rx.backlog ++ (serialRxRun rx inputs).2.filterMap Output.queued? =
      (serialRxRun rx inputs).2.filterMap Output.sent? ++ (serialRxRun rx inputs).1.backlog := by
  induction inputs generalizing rx with
  | nil => exact List.append_nil _
  | cons input inputs ih =>
    have hstep := serialRxTask_backlog rx input
    have hrest := ih (serialRxTask rx input).1
    rw [serialRxRun] at hrest ⊢
    rw [Transducer.run_cons, List.filterMap_append, List.filterMap_append, ← List.append_assoc,
      hstep,
      List.append_assoc, hrest, List.append_assoc]

/-! ### The envelope on the firmware's side -/

theorem integrityPayload_iff {data payload : List UInt8} :
    integrityPayload data = some payload ↔ data = wrapped payload ∧ payload.length < 2 ^ 16 := by
  rw [eq_wrapped_iff, integrityPayload, parseSerialIntegrityHeader]
  by_cases hshort : data.length < serialIntegrityHdrLen
  · rw [if_pos hshort]
    simp only [reduceCtorEq, false_iff]
    rintro ⟨hlength, _⟩
    omega
  · rw [if_neg hshort]
    dsimp only
    have hall : (readBe16 data 2).toNat = data.length - serialIntegrityHdrLen →
        (data.drop serialIntegrityHdrLen).take (readBe16 data 2).toNat =
          data.drop serialIntegrityHdrLen := fun hlen =>
      List.take_of_length_le (by rw [List.length_drop, hlen])
    split
    · next hbad =>
      simp only [reduceCtorEq, false_iff]
      rintro ⟨_, hmagic, hlen, hcrc, _⟩
      rw [hall hlen] at hbad
      rcases hbad with h | h | h
      · exact h hmagic
      · exact h hlen
      · exact h hcrc.symm
    · next hgood =>
      obtain ⟨hmagic, hlen, hcrc⟩ := not_or.mp hgood |>.imp_right not_or.mp
      rw [not_not] at hmagic hlen hcrc
      rw [hall hlen] at hcrc ⊢
      constructor
      · intro h
        exact ⟨by omega, hmagic, hlen, hcrc.symm, (Option.some.inj h).symm⟩
      · rintro ⟨_, _, _, _, rfl⟩
        rfl

/-- In generic mode a data frame is queued if it is an envelope, as its payload. -/
theorem queued_mem_receiveResult {result : KissDecodeResult} {payload : List UInt8} :
    .queued payload ∈ receiveResult .genericFragmented result ↔
      ∃ frame, result = .frame frame ∧ frame.command = kissDataFrame ∧
        frame.data = wrapped payload ∧ payload.length < 2 ^ 16 := by
  cases result with
  | none | oversizeDrop | invalidEscapeDrop => simp [receiveResult]
  | frame frame =>
    simp only [receiveResult, KissDecodeResult.frame.injEq, exists_eq_left']
    rw [← integrityPayload_iff]
    rw [receiveFrame.eq_def]
    by_cases hcontrol : frame.command = kissControlFrame
    · rw [if_pos hcontrol, hcontrol]
      simp [kissControlFrame, kissDataFrame]
    · rw [if_neg hcontrol]
      by_cases hdata : frame.command = kissDataFrame
      · rw [if_neg (not_not.mpr hdata)]
        dsimp only
        cases integrityPayload frame.data with
        | none => simp
        | some p => simp [hdata, eq_comm]
      · rw [if_pos hdata]
        simp [hdata]

/-! ### From the host to the backlog -/

/-- The byte that an input carries. -/
def Input.byte? : Input → Option UInt8
  | .read _ byte => some byte
  | .txQueueSpace => none

/-- Not read while the modem is in another mode. -/
def Input.InMode (mode : TransportMode) : Input → Prop
  | .read mode' _ => mode' = mode
  | .txQueueSpace => True

theorem filterMap_txQueueSpace {inputs : List Input} (h : inputs.filterMap Input.byte? = [])
    (rx : SerialRx) : (serialRxRun rx inputs).1.decoder = rx.decoder ∧
      (serialRxRun rx inputs).2.filterMap Output.queued? = [] := by
  induction inputs generalizing rx with
  | nil => exact ⟨rfl, rfl⟩
  | cons input inputs ih =>
    cases input with
    | read mode byte => simp [Input.byte?] at h
    | txQueueSpace =>
      obtain ⟨hdecoder, hqueued⟩ := ih (by simpa [Input.byte?] using h)
        (serialRxTask rx .txQueueSpace).1
      have hstep : (serialRxTask rx .txQueueSpace).1.decoder = rx.decoder ∧
          (serialRxTask rx .txQueueSpace).2.filterMap Output.queued? = [] := by
        rw [serialRxTask]
        split <;> exact ⟨rfl, rfl⟩
      rw [serialRxRun] at hdecoder hqueued ⊢
      rw [Transducer.run_cons, List.filterMap_append, hqueued, hstep.2]
      exact ⟨hdecoder.trans hstep.1, rfl⟩

/-- Bytes that complete nothing but a last frame, read whenever and with frames leaving the backlog
in between: the frame is handled as if it came alone. -/
theorem serialRxRun_frame {mode : TransportMode} {inputs : List Input} {kiss : Decoder} {n : Nat}
    {frame : KissFrame} (hmode : ∀ input ∈ inputs, input.InMode mode) {rx : SerialRx}
    (hspace : rx.backlog.length < serialRxBacklogDepth)
    (hresults : decodeAll rx.decoder (inputs.filterMap Input.byte?) =
      (kiss, silence n ++ [.frame frame])) :
    (serialRxRun rx inputs).1.decoder = kiss ∧
      (serialRxRun rx inputs).2.filterMap Output.queued? =
        (receiveFrame mode frame).filterMap Output.queued? := by
  induction inputs generalizing rx n with
  | nil =>
    have hnil := congrArg (fun r => r.2.length) hresults
    simp [decodeAll] at hnil
  | cons input inputs ih =>
    have hrest : ∀ input ∈ inputs, input.InMode mode :=
      fun i hi => hmode i (List.mem_cons_of_mem _ hi)
    rw [serialRxRun, Transducer.run_cons, ← serialRxRun, List.filterMap_append]
    cases input with
    | txQueueSpace =>
      obtain ⟨decoder, backlog⟩ := rx
      cases backlog with
      | nil => exact ih hrest hspace hresults
      | cons sent backlog =>
        have hless : backlog.length < serialRxBacklogDepth := (Nat.lt_succ_self _).trans hspace
        exact ih hrest hless hresults
    | read mode' byte =>
      have hsame : mode' = mode := hmode _ (List.mem_cons_self ..)
      subst hsame
      have hdecode : decodeAll rx.decoder ([byte] ++ inputs.filterMap Input.byte?) =
          (kiss, silence n ++ [.frame frame]) := hresults
      rw [decodeAll_append, decodeAll_singleton, Prod.mk.injEq] at hdecode
      obtain ⟨hend, houts⟩ := hdecode
      rw [serialRxTask, if_neg (Nat.ne_of_lt hspace)]
      dsimp only
      cases n with
      | zero =>
        obtain ⟨hresult, hnone⟩ := List.cons.inj houts
        have hrest : inputs.filterMap Input.byte? = [] := by
          have hlength := decodeAll_length (decodeFrameEx rx.decoder byte).1
            (inputs.filterMap Input.byte?)
          exact List.eq_nil_of_length_eq_zero (hlength.symm.trans (congrArg List.length hnone))
        obtain ⟨hdecoder, hqueued⟩ := filterMap_txQueueSpace hrest
          ⟨(decodeFrameEx rx.decoder byte).1, rx.backlog ++
            (receiveResult mode' (decodeFrameEx rx.decoder byte).2).filterMap Output.queued?⟩
        rw [hdecoder, hqueued, hresult, List.append_nil, ← hend, hrest]
        exact ⟨rfl, rfl⟩
      | succ n =>
        obtain ⟨hresult, hnone⟩ := List.cons.inj houts
        rw [hresult]
        refine ih hrest (n := n) ?_ ?_
        · simpa [receiveResult] using hspace
        · exact Prod.ext hend hnone

/-- The envelope of a payload that the MAC takes is short enough for the decoders and, escaped, for
`encBuf`. -/
theorem wrapped_fits {payload : List UInt8} (h : payload.length ≤ tncPayloadMaxLen) :
    (wrapped payload).length ≤ kissFramePayloadMaxLen ∧
      ((wrapped payload).flatMap escapeByte).length + 3 ≤ serialKissEncodedMax := by
  have hlength := wrapped_length payload
  have hescaped := length_escaped_le (wrapped payload)
  have hmax : tncPayloadMaxLen = 1280 := rfl
  have hcap : kissFramePayloadMaxLen = 1288 := rfl
  have hbuf : serialKissEncodedMax = 2579 := rfl
  omega

theorem receiveFrame_wrapped {payload : List UInt8} (h : payload.length ≤ tncPayloadMaxLen) :
    receiveFrame .genericFragmented ⟨kissDataFrame, wrapped payload, (wrapped_fits h).1⟩ =
      [.queued payload] := by
  have hpayload : integrityPayload (wrapped payload) = some payload :=
    integrityPayload_iff.mpr ⟨rfl, h.trans_lt (by decide)⟩
  rw [receiveFrame.eq_def, if_neg (show kissDataFrame ≠ kissControlFrame by decide),
    if_neg (show ¬ kissDataFrame ≠ kissDataFrame from not_not.mpr rfl)]
  dsimp only
  rw [hpayload]

/-- What a host wrapped and encoded ends as its payload in the backlog. -/
theorem wrapped_received {payload : List UInt8} (hpayload : payload.length ≤ tncPayloadMaxLen)
    {bytes : List UInt8}
    (hbytes : bytes ∈ [KissTun.kissEncode (wrapped payload), KissRs.kissEncode (wrapped payload)])
    {rx : SerialRx} {inputs : List Input} (hidle : rx.decoder.state = .idle)
    (hspace : rx.backlog.length < serialRxBacklogDepth)
    (hmode : ∀ input ∈ inputs, input.InMode .genericFragmented)
    (hread : inputs.filterMap Input.byte? = bytes) :
    (serialRxRun rx inputs).1.decoder.state = .idle ∧
      (serialRxRun rx inputs).2.filterMap Output.queued? = [payload] := by
  obtain ⟨hfits, hbuf⟩ := wrapped_fits hpayload
  have hencoded : bytes = encodeFrame kissDataFrame (wrapped payload) serialKissEncodedMax := by
    obtain ⟨htun, hrs⟩ := kissEncode_eq hbuf
    rcases List.mem_pair.mp hbytes with rfl | rfl
    · exact htun
    · exact hrs
  have hresults := decodeAll_dataFrame hfits hidle hbuf
  rw [← hencoded, ← hread] at hresults
  obtain ⟨hdecoder, hqueued⟩ := serialRxRun_frame hmode hspace hresults
  refine ⟨?_, ?_⟩
  · rw [hdecoder]
  · rw [hqueued, receiveFrame_wrapped hpayload]
    rfl

/-- What the firmware encodes for a host is decoded to the wrapped payload. -/
theorem feed_serialTxEncode {payload : List UInt8} (hpayload : payload.length ≤ tncPayloadMaxLen)
    {decoder : KissTun.KissDecoder 1288} (hidle : decoder.state = .idle) :
    (decoder.feed (serialTxEncode .genericFragmented payload)).2.filterMap id =
      [wrapped payload] := by
  obtain ⟨hfits, hbuf⟩ := wrapped_fits hpayload
  exact KissTun.KissDecoder.feed_encodeFrame (Nat.le_refl kissFramePayloadMaxLen) hidle hfits hbuf

/-- The envelope leaves as much of a frame as a `PayloadFrame` has room for. -/
theorem payload_fits {frame : KissFrame} {payload : List UInt8}
    (hdata : frame.data = wrapped payload) : payload.length ≤ tncPayloadMaxLen := by
  have hfits := frame.fits
  rw [hdata, wrapped_length payload] at hfits
  exact Nat.le_of_add_le_add_right hfits

/-- What is queued came in a data frame that holds it wrapped. -/
theorem queued_was_wrapped {rx : SerialRx} {inputs : List Input} {payload : List UInt8}
    (hmode : ∀ input ∈ inputs, input.InMode .genericFragmented)
    (hqueued : .queued payload ∈ (serialRxRun rx inputs).2) :
    ∃ before byte after frame, inputs = before ++ .read .genericFragmented byte :: after ∧
      (decodeFrameEx (serialRxRun rx before).1.decoder byte).2 = .frame frame ∧
      frame.command = kissDataFrame ∧ frame.data = wrapped payload ∧
      payload.length ≤ Script.serialIntegrityMaxPayloadLen := by
  obtain ⟨before, input, after, rfl, hstep⟩ := Transducer.mem_run _ hqueued
  have hinput := hmode input (List.mem_append_right _ (List.mem_cons_self ..))
  cases input with
  | txQueueSpace =>
    rw [serialRxTask] at hstep
    split at hstep <;> simp at hstep
  | read mode byte =>
    subst hinput
    rw [serialRxTask] at hstep
    split at hstep
    · cases hstep
    · obtain ⟨frame, hframe, hcommand, hdata, _⟩ := queued_mem_receiveResult.mp hstep
      exact ⟨before, byte, after, frame, rfl, hframe, hcommand, hdata, payload_fits hdata⟩

/-- The USB path is transparent in generic mode.  What a host wraps and encodes ends as its payload
in the backlog; what the firmware encodes for a host is unwrapped to the payload; and what is queued
came in the envelope that the hosts write. -/
theorem usb_transparent (zlibCrc32 : List UInt8 → Nat) (crc32fast : List UInt8 → UInt32)
    (hzlib : ∀ data, zlibCrc32 data = (computeCrc32 data).toNat)
    (hfast : ∀ data, crc32fast data = computeCrc32 data) :
    (∀ payload : List UInt8, payload.length ≤ tncPayloadMaxLen →
      ∃ frame, Script.wrapPayload zlibCrc32 payload = .ok frame ∧
        Daemon.wrapPayload crc32fast payload = frame ∧
        ∀ bytes ∈ [KissTun.kissEncode frame, KissRs.kissEncode frame],
          ∀ (rx : SerialRx) (inputs : List Input), rx.decoder.state = .idle →
            rx.backlog.length < serialRxBacklogDepth →
            (∀ input ∈ inputs, input.InMode .genericFragmented) →
            inputs.filterMap Input.byte? = bytes →
            (serialRxRun rx inputs).1.decoder.state = .idle ∧
              (serialRxRun rx inputs).2.filterMap Output.queued? = [payload] ∧
              rx.backlog ++ [payload] = (serialRxRun rx inputs).2.filterMap Output.sent? ++
                (serialRxRun rx inputs).1.backlog) ∧
    (∀ payload : List UInt8, payload.length ≤ tncPayloadMaxLen →
      serialTxEncode .genericFragmented payload ≠ [] ∧
      (∀ decoder : KissTun.KissDecoder 1288, decoder.state = .idle →
        ((decoder.feed (serialTxEncode .genericFragmented payload)).2.filterMap id).map
          (Script.unwrapPayload zlibCrc32) = [.ok payload]) ∧
      ∀ (decoder : KissRs.KissDecoder 1288) (out : List UInt8), decoder.state = .idle →
        ((KissRs.KissDecoder.feedAll (decoder, out)
          (serialTxEncode .genericFragmented payload)).2.filterMap id).map
          (Daemon.unwrapPayload crc32fast) = [.ok payload]) ∧
    ∀ (rx : SerialRx) (inputs : List Input) (payload : List UInt8),
      (∀ input ∈ inputs, input.InMode .genericFragmented) →
      .queued payload ∈ (serialRxRun rx inputs).2 →
      ∃ before byte after frame, inputs = before ++ .read .genericFragmented byte :: after ∧
        (decodeFrameEx (serialRxRun rx before).1.decoder byte).2 = .frame frame ∧
        frame.command = kissDataFrame ∧ Script.wrapPayload zlibCrc32 payload = .ok frame.data ∧
        Daemon.wrapPayload crc32fast payload = frame.data := by
  refine ⟨?_, ?_, ?_⟩
  · intro payload hpayload
    refine ⟨wrapped payload, Script.wrapPayload_eq hzlib hpayload,
      Daemon.wrapPayload_eq hfast payload, ?_⟩
    intro bytes hbytes rx inputs hidle hspace hmode hread
    obtain ⟨hdecoder, hone⟩ := wrapped_received hpayload hbytes hidle hspace hmode hread
    refine ⟨hdecoder, hone, ?_⟩
    rw [← hone]
    exact serialRxRun_backlog rx inputs
  · intro payload hpayload
    refine ⟨?_, ?_, ?_⟩
    · obtain ⟨_, hbuf⟩ := wrapped_fits hpayload
      rw [show serialTxEncode .genericFragmented payload =
        encodeFrame kissDataFrame (wrapped payload) serialKissEncodedMax from rfl,
        encodeFrame_eq hbuf]
      exact List.cons_ne_nil _ _
    · intro decoder hidle
      rw [feed_serialTxEncode hpayload hidle, List.map_singleton,
        (Script.unwrapPayload_iff hzlib).mpr ⟨rfl, hpayload⟩]
    · intro decoder out hidle
      rw [KissRs.KissDecoder.feedAll_eq, feed_serialTxEncode hpayload hidle,
        List.map_singleton,
        (Daemon.unwrapPayload_iff hfast).mpr ⟨rfl, hpayload.trans_lt (by decide)⟩]
  · intro rx inputs payload hmode hqueued
    obtain ⟨before, byte, after, frame, hinputs, hframe, hcommand, hdata, hmax⟩ :=
      queued_was_wrapped hmode hqueued
    refine ⟨before, byte, after, frame, hinputs, hframe, hcommand, ?_, ?_⟩
    · rw [Script.wrapPayload_eq hzlib hmax, hdata]
    · rw [Daemon.wrapPayload_eq hfast, hdata]

/-- A payload that needs escapes, with the hosts' libraries computing the CRC of the firmware. -/
theorem usb_transparent_escapes :
    (serialRxRun {} ((KissTun.kissEncode (wrapped [0xC0, 0xDB, 0x11])).map
        (.read .genericFragmented))).2.filterMap Output.queued? = [[0xC0, 0xDB, 0x11]] := by
  have h := usb_transparent (fun data => (computeCrc32 data).toNat) computeCrc32 (fun _ => rfl)
    (fun _ => rfl)
  obtain ⟨frame, -, hframe, hqueued⟩ := h.1 [0xC0, 0xDB, 0x11] (by decide)
  rw [Daemon.wrapPayload_eq fun _ => rfl] at hframe
  subst hframe
  refine (hqueued _ (List.mem_cons_self ..) {} _ rfl (by decide) ?_ ?_).2.1
  · intro input hinput
    obtain ⟨byte, -, rfl⟩ := List.mem_map.mp hinput
    rfl
  · rw [List.filterMap_map]
    exact List.filterMap_some

/-! ### Frames too long for a `PayloadFrame` -/

/-- The native branch copies what it decoded: the closing `FEND` of a data frame of more bytes than
a `PayloadFrame` has room for. -/
def Overlong (rx : SerialRx) : Input → Prop
  | .read .nativePacket byte =>
    rx.backlog.length ≠ serialRxBacklogDepth ∧ byte = kissFend ∧ rx.decoder.state = .inFrame ∧
      rx.decoder.overflow = false ∧
      ∃ data, rx.decoder.buf = kissDataFrame :: data ∧ tncPayloadMaxLen < data.length
  | _ => False

/-- A frame in the backlog is within `PayloadFrame::data`. -/
def Output.Fits (output : Output) : Prop :=
  ∀ payload, output = .queued payload → payload.length ≤ tncPayloadMaxLen

theorem queued_mem_receiveResult_native {result : KissDecodeResult} {payload : List UInt8} :
    .queued payload ∈ receiveResult .nativePacket result ↔
      ∃ frame, result = .frame frame ∧ frame.command = kissDataFrame ∧ frame.data = payload := by
  cases result with
  | none | oversizeDrop | invalidEscapeDrop => simp [receiveResult]
  | frame frame =>
    simp only [receiveResult, KissDecodeResult.frame.injEq, exists_eq_left']
    rw [receiveFrame.eq_def]
    by_cases hcontrol : frame.command = kissControlFrame
    · rw [if_pos hcontrol, hcontrol]
      simp [kissControlFrame, kissDataFrame]
    · rw [if_neg hcontrol]
      by_cases hdata : frame.command = kissDataFrame
      · rw [if_neg (not_not.mpr hdata)]
        simp [hdata, eq_comm]
      · rw [if_pos hdata]
        simp [hdata]

/-- A turn copies within the frame exactly if it is not the bad one; the checks of the generic
branch are enough of a bound. -/
theorem forall_fits_iff (rx : SerialRx) (input : Input) :
    (∀ output ∈ (serialRxTask rx input).2, output.Fits) ↔ ¬ Overlong rx input := by
  cases input with
  | txQueueSpace =>
    rw [serialRxTask, iff_true_right (show ¬ Overlong rx .txQueueSpace from not_false)]
    split <;> simp [Output.Fits]
  | read mode byte =>
    rw [serialRxTask]
    by_cases hfull : rx.backlog.length = serialRxBacklogDepth
    · rw [if_pos hfull]
      cases mode <;> simp [Overlong, hfull]
    · rw [if_neg hfull]
      dsimp only
      cases mode with
      | genericFragmented =>
        rw [iff_true_right (show ¬ Overlong rx (.read .genericFragmented byte) from not_false)]
        rintro _ houtput payload rfl
        obtain ⟨frame, -, -, hdata, -⟩ := queued_mem_receiveResult.mp houtput
        exact payload_fits hdata
      | nativePacket =>
        rw [Overlong]
        constructor
        · rintro hall ⟨-, hfend, hstate, hoverflow, data, hbuf, hlong⟩
          have hfits : data.length ≤ kissFramePayloadMaxLen := by
            have := rx.decoder.fits
            rw [hbuf] at this
            exact Nat.le_of_succ_le_succ this
          let frame : KissFrame := ⟨kissDataFrame, data, hfits⟩
          have hframe : (decodeFrameEx rx.decoder byte).2 = .frame frame :=
            decodeFrameEx_frame_iff.mpr ⟨hstate, hfend, hoverflow, hbuf⟩
          have hle := hall _ (queued_mem_receiveResult_native.mpr ⟨frame, hframe, rfl, rfl⟩)
            data rfl
          omega
        · rintro hnot _ houtput payload rfl
          by_contra hlong
          obtain ⟨frame, hframe, hcommand, rfl⟩ := queued_mem_receiveResult_native.mp houtput
          obtain ⟨hstate, hfend, hoverflow, hbuf⟩ := decodeFrameEx_frame_iff.mp hframe
          exact hnot ⟨hfull, hfend, hstate, hoverflow, frame.data, hcommand ▸ hbuf, by omega⟩

/-- The bound holds in exactly the runs without an overlong turn. -/
theorem serialRxRun_fits_iff (rx : SerialRx) (inputs : List Input) :
    (∀ payload, .queued payload ∈ (serialRxRun rx inputs).2 → payload.length ≤ tncPayloadMaxLen) ↔
      Transducer.Along serialRxTask (fun rx input => ¬ Overlong rx input) rx inputs := by
  rw [← Transducer.forall_output_iff serialRxTask forall_fits_iff rx inputs]
  constructor
  · rintro h _ houtput payload rfl
    exact h payload houtput
  · intro h payload hpayload
    exact h _ hpayload payload rfl

/-- Whatever the decoder admits is queued in native mode. -/
theorem queued_native {data : List UInt8} (hfits : data.length ≤ kissFramePayloadMaxLen)
    {outBufLen : Nat} (hbuf : (data.flatMap escapeByte).length + 3 ≤ outBufLen) :
    .queued data ∈ (serialRxRun {} ((encodeFrame kissDataFrame data outBufLen).map
      (.read .nativePacket))).2 := by
  have hread (bytes : List UInt8) :
      (bytes.map (Input.read .nativePacket)).filterMap Input.byte? = bytes := by
    rw [List.filterMap_map]
    exact List.filterMap_some
  have hmode (bytes : List UInt8) :
      ∀ input ∈ bytes.map (Input.read .nativePacket), input.InMode .nativePacket := by
    intro input hinput
    obtain ⟨byte, -, rfl⟩ := List.mem_map.mp hinput
    rfl
  have hresults := decodeAll_dataFrame hfits (show ({} : SerialRx).decoder.state = .idle from rfl)
    hbuf
  rw [← hread (encodeFrame _ _ _)] at hresults
  obtain ⟨-, hqueued⟩ := serialRxRun_frame (hmode _) (by decide) hresults
  rw [← mem_queued?, hqueued]
  exact List.mem_singleton.mpr rfl

/-- One byte more than a `PayloadFrame` holds, which the decoder admits for the envelope. -/
theorem overlong_frame :
    .queued (List.replicate 1281 0x11) ∈ (serialRxRun {} ((encodeFrame kissDataFrame
        (List.replicate 1281 0x11) 1284).map (.read .nativePacket))).2 ∧
      ¬ (List.replicate 1281 (0x11 : UInt8)).length ≤ tncPayloadMaxLen := by
  have hlength : (List.replicate 1281 (0x11 : UInt8)).length = 1281 := List.length_replicate
  have hfits : 1281 ≤ kissFramePayloadMaxLen := by decide
  refine ⟨queued_native (hlength.le.trans hfits) (by decide +kernel), ?_⟩
  rw [hlength]
  decide

end FlrcTnc.Serial

import FlrcTnc.Kiss.Sync
import FlrcTnc.Lib.LockedStream
import FlrcTnc.Serial.Tasks

/-! The two writers of the USB stream: `serialTxTask` with what it takes from `rxQueue`, and
`sendControlResponse` with its texts, under `serialWriteMutex`. -/

namespace FlrcTnc.Kiss

/-! ### Frames of any length, and frames cut short -/

/-- Nothing comes out before a `FEND`. -/
theorem feed_fendless (kiss : Decoder) {word : List UInt8} (h : ∀ c ∈ word, c ≠ kissFend) :
    (feed kiss word).2 = [] := by
  induction word generalizing kiss with
  | nil => rfl
  | cons c word ih =>
    have hnone : (decodeFrameEx kiss c).2.emitted = [] := by
      cases hresult : (decodeFrameEx kiss c).2 with
      | frame frame =>
        obtain ⟨_, hfend, _⟩ := decodeFrameEx_frame_iff.mp hresult
        exact absurd hfend (h c (List.mem_cons_self ..))
      | none | oversizeDrop | invalidEscapeDrop => rfl
    rw [feed, Transducer.run_cons, hnone]
    exact ih _ fun d hd => h d (List.mem_cons_of_mem _ hd)

theorem store_state (kiss : Decoder) (byte : UInt8) : (kiss.store byte).state = .inFrame := by
  rw [Decoder.store]
  split <;> rfl

theorem store_overflow {kiss : Decoder} (h : kiss.overflow = true) (byte : UInt8) :
    (kiss.store byte).overflow = true := by
  rw [Decoder.store]
  split
  · exact h
  · rfl

theorem feed_escapeByte {kiss : Decoder} (h : kiss.state = .inFrame) (byte : UInt8) :
    (feed kiss (escapeByte byte)).1 = kiss.store byte := by
  obtain ⟨state, buf, overflow, fits⟩ := kiss
  cases h
  rw [escapeByte]
  split
  · next hfend =>
    subst hfend
    rfl
  · split
    · next hfesc =>
      subst hfesc
      rfl
    · next hfend hfesc =>
      rw [feed_singleton, decodeFrameEx.eq_def]
      simp only [if_neg hfend, if_neg hfesc]

theorem feed_escaped {kiss : Decoder} (h : kiss.state = .inFrame) (payload : List UInt8) :
    (feed kiss (payload.flatMap escapeByte)).1 = payload.foldl Decoder.store kiss := by
  induction payload generalizing kiss with
  | nil => rfl
  | cons byte payload ih =>
    rw [List.flatMap_cons, feed_append, feed_escapeByte h]
    exact ih (store_state kiss byte)

/-- A frame that the buffer cannot hold sets the overflow. -/
theorem foldl_store_overflow {kiss : Decoder} {payload : List UInt8}
    (h : kiss.overflow = true ∨
      kissFramePayloadMaxLen + 1 < kiss.buf.length + payload.length) :
    (payload.foldl Decoder.store kiss).overflow = true := by
  induction payload generalizing kiss with
  | nil => exact h.resolve_right (Nat.not_lt.mpr kiss.fits)
  | cons byte payload ih =>
    refine ih ?_
    rcases h with h | h
    · exact .inl (store_overflow h byte)
    · rw [Decoder.store]
      split
      · right
        simp only [List.length_append, List.length_cons, List.length_nil] at h ⊢
        omega
      · exact .inl rfl

theorem foldl_store_state {kiss : Decoder} (h : kiss.state = .inFrame) (payload : List UInt8) :
    (payload.foldl Decoder.store kiss).state = .inFrame := by
  induction payload generalizing kiss with
  | nil => exact h
  | cons byte payload ih => exact ih (store_state kiss byte)

theorem feed_fend_overflow {kiss : Decoder} (h : kiss.overflow = true) :
    (feed kiss [kissFend]).2 = [] := by
  obtain ⟨state, buf, overflow, fits⟩ := kiss
  cases h
  rw [feed_singleton]
  cases state with
  | idle | escape => rfl
  | inFrame => cases buf <;> rfl

theorem room_of_encodeFrame {command : UInt8} {data : List UInt8} {outBufLen : Nat}
    (hne : (encodeFrame command data outBufLen).length ≠ 0) :
    (data.flatMap escapeByte).length + 3 ≤ outBufLen := by
  rw [encodeFrame_length] at hne
  by_contra hsmall
  exact hne (if_pos (Nat.not_le.mp hsmall))

/-- The frame that a decoder takes from an encoding. -/
def takenFrame (command : UInt8) (data : List UInt8) : List KissFrame :=
  if fits : data.length ≤ kissFramePayloadMaxLen then [⟨command, data, fits⟩] else []

/-- An idle decoder reads an encoding and is idle again, also where the frame is too long for it. -/
theorem feed_encodeFrame {kiss : Decoder} (hidle : kiss.state = .idle) {command : UInt8}
    (hfend : command ≠ kissFend) (hfesc : command ≠ kissFesc) (data : List UInt8)
    {outBufLen : Nat} (hne : (encodeFrame command data outBufLen).length ≠ 0) :
    (feed kiss (encodeFrame command data outBufLen)).1.state = .idle ∧
      (feed kiss (encodeFrame command data outBufLen)).2 = takenFrame command data := by
  have hbuf := room_of_encodeFrame hne
  rw [takenFrame]
  split
  · next fits =>
    let frame : KissFrame := ⟨command, data, fits⟩
    have hframe := decodeAll_encodeFrame hidle (show frame.command ≠ kissFend from hfend) hfesc hbuf
    rw [feed_eq, hframe, List.flatMap_append, emitted_silence]
    exact ⟨rfl, rfl⟩
  · next hlong =>
    have hopen : feed kiss [kissFend] = (inFrameWith [] nil_fits, []) := by
      rw [feed_singleton, decodeFrameEx.eq_def, hidle]
      rfl
    have hshort : [command].length ≤ kissFramePayloadMaxLen + 1 := Nat.le_add_left ..
    have hcommand :
        (feed (inFrameWith [] nil_fits) [command]).1 = inFrameWith [command] hshort := by
      rw [feed_singleton, decodeFrameEx.eq_def]
      simp only [inFrameWith, if_neg hfend, if_neg hfesc]
      rfl
    have hbody := feed_fendless (inFrameWith [] nil_fits) fun c (hc : c ∈ _) =>
      body_ne_fend data hfend hc
    have hstate := foldl_store_state
      (show (inFrameWith [command] hshort).state = .inFrame from rfl) data
    have hoverflow : (data.foldl Decoder.store (inFrameWith [command] hshort)).overflow = true := by
      apply foldl_store_overflow
      right
      rw [inFrameWith, List.length_singleton]
      omega
    rw [encodeFrame_eq hbuf, feed_append, feed_append, hopen, hbody, feed_append, hcommand,
      feed_escaped rfl, feed_fend (by rw [hstate]; decide)]
    refine ⟨rfl, ?_⟩
    rw [List.nil_append, List.nil_append]
    exact feed_fend_overflow hoverflow

/-- An encoding that is not whole gives nothing. -/
theorem feed_encodeFrame_take {kiss : Decoder} (hidle : kiss.state = .idle) {command : UInt8}
    (hfend : command ≠ kissFend) (data : List UInt8) {outBufLen n : Nat}
    (hn : n < (encodeFrame command data outBufLen).length) :
    (feed kiss ((encodeFrame command data outBufLen).take n)).2 = [] := by
  have hbuf := room_of_encodeFrame (Nat.ne_of_gt (Nat.zero_lt_of_lt hn))
  rw [encodeFrame_eq hbuf] at hn ⊢
  have hshort : n ≤ ([kissFend] ++ ([command] ++ data.flatMap escapeByte)).length := by
    rw [List.length_append, List.length_singleton] at hn
    exact Nat.le_of_lt_succ hn
  rw [List.take_append_of_le_length hshort]
  cases n with
  | zero => rfl
  | succ n =>
    have hopen : (feed kiss [kissFend]).2 = [] := by
      rw [feed_singleton, decodeFrameEx.eq_def, hidle]
      rfl
    rw [List.singleton_append, List.take_succ_cons, ← List.singleton_append, feed_append, hopen]
    exact feed_fendless _ fun c hc => body_ne_fend data hfend (List.mem_of_mem_take hc)

/-- Writers of encoded frames share a stream under a lock: a decoder takes from it what is over and
nothing else. -/
theorem feed_locked {ι γ : Type*} [DecidableEq ι] {encode : γ → List UInt8}
    {frames : γ → List KissFrame} {outputs : List (LockedStream.Output ι UInt8 γ)}
    {s : LockedStream.State ι γ} (h : LockedStream.Writes encode outputs s)
    (hwhole : ∀ c (kiss : Decoder), kiss.state = .idle → (encode c).length ≠ 0 →
      (feed kiss (encode c)).1.state = .idle ∧ (feed kiss (encode c)).2 = frames c)
    (hpart : ∀ c (kiss : Decoder) n, kiss.state = .idle → n < (encode c).length →
      (feed kiss ((encode c).take n)).2 = []) :
    (feed {} (LockedStream.written outputs)).2 =
      (LockedStream.finished outputs).flatMap fun entry => frames entry.2 := by
  have hblock (kiss : Decoder) (hkiss : kiss.state = .idle) (entry : ι × γ)
      (hmem : entry ∈ LockedStream.finished outputs) :
      (feed kiss (encode entry.2)).1.state = .idle ∧
        (feed kiss (encode entry.2)).2 = frames entry.2 :=
    hwhole entry.2 kiss hkiss (h.whole entry hmem).ne'
  have hstart : ({} : Decoder).state = .idle := rfl
  obtain ⟨hidle, hframes⟩ := Transducer.run_blocks _ (fun kiss : Decoder => kiss.state = .idle)
    (fun entry : ι × γ => encode entry.2) _ _ hblock hstart
  rw [← feed] at hidle hframes
  have hbegun : (feed (feed {} ((LockedStream.finished outputs).flatMap
      fun entry => encode entry.2)).1 (s.begun encode)).2 = [] := by
    rcases h.begun_cases with hnone | ⟨c, offset, hoffset, htake⟩
    · rw [hnone]
      rfl
    · rw [htake]
      exact hpart c _ offset hidle hoffset
  rw [h.written, feed_append, hbegun, List.append_nil]
  exact hframes

end FlrcTnc.Kiss

namespace FlrcTnc.Serial

open Kiss

/-! ### The writers -/

inductive Writer
  | serialTxTask | sendControlResponse
  deriving DecidableEq, Repr

/-- `SERIAL_TX_WRITE_CHUNK`. -/
def serialTxWriteChunk : Nat := 64
/-- The size of `encBuf` in `sendControlResponse`. -/
def controlEncBufLen : Nat := 1536

/-- What one of them writes: a frame of `rxQueue` in the mode that it finds, or a response. -/
inductive Outgoing
  | frame (mode : TransportMode) (payload : List UInt8)
  | response (text : List UInt8)
  deriving DecidableEq, Repr

/-- The bytes in its `encBuf`; the length of a text is cast to `uint16_t`. -/
def Outgoing.encode : Outgoing → List UInt8
  | .frame mode payload => serialTxEncode mode payload
  | .response text =>
    encodeFrame kissControlFrame (text.take (UInt16.ofNat text.length).toNat) controlEncBufLen

/-- A frame comes from `rxQueue`, a command is answered, a writer takes the mutex, or
`Serial.write` accepts some bytes of those that it is given. -/
inductive UsbInput
  | receive (mode : TransportMode) (payload : List UInt8)
  | respond (text : List UInt8)
  | take (writer : Writer)
  | write (writer : Writer) (accepted : Nat)
  deriving DecidableEq, Repr

/-- The two tasks are writers under a lock; only `serialTxTask` writes in chunks. -/
def UsbInput.toStream : UsbInput → LockedStream.Input Writer Outgoing
  | .receive mode payload => .submit .serialTxTask (.frame mode payload)
  | .respond text => .submit .sendControlResponse (.response text)
  | .take writer => .take writer
  | .write .serialTxTask accepted => .write .serialTxTask (min accepted serialTxWriteChunk)
  | .write .sendControlResponse accepted => .write .sendControlResponse accepted

def usbStep (usb : LockedStream.State Writer Outgoing) (input : UsbInput) :
    LockedStream.State Writer Outgoing × List (LockedStream.Output Writer UInt8 Outgoing) :=
  LockedStream.step Outgoing.encode usb input.toStream

def usbRun : LockedStream.State Writer Outgoing → List UsbInput →
    LockedStream.State Writer Outgoing × List (LockedStream.Output Writer UInt8 Outgoing) :=
  Transducer.run usbStep

/-- A run of the two tasks is one of the stream. -/
theorem usbRun_eq (usb : LockedStream.State Writer Outgoing) (inputs : List UsbInput) :
    usbRun usb inputs = LockedStream.run Outgoing.encode usb (inputs.map UsbInput.toStream) := by
  induction inputs generalizing usb with
  | nil => rfl
  | cons input inputs ih =>
    have hrest := ih (usbStep usb input).1
    rw [usbRun, LockedStream.run] at hrest ⊢
    rw [List.map_cons, Transducer.run_cons, Transducer.run_cons, hrest]
    rfl

theorem usbRun_writes (inputs : List UsbInput) :
    LockedStream.Writes Outgoing.encode (usbRun {} inputs).2 (usbRun {} inputs).1 := by
  rw [usbRun_eq]
  exact LockedStream.Writes.start.run _

/-! ### What the hosts read -/

theorem wrapped_injective : Function.Injective wrapped := by
  intro payload payload' h
  have hdrop := congrArg (List.drop serialIntegrityHdrLen) h
  rwa [wrapped_drop, wrapped_drop] at hdrop

/-- The data of the frame that `serialTxTask` encodes. -/
def serialTxData (mode : TransportMode) (payload : List UInt8) : List UInt8 :=
  if mode = .genericFragmented then wrapped payload else payload

theorem serialTxEncode_eq (mode : TransportMode) (payload : List UInt8) :
    serialTxEncode mode payload =
      encodeFrame kissDataFrame (serialTxData mode payload) serialKissEncodedMax := by
  cases mode <;> rfl

/-- The frame that a decoder takes of it. -/
def Outgoing.frames : Outgoing → List KissFrame
  | .frame mode payload => takenFrame kissDataFrame (serialTxData mode payload)
  | .response text => takenFrame kissControlFrame (text.take (UInt16.ofNat text.length).toNat)

theorem feed_encode {kiss : Decoder} (hidle : kiss.state = .idle) (c : Outgoing)
    (hne : (c.encode).length ≠ 0) :
    (feed kiss c.encode).1.state = .idle ∧ (feed kiss c.encode).2 = c.frames := by
  cases c with
  | frame mode payload =>
    rw [Outgoing.encode, serialTxEncode_eq] at hne ⊢
    exact feed_encodeFrame hidle (by decide) (by decide) _ hne
  | response text => exact feed_encodeFrame hidle (by decide) (by decide) _ hne

theorem feed_encode_take {kiss : Decoder} (hidle : kiss.state = .idle) (c : Outgoing) {n : Nat}
    (hn : n < c.encode.length) : (feed kiss (c.encode.take n)).2 = [] := by
  cases c with
  | frame mode payload =>
    rw [Outgoing.encode, serialTxEncode_eq] at hn ⊢
    exact feed_encodeFrame_take hidle (by decide) _ hn
  | response text => exact feed_encodeFrame_take hidle (by decide) _ hn

theorem feed_written {outputs : List (LockedStream.Output Writer UInt8 Outgoing)}
    {usb : LockedStream.State Writer Outgoing}
    (h : LockedStream.Writes Outgoing.encode outputs usb) :
    (feed {} (LockedStream.written outputs)).2 =
      (LockedStream.finished outputs).flatMap fun entry => entry.2.frames :=
  feed_locked h (fun c _ hidle hne => feed_encode hidle c hne)
    fun c _ _ hidle hn => feed_encode_take hidle c hn

/-- The payloads that a decoder of a host hands out. -/
theorem host_payloads (bytes : List UInt8) :
    (KissTun.KissDecoder.feed ({} : KissTun.KissDecoder kissFramePayloadMaxLen) bytes).2.filterMap
        id = (feed {} bytes).2.filterMap fun frame => dataPayload (.frame frame) := by
  rw [KissTun.KissDecoder.feed_eq (Nat.le_refl _), feed_eq]
  dsimp only
  generalize (decodeAll {} bytes).2 = results
  induction results with
  | nil => rfl
  | cons result results ih =>
    rw [List.map_cons, List.flatMap_cons, List.filterMap_append, ← ih, dataWithin_max]
    cases result with
    | frame frame =>
      change List.filterMap id (dataPayload (.frame frame) :: _) =
        List.filterMap (fun frame => dataPayload (.frame frame)) [frame] ++ _
      cases hpayload : dataPayload (.frame frame) <;> simp [hpayload]
    | none | oversizeDrop | invalidEscapeDrop => rfl

/-- The payload that a host gets of it. -/
def Outgoing.hostPayload? : Outgoing → Option (List UInt8)
  | .frame mode payload =>
    if (serialTxData mode payload).length ≤ kissFramePayloadMaxLen then
      some (serialTxData mode payload)
    else none
  | .response _ => none

theorem dataPayload_takenFrame (command : UInt8) (data : List UInt8) :
    (takenFrame command data).filterMap (fun frame => dataPayload (.frame frame)) =
      (if command = kissDataFrame ∧ data.length ≤ kissFramePayloadMaxLen then some data
        else none).toList := by
  rw [takenFrame]
  split
  · next fits =>
    by_cases hcommand : command = kissDataFrame <;> simp [dataPayload, hcommand, fits]
  · next hlong =>
    rw [if_neg (mt And.right hlong)]
    rfl

theorem Outgoing.filterMap_frames (c : Outgoing) :
    c.frames.filterMap (fun frame => dataPayload (.frame frame)) = c.hostPayload?.toList := by
  cases c with
  | frame mode payload =>
    rw [frames, dataPayload_takenFrame, hostPayload?]
    simp
  | response text =>
    rw [frames, dataPayload_takenFrame, if_neg (mt And.left (by decide))]
    rfl

theorem hostPayloads_written {outputs : List (LockedStream.Output Writer UInt8 Outgoing)}
    {usb : LockedStream.State Writer Outgoing}
    (h : LockedStream.Writes Outgoing.encode outputs usb) :
    (KissTun.KissDecoder.feed ({} : KissTun.KissDecoder kissFramePayloadMaxLen)
        (LockedStream.written outputs)).2.filterMap id =
      (LockedStream.finished outputs).filterMap fun entry => entry.2.hostPayload? := by
  rw [host_payloads, feed_written h, List.filterMap_flatMap]
  simp only [Outgoing.filterMap_frames]
  exact (List.filterMap_eq_flatMap_toList ..).symm

/-- However the two tasks and `Serial.write` take turns, the hosts read whole frames: the payloads
of those that are over, in the order of the mutex, and nothing of a response or of a frame that is
under way.  What each task got to write is over in this order, but for the last. -/
theorem usb_whole_frames (inputs : List UsbInput) (out : List UInt8) :
    let r := usbRun {} inputs
    let stream := LockedStream.written r.2
    let payloads := (LockedStream.finished r.2).filterMap fun entry => entry.2.hostPayload?
    (KissTun.KissDecoder.feed ({} : KissTun.KissDecoder 1288) stream).2.filterMap id = payloads ∧
      (KissRs.KissDecoder.feedAll (({} : KissRs.KissDecoder 1288), out) stream).2.filterMap id =
        payloads ∧
      ∀ writer, Interleaving.eventsOf writer (LockedStream.submitted r.2) =
          Interleaving.eventsOf writer (LockedStream.finished r.2) ++
            (r.1.phase writer).pending ∧
        (r.1.phase writer).pending.length ≤ 1 := by
  intro r stream payloads
  have hwrites := usbRun_writes inputs
  have hpayloads := hostPayloads_written hwrites
  refine ⟨hpayloads, ?_, fun writer => ⟨hwrites.order writer, ?_⟩⟩
  · rw [KissRs.KissDecoder.feedAll_eq]
    exact hpayloads
  · cases r.1.phase writer with
    | ready => exact Nat.zero_le 1
    | waiting | writing => exact Nat.le_refl 1

end FlrcTnc.Serial

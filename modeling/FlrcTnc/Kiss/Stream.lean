import FlrcTnc.Kiss.Codec

/-! The round trip of encoded frames: what `decodeFrameEx` answers to each byte of a stream of
encoded frames with noise around them. -/

namespace FlrcTnc.Kiss

/-- `decodeFrameEx` on one byte after the other: the decoder at the end and its result for each
byte. -/
def decodeAll : Decoder → List UInt8 → Decoder × List KissDecodeResult :=
  Transducer.run fun kiss byte => ((decodeFrameEx kiss byte).1, [(decodeFrameEx kiss byte).2])

theorem decodeAll_append (kiss : Decoder) (u v : List UInt8) :
    decodeAll kiss (u ++ v) =
      ((decodeAll (decodeAll kiss u).1 v).1,
        (decodeAll kiss u).2 ++ (decodeAll (decodeAll kiss u).1 v).2) :=
  Transducer.run_append _ kiss u v

theorem decodeAll_singleton (kiss : Decoder) (byte : UInt8) :
    decodeAll kiss [byte] = ((decodeFrameEx kiss byte).1, [(decodeFrameEx kiss byte).2]) :=
  Transducer.run_singleton _ kiss byte

/-- One result for each byte. -/
theorem decodeAll_length (kiss : Decoder) (bytes : List UInt8) :
    (decodeAll kiss bytes).2.length = bytes.length := by
  induction bytes generalizing kiss with
  | nil => rfl
  | cons byte bytes ih =>
    have htail := ih (decodeFrameEx kiss byte).1
    rw [decodeAll] at htail ⊢
    rw [Transducer.run_cons, List.length_append, htail, List.length_singleton, List.length_cons,
      Nat.add_comm]

/-- The frames emitted are those among the results. -/
theorem feed_eq (kiss : Decoder) (bytes : List UInt8) :
    feed kiss bytes = ((decodeAll kiss bytes).1, (decodeAll kiss bytes).2.flatMap (·.emitted)) := by
  rw [decodeAll, ← Transducer.run_flatMap]
  simp only [List.flatMap_singleton]
  rfl

/-- A frame comes at a closing `FEND` that finds a command and no overflow. -/
theorem decodeFrameEx_frame_iff {kiss : Decoder} {byte : UInt8} {frame : KissFrame} :
    (decodeFrameEx kiss byte).2 = .frame frame ↔
      kiss.state = .inFrame ∧ byte = kissFend ∧ kiss.overflow = false ∧
        kiss.buf = frame.command :: frame.data := by
  rw [decodeFrameEx.eq_def]
  obtain ⟨state, buf, overflow, fits⟩ := kiss
  cases state with
  | idle => by_cases hfend : byte = kissFend <;> simp [hfend]
  | inFrame =>
    by_cases hfend : byte = kissFend
    · cases buf with
      | nil => simp [hfend]
      | cons command data =>
        obtain ⟨command', data', fits'⟩ := frame
        cases overflow <;> simp [hfend]
    · simp only [hfend, if_false, false_and, and_false, iff_false]
      split <;> simp
  | escape => by_cases hescape : byte = kissTfend ∨ byte = kissTfesc <;> simp [hescape]

/-- No result but `NONE` for so many bytes. -/
def silence (n : Nat) : List KissDecodeResult := List.replicate n .none

theorem silence_add (m n : Nat) : silence (m + n) = silence m ++ silence n :=
  List.replicate_add ..

@[simp] theorem emitted_silence (n : Nat) : (silence n).flatMap (·.emitted) = [] :=
  List.flatMap_eq_nil_iff.mpr fun result h => by rw [List.eq_of_mem_replicate h]; rfl

/-! ### Encoded bytes -/

theorem requiredLen_eq (payload : List UInt8) :
    requiredLen payload = (payload.flatMap escapeByte).length + 3 := by
  suffices h : ∀ len,
      payload.foldl (fun len b => len + if b = kissFend ∨ b = kissFesc then 2 else 1)
      len = len + (payload.flatMap escapeByte).length by
    rw [requiredLen, h]
    omega
  induction payload with
  | nil => intro len; rfl
  | cons b payload ih =>
    intro len
    have hbyte : (escapeByte b).length = if b = kissFend ∨ b = kissFesc then 2 else 1 := by
      rw [escapeByte]
      by_cases hfend : b = kissFend
      · simp [hfend]
      · by_cases hfesc : b = kissFesc
        · rw [if_neg hfend, if_pos hfesc, if_pos (.inr hfesc)]
          rfl
        · simp [hfend, hfesc]
    rw [List.foldl_cons, ih, List.flatMap_cons, List.length_append, hbyte]
    omega

theorem length_escaped_le (payload : List UInt8) :
    (payload.flatMap escapeByte).length ≤ 2 * payload.length := by
  induction payload with
  | nil => simp
  | cons b payload ih =>
    have hbyte : (escapeByte b).length ≤ 2 := by
      rw [escapeByte]
      split
      · simp
      · split <;> simp
    rw [List.flatMap_cons, List.length_append, List.length_cons]
    omega

/-- A buffer with room for the frame gets all of it. -/
theorem encodeFrame_eq {command : UInt8} {payload : List UInt8} {outBufLen : Nat}
    (hbuf : (payload.flatMap escapeByte).length + 3 ≤ outBufLen) :
    encodeFrame command payload outBufLen =
      [kissFend] ++ ([command] ++ payload.flatMap escapeByte) ++ [kissFend] := by
  rw [encodeFrame, if_neg (by rw [requiredLen_eq]; omega)]
  rfl

/-- The length of the output; 0 stands for a buffer that is too small. -/
theorem encodeFrame_length (command : UInt8) (payload : List UInt8) (outBufLen : Nat) :
    (encodeFrame command payload outBufLen).length =
      if (payload.flatMap escapeByte).length + 3 > outBufLen then 0
      else (payload.flatMap escapeByte).length + 3 := by
  split
  · next hsmall =>
    rw [encodeFrame, if_pos (by rw [requiredLen_eq]; exact hsmall)]
    rfl
  · next hroom =>
    rw [encodeFrame_eq (by omega)]
    simp

theorem escapeByte_ne_fend {b c : UInt8} (h : c ∈ escapeByte b) : c ≠ kissFend := by
  rw [escapeByte] at h
  split at h
  · rcases List.mem_pair.mp h with rfl | rfl <;> decide
  · split at h
    · rcases List.mem_pair.mp h with rfl | rfl <;> decide
    · rename_i hfend _
      rw [List.mem_singleton.mp h]
      exact hfend

/-- Only the delimiters of a frame are `FEND`. -/
theorem body_ne_fend {command : UInt8} (payload : List UInt8) (hcommand : command ≠ kissFend)
    {c : UInt8} (h : c ∈ [command] ++ payload.flatMap escapeByte) : c ≠ kissFend := by
  rcases List.mem_append.mp h with h | h
  · rw [List.mem_singleton.mp h]
    exact hcommand
  · obtain ⟨b, _, hb⟩ := List.mem_flatMap.mp h
    exact escapeByte_ne_fend hb

/-! ### Inside a frame -/

/-- The decoder inside a frame of which it has read `buf`. -/
def inFrameWith (buf : List UInt8) (fits : buf.length ≤ kissFramePayloadMaxLen + 1) : Decoder :=
  { state := .inFrame, buf, fits }

theorem inFrameWith_store {buf : List UInt8} {byte : UInt8}
    (fits : buf.length ≤ kissFramePayloadMaxLen + 1)
    (h : (buf ++ [byte]).length ≤ kissFramePayloadMaxLen + 1) :
    (inFrameWith buf fits).store byte = inFrameWith (buf ++ [byte]) h := by
  rw [List.length_append, List.length_singleton] at h
  exact dif_pos (show buf.length < kissFramePayloadMaxLen + 1 by omega)

theorem decodeAll_literal (buf : List UInt8) {byte : UInt8}
    (fits : buf.length ≤ kissFramePayloadMaxLen + 1)
    (h : (buf ++ [byte]).length ≤ kissFramePayloadMaxLen + 1) (hfend : byte ≠ kissFend)
    (hfesc : byte ≠ kissFesc) :
    decodeAll (inFrameWith buf fits) [byte] = (inFrameWith (buf ++ [byte]) h, silence 1) := by
  rw [decodeAll_singleton, ← inFrameWith_store fits h]
  simp only [decodeFrameEx, inFrameWith, if_neg hfend, if_neg hfesc]
  rfl

theorem decodeAll_escapeByte {buf : List UInt8} {byte : UInt8}
    (fits : buf.length ≤ kissFramePayloadMaxLen + 1)
    (h : (buf ++ [byte]).length ≤ kissFramePayloadMaxLen + 1) :
    decodeAll (inFrameWith buf fits) (escapeByte byte) =
      (inFrameWith (buf ++ [byte]) h, silence (escapeByte byte).length) := by
  have hescaped (c : UInt8) (hc : c = kissTfend ∨ c = kissTfesc)
      (hbyte : (if c = kissTfend then kissFend else kissFesc) = byte) :
      decodeAll (inFrameWith buf fits) [kissFesc, c] = (inFrameWith (buf ++ [byte]) h,
        silence 2) := by
    have hesc : decodeAll (inFrameWith buf fits) [kissFesc] =
        ({ state := .escape, buf, fits }, silence 1) := rfl
    rw [show [kissFesc, c] = [kissFesc] ++ [c] from rfl, decodeAll_append, hesc,
      decodeAll_singleton,
      ← inFrameWith_store fits h]
    simp only [decodeFrameEx, if_pos hc, hbyte]
    rfl
  rw [escapeByte]
  split
  · next hfend => exact hescaped kissTfend (.inl rfl) (by rw [hfend]; decide)
  · split
    · next hfesc => exact hescaped kissTfesc (.inr rfl) (by rw [hfesc]; decide)
    · next hfend hfesc => exact decodeAll_literal buf fits h hfend hfesc

/-- Escaping is undone byte by byte, without a result before the closing `FEND`. -/
theorem decodeAll_payload (payload buf : List UInt8)
    (fits : buf.length ≤ kissFramePayloadMaxLen + 1)
    (h : (buf ++ payload).length ≤ kissFramePayloadMaxLen + 1) :
    decodeAll (inFrameWith buf fits) (payload.flatMap escapeByte) =
      (inFrameWith (buf ++ payload) h, silence (payload.flatMap escapeByte).length) := by
  induction payload generalizing buf with
  | nil => simp [decodeAll, silence]
  | cons byte payload ih =>
    have hbyte : (buf ++ [byte]).length ≤ kissFramePayloadMaxLen + 1 := by
      simp only [List.length_append, List.length_cons, List.length_nil] at h ⊢
      omega
    have htail : (buf ++ [byte] ++ payload).length ≤ kissFramePayloadMaxLen + 1 := by
      simpa using h
    rw [List.flatMap_cons, decodeAll_append, decodeAll_escapeByte fits hbyte, ih _ hbyte htail,
      List.length_append, silence_add]
    simp

/-- An idle decoder reads one encoded frame and answers its last byte with it. -/
theorem decodeAll_encodeFrame {kiss : Decoder} (hidle : kiss.state = .idle) {frame : KissFrame}
    (hfend : frame.command ≠ kissFend) (hfesc : frame.command ≠ kissFesc) {outBufLen : Nat}
    (hbuf : (frame.data.flatMap escapeByte).length + 3 ≤ outBufLen) :
    decodeAll kiss (encodeFrame frame.command frame.data outBufLen) =
      ({}, silence ((encodeFrame frame.command frame.data outBufLen).length - 1) ++
        [.frame frame]) := by
  have hopen : decodeAll kiss [kissFend] = (inFrameWith [] nil_fits, silence 1) := by
    rw [decodeAll_singleton, decodeFrameEx.eq_def, hidle]
    rfl
  have hcommand := decodeAll_literal [] (by simp) (by simp) hfend hfesc
  have hpayload := decodeAll_payload frame.data ([] ++ [frame.command]) (by simp)
    (by simpa using frame.fits)
  have hclose (fits : ([frame.command] ++ frame.data).length ≤ kissFramePayloadMaxLen + 1) :
      decodeAll (inFrameWith ([frame.command] ++ frame.data) fits) [kissFend] =
        ({}, [.frame frame]) := rfl
  have hlength : (encodeFrame frame.command frame.data outBufLen).length - 1 =
      1 + (1 + (frame.data.flatMap escapeByte).length) := by
    rw [encodeFrame_length, if_neg (by omega)]
    omega
  rw [hlength, encodeFrame_eq hbuf, decodeAll_append, decodeAll_append, hopen, decodeAll_append,
    hcommand, hpayload]
  simp only [List.nil_append, hclose, silence_add, List.append_assoc]

/-- An idle decoder reads one encoded data frame. -/
theorem decodeAll_dataFrame {kiss : Decoder} {payload : List UInt8}
    (hfits : payload.length ≤ kissFramePayloadMaxLen) (hidle : kiss.state = .idle) {outBufLen : Nat}
    (hbuf : (payload.flatMap escapeByte).length + 3 ≤ outBufLen) :
    decodeAll kiss (encodeFrame kissDataFrame payload outBufLen) =
      ({}, silence ((encodeFrame kissDataFrame payload outBufLen).length - 1) ++
        [.frame ⟨kissDataFrame, payload, hfits⟩]) := by
  let frame : KissFrame := ⟨kissDataFrame, payload, hfits⟩
  have hfend : frame.command ≠ kissFend := show kissDataFrame ≠ kissFend by decide
  have hfesc : frame.command ≠ kissFesc := show kissDataFrame ≠ kissFesc by decide
  exact decodeAll_encodeFrame hidle hfend hfesc hbuf

/-- An idle decoder skips the bytes up to the next `FEND`. -/
theorem decodeAll_noise {kiss : Decoder} (hidle : kiss.state = .idle) {noise : List UInt8}
    (h : ∀ c ∈ noise, c ≠ kissFend) : decodeAll kiss noise = (kiss, silence noise.length) := by
  induction noise with
  | nil => rfl
  | cons c noise ih =>
    have hskip : decodeAll kiss [c] = (kiss, silence 1) := by
      rw [decodeAll_singleton, decodeFrameEx.eq_def, hidle]
      simp only [if_neg (h c (List.mem_cons_self ..))]
      rfl
    rw [show c :: noise = [c] ++ noise from rfl, decodeAll_append, hskip,
      ih fun d hd => h d (List.mem_cons_of_mem _ hd), List.length_append, silence_add]
    rfl

/-! ### The round trip -/

/-- A frame of a stream, with the noise before it and the buffer that it is encoded into. -/
structure Burst where
  noise : List UInt8
  frame : KissFrame
  outBufLen : Nat
  silent : ∀ c ∈ noise, c ≠ kissFend
  command_ne_fend : frame.command ≠ kissFend
  command_ne_fesc : frame.command ≠ kissFesc
  room : (frame.data.flatMap escapeByte).length + 3 ≤ outBufLen

namespace Burst

def encoded (burst : Burst) : List UInt8 :=
  encodeFrame burst.frame.command burst.frame.data burst.outBufLen

def bytes (burst : Burst) : List UInt8 := burst.noise ++ burst.encoded

/-- `FRAME` at the closing `FEND`, and nothing before. -/
def results (burst : Burst) : List KissDecodeResult :=
  silence (burst.noise.length + (burst.encoded.length - 1)) ++ [.frame burst.frame]

theorem decodeAll_bytes (burst : Burst) {kiss : Decoder} (hidle : kiss.state = .idle) :
    decodeAll kiss burst.bytes = ({}, burst.results) := by
  rw [bytes, decodeAll_append, decodeAll_noise hidle burst.silent, encoded,
    decodeAll_encodeFrame hidle burst.command_ne_fend burst.command_ne_fesc burst.room, results,
    silence_add, List.append_assoc, encoded]

end Burst

theorem decodeAll_bursts (bursts : List Burst) {kiss : Decoder} (hidle : kiss.state = .idle) :
    (decodeAll kiss (bursts.flatMap (·.bytes))).1.state = .idle ∧
      (decodeAll kiss (bursts.flatMap (·.bytes))).2 = bursts.flatMap (·.results) := by
  refine Transducer.run_blocks _ (fun k : Decoder => k.state = .idle) _ _ bursts ?_ hidle
  intro k hk burst _
  change (decodeAll k burst.bytes).1.state = .idle ∧ (decodeAll k burst.bytes).2 = _
  rw [burst.decodeAll_bytes hk]
  exact ⟨rfl, rfl⟩

/-- Encoded frames with noise around them come out of an idle decoder as they went in, each at its
own closing `FEND`, and the encoder writes the escaped frame or, if the buffer is too small,
nothing. -/
theorem decodeAll_round_trip (bursts : List Burst) (noise : List UInt8) (kiss : Decoder)
    (hidle : kiss.state = .idle) (hnoise : ∀ c ∈ noise, c ≠ kissFend) :
    (decodeAll kiss (bursts.flatMap (·.bytes) ++ noise)).2 =
      bursts.flatMap (·.results) ++ silence noise.length ∧
    ∀ (command : UInt8) (payload : List UInt8) (outBufLen : Nat),
      ((encodeFrame command payload outBufLen).length = 0 ↔
        (payload.flatMap escapeByte).length + 3 > outBufLen) ∧
      ((payload.flatMap escapeByte).length + 3 ≤ outBufLen →
        (encodeFrame command payload outBufLen).length =
          (payload.flatMap escapeByte).length + 3) := by
  refine ⟨?_, fun command payload outBufLen => ⟨?_, ?_⟩⟩
  · obtain ⟨hend, hresults⟩ := decodeAll_bursts bursts hidle
    rw [decodeAll_append, hresults, decodeAll_noise hend hnoise]
  · rw [encodeFrame_length]
    split
    · next hsmall => exact ⟨fun _ => hsmall, fun _ => rfl⟩
    · next hroom => exact ⟨fun hzero => by omega, fun hsmall => absurd hsmall hroom⟩
  · intro hroom
    rw [encodeFrame_length, if_neg (by omega)]

/-- Line noise, a data frame that needs escapes, its double `FEND` and a control frame. -/
theorem decodeAll_round_trip_escapes :
    (decodeAll {} ([0x41] ++ encodeFrame kissDataFrame [0xC0, 0xDB, 0x11] 8 ++
        encodeFrame kissControlFrame [] 3 ++ [0x42])).2 =
      silence 8 ++ [.frame ⟨kissDataFrame, [0xC0, 0xDB, 0x11], by decide⟩] ++ silence 2 ++
        [.frame ⟨kissControlFrame, [], by decide⟩] ++ silence 1 :=
  (decodeAll_round_trip
    [⟨[0x41], ⟨kissDataFrame, [0xC0, 0xDB, 0x11], by decide⟩, 8,
      List.forall_mem_singleton.mpr (by decide), by decide, by decide, by decide⟩,
     ⟨[], ⟨kissControlFrame, [], by decide⟩, 3, List.forall_mem_nil _, by decide, by decide,
      by decide⟩]
    [0x42] {} rfl (List.forall_mem_singleton.mpr (by decide))).1

end FlrcTnc.Kiss

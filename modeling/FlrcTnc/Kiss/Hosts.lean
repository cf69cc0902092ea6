import FlrcTnc.Kiss.Stream

/-! The KISS decoders of the hosts, `pi-daemon/kiss_tun.py`, `pi-daemon-rust/src/kiss.rs` and
`pi-daemon/ReticulumFLRCInterface.py`, and their agreement with the one of the firmware. -/

namespace FlrcTnc.Kiss

/-! ### `kiss_tun.py` -/

namespace KissTun

/-- `mtu` is the argument of `KissDecoder`. -/
structure KissDecoder (mtu : Nat) where
  state : State := .idle
  buf : List UInt8 := []
  overflow : Bool := false
  deriving DecidableEq, Repr

variable {mtu : Nat}

def KissDecoder.append (decoder : KissDecoder mtu) (b : UInt8) : KissDecoder mtu :=
  if decoder.buf.length < mtu + 1 then { decoder with buf := decoder.buf ++ [b] }
  else { decoder with overflow := true }

def KissDecoder.setState (decoder : KissDecoder mtu) (state : State) : KissDecoder mtu :=
  { decoder with state }

theorem KissDecoder.setState_append (decoder : KissDecoder mtu) (b : UInt8) (state : State) :
    (decoder.append b).setState state = (decoder.setState state).append b := by
  rw [append, append, setState, setState]
  split <;> rfl

def KissDecoder.discard (decoder : KissDecoder mtu) : KissDecoder mtu :=
  { decoder with buf := [], overflow := false, state := .idle }

/-- One turn of the loop of `feed`, with the port and the payload that it yields. -/
def KissDecoder.feedByte (decoder : KissDecoder mtu) (b : UInt8) :
    KissDecoder mtu × Option (UInt8 × List UInt8) :=
  match decoder.state with
  | .idle =>
    if b = kissFend then
      ({ decoder with buf := [], overflow := false, state := .inFrame }, none)
    else (decoder, none)
  | .inFrame =>
    if b = kissFend then
      match decoder.buf with
      | [] => ({ decoder with overflow := false, state := .idle }, none)
      | port :: payload =>
        if decoder.overflow then (decoder.discard, none)
        else if port ≠ kissDataFrame then (decoder.discard, none)
        else (decoder.discard, some (kissDataFrame, payload))
    else if b = kissFesc then (decoder.setState .escape, none)
    else (decoder.append b, none)
  | .escape =>
    if b ≠ kissTfend ∧ b ≠ kissTfesc then (decoder.discard, none)
    else
      let b := if b = kissTfend then kissFend else kissFesc
      ((decoder.append b).setState .inFrame, none)

/-- `feed` on a chunk of data: the payloads yielded, each at the byte that completes it. -/
def KissDecoder.feed :
    KissDecoder mtu → List UInt8 → KissDecoder mtu × List (Option (List UInt8)) :=
  Transducer.run fun decoder b => ((decoder.feedByte b).1, [(decoder.feedByte b).2.map (·.2)])

def kissEncode (payload : List UInt8) : List UInt8 :=
  [kissFend, 0x00] ++ payload.flatMap (fun b =>
    if b = kissFend then [kissFesc, kissTfend]
    else if b = kissFesc then [kissFesc, kissTfesc]
    else [b]) ++ [kissFend]

end KissTun

/-! ### `kiss.rs` -/

namespace KissRs

/-- `maxLen` is the argument of `KissDecoder::new`. -/
structure KissDecoder (maxLen : Nat) where
  state : State := .idle
  buf : List UInt8 := []
  overflow : Bool := false
  deriving DecidableEq, Repr

variable {maxLen : Nat}

def KissDecoder.reset (_ : KissDecoder maxLen) : KissDecoder maxLen :=
  { state := .idle, buf := [], overflow := false }

/-- A byte of the frame, kept while `buf` has room for it. -/
def KissDecoder.push (decoder : KissDecoder maxLen) (byte : UInt8) : KissDecoder maxLen :=
  if decoder.buf.length < maxLen + 1 then { decoder with buf := decoder.buf ++ [byte] }
  else { decoder with overflow := true }

/-- `feed`, with what it leaves in `out`. -/
def KissDecoder.feed (decoder : KissDecoder maxLen) (byte : UInt8) (out : List UInt8) :
    Bool × KissDecoder maxLen × List UInt8 :=
  match decoder.state with
  | .idle =>
    if byte = 0xC0 then (false, { buf := [], overflow := false, state := .inFrame }, out)
    else (false, decoder, out)
  | .inFrame =>
    if byte = 0xC0 then
      match decoder.buf with
      | [] => (false, { decoder with overflow := false, state := .idle }, out)
      | port :: payload =>
        if decoder.overflow then (false, { buf := [], overflow := false, state := .idle }, out)
        else if port ≠ 0x00 then (false, { buf := [], overflow := false, state := .idle }, out)
        else (true, { buf := [], overflow := false, state := .idle }, payload)
    else if byte = 0xDB then (false, { decoder with state := .escape }, out)
    else (false, decoder.push byte, out)
  | .escape =>
    if byte ≠ 0xDC ∧ byte ≠ 0xDD then
      (false, { buf := [], overflow := false, state := .idle }, out)
    else
      let decoder : KissDecoder maxLen := { decoder with state := .inFrame }
      let decodedByte := if byte = 0xDC then 0xC0 else if byte = 0xDD then 0xDB else byte
      (false, decoder.push decodedByte, out)

/-- The loop around `feed`, which reads `out` when it returns true. -/
def KissDecoder.feedAll : KissDecoder maxLen × List UInt8 → List UInt8 →
    (KissDecoder maxLen × List UInt8) × List (Option (List UInt8)) :=
  Transducer.run fun s byte =>
    let r := s.1.feed byte s.2
    (r.2, [if r.1 then some r.2.2 else none])

def kissEncode (payload : List UInt8) : List UInt8 :=
  [0xC0, 0x00] ++ payload.flatMap (fun b =>
    if b = 0xC0 then [0xDB, 0xDC]
    else if b = 0xDB then [0xDB, 0xDD]
    else [b]) ++ [0xC0]

end KissRs

/-! ### `ReticulumFLRCInterface.py` -/

namespace Reticulum

def serialIntegrityHdrLen : Nat := 8

/-- The parser state of the interface, whose `HW_MTU` is `hwMtu`; the states 0, 1 and 2 of
`_rx_state` are the three of `State`. -/
structure RxParser (hwMtu : Nat) where
  rxState : State := .idle
  rxBuf : List UInt8 := []
  rxOverflow : Bool := false
  deriving DecidableEq, Repr

variable {hwMtu : Nat}

/-- A byte of the frame, kept while `_rx_buf` has room for it and for the envelope. -/
def RxParser.push (rx : RxParser hwMtu) (b : UInt8) : RxParser hwMtu :=
  if rx.rxBuf.length < hwMtu + serialIntegrityHdrLen + 1 then { rx with rxBuf := rx.rxBuf ++ [b] }
  else { rx with rxOverflow := true }

/-- One turn of the loop of `process_rx_data`, with the payload for `handle_inbound_frame`. -/
def RxParser.processRxByte (rx : RxParser hwMtu) (b : UInt8) :
    RxParser hwMtu × Option (List UInt8) :=
  match rx.rxState with
  | .idle =>
    if b = kissFend then ({ rxBuf := [], rxOverflow := false, rxState := .inFrame }, none)
    else (rx, none)
  | .inFrame =>
    if b = kissFend then
      match rx.rxBuf with
      | [] => ({ rx with rxOverflow := false, rxState := .idle }, none)
      | port :: payload =>
        if rx.rxOverflow then ({ rxBuf := [], rxOverflow := false, rxState := .idle }, none)
        else if port ≠ kissDataFrame then
          ({ rxBuf := [], rxOverflow := false, rxState := .idle }, none)
        else ({ rxBuf := [], rxOverflow := false, rxState := .idle }, some payload)
    else if b = kissFesc then ({ rx with rxState := .escape }, none)
    else (rx.push b, none)
  | .escape =>
    if b ≠ kissTfend ∧ b ≠ kissTfesc then
      ({ rxBuf := [], rxOverflow := false, rxState := .idle }, none)
    else
      let actualByte := if b = kissTfend then kissFend else kissFesc
      ({ rx.push actualByte with rxState := .inFrame }, none)

def RxParser.processRxData : RxParser hwMtu → List UInt8 →
    RxParser hwMtu × List (Option (List UInt8)) :=
  Transducer.run fun rx b => ((rx.processRxByte b).1, [(rx.processRxByte b).2])

end Reticulum

/-! ### The hosts among themselves -/

/-- The decoder of the daemon as one of the script. -/
def KissRs.KissDecoder.toTun {maxLen : Nat} (decoder : KissRs.KissDecoder maxLen) :
    KissTun.KissDecoder maxLen := ⟨decoder.state, decoder.buf, decoder.overflow⟩

theorem KissRs.KissDecoder.push_toTun {maxLen : Nat} (decoder : KissDecoder maxLen) (byte : UInt8) :
    (decoder.push byte).toTun = decoder.toTun.append byte := by
  rw [push, KissTun.KissDecoder.append]
  split
  · next hroom => exact (if_pos hroom).symm
  · next hfull => exact (if_neg hfull).symm

/-- The daemon and the script are in the same state and hand out the same payload. -/
def KissRs.Agrees {maxLen : Nat} (r : Bool × KissDecoder maxLen × List UInt8)
    (p : KissTun.KissDecoder maxLen × Option (UInt8 × List UInt8)) : Prop :=
  r.2.1.toTun = p.1 ∧ (if r.1 then some r.2.2 else none) = p.2.map (·.2)

theorem KissRs.Agrees.ite {maxLen : Nat} {c : Prop} [Decidable c]
    {r r' : Bool × KissDecoder maxLen × List UInt8}
    {p p' : KissTun.KissDecoder maxLen × Option (UInt8 × List UInt8)} (h : Agrees r p)
    (h' : ¬ c → Agrees r' p') : Agrees (if c then r else r') (if c then p else p') := by
  split
  · exact h
  · next hc => exact h' hc

/-- The daemon's decoder makes the same step as the script's. -/
theorem KissRs.KissDecoder.feed_agrees {maxLen : Nat} (decoder : KissDecoder maxLen) (byte : UInt8)
    (out : List UInt8) : Agrees (decoder.feed byte out) (decoder.toTun.feedByte byte) := by
  obtain ⟨state, buf, overflow⟩ := decoder
  cases state with
  | idle => exact .ite ⟨rfl, rfl⟩ fun _ => ⟨rfl, rfl⟩
  | inFrame =>
    refine .ite ?_ fun _ => .ite ⟨rfl, rfl⟩ fun _ => ⟨push_toTun _ byte, rfl⟩
    cases buf with
    | nil => exact ⟨rfl, rfl⟩
    | cons port payload =>
      exact .ite ⟨rfl, rfl⟩ fun _ => .ite ⟨rfl, rfl⟩ fun _ => ⟨rfl, rfl⟩
  | escape =>
    refine .ite ⟨rfl, rfl⟩ fun hescape => ⟨?_, rfl⟩
    -- the daemon tests for both escapes and would keep any other byte as it is
    have hbyte : (if byte = 0xDC then (0xC0 : UInt8) else if byte = 0xDD then 0xDB else byte) =
        if byte = 0xDC then 0xC0 else 0xDB := by
      by_cases hfend : byte = 0xDC
      · rw [if_pos hfend, if_pos hfend]
      · have hfesc : byte = 0xDD := by
          by_contra hne
          exact hescape ⟨hfend, hne⟩
        rw [if_neg hfend, if_pos hfesc, if_neg hfend]
    rw [KissTun.KissDecoder.setState_append]
    dsimp only
    rw [hbyte, push_toTun]
    rfl

/-- The parser of the interface as the decoder of the script with room for the envelope. -/
def Reticulum.RxParser.toTun {hwMtu : Nat} (rx : RxParser hwMtu) :
    KissTun.KissDecoder (hwMtu + serialIntegrityHdrLen) := ⟨rx.rxState, rx.rxBuf, rx.rxOverflow⟩

theorem Reticulum.RxParser.push_toTun {hwMtu : Nat} (rx : RxParser hwMtu) (b : UInt8) :
    (rx.push b).toTun = rx.toTun.append b := by
  rw [push, KissTun.KissDecoder.append]
  split
  · next hroom => exact (if_pos hroom).symm
  · next hfull => exact (if_neg hfull).symm

/-- The interface and the script are in the same state and hand out the same payload. -/
def Reticulum.Agrees {hwMtu : Nat} (r : RxParser hwMtu × Option (List UInt8))
    (p : KissTun.KissDecoder (hwMtu + serialIntegrityHdrLen) × Option (UInt8 × List UInt8)) :
    Prop :=
  r.1.toTun = p.1 ∧ r.2 = p.2.map (·.2)

theorem Reticulum.Agrees.ite {hwMtu : Nat} {c : Prop} [Decidable c]
    {r r' : RxParser hwMtu × Option (List UInt8)}
    {p p' : KissTun.KissDecoder (hwMtu + serialIntegrityHdrLen) × Option (UInt8 × List UInt8)}
    (h : Agrees r p) (h' : Agrees r' p') : Agrees (if c then r else r') (if c then p else p') := by
  split
  · exact h
  · exact h'

/-- The interface's parser makes the same step as the script's decoder. -/
theorem Reticulum.RxParser.processRxByte_agrees {hwMtu : Nat} (rx : RxParser hwMtu) (b : UInt8) :
    Agrees (rx.processRxByte b) (rx.toTun.feedByte b) := by
  obtain ⟨state, buf, overflow⟩ := rx
  cases state with
  | idle => exact .ite ⟨rfl, rfl⟩ ⟨rfl, rfl⟩
  | inFrame =>
    refine .ite ?_ (.ite ⟨rfl, rfl⟩ ⟨push_toTun _ b, rfl⟩)
    cases buf with
    | nil => exact ⟨rfl, rfl⟩
    | cons port payload => exact .ite ⟨rfl, rfl⟩ (.ite ⟨rfl, rfl⟩ ⟨rfl, rfl⟩)
  | escape =>
    refine .ite ⟨rfl, rfl⟩ ⟨?_, rfl⟩
    exact congrArg (·.setState .inFrame) (push_toTun (⟨.escape, buf, overflow⟩ : RxParser hwMtu) _)

/-! ### Firmware and hosts -/

/-- The payload of a data frame. -/
def dataPayload : KissDecodeResult → Option (List UInt8)
  | .frame f => if f.command = kissDataFrame then some f.data else none
  | _ => none

/-- The payload of a data frame, unless it is longer than the cap. -/
def dataWithin (cap : Nat) (result : KissDecodeResult) : Option (List UInt8) :=
  (dataPayload result).filter fun data => data.length ≤ cap

/-- The script's decoder with the cap `mtu` next to the one of the firmware: it holds what fits its
own buffer, and its overflow is theirs or what its buffer is too short for. -/
structure Follows {mtu : Nat} (kiss : Decoder) (decoder : KissTun.KissDecoder mtu) : Prop where
  state : decoder.state = kiss.state
  buf : decoder.buf = kiss.buf.take (mtu + 1)
  overflow : decoder.overflow = (kiss.overflow || decide (mtu + 1 < kiss.buf.length))
  full : kiss.overflow → kiss.buf.length = kissFramePayloadMaxLen + 1

namespace Follows

variable {mtu : Nat} {kiss : Decoder} {decoder : KissTun.KissDecoder mtu}

theorem initial : Follows {} ({} : KissTun.KissDecoder mtu) := ⟨rfl, rfl, rfl, fun h => by cases h⟩

/-- Whatever they were in, an emptied buffer in the same state is followed. -/
theorem emptied (state : State) :
    Follows { state } ({ state } : KissTun.KissDecoder mtu) := ⟨rfl, rfl, rfl, fun h => by cases h⟩

/-- A byte is kept by both, by the firmware alone or by neither. -/
theorem store (h : Follows kiss decoder) (hmtu : mtu ≤ kissFramePayloadMaxLen) (byte : UInt8) :
    Follows (kiss.store byte) ((decoder.append byte).setState .inFrame) := by
  have hlength : decoder.buf.length = min (mtu + 1) kiss.buf.length := by
    rw [h.buf, List.length_take]
  have hfits := kiss.fits
  rw [Decoder.store, KissTun.KissDecoder.append]
  by_cases hroom : kiss.buf.length < kissFramePayloadMaxLen + 1
  · rw [dif_pos hroom]
    have hnot : kiss.overflow = false := by
      by_contra hkiss
      have hfull := h.full (by simpa using hkiss)
      omega
    have hstored : (kiss.buf ++ [byte]).length = kiss.buf.length + 1 := by simp
    by_cases hkept : decoder.buf.length < mtu + 1
    · rw [if_pos hkept]
      refine ⟨rfl, ?_, ?_, fun hfalse => absurd (hnot.symm.trans hfalse) (by decide)⟩
      · dsimp only [KissTun.KissDecoder.setState]
        rw [h.buf, List.take_of_length_le (by omega), List.take_of_length_le (by omega)]
      · dsimp only [KissTun.KissDecoder.setState]
        have hsame : decide (mtu + 1 < kiss.buf.length) =
            decide (mtu + 1 < kiss.buf.length + 1) := decide_eq_decide.mpr (by omega)
        rw [h.overflow, hstored, hsame]
    · rw [if_neg hkept]
      have hlong : mtu + 1 ≤ kiss.buf.length := by omega
      refine ⟨rfl, ?_, ?_, fun hfalse => absurd (hnot.symm.trans hfalse) (by decide)⟩
      · dsimp only [KissTun.KissDecoder.setState]
        rw [h.buf, List.take_append_of_le_length hlong]
      · dsimp only [KissTun.KissDecoder.setState]
        rw [hstored, hnot, Bool.false_or]
        exact (decide_eq_true (by omega)).symm
  · rw [dif_neg hroom, if_neg (by omega)]
    exact ⟨rfl, h.buf, rfl, fun _ => by dsimp only; omega⟩

/-- The closing `FEND`: a frame comes out of the firmware unless its own buffer overflowed, and of
the script if it is a data frame within the cap. -/
theorem close {command : UInt8} {data : List UInt8} {overflow : Bool}
    (fits : (command :: data).length ≤ kissFramePayloadMaxLen + 1) :
    dataWithin mtu (if overflow then .oversizeDrop
        else .frame ⟨command, data, Nat.le_of_succ_le_succ fits⟩) =
      if overflow || decide (mtu + 1 < (command :: data).length) then none
      else if command ≠ kissDataFrame then none else some (data.take mtu) := by
  cases overflow with
  | true => rfl
  | false =>
    simp only [Bool.false_eq_true, if_false, Bool.false_or, decide_eq_true_eq, dataWithin,
      dataPayload]
    by_cases hcommand : command = kissDataFrame
    · rw [if_pos hcommand, if_neg (not_not.mpr hcommand), List.length_cons]
      by_cases hlong : mtu < data.length
      · rw [if_pos (by omega), Option.filter_some, if_neg (by simpa using hlong)]
      · rw [if_neg (by omega), Option.filter_some, if_pos (by simpa using hlong),
          List.take_of_length_le (by omega)]
    · rw [if_neg hcommand, if_pos hcommand, ite_self]
      rfl

/-- What ends a frame for the one ends it for the other, and a data frame within the cap comes out
of both. -/
theorem step (h : Follows kiss decoder) (hmtu : mtu ≤ kissFramePayloadMaxLen) (byte : UInt8) :
    Follows (decodeFrameEx kiss byte).1 (decoder.feedByte byte).1 ∧
      dataWithin mtu (decodeFrameEx kiss byte).2 = (decoder.feedByte byte).2.map (·.2) := by
  rw [KissTun.KissDecoder.feedByte, decodeFrameEx.eq_def, h.state]
  cases hstate : kiss.state with
  | idle =>
    dsimp only
    split
    · exact ⟨emptied .inFrame, rfl⟩
    · exact ⟨h, rfl⟩
  | inFrame =>
    dsimp only
    split
    · obtain ⟨state, buf, overflow, fits⟩ := kiss
      obtain ⟨state', buf', overflow'⟩ := decoder
      obtain ⟨_, rfl, rfl, hfull⟩ := h
      cases buf with
      | nil => exact ⟨emptied .idle, rfl⟩
      | cons command data =>
        have hclose : dataWithin mtu (if overflow then .oversizeDrop
              else .frame ⟨command, data, Nat.le_of_succ_le_succ fits⟩) =
            if overflow || decide (mtu + 1 < (command :: data).length) then none
            else if command ≠ kissDataFrame then none else some (data.take mtu) := close fits
        simp only [List.take_succ_cons, KissTun.KissDecoder.discard, apply_ite Prod.fst,
          apply_ite Prod.snd, apply_ite (Option.map _), ite_self]
        exact ⟨emptied .idle, hclose⟩
    · split
      · exact ⟨⟨rfl, h.buf, h.overflow, h.full⟩, rfl⟩
      · have hstored := h.store hmtu byte
        have hkept : (decoder.append byte).setState .inFrame = decoder.append byte := by
          rw [KissTun.KissDecoder.setState_append,
            KissTun.KissDecoder.setState, ← h.state.trans hstate]
        rw [hkept] at hstored
        exact ⟨hstored, rfl⟩
  | escape =>
    dsimp only
    by_cases hescape : byte = kissTfend ∨ byte = kissTfesc
    · have hvalid : ¬ (byte ≠ kissTfend ∧ byte ≠ kissTfesc) := fun hnone =>
        hescape.elim hnone.1 hnone.2
      rw [if_pos hescape, if_neg hvalid]
      exact ⟨h.store hmtu _, rfl⟩
    · rw [if_neg hescape, if_pos (not_or.mp hescape)]
      exact ⟨emptied .idle, rfl⟩

end Follows

/-! ### Agreement -/

/-- The payloads among the results, each at the byte that completes it. -/
theorem decodeAll_map (f : KissDecodeResult → Option (List UInt8)) (kiss : Decoder)
    (bytes : List UInt8) :
    Transducer.run (fun kiss byte => ((decodeFrameEx kiss byte).1, [f (decodeFrameEx kiss byte).2]))
        kiss bytes = ((decodeAll kiss bytes).1, (decodeAll kiss bytes).2.map f) := by
  have hrun := Transducer.run_flatMap
    (fun kiss byte => ((decodeFrameEx kiss byte).1, [(decodeFrameEx kiss byte).2]))
    (fun result => [f result]) kiss bytes
  simp only [List.flatMap_singleton] at hrun
  rw [hrun, decodeAll, List.map_eq_flatMap]

/-- The script with the cap `mtu` yields what the firmware emits within the cap. -/
theorem KissTun.KissDecoder.feed_eq {mtu : Nat} (hmtu : mtu ≤ kissFramePayloadMaxLen)
    (bytes : List UInt8) :
    (feed ({} : KissDecoder mtu) bytes).2 = (decodeAll {} bytes).2.map (dataWithin mtu) := by
  have hmap := congrArg Prod.snd (decodeAll_map (dataWithin mtu) {} bytes)
  refine Eq.trans ?_ hmap
  refine ((Transducer.run_related Follows ?_ Follows.initial bytes).2).symm
  intro kiss decoder byte h
  obtain ⟨hnext, hout⟩ := h.step hmtu byte
  exact ⟨hnext, by rw [hout]⟩

/-- No frame is longer than the cap of the firmware. -/
theorem dataWithin_max (result : KissDecodeResult) :
    dataWithin kissFramePayloadMaxLen result = dataPayload result := by
  cases result with
  | frame f =>
    rw [dataWithin, dataPayload]
    split
    · rw [Option.filter_some, if_pos (by simpa using f.fits)]
    · rfl
  | none | oversizeDrop | invalidEscapeDrop => rfl

theorem KissRs.KissDecoder.feedAll_eq {maxLen : Nat} (decoder : KissDecoder maxLen)
    (out bytes : List UInt8) :
    (feedAll (decoder, out) bytes).2 = (KissTun.KissDecoder.feed decoder.toTun bytes).2 := by
  refine (Transducer.run_related (fun r p => r.1.toTun = p) ?_ rfl bytes).2
  rintro ⟨decoder, out⟩ _ byte rfl
  obtain ⟨hnext, hout⟩ := decoder.feed_agrees byte out
  exact ⟨hnext, by rw [← hout]⟩

theorem Reticulum.RxParser.processRxData_eq {hwMtu : Nat} (bytes : List UInt8) :
    (processRxData ({} : RxParser hwMtu) bytes).2 =
      (KissTun.KissDecoder.feed ({} : KissTun.KissDecoder
        (hwMtu + serialIntegrityHdrLen)) bytes).2 := by
  refine (Transducer.run_related (fun r p => r.toTun = p) ?_ rfl bytes).2
  rintro rx _ byte rfl
  obtain ⟨hnext, hout⟩ := rx.processRxByte_agrees byte
  exact ⟨hnext, by rw [← hout]⟩

/-- `decode` on one byte after the other. -/
def decodeStream : Decoder → List UInt8 → Decoder × List (Option (List UInt8)) :=
  Transducer.run fun kiss byte => ((decode kiss byte).1, [(decode kiss byte).2])

theorem decode_eq (kiss : Decoder) (byte : UInt8) :
    decode kiss byte = ((decodeFrameEx kiss byte).1,
      dataWithin tncPayloadMaxLen (decodeFrameEx kiss byte).2) := by
  rw [decode]
  split
  · next kiss' frame hframe =>
    rw [hframe]
    simp only [dataWithin, dataPayload]
    by_cases hcommand : frame.command = kissDataFrame
    · rw [if_neg (not_not.mpr hcommand), if_pos hcommand, Option.filter_some]
      by_cases hlong : frame.data.length > tncPayloadMaxLen
      · rw [if_pos hlong, if_neg (by simpa using hlong)]
      · rw [if_neg hlong, if_pos (by simpa using hlong)]
    · rw [if_pos hcommand, if_neg hcommand]
      rfl
  · next kiss' result hother hresult =>
    rw [hresult]
    cases result with
    | frame f => exact absurd rfl (hother f)
    | none | oversizeDrop | invalidEscapeDrop => rfl

/-- For every stream in every chunking, the decoders of the hosts hand out the same payloads at the
same bytes as the firmware does from its data frames; and `decode`, whose buffer is the same, hands
out what the script with the cap 1280 does. -/
theorem decoders_agree (chunks : List (List UInt8)) (out : List UInt8) :
    (Transducer.run KissTun.KissDecoder.feed ({} : KissTun.KissDecoder 1288) chunks).2 =
      (decodeAll {} chunks.flatten).2.map dataPayload ∧
    (Transducer.run KissRs.KissDecoder.feedAll (({} : KissRs.KissDecoder 1288), out) chunks).2 =
      (decodeAll {} chunks.flatten).2.map dataPayload ∧
    (Transducer.run Reticulum.RxParser.processRxData ({} : Reticulum.RxParser 1280) chunks).2 =
      (decodeAll {} chunks.flatten).2.map dataPayload ∧
    (Transducer.run KissTun.KissDecoder.feed ({} : KissTun.KissDecoder 1280) chunks).2 =
      (decodeStream {} chunks.flatten).2 := by
  have hfirmware : (decodeAll {} chunks.flatten).2.map (dataWithin 1288) =
      (decodeAll {} chunks.flatten).2.map dataPayload :=
    List.map_congr_left fun result _ => dataWithin_max result
  have hscript (mtu : Nat) :
      (Transducer.run KissTun.KissDecoder.feed ({} : KissTun.KissDecoder mtu) chunks).2 =
        (KissTun.KissDecoder.feed ({} : KissTun.KissDecoder mtu) chunks.flatten).2 :=
    congrArg Prod.snd (Transducer.run_flatten _ _ chunks)
  have htun : (KissTun.KissDecoder.feed ({} : KissTun.KissDecoder 1288) chunks.flatten).2 =
      (decodeAll {} chunks.flatten).2.map dataPayload :=
    (KissTun.KissDecoder.feed_eq (Nat.le_refl kissFramePayloadMaxLen) chunks.flatten).trans
      hfirmware
  refine ⟨?_, ?_, ?_, ?_⟩
  · exact (hscript 1288).trans htun
  · refine (congrArg Prod.snd (Transducer.run_flatten _ _ chunks)).trans ?_
    exact (KissRs.KissDecoder.feedAll_eq {} out chunks.flatten).trans htun
  · refine (congrArg Prod.snd (Transducer.run_flatten _ _ chunks)).trans ?_
    exact (Reticulum.RxParser.processRxData_eq chunks.flatten).trans htun
  · have hcap : 1280 ≤ kissFramePayloadMaxLen := by decide
    refine ((hscript 1280).trans (KissTun.KissDecoder.feed_eq hcap chunks.flatten)).trans ?_
    rw [decodeStream]
    simp only [decode_eq]
    exact (congrArg Prod.snd (decodeAll_map (dataWithin tncPayloadMaxLen) {} chunks.flatten)).symm

/-! ### Encoded frames -/

/-- The hosts encode as the firmware does with a buffer that is long enough. -/
theorem kissEncode_eq {payload : List UInt8} {outBufLen : Nat}
    (hbuf : (payload.flatMap escapeByte).length + 3 ≤ outBufLen) :
    KissTun.kissEncode payload = encodeFrame kissDataFrame payload outBufLen ∧
      KissRs.kissEncode payload = encodeFrame kissDataFrame payload outBufLen := by
  rw [encodeFrame_eq hbuf]
  exact ⟨rfl, rfl⟩

/-- An idle decoder starts over at the opening `FEND`. -/
theorem KissTun.KissDecoder.feed_idle {mtu : Nat} {decoder : KissDecoder mtu}
    (hidle : decoder.state = .idle) (bytes : List UInt8) :
    (decoder.feed (kissFend :: bytes)).2 = (feed ({} : KissDecoder mtu) (kissFend :: bytes)).2 := by
  have hstep : decoder.feedByte kissFend = feedByte ({} : KissDecoder mtu) kissFend := by
    rw [feedByte, hidle]
    rfl
  rw [feed, Transducer.run_cons, Transducer.run_cons, hstep]

/-- An idle decoder of a host hands out the payload of an encoded frame that fits it, and nothing
else. -/
theorem KissTun.KissDecoder.feed_encodeFrame {mtu : Nat} (hmtu : mtu ≤ kissFramePayloadMaxLen)
    {decoder : KissDecoder mtu} (hidle : decoder.state = .idle) {payload : List UInt8}
    (hpayload : payload.length ≤ mtu) {outBufLen : Nat}
    (hbuf : (payload.flatMap escapeByte).length + 3 ≤ outBufLen) :
    (decoder.feed (encodeFrame kissDataFrame payload outBufLen)).2.filterMap id = [payload] := by
  have hstart : (decoder.feed (encodeFrame kissDataFrame payload outBufLen)).2 =
      (feed ({} : KissDecoder mtu) (encodeFrame kissDataFrame payload outBufLen)).2 := by
    rw [encodeFrame_eq hbuf]
    exact feed_idle hidle _
  have hframe := decodeAll_dataFrame (hpayload.trans hmtu)
    (show ({} : Decoder).state = .idle from rfl)
    hbuf
  have hsilence (n : Nat) : ((silence n).map (dataWithin mtu)).filterMap id = [] := by
    rw [List.filterMap_eq_nil_iff]
    intro a ha
    obtain ⟨result, hresult, rfl⟩ := List.mem_map.mp ha
    rw [List.eq_of_mem_replicate hresult]
    rfl
  have hlast : dataWithin mtu (.frame ⟨kissDataFrame, payload, hpayload.trans hmtu⟩) =
      some payload := by
    rw [dataWithin, dataPayload, if_pos rfl, Option.filter_some, if_pos (by simpa using hpayload)]
  rw [hstart, feed_eq hmtu, hframe, List.map_append, List.filterMap_append, hsilence,
    List.map_singleton, hlast]
  rfl

end FlrcTnc.Kiss

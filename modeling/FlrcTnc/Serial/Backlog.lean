import FlrcTnc.Lib.Ring
import FlrcTnc.Serial.Tasks

/-! The loop of `serialRxTask` as the source has it, with the backlog in a ring of `PayloadFrame`s;
it refines the task with a list for a backlog, of whose frames it keeps what a `PayloadFrame` has
room for. -/

namespace FlrcTnc.Serial

open Kiss

/-- `PayloadFrame`, but for `rssi`, which the task neither sets nor reads. -/
structure PayloadFrame where
  data : Vector UInt8 tncPayloadMaxLen := Vector.replicate tncPayloadMaxLen 0
  len : UInt16 := 0
  deriving DecidableEq, Repr

namespace PayloadFrame

/-- `data[0 .. len)`, as far as `data` goes. -/
def bytes (frame : PayloadFrame) : List UInt8 := frame.data.toList.take frame.len.toNat

/-- `memcpy` of the payload to `frame.data`, and its length to `frame.len`.  What is written past
the end of `data` is in no frame; the two bytes of it that land in `len` are overwritten. -/
def copy (frame : PayloadFrame) (payload : List UInt8) : PayloadFrame where
  data := Vector.ofFn fun i => payload.getD i frame.data[i]
  len := .ofNat payload.length

theorem bytes_length_le (frame : PayloadFrame) : frame.bytes.length ≤ tncPayloadMaxLen := by
  rw [bytes, List.length_take, Vector.length_toList]
  exact Nat.min_le_right ..

/-- Nothing is left of what the frame held before. -/
theorem bytes_copy (frame : PayloadFrame) {payload : List UInt8}
    (h : payload.length < 2 ^ 16) :
    (frame.copy payload).bytes = payload.take tncPayloadMaxLen := by
  have hlen : (frame.copy payload).len.toNat = payload.length := by
    rw [copy, UInt16.toNat_ofNat', Nat.mod_eq_of_lt h]
  rw [bytes, hlen]
  apply List.ext_getElem?
  intro k
  rw [List.getElem?_take, List.getElem?_take]
  by_cases hk : k < payload.length
  · by_cases hroom : k < tncPayloadMaxLen
    · simp [copy, hk, hroom]
    · simp [copy, hk, hroom]
  · simp [hk]

end PayloadFrame

/-- The locals of `serialRxTask`, and the bytes from the host that it has not read. -/
structure SerialRxLocals where
  decoder : Decoder := {}
  frame : PayloadFrame := {}
  backlog : Vector PayloadFrame 32 := Vector.replicate 32 {}
  backlogHead : UInt8 := 0
  backlogTail : UInt8 := 0
  backlogCount : UInt8 := 0
  unread : List UInt8

/-- What one turn of the loop finds: what `uxQueueSpacesAvailable` and `xQueueSend` answer in each
pass of the inner `while`, what `Serial.available` answers, how many bytes `Serial.read` gives
before it fails, and the transport mode at each of them. -/
structure Iteration where
  spaces : Nat → Nat
  sends : Nat → Bool
  available : Int
  readable : Nat
  mode : Nat → TransportMode

/-- A frame that `xQueueSend` takes, a byte that is read with the `backlog_count` that it finds, and
`noteSerialRxBacklogDepth`. -/
inductive BacklogEvent
  | sent (frame : PayloadFrame)
  | read (mode : TransportMode) (byte : UInt8) (backlogCount : UInt8)
  | depth (backlogCount : UInt8)
  deriving DecidableEq, Repr

/-- `(index + 1u) % SERIAL_RX_BACKLOG_DEPTH`. -/
def nextIndex (index : UInt8) : UInt8 := UInt8.ofNat ((index.toNat + 1) % serialRxBacklogDepth)

namespace SerialRxLocals

/-- The inner `while`, which has at most `backlog_count` passes. -/
def drain (it : Iteration) : (passes : Nat) → (pass : Nat) → SerialRxLocals →
    SerialRxLocals × List BacklogEvent
  | 0, _, s => (s, [])
  | passes + 1, pass, s =>
    if s.backlogCount > 0 ∧ it.spaces pass > 0 then
      if ¬ it.sends pass then (s, [])
      else
        let frame := s.backlog.toList.getD s.backlogTail.toNat {}
        let s := { s with
          backlogTail := nextIndex s.backlogTail
          backlogCount := s.backlogCount - 1 }
        let (t, events) := drain it passes (pass + 1) s
        (t, .sent frame :: .depth s.backlogCount :: events)
    else (s, [])

/-- A payload is copied to `frame`, and `frame` to the backlog. -/
def push (s : SerialRxLocals) (payload : List UInt8) : SerialRxLocals :=
  let frame := s.frame.copy payload
  { s with
    frame
    backlog := s.backlog.setIfInBounds s.backlogHead.toNat frame
    backlogHead := nextIndex s.backlogHead
    backlogCount := s.backlogCount + 1 }

/-- What becomes of one byte. -/
def readByte (s : SerialRxLocals) (mode : TransportMode) (byte : UInt8) (unread : List UInt8) :
    SerialRxLocals × List BacklogEvent :=
  let r := decodeFrameEx s.decoder byte
  let read := { s with decoder := r.1, unread }
  match (receiveResult mode r.2).filterMap Output.queued? with
  | [] => (read, [.read mode byte s.backlogCount])
  | payload :: _ =>
    (read.push payload, [.read mode byte s.backlogCount, .depth (read.push payload).backlogCount])

/-- The `for` over what is available, from pass `i` on. -/
def readLoop (it : Iteration) : (passes : Nat) → (i : Nat) → SerialRxLocals →
    SerialRxLocals × List BacklogEvent
  | 0, _, s => (s, [])
  | passes + 1, i, s =>
    if s.backlogCount.toNat = serialRxBacklogDepth then (s, [])
    else if ¬ i < it.readable then (s, [])
    else
      match s.unread with
      | [] => (s, [])
      | byte :: unread =>
        let (s, events) := s.readByte (it.mode i) byte unread
        let (t, more) := readLoop it passes (i + 1) s
        (t, events ++ more)

/-- One turn of `for (;;)`. -/
def iterate (s : SerialRxLocals) (it : Iteration) : SerialRxLocals × List BacklogEvent :=
  let (s, drained) := drain it s.backlogCount.toNat 0 s
  if s.backlogCount.toNat = serialRxBacklogDepth then (s, drained)
  else if it.available > 0 then
    let (s, events) := readLoop it it.available.toNat 0 s
    (s, drained ++ events)
  else (s, drained)

/-- The turns of the loop one after another. -/
def run : SerialRxLocals → List Iteration → SerialRxLocals × List BacklogEvent :=
  Transducer.run iterate

/-! ### The ring -/

/-- `backlog[k]`. -/
def cells (s : SerialRxLocals) (k : Nat) : PayloadFrame := s.backlog.toList.getD k {}

/-- The frames from `backlog_tail` on. -/
def frames (s : SerialRxLocals) : List PayloadFrame :=
  Ring.contents serialRxBacklogDepth s.cells s.backlogTail.toNat s.backlogCount.toNat

def InRange (s : SerialRxLocals) : Prop :=
  Ring.InRange serialRxBacklogDepth s.backlogHead.toNat s.backlogTail.toNat s.backlogCount.toNat

theorem nextIndex_toNat (index : UInt8) :
    (nextIndex index).toNat = (index.toNat + 1) % serialRxBacklogDepth := by
  rw [nextIndex, UInt8.toNat_ofNat', Nat.mod_eq_of_lt]
  simp only [serialRxBacklogDepth]
  omega

theorem frames_length (s : SerialRxLocals) : s.frames.length = s.backlogCount.toNat :=
  Ring.contents_length ..

variable {s : SerialRxLocals}

theorem InRange.push (h : s.InRange) (hroom : s.backlogCount.toNat < serialRxBacklogDepth)
    (payload : List UInt8) :
    (s.push payload).InRange ∧
      (s.push payload).frames = s.frames ++ [s.frame.copy payload] := by
  have hcount : (s.backlogCount + 1).toNat = s.backlogCount.toNat + 1 := by
    rw [UInt8.toNat_add]
    simp only [serialRxBacklogDepth] at hroom
    simp
    omega
  have hhead : s.backlogHead.toNat < 32 := by
    rw [h.head_eq]
    exact Nat.mod_lt _ (by decide)
  have hcells : (s.push payload).cells =
      Function.update s.cells s.backlogHead.toNat (s.frame.copy payload) := by
    funext k
    simp only [cells, SerialRxLocals.push, Function.update_apply, List.getD_eq_getElem?_getD]
    by_cases hk : k = s.backlogHead.toNat
    · subst hk
      simp [hhead]
    · simp [hk, Ne.symm hk]
  constructor
  · rw [InRange, SerialRxLocals.push, nextIndex_toNat, hcount]
    exact Ring.InRange.push h hroom
  · have htail : (s.push payload).backlogTail = s.backlogTail := by
      rw [SerialRxLocals.push]
    have hnext : (s.push payload).backlogCount = s.backlogCount + 1 := by
      rw [SerialRxLocals.push]
    rw [frames, frames, hcells, h.head_eq, htail, hnext, hcount]
    exact Ring.contents_push s.cells hroom (s.frame.copy payload)

theorem InRange.pop (h : s.InRange) (hsome : 0 < s.backlogCount.toNat) :
    InRange { s with
      backlogTail := nextIndex s.backlogTail
      backlogCount := s.backlogCount - 1 } ∧
    s.frames = s.backlog.toList.getD s.backlogTail.toNat {} :: frames { s with
      backlogTail := nextIndex s.backlogTail
      backlogCount := s.backlogCount - 1 } := by
  obtain ⟨n, hn⟩ := Nat.exists_eq_add_of_le' hsome
  have hcount : (s.backlogCount - 1).toNat = n := by
    have hle : (1 : UInt8) ≤ s.backlogCount := UInt8.le_iff_toNat_le.mpr hsome
    rw [UInt8.toNat_sub_of_le _ _ hle, hn]
    rfl
  constructor
  · rw [InRange, nextIndex_toNat, hcount]
    rw [InRange, hn] at h
    exact Ring.InRange.pop h
  · rw [frames, frames, hn, hcount, nextIndex_toNat]
    exact Ring.contents_pop _ h.tail_lt

end SerialRxLocals

/-! ### Refinement -/

/-- The input of the task with a list that an event stands for. -/
def BacklogEvent.input? : BacklogEvent → Option Input
  | .sent _ => some .txQueueSpace
  | .read mode byte _ => some (.read mode byte)
  | .depth _ => none

def BacklogEvent.sent? : BacklogEvent → Option PayloadFrame
  | .sent frame => some frame
  | .read .. | .depth _ => none

def BacklogEvent.read? : BacklogEvent → Option (TransportMode × UInt8)
  | .read mode byte _ => some (mode, byte)
  | .sent _ | .depth _ => none

/-- The frames that `xQueueSend` took, in order. -/
def framesSent (events : List BacklogEvent) : List PayloadFrame :=
  events.filterMap BacklogEvent.sent?

/-- The bytes that were read, in order, with the mode at each. -/
def bytesRead (events : List BacklogEvent) : List (TransportMode × UInt8) :=
  events.filterMap BacklogEvent.read?

/-- One byte of the host, and the data frame that it completes, if that passes the checks of the
mode. -/
def checkByte (decoder : Decoder) (input : TransportMode × UInt8) :
    Decoder × List (List UInt8) :=
  let r := decodeFrameEx decoder input.2
  (r.1, (receiveResult input.1 r.2).filterMap Output.queued?)

/-- The data frames in the bytes that pass the checks of the mode, in order. -/
def passedFrames (reads : List (TransportMode × UInt8)) : List (List UInt8) :=
  (Transducer.run checkByte {} reads).2

/-- No byte is read with the backlog full, and `backlog_count` never exceeds its depth. -/
def BacklogEvent.WithinDepth : BacklogEvent → Prop
  | .read _ _ backlogCount => backlogCount.toNat < serialRxBacklogDepth
  | .depth backlogCount => backlogCount.toNat ≤ serialRxBacklogDepth
  | .sent _ => True

/-- What a `PayloadFrame` has room for. -/
def clip (payload : List UInt8) : List UInt8 := payload.take tncPayloadMaxLen

/-- The loop is where the task with a list is, with as much of each frame in the ring as a cell has
room for. -/
structure SerialRxLocals.Holds (s : SerialRxLocals) (rx : SerialRx) : Prop where
  inRange : s.InRange
  decoder : rx.decoder = s.decoder
  frames : s.frames.map PayloadFrame.bytes = rx.backlog.map clip

/-- The loop goes from `s` to `t` as the task with a list does on the same inputs, and reads the
bytes in order. -/
structure SerialRxLocals.Refines (s : SerialRxLocals) (rx : SerialRx)
    (events : List BacklogEvent) (t : SerialRxLocals) : Prop where
  withinDepth : ∀ ev ∈ events, ev.WithinDepth
  unread : s.unread = (bytesRead events).map Prod.snd ++ t.unread
  holds : t.Holds (serialRxRun rx (events.filterMap BacklogEvent.input?)).1
  sent : (framesSent events).map PayloadFrame.bytes =
    ((serialRxRun rx (events.filterMap BacklogEvent.input?)).2.filterMap Output.sent?).map clip
  passed : Transducer.run checkByte s.decoder (bytesRead events) =
    (t.decoder, (serialRxRun rx (events.filterMap BacklogEvent.input?)).2.filterMap
      Output.queued?)

namespace SerialRxLocals

variable {s t u : SerialRxLocals} {rx : SerialRx} {events events' : List BacklogEvent}

theorem Refines.refl (h : s.Holds rx) : s.Refines rx [] s :=
  ⟨fun _ hev => (nomatch hev), rfl, h, rfl, rfl⟩

theorem Refines.trans (h : s.Refines rx events t)
    (h' : t.Refines (serialRxRun rx (events.filterMap BacklogEvent.input?)).1 events' u) :
    s.Refines rx (events ++ events') u := by
  have hrun : serialRxRun rx ((events ++ events').filterMap BacklogEvent.input?) =
      ((serialRxRun (serialRxRun rx (events.filterMap BacklogEvent.input?)).1
          (events'.filterMap BacklogEvent.input?)).1,
        (serialRxRun rx (events.filterMap BacklogEvent.input?)).2 ++
          (serialRxRun (serialRxRun rx (events.filterMap BacklogEvent.input?)).1
            (events'.filterMap BacklogEvent.input?)).2) := by
    rw [List.filterMap_append]
    exact Transducer.run_append ..
  have hreads : bytesRead (events ++ events') = bytesRead events ++ bytesRead events' :=
    List.filterMap_append
  refine ⟨fun ev hev => ?_, ?_, ?_, ?_, ?_⟩
  · rcases List.mem_append.mp hev with hev | hev
    · exact h.withinDepth ev hev
    · exact h'.withinDepth ev hev
  · rw [h.unread, h'.unread, hreads, List.map_append, List.append_assoc]
  · rw [hrun]
    exact h'.holds
  · rw [hrun, List.filterMap_append, List.map_append, ← h.sent, ← h'.sent, framesSent,
      List.filterMap_append, List.map_append]
    rfl
  · rw [hreads, Transducer.run_append, h.passed, h'.passed, hrun, List.filterMap_append]

/-- One pass of the inner `while`. -/
theorem refines_pop (h : s.Holds rx) (hsome : 0 < s.backlogCount.toNat) :
    s.Refines rx
      [.sent (s.backlog.toList.getD s.backlogTail.toNat {}), .depth (s.backlogCount - 1)]
      { s with
        backlogTail := nextIndex s.backlogTail
        backlogCount := s.backlogCount - 1 } := by
  obtain ⟨hrange, hframes⟩ := h.inRange.pop hsome
  obtain ⟨decoder, backlog⟩ := rx
  obtain rfl : decoder = s.decoder := h.decoder
  have hcells := h.frames
  rw [hframes, List.map_cons] at hcells
  cases backlog with
  | nil => cases hcells
  | cons payload backlog =>
    obtain ⟨hfirst, hrest⟩ := List.cons.inj hcells
    refine ⟨?_, rfl, ⟨hrange, rfl, hrest⟩, ?_, rfl⟩
    · intro ev hev
      rcases List.mem_pair.mp hev with rfl | rfl
      · trivial
      · exact hrange.count_le
    · exact congrArg (fun frame => [frame]) hfirst

theorem drain_refines (it : Iteration) (passes pass : Nat) (h : s.Holds rx) :
    s.Refines rx (drain it passes pass s).2 (drain it passes pass s).1 := by
  induction passes generalizing s rx pass with
  | zero => exact .refl h
  | succ passes ih =>
    rw [drain]
    split
    · next hspace =>
      split
      · exact .refl h
      · have hsome : 0 < s.backlogCount.toNat := UInt8.lt_iff_toNat_lt.mp hspace.1
        have hpop := refines_pop h hsome
        exact hpop.trans (ih (pass + 1) hpop.holds)
    · exact .refl h

/-- A frame of the host is at most one data frame. -/
theorem queued_length_le_one (mode : TransportMode) (result : KissDecodeResult) :
    ((receiveResult mode result).filterMap Output.queued?).length ≤ 1 := by
  cases result with
  | none | oversizeDrop | invalidEscapeDrop => exact Nat.zero_le 1
  | frame frame =>
    rw [receiveResult, receiveFrame.eq_def]
    split
    · exact Nat.zero_le 1
    · split
      · exact Nat.zero_le 1
      · cases mode with
        | nativePacket => exact Nat.le_refl 1
        | genericFragmented =>
          dsimp only
          split
          · exact Nat.zero_le 1
          · exact Nat.le_refl 1

/-- A data frame is no longer than what the decoder admits. -/
theorem queued_length_le {mode : TransportMode} {result : KissDecodeResult} {payload : List UInt8}
    (h : .queued payload ∈ receiveResult mode result) :
    payload.length ≤ kissFramePayloadMaxLen := by
  cases mode with
  | genericFragmented =>
    obtain ⟨frame, -, -, hdata, -⟩ := queued_mem_receiveResult.mp h
    exact (payload_fits hdata).trans (by decide)
  | nativePacket =>
    obtain ⟨frame, -, -, rfl⟩ := queued_mem_receiveResult_native.mp h
    exact frame.fits

/-- A byte that the task with a list reads. -/
theorem Holds.read (h : s.Holds rx) (hroom : s.backlogCount.toNat < serialRxBacklogDepth)
    (mode : TransportMode) (byte : UInt8) : serialRxRun rx [.read mode byte] =
      (⟨(decodeFrameEx s.decoder byte).1, rx.backlog ++
        (receiveResult mode (decodeFrameEx s.decoder byte).2).filterMap Output.queued?⟩,
        receiveResult mode (decodeFrameEx s.decoder byte).2) := by
  have hlength : s.frames.length = rx.backlog.length := by
    simpa using congrArg List.length h.frames
  have hnotfull : ¬ rx.backlog.length = serialRxBacklogDepth := by
    rw [← hlength, frames_length]
    omega
  rw [serialRxRun, Transducer.run_singleton, serialRxTask, if_neg hnotfull, h.decoder]

/-- Events that read a byte, after which the loop is where the task with a list is. -/
theorem Holds.refines_read (h : s.Holds rx) (hroom : s.backlogCount.toNat < serialRxBacklogDepth)
    {mode : TransportMode} {byte : UInt8}
    (hinput : events.filterMap BacklogEvent.input? = [.read mode byte])
    (hread : bytesRead events = [(mode, byte)]) (hsent : framesSent events = [])
    (hdepth : ∀ ev ∈ events, ev.WithinDepth) (hunread : s.unread = byte :: t.unread)
    (hholds : t.Holds ⟨(decodeFrameEx s.decoder byte).1, rx.backlog ++
      (receiveResult mode (decodeFrameEx s.decoder byte).2).filterMap Output.queued?⟩) :
    s.Refines rx events t := by
  have hrun := h.read hroom mode byte
  refine ⟨hdepth, ?_, ?_, ?_, ?_⟩
  · rw [hread, hunread]
    rfl
  · rw [hinput, hrun]
    exact hholds
  · rw [hinput, hrun, hsent, sent?_receiveResult]
    rfl
  · rw [hinput, hrun, hread, Transducer.run_singleton, ← hholds.decoder]
    rfl

/-- One pass of the `for` that reads a byte. -/
theorem readByte_refines (h : s.Holds rx) (hroom : s.backlogCount.toNat < serialRxBacklogDepth)
    (mode : TransportMode) {byte : UInt8} {unread : List UInt8}
    (hunread : s.unread = byte :: unread) :
    s.Refines rx (s.readByte mode byte unread).2 (s.readByte mode byte unread).1 := by
  have hone := queued_length_le_one mode (decodeFrameEx s.decoder byte).2
  rw [readByte]
  cases hqueued : (receiveResult mode (decodeFrameEx s.decoder byte).2).filterMap
      Output.queued? with
  | nil =>
    refine h.refines_read hroom rfl rfl rfl ?_ hunread ?_
    · intro ev hev
      rw [List.mem_singleton.mp hev]
      exact hroom
    · rw [hqueued, List.append_nil]
      exact ⟨h.inRange, rfl, h.frames⟩
  | cons payload rest =>
    obtain rfl : rest = [] := by
      rw [hqueued, List.length_cons] at hone
      exact List.length_eq_zero_iff.mp (by omega)
    have hmem : .queued payload ∈ receiveResult mode (decodeFrameEx s.decoder byte).2 := by
      rw [← mem_queued?, hqueued]
      exact List.mem_cons_self ..
    have hlen : payload.length < 2 ^ 16 := (queued_length_le hmem).trans_lt (by decide)
    obtain ⟨hrange, hframes⟩ := InRange.push (s := { s with
      decoder := (decodeFrameEx s.decoder byte).1, unread }) h.inRange hroom payload
    refine h.refines_read hroom rfl rfl rfl ?_ hunread ?_
    · intro ev hev
      rcases List.mem_pair.mp hev with rfl | rfl
      · exact hroom
      · exact hrange.count_le
    · rw [hqueued]
      refine ⟨hrange, rfl, ?_⟩
      rw [hframes, List.map_append, List.map_append, List.map_singleton, List.map_singleton,
        PayloadFrame.bytes_copy _ hlen, ← h.frames]
      rfl

theorem readLoop_refines (it : Iteration) (passes i : Nat) (h : s.Holds rx) :
    s.Refines rx (readLoop it passes i s).2 (readLoop it passes i s).1 := by
  induction passes generalizing s rx i with
  | zero => exact .refl h
  | succ passes ih =>
    rw [readLoop]
    split
    · exact .refl h
    next hnotfull =>
    split
    · exact .refl h
    split
    · exact .refl h
    · next byte unread hunread =>
      have hroom := Nat.lt_of_le_of_ne h.inRange.count_le hnotfull
      have hread := readByte_refines h hroom (it.mode i) hunread
      exact hread.trans (ih (i + 1) hread.holds)

theorem iterate_refines (it : Iteration) (h : s.Holds rx) :
    s.Refines rx (s.iterate it).2 (s.iterate it).1 := by
  have hdrain := drain_refines it s.backlogCount.toNat 0 h
  rw [iterate]
  dsimp only
  split
  · exact hdrain
  · split
    · exact hdrain.trans (readLoop_refines it _ 0 hdrain.holds)
    · exact hdrain

theorem run_refines (its : List Iteration) (h : s.Holds rx) :
    s.Refines rx (s.run its).2 (s.run its).1 := by
  induction its generalizing s rx with
  | nil => exact .refl h
  | cons it its ih =>
    have hturn := iterate_refines it h
    exact hturn.trans (ih hturn.holds)

/-- The task at its start, with the bytes that the host sends. -/
def start (stream : List UInt8) : SerialRxLocals := { unread := stream }

theorem start_holds (stream : List UInt8) : (start stream).Holds {} :=
  ⟨⟨Nat.zero_le _, Nat.zero_lt_succ _, rfl⟩, rfl, rfl⟩

end SerialRxLocals

/-! ### The backlog as a queue -/

/-- None of the bytes completes a data frame that is too long for a `PayloadFrame`. -/
def NeverOverlong (reads : List (TransportMode × UInt8)) : Prop :=
  Transducer.Along checkByte
    (fun decoder input => ¬ Overlong { decoder } (.read input.1 input.2)) {} reads

/-- After a turn of the loop: the frames sent and then the backlog are the frames that passed the
checks; the indices are those of the ring; no byte was read with the backlog full; and no byte is
lost. -/
structure Lossless (stream : List UInt8) (s : SerialRxLocals) (events : List BacklogEvent) :
    Prop where
  fifo : (framesSent events ++ s.frames).map PayloadFrame.bytes = passedFrames (bytesRead events)
  count_le : s.backlogCount.toNat ≤ serialRxBacklogDepth
  head_eq : s.backlogHead.toNat =
    (s.backlogTail.toNat + s.backlogCount.toNat) % serialRxBacklogDepth
  withinDepth : ∀ ev ∈ events, ev.WithinDepth
  unread : (bytesRead events).map Prod.snd ++ s.unread = stream

/-- The frames in a queue of `PayloadFrame`s are no longer than `PayloadFrame::data`. -/
theorem Lossless.fits {stream : List UInt8} {s : SerialRxLocals} {events : List BacklogEvent}
    (h : Lossless stream s events) :
    ∀ payload ∈ passedFrames (bytesRead events), payload.length ≤ tncPayloadMaxLen := by
  intro payload hpayload
  rw [← h.fifo] at hpayload
  obtain ⟨frame, -, rfl⟩ := List.mem_map.mp hpayload
  exact frame.bytes_length_le

theorem passedFrames_fit_iff (reads : List (TransportMode × UInt8)) :
    (∀ payload ∈ passedFrames reads, payload.length ≤ tncPayloadMaxLen) ↔ NeverOverlong reads := by
  refine Transducer.forall_output_iff checkByte ?_ {} reads
  intro decoder input
  rw [← forall_fits_iff]
  have houtputs : (serialRxTask { decoder } (.read input.1 input.2)).2 =
      receiveResult input.1 (decodeFrameEx decoder input.2).2 := rfl
  rw [houtputs]
  constructor
  · rintro h _ houtput payload rfl
    exact h payload (mem_queued?.mpr houtput)
  · intro h payload hpayload
    exact h _ (mem_queued?.mp hpayload) payload rfl

namespace SerialRxLocals

/-- Whatever the lengths of the frames, they leave in order and each once, as much of each as a
`PayloadFrame` has room for. -/
theorem run_fifo (stream : List UInt8) (its : List Iteration) :
    (framesSent ((start stream).run its).2 ++ ((start stream).run its).1.frames).map
        PayloadFrame.bytes =
      (passedFrames (bytesRead ((start stream).run its).2)).map clip := by
  have hrun := run_refines its (start_holds stream)
  have hfifo := serialRxRun_backlog {} (((start stream).run its).2.filterMap BacklogEvent.input?)
  have hpassed : passedFrames (bytesRead ((start stream).run its).2) = _ :=
    congrArg Prod.snd hrun.passed
  rw [List.map_append, hrun.sent, hrun.holds.frames, hpassed, ← List.map_append, ← hfifo]
  rfl

end SerialRxLocals

open SerialRxLocals in
/-- However the bytes of the host come in and however `txQueue` takes frames, the backlog is a
queue that loses nothing, after each turn of the loop, exactly as long as no frame is too long for
a `PayloadFrame`. -/
theorem lossless_iff (stream : List UInt8) (its : List Iteration) :
    Lossless stream ((start stream).run its).1 ((start stream).run its).2 ↔
      NeverOverlong (bytesRead ((start stream).run its).2) := by
  rw [← passedFrames_fit_iff]
  constructor
  · exact Lossless.fits
  · intro hfits
    have hrun := run_refines its (start_holds stream)
    have hclip : ∀ payload ∈ passedFrames (bytesRead ((start stream).run its).2),
        clip payload = payload := fun payload hpayload =>
      List.take_of_length_le (hfits payload hpayload)
    refine ⟨?_, hrun.holds.inRange.count_le, hrun.holds.inRange.head_eq, hrun.withinDepth,
      hrun.unread.symm⟩
    rw [run_fifo, List.map_congr_left hclip, List.map_id']

/-! ### A frame too long for the backlog -/

/-- All bytes come at once, and `txQueue` is full. -/
def burst (mode : TransportMode) (stream : List UInt8) : Iteration where
  spaces _ := 0
  sends _ := false
  available := stream.length
  readable := stream.length
  mode _ := mode

/-- A byte that is read, and how many frames it adds. -/
theorem readByte_spec (s : SerialRxLocals) (mode : TransportMode) (byte : UInt8)
    (unread : List UInt8) :
    (s.readByte mode byte unread).1.unread = unread ∧
      (s.readByte mode byte unread).1.decoder = (checkByte s.decoder (mode, byte)).1 ∧
      (s.readByte mode byte unread).1.backlogCount =
        s.backlogCount + .ofNat (checkByte s.decoder (mode, byte)).2.length ∧
      bytesRead (s.readByte mode byte unread).2 = [(mode, byte)] := by
  have hone := SerialRxLocals.queued_length_le_one mode (decodeFrameEx s.decoder byte).2
  rw [SerialRxLocals.readByte, checkByte]
  dsimp only
  split
  · next hqueued =>
    rw [hqueued]
    exact ⟨rfl, rfl, by simp, rfl⟩
  · next payload rest hqueued =>
    rw [hqueued] at hone ⊢
    obtain rfl : rest = [] := List.length_eq_zero_iff.mp (by simpa using hone)
    exact ⟨rfl, rfl, rfl, rfl⟩

/-- As long as the backlog has room for what they complete, all bytes that are there are read. -/
theorem bytesRead_readLoop {mode : TransportMode} {it : Iteration} (hmode : ∀ k, it.mode k = mode)
    {passes i : Nat} {s : SerialRxLocals} (hpasses : s.unread.length ≤ passes)
    (hreadable : i + s.unread.length ≤ it.readable)
    (hroom : s.backlogCount.toNat +
      (Transducer.run checkByte s.decoder (s.unread.map (Prod.mk mode))).2.length <
        serialRxBacklogDepth) :
    bytesRead (SerialRxLocals.readLoop it passes i s).2 = s.unread.map (Prod.mk mode) := by
  induction passes generalizing s i with
  | zero =>
    rw [List.length_eq_zero_iff.mp (Nat.le_zero.mp hpasses)]
    rfl
  | succ passes ih =>
    rw [SerialRxLocals.readLoop, if_neg (by omega)]
    cases hunread : s.unread with
    | nil =>
      split <;> rfl
    | cons byte unread =>
      rw [hunread, List.length_cons] at hpasses hreadable
      rw [hunread, List.map_cons, Transducer.run_cons, List.length_append] at hroom
      rw [if_neg (by omega), hmode]
      obtain ⟨hnext, hdecoder, hcount, hread⟩ := readByte_spec s mode byte unread
      have htoNat : (s.readByte mode byte unread).1.backlogCount.toNat =
          s.backlogCount.toNat + (checkByte s.decoder (mode, byte)).2.length := by
        rw [hcount, UInt8.toNat_add, UInt8.toNat_ofNat', Nat.add_mod_mod]
        apply Nat.mod_eq_of_lt
        simp only [serialRxBacklogDepth] at hroom
        omega
      have hrest := ih (i := i + 1) (s := (s.readByte mode byte unread).1)
        (by rw [hnext]; omega) (by rw [hnext]; omega)
        (by rw [hnext, hdecoder, htoNat]; omega)
      rw [hnext] at hrest
      rw [List.map_cons, ← hrest]
      dsimp only
      rw [bytesRead, List.filterMap_append, ← bytesRead, ← bytesRead, hread]
      rfl

open SerialRxLocals in
theorem bytesRead_burst {mode : TransportMode} {stream : List UInt8}
    (hroom : (passedFrames (stream.map (Prod.mk mode))).length < serialRxBacklogDepth) :
    bytesRead ((start stream).run [burst mode stream]).2 = stream.map (Prod.mk mode) := by
  have hloop : bytesRead (readLoop (burst mode stream) stream.length 0 (start stream)).2 =
      stream.map (Prod.mk mode) := by
    refine bytesRead_readLoop (fun _ => rfl) (Nat.le_refl _) (Nat.le_of_eq (Nat.zero_add _)) ?_
    exact (Nat.zero_add _).trans_lt hroom
  have hdrain : drain (burst mode stream) (start stream).backlogCount.toNat 0 (start stream) =
      (start stream, []) := rfl
  have hnotfull : ¬ (start stream).backlogCount.toNat = serialRxBacklogDepth := by
    intro hfull
    cases hfull
  rw [SerialRxLocals.run, Transducer.run_singleton, iterate, hdrain]
  dsimp only
  rw [if_neg hnotfull]
  by_cases havailable : (burst mode stream).available > 0
  · rw [if_pos havailable]
    exact hloop
  · rw [if_neg havailable]
    have hempty : stream = [] :=
      List.length_eq_zero_iff.mp (Nat.eq_zero_of_not_pos (mt Int.natCast_pos.mpr havailable))
    rw [hempty]
    rfl

theorem run_checkByte (mode : TransportMode) (decoder : Decoder) (bytes : List UInt8) :
    (Transducer.run checkByte decoder (bytes.map (Prod.mk mode))).2 =
      (decodeAll decoder bytes).2.flatMap fun result =>
        (receiveResult mode result).filterMap Output.queued? := by
  induction bytes generalizing decoder with
  | nil => rfl
  | cons byte bytes ih =>
    rw [List.map_cons, Transducer.run_cons, ih, decodeAll, Transducer.run_cons]
    rfl

/-- What the native branch takes is what the decoder admits. -/
theorem passedFrames_native {data : List UInt8} (hfits : data.length ≤ kissFramePayloadMaxLen)
    {outBufLen : Nat} (hbuf : (data.flatMap escapeByte).length + 3 ≤ outBufLen) :
    passedFrames ((encodeFrame kissDataFrame data outBufLen).map (Prod.mk .nativePacket)) =
      [data] := by
  have hresults := decodeAll_dataFrame hfits (show ({} : Decoder).state = .idle from rfl) hbuf
  have hsilence (n : Nat) : (silence n).flatMap (fun result =>
      (receiveResult .nativePacket result).filterMap Output.queued?) = [] :=
    List.flatMap_eq_nil_iff.mpr fun result h => by rw [List.eq_of_mem_replicate h]; rfl
  rw [passedFrames, run_checkByte, hresults, List.flatMap_append, hsilence]
  rfl

open SerialRxLocals in
/-- A native frame that the decoder admits and a `PayloadFrame` has no room for. -/
theorem not_lossless_of_overlong {data : List UInt8} (hlong : tncPayloadMaxLen < data.length)
    (hfits : data.length ≤ kissFramePayloadMaxLen) {outBufLen : Nat}
    (hbuf : (data.flatMap escapeByte).length + 3 ≤ outBufLen) {stream : List UInt8}
    (hstream : stream = encodeFrame kissDataFrame data outBufLen) :
    ¬ Lossless stream ((start stream).run [burst .nativePacket stream]).1
      ((start stream).run [burst .nativePacket stream]).2 := by
  have hpassed := passedFrames_native hfits hbuf
  rw [← hstream] at hpassed
  have hreads : bytesRead ((start stream).run [burst .nativePacket stream]).2 =
      stream.map (Prod.mk .nativePacket) := by
    apply bytesRead_burst
    rw [hpassed]
    exact Nat.one_lt_ofNat
  intro h
  have hle := h.fits data (by rw [hreads, hpassed]; exact List.mem_singleton.mpr rfl)
  omega

/-- One byte more than a `PayloadFrame` has room for. -/
def overlongStream : List UInt8 := [0xC0, 0x00] ++ List.replicate 1281 0x11 ++ [0xC0]

theorem not_lossless_overlongStream :
    ¬ Lossless overlongStream
      ((SerialRxLocals.start overlongStream).run [burst .nativePacket overlongStream]).1
      ((SerialRxLocals.start overlongStream).run [burst .nativePacket overlongStream]).2 := by
  have hlength : (List.replicate 1281 (0x11 : UInt8)).length = 1281 := List.length_replicate
  have hbuf : ((List.replicate 1281 (0x11 : UInt8)).flatMap escapeByte).length + 3 ≤ 1284 := by
    decide +kernel
  refine not_lossless_of_overlong ?_ ?_ hbuf ?_
  · rw [hlength]
    decide
  · rw [hlength]
    decide
  · rw [encodeFrame_eq hbuf]
    decide +kernel

end FlrcTnc.Serial

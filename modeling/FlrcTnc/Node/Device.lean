import FlrcTnc.Node.Pair
import FlrcTnc.Serial.Writers

/-! Two modems in generic mode from the USB stream of the one host to that of the other: the serial
tasks, the two queues and the MAC task of each, taking turns in any order. -/

namespace FlrcTnc.Node

open Framing Kiss Serial Interleaving

/-- A modem: `modemConfig.transportMode`, the serial tasks, `rxQueue` and the MAC task, and what has
happened at the USB stream. -/
structure Device where
  mac : Statics
  transportMode : TransportMode
  rx : SerialRx := {}
  rxQueue : List (List UInt8) := []
  usb : LockedStream.State Writer Outgoing := {}
  bytesRead : List UInt8 := []
  decoded : List Output := []
  written : List (LockedStream.Output Writer UInt8 Outgoing) := []

/-- What a task of the modem may do next: `serialRxTask` reads a byte, sends a frame of its backlog
to `txQueue`, or has a command to request, to save and to answer; `macTask` takes a turn;
`serialTxTask` takes a frame from `rxQueue`; one of the writers takes the mutex or has bytes
accepted. -/
inductive DeviceInput
  | read (byte : UInt8)
  | forward
  | request (command : MacCommand)
  | saved (config : RadioConfig)
  | respond (text : List UInt8)
  | turn (turn : Turn)
  | receive
  | take (writer : Writer)
  | write (writer : Writer) (accepted : Nat)

namespace Device

def usbWrite (d : Device) (input : UsbInput) : Device :=
  let r := usbStep d.usb input
  { d with usb := r.1, written := d.written ++ r.2 }

/-- `serialRxTask` reads and forwards nothing while it writes a response; the config is saved after
the radio took it. -/
def step (d : Device) : DeviceInput → Device
  | .read byte =>
    if d.rx.backlog.length < serialRxBacklogDepth ∧ d.usb.phase .sendControlResponse = .ready then
      let r := serialRxTask d.rx (.read d.transportMode byte)
      { d with rx := r.1, decoded := d.decoded ++ r.2, bytesRead := d.bytesRead ++ [byte] }
    else d
  | .forward =>
    if d.mac.txQueue.length < Mac.txQueueDepth ∧ d.usb.phase .sendControlResponse = .ready then
      d.rx.backlog.head?.elim d fun frame =>
        { d with rx := (serialRxTask d.rx .txQueueSpace).1, mac := d.mac.step (.host frame) }
    else d
  | .request command => { d with mac := d.mac.step (.request command) }
  | .saved config =>
    if .executed (.applyConfig config) ∈ d.mac.trace then
      { d with transportMode := config.transportMode }
    else d
  | .respond text => d.usbWrite (.respond text)
  | .turn turn =>
    let mac := d.mac.step (.turn turn)
    { d with mac, rxQueue := d.rxQueue ++ deliveries (mac.trace.drop d.mac.trace.length) }
  | .receive =>
    if d.usb.phase .serialTxTask = .ready then
      d.rxQueue.head?.elim d fun payload =>
        { d with rxQueue := d.rxQueue.tail }.usbWrite (.receive d.transportMode payload)
    else d
  | .take writer => d.usbWrite (.take writer)
  | .write writer accepted => d.usbWrite (.write writer accepted)

/-- What `macTask` gets of it. -/
def macInput (d : Device) : DeviceInput → Option Input
  | .forward =>
    if d.mac.txQueue.length < Mac.txQueueDepth ∧ d.usb.phase .sendControlResponse = .ready then
      d.rx.backlog.head?.map .host
    else none
  | .request command => some (.request command)
  | .turn turn => some (.turn turn)
  | .read _ | .saved _ | .respond _ | .receive | .take _ | .write _ _ => none

/-- The modem behind `setup`, with the config that the radio began with. -/
def start (config : RadioConfig) (nextHbMs : UInt32) : Device where
  mac := .start config nextHbMs
  transportMode := config.transportMode

variable {d : Device}

theorem step_mac (d : Device) (input : DeviceInput) :
    (d.step input).mac = (d.macInput input).elim d.mac d.mac.step := by
  cases input with
  | read byte =>
    rw [step]
    split <;> rfl
  | forward =>
    rw [step, macInput]
    split
    · cases d.rx.backlog.head? <;> rfl
    · rfl
  | saved config =>
    rw [step]
    split <;> rfl
  | receive =>
    rw [step]
    split
    · cases d.rxQueue.head? <;> rfl
    · rfl
  | request | respond | turn | take | write => rfl

/-- In generic mode: what is in the backlog came in envelopes of the host, what the MAC has from the
host came from the backlog, and what is written for the host came from the MAC. -/
structure Carries (d : Device) : Prop where
  current : d.mac.Current
  mode : d.transportMode = .genericFragmented
  decoder : d.rx.decoder = (feed {} d.bytesRead).1
  enveloped : ∀ payload, .queued payload ∈ d.decoded → ∃ frame ∈ (feed {} d.bytesRead).2,
    frame.command = kissDataFrame ∧ frame.data = wrapped payload
  backlog : d.decoded.filterMap Output.queued? = hostFrames d.mac.trace ++ d.rx.backlog
  rxQueue : ∀ payload ∈ d.rxQueue, payload ∈ deliveries d.mac.trace
  submitted : ∀ writer mode payload, (writer, .frame mode payload) ∈
    LockedStream.submitted d.written → mode = .genericFragmented ∧
      payload ∈ deliveries d.mac.trace
  writes : LockedStream.Writes Outgoing.encode d.written d.usb

theorem start_carries {config : RadioConfig} (hmode : config.transportMode = .genericFragmented)
    (nextHbMs : UInt32) : (start config nextHbMs).Carries where
  current := Statics.start_current config nextHbMs
  mode := hmode
  decoder := rfl
  enveloped _ hmem := by cases hmem
  backlog := rfl
  rxQueue := List.forall_mem_nil _
  submitted _ _ _ hmem := by cases hmem
  writes := .start

theorem deliveries_append (events events' : List Event) :
    deliveries (events ++ events') = deliveries events ++ deliveries events' :=
  List.filterMap_append

/-- The MAC goes on without a frame of the host, and gives no payload back. -/
theorem Carries.mac (h : d.Carries) {mac : Statics} {events : List Event}
    (hcurrent : mac.Current) (htrace : mac.trace = d.mac.trace ++ events)
    (hhost : hostFrames mac.trace = hostFrames d.mac.trace) :
    { d with mac, rxQueue := d.rxQueue ++ deliveries events }.Carries where
  current := hcurrent
  mode := h.mode
  decoder := h.decoder
  enveloped := h.enveloped
  backlog := by rw [hhost, h.backlog]
  rxQueue payload hmem := by
    rw [htrace, deliveries_append, List.mem_append]
    exact (List.mem_append.mp hmem).imp_left (h.rxQueue payload)
  submitted writer mode payload hmem := by
    obtain ⟨hmode, hdelivered⟩ := h.submitted writer mode payload hmem
    rw [htrace, deliveries_append]
    exact ⟨hmode, List.mem_append_left _ hdelivered⟩
  writes := h.writes

theorem Carries.usbWrite (h : d.Carries) (input : UsbInput)
    (hinput : ∀ mode payload, input = .receive mode payload → mode = .genericFragmented ∧
      payload ∈ deliveries d.mac.trace) : (d.usbWrite input).Carries where
  current := h.current
  mode := h.mode
  decoder := h.decoder
  enveloped := h.enveloped
  backlog := h.backlog
  rxQueue := h.rxQueue
  submitted writer mode payload hmem := by
    rw [Device.usbWrite, LockedStream.submitted_append, List.mem_append] at hmem
    rcases hmem with hmem | hmem
    · exact h.submitted writer mode payload hmem
    · have hsubmit := LockedStream.of_mem_submitted Outgoing.encode hmem
      refine hinput mode payload ?_
      cases input with
      | receive | respond | take => cases hsubmit <;> rfl
      | write writer => cases writer <;> cases hsubmit
  writes := h.writes.step (LockedStream.step_cases Outgoing.encode d.usb input.toStream)

/-- A byte of the host. -/
theorem Carries.read (h : d.Carries) (byte : UInt8)
    (hroom : d.rx.backlog.length < serialRxBacklogDepth) :
    { d with
      rx := (serialRxTask d.rx (.read d.transportMode byte)).1
      decoded := d.decoded ++ (serialRxTask d.rx (.read d.transportMode byte)).2
      bytesRead := d.bytesRead ++ [byte] }.Carries where
  current := h.current
  mode := h.mode
  decoder := by
    rw [serialRxTask, if_neg hroom.ne, feed_append, feed_singleton, h.decoder]
  enveloped payload hmem := by
    rw [feed_append, feed_singleton]
    dsimp only at hmem ⊢
    rcases List.mem_append.mp hmem with hmem | hmem
    · obtain ⟨frame, hframe, hdata⟩ := h.enveloped payload hmem
      exact ⟨frame, List.mem_append_left _ hframe, hdata⟩
    · rw [serialRxTask, if_neg hroom.ne, h.mode, h.decoder] at hmem
      obtain ⟨frame, hframe, hcommand, hdata, _⟩ := queued_mem_receiveResult.mp hmem
      refine ⟨frame, List.mem_append_right _ ?_, hcommand, hdata⟩
      rw [hframe]
      exact List.mem_singleton_self frame
  backlog := by
    rw [serialRxTask, if_neg hroom.ne, List.filterMap_append, h.backlog, List.append_assoc]
  rxQueue := h.rxQueue
  submitted := h.submitted
  writes := h.writes

/-- A frame of the backlog. -/
theorem Carries.forward (h : d.Carries) (hroom : d.mac.txQueue.length < Mac.txQueueDepth)
    {frame : List UInt8} (hhead : d.rx.backlog.head? = some frame) :
    { d with
      rx := (serialRxTask d.rx .txQueueSpace).1
      mac := d.mac.step (.host frame) }.Carries := by
  obtain ⟨rest, hbacklog⟩ := List.head?_eq_some_iff.mp hhead
  have hrx : (serialRxTask d.rx .txQueueSpace).1 = { d.rx with backlog := rest } := by
    rw [serialRxTask, hbacklog]
  have hmac : (d.mac.step (.host frame)).trace = d.mac.trace ++ [.queued frame] := by
    rw [Statics.step, if_pos hroom]
    rfl
  have hdeliveries : deliveries (d.mac.step (.host frame)).trace = deliveries d.mac.trace := by
    rw [hmac, deliveries_append]
    exact List.append_nil _
  refine ⟨h.current.step (.host frame), h.mode, ?_, h.enveloped, ?_, fun payload hmem => ?_,
    fun writer mode payload hmem => ?_, h.writes⟩
  · rw [hrx]
    exact h.decoder
  · rw [hrx, hmac, hostFrames_append, List.append_assoc]
    exact h.backlog.trans (congrArg _ hbacklog)
  · rw [hdeliveries]
    exact h.rxQueue payload hmem
  · rw [hdeliveries]
    exact h.submitted writer mode payload hmem

theorem Carries.step (h : d.Carries) (input : DeviceInput)
    (hconfig : ∀ config, .executed (.applyConfig config) ∉ (d.step input).mac.trace) :
    (d.step input).Carries := by
  have hnone (input : UsbInput) (hinput : ∀ mode payload, input ≠ .receive mode payload) :
      (d.usbWrite input).Carries :=
    h.usbWrite input fun mode payload heq => absurd heq (hinput mode payload)
  cases input with
  | read byte =>
    rw [Device.step]
    split
    · next hready => exact h.read byte hready.1
    · exact h
  | forward =>
    rw [Device.step]
    split
    · next hready =>
      cases hhead : d.rx.backlog.head? with
      | none => exact h
      | some frame => exact h.forward hready.1 hhead
    · exact h
  | request command =>
    have htrace : (d.mac.step (.request command)).trace = d.mac.trace := by
      rw [Statics.step]
      split <;> rfl
    have hmac := h.mac (h.current.step (.request command))
      (htrace.trans (List.append_nil _).symm) (congrArg hostFrames htrace)
    rwa [show deliveries [] = [] from rfl, List.append_nil] at hmac
  | saved config =>
    rw [Device.step] at hconfig ⊢
    split at hconfig
    · next hexecuted => exact absurd hexecuted (hconfig config)
    · next hnot =>
      rw [if_neg hnot]
      exact h
  | respond text => exact hnone _ fun _ _ heq => by cases heq
  | turn turn =>
    obtain ⟨events, htrace⟩ := h.current.step_trace (.turn turn)
    have hnew : (d.mac.step (.turn turn)).trace.drop d.mac.trace.length = events := by
      rw [← htrace, List.drop_left]
    rw [Device.step]
    rw [hnew]
    exact h.mac (h.current.step (.turn turn)) htrace.symm (Statics.hostFrames_loop h.current turn)
  | receive =>
    rw [Device.step]
    split
    · cases hhead : d.rxQueue.head? with
      | none => exact h
      | some payload =>
        have htail : { d with rxQueue := d.rxQueue.tail }.Carries :=
          { h with rxQueue := fun payload hmem => h.rxQueue payload (List.mem_of_mem_tail hmem) }
        refine htail.usbWrite _ fun mode payload' heq => ?_
        cases heq
        exact ⟨h.mode, h.rxQueue payload (List.mem_of_mem_head? hhead)⟩
    · exact h
  | take writer => exact hnone _ fun _ _ heq => by cases heq
  | write writer accepted => exact hnone _ fun _ _ heq => by cases heq

/-- What a host unwraps, the MAC has delivered. -/
theorem Carries.delivered (h : d.Carries) {payload : List UInt8}
    (hmem : wrapped payload ∈ (KissTun.KissDecoder.feed
      ({} : KissTun.KissDecoder kissFramePayloadMaxLen)
      (LockedStream.written d.written)).2.filterMap id) : payload ∈ deliveries d.mac.trace := by
  rw [hostPayloads_written h.writes] at hmem
  obtain ⟨⟨writer, c⟩, hfinished, hpayload⟩ := List.mem_filterMap.mp hmem
  have hsubmitted := h.writes.submitted_of_finished hfinished
  cases c with
  | response text => cases hpayload
  | frame mode sent =>
    obtain ⟨rfl, hdelivered⟩ := h.submitted writer mode sent hsubmitted
    rw [Outgoing.hostPayload?, serialTxData, if_pos rfl] at hpayload
    obtain ⟨_, heq⟩ := Option.ite_none_right_eq_some.mp hpayload
    rwa [← wrapped_injective (Option.some.inj heq)]

/-- What the host of the modem has sent, it has wrapped. -/
theorem Carries.sent (h : d.Carries) {payload : List UInt8}
    (hmem : payload ∈ hostFrames d.mac.trace) : ∃ frame ∈ (feed {} d.bytesRead).2,
      frame.command = kissDataFrame ∧ frame.data = wrapped payload := by
  apply h.enveloped payload
  have hqueued : payload ∈ d.decoded.filterMap Output.queued? := by
    rw [h.backlog]
    exact List.mem_append_left _ hmem
  exact mem_queued?.mp hqueued

def run (d : Device) (inputs : List DeviceInput) : Device := inputs.foldl step d

theorem step_current (h : d.mac.Current) (input : DeviceInput) : (d.step input).mac.Current := by
  rw [step_mac]
  cases d.macInput input with
  | none => exact h
  | some input => exact h.step input

theorem step_trace (h : d.mac.Current) (input : DeviceInput) :
    d.mac.trace <+: (d.step input).mac.trace := by
  rw [step_mac]
  cases d.macInput input with
  | none => exact List.prefix_refl _
  | some input => exact h.step_trace input

theorem run_trace (h : d.mac.Current) (inputs : List DeviceInput) :
    d.mac.trace <+: (d.run inputs).mac.trace := by
  induction inputs generalizing d with
  | nil => exact List.prefix_refl _
  | cons input inputs ih => exact (step_trace h input).trans (ih (step_current h input))

theorem Carries.run (h : d.Carries) (inputs : List DeviceInput)
    (hconfig : ∀ config, .executed (.applyConfig config) ∉ (d.run inputs).mac.trace) :
    (d.run inputs).Carries := by
  induction inputs generalizing d with
  | nil => exact h
  | cons input inputs ih =>
    have htrace := run_trace (step_current h.current input) inputs
    exact ih (h.step input fun config hmem => hconfig config (htrace.subset hmem)) hconfig

end Device

/-! ### Two modems -/

def runDevices (devices : Side → Device) (inputs : List (Side × DeviceInput)) : Side → Device :=
  runAll Device.step devices inputs

/-- What the two MAC tasks get of it. -/
def macInputs (devices : Side → Device) : List (Side × DeviceInput) → List (Side × Input)
  | [] => []
  | entry :: inputs =>
    ((devices entry.1).macInput entry.2).toList.map (fun input => (entry.1, input)) ++
      macInputs (stepAt Device.step devices entry) inputs

/-- The MAC tasks of two modems are two tasks on a channel. -/
theorem runDevices_mac (devices : Side → Device) (inputs : List (Side × DeviceInput)) :
    (fun side => (runDevices devices inputs side).mac) =
      runBoth (fun side => (devices side).mac) (macInputs devices inputs) := by
  induction inputs generalizing devices with
  | nil => rfl
  | cons entry inputs ih =>
    have hstep : (fun side => (stepAt Device.step devices entry side).mac) =
        runBoth (fun side => (devices side).mac)
          (((devices entry.1).macInput entry.2).toList.map fun input => (entry.1, input)) := by
      have hupdate : (fun side => (stepAt Device.step devices entry side).mac) =
          Function.update (fun side => (devices side).mac) entry.1
            ((devices entry.1).step entry.2).mac :=
        Function.comp_update Device.mac devices entry.1 _
      rw [hupdate, Device.step_mac]
      cases (devices entry.1).macInput entry.2 with
      | none => exact Function.update_eq_self ..
      | some input => rfl
    rw [macInputs, runBoth, runAll, List.foldl_append]
    refine (ih (stepAt Device.step devices entry)).trans ?_
    rw [hstep]
    rfl

def startDevices (config : Side → RadioConfig) (nextHbMs : Side → UInt32) (side : Side) : Device :=
  .start (config side) (nextHbMs side)

section

variable {config : Side → RadioConfig} {nextHbMs : Side → UInt32}
  {inputs : List (Side × DeviceInput)} {side : Side}

theorem runDevices_carries (hmode : ∀ t, (config t).transportMode = .genericFragmented)
    (hconfig : ∀ t config', .executed (.applyConfig config') ∉
      (runDevices (startDevices config nextHbMs) inputs t).mac.trace) (t : Side) :
    (runDevices (startDevices config nextHbMs) inputs t).Carries := by
  have hrun := runAll_eq Device.step (startDevices config nextHbMs) inputs t
  have hnot := hconfig t
  rw [runDevices, hrun] at hnot
  rw [runDevices, hrun]
  exact (Device.start_carries (hmode t) (nextHbMs t)).run _ hnot

/-- What a host reads in an envelope, the host of the other modem has sent in one. -/
theorem enveloped_integrity (hmode : ∀ t, (config t).transportMode = .genericFragmented)
    (hheeds : Heeds (startBoth config nextHbMs) (macInputs (startDevices config nextHbMs) inputs))
    (hconfig : ∀ t config', .executed (.applyConfig config') ∉
      (runDevices (startDevices config nextHbMs) inputs t).mac.trace)
    (hcount : (hostFrames
      (runDevices (startDevices config nextHbMs) inputs side).mac.trace).length < 65536)
    {payload : List UInt8}
    (hread : wrapped payload ∈ (KissTun.KissDecoder.feed
      ({} : KissTun.KissDecoder kissFramePayloadMaxLen) (LockedStream.written
        (runDevices (startDevices config nextHbMs) inputs side.other).written)).2.filterMap id) :
    ∃ frame ∈ (feed {} (runDevices (startDevices config nextHbMs) inputs side).bytesRead).2,
      frame.command = kissDataFrame ∧ frame.data = wrapped payload := by
  have hmac := fun t => congrFun (runDevices_mac (startDevices config nextHbMs) inputs) t
  have hcarries := runDevices_carries hmode hconfig
  have hlinked := linked_run (macInputs (startDevices config nextHbMs) inputs)
    (start_linked config nextHbMs side) (fun t => Statics.start_current (config t) (nextHbMs t))
    hmode hheeds fun t config' => by
      have hnot := hconfig t config'
      rwa [hmac t] at hnot
  have hserves := runBoth_serves config nextHbMs
    (macInputs (startDevices config nextHbMs) inputs) side
  have hdelivered := (hcarries side.other).delivered hread
  rw [hmac] at hdelivered hcount
  have hsent := hlinked.integrity hserves hcount payload hdelivered
  rw [show startBoth config nextHbMs = fun t => (startDevices config nextHbMs t).mac from rfl,
    ← hmac] at hsent
  exact (hcarries side).sent hsent

end

/-- Two modems in generic mode, on a channel that loses, repeats and reorders, with all their tasks
in any order: what a host unwraps from the USB stream of the one, the host of the other has wrapped
and sent to its modem, as long as that modem takes fewer than 65536 frames and no config is
applied. -/
theorem usb_to_usb_integrity (zlibCrc32 : List UInt8 → Nat)
    (hzlib : ∀ data, zlibCrc32 data = (computeCrc32 data).toNat)
    (config : Side → RadioConfig) (nextHbMs : Side → UInt32) (inputs : List (Side × DeviceInput))
    (side : Side) (hmode : ∀ t, (config t).transportMode = .genericFragmented)
    (hheeds : Heeds (startBoth config nextHbMs) (macInputs (startDevices config nextHbMs) inputs))
    (hconfig : ∀ t config', .executed (.applyConfig config') ∉
      (runDevices (startDevices config nextHbMs) inputs t).mac.trace)
    (hcount : (hostFrames
      (runDevices (startDevices config nextHbMs) inputs side).mac.trace).length < 65536)
    (payload : List UInt8)
    (hread : .ok payload ∈ ((KissTun.KissDecoder.feed ({} : KissTun.KissDecoder 1288)
        (LockedStream.written
          (runDevices (startDevices config nextHbMs) inputs side.other).written)).2.filterMap
        id).map (Script.unwrapPayload zlibCrc32)) :
    ∃ frame ∈ (feed {} (runDevices (startDevices config nextHbMs) inputs side).bytesRead).2,
      frame.command = kissDataFrame ∧ Script.wrapPayload zlibCrc32 payload = .ok frame.data := by
  obtain ⟨data, hdata, hunwrap⟩ := List.mem_map.mp hread
  obtain ⟨rfl, hlength⟩ := (Script.unwrapPayload_iff hzlib).mp hunwrap
  obtain ⟨frame, hframe, hcommand, hwrapped⟩ :=
    enveloped_integrity hmode hheeds hconfig hcount hdata
  exact ⟨frame, hframe, hcommand, by rw [Script.wrapPayload_eq hzlib hlength, hwrapped]⟩

/-- The host of `a` sends a payload to its modem. -/
def hostSending : List DeviceInput :=
  (KissTun.kissEncode (wrapped [1, 2, 3])).map .read ++
    [.forward, .turn (.calm .txWake 5), .turn (.calm .timeout 6)]

/-- It arrives at `b`, whose writer takes the mutex behind a response. -/
def usbInputs : List (Side × DeviceInput) :=
  (hostSending.map fun input => (Side.a, input)) ++
    ((transmitted ((Device.start {} 4000).run hostSending).mac.trace).map fun packet =>
      (Side.b, .turn (.calm (.radio (some packet)) 9))) ++
    [(.b, .receive), (.b, .respond [0x4F, 0x4B]), (.b, .take .sendControlResponse),
      (.b, .take .serialTxTask), (.b, .write .sendControlResponse 3),
      (.b, .write .serialTxTask 64), (.b, .write .sendControlResponse 9),
      (.b, .take .serialTxTask), (.b, .write .serialTxTask 64)]

set_option maxRecDepth 100000 in
theorem usbInputs_executed (side : Side) :
    executed (runDevices (startDevices (fun _ => {}) fun _ => 4000) usbInputs side).mac.trace =
      [] := by
  cases side <;> decide +kernel

set_option maxRecDepth 100000 in
theorem usb_to_usb_integrity_usbInputs :
    ∃ frame ∈ (feed {}
        (runDevices (startDevices (fun _ => {}) fun _ => 4000) usbInputs .a).bytesRead).2,
      frame.command = kissDataFrame ∧
        Script.wrapPayload (fun data => (computeCrc32 data).toNat) [1, 2, 3] = .ok frame.data := by
  refine usb_to_usb_integrity _ (fun _ => rfl) (fun _ => {}) (fun _ => 4000) usbInputs .a
    (fun _ => rfl) (by decide +kernel) (fun side config => ?_) (by decide +kernel) _ ?_
  · exact not_mem_of_executed (usbInputs_executed side) (.applyConfig config)
  · refine List.mem_map.mpr ⟨wrapped [1, 2, 3], by decide +kernel, ?_⟩
    exact (Script.unwrapPayload_iff fun _ => rfl).mpr ⟨rfl, by decide⟩

end FlrcTnc.Node

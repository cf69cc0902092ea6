import FlrcTnc.Node.Device

/-! What the hosts bridge over two modems: IP packets, with `kiss_tun.py` or the daemon of
`main.rs`, and the packets of RNS, with `ReticulumFLRCInterface.py`. -/

namespace FlrcTnc.Serial.Reticulum

open Kiss

variable (zlibCrc32 : List UInt8 → Nat)

/-- `handle_inbound_frame`, with what it passes to RNS. -/
def handleInboundFrame (frame : List UInt8) : Option (List UInt8) :=
  if frame.length < serialIntegrityHdrLen then none
  else
    let magic := (readBe16 frame 0).toNat
    let length := (readBe16 frame 2).toNat
    let crc := (readBe32 frame 4).toNat
    if magic ≠ serialIntegrityMagic.toNat then none
    else if length ≠ frame.length - serialIntegrityHdrLen then none
    else
      let payload := frame.drop serialIntegrityHdrLen
      let computedCrc := zlibCrc32 payload &&& 0xFFFFFFFF
      if computedCrc ≠ crc then none else some payload

/-- `FIRMWARE_PAYLOAD_CAP`. -/
def firmwarePayloadCap : Nat := 1280

/-- The bytes that `process_outgoing` writes; its loop is the one of `kiss_encode`. -/
def processOutgoing (data : List UInt8) : List UInt8 :=
  if data.length > firmwarePayloadCap then []
  else
    let crc := zlibCrc32 data &&& 0xFFFFFFFF
    let header := Script.pack serialIntegrityMagic.toNat data.length crc
    KissTun.kissEncode (header ++ data)

variable {zlibCrc32}

theorem handleInboundFrame_iff (h : ∀ data, zlibCrc32 data = (computeCrc32 data).toNat)
    {frame payload : List UInt8} :
    handleInboundFrame zlibCrc32 frame = some payload ↔
      frame = wrapped payload ∧ payload.length < 2 ^ 16 := by
  rw [eq_wrapped_iff]
  simp only [handleInboundFrame, Script.crc_mask h, ne_eq, ite_not, UInt16.toNat_inj,
    UInt32.toNat_inj]
  split_ifs with hshort hmagic hlen hcrc
  all_goals simp only [false_iff, Option.some.injEq]
  · rintro ⟨hlength, _⟩
    omega
  · constructor
    · rintro rfl
      exact ⟨by omega, hmagic, hlen, hcrc.symm, rfl⟩
    · rintro ⟨_, _, _, _, rfl⟩
      rfl
  · rintro ⟨_, _, _, heq, _⟩
    exact hcrc heq.symm
  · rintro ⟨_, _, heq, _⟩
    exact hlen heq
  · rintro ⟨_, heq, _⟩
    exact hmagic heq

theorem processOutgoing_eq (h : ∀ data, zlibCrc32 data = (computeCrc32 data).toNat)
    (data : List UInt8) :
    processOutgoing zlibCrc32 data =
      if data.length > firmwarePayloadCap then [] else KissTun.kissEncode (wrapped data) := by
  rw [processOutgoing]
  split
  · rfl
  · next hlength =>
    have hwrap := @Script.wrapPayload_eq zlibCrc32 h data (Nat.not_lt.mp hlength)
    have hroom : ¬ data.length > Script.serialIntegrityMaxPayloadLen := hlength
    rw [Script.wrapPayload, if_neg hroom] at hwrap
    exact congrArg KissTun.kissEncode (Except.ok.inj hwrap)

end FlrcTnc.Serial.Reticulum

namespace FlrcTnc.Node

open Kiss Serial

/-! ### The bridges -/

/-- What a host has at its modem: the bytes for the serial port that a packet makes, and the
packets that the bytes of the port make. -/
structure Bridge where
  outgoing : List UInt8 → List UInt8
  inbound : List UInt8 → List (List UInt8)

section

variable (zlibCrc32 : List UInt8 → Nat) (crc32fast : List UInt8 → UInt32) (mtu : Nat)

/-- `tun_to_radio` and `radio_to_tun` of `kiss_tun.py`; a packet that cannot be wrapped ends the
thread. -/
def kissTun : Bridge where
  outgoing pkt :=
    if pkt.length = 0 ∨ pkt.length > mtu then []
    else (Script.wrapPayload zlibCrc32 pkt).toOption.elim [] KissTun.kissEncode
  inbound data :=
    ((KissTun.KissDecoder.feed ({} : KissTun.KissDecoder (mtu + serialIntegrityHdrLen))
      data).2.filterMap id).filterMap fun payload =>
        if payload.length = 0 then none else (Script.unwrapPayload zlibCrc32 payload).toOption

/-- The two threads of `main.rs`; a read of nothing ends the first. -/
def mainRs : Bridge where
  outgoing pkt :=
    if pkt.length = 0 ∨ pkt.length > mtu then []
    else KissRs.kissEncode (Daemon.wrapPayload crc32fast pkt)
  inbound data :=
    ((KissRs.KissDecoder.feedAll
      (({} : KissRs.KissDecoder (mtu + serialIntegrityHdrLen)), []) data).2.filterMap
        id).filterMap fun payload =>
          if payload.length = 0 then none else (Daemon.unwrapPayload crc32fast payload).toOption

/-- `process_outgoing` and `process_rx_data` of the interface, whose `HW_MTU` is `mtu`. -/
def reticulum : Bridge where
  outgoing := Reticulum.processOutgoing zlibCrc32
  inbound data :=
    ((Reticulum.RxParser.processRxData ({} : Reticulum.RxParser mtu) data).2.filterMap
      id).filterMap (Reticulum.handleInboundFrame zlibCrc32)

end

/-- A packet goes out in its envelope or not at all, and what comes in came in one. -/
structure Bridge.Sound (bridge : Bridge) : Prop where
  outgoing : ∀ pkt, bridge.outgoing pkt = [] ∨ pkt.length ≤ tncPayloadMaxLen ∧
    bridge.outgoing pkt = encodeFrame kissDataFrame (wrapped pkt) serialKissEncodedMax
  inbound : ∀ data, ∀ pkt ∈ bridge.inbound data, wrapped pkt ∈ (KissTun.KissDecoder.feed
    ({} : KissTun.KissDecoder kissFramePayloadMaxLen) data).2.filterMap id

theorem ok_of_toOption {α : Type} {result : Except String α} {a : α}
    (h : result.toOption = some a) : result = .ok a := by
  cases result with
  | error => cases h
  | ok => exact congrArg _ (Option.some.inj h)

/-- A decoder with a smaller cap hands out no other payloads. -/
theorem payload_of_cap {cap : Nat} (hcap : cap ≤ kissFramePayloadMaxLen) {data payload : List UInt8}
    (hmem : payload ∈
      (KissTun.KissDecoder.feed ({} : KissTun.KissDecoder cap) data).2.filterMap id) :
    payload ∈ (KissTun.KissDecoder.feed
      ({} : KissTun.KissDecoder kissFramePayloadMaxLen) data).2.filterMap id := by
  rw [KissTun.KissDecoder.feed_eq hcap] at hmem
  rw [KissTun.KissDecoder.feed_eq (Nat.le_refl _)]
  obtain ⟨entry, hentry, heq⟩ := List.mem_filterMap.mp hmem
  obtain ⟨result, hresult, rfl⟩ := List.mem_map.mp hentry
  refine List.mem_filterMap.mpr ⟨some payload, List.mem_map.mpr ⟨result, hresult, ?_⟩, rfl⟩
  rw [dataWithin_max]
  rw [dataWithin] at heq
  exact (Option.filter_eq_some_iff.mp heq).1

/-- What a host reads later takes nothing back. -/
theorem payload_of_prefix {data stream payload : List UInt8} (h : data <+: stream)
    (hmem : payload ∈ (KissTun.KissDecoder.feed
      ({} : KissTun.KissDecoder kissFramePayloadMaxLen) data).2.filterMap id) :
    payload ∈ (KissTun.KissDecoder.feed
      ({} : KissTun.KissDecoder kissFramePayloadMaxLen) stream).2.filterMap id := by
  obtain ⟨rest, rfl⟩ := h
  rw [host_payloads] at hmem ⊢
  rw [feed_append, List.filterMap_append]
  exact List.mem_append_left _ hmem

section

variable {zlibCrc32 : List UInt8 → Nat} {crc32fast : List UInt8 → UInt32} {mtu : Nat}

theorem kissTun_sound (h : ∀ data, zlibCrc32 data = (computeCrc32 data).toNat)
    (hmtu : mtu ≤ tncPayloadMaxLen) : (kissTun zlibCrc32 mtu).Sound where
  outgoing pkt := by
    rw [kissTun]
    dsimp only
    split
    · exact .inl rfl
    · next hpkt =>
      have hlength : pkt.length ≤ tncPayloadMaxLen := by omega
      rw [Script.wrapPayload_eq h hlength]
      exact .inr ⟨hlength, (kissEncode_eq (wrapped_fits hlength).2).1⟩
  inbound data pkt hmem := by
    obtain ⟨payload, hpayload, hunwrap⟩ := List.mem_filterMap.mp hmem
    obtain ⟨_, hunwrap⟩ := Option.ite_none_left_eq_some.mp hunwrap
    obtain ⟨rfl, _⟩ := (Script.unwrapPayload_iff h).mp (ok_of_toOption hunwrap)
    exact payload_of_cap (Nat.add_le_add_right hmtu serialIntegrityHdrLen) hpayload

theorem mainRs_sound (h : ∀ data, crc32fast data = computeCrc32 data)
    (hmtu : mtu ≤ tncPayloadMaxLen) : (mainRs crc32fast mtu).Sound where
  outgoing pkt := by
    rw [mainRs]
    dsimp only
    split
    · exact .inl rfl
    · next hpkt =>
      have hlength : pkt.length ≤ tncPayloadMaxLen := by omega
      rw [Daemon.wrapPayload_eq h]
      exact .inr ⟨hlength, (kissEncode_eq (wrapped_fits hlength).2).2⟩
  inbound data pkt hmem := by
    obtain ⟨payload, hpayload, hunwrap⟩ := List.mem_filterMap.mp hmem
    rw [KissRs.KissDecoder.feedAll_eq] at hpayload
    obtain ⟨_, hunwrap⟩ := Option.ite_none_left_eq_some.mp hunwrap
    obtain ⟨rfl, _⟩ := (Daemon.unwrapPayload_iff h).mp (ok_of_toOption hunwrap)
    exact payload_of_cap (Nat.add_le_add_right hmtu serialIntegrityHdrLen) hpayload

theorem reticulum_sound (h : ∀ data, zlibCrc32 data = (computeCrc32 data).toNat)
    (hmtu : mtu ≤ tncPayloadMaxLen) : (reticulum zlibCrc32 mtu).Sound where
  outgoing pkt := by
    rw [reticulum]
    dsimp only
    rw [Reticulum.processOutgoing_eq h]
    split
    · exact .inl rfl
    · next hpkt =>
      have hlength : pkt.length ≤ tncPayloadMaxLen := Nat.not_lt.mp hpkt
      exact .inr ⟨hlength, (kissEncode_eq (wrapped_fits hlength).2).1⟩
  inbound data pkt hmem := by
    obtain ⟨payload, hpayload, hunwrap⟩ := List.mem_filterMap.mp hmem
    rw [Reticulum.RxParser.processRxData_eq] at hpayload
    obtain ⟨rfl, _⟩ := (Reticulum.handleInboundFrame_iff h).mp hunwrap
    exact payload_of_cap (Nat.add_le_add_right hmtu serialIntegrityHdrLen) hpayload

end

/-! ### Two hosts -/

variable {bridge : Bridge}

/-- What a decoder takes from the bytes of a packet. -/
def Bridge.frames (bridge : Bridge) (pkt : List UInt8) : List KissFrame :=
  if bridge.outgoing pkt = [] then [] else takenFrame kissDataFrame (wrapped pkt)

theorem Bridge.Sound.outgoing_eq (h : bridge.Sound) {pkt : List UInt8}
    (hne : bridge.outgoing pkt ≠ []) : pkt.length ≤ tncPayloadMaxLen ∧
      bridge.outgoing pkt = encodeFrame kissDataFrame (wrapped pkt) serialKissEncodedMax :=
  (h.outgoing pkt).resolve_left hne

/-- The threads of a host write under a lock: a modem takes the packets that are written, each in
its envelope. -/
theorem Bridge.Sound.feed_written (h : bridge.Sound)
    {outputs : List (LockedStream.Output Nat UInt8 (List UInt8))}
    {s : LockedStream.State Nat (List UInt8)}
    (hwrites : LockedStream.Writes bridge.outgoing outputs s) {frame : KissFrame}
    (hframe : frame ∈ (feed {} (LockedStream.written outputs)).2) :
    ∃ entry ∈ LockedStream.finished outputs, frame.data = wrapped entry.2 := by
  have hframes : (feed {} (LockedStream.written outputs)).2 =
      (LockedStream.finished outputs).flatMap fun entry => bridge.frames entry.2 := by
    refine feed_locked hwrites (fun pkt kiss hkiss hlength => ?_) fun pkt kiss n hkiss hn => ?_
    · have hne := List.ne_nil_of_length_pos (Nat.pos_of_ne_zero hlength)
      rw [Bridge.frames, if_neg hne]
      rw [(h.outgoing_eq hne).2] at hlength ⊢
      exact feed_encodeFrame hkiss (by decide) (by decide) _ hlength
    · have hne := List.ne_nil_of_length_pos (Nat.zero_lt_of_lt hn)
      rw [(h.outgoing_eq hne).2] at hn ⊢
      exact feed_encodeFrame_take hkiss (by decide) _ hn
  rw [hframes] at hframe
  obtain ⟨entry, hentry, htaken⟩ := List.mem_flatMap.mp hframe
  refine ⟨entry, hentry, ?_⟩
  rw [Bridge.frames] at htaken
  split at htaken
  · cases htaken
  · rw [takenFrame] at htaken
    split at htaken
    · rw [List.mem_singleton.mp htaken]
    · cases htaken

/-- The interface at `a`, with two threads of RNS, and the script at `b`. -/
def mixedTunnel (side : Side) : Bridge :=
  if side = .a then reticulum (fun data => (computeCrc32 data).toNat) 500
  else kissTun (fun data => (computeCrc32 data).toNat) 220

/-- The second thread waits for the first. -/
def rnsWrites : List (LockedStream.Input Nat (List UInt8)) :=
  [.submit 1 [4, 5], .submit 0 [1, 2, 3], .take 0, .take 1, .write 0 64, .take 1, .write 1 5]

end FlrcTnc.Node

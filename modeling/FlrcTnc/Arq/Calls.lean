import FlrcTnc.Arq.Receiving

/-! The calls from outside: a datagram from above is a `Party.Submit`, a received packet a
`Party.Receive`, and every other call a `Party.Tick`. -/

namespace FlrcTnc.Arq

open Framing

namespace Exec

variable {e e' e'' e''' : Exec}

/-! ### Ticks -/

/-- What one tick promises of its result. -/
abbrev Ticks : Exec → Exec → Prop := Follows Party.Tick

theorem Ticks.light (h : Idles e e') (h' : Lights e' e'') : Ticks e e'' := by
  have hsame := h.party_eq
  obtain ⟨_, idle, hidle, hsteps⟩ := h
  obtain ⟨hvalid, light, hlight, hsteps'⟩ := h'
  rw [hsame] at hsteps hsteps'
  exact ⟨hvalid, idle ++ light, by rw [hlight, hidle, List.append_assoc], .light hsteps hsteps'⟩

theorem Ticks.decisive (h : Idles e e') (h' : Follows Party.Own e' e'') (h'' : Lights e'' e''') :
    Ticks e e''' := by
  have hsame := h.party_eq
  obtain ⟨_, idle, hidle, hsteps⟩ := h
  obtain ⟨_, act, hact, hstep⟩ := h'
  obtain ⟨hvalid, light, hlight, hsteps'⟩ := h''
  rw [hsame] at hsteps hstep
  exact ⟨hvalid, idle ++ act ++ light, by rw [hlight, hact, hidle]; simp only [List.append_assoc],
    .decisive hsteps hstep hsteps'⟩

/-- A slot whose datagram is not complete has nothing to deliver. -/
theorem tryCompleteRxSlot_incomplete (cb : ArqCallbacks) {j : Fin 4} (now : UInt32)
    (hpart : ¬ reassemblyIsComplete (e.rxSlots j).reassembly) :
    e.tryCompleteRxSlot cb j now = (false, e) := by
  rw [tryCompleteRxSlot]
  exact if_pos hpart

/-- What the two outcomes of `tryCompleteRxSlots` mean. -/
structure Completes (e : Exec) (result : Bool × Exec) : Prop where
  idles : result.1 = false → Idles e result.2
  act : result.1 = true → ∃ e', Idles e e' ∧
    Follows (fun p evs q => Party.Own p evs q ∧ takenPackets evs = []) e' result.2

theorem Completes.after {r : Bool × Exec} (h : Idles e e') (hr : Completes e' r) :
    Completes e r where
  idles hfalse := h.append (hr.idles hfalse)
  act htrue := by
    obtain ⟨e'', hidle, hact⟩ := hr.act htrue
    exact ⟨e'', h.append hidle, hact⟩

/-- One active slot either keeps its datagram or delivers it. -/
theorem tryCompleteRxSlot_completes (cb : ArqCallbacks) {j : Fin 4} (now : UInt32) (h : e.Valid)
    (hactive : (e.rxSlots j).active) : Completes e (e.tryCompleteRxSlot cb j now) := by
  have hr := receiver_slot hactive
  by_cases hdone : reassemblyIsComplete (e.rxSlots j).reassembly
  · have hcomplete := (slot_view h hr).2.2.2.2.2.2.2.mp hdone
    rcases tryCompleteRxSlot_spec cb now h hr hcomplete with
      ⟨hfalse, hv, hparty, refused, hevents, hrefused⟩ |
        ⟨htrue, stored, credits, hv, evs, hevents, rfl, hparty⟩
    · refine ⟨fun _ => ⟨hv, refused, hevents, ?_⟩, fun htrue => ?_⟩
      · rw [hparty]
        rcases hrefused with rfl | rfl
        · exact .nil _
        · refine .single ⟨.receiver _ (.refuse _ j _ hr hcomplete), rfl, fun ev hev => ?_⟩
          rw [List.mem_singleton.mp hev]
          trivial
      · rw [hfalse] at htrue
        cases htrue
    · refine ⟨fun hfalse => ?_, fun _ => ⟨e, .of_same h (.refl e), hv, _, hevents, ?_⟩⟩
      · rw [htrue] at hfalse
        cases hfalse
      · rw [hparty]
        refine ⟨⟨.receiver _ (.deliver _ j _ hr hcomplete stored credits), fun ev hev => ?_⟩,
          takenPackets_eq_nil.mpr fun ev hev =>
            (Receiver.ofFragment_of_mem_finishEvents hev).taken⟩
        rcases List.mem_cons.mp hev with rfl | hqueued
        · exact id
        · rw [eq_of_mem_enqueueEvents hqueued]
          exact id
  · rw [tryCompleteRxSlot_incomplete cb now hdone]
    exact ⟨fun _ => .of_same h (.refl e), fun htrue => by cases htrue⟩

theorem tryCompleteRxSlotsFrom_completes (cb : ArqCallbacks) (now : UInt32) (slots : List (Fin 4))
    (h : e.Valid) : Completes e (tryCompleteRxSlotsFrom cb now slots e) := by
  induction slots generalizing e with
  | nil => exact ⟨fun _ => .of_same h (.refl e), fun htrue => by cases htrue⟩
  | cons j rest ih =>
    rw [tryCompleteRxSlotsFrom]
    split
    · next hwaiting =>
      have hslot := tryCompleteRxSlot_completes cb now h hwaiting.1
      split
      · next e' heq =>
        rw [heq] at hslot
        exact ⟨fun hfalse => absurd hfalse (by simp), fun _ => hslot.act rfl⟩
      · next e' heq =>
        rw [heq] at hslot
        have hidle := hslot.idles rfl
        exact (ih hidle.valid).after hidle
    · exact ih h

theorem onTick_ticks (cb : ArqCallbacks) (now : UInt32) (h : e.Valid) :
    Ticks e (e.onTick cb now) := by
  have hcomplete := tryCompleteRxSlotsFrom_completes cb now (List.finRange 4) h
  rw [onTick, tryCompleteRxSlots]
  split
  · next e₁ heq =>
    rw [heq] at hcomplete
    obtain ⟨e', hidle, hact⟩ := hcomplete.act rfl
    exact .decisive hidle (hact.mono And.left) (sendPendingAck_sends cb now hact.valid).lights
  next e₁ heq =>
  rw [heq] at hcomplete
  have hidle₁ := hcomplete.idles rfl
  have hsend := sendPendingAck_sends cb now hidle₁.valid
  split
  · next e₂ heq =>
    rw [heq] at hsend
    exact .light hidle₁ hsend.lights
  next e₂ heq =>
  rw [heq] at hsend
  have hidle₂ := hidle₁.append (hsend.idles rfl)
  have hretransmit := trySendRetransmitFrom_spec cb now (List.finRange 4) hidle₂.valid
  rw [trySendRetransmit]
  split
  · next e₃ heq =>
    rw [heq] at hretransmit
    rcases hretransmit with hsends | ⟨hfalse, _⟩
    · exact .light hidle₂ hsends.lights
    · cases hfalse
  next e₃ heq =>
  rw [heq] at hretransmit
  have hvalid₃ : e₃.Valid := by
    rcases hretransmit with hsends | ⟨_, _, _, hact⟩
    · exact hsends.lights.valid
    · exact hact.valid
  -- whatever comes after the retransmissions decides nothing
  have hrest {e' : Exec} (hlights : Lights e₃ e') : Ticks e e' := by
    rcases hretransmit with hsends | ⟨_, e', hidle₃, hact⟩
    · exact .light (hidle₂.append (hsends.idles rfl)) hlights
    · exact .decisive (hidle₂.append hidle₃) hact hlights
  have hopen := trySendOpenData_sends cb now hvalid₃
  split
  · next e₄ heq =>
    rw [heq] at hopen
    exact hrest hopen.lights
  · next e₄ heq =>
    rw [heq] at hopen
    exact hrest (hopen.lights.append (tryOpenQueued_lights cb now hopen.lights.valid))

theorem onTxDatagram_submits (data : Option (List UInt8)) (h : e.Valid) :
    Follows Party.Submit e (e.onTxDatagram data).2 := by
  rcases onTxDatagram_spec data h with hsame | ⟨hv, evs, hevents, hact⟩
  · exact ⟨hsame.valid h, [], by rw [hsame.events, List.append_nil],
      by rw [hsame.party]; exact .reject⟩
  · exact ⟨hv, evs, hevents, .accept hact⟩

/-! ### Received packets -/

/-- A packet is received, and with an open egress nothing newly waits. -/
theorem onRxPacket_spec (cb : ArqCallbacks) (packet : Packet) (now : UInt32) (h : e.Valid) :
    Follows (fun p evs q => Party.Receive packet p evs q ∧
      (cb.EgressOpen → p.receiver.Drains q.receiver)) e (e.onRxPacket cb packet now) := by
  -- a packet that is neither DATA nor ACK changes at most a counter
  have hignore {e' : Exec} (hsame : Same e e') (hdata : parsePacketType packet ≠ .ok .data ∨
      ∃ err, parseDataPacket packet = .error err)
      (hack : parsePacketType packet ≠ .ok .ack ∨ ∃ err, parseAckPacket packet = .error err) :
      Follows (fun p evs q => Party.Receive packet p evs q ∧
        (cb.EgressOpen → p.receiver.Drains q.receiver)) e e' := by
    refine ⟨hsame.valid h, [], by rw [hsame.events, List.append_nil], ?_⟩
    rw [hsame.party]
    refine ⟨?_, fun _ j r hr _ => hr⟩
    refine .ignore _ (fun frame hframe => ?_) (fun ack hparse => ?_)
    · rcases hdata with htype | ⟨err, herr⟩
      · exact htype (parsePacketType_of_data hframe)
      · rw [hframe] at herr
        cases herr
    · rcases hack with htype | ⟨err, herr⟩
      · exact htype (parsePacketType_of_ack hparse)
      · rw [hparse] at herr
        cases herr
  have hmalformed := count_same e fun c => { c with malformedInput := c.malformedInput + 1 }
  rw [onRxPacket]
  split
  · next htype => exact hignore hmalformed (.inl (by simp [htype])) (.inl (by simp [htype]))
  · next htype =>
    split
    · next err hparse =>
      exact hignore hmalformed (.inr ⟨err, hparse⟩) (.inl (by simp [htype]))
    · next header payload hparse =>
      obtain ⟨hvalid, hlen⟩ := parseDataPacket_sound hparse
      obtain ⟨hv, evs, hevents, s, hreceive, hdrains, hparty⟩ :=
        handleData_receives cb now h hvalid hlen
      exact ⟨hv, evs, hevents, by rw [hparty]; exact ⟨.data _ hparse hreceive, hdrains⟩⟩
  · next htype =>
    split
    · next err hparse =>
      exact hignore hmalformed (.inl (by simp [htype])) (.inr ⟨err, hparse⟩)
    · next ack hparse =>
      obtain ⟨hv, evs, hevents, s, hreceive, hparty⟩ := handleAck_follows ack now h
      exact ⟨hv, evs, hevents, by
        rw [hparty]
        exact ⟨.ack _ hparse hreceive, fun _ j r hr _ => hr⟩⟩
  · next htype =>
    split
    · exact hignore hmalformed (.inl (by simp [htype])) (.inl (by simp [htype]))
    · exact hignore (.refl e) (.inl (by simp [htype])) (.inl (by simp [htype]))
  · next htype =>
    split
    · exact hignore hmalformed (.inl (by simp [htype])) (.inl (by simp [htype]))
    · exact hignore (.refl e) (.inl (by simp [htype])) (.inl (by simp [htype]))

end Exec

/-! ### Runs of one engine -/

/-- What a call does to the party. -/
def Party.Does : Call → Party → List Event → Party → Prop
  | .onRxPacket packet _ => Party.Receive packet
  | .onTxDatagram _ => Party.Submit
  | .onTick _ | .flushPendingAck _ => Party.Tick

/-- Every call keeps the engine in order and does what the party may do. -/
theorem ArqEngine.run_spec {e : ArqEngine} (h : e.Valid) (cb : ArqCallbacks) (call : Call) :
    (e.run cb call).Valid ∧ Party.Does call e.party (e.run cb call).events
      (e.run cb call).party := by
  have hfollows : Exec.Follows (Party.Does call) { e with } (e.run cb call) := by
    cases call with
    | onTxDatagram data => exact Exec.onTxDatagram_submits (e := { e with }) data h
    | onRxPacket packet now =>
      obtain ⟨hv, evs, hevents, hreceive, _⟩ :=
        Exec.onRxPacket_spec (e := { e with }) cb packet now h
      exact ⟨hv, evs, hevents, hreceive⟩
    | onTick now => exact Exec.onTick_ticks (e := { e with }) cb now h
    | flushPendingAck now =>
      have hidle : Exec.Idles { e with } { e with } := .of_same h (.refl _)
      exact Exec.Ticks.light hidle (Exec.sendPendingAck_sends (e := { e with }) cb now h).lights
  obtain ⟨hvalid, evs, hevents, hdoes⟩ := hfollows
  rw [List.nil_append] at hevents
  exact ⟨hvalid, by rw [hevents]; exact hdoes⟩

end FlrcTnc.Arq

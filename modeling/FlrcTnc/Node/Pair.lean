import FlrcTnc.Link.Fresh
import FlrcTnc.Node.Generic

/-! Two whole tasks in generic mode on one channel.  Their engines are a link, and what the link
promises for datagrams holds from `txQueue` of the one to `rxQueue` of the other. -/

namespace FlrcTnc

open Framing Arq

namespace Arq

/-- Without `onTxDatagram` nothing is accepted. -/
theorem ArqEngine.not_acceptance_run {e : ArqEngine} (h : e.Valid) (cb : ArqCallbacks)
    {call : Call} (hcall : ∀ data, call ≠ .onTxDatagram data) :
    ∀ ev ∈ (e.run cb call).events, ¬ ev.Acceptance := by
  have hdoes := (run_spec h cb call).2
  have htick (htick : Party.Tick e.party (e.run cb call).events (e.run cb call).party) :
      ∀ ev ∈ [] ++ (e.run cb call).events, ¬ ev.Acceptance :=
    Party.Tick.invariant (P := fun past _ => ∀ ev ∈ past, ¬ ev.Acceptance)
      (fun hpast hown ev hmem => (List.mem_append.mp hmem).elim (hpast ev) (hown.2 ev)) htick
      (List.forall_mem_nil _)
  cases call with
  | onTxDatagram data => exact absurd rfl (hcall data)
  | onTick | flushPendingAck => exact htick hdoes
  | onRxPacket packet now =>
    generalize (e.run cb (.onRxPacket packet now)).events = evs at hdoes
    generalize (e.run cb (.onRxPacket packet now)).party = q at hdoes
    generalize e.party = p at hdoes
    cases hdoes with
    | ignore => exact List.forall_mem_nil _
    | data s hpacket hreceive =>
      intro ev hmem haccepts
      have hfragment := hreceive.ofFragment ev hmem
      cases ev with
      | accepted => exact hfragment
      | sent | delivered | opened | failed | completed | ackQueued => exact haccepts
    | ack r hpacket hreceive =>
      cases hreceive with
      | ignore | withdraw | add => exact List.forall_mem_nil _
      | complete =>
        intro ev hmem haccepts
        rw [List.mem_singleton.mp hmem] at haccepts
        exact haccepts

/-- A datagram that is accepted is the one that was given. -/
theorem onTxDatagram_events (e : ArqEngine) (cb : ArqCallbacks) (data : List UInt8) :
    (e.run cb (.onTxDatagram (some data))).events = [] ∨
      ∃ i id, (e.run cb (.onTxDatagram (some data))).events = [.accepted i id data] := by
  rw [ArqEngine.run, Exec.onTxDatagram]
  dsimp only
  split
  · exact .inl rfl
  · split
    · exact .inl rfl
    · split
      · exact .inr ⟨_, _, rfl⟩
      · exact .inl rfl

end Arq

namespace Link

theorem after_append (channel : Channel) (l : Link) (moves more : List Move) :
    l.after channel (moves ++ more) = (l.after channel moves).after channel more := by
  induction moves generalizing l with
  | nil => rfl
  | cons move moves ih => exact ih (l.step channel move)

/-- A call at either side is a move, if what it receives is on its way. -/
theorem step_callS (l : Link) (cb : ArqCallbacks) (call : Call)
    (hpacket : ∀ packet now, call = .onRxPacket packet now → packet ∈ l.toS) :
    ∃ move, ¬ Move.isReset move ∧ l.step .any move = l.callS cb call := by
  cases call with
  | onTxDatagram data => exact ⟨.submit .s data, Bool.false_ne_true, rfl⟩
  | onTick now => exact ⟨.tick .s cb now, Bool.false_ne_true, rfl⟩
  | flushPendingAck now => exact ⟨.flush .s cb now, Bool.false_ne_true, rfl⟩
  | onRxPacket packet now =>
    obtain ⟨k, hk⟩ := List.getElem?_of_mem (hpacket packet now rfl)
    refine ⟨.receive .s k cb now, Bool.false_ne_true, ?_⟩
    rw [step, Channel.take, hk]
    rfl

theorem step_callR (l : Link) (cb : ArqCallbacks) (call : Call)
    (hpacket : ∀ packet now, call = .onRxPacket packet now → packet ∈ l.toR) :
    ∃ move, ¬ Move.isReset move ∧ l.step .any move = l.callR cb call := by
  cases call with
  | onTxDatagram data => exact ⟨.submit .r data, Bool.false_ne_true, rfl⟩
  | onTick now => exact ⟨.tick .r cb now, Bool.false_ne_true, rfl⟩
  | flushPendingAck now => exact ⟨.flush .r cb now, Bool.false_ne_true, rfl⟩
  | onRxPacket packet now =>
    obtain ⟨k, hk⟩ := List.getElem?_of_mem (hpacket packet now rfl)
    refine ⟨.receive .r k cb now, Bool.false_ne_true, ?_⟩
    rw [step, Channel.take, hk]
    rfl

/-- A call accepts nothing, or the datagram that it was given. -/
theorem acceptances_of_run {e : ArqEngine} (h : e.Valid) (cb : ArqCallbacks) (call : Call) :
    (∀ i id data, .accepted i id data ∉ (e.run cb call).events.filterMap Fate.ofS) ∨
      ∃ data i id, call = .onTxDatagram (some data) ∧
        (e.run cb call).events.filterMap Fate.ofS = [.accepted i id data] := by
  by_cases hcall : ∃ data, call = .onTxDatagram data
  · obtain ⟨data, rfl⟩ := hcall
    cases data with
    | none => exact .inl fun i id data => List.not_mem_nil
    | some data =>
      rcases onTxDatagram_events e cb data with heq | ⟨i, id, heq⟩
      · refine .inl fun i id data => ?_
        rw [heq]
        exact List.not_mem_nil
      · refine .inr ⟨data, i, id, rfl, ?_⟩
        rw [heq]
        rfl
  · refine .inl fun i id data hmem => ?_
    obtain ⟨ev, hev, hfate⟩ := List.mem_filterMap.mp hmem
    have hnot := ArqEngine.not_acceptance_run h cb (fun data heq => hcall ⟨data, heq⟩) ev hev
    cases ev with
    | accepted => exact hnot trivial
    | sent | delivered | opened | failed | completed | ackQueued => cases hfate

theorem acceptedIds_eq_nil {log : List Fate} (h : ∀ i id data, .accepted i id data ∉ log) :
    acceptedIds log = [] := by
  refine List.filterMap_eq_nil_iff.mpr fun fate hmem => ?_
  cases fate with
  | accepted i id data => exact absurd hmem (h i id data)
  | completed | delivered => rfl

/-- Without resets and with fewer than 65536 datagrams, whatever `r` delivers was accepted. -/
theorem integrity_any (s r : ArqConfig) {moves : List Move}
    (hreset : ∀ move ∈ moves, ¬ move.isReset)
    (hcount : (acceptedIds ((start s r).after .any moves).log).length < 65536) :
    Integrity ((start s r).after .any moves).log := by
  have hrun := run_invariant (P := Flow.FreshWhile s.initialDatagramId Flow.Owned)
    (fun hf hstep => hf.step hstep id fun hfresh hbase howned =>
      howned.step hbase hstep fun _ _ ht hqueued _ => (hfresh.free ht hqueued).unclaimed)
    (start_valid s r) moves (Keeps.noReset (keeps_default .any _ moves) hreset)
    ⟨.empty _, fun _ => ⟨.empty _, .empty _⟩⟩
  obtain ⟨_, owner, howns⟩ := hrun.2 hcount
  exact howns.integrity

end Link

namespace Node

open Kiss Serial Interleaving

/-- A payload that `rxQueue` takes. -/
def Event.delivery? : Event → Option (List UInt8)
  | .rxQueueSend _ payload true => some payload
  | _ => none

/-- What the task has for the host, in order. -/
def deliveries (events : List Event) : List (List UInt8) :=
  events.filterMap Event.delivery?

/-- An event that no packet of the engine and no delivery of it belongs to. -/
structure Event.Quiet (event : Event) : Prop where
  transmits : ∀ packet, event = .transmit packet true → parsePacketType packet = .ok .control
  delivers : event.delivery? = none

theorem quiet_other {event : Event} (htransmitted : event.transmitted? = none)
    (hdelivers : event.delivery? = none) : event.Quiet where
  transmits packet heq := by
    rw [heq] at htransmitted
    cases htransmitted
  delivers := hdelivers

theorem quiet_transmit {packet : Packet} {ok : Bool}
    (h : ok = true → parsePacketType packet = .ok .control) : (Event.transmit packet ok).Quiet where
  transmits packet' heq := by
    cases heq
    exact h rfl
  delivers := rfl

/-- A packet of the engine that the radio took was sent by it. -/
theorem sent_of_transmit {events : List Arq.Event} {packet : Packet}
    (h : .transmit packet true ∈ events.flatMap engineEvents) : .sent packet true ∈ events := by
  rcases of_mem_engineEvents h with ⟨_, _, _, hsent, _, heq⟩ | ⟨_, _, _, _, heq | heq⟩
  · cases heq
    exact hsent
  · cases heq
  · cases heq

/-- What generic mode hands to `rxQueue` was delivered by the engine. -/
theorem delivered_of_rxQueueSend {events : List Arq.Event} {payload : List UInt8}
    (h : payload ∈ deliveries (events.flatMap engineEvents)) :
    ∃ id, .delivered id payload true ∈ events := by
  obtain ⟨event, hmem, hdelivery⟩ := List.mem_filterMap.mp h
  rcases of_mem_engineEvents hmem with ⟨_, _, _, _, _, rfl⟩ | ⟨id, _, ok, hsource, rfl | rfl⟩
  · cases hdelivery
  · cases ok with
    | true =>
      cases hdelivery
      exact ⟨id, hsource⟩
    | false => cases hdelivery
  · cases hdelivery

namespace Statics

variable {mac mac' : Statics}

/-- A move in generic mode as the link sees it. -/
inductive LinkMove (mac mac' : Statics) : Prop
  | quiet (events : List Event) (htrace : mac'.trace = mac.trace ++ events)
      (hquiet : ∀ event ∈ events, event.Quiet) (harq : mac'.arq = mac.arq)
  | call (ans : EngineAnswers) (call : Call) (before after : List Event)
      (htrace : mac'.trace = mac.trace ++ before ++
        (mac.arq.run ans.callbacks call).events.flatMap engineEvents ++ after)
      (hbefore : ∀ event ∈ before, event.Quiet) (hafter : ∀ event ∈ after, event.Quiet)
      (harq : mac'.arq = (mac.arq.run ans.callbacks call).toArqEngine)
      (hreceived : ∀ packet now, call = .onRxPacket packet now →
        .received packet ∈ before ∧ parsePacketType packet ≠ .ok .control)
      (haccepted : ∀ data, call = .onTxDatagram data → ∃ frame, data = some frame ∧
        settledFrames after = [frame])

/-- What a move in generic mode is for the link, unless a config is applied. -/
theorem linkMove_of_move (hmode : mac.config.transportMode = .genericFragmented)
    (hmove : Move mac mac')
    (hconfig : ∀ config, .executed (.applyConfig config) ∉ mac'.trace) :
    LinkMove mac mac' ∧ mac'.config.transportMode = .genericFragmented := by
  have hone {event : Event} (hevent : event.Quiet) : ∀ ev ∈ [event], ev.Quiet :=
    fun ev hmem => List.mem_singleton.mp hmem ▸ hevent
  have htwo {event event' : Event} (hevent : event.Quiet) (hevent' : event'.Quiet) :
      ∀ ev ∈ [event, event'], ev.Quiet := fun ev hmem =>
    (List.mem_pair.mp hmem).elim (· ▸ hevent) (· ▸ hevent')
  have hnative {p : Prop} (h : mac.config.transportMode = .nativePacket) : p := by
    rw [hmode] at h
    cases h
  have hreceived (packet : Packet) : (Event.received packet).Quiet := quiet_other rfl rfl
  have hcontrol {ctrl : ControlFrame} {packet : Packet}
      (hbuild : buildControlPacket ctrl = .ok packet) : parsePacketType packet = .ok .control :=
    parsePacketType_of_control (control_exact.parses_of_builds hbuild)
  cases hmove with
  | clocks | tries | payloadActivity | staged | unanswered =>
    exact ⟨.quiet [] (List.append_nil _).symm (List.forall_mem_nil _) rfl, hmode⟩
  | startReceive | finished | invalid =>
    exact ⟨.quiet _ rfl (hone (quiet_other rfl rfl)) rfl, hmode⟩
  | configured config =>
    exact absurd (List.mem_append_right _ (List.mem_singleton_self _)) (hconfig config)
  | received packet => exact ⟨.quiet _ rfl (hone (hreceived packet)) rfl, hmode⟩
  | delivered _ _ _ h | replied _ _ _ h | answered _ _ _ _ _ h | heartbeat _ _ h
  | backedOff _ _ _ h | sent _ _ _ _ h | dispatched _ _ h => exact hnative h
  | repliedV3 packet reply type ok _ _ hreply =>
    exact ⟨.quiet _ (List.append_assoc ..) (htwo (hreceived packet)
      (quiet_transmit fun _ => hcontrol hreply)) rfl, hmode⟩
  | answeredV3 packet | linkStateV3 packet =>
    exact ⟨.quiet _ (List.append_assoc ..) (htwo (hreceived packet) (quiet_other rfl rfl)) rfl,
      hmode⟩
  | acked packet millis now ans _ hparse =>
    refine ⟨.call ans (.onRxPacket packet now) [.received packet, .confirmed .ack] [] ?_
      (htwo (hreceived packet) (quiet_other rfl rfl)) (List.forall_mem_nil _) rfl
      (fun packet' now' heq => ?_) nofun, hmode⟩
    · rw [List.append_nil]
      exact congrArg (· ++ _) (List.append_assoc ..)
    · cases heq
      exact ⟨List.mem_cons_self .., by rw [hparse]; nofun⟩
  | took packet type now ans _ hparse htype =>
    refine ⟨.call ans (.onRxPacket packet now) [.received packet] [] (List.append_nil _).symm
      (hone (hreceived packet)) (List.forall_mem_nil _) rfl (fun packet' now' heq => ?_) nofun,
      hmode⟩
    cases heq
    refine ⟨List.mem_cons_self .., ?_⟩
    rw [hparse]
    exact fun heq => htype (Except.ok.inj heq)
  | flushed ans now =>
    refine ⟨.call ans (.flushPendingAck now) [] [] ?_ (List.forall_mem_nil _)
      (List.forall_mem_nil _) rfl nofun nofun, hmode⟩
    rw [List.append_nil, List.append_nil]
    rfl
  | ticked ans now =>
    refine ⟨.call ans (.onTick now) [] [] ?_ (List.forall_mem_nil _) (List.forall_mem_nil _) rfl
      nofun nofun, hmode⟩
    rw [List.append_nil, List.append_nil]
    rfl
  | heartbeatV3 packet type millis _ _ hbuild =>
    exact ⟨.quiet _ rfl (hone (quiet_transmit fun _ => hcontrol hbuild)) rfl, hmode⟩
  | heartbeatLost packet => exact ⟨.quiet _ rfl (hone (quiet_transmit nofun)) rfl, hmode⟩
  | passed ans frame txQueue =>
    refine ⟨.call ans (.onTxDatagram (some frame)) []
      [if (Exec.onTxDatagram { mac.arq with } (some frame)).1 = .ok then .accepted frame
        else .refused frame] ?_ (List.forall_mem_nil _) (hone ?_) rfl nofun
      (fun data heq => ?_), hmode⟩
    · rw [List.append_nil]
      rfl
    · split <;> exact quiet_other rfl rfl
    · cases heq
      refine ⟨frame, rfl, ?_⟩
      split <;> rfl

end Statics

/-- The link of two engines has what the two tasks have, with every packet of theirs still on its
way. -/
structure Mirrors (sender receiver : Statics) (l : Link) : Prop where
  s : l.s = sender.arq
  r : l.r = receiver.arq
  sender_valid : sender.arq.Valid
  receiver_valid : receiver.arq.Valid
  toR : ∀ packet, .transmit packet true ∈ sender.trace →
    parsePacketType packet ≠ .ok .control → packet ∈ l.toR
  toS : ∀ packet, .transmit packet true ∈ receiver.trace →
    parsePacketType packet ≠ .ok .control → packet ∈ l.toS
  accepted : ∀ i id data, .accepted i id data ∈ l.log → data ∈ settledFrames sender.trace
  count : (Link.acceptedIds l.log).length ≤ (settledFrames sender.trace).length
  delivered : ∀ payload ∈ deliveries receiver.trace, ∃ id, .delivered id payload ∈ l.log

namespace Mirrors

variable {sender sender' receiver receiver' : Statics} {l : Link}

/-- Quiet events put no packet of an engine on the air. -/
theorem transmit_of_append {past events : List Event} {packet : Packet}
    (hquiet : ∀ event ∈ events, event.Quiet) (hmem : .transmit packet true ∈ past ++ events)
    (hcontrol : parsePacketType packet ≠ .ok .control) : .transmit packet true ∈ past := by
  rcases List.mem_append.mp hmem with hmem | hmem
  · exact hmem
  · exact absurd ((hquiet _ hmem).transmits packet rfl) hcontrol

theorem deliveries_of_append {past events : List Event} {payload : List UInt8}
    (hquiet : ∀ event ∈ events, event.Quiet)
    (hmem : payload ∈ deliveries (past ++ events)) : payload ∈ deliveries past := by
  rw [deliveries, List.filterMap_append, List.mem_append] at hmem
  refine hmem.resolve_right fun hmem => ?_
  obtain ⟨event, hevent, hdelivery⟩ := List.mem_filterMap.mp hmem
  rw [(hquiet event hevent).delivers] at hdelivery
  cases hdelivery

/-- The sender does something that its engine has no part in. -/
theorem sender_quiet (h : Mirrors sender receiver l) {events : List Event}
    (htrace : sender'.trace = sender.trace ++ events) (hquiet : ∀ event ∈ events, event.Quiet)
    (harq : sender'.arq = sender.arq) : Mirrors sender' receiver l where
  s := h.s.trans harq.symm
  r := h.r
  sender_valid := harq ▸ h.sender_valid
  receiver_valid := h.receiver_valid
  toR packet hmem hcontrol := by
    rw [htrace] at hmem
    exact h.toR packet (transmit_of_append hquiet hmem hcontrol) hcontrol
  toS := h.toS
  accepted i id data hmem := by
    rw [htrace, settledFrames_append]
    exact List.mem_append_left _ (h.accepted i id data hmem)
  count := by
    rw [htrace, settledFrames_append, List.length_append]
    exact h.count.trans (Nat.le_add_right ..)
  delivered := h.delivered

theorem receiver_quiet (h : Mirrors sender receiver l) {events : List Event}
    (htrace : receiver'.trace = receiver.trace ++ events) (hquiet : ∀ event ∈ events, event.Quiet)
    (harq : receiver'.arq = receiver.arq) : Mirrors sender receiver' l where
  s := h.s
  r := h.r.trans harq.symm
  sender_valid := h.sender_valid
  receiver_valid := harq ▸ h.receiver_valid
  toR := h.toR
  toS packet hmem hcontrol := by
    rw [htrace] at hmem
    exact h.toS packet (transmit_of_append hquiet hmem hcontrol) hcontrol
  accepted := h.accepted
  count := h.count
  delivered payload hmem := by
    rw [htrace] at hmem
    exact h.delivered payload (deliveries_of_append hquiet hmem)

/-- The engine of the sender is called. -/
theorem sender_call (h : Mirrors sender receiver l) {ans : EngineAnswers} {call : Call}
    {before after : List Event}
    (htrace : sender'.trace = sender.trace ++ before ++
      (sender.arq.run ans.callbacks call).events.flatMap engineEvents ++ after)
    (hbefore : ∀ event ∈ before, event.Quiet) (hafter : ∀ event ∈ after, event.Quiet)
    (harq : sender'.arq = (sender.arq.run ans.callbacks call).toArqEngine)
    (haccepted : ∀ data, call = .onTxDatagram data → ∃ frame, data = some frame ∧
      settledFrames after = [frame]) :
    Mirrors sender' receiver (l.callS ans.callbacks call) := by
  have hlog : (l.callS ans.callbacks call).log =
      l.log ++ (sender.arq.run ans.callbacks call).events.filterMap Fate.ofS := by
    rw [Link.callS, Link.afterS, h.s]
  have hsettled : settledFrames sender'.trace = settledFrames (sender.trace ++ before ++
      (sender.arq.run ans.callbacks call).events.flatMap engineEvents) ++ settledFrames after := by
    rw [htrace, settledFrames_append]
  have hold : settledFrames sender.trace <+: settledFrames (sender.trace ++ before ++
      (sender.arq.run ans.callbacks call).events.flatMap engineEvents) := by
    rw [List.append_assoc, settledFrames_append]
    exact List.prefix_append ..
  have hacceptances := Link.acceptances_of_run h.sender_valid ans.callbacks call
  refine ⟨?_, h.r, harq ▸ (ArqEngine.run_spec h.sender_valid ans.callbacks call).1,
    h.receiver_valid, fun packet hmem hcontrol => ?_, h.toS, fun i id data hmem => ?_, ?_,
    fun payload hmem => ?_⟩
  · rw [harq, ← h.s]
    rfl
  · rw [htrace] at hmem
    have hmem := transmit_of_append hafter hmem hcontrol
    have htoR : (l.callS ans.callbacks call).toR =
        l.toR ++ (sender.arq.run ans.callbacks call).events.filterMap sentPacket := by
      rw [Link.callS, Link.afterS, h.s]
    rw [htoR]
    rcases List.mem_append.mp hmem with hmem | hmem
    · exact List.mem_append_left _
        (h.toR packet (transmit_of_append hbefore hmem hcontrol) hcontrol)
    · exact List.mem_append_right _ (List.mem_filterMap.mpr ⟨_, sent_of_transmit hmem, rfl⟩)
  · rw [hlog] at hmem
    rw [hsettled]
    rcases List.mem_append.mp hmem with hmem | hmem
    · exact List.mem_append_left _ (hold.subset (h.accepted i id data hmem))
    · rcases hacceptances with hnone | ⟨frame, k, id', rfl, hone⟩
      · exact absurd hmem (hnone i id data)
      · obtain ⟨_, hframe, hafter⟩ := haccepted _ rfl
        cases hframe
        rw [hone] at hmem
        cases List.mem_singleton.mp hmem
        rw [hafter]
        exact List.mem_append_right _ (List.mem_singleton_self _)
  · rw [hlog, hsettled, Link.acceptedIds_append, List.length_append, List.length_append]
    refine Nat.add_le_add (h.count.trans hold.length_le) ?_
    rcases hacceptances with hnone | ⟨frame, k, id', rfl, hone⟩
    · rw [Link.acceptedIds_eq_nil hnone]
      exact Nat.zero_le _
    · obtain ⟨_, _, hafter⟩ := haccepted _ rfl
      rw [hone, hafter]
      exact Nat.le_refl 1
  · obtain ⟨id, hid⟩ := h.delivered payload hmem
    rw [hlog]
    exact ⟨id, List.mem_append_left _ hid⟩

/-- The engine of the receiver is called. -/
theorem receiver_call (h : Mirrors sender receiver l) {ans : EngineAnswers} {call : Call}
    {before after : List Event}
    (htrace : receiver'.trace = receiver.trace ++ before ++
      (receiver.arq.run ans.callbacks call).events.flatMap engineEvents ++ after)
    (hbefore : ∀ event ∈ before, event.Quiet) (hafter : ∀ event ∈ after, event.Quiet)
    (harq : receiver'.arq = (receiver.arq.run ans.callbacks call).toArqEngine) :
    Mirrors sender receiver' (l.callR ans.callbacks call) := by
  have hlog : (l.callR ans.callbacks call).log =
      l.log ++ (receiver.arq.run ans.callbacks call).events.filterMap Fate.ofR := by
    rw [Link.callR, Link.afterR, h.r]
  have hnone : ∀ i id data, .accepted i id data ∉
      (receiver.arq.run ans.callbacks call).events.filterMap Fate.ofR := by
    intro i id data hmem
    obtain ⟨ev, _, hfate⟩ := List.mem_filterMap.mp hmem
    cases ev with
    | delivered id data ok => cases ok <;> cases hfate
    | accepted | sent | opened | failed | completed | ackQueued => cases hfate
  refine ⟨h.s, ?_, h.sender_valid,
    harq ▸ (ArqEngine.run_spec h.receiver_valid ans.callbacks call).1, h.toR,
    fun packet hmem hcontrol => ?_, fun i id data hmem => ?_, ?_, fun payload hmem => ?_⟩
  · rw [harq, ← h.r]
    rfl
  · rw [htrace] at hmem
    have hmem := transmit_of_append hafter hmem hcontrol
    have htoS : (l.callR ans.callbacks call).toS =
        l.toS ++ (receiver.arq.run ans.callbacks call).events.filterMap sentPacket := by
      rw [Link.callR, Link.afterR, h.r]
    rw [htoS]
    rcases List.mem_append.mp hmem with hmem | hmem
    · exact List.mem_append_left _
        (h.toS packet (transmit_of_append hbefore hmem hcontrol) hcontrol)
    · exact List.mem_append_right _ (List.mem_filterMap.mpr ⟨_, sent_of_transmit hmem, rfl⟩)
  · rw [hlog] at hmem
    exact h.accepted i id data ((List.mem_append.mp hmem).resolve_right (hnone i id data))
  · rw [hlog, Link.acceptedIds_append, Link.acceptedIds_eq_nil hnone, List.append_nil]
    exact h.count
  · rw [htrace] at hmem
    have hmem := deliveries_of_append hafter hmem
    rw [hlog]
    rw [deliveries, List.filterMap_append, List.mem_append] at hmem
    rcases hmem with hmem | hmem
    · obtain ⟨id, hid⟩ := h.delivered payload (deliveries_of_append hbefore hmem)
      exact ⟨id, List.mem_append_left _ hid⟩
    · obtain ⟨id, hid⟩ := delivered_of_rxQueueSend hmem
      exact ⟨id, List.mem_append_right _ (List.mem_filterMap.mpr ⟨_, hid, rfl⟩)⟩

/-- A move of the sender is one of the link, or none. -/
theorem sender_move (h : Mirrors sender receiver l) (hmove : Statics.LinkMove sender sender')
    (hheard : ∀ packet, .received packet ∈ sender'.trace → .transmit packet true ∈ receiver.trace) :
    ∃ moves : List Link.Move, (∀ move ∈ moves, ¬ move.isReset) ∧
      Mirrors sender' receiver (l.after .any moves) := by
  cases hmove with
  | quiet events htrace hquiet harq =>
    exact ⟨[], List.forall_mem_nil _, h.sender_quiet htrace hquiet harq⟩
  | call ans call before after htrace hbefore hafter harq hreceived haccepted =>
    have hpacket : ∀ packet now, call = .onRxPacket packet now → packet ∈ l.toS := by
      intro packet now heq
      obtain ⟨hmem, hcontrol⟩ := hreceived packet now heq
      refine h.toS packet (hheard packet ?_) hcontrol
      rw [htrace]
      exact List.mem_append_left _ (List.mem_append_left _ (List.mem_append_right _ hmem))
    obtain ⟨move, hreset, hstep⟩ := l.step_callS ans.callbacks call hpacket
    refine ⟨[move], List.forall_mem_singleton.mpr hreset, ?_⟩
    rw [Link.after, Link.after, hstep]
    exact h.sender_call htrace hbefore hafter harq haccepted

theorem receiver_move (h : Mirrors sender receiver l)
    (hmove : Statics.LinkMove receiver receiver')
    (hheard : ∀ packet, .received packet ∈ receiver'.trace → .transmit packet true ∈ sender.trace) :
    ∃ moves : List Link.Move, (∀ move ∈ moves, ¬ move.isReset) ∧
      Mirrors sender receiver' (l.after .any moves) := by
  cases hmove with
  | quiet events htrace hquiet harq =>
    exact ⟨[], List.forall_mem_nil _, h.receiver_quiet htrace hquiet harq⟩
  | call ans call before after htrace hbefore hafter harq hreceived =>
    have hpacket : ∀ packet now, call = .onRxPacket packet now → packet ∈ l.toR := by
      intro packet now heq
      obtain ⟨hmem, hcontrol⟩ := hreceived packet now heq
      refine h.toR packet (hheard packet ?_) hcontrol
      rw [htrace]
      exact List.mem_append_left _ (List.mem_append_left _ (List.mem_append_right _ hmem))
    obtain ⟨move, hreset, hstep⟩ := l.step_callR ans.callbacks call hpacket
    refine ⟨[move], List.forall_mem_singleton.mpr hreset, ?_⟩
    rw [Link.after, Link.after, hstep]
    exact h.receiver_call htrace hbefore hafter harq

end Mirrors

/-- Some run of the link without resets has what the two tasks have. -/
def Linked (sender receiver : Statics) : Prop :=
  ∃ moves : List Link.Move, (∀ move ∈ moves, ¬ move.isReset) ∧
    Mirrors sender receiver ((Link.start Mac.arqConfig Mac.arqConfig).after .any moves)

/-- As long as the sender has fewer than 65536 frames of its host, the receiver delivers none but
these. -/
theorem Linked.integrity {sender receiver : Statics} (h : Linked sender receiver)
    (hserves : sender.Serves) (hcount : (hostFrames sender.trace).length < 65536) :
    ∀ payload ∈ deliveries receiver.trace, payload ∈ hostFrames sender.trace := by
  obtain ⟨moves, hreset, hmirrors⟩ := h
  have hsettled : settledFrames sender.trace <+: hostFrames sender.trace :=
    ⟨_, hserves.conserved.symm⟩
  have hintegrity := Link.integrity_any Mac.arqConfig Mac.arqConfig hreset
    ((hmirrors.count.trans hsettled.length_le).trans_lt hcount)
  intro payload hmem
  obtain ⟨id, hdelivered⟩ := hmirrors.delivered payload hmem
  obtain ⟨past, rest, hlog⟩ := List.append_of_mem hdelivered
  obtain ⟨k, haccepted⟩ := hintegrity past id payload rest hlog
  refine hsettled.subset (hmirrors.accepted k id payload ?_)
  rw [hlog]
  exact List.mem_append_left _ haccepted

theorem Linked.of_move {sender receiver sender' receiver' : Statics} (h : Linked sender receiver)
    (hmove : ∀ l, Mirrors sender receiver l → ∃ moves : List Link.Move,
      (∀ move ∈ moves, ¬ move.isReset) ∧ Mirrors sender' receiver' (l.after .any moves)) :
    Linked sender' receiver' := by
  obtain ⟨moves, hreset, hmirrors⟩ := h
  obtain ⟨more, hreset', hmirrors'⟩ := hmove _ hmirrors
  refine ⟨moves ++ more, fun move hmem => ?_, ?_⟩
  · exact (List.mem_append.mp hmem).elim (hreset move) (hreset' move)
  · rwa [Link.after_append]

/-! ### Two tasks -/

theorem Side.ne_other (side : Side) : side ≠ side.other := by cases side <;> decide

theorem Side.eq_or_other (side side' : Side) : side' = side ∨ side' = side.other := by
  cases side <;> cases side' <;> decide

/-- The two tasks with their inputs in one order. -/
def runBoth (macs : Side → Statics) (inputs : List (Side × Input)) : Side → Statics :=
  runAll Statics.step macs inputs

/-- What a task receives, the radio of the other one took before.  Any packet may be lost, come late
or more than once. -/
def Heeds (macs : Side → Statics) : List (Side × Input) → Prop
  | [] => True
  | entry :: inputs =>
    (∀ packet ∈ received ((macs entry.1).step entry.2).trace,
      .transmit packet true ∈ (macs entry.1.other).trace) ∧
    Heeds (stepAt Statics.step macs entry) inputs

instance decidableHeeds (macs : Side → Statics) :
    (inputs : List (Side × Input)) → Decidable (Heeds macs inputs)
  | [] => .isTrue trivial
  | entry :: inputs =>
    have := decidableHeeds (stepAt Statics.step macs entry) inputs
    inferInstanceAs (Decidable (_ ∧ _))

section

variable {macs : Side → Statics} {side : Side}

/-- The link stands through a move of either task. -/
theorem linked_move {at' : Side} {mac' : Statics}
    (hlinked : Linked (macs side) (macs side.other))
    (hmove : Statics.LinkMove (macs at') mac')
    (hheard : ∀ packet, .received packet ∈ mac'.trace →
      .transmit packet true ∈ (macs at'.other).trace) :
    Linked (Function.update macs at' mac' side) (Function.update macs at' mac' side.other) := by
  rcases Side.eq_or_other side at' with rfl | rfl
  · rw [Function.update_self, Function.update_of_ne (Side.ne_other _).symm]
    exact hlinked.of_move fun l h => h.sender_move hmove hheard
  · rw [Side.other_other] at hheard
    rw [Function.update_self, Function.update_of_ne (Side.ne_other _)]
    exact hlinked.of_move fun l h => h.receiver_move hmove hheard

/-- And through a chain of moves, none of which applies a config. -/
theorem linked_reaches {at' : Side} {mac' : Statics}
    (hlinked : Linked (macs side) (macs side.other))
    (hmode : (macs at').config.transportMode = .genericFragmented)
    (hreaches : Statics.Reaches (macs at') mac')
    (hheard : ∀ packet, .received packet ∈ mac'.trace →
      .transmit packet true ∈ (macs at'.other).trace)
    (hconfig : ∀ config, .executed (.applyConfig config) ∉ mac'.trace) :
    Linked (Function.update macs at' mac' side) (Function.update macs at' mac' side.other) ∧
      mac'.config.transportMode = .genericFragmented := by
  induction hreaches with
  | refl => exact ⟨by rwa [Function.update_eq_self], hmode⟩
  | @tail m m' _ hlast ih =>
    have hgrown := hlast.trace
    obtain ⟨hlinked, hmode⟩ := ih (fun packet hmem => hheard packet (hgrown.subset hmem))
      fun config hmem => hconfig config (hgrown.subset hmem)
    obtain ⟨hmove, hmode⟩ := Statics.linkMove_of_move hmode hlast hconfig
    have hmove : Statics.LinkMove (Function.update macs at' m at') m' := by
      rwa [Function.update_self]
    have hlinked' := linked_move hlinked hmove
      (by rwa [Function.update_of_ne (Side.ne_other _).symm])
    rw [Function.update_idem] at hlinked'
    exact ⟨hlinked', hmode⟩

/-- A step of either task, of which only the turn has a part of the engine. -/
theorem linked_step {entry : Side × Input} (hlinked : Linked (macs side) (macs side.other))
    (hcurrent : (macs entry.1).Current)
    (hmode : (macs entry.1).config.transportMode = .genericFragmented)
    (hheard : ∀ packet, .received packet ∈ ((macs entry.1).step entry.2).trace →
      .transmit packet true ∈ (macs entry.1.other).trace)
    (hconfig : ∀ config, .executed (.applyConfig config) ∉ ((macs entry.1).step entry.2).trace) :
    Linked (stepAt Statics.step macs entry side) (stepAt Statics.step macs entry side.other) ∧
      ((macs entry.1).step entry.2).config.transportMode = .genericFragmented := by
  obtain ⟨at', input⟩ := entry
  have hquiet {mac' : Statics} (events : List Event)
      (htrace : mac'.trace = (macs at').trace ++ events)
      (hquiet : ∀ event ∈ events, event.Quiet) (harq : mac'.arq = (macs at').arq)
      (hheard : ∀ packet, .received packet ∈ mac'.trace →
        .transmit packet true ∈ (macs at'.other).trace) :=
    linked_move hlinked (.quiet events htrace hquiet harq) hheard
  cases input with
  | host frame =>
    rw [stepAt]
    rw [Statics.step] at hheard ⊢
    split at hheard
    · next hroom =>
      rw [if_pos hroom]
      exact ⟨hquiet [.queued frame] rfl
        (List.forall_mem_singleton.mpr (quiet_other rfl rfl)) rfl hheard, hmode⟩
    · next hroom =>
      rw [if_neg hroom]
      exact ⟨hquiet [] (List.append_nil _).symm (List.forall_mem_nil _) rfl hheard, hmode⟩
  | request command =>
    rw [stepAt]
    rw [Statics.step] at hheard ⊢
    split at hheard
    · next hgate =>
      rw [if_pos hgate]
      exact ⟨hquiet [] (List.append_nil _).symm (List.forall_mem_nil _) rfl hheard, hmode⟩
    · next hgate =>
      rw [if_neg hgate]
      exact ⟨hquiet [] (List.append_nil _).symm (List.forall_mem_nil _) rfl hheard, hmode⟩
  | turn turn =>
    exact linked_reaches hlinked hmode (Statics.loop_moves hcurrent turn) hheard hconfig

theorem runBoth_eq (macs : Side → Statics) (inputs : List (Side × Input)) (side : Side) :
    runBoth macs inputs side = (macs side).run (eventsOf side inputs) :=
  runAll_eq Statics.step macs inputs side

theorem linked_run (inputs : List (Side × Input)) (hlinked : Linked (macs side) (macs side.other))
    (hcurrent : ∀ t, (macs t).Current)
    (hmode : ∀ t, (macs t).config.transportMode = .genericFragmented)
    (hheeds : Heeds macs inputs)
    (hconfig : ∀ t config, .executed (.applyConfig config) ∉ (runBoth macs inputs t).trace) :
    Linked (runBoth macs inputs side) (runBoth macs inputs side.other) := by
  induction inputs generalizing macs with
  | nil => exact hlinked
  | cons entry inputs ih =>
    obtain ⟨hheard, hheeds⟩ := hheeds
    have hstep (t : Side) : stepAt Statics.step macs entry t = macs t ∨
        t = entry.1 ∧ stepAt Statics.step macs entry t = (macs t).step entry.2 := by
      by_cases ht : t = entry.1
      · subst ht
        exact .inr ⟨rfl, Function.update_self ..⟩
      · exact .inl (Function.update_of_ne ht ..)
    have hcurrent' (t : Side) : (stepAt Statics.step macs entry t).Current := by
      rcases hstep t with heq | ⟨_, heq⟩
      · exact heq ▸ hcurrent t
      · exact heq ▸ (hcurrent t).step entry.2
    have htrace : ((macs entry.1).step entry.2).trace <+:
        (runBoth macs (entry :: inputs) entry.1).trace := by
      have hrun := (hcurrent' entry.1).run_trace (eventsOf entry.1 inputs)
      rw [← runBoth_eq] at hrun
      rwa [stepAt, Function.update_self] at hrun
    obtain ⟨hlinked', hmode'⟩ := linked_step hlinked (hcurrent entry.1) (hmode entry.1)
      (fun packet hmem => hheard packet (List.mem_filterMap.mpr ⟨_, hmem, rfl⟩))
      fun config hmem => hconfig entry.1 config (htrace.subset hmem)
    have hmodes (t : Side) :
        (stepAt Statics.step macs entry t).config.transportMode = .genericFragmented := by
      rcases hstep t with heq | ⟨rfl, heq⟩
      · rw [heq]
        exact hmode t
      · rw [heq]
        exact hmode'
    exact ih hlinked' hcurrent' hmodes hheeds hconfig

end

def startBoth (config : Side → RadioConfig) (nextHbMs : Side → UInt32) (side : Side) : Statics :=
  .start (config side) (nextHbMs side)

theorem start_linked (config : Side → RadioConfig) (nextHbMs : Side → UInt32) (side : Side) :
    Linked (startBoth config nextHbMs side) (startBoth config nextHbMs side.other) := by
  refine ⟨[], List.forall_mem_nil _, rfl, rfl, ArqEngine.reset_valid _, ArqEngine.reset_valid _,
    fun _ hmem => ?_, fun _ hmem => ?_, fun _ _ _ hmem => ?_, Nat.le_refl 0, fun _ hmem => ?_⟩
  all_goals cases hmem

theorem runBoth_serves (config : Side → RadioConfig) (nextHbMs : Side → UInt32)
    (inputs : List (Side × Input)) (side : Side) :
    (runBoth (startBoth config nextHbMs) inputs side).Serves := by
  rw [runBoth_eq]
  exact Statics.serves_kept.of_start (Statics.start_serves (config side) (nextHbMs side)) _

/-- Two tasks in generic mode, on a channel that loses, repeats and reorders.  Whatever happens at
either of them, in whatever order: what `rxQueue` of the one takes, the host of the other has sent,
as long as this host sends fewer than 65536 frames and no config is applied. -/
theorem generic_pair_integrity (config : Side → RadioConfig) (nextHbMs : Side → UInt32)
    (inputs : List (Side × Input)) (side : Side)
    (hmode : ∀ t, (config t).transportMode = .genericFragmented)
    (hheeds : Heeds (startBoth config nextHbMs) inputs)
    (hconfig : ∀ t config', .executed (.applyConfig config') ∉
      (runBoth (startBoth config nextHbMs) inputs t).trace)
    (hcount :
      (hostFrames (runBoth (startBoth config nextHbMs) inputs side).trace).length < 65536) :
    ∀ payload ∈ deliveries (runBoth (startBoth config nextHbMs) inputs side.other).trace,
      payload ∈ hostFrames (runBoth (startBoth config nextHbMs) inputs side).trace := by
  have hlinked := linked_run inputs (start_linked config nextHbMs side)
    (fun t => Statics.start_current (config t) (nextHbMs t)) hmode hheeds hconfig
  exact hlinked.integrity (runBoth_serves config nextHbMs inputs side) hcount

/-- A frame of the host of `a`. -/
def firstInputs : List Input :=
  [.host [1, 2, 3], .turn (.calm .txWake 5), .turn (.calm .timeout 6)]

/-- It arrives at `b` a second time. -/
def pairInputs : List (Side × Input) :=
  (firstInputs.map fun input => (Side.a, input)) ++
    (transmitted ((Statics.start {} 4000).run firstInputs).trace).flatMap fun packet =>
      [(.b, .turn (.calm (.radio (some packet)) 9)), (.b, .turn (.calm (.radio (some packet)) 11))]

set_option maxRecDepth 100000 in
theorem pairInputs_executed (side : Side) :
    executed (runBoth (startBoth (fun _ => {}) fun _ => 4000) pairInputs side).trace = [] := by
  cases side <;> decide +kernel

set_option maxRecDepth 100000 in
theorem generic_pair_integrity_pairInputs :
    [1, 2, 3] ∈ deliveries
        (runBoth (startBoth (fun _ => {}) fun _ => 4000) pairInputs .b).trace ∧
      [1, 2, 3] ∈ hostFrames
        (runBoth (startBoth (fun _ => {}) fun _ => 4000) pairInputs .a).trace := by
  have harrived : [1, 2, 3] ∈ deliveries
      (runBoth (startBoth (fun _ => {}) fun _ => 4000) pairInputs .b).trace := by decide +kernel
  refine ⟨harrived, ?_⟩
  refine generic_pair_integrity (fun _ => {}) (fun _ => 4000) pairInputs .a (fun _ => rfl)
    (by decide +kernel) (fun side config => ?_) (by decide +kernel) [1, 2, 3] harrived
  exact not_mem_of_executed (pairInputs_executed side) (.applyConfig config)

end Node

end FlrcTnc

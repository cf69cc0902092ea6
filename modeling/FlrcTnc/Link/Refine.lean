import FlrcTnc.Link.Flow

/-! Every move of a link is a run of small steps of its flow. -/

namespace FlrcTnc

open Framing Arq

namespace Link

/-! ### What events carry -/

/-- The DATA frames that the events put on the air. -/
def framesOf (evs : List Event) : List DataFrame := (evs.filterMap sentPacket).filterMap dataFrame

/-- The ACKs that the events put on the air. -/
def acksOf (evs : List Event) : List AckFrame := (evs.filterMap sentPacket).filterMap ackFrame

theorem framesOf_append (evs evs' : List Event) :
    framesOf (evs ++ evs') = framesOf evs ++ framesOf evs' := by
  simp only [framesOf, List.filterMap_append]

theorem acksOf_append (evs evs' : List Event) :
    acksOf (evs ++ evs') = acksOf evs ++ acksOf evs' := by
  simp only [acksOf, List.filterMap_append]

theorem dataFrame_eq {packet : Packet} {frame : DataFrame} :
    dataFrame packet = some frame ↔ parseDataPacket packet = .ok frame := by
  rw [dataFrame]
  cases parseDataPacket packet <;> simp [Except.toOption]

theorem ackFrame_eq {packet : Packet} {ack : AckFrame} :
    ackFrame packet = some ack ↔ parseAckPacket packet = .ok ack := by
  rw [ackFrame]
  cases parseAckPacket packet <;> simp [Except.toOption]

theorem dataFrame_of_ack {packet : Packet} {ack : AckFrame} (h : parseAckPacket packet = .ok ack) :
    dataFrame packet = none := by
  cases hframe : dataFrame packet with
  | none => rfl
  | some frame => exact absurd h (not_ack_of_data (dataFrame_eq.mp hframe) ack)

theorem ackFrame_of_data {packet : Packet} {frame : DataFrame}
    (h : parseDataPacket packet = .ok frame) : ackFrame packet = none := by
  cases hack : ackFrame packet with
  | none => rfl
  | some ack => exact absurd (ackFrame_eq.mp hack) (not_ack_of_data h ack)

/-- Refusals put nothing on the air and leave nothing in the log. -/
theorem of_refusals {evs : List Event} (h : ∀ ev ∈ evs, ev.Refusal) :
    evs.filterMap sentPacket = [] ∧ evs.filterMap Fate.ofS = [] ∧ evs.filterMap Fate.ofR = [] := by
  refine ⟨?_, ?_, ?_⟩
  all_goals
    refine List.filterMap_eq_nil_iff.mpr fun ev hev => ?_
    have hrefusal := h ev hev
    cases ev with
    | sent packet ok | delivered id data ok =>
      cases ok with
      | true => exact hrefusal.elim
      | false => rfl
    | accepted | opened | failed | completed | ackQueued => exact hrefusal.elim

theorem fates_of_receiver {evs : List Event} (h : ∀ ev ∈ evs, ev.OfReceiver) :
    evs.filterMap Fate.ofS = [] := by
  refine List.filterMap_eq_nil_iff.mpr fun ev hev => ?_
  have hof := h ev hev
  cases ev with
  | sent | delivered | ackQueued => rfl
  | accepted | opened | failed | completed => exact hof.elim

theorem fates_of_sender {evs : List Event} (h : ∀ ev ∈ evs, ev.OfSender) :
    evs.filterMap Fate.ofR = [] := by
  refine List.filterMap_eq_nil_iff.mpr fun ev hev => ?_
  have hof := h ev hev
  cases ev with
  | sent | accepted | opened | failed | completed => rfl
  | delivered | ackQueued => exact hof.elim

/-- What the events of a delivery and of a queued ACK put on the air. -/
theorem sentPacket_enqueueEvents (pending : List AckFrame) (ack : AckFrame) (source : AckSource) :
    (enqueueEvents pending ack source).filterMap sentPacket = [] := by
  refine List.filterMap_eq_nil_iff.mpr fun ev hev => ?_
  rw [eq_of_mem_enqueueEvents hev]
  rfl

theorem fates_enqueueEvents (pending : List AckFrame) (ack : AckFrame) (source : AckSource) :
    (enqueueEvents pending ack source).filterMap Fate.ofR = [] := by
  refine List.filterMap_eq_nil_iff.mpr fun ev hev => ?_
  rw [eq_of_mem_enqueueEvents hev]
  rfl

theorem framesOf_receiver {r r' : Receiver} {evs : List Event} (h : r.Act evs r') :
    framesOf evs = [] := by
  cases h with
  | refuse => rfl
  | deliver =>
    rw [framesOf, Receiver.finishEvents, List.filterMap_cons, sentPacket_enqueueEvents]
    rfl
  | sendAck ack rest hpending packet hpacket ok =>
    cases ok with
    | false => rfl
    | true =>
      change [packet].filterMap dataFrame = []
      rw [List.filterMap_cons, dataFrame_of_ack hpacket]
      rfl

theorem acksOf_sender {s s' : Sender} {evs : List Event} (h : s.Act evs s') : acksOf evs = [] := by
  cases h with
  | accept | openSlot | fail => rfl
  | send i t ht packet header payload hcarries hpacket ok =>
    cases ok with
    | false => rfl
    | true =>
      change [packet].filterMap ackFrame = []
      rw [List.filterMap_cons, ackFrame_of_data hpacket]
      rfl

end Link

namespace Flow

open Link

variable {rules : Rules} {p q : Party} {evs : List Event} {s : Sender} {r : Receiver}
  {data : List DataFrame} {acks : List AckFrame} {log : List Fate}

/-! ### Acts at `s` -/

/-- The flow after acts at `s`. -/
def afterS (f : Flow) (sender : Sender) (evs : List Event) : Flow :=
  { f with
    sender
    data := f.data ++ framesOf evs
    log := f.log ++ evs.filterMap Fate.ofS }

theorem afterS_afterS (f : Flow) (s s' : Sender) (evs evs' : List Event) :
    (f.afterS s evs).afterS s' evs' = f.afterS s' (evs ++ evs') := by
  simp only [afterS, framesOf_append, List.filterMap_append, List.append_assoc]

theorem afterS_quiet {f : Flow} {evs : List Event} (hframes : framesOf evs = [])
    (hfates : evs.filterMap Fate.ofS = []) : f.afterS f.sender evs = f := by
  simp only [afterS, hframes, hfates, List.append_nil]

theorem afterS_eq {f : Flow} {s : Sender} {evs : List Event} (hframes : framesOf evs = [])
    (hfates : evs.filterMap Fate.ofS = []) : f.afterS s evs = { f with sender := s } := by
  simp only [afterS, hframes, hfates, List.append_nil]

theorem act_s {f : Flow} (hf : f.sender = p.sender) (hact : Party.Act p evs q)
    (hrules : ∀ ev ∈ evs, rules.AtS f ev) : Run rules f (f.afterS q.sender evs) := by
  cases hact with
  | receiver s hact =>
    rw [← (show f.sender = s from hf), afterS_quiet (framesOf_receiver hact)
      (fates_of_receiver hact.ofReceiver)]
  | sender r hact =>
    change f.sender = _ at hf
    cases hact with
    | accept i data hpos hmax hempty hfirst =>
      subst hf
      have heq : f.afterS { f.sender.setSlot i (some ⟨false, f.sender.nextId, data, 0⟩) with
          nextId := f.sender.nextId + 1 } [.accepted i f.sender.nextId data] = { f with
        sender := { f.sender.setSlot i (some ⟨false, f.sender.nextId, data, 0⟩) with
          nextId := f.sender.nextId + 1 }
        log := f.log ++ [.accepted i f.sender.nextId data] } := by
        simp [afterS, framesOf, sentPacket, Fate.ofS]
      rw [heq]
      exact .single (.accept f i data hpos hmax hempty)
    | openSlot i t ht hnone hfirst =>
      subst hf
      rw [afterS_eq rfl rfl]
      exact .single (.openSlot f i t ht hnone (hrules _ (List.mem_singleton_self _) t ht))
    | send i t ht packet header payload hcarries hpacket ok =>
      subst hf
      cases ok with
      | false => rw [afterS_quiet rfl rfl]
      | true =>
        have heq : f.afterS f.sender [.sent packet true] =
            { f with data := f.data ++ [(header, payload)] } := by
          simp [afterS, framesOf, sentPacket, Fate.ofS, dataFrame_eq.mpr hpacket]
        rw [heq]
        exact .single (.send f i t ht (header, payload) hcarries)
    | fail i t ht hmissing =>
      subst hf
      rw [afterS_eq rfl rfl]
      exact .single (.fail f i t ht hmissing (hrules _ (List.mem_singleton_self _) t ht.1))

/-- Between the start of a tick and the opening of a datagram nothing changes but that a datagram
may be given up; afterwards a datagram is open. -/
def Ready (f₀ f : Flow) : Prop :=
  (f.receiver = f₀.receiver ∧ f.data = f₀.data ∧ f.acks = f₀.acks ∧
    ∀ i t, f.sender.slots i = some t → f₀.sender.slots i = some t) ∨ ∃ i t, f.sender.Open i t

theorem Ready.refl (f : Flow) : Ready f f := .inl ⟨rfl, rfl, rfl, fun _ _ h => h⟩

/-- What an act of a tick that accepts nothing leaves `Ready`. -/
theorem ready_own {f₀ f : Flow} (hf : f.sender = p.sender) (hown : Party.Own p evs q)
    (hready : Ready f₀ f) (hfails : (∃ i, .failed i ∈ evs) → f = f₀) :
    Ready f₀ (f.afterS q.sender evs) := by
  obtain ⟨hact, hnone⟩ := hown
  cases hact with
  | receiver s hact =>
    rwa [← (show f.sender = s from hf), afterS_quiet (framesOf_receiver hact)
      (fates_of_receiver hact.ofReceiver)]
  | sender r hact =>
    change f.sender = _ at hf
    cases hact with
    | accept => exact absurd trivial (hnone _ (List.mem_singleton_self _))
    | openSlot i t ht =>
      exact .inr ⟨i, _, Sender.setSlot_eq_some_iff.mpr (.inl ⟨rfl, rfl⟩), rfl⟩
    | send i t ht => exact .inr ⟨i, t, ht⟩
    | fail i t ht =>
      obtain rfl := hfails ⟨i, List.mem_singleton_self _⟩
      subst hf
      rw [afterS_eq rfl rfl]
      exact .inl ⟨rfl, rfl, rfl, fun k u hu => (Slots.of_update_none hu).2⟩

/-- The rules at the start of a tick are those at its light acts. -/
theorem light_rules {f₀ f : Flow} (hf : f.sender = p.sender) (hlight : Party.Light p evs q)
    (hready : Ready f₀ f) (hrules : ∀ ev ∈ evs, rules.AtS f₀ ev) :
    ∀ ev ∈ evs, rules.AtS f ev := by
  intro ev hev
  have hev' := hrules ev hev
  obtain ⟨hact, hlight⟩ := hlight
  cases ev with
  | sent | delivered | accepted | completed | ackQueued => trivial
  | failed i => exact absurd trivial (hlight _ hev)
  | opened i =>
    cases hact with
    | receiver s hact => exact (hact.ofReceiver _ hev).elim
    | sender r hact =>
      change f.sender = _ at hf
      cases hact with
      | accept | send | fail => simp at hev
      | openSlot k t ht hnone hfirst =>
        subst hf
        rcases hready with ⟨hreceiver, hdata, hacks, hslots⟩ | ⟨k, u, hu⟩
        · intro t ht
          rw [hreceiver, hdata, hacks]
          exact hev' t (hslots i t ht)
        · exact absurd hu.2 (hnone k u hu.1)

theorem lights_s {f₀ f : Flow} (hf : f.sender = p.sender)
    (hlights : Trace.Steps Party.Light p evs q) (hready : Ready f₀ f)
    (hrules : ∀ ev ∈ evs, rules.AtS f₀ ev) : Run rules f (f.afterS q.sender evs) := by
  induction hlights generalizing f with
  | nil =>
    rw [← hf, afterS_quiet rfl rfl]
  | @cons p p' q evs evs' head tail ih =>
    have hhead (ev : Event) (hev : ev ∈ evs) := hrules ev (List.mem_append_left _ hev)
    have hrun := act_s hf head.1 (light_rules hf head hready hhead)
    have hready' := ready_own hf head.own hready fun ⟨i, hi⟩ => absurd trivial (head.2 _ hi)
    have htail := ih (f := f.afterS p'.sender evs) rfl hready' fun ev hev =>
      hrules ev (List.mem_append_right _ hev)
    rw [afterS_afterS] at htail
    exact hrun.trans htail

theorem idles_refusals (h : Trace.Steps Party.Idle p evs q) : ∀ ev ∈ evs, ev.Refusal := by
  induction h with
  | nil => exact fun ev hev => by cases hev
  | cons head tail ih =>
    intro ev hev
    rcases List.mem_append.mp hev with hev | hev
    · exact head.2.2 ev hev
    · exact ih ev hev

theorem tick_s {f : Flow} (hf : f.sender = p.sender) (htick : Party.Tick p evs q)
    (hrules : ∀ ev ∈ evs, rules.AtS f ev) : Run rules f (f.afterS q.sender evs) := by
  have hidle {idle : List Event} (h : Trace.Steps Party.Idle p idle p) :
      f.afterS f.sender idle = f := by
    obtain ⟨hpackets, hfates, _⟩ := of_refusals (idles_refusals h)
    exact afterS_quiet (by rw [framesOf, hpackets]; rfl) hfates
  cases htick with
  | @light idle light q hidles hlights =>
    have hrun := lights_s hf hlights (.refl f) fun ev hev =>
      hrules ev (List.mem_append_right _ hev)
    rw [← afterS_afterS f f.sender, hidle hidles]
    exact hrun
  | @decisive idle act light q' q hidles hown hlights =>
    have hact := act_s hf hown.1 fun ev hev =>
      hrules ev (List.mem_append_left _ (List.mem_append_right _ hev))
    have hready := ready_own hf hown (.refl f) fun _ => rfl
    have hrun := lights_s (f := f.afterS q'.sender act) rfl hlights hready fun ev hev =>
      hrules ev (List.mem_append_right _ hev)
    rw [afterS_afterS] at hrun
    rw [List.append_assoc, ← afterS_afterS f f.sender, hidle hidles]
    exact hact.trans hrun

/-! ### Acts at `r` -/

/-- The flow after acts at `r`. -/
def afterR (f : Flow) (receiver : Receiver) (evs : List Event) : Flow :=
  { f with
    receiver
    acks := f.acks ++ acksOf evs
    log := f.log ++ evs.filterMap Fate.ofR }

theorem afterR_afterR (f : Flow) (r r' : Receiver) (evs evs' : List Event) :
    (f.afterR r evs).afterR r' evs' = f.afterR r' (evs ++ evs') := by
  simp only [afterR, acksOf_append, List.filterMap_append, List.append_assoc]

theorem afterR_quiet {f : Flow} {evs : List Event} (hacks : acksOf evs = [])
    (hfates : evs.filterMap Fate.ofR = []) : f.afterR f.receiver evs = f := by
  simp only [afterR, hacks, hfates, List.append_nil]

theorem afterR_eq {f : Flow} {r : Receiver} {evs : List Event} (hacks : acksOf evs = [])
    (hfates : evs.filterMap Fate.ofR = []) : f.afterR r evs = { f with receiver := r } := by
  simp only [afterR, hacks, hfates, List.append_nil]

theorem acksOf_enqueueEvents (pending : List AckFrame) (ack : AckFrame) (source : AckSource) :
    acksOf (enqueueEvents pending ack source) = [] := by
  rw [acksOf, sentPacket_enqueueEvents]
  rfl

theorem afterR_finish {f : Flow} {r : Receiver} {q : Incoming} {stored credits : UInt8}
    {j : Fin 4} : f.afterR (r.finish j q stored credits) (r.finishEvents q credits) = { f with
      receiver := r.finish j q stored credits
      log := f.log ++ [.delivered q.id q.content] } := by
  have hacks : acksOf (r.finishEvents q credits) = [] := by
    rw [acksOf, Receiver.finishEvents, List.filterMap_cons, sentPacket_enqueueEvents]
    rfl
  have hfates : (r.finishEvents q credits).filterMap Fate.ofR = [.delivered q.id q.content] := by
    rw [Receiver.finishEvents, List.filterMap_cons, fates_enqueueEvents]
    rfl
  simp only [afterR, hacks, hfates, List.append_nil]

theorem act_r {f : Flow} (hf : f.receiver = p.receiver) (hact : Party.Act p evs q)
    (hrules : ∀ ev ∈ evs, rules.AtR f ev) : Run rules f (f.afterR q.receiver evs) := by
  cases hact with
  | sender r hact =>
    rw [← (show f.receiver = r from hf), afterR_quiet (acksOf_sender hact)
      (fates_of_sender hact.ofSender)]
  | receiver s hact =>
    change f.receiver = _ at hf
    cases hact with
    | refuse j r hr hcomplete =>
      subst hf
      rw [afterR_quiet rfl rfl]
    | deliver j r hr hcomplete stored credits =>
      subst hf
      rw [afterR_finish]
      exact .single (.deliver f j r hr hcomplete stored credits
        (hrules (.delivered r.id r.content true) (List.mem_cons_self ..)))
    | sendAck ack rest hpending packet hpacket ok =>
      subst hf
      cases ok with
      | false =>
        change Run rules f (f.afterR f.receiver _)
        rw [afterR_quiet rfl rfl]
      | true =>
        have heq : f.afterR { f.receiver with pending := rest } [.sent packet true] = { f with
            receiver := { f.receiver with pending := rest }
            acks := f.acks ++ [ack] } := by
          simp [afterR, acksOf, sentPacket, Fate.ofR, ackFrame_eq.mpr hpacket]
        exact heq ▸ .single (.sendAck f ack rest hpending)

theorem lights_r {f : Flow} (hf : f.receiver = p.receiver)
    (hlights : Trace.Steps Party.Light p evs q) : Run rules f (f.afterR q.receiver evs) := by
  induction hlights generalizing f with
  | nil => rw [← hf, afterR_quiet rfl rfl]
  | @cons p p' q evs evs' head tail ih =>
    have hrun : Run rules f (f.afterR p'.receiver evs) := act_r hf head.1 fun ev hev => by
      have hlight := head.2 ev hev
      cases ev with
      | delivered id data ok =>
        cases ok with
        | true => exact absurd trivial hlight
        | false => trivial
      | sent | accepted | opened | failed | completed | ackQueued => trivial
    have htail := ih (f := f.afterR p'.receiver evs) rfl
    rw [afterR_afterR] at htail
    exact hrun.trans htail

theorem tick_r {f : Flow} (hf : f.receiver = p.receiver) (htick : Party.Tick p evs q)
    (hrules : ∀ ev ∈ evs, rules.AtR f ev) : Run rules f (f.afterR q.receiver evs) := by
  have hidle {idle : List Event} (h : Trace.Steps Party.Idle p idle p) :
      f.afterR f.receiver idle = f := by
    obtain ⟨hpackets, _, hfates⟩ := of_refusals (idles_refusals h)
    exact afterR_quiet (by rw [acksOf, hpackets]; rfl) hfates
  cases htick with
  | @light idle light q hidles hlights =>
    rw [← afterR_afterR f f.receiver, hidle hidles]
    exact lights_r hf hlights
  | @decisive idle act light q' q hidles hown hlights =>
    have hact := act_r hf hown.1 fun ev hev =>
      hrules ev (List.mem_append_left _ (List.mem_append_right _ hev))
    have hrun : Run rules (f.afterR q'.receiver act) _ := lights_r rfl hlights
    rw [afterR_afterR] at hrun
    rw [List.append_assoc, ← afterR_afterR f f.receiver, hidle hidles]
    exact hact.trans hrun

/-! ### Received packets -/

/-- Receiving sends nothing. -/
theorem sentPacket_settle {r r' : Receiver} {j : Fin 4} {q : Incoming} {evs : List Event}
    (h : r.Settle j q evs r') : evs.filterMap sentPacket = [] := by
  cases h with
  | partly => rfl
  | roundEnd => exact sentPacket_enqueueEvents ..
  | deliver => exact sentPacket_enqueueEvents ..
  | block hcomplete refused hrefused =>
    rw [List.filterMap_append, sentPacket_enqueueEvents, List.append_nil]
    rcases hrefused with rfl | rfl <;> rfl

theorem sentPacket_receive {r r' : Receiver} {header : DataHeader} {payload : List UInt8}
    {evs : List Event} (h : r.Receive header payload evs r') : evs.filterMap sentPacket = [] := by
  cases h with
  | duplicate | noSlot | mismatch => exact sentPacket_enqueueEvents ..
  | taken j q hnew htakes hsettle => exact sentPacket_settle hsettle

theorem sentPacket_receiveAck {s s' : Sender} {ack : AckFrame} {evs : List Event}
    (h : s.Receive ack evs s') : evs.filterMap sentPacket = [] := by
  cases h <;> rfl

/-- An ACK is queued, and what arrived leaves the channel. -/
theorem queue_r {f : Flow} {r : Receiver} {ack : AckFrame} {source : AckSource}
    {pending : List AckFrame} (hr : f.receiver = r) (hqueues : f.Queues ack) :
    Run rules f (f.afterR (r.queue ack) (enqueueEvents pending ack source)) := by
  subst hr
  rw [afterR_eq (acksOf_enqueueEvents ..) (fates_enqueueEvents ..)]
  exact .single (.queue f ack hqueues)

theorem settle_r {f : Flow} {r r' : Receiver} {j : Fin 4} {q : Incoming} (hr : f.receiver = r)
    (hq : r.slots j = some q) (hsettle : r.Settle j q evs r')
    (hrules : ∀ ev ∈ evs, rules.AtR f ev) :
    Run rules f (f.afterR r' evs) := by
  subst hr
  cases hsettle with
  | partly => rw [afterR_quiet rfl rfl]
  | roundEnd hpart credits => exact queue_r rfl (.partly j q credits hq hpart)
  | deliver hcomplete stored credits =>
    rw [afterR_finish]
    exact .single (.deliver f j q hq hcomplete stored credits
      (hrules (.delivered q.id q.content true) (List.mem_cons_self ..)))
  | block hcomplete refused hrefused =>
    have hquiet : f.afterR f.receiver refused = f := by
      rcases hrefused with rfl | rfl <;> exact afterR_quiet rfl rfl
    rw [← afterR_afterR f f.receiver, hquiet]
    exact queue_r rfl (.withdrawal j q hq hcomplete)

theorem receiveData_r {f : Flow} {frame : DataFrame} {r r' : Receiver} {rest : List DataFrame}
    (hr : f.receiver = r) (hframe : frame ∈ f.data) (hrest : rest.Sublist f.data)
    (hreceive : r.Receive frame.1 frame.2 evs r')
    (hrules : ∀ ev ∈ evs, rules.AtR { f with data := rest } ev) :
    Run rules f ({ f with data := rest }.afterR r' evs) := by
  subst hr
  have hdrop (f : Flow) (h : rest.Sublist f.data) : Step rules f { f with data := rest } :=
    .drop f rest f.acks h (List.Sublist.refl _)
  cases hreceive with
  | duplicate stored credits hstored =>
    exact (Relation.ReflTransGen.single (hdrop f hrest)).trans
      (queue_r rfl (.duplicate frame.1.datagramId stored credits hstored))
  | noSlot credits hnew hfull =>
    rw [afterR_eq (acksOf_enqueueEvents ..) (fates_enqueueEvents ..)]
    exact (Relation.ReflTransGen.single
      (.queue f _ (.refused frame hframe credits hnew hfull))).tail
      (hdrop { f with receiver := f.receiver.queue _ } hrest)
  | mismatch j q credits hnew hq hid hlength =>
    rw [afterR_eq (acksOf_enqueueEvents ..) (fates_enqueueEvents ..)]
    exact (Relation.ReflTransGen.single
      (.queue f _ (.mismatch frame hframe j q credits hq hid hlength))).tail
      (hdrop { f with receiver := f.receiver.queue _ } hrest)
  | taken j q hnew htakes hsettle =>
    have htake : Step rules f { f with receiver := f.receiver.setSlot j (some q) } :=
      .take f frame hframe j q hnew htakes
    have hsettled := settle_r (f := { f with
      receiver := f.receiver.setSlot j (some q), data := rest }) rfl (Function.update_self ..)
      hsettle hrules
    exact ((Relation.ReflTransGen.single htake).tail
      (hdrop { f with receiver := f.receiver.setSlot j (some q) } hrest)).trans hsettled

theorem receive_r {f : Flow} {packet : Packet} {rest : List DataFrame}
    (hf : f.receiver = p.receiver)
    (hpacket : ∀ frame, dataFrame packet = some frame → frame ∈ f.data)
    (hrest : rest.Sublist f.data) (hreceive : Party.Receive packet p evs q)
    (hrules : ∀ ev ∈ evs, rules.AtR { f with data := rest } ev) :
    Run rules f ({ f with data := rest }.afterR q.receiver evs) := by
  have hdrop : Run rules f { f with data := rest } :=
    .single (.drop f rest f.acks hrest (List.Sublist.refl _))
  cases hreceive with
  | ignore =>
    have hquiet : { f with data := rest }.afterR f.receiver [] = { f with data := rest } :=
      afterR_quiet rfl rfl
    rw [← hf, hquiet]
    exact hdrop
  | data s hdata hreceive =>
    exact receiveData_r hf (hpacket _ (dataFrame_eq.mpr hdata)) hrest hreceive hrules
  | ack r hack hreceive =>
    have hacks : acksOf evs = [] := by
      rw [acksOf, sentPacket_receiveAck hreceive]
      rfl
    have hquiet : { f with data := rest }.afterR f.receiver evs = { f with data := rest } :=
      afterR_quiet hacks (fates_of_sender hreceive.ofSender)
    rw [← (show f.receiver = r from hf), hquiet]
    exact hdrop

theorem receiveAck_s {f : Flow} {ack : AckFrame} {s' : Sender} {rest : List AckFrame} {s : Sender}
    (hs : f.sender = s) (hack : ack ∈ f.acks) (hrest : rest.Sublist f.acks)
    (hreceive : s.Receive ack evs s') :
    Run rules f ({ f with acks := rest }.afterS s' evs) := by
  subst hs
  have hdrop (f : Flow) (h : rest.Sublist f.acks) : Step rules f { f with acks := rest } :=
    .drop f f.data rest (List.Sublist.refl _) h
  cases hreceive with
  | ignore =>
    have hquiet : { f with acks := rest }.afterS f.sender [] = { f with acks := rest } :=
      afterS_quiet rfl rfl
    rw [hquiet]
    exact .single (hdrop f hrest)
  | withdraw i t ht hid hfailure =>
    rw [afterS_eq rfl rfl]
    exact (Relation.ReflTransGen.single (.withdraw f i t ht ack hack hid hfailure)).tail
      (hdrop { f with sender := f.sender.setSlot i _ } hrest)
  | add i t ht hid hfailure hmissing =>
    rw [afterS_eq rfl rfl]
    exact (Relation.ReflTransGen.single (.add f i t ht ack hack hid hfailure)).tail
      (hdrop { f with sender := f.sender.setSlot i _ } hrest)
  | complete i t ht hid hfailure hall =>
    have heq : { f with acks := rest }.afterS (f.sender.setSlot i none) [.completed i] = { f with
        sender := f.sender.setSlot i none
        acks := rest
        log := f.log ++ [.completed i] } := by
      simp [afterS, framesOf, sentPacket, Fate.ofS]
    rw [heq]
    exact (Relation.ReflTransGen.single (.complete f i t ht ack hack hid hfailure hall)).tail
      (hdrop { f with sender := f.sender.setSlot i none, log := f.log ++ [.completed i] } hrest)

theorem receive_s {f : Flow} {packet : Packet} {rest : List AckFrame}
    (hf : f.sender = p.sender) (hpacket : ∀ ack, ackFrame packet = some ack → ack ∈ f.acks)
    (hrest : rest.Sublist f.acks) (hreceive : Party.Receive packet p evs q) :
    Run rules f ({ f with acks := rest }.afterS q.sender evs) := by
  have hdrop : Run rules f { f with acks := rest } :=
    .single (.drop f f.data rest (List.Sublist.refl _) hrest)
  cases hreceive with
  | ignore =>
    have hquiet : { f with acks := rest }.afterS f.sender [] = { f with acks := rest } :=
      afterS_quiet rfl rfl
    rw [← hf, hquiet]
    exact hdrop
  | data s hdata hreceive =>
    have hframes : framesOf evs = [] := by
      rw [framesOf, sentPacket_receive hreceive]
      rfl
    have hquiet : { f with acks := rest }.afterS f.sender evs = { f with acks := rest } :=
      afterS_quiet hframes (fates_of_receiver hreceive.ofReceiver)
    rw [← (show f.sender = s from hf), hquiet]
    exact hdrop
  | ack r hack hreceive =>
    exact receiveAck_s hf (hpacket _ (ackFrame_eq.mpr hack)) hrest hreceive

theorem submit_s {f : Flow} (hf : f.sender = p.sender) (hsubmit : Party.Submit p evs q)
    (hrules : ∀ ev ∈ evs, rules.AtS f ev) : Run rules f (f.afterS q.sender evs) := by
  cases hsubmit with
  | reject => rw [← hf, afterS_quiet rfl rfl]
  | accept hact => exact act_s hf hact hrules

theorem submit_r {f : Flow} (hf : f.receiver = p.receiver) (hsubmit : Party.Submit p evs q)
    (hrules : ∀ ev ∈ evs, rules.AtR f ev) : Run rules f (f.afterR q.receiver evs) := by
  cases hsubmit with
  | reject => rw [← hf, afterR_quiet rfl rfl]
  | accept hact => exact act_r hf hact hrules

end Flow

namespace Link

variable {rules : Flow.Rules} {channel : Channel}

/-- Both engines are in order. -/
def Valid (l : Link) : Prop := l.s.Valid ∧ l.r.Valid

theorem start_valid (s r : ArqConfig) : (start s r).Valid :=
  ⟨ArqEngine.reset_valid s, ArqEngine.reset_valid r⟩

theorem step_valid {l : Link} (h : l.Valid) (move : Move) : (l.step channel move).Valid := by
  obtain ⟨hs, hr⟩ := h
  cases move with
  | submit side | tick side | flush side =>
    cases side with
    | s => exact ⟨(ArqEngine.run_spec hs _ _).1, hr⟩
    | r => exact ⟨hs, (ArqEngine.run_spec hr _ _).1⟩
  | receive side =>
    cases side with
    | s =>
      rw [step]
      split
      · exact ⟨(ArqEngine.run_spec hs _ _).1, hr⟩
      · exact ⟨hs, hr⟩
    | r =>
      rw [step]
      split
      · exact ⟨hs, (ArqEngine.run_spec hr _ _).1⟩
      · exact ⟨hs, hr⟩
  | lose side => cases side <;> exact ⟨hs, hr⟩
  | reset side =>
    cases side with
    | s => exact ⟨ArqEngine.reset_valid _, hr⟩
    | r => exact ⟨hs, ArqEngine.reset_valid _⟩

theorem flow_afterS (l : Link) (e : Exec) :
    (l.afterS e).flow = l.flow.afterS e.sender e.events := by
  simp only [flow, afterS, Flow.afterS, framesOf, List.filterMap_append]

theorem flow_afterR (l : Link) (e : Exec) :
    (l.afterR e).flow = l.flow.afterR e.receiver e.events := by
  simp only [flow, afterR, Flow.afterR, acksOf, List.filterMap_append]

/-- One move, as a run of the flow. -/
theorem step_flow {l : Link} (h : l.Valid) (move : Move) (hobeys : l.Obeys rules channel move) :
    Flow.Run rules l.flow (l.step channel move).flow := by
  obtain ⟨hs, hr⟩ := h
  cases move with
  | submit side data =>
    cases side with
    | s =>
      have hdoes := (ArqEngine.run_spec hs {} (.onTxDatagram data)).2
      rw [step, callS, flow_afterS]
      exact Flow.submit_s (p := l.s.party) (f := l.flow) rfl hdoes hobeys
    | r =>
      have hdoes := (ArqEngine.run_spec hr {} (.onTxDatagram data)).2
      rw [step, callR, flow_afterR]
      exact Flow.submit_r (p := l.r.party) (f := l.flow) rfl hdoes hobeys
  | tick side cb now =>
    cases side with
    | s =>
      have hdoes := (ArqEngine.run_spec hs cb (.onTick now)).2
      rw [step, callS, flow_afterS]
      exact Flow.tick_s (p := l.s.party) (f := l.flow) rfl hdoes hobeys
    | r =>
      have hdoes := (ArqEngine.run_spec hr cb (.onTick now)).2
      rw [step, callR, flow_afterR]
      exact Flow.tick_r (p := l.r.party) (f := l.flow) rfl hdoes hobeys
  | flush side cb now =>
    cases side with
    | s =>
      have hdoes := (ArqEngine.run_spec hs cb (.flushPendingAck now)).2
      rw [step, callS, flow_afterS]
      exact Flow.tick_s (p := l.s.party) (f := l.flow) rfl hdoes hobeys
    | r =>
      have hdoes := (ArqEngine.run_spec hr cb (.flushPendingAck now)).2
      rw [step, callR, flow_afterR]
      exact Flow.tick_r (p := l.r.party) (f := l.flow) rfl hdoes hobeys
  | receive side k cb now =>
    cases side with
    | s =>
      rw [step]
      split
      · next packet toS htake =>
        obtain ⟨hmem, hsub⟩ := Channel.take_sound htake
        rw [callS, flow_afterS]
        refine Flow.receive_s (p := l.s.party) (f := l.flow) rfl (fun ack hack => ?_)
          (hsub.filterMap ackFrame) (ArqEngine.run_spec hs cb (.onRxPacket packet now)).2
        exact List.mem_filterMap.mpr ⟨packet, hmem, hack⟩
      · exact .refl
    | r =>
      change l.ObeysArrival rules cb now _ at hobeys
      rw [step]
      split
      · next packet toR htake =>
        rw [htake] at hobeys
        obtain ⟨hmem, hsub⟩ := Channel.take_sound htake
        rw [callR, flow_afterR]
        refine Flow.receive_r (p := l.r.party) (f := l.flow) rfl (fun frame hframe => ?_)
          (hsub.filterMap dataFrame) (ArqEngine.run_spec hr cb (.onRxPacket packet now)).2 hobeys
        exact List.mem_filterMap.mpr ⟨packet, hmem, hframe⟩
      · exact .refl
  | lose side k =>
    cases side with
    | s =>
      exact .single (.drop l.flow _ _ (List.Sublist.refl _)
        ((Channel.lose_sublist l.toS k).filterMap ackFrame))
    | r =>
      exact .single (.drop l.flow _ _ ((Channel.lose_sublist l.toR k).filterMap dataFrame)
        (List.Sublist.refl _))
  | reset side =>
    cases side with
    | s => exact .single (.resetS l.flow l.s.config.initialDatagramId hobeys)
    | r => exact .single (.resetR l.flow hobeys)

/-- What every small step keeps, a run of the flow keeps. -/
theorem flow_invariant {P : Flow → Prop} (hstep : ∀ {f f'}, P f → Flow.Step rules f f' → P f')
    {f f' : Flow} (h : Flow.Run rules f f') (hP : P f) : P f' := by
  induction h with
  | refl => exact hP
  | tail _ hlast ih => exact hstep ih hlast

/-- What every small step keeps, a run of the link keeps. -/
theorem run_invariant {P : Flow → Prop} (hstep : ∀ {f f'}, P f → Flow.Step rules f f' → P f')
    {l : Link} (h : l.Valid) (moves : List Move) (hkeeps : l.Keeps rules channel moves)
    (hP : P l.flow) : P (l.after channel moves).flow := by
  induction moves generalizing l with
  | nil => exact hP
  | cons move moves ih =>
    obtain ⟨hobeys, hrest⟩ := hkeeps
    exact ih (step_valid h move) hrest (flow_invariant hstep (step_flow h move hobeys) hP)

end Link

end FlrcTnc

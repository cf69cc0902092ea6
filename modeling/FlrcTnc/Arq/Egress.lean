import FlrcTnc.Arq.Run

/-! Egress reservation: a datagram is acknowledged as a whole only after it was delivered, and while
it waits for egress its ACK asks for a fragment again. -/

namespace FlrcTnc.Arq

open Framing Mask

/-- `deliver_datagram` has returned true for a datagram with the id. -/
def Delivered (past : List Event) (id : UInt16) : Prop := ∃ data, .delivered id data true ∈ past

theorem Delivered.append {past : List Event} {id : UInt16} (h : Delivered past id)
    (evs : List Event) : Delivered (past ++ evs) id := by
  obtain ⟨data, hmem⟩ := h
  exact ⟨data, List.mem_append_left _ hmem⟩

/-- With failure `NONE` the ACK has every expected bit for the fragment count of the reassembly that
it was built from; an entry of the duplicate window has them all. -/
def AckSource.Final (source : AckSource) (ack : AckFrame) : Prop :=
  ack.failure = .none ∧
    match source with
    | .reassembly fragmentCount => Covers ack.fragmentBitmap (expectedBitmap fragmentCount)
    | .duplicate => True
    | .refused => False

/-- The ACK advertises no credits and asks for fragment 0 again. -/
structure Withholds (ack : AckFrame) (fragmentCount : UInt8) : Prop where
  credits : ack.receiverCredits = 0
  expected : hasBit (expectedBitmap fragmentCount) 0
  missing : ¬ hasBit ack.fragmentBitmap 0

/-- What egress reservation says about one event. -/
def Event.Reserved (past : List Event) : Event → Prop
  | .sent packet _ =>
    ∀ ack, parseAckPacket packet = .ok ack → ∃ source, .ackQueued ack source ∈ past
  | .ackQueued ack source =>
    (source.Final ack → Delivered past ack.datagramId) ∧
      ∀ fragmentCount, source = .reassembly fragmentCount → ack.failure = .creditWithdrawal →
        Withholds ack fragmentCount
  | _ => True

theorem Event.Reserved.append {past : List Event} {ev : Event} (h : ev.Reserved past)
    (evs : List Event) : ev.Reserved (past ++ evs) := by
  cases ev with
  | sent packet ok =>
    intro ack hack
    obtain ⟨source, hmem⟩ := h ack hack
    exact ⟨source, List.mem_append_left _ hmem⟩
  | ackQueued ack source => exact ⟨fun hfinal => (h.1 hfinal).append evs, h.2⟩
  | delivered | accepted | opened | failed | completed => trivial

/-- The receiver is in order, it remembers only what was delivered, and what it is about to send was
queued. -/
structure Reserving (past : List Event) (p : Party) : Prop where
  inv : p.receiver.Inv
  window : ∀ id, p.receiver.window.Has id → Delivered past id
  pending : ∀ ack ∈ p.receiver.pending, ∃ source, .ackQueued ack source ∈ past
  events : Trace.Always (fun past ev => ev.Reserved past) past

/-- An ACK that is queued as reservation asks. -/
theorem always_reserved_enqueue {past evs : List Event} {pending : List AckFrame} {ack : AckFrame}
    {source : AckSource} (h : Trace.Always (fun past ev => ev.Reserved past) past)
    (hreserved : Event.Reserved past (.ackQueued ack source))
    (hevs : evs = enqueueEvents pending ack source) :
    Trace.Always (fun past ev => ev.Reserved past) (past ++ evs) := by
  subst hevs
  refine Trace.always_append h (Trace.always_of_forall fun ev hev more => ?_)
  rw [eq_of_mem_enqueueEvents hev]
  exact hreserved.append more

/-- The queue after `enqueue`. -/
theorem pending_queued_enqueue {past : List Event} {pending : List AckFrame} {ack : AckFrame}
    {source : AckSource} (h : ∀ a ∈ pending, ∃ source, .ackQueued a source ∈ past) :
    ∀ a ∈ enqueue pending ack,
      ∃ source', .ackQueued a source' ∈ past ++ enqueueEvents pending ack source := by
  intro a ha
  rcases mem_enqueue_traced source ha with hold | ⟨rfl, hnew⟩
  · obtain ⟨source', hmem⟩ := h a hold
    exact ⟨source', List.mem_append_left _ hmem⟩
  · exact ⟨source, List.mem_append_right _ hnew⟩

/-- Events that reservation says nothing about. -/
theorem always_reserved_quiet {past evs : List Event}
    (h : Trace.Always (fun past ev => ev.Reserved past) past)
    (hevs : ∀ ev ∈ evs, ∀ past, ev.Reserved past) :
    Trace.Always (fun past ev => ev.Reserved past) (past ++ evs) :=
  Trace.always_append h (Trace.always_of_forall fun ev hev _ => hevs ev hev _)

namespace Reserving

variable {past evs : List Event} {p : Party} {s s' : Sender} {r r' : Receiver}

/-- The sender changes and leaves events that reservation says nothing about. -/
theorem of_sender (h : Reserving past ⟨s, r⟩) (hevs : ∀ ev ∈ evs, ∀ past, ev.Reserved past) :
    Reserving (past ++ evs) ⟨s', r⟩ where
  inv := h.inv
  window id hid := (h.window id hid).append evs
  pending ack hack := by
    obtain ⟨source, hmem⟩ := h.pending ack hack
    exact ⟨source, List.mem_append_left _ hmem⟩
  events := always_reserved_quiet h.events hevs

theorem senderAct (h : Reserving past ⟨s, r⟩) (hact : s.Act evs s') :
    Reserving (past ++ evs) ⟨s', r⟩ := by
  refine h.of_sender fun ev hev more => ?_
  cases hact with
  | send i t ht packet header payload hcarries hpacket ok =>
    rw [List.mem_singleton.mp hev]
    exact fun ack hack => absurd hack (not_ack_of_data hpacket ack)
  | accept | openSlot | fail =>
    rw [List.mem_singleton.mp hev]
    trivial

theorem senderReceive {ack : AckFrame} (h : Reserving past ⟨s, r⟩)
    (hreceive : s.Receive ack evs s') :
    Reserving (past ++ evs) ⟨s', r⟩ := by
  refine h.of_sender fun ev hev more => ?_
  cases hreceive with
  | ignore | withdraw | add => cases hev
  | complete =>
    rw [List.mem_singleton.mp hev]
    trivial

/-- The receiver queues an ACK as reservation asks. -/
theorem queue (h : Reserving past ⟨s, r⟩) (ack : AckFrame) (source : AckSource)
    (hreserved : Event.Reserved past (.ackQueued ack source)) :
    Reserving (past ++ enqueueEvents r.pending ack source) ⟨s, r.queue ack⟩ where
  inv := ⟨h.inv.fits, h.inv.distinct⟩
  window id hid := (h.window id hid).append _
  pending := pending_queued_enqueue h.pending
  events := always_reserved_enqueue h.events hreserved rfl

/-- A datagram is delivered, remembered and acknowledged. -/
theorem deliver (h : Reserving past ⟨s, r⟩) (j : Fin 4) (q : Incoming) (stored credits : UInt8) :
    Reserving (past ++ r.finishEvents q credits) ⟨s, r.finish j q stored credits⟩ := by
  have hdelivered : Delivered (past ++ [.delivered q.id q.content true]) q.id :=
    ⟨q.content, List.mem_append_right _ (List.mem_singleton_self _)⟩
  have hsplit : past ++ r.finishEvents q credits = past ++ [.delivered q.id q.content true] ++
      enqueueEvents r.pending (Receiver.finalAck q credits) (.reassembly q.fragmentCount) := by
    rw [Receiver.finishEvents, List.append_assoc]
    rfl
  have hbefore : Reserving (past ++ [.delivered q.id q.content true]) ⟨s, r⟩ :=
    h.of_sender fun ev hev more => by
      rw [List.mem_singleton.mp hev]
      trivial
  have hqueued := hbefore.queue (Receiver.finalAck q credits)
    (.reassembly q.fragmentCount) ⟨fun _ => hdelivered, fun _ _ hfailure => by cases hfailure⟩
  rw [hsplit]
  refine ⟨h.inv.clear j _ _, fun id hid => ?_, hqueued.pending, hqueued.events⟩
  rcases DuplicateWindow.has_of_store hid with rfl | hold
  · exact hdelivered.append _
  · exact hqueued.window id hold

theorem receiverAct (h : Reserving past ⟨s, r⟩) (hact : r.Act evs r') :
    Reserving (past ++ evs) ⟨s, r'⟩ := by
  cases hact with
  | refuse j q hq hcomplete =>
    exact h.of_sender fun ev hev more => by
      rw [List.mem_singleton.mp hev]
      trivial
  | deliver j q hq hcomplete stored credits => exact h.deliver j q stored credits
  | sendAck ack rest hpending packet hpacket ok =>
    have hfirst := h.pending ack (by rw [hpending]; exact List.mem_cons_self ..)
    refine ⟨⟨h.inv.fits, h.inv.distinct⟩, fun id hid => (h.window id hid).append _,
      fun a ha => ?_, ?_⟩
    · have hold : a ∈ r.pending := by
        cases ok with
        | false => exact ha
        | true => rw [hpending]; exact List.mem_cons_of_mem _ ha
      obtain ⟨source, hmem⟩ := h.pending a hold
      exact ⟨source, List.mem_append_left _ hmem⟩
    · refine Trace.always_append h.events (Trace.always_of_forall fun ev hev more => ?_)
      rw [List.mem_singleton.mp hev]
      intro a ha
      cases hpacket.symm.trans ha
      obtain ⟨source, hmem⟩ := hfirst
      exact ⟨source, List.mem_append_left _ hmem⟩

/-- The receiver settles the fragment in slot `j`; the datagram there is in range. -/
theorem settle {j : Fin 4} {q : Incoming} (h : Reserving past ⟨s, r⟩) (hq : q.Fits)
    (hsettle : r.Settle j q evs r') : Reserving (past ++ evs) ⟨s, r'⟩ := by
  cases hsettle with
  | partly => rwa [List.append_nil]
  | roundEnd hpart credits =>
    refine h.queue _ _ ⟨fun hfinal => ?_, fun _ _ hfailure => by cases hfailure⟩
    have hcovers : Covers q.bits (expectedBitmap q.fragmentCount) := hfinal.2
    rw [hq.expectedBitmap] at hcovers
    exact absurd hcovers hpart
  | deliver hcomplete stored credits => exact h.deliver j q stored credits
  | block hcomplete refused hrefused =>
    rw [← List.append_assoc]
    have hbefore : Reserving (past ++ refused) ⟨s, r⟩ := by
      refine h.of_sender fun ev hev more => ?_
      rcases hrefused with rfl | rfl
      · cases hev
      · rw [List.mem_singleton.mp hev]
        trivial
    refine hbefore.queue _ _ ⟨fun hfinal => ?_, fun count hcount _ => ?_⟩
    · cases hfinal.1
    · cases hcount
      refine ⟨rfl, ?_, ?_⟩
      · rw [hq.expectedBitmap, fullMask, hasBit_below (by have := fragments_le hq.length_le; omega)]
        exact decide_eq_true (fragments_pos hq.length_pos)
      · rw [Receiver.withdrawalAck, hasBit_and, hasBit_not (by decide), hasBit_bit (by decide)]
        simp

theorem receiverReceive {header : DataHeader} {payload : List UInt8} (h : Reserving past ⟨s, r⟩)
    (hvalid : validateDataHeader header) (hreceive : r.Receive header payload evs r') :
    Reserving (past ++ evs) ⟨s, r'⟩ := by
  cases hreceive with
  | duplicate stored credits hstored =>
    exact h.queue _ _ ⟨fun _ => h.window _ (DuplicateWindow.has_of_find hstored),
      fun _ hsource => by
      cases hsource⟩
  | noSlot credits hnew hfull =>
    exact h.queue _ _ ⟨fun hfinal => hfinal.2.elim, fun _ hsource => by cases hsource⟩
  | mismatch j q credits hnew hq hid hlength =>
    refine h.queue _ _ ⟨fun hfinal => ?_, fun _ _ hfailure => by cases hfailure⟩
    cases hfinal.1
  | taken j q hnew htakes hsettle =>
    have hslot : Reserving past ⟨s, r.setSlot j (some q)⟩ :=
      ⟨h.inv.takes htakes hvalid, h.window, h.pending, h.events⟩
    exact hslot.settle (htakes.fits h.inv hvalid) hsettle

theorem act {q : Party} (h : Reserving past p) (hact : Party.Act p evs q) :
    Reserving (past ++ evs) q := by
  cases hact with
  | sender r hact => exact h.senderAct hact
  | receiver s hact => exact h.receiverAct hact

theorem receive {q : Party} {packet : Packet} (h : Reserving past p)
    (hreceive : Party.Receive packet p evs q) : Reserving (past ++ evs) q := by
  cases hreceive with
  | ignore => rwa [List.append_nil]
  | data s hpacket hreceive => exact h.receiverReceive (parseDataPacket_sound hpacket).1 hreceive
  | ack r hpacket hreceive => exact h.senderReceive hreceive

theorem reset (config : ArqConfig) : Reserving [] (ArqEngine.reset config).party where
  inv := .empty
  window id hid := absurd hid (DuplicateWindow.not_has_empty id)
  pending ack hack := by cases hack
  events := Trace.always_nil

end Reserving

theorem run_reserving (config : ArqConfig) (calls : List (ArqCallbacks × Call)) :
    Reserving ((ArqEngine.reset config).trace calls) ((ArqEngine.reset config).after calls).party :=
  ArqEngine.run_invariant (P := Reserving) .act .receive (ArqEngine.reset_valid config)
    (.reset config) calls

/-! ### The sender that is asked again -/

/-- A withdrawal ACK without fragment 0 leaves the open datagram open, with fragment 0 to send. -/
theorem handleAck_withheld {e : Exec} (h : e.Valid) (hinv : e.sender.Inv) {ack : AckFrame}
    (hfailure : ack.failure = .creditWithdrawal) (hmissing : ¬ hasBit ack.fragmentBitmap 0)
    (now : UInt32) {i : Fin 4} (hopen : (e.txSlots i).state = .open)
    (hid : (e.txSlots i).datagramId = ack.datagramId) :
    ((e.handleAck ack now).txSlots i).state = .open ∧ (e.handleAck ack now).events = e.events ∧
      hasBit (expectedBitmap ((e.handleAck ack now).txSlots i).fragmentCount) 0 ∧
      ¬ hasBit ((e.handleAck ack now).txSlots i).ackedBitmap 0 := by
  obtain ⟨ref, hslot⟩ := h.1.slot i (by rw [hopen]; decide)
  obtain ⟨hpos, hmax⟩ := hslot.len_toNat
  rw [Exec.handleAck]
  dsimp only
  split
  · next hnone =>
    have hmiss := List.find?_eq_none.mp hnone i (List.mem_finRange i)
    exact absurd (by simp only [decide_eq_true_eq]; exact ⟨hopen, hid⟩) hmiss
  · next k hfind =>
    obtain ⟨hhit, _⟩ := Exec.find_finRange_eq_some hfind
    simp only [decide_eq_true_eq] at hhit
    obtain rfl : k = i := hinv.one_open (Exec.sender_open hhit.1) (Exec.sender_open hopen)
    rw [if_pos hfailure]
    have hcleared (slot : TxSlot) : (Exec.setTx { e with
        remoteCredits := clampCredits ack.receiverCredits } k slot).txSlots k = slot :=
      Function.update_self ..
    rw [hcleared]
    refine ⟨hopen, rfl, ?_, ?_⟩
    · rw [hslot.expectedBitmap_eq, fullMask, hasBit_below (by have := fragments_le hmax; omega)]
      exact decide_eq_true (fragments_pos hpos)
    · rw [hasBit_and, Bool.and_eq_true]
      exact fun hboth => hmissing hboth.2

/-! ### Egress reservation -/

/-- Egress reservation for the events of a run. -/
structure EgressReserved (trace : List Event) : Prop where
  /-- An ACK that `send_packet` gets was queued before, and if it says that the whole datagram has
  arrived then the datagram was delivered before. -/
  final : ∀ past packet ok rest ack, trace = past ++ .sent packet ok :: rest →
    parseAckPacket packet = .ok ack →
      (∃ source, .ackQueued ack source ∈ past) ∧
      ∀ source, .ackQueued ack source ∈ past → source.Final ack → Delivered past ack.datagramId
  /-- The withdrawal ACK of a reassembly advertises no credits and asks for a fragment again. -/
  withdrawal : ∀ ack fragmentCount, .ackQueued ack (.reassembly fragmentCount) ∈ trace →
    ack.failure = .creditWithdrawal →
      ack.receiverCredits = 0 ∧
      ∃ k, hasBit (expectedBitmap fragmentCount) k ∧ ¬ hasBit ack.fragmentBitmap k
  /-- No sender completes the datagram by it, and each has a fragment of it to send. -/
  asks : ∀ ack fragmentCount, .ackQueued ack (.reassembly fragmentCount) ∈ trace →
    ack.failure = .creditWithdrawal → ∀ (config : ArqConfig) (calls : List (ArqCallbacks × Call))
      (now : UInt32) (i : Fin 4), (((ArqEngine.reset config).after calls).txSlots i).state = .open →
      (((ArqEngine.reset config).after calls).txSlots i).datagramId = ack.datagramId →
      let sender := Exec.handleAck { (ArqEngine.reset config).after calls with } ack now
      (sender.txSlots i).state = .open ∧ sender.events = [] ∧
        ∃ k, hasBit (expectedBitmap (sender.txSlots i).fragmentCount) k ∧
          ¬ hasBit (sender.txSlots i).ackedBitmap k

/-- In every run of an engine a datagram is acknowledged as a whole only after it was delivered, and
a datagram that cannot be delivered is asked for again. -/
theorem egress_reservation (config : ArqConfig) (calls : List (ArqCallbacks × Call)) :
    EgressReserved ((ArqEngine.reset config).trace calls) := by
  have hrun := (run_reserving config calls).events
  refine ⟨?_, ?_, ?_⟩
  · intro past packet ok rest ack hsplit hack
    refine ⟨hrun past _ rest hsplit ack hack, fun source hmem hfinal => ?_⟩
    obtain ⟨before, after, rfl⟩ := List.append_of_mem hmem
    have hqueued := hrun before (.ackQueued ack source) (after ++ .sent packet ok :: rest)
      (by rw [hsplit]; simp)
    exact (hqueued.1 hfinal).append _
  · intro ack fragmentCount hmem hfailure
    obtain ⟨before, after, hsplit⟩ := List.append_of_mem hmem
    have hwithholds := (hrun before _ after hsplit).2 fragmentCount rfl hfailure
    exact ⟨hwithholds.credits, 0, hwithholds.expected, hwithholds.missing⟩
  · intro ack fragmentCount hmem hfailure config calls now i hopen hid
    obtain ⟨before, after, hsplit⟩ := List.append_of_mem hmem
    have hwithholds := (hrun before _ after hsplit).2 fragmentCount rfl hfailure
    obtain ⟨hopen', hevents, hexpected, hmissing⟩ := handleAck_withheld
      (e := { (ArqEngine.reset config).after calls with })
      (ArqEngine.after_valid (ArqEngine.reset_valid config) calls)
      (ArqEngine.run_inv config calls).1 hfailure hwithholds.missing now hopen hid
    exact ⟨hopen', hevents, 0, hexpected, hmissing⟩

end FlrcTnc.Arq

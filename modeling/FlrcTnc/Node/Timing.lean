import FlrcTnc.Arq.Timing
import FlrcTnc.Node.NativeLink

/-! Time in native mode: a frame that finds the channel busy waits for a bounded number of tries,
and the loop sleeps no longer than until something is to be done. -/

namespace FlrcTnc.Node

open Arq Framing Kiss Serial
open Mac (TxPhase deadlinePassed)

namespace Statics

variable {mac mac' : Statics}

/-! ### Listen before talk -/

/-- A frame that waits for a free channel has tries left. -/
def Patient (mac : Statics) : Prop :=
  mac.tx.phase = .lbtBackoff → mac.tx.lbtTries < radioLbtMaxRetries

theorem patient_move (h : mac.Patient) (hmove : Move mac mac') : mac'.Patient := by
  have hidle {m : Statics} (hphase : m.tx.phase = .idle ∨ m.tx.phase = .hbWait) : m.Patient := by
    intro hwait
    rw [hwait] at hphase
    exact absurd hphase (by decide)
  cases hmove with
  | clocks | payloadActivity | startReceive | staged | finished | received | delivered | replied
  | repliedV3 | linkStateV3 | acked | took | flushed | ticked | heartbeatLost | invalid | passed =>
    exact h
  | tries lbtTries hmax => exact hmax
  | configured | answered | answeredV3 | unanswered => exact hidle (.inl rfl)
  | heartbeat | heartbeatV3 => exact hidle (.inr rfl)
  | backedOff => exact fun _ => (by decide : (0 : UInt8) < radioLbtMaxRetries)
  | sent ans now frame txQueue => exact hidle (.inl (sendNative_phase ..))
  | dispatched ans now => exact hidle (.inl (sendNative_phase ..))

theorem patient_kept : Kept Patient where
  move _ h hmove := patient_move h hmove
  host _ _ h := h
  request _ h := h

/-- Nothing has happened to the frames and to the sending half. -/
structure Still (mac mac' : Statics) : Prop where
  tx : mac'.tx = mac.tx
  config : mac'.config = mac.config
  settled : settledFrames mac'.trace = settledFrames mac.trace

theorem Still.refl (mac : Statics) : Still mac mac := ⟨rfl, rfl, rfl⟩

theorem Still.trans {mac'' : Statics} (h : Still mac mac') (h' : Still mac' mac'') :
    Still mac mac'' :=
  ⟨h'.tx.trans h.tx, h'.config.trans h.config, h'.settled.trans h.settled⟩

theorem Still.emit (mac : Statics) {event : Event} (h : event.settled? = none) :
    Still mac (mac.emit event) := by
  refine ⟨rfl, rfl, ?_⟩
  rw [Statics.emit, settledFrames_append, settledFrames, settledFrames,
    List.filterMap_cons_none h, List.filterMap_nil, List.append_nil]

theorem handleV2RadioPacket_still (hmode : mac.config.transportMode = .nativePacket)
    (hphase : mac.tx.phase = .lbtBackoff) (ans : Answers) (packet : Packet) :
    Still mac (mac.handleV2RadioPacket ans packet) := by
  unfold handleV2RadioPacket
  split
  · split
    · exact .refl mac
    · next ctrl _ =>
      unfold handleControl
      split
      · exact .emit mac rfl
      · split
        · exact .emit mac rfl
        · split
          · have hnot (hwait : mac.tx.phase = .hbWait ∧ ctrl.seq = mac.tx.hbSeq) : False := by
              rw [hphase] at hwait
              exact absurd hwait.1 (by decide)
            rw [if_neg hnot]
            exact .refl mac
          · exact .refl mac
  · split
    · split
      · exact .refl mac
      · next ack _ =>
        rw [handleAckForTx_eq (.inr (.inr (by exact hphase)))]
        exact ⟨rfl, rfl, rfl⟩
    · split
      · have hnote : Still mac (mac.notePayloadActivity (ans.millis 1)) := ⟨rfl, rfl, rfl⟩
        unfold handleNative
        dsimp only
        split
        · exact hnote
        · exact hnote.trans (.emit _ rfl)
      · exact .refl mac

theorem handleRadioEvent_still (hmode : mac.config.transportMode = .nativePacket)
    (hphase : mac.tx.phase = .lbtBackoff) (turn : Turn) (packet : Option Packet) :
    Still mac (mac.handleRadioEvent turn packet) := by
  unfold handleRadioEvent
  dsimp only
  have hclock : Still mac { mac with lastRadioEventMs := turn.radio.millis 0 } := ⟨rfl, rfl, rfl⟩
  refine hclock.trans ?_
  generalize { mac with lastRadioEventMs := turn.radio.millis 0 } = m at hclock ⊢
  have hnative : m.config.transportMode = .nativePacket := hclock.config ▸ hmode
  have hwaits : m.tx.phase = .lbtBackoff := hclock.tx ▸ hphase
  split
  · exact .refl m
  · next packet =>
    split
    · exact .refl m
    · rw [if_neg (by exact not_isGenericTransport_iff.mpr hnative)]
      have hreceived : Still m (m.emit (.received packet)) := .emit m rfl
      have hhandled : Still (m.emit (.received packet)) _ :=
        handleV2RadioPacket_still (by exact hnative) (by exact hwaits) turn.radio packet
      exact hreceived.trans hhandled

/-- Whatever wakes the loop, the frame waits on. -/
theorem wakeUp_still (hmode : mac.config.transportMode = .nativePacket)
    (hphase : mac.tx.phase = .lbtBackoff) (turn : Turn) : Still mac (mac.wakeUp turn) := by
  unfold wakeUp
  split
  · exact handleRadioEvent_still hmode hphase turn _
  · split <;> exact ⟨rfl, rfl, rfl⟩
  · exact .refl mac
  · exact .refl mac

/-- The frame that waits is settled, or the turn found the channel busy, or its deadline to come. -/
theorem loop_backoff (h : mac.Current) (hpatient : mac.Patient)
    (hphase : mac.tx.phase = .lbtBackoff) (turn : Turn) :
    (∃ frames, settledFrames (mac.loop turn).trace =
        settledFrames mac.trace ++ mac.tx.frame :: frames) ∨
      settledFrames (mac.loop turn).trace = settledFrames mac.trace ∧
        (mac.loop turn).tx.phase = .lbtBackoff ∧ (mac.loop turn).tx.frame = mac.tx.frame ∧
        (mac.loop turn).tx.lbtTries.toNat = mac.tx.lbtTries.toNat +
          if deadlinePassed turn.now mac.tx.deadlineMs then 1 else 0 := by
  have hmode : mac.config.transportMode = .nativePacket := by
    rcases h.phase with heq | heq | ⟨_, hmode⟩
    · rw [hphase] at heq
      cases heq
    · rw [hphase] at heq
      cases heq
    · exact hmode
  have hcurrent := (wakeUp_moves h turn).current h
  obtain ⟨htx, hconfig, hsettled⟩ := wakeUp_still hmode hphase turn
  rw [loop, serviceRx_eq hcurrent]
  generalize mac.wakeUp turn = m at hcurrent htx hconfig hsettled ⊢
  have hnative : m.config.transportMode = .nativePacket := hconfig ▸ hmode
  have hwaits : m.tx.phase = .lbtBackoff := htx ▸ hphase
  have hidle {m' : Statics} (hphase' : m'.tx.phase = .lbtBackoff) : m'.serviceIdle turn = m' := by
    rw [serviceIdle, if_pos]
    rw [hphase']
    decide
  have hservice : m.serviceTx turn =
      if deadlinePassed turn.now mac.tx.deadlineMs then m.retryLbt turn.tx turn.now else m := by
    rw [serviceTx]
    dsimp only
    rw [if_neg (not_isGenericTransport_iff.mpr hnative), hwaits, htx]
  rw [hservice]
  split
  · rw [retryLbt]
    dsimp only
    split
    · left
      rw [dispatchFrame_eq (by exact hnative)]
      obtain ⟨events, htrace, _, _, _, _, _, hframe⟩ := sendNative_settles
        { m with tx := { m.tx with lbtTries := m.tx.lbtTries + 1 } } turn.tx turn.now
      have hmoves := fun m' : Statics => (serviceIdle_moves turn : Reaches m' _).trace
      obtain ⟨more, hmore⟩ := hmoves (sendNative
        { m with tx := { m.tx with lbtTries := m.tx.lbtTries + 1 } } turn.tx turn.now)
      refine ⟨settledFrames more, ?_⟩
      rw [← hmore, htrace, settledFrames_append, settledFrames_append, hframe, ← hsettled, ← htx]
      exact List.append_assoc ..
    · next hbusy =>
      right
      rw [hidle (by exact hwaits)]
      refine ⟨hsettled, hwaits, by rw [htx], ?_⟩
      have hmax := hpatient hphase
      rw [UInt8.lt_iff_toNat_lt] at hmax
      have hten : radioLbtMaxRetries.toNat = 10 := rfl
      dsimp only
      rw [htx, UInt8.toNat_add]
      have hone : (1 : UInt8).toNat = 1 := rfl
      omega
  · right
    rw [hidle hwaits]
    exact ⟨hsettled, hwaits, by rw [htx], by rw [htx, Nat.add_zero]⟩

/-- The turns of the loop that come after the deadline of their time. -/
def expirations (mac : Statics) : List Input → Nat
  | [] => 0
  | .turn turn :: inputs =>
    (if deadlinePassed turn.now mac.tx.deadlineMs then 1 else 0) +
      (mac.step (.turn turn)).expirations inputs
  | input :: inputs => (mac.step input).expirations inputs

/-- What is settled stays settled. -/
theorem settled_run {frames : List (List UInt8)} {frame : List UInt8}
    (hframes : settledFrames mac'.trace = settledFrames mac.trace ++ frame :: frames)
    (hcurrent : mac'.Current) (inputs : List Input) :
    ∃ frames, settledFrames (mac'.run inputs).trace =
      settledFrames mac.trace ++ frame :: frames := by
  obtain ⟨more, hmore⟩ := hcurrent.run_trace inputs
  refine ⟨frames ++ settledFrames more, ?_⟩
  rw [← hmore, settledFrames_append, hframes, List.append_assoc, List.cons_append]

theorem settled_of_expirations (h : mac.Current) (hpatient : mac.Patient)
    (hphase : mac.tx.phase = .lbtBackoff) (inputs : List Input)
    (hcount : 10 ≤ mac.tx.lbtTries.toNat + mac.expirations inputs) :
    ∃ frames, settledFrames (mac.run inputs).trace =
      settledFrames mac.trace ++ mac.tx.frame :: frames := by
  induction inputs generalizing mac with
  | nil =>
    have hmax := hpatient hphase
    rw [UInt8.lt_iff_toNat_lt] at hmax
    exact absurd hcount (Nat.not_le.mpr hmax)
  | cons input inputs ih =>
    have hcurrent := h.step input
    have hpatient' := patient_kept.step h hpatient input
    have hsame (htx : (mac.step input).tx = mac.tx)
        (hsettled : settledFrames (mac.step input).trace = settledFrames mac.trace)
        (hcount : 10 ≤ mac.tx.lbtTries.toNat + (mac.step input).expirations inputs) :
        ∃ frames, settledFrames ((mac.step input).run inputs).trace =
          settledFrames mac.trace ++ mac.tx.frame :: frames := by
      rw [← hsettled, ← htx]
      exact ih hcurrent hpatient' (htx ▸ hphase) (htx.symm ▸ hcount)
    cases input with
    | host frame =>
      refine hsame ?_ ?_ hcount
      · rw [Statics.step]
        split <;> rfl
      · rw [Statics.step]
        split
        · exact (Still.emit _ rfl).settled
        · rfl
    | request command =>
      refine hsame ?_ ?_ hcount <;> rw [Statics.step] <;> split <;> rfl
    | turn turn =>
      rcases loop_backoff h hpatient hphase turn with ⟨frames, hframes⟩ |
        ⟨hsettled, hphase', hframe, htries⟩
      · exact settled_run hframes hcurrent inputs
      · have hih := ih hcurrent hpatient' hphase' (by
          rw [expirations, ← Nat.add_assoc, ← htries] at hcount
          exact hcount)
        rwa [show settledFrames (mac.step (.turn turn)).trace = _ from hsettled,
          show (mac.step (.turn turn)).tx.frame = _ from hframe] at hih

/-- A frame that waits for a free channel is settled within ten deadlines, however busy the channel
is and whatever else happens. -/
theorem backoff_bounded (config : RadioConfig) (nextHbMs : UInt32) (inputs more : List Input)
    (hphase : ((start config nextHbMs).run inputs).tx.phase = .lbtBackoff)
    (hcount : 10 ≤ ((start config nextHbMs).run inputs).expirations more) :
    let mac := (start config nextHbMs).run inputs
    ∃ frames, settledFrames (mac.run more).trace =
      settledFrames mac.trace ++ mac.tx.frame :: frames := by
  have hstart : (start config nextHbMs).Patient := nofun
  exact settled_of_expirations ((start_current config nextHbMs).run inputs)
    (patient_kept.of_start hstart inputs) hphase more (hcount.trans (Nat.le_add_left ..))

/-- A turn that finds the channel busy. -/
def busyTurn (now : UInt32) : Input :=
  .turn { Turn.calm .timeout now with
    tx := { Answers.calm now with rssi := -50 }, idle := { Answers.calm now with rssi := -50 } }

/-- A frame backs off, and the channel stays busy. -/
def busyTurns : List Input := (List.range 10).map fun i => busyTurn (3 + 2 * .ofNat i)

theorem backoff_bounded_busyTurns :
    let mac := (start { nativeConfig with lbtRssiThresholdDbm := -70 } 4000).run
      [.host [1, 2], busyTurn 1]
    ∃ frames, settledFrames (mac.run busyTurns).trace =
      settledFrames mac.trace ++ mac.tx.frame :: frames :=
  backoff_bounded _ _ _ _ (by decide +kernel) (by decide +kernel)

/-! ### The wait -/

theorem deadlinePassed_iff {t p : UInt32} : deadlinePassed t p ↔ (t - p).toNat < 2 ^ 31 := by
  have hnot : deadlinePassed t p = !isBefore t p := by
    rw [deadlinePassed, isBefore, ← decide_not]
    exact decide_eq_decide.mpr Int32.not_lt.symm
  rw [hnot, Bool.not_eq_true', Bool.eq_false_iff, Ne, isBefore_iff, Nat.not_le]

/-- How far ahead of `now` the time is, if it is, and the wait otherwise bound it. -/
theorem consider_cases (now due wait : UInt32) :
    2 ^ 31 ≤ (due - now).toNat ∧ consider now due wait = 0 ∨
      (due - now).toNat < 2 ^ 31 ∧ (due - now).toNat < wait.toNat ∧
        consider now due wait = due - now ∨
      (due - now).toNat < 2 ^ 31 ∧ wait.toNat ≤ (due - now).toNat ∧
        consider now due wait = wait := by
  have hsign : (due - now).toInt32 < 0 ↔ 2 ^ 31 ≤ (due - now).toNat := by
    rw [← isBefore_iff, isBefore, decide_eq_true_iff]
  rw [consider]
  by_cases hpast : 2 ^ 31 ≤ (due - now).toNat
  · refine .inl ⟨hpast, ?_⟩
    rw [if_pos (hsign.mpr hpast)]
    split
    · rfl
    · next hzero =>
      refine UInt32.toNat_inj.mp ?_
      rw [UInt32.lt_iff_toNat_lt, Nat.not_lt] at hzero
      exact Nat.le_zero.mp hzero
  · have hahead := Nat.lt_of_not_le hpast
    rw [if_neg (mt hsign.mp hpast)]
    by_cases hlt : due - now < wait
    · exact .inr (.inl ⟨hahead, UInt32.lt_iff_toNat_lt.mp hlt, if_pos hlt⟩)
    · rw [UInt32.lt_iff_toNat_lt, Nat.not_lt] at hlt
      exact .inr (.inr ⟨hahead, hlt, if_neg (by rwa [UInt32.lt_iff_toNat_lt, Nat.not_lt])⟩)

theorem consider_le (now due wait : UInt32) : (consider now due wait).toNat ≤ wait.toNat := by
  rcases consider_cases now due wait with ⟨_, heq⟩ | ⟨_, hlt, heq⟩ | ⟨_, _, heq⟩ <;> rw [heq]
  · exact Nat.zero_le _
  · exact Nat.le_of_lt hlt

theorem toNat_add_sub (now due d : UInt32) :
    (now + d - due).toNat = (d.toNat + (2 ^ 32 - (due - now).toNat)) % 2 ^ 32 := by
  simp only [UInt32.toNat_sub, UInt32.toNat_add]
  have hnow := now.toNat_lt
  have hdue := due.toNat_lt
  omega

/-- Before the wait is over, the time is not there. -/
theorem not_deadlinePassed_of_lt {now due wait d : UInt32} (h : d < consider now due wait) :
    ¬ deadlinePassed (now + d) due := by
  rw [deadlinePassed_iff, toNat_add_sub]
  rw [UInt32.lt_iff_toNat_lt] at h
  rcases consider_cases now due wait with ⟨_, heq⟩ | ⟨hahead, _, heq⟩ | ⟨hahead, hle, heq⟩ <;>
    rw [heq] at h
  · exact absurd h (Nat.not_lt_zero _)
  · omega
  · omega

/-- In native mode the wait is bounded by what the sending half waits for. -/
theorem computeWaitMs_native (h : mac.Current) (hmode : mac.config.transportMode = .nativePacket)
    (now : UInt32) : mac.computeWaitMs now =
      if mac.tx.phase ≠ .idle then consider now mac.tx.deadlineMs macMaxWaitMs
      else if mac.stagedCmd ≠ none ∨ mac.txQueue ≠ [] then 0
      else consider now mac.nextHbMs macMaxWaitMs := by
  rw [computeWaitMs, if_neg (not_isGenericTransport_iff.mpr hmode)]
  dsimp only
  rw [if_pos h.ra]

/-- A turn that nothing but the time has woken. -/
theorem loop_timeout (h : mac.Current) {turn : Turn} (hwake : turn.wake = .timeout) :
    mac.loop turn = (mac.serviceTx turn).serviceIdle turn := by
  rw [loop, wakeUp, hwake]
  dsimp only
  rw [serviceRx_eq h]

/-- Before the wait is over, a turn finds nothing to do but the rearming of the radio. -/
theorem loop_before_wait (h : mac.Current) (hmode : mac.config.transportMode = .nativePacket)
    {now d : UInt32} (hd : d < mac.computeWaitMs now) {turn : Turn} (hwake : turn.wake = .timeout)
    (hnow : turn.now = now + d) :
    mac.loop turn = mac ∨
      mac.loop turn = emit { mac with lastRadioEventMs := turn.now } .startReceive := by
  have hnative := not_isGenericTransport_iff.mpr hmode
  rw [computeWaitMs_native h hmode] at hd
  rw [loop_timeout h hwake, hnow]
  rcases h.phase with hphase | hphase
  · rw [if_neg (not_not.mpr hphase)] at hd
    split at hd
    · exact absurd (UInt32.lt_iff_toNat_lt.mp hd) (Nat.not_lt_zero _)
    next hnothing =>
    obtain ⟨hstaged, hqueue⟩ := not_or.mp hnothing
    have htx : mac.serviceTx turn = mac := by
      rw [serviceTx]
      dsimp only
      rw [if_neg hnative, hphase]
    have hidle : mac.serviceIdle turn =
        mac.serviceHeartbeat turn (mac.ra.seq = V2.framingSeqUnset) := by
      rw [serviceIdle, if_neg (not_not.mpr hphase), not_not.mp hstaged]
      dsimp only
      rw [if_neg hnative, serviceNative, not_not.mp hqueue]
    rw [htx, hidle, serviceHeartbeat, hnow, if_neg (not_deadlinePassed_of_lt hd)]
    split
    · exact .inr rfl
    · exact .inl rfl
  · have hbusy : mac.tx.phase ≠ .idle := by
      rcases hphase with hphase | ⟨hphase, _⟩ <;> rw [hphase] <;> decide
    rw [if_pos hbusy] at hd
    have hpassed := not_deadlinePassed_of_lt hd
    have htx : mac.serviceTx turn = mac := by
      rw [serviceTx]
      dsimp only
      rw [if_neg hnative, hnow]
      rcases hphase with hphase | ⟨hphase, _⟩ <;> rw [hphase] <;> exact if_neg hpassed
    rw [htx, serviceIdle, if_pos hbusy]
    exact .inl rfl

/-- In native mode the loop never sleeps past something that it has to do: at any time before the
wait of `computeWaitMs` is over, which is never longer than a second, a turn that nothing woke does
nothing but rearm the radio. -/
theorem native_wait_sleeps_through_nothing (config : RadioConfig) (nextHbMs : UInt32)
    (inputs : List Input)
    (hmode : ((start config nextHbMs).run inputs).config.transportMode = .nativePacket)
    (now : UInt32) :
    let mac := (start config nextHbMs).run inputs
    (mac.computeWaitMs now).toNat ≤ 1000 ∧
      ∀ (turn : Turn) (d : UInt32), d < mac.computeWaitMs now → turn.wake = .timeout →
        turn.now = now + d →
        mac.loop turn = mac ∨
          mac.loop turn = emit { mac with lastRadioEventMs := turn.now } .startReceive := by
  intro mac
  have hcurrent : mac.Current := (start_current config nextHbMs).run inputs
  refine ⟨?_, fun turn d hd hwake hnow => loop_before_wait hcurrent hmode hd hwake hnow⟩
  rw [computeWaitMs_native hcurrent hmode]
  split
  · exact consider_le ..
  · split
    · exact Nat.zero_le _
    · exact consider_le ..

/-- A frame backs off for two milliseconds. -/
theorem native_wait_sleeps_through_nothing_busyTurn :
    let mac := (start { nativeConfig with lbtRssiThresholdDbm := -70 } 4000).run
      [.host [1, 2], busyTurn 1]
    (mac.tx.phase = .lbtBackoff ∧ mac.computeWaitMs 1 = 2) ∧
      (mac.computeWaitMs 1).toNat ≤ 1000 ∧
      ∀ (turn : Turn) (d : UInt32), d < mac.computeWaitMs 1 → turn.wake = .timeout →
        turn.now = 1 + d →
        mac.loop turn = mac ∨
          mac.loop turn = emit { mac with lastRadioEventMs := turn.now } .startReceive :=
  ⟨by decide +kernel, native_wait_sleeps_through_nothing _ _ _ (by decide +kernel) 1⟩

end Statics

end FlrcTnc.Node

import FlrcTnc.Arq.Timing
import FlrcTnc.Arq.Wedge

/-! What `nextDeadline` and `hasPendingWork` say about the ticks to come: when the engine has
nothing to do before its deadline, and when it has pending work that no tick will ever move. -/

namespace FlrcTnc.Arq

open Framing

/-! ### The clock -/

/-- `t` is in the range from `now` to `d`, `d` itself excluded; it is empty unless `d` is later than
`now`. -/
def Until (now d t : UInt32) : Prop := (t - now).toNat < (d - now).toNat ∧ (d - now).toNat < 2 ^ 31

/-- `d` is later than `now`. -/
def Later (now d : UInt32) : Prop := 0 < (d - now).toNat ∧ (d - now).toNat < 2 ^ 31

theorem Later.until_now {now d : UInt32} (h : Later now d) : Until now d now := by
  refine ⟨?_, h.2⟩
  rw [UInt32.sub_self]
  exact h.1

theorem Until.later {now d t : UInt32} (h : Until now d t) : Later now d :=
  ⟨Nat.zero_lt_of_lt h.1, h.2⟩

/-- From `now` on, `p` comes no sooner than `d`. -/
def NoSooner (now d p : UInt32) : Prop := isBefore now p ∧ d - now ≤ p - now

theorem not_until_self (now t : UInt32) : ¬ Until now now t := by
  rintro ⟨hlt, _⟩
  rw [UInt32.sub_self] at hlt
  exact absurd hlt (Nat.not_lt_zero _)

theorem Until.isBefore {now d t : UInt32} (h : Until now d t) : isBefore t d := by
  obtain ⟨hlt, hnear⟩ := h
  rw [isBefore_iff]
  rw [UInt32.toNat_sub] at hlt hnear ⊢
  rw [UInt32.toNat_sub] at hlt
  have ht := t.toNat_lt
  have hd := d.toNat_lt
  have hnow := now.toNat_lt
  omega

/-- `p` is not reached before `d`. -/
theorem forall_until_isBefore_iff {now d p : UInt32} (hlater : Later now d) :
    (∀ t, Until now d t → isBefore t p) ↔ NoSooner now d p := by
  have hnear := hlater.2
  have hd := d.toNat_lt
  have hnow := now.toNat_lt
  have hp := p.toNat_lt
  rw [NoSooner, UInt32.le_iff_toNat_le]
  constructor
  · intro h
    have hstart : isBefore now p := h now hlater.until_now
    refine ⟨hstart, Nat.le_of_not_lt fun hlt => ?_⟩
    -- at `p` itself nothing is before `p` any more
    have hself := h p ⟨hlt, hnear⟩
    rw [isBefore_iff, UInt32.sub_self] at hself
    exact absurd hself (by decide)
  · rintro ⟨hstart, hle⟩ t ⟨hlt, _⟩
    rw [isBefore_iff] at hstart ⊢
    rw [UInt32.toNat_sub] at hstart hle hlt hnear ⊢
    rw [UInt32.toNat_sub] at hle hlt
    have ht := t.toNat_lt
    omega

/-- Every deadline comes within `2^31` ticks. -/
theorem exists_not_isBefore (now p : UInt32) : ∃ t, (t - now).toNat ≤ 2 ^ 31 ∧ ¬ isBefore t p := by
  by_cases hnear : (p - now).toNat ≤ 2 ^ 31
  · refine ⟨p, hnear, ?_⟩
    rw [isBefore_iff, UInt32.sub_self]
    decide
  · refine ⟨now, by rw [UInt32.sub_self]; decide, ?_⟩
    rw [isBefore_iff]
    rw [UInt32.toNat_sub] at hnear ⊢
    have hp := p.toNat_lt
    have hnow := now.toNat_lt
    omega

namespace ArqEngine

variable {e : ArqEngine} {now t : UInt32}

/-! ### The next deadline -/

/-- Until the deadline that `nextDeadline` names, a tick has nothing to do; if it names none, never
again. -/
def SleepsUntilDeadline (e : ArqEngine) (now : UInt32) : Prop :=
  match e.nextDeadline now with
  | none => ∀ t, (t - now).toNat ≤ 2 ^ 31 → e.Sleeps t
  | some d => ∀ t, Until now d t → e.Sleeps t

/-- Some complete datagram waits for egress. -/
def WaitsForEgress (e : ArqEngine) : Prop :=
  ∃ j, (e.rxSlots j).active ∧ (e.rxSlots j).completeWaitingEgress

/-- Datagrams are `QUEUED` behind no other, there are no credits, and no probe is armed. -/
def Stalled (e : ArqEngine) : Prop :=
  (∃ i, (e.txSlots i).state = .queued) ∧ (∀ i, (e.txSlots i).state ≠ .open) ∧ e.remoteCredits = 0 ∧
    ¬ e.creditProbeArmed

/-- Apart from ACKs nothing falls due between `now` and `d`. -/
structure QuietUntil (e : ArqEngine) (now d : UInt32) : Prop where
  egress : ¬ e.WaitsForEgress
  rounds : ∀ i, (e.txSlots i).state = .open → (e.txSlots i).roundBitmap = 0
  retries : ∀ i, (e.txSlots i).state = .open →
    (e.txSlots i).Acknowledged ∨ NoSooner now d (e.txSlots i).retryDeadline
  queue : (∀ i, (e.txSlots i).state ≠ .open) → (∃ i, (e.txSlots i).state = .queued) →
    e.remoteCredits = 0 ∧ e.creditProbeArmed ∧ NoSooner now d e.creditProbeDeadline

/-- The deadline that `nextDeadline` names is the earliest. -/
def DeadlineCovers (e : ArqEngine) (now : UInt32) : Prop :=
  match e.pendingAcks.entries with
  | [] => e.Stalled → e.WaitsForEgress
  | pending :: _ => Later now pending.readyDeadline → e.QuietUntil now pending.readyDeadline

/-- With a pending ACK. -/
theorem quietUntil_iff {d : UInt32} (hlater : Later now d) {pending : PendingAck}
    {rest : List PendingAck} (hentries : e.pendingAcks.entries = pending :: rest)
    (hd : pending.readyDeadline = d) :
    (∀ t, Until now d t → e.Rests t) ↔ e.QuietUntil now d := by
  constructor
  · intro h
    have hrests := h now hlater.until_now
    refine ⟨fun ⟨j, hactive, hwaiting⟩ => hrests.egress j hactive hwaiting, hrests.rounds, ?_, ?_⟩
    · intro i hopen
      by_cases hacked : (e.txSlots i).Acknowledged
      · exact .inl hacked
      · exact .inr ((forall_until_isBefore_iff hlater).mp fun t ht =>
          ((h t ht).retries i hopen).resolve_left hacked)
    · intro hnone hqueued
      obtain ⟨hcredits, harmed, _⟩ := hrests.queue hnone hqueued
      exact ⟨hcredits, harmed, (forall_until_isBefore_iff hlater).mp fun t ht =>
        ((h t ht).queue hnone hqueued).2.2⟩
  · intro h t ht
    refine ⟨fun j hactive hwaiting => h.egress ⟨j, hactive, hwaiting⟩, ?_, h.rounds, ?_, ?_⟩
    · intro pending' rest' hentries'
      obtain ⟨rfl, _⟩ := List.cons.inj (hentries.symm.trans hentries')
      rw [hd]
      exact ht.isBefore
    · intro i hopen
      exact (h.retries i hopen).imp_right fun hlate => (forall_until_isBefore_iff hlater).mpr hlate
        t ht
    · intro hnone hqueued
      obtain ⟨hcredits, harmed, hlate⟩ := h.queue hnone hqueued
      exact ⟨hcredits, harmed, (forall_until_isBefore_iff hlater).mpr hlate t ht⟩

theorem earliestRetry_none {slots : List (Fin 4)} {best : Option UInt32}
    (h : ∀ i ∈ slots, (e.txSlots i).state ≠ .open) : e.earliestRetry now slots best = best := by
  induction slots with
  | nil => rfl
  | cons i rest ih =>
    rw [earliestRetry, if_pos (h i (List.mem_cons_self ..))]
    exact ih fun k hk => h k (List.mem_cons_of_mem i hk)

/-- The deadline of the only open slot. -/
theorem earliestRetry_one {i : Fin 4} (hopen : (e.txSlots i).state = .open)
    (hround : (e.txSlots i).roundBitmap = 0) (hone : ∀ k, (e.txSlots k).state = .open → k = i)
    {slots : List (Fin 4)} (hnodup : slots.Nodup) (hi : i ∈ slots) :
    e.earliestRetry now slots none =
      some (if (e.txSlots i).Acknowledged then now else (e.txSlots i).retryDeadline) := by
  induction slots with
  | nil => cases hi
  | cons k rest ih =>
    obtain ⟨hk, hnodup⟩ := List.nodup_cons.mp hnodup
    rw [earliestRetry]
    by_cases hki : k = i
    · subst hki
      rw [if_neg (not_not.mpr hopen)]
      by_cases hacked : (e.txSlots k).Acknowledged
      · rw [if_pos (show _ = _ from hacked), if_pos hacked]
      · rw [if_neg (show ¬ (_ = _) from hacked), if_neg hacked, if_pos ⟨hround, rfl⟩]
        refine earliestRetry_none fun l hl hopen => ?_
        exact ne_of_mem_of_not_mem hl hk (hone l hopen)
    · rw [if_pos fun hopen => hki (hone k hopen)]
      exact ih hnodup ((List.mem_cons.mp hi).resolve_left fun h => hki h.symm)

/-- A deadline that is now leaves no time to sleep. -/
theorem sleepsUntilDeadline_of_now (h : e.nextDeadline now = some now) :
    e.SleepsUntilDeadline now := by
  rw [SleepsUntilDeadline, h]
  exact fun t ht => absurd ht (not_until_self now t)

/-- Nothing can be done at once: only a timer lets a tick do something. -/
structure AwaitsTimer (e : ArqEngine) : Prop where
  acks : e.pendingAcks.entries = []
  egress : ¬ e.WaitsForEgress
  rounds : ∀ i, (e.txSlots i).state = .open → (e.txSlots i).roundBitmap = 0
  queue : ¬ (e.txQueuedCount > 0 ∧ e.remoteCredits > 0 ∧ e.txActiveCount = 0)

namespace AwaitsTimer

theorem nextDeadline_eq (h : e.AwaitsTimer) (now : UInt32) :
    e.nextDeadline now = e.earliestRetry now (List.finRange 4)
      (if e.creditProbeArmed ∧ e.remoteCredits = 0 ∧ e.txQueuedCount > 0 ∧ e.txActiveCount = 0 then
        some e.creditProbeDeadline else none) := by
  have hround : ¬ ∃ i, (e.txSlots i).state = .open ∧ (e.txSlots i).roundBitmap ≠ 0 := by
    rintro ⟨i, hopen, hnot⟩
    exact hnot (h.rounds i hopen)
  rw [nextDeadline, h.acks]
  dsimp only
  rw [if_neg (show ¬ ∃ j, _ from h.egress), if_neg hround, if_neg h.queue]

/-- The timers decide. -/
theorem rests (h : e.AwaitsTimer) {t : UInt32}
    (hretries : ∀ i, (e.txSlots i).state = .open →
      (e.txSlots i).Acknowledged ∨ isBefore t (e.txSlots i).retryDeadline)
    (hprobe : (∀ i, (e.txSlots i).state ≠ .open) → (∃ i, (e.txSlots i).state = .queued) →
      e.remoteCredits = 0 ∧ e.creditProbeArmed ∧ isBefore t e.creditProbeDeadline) : e.Rests t where
  egress j hactive hwaiting := h.egress ⟨j, hactive, hwaiting⟩
  acks pending rest hcons := by
    rw [h.acks] at hcons
    cases hcons
  rounds := h.rounds
  retries := hretries
  queue := hprobe

/-- The timer of the open slot. -/
theorem sleeps_of_open (h : e.AwaitsTimer) (hs : e.Settled) {i : Fin 4}
    (hopen : (e.txSlots i).state = .open) : e.SleepsUntilDeadline now := by
  have hdeadline := h.nextDeadline_eq now
  have hcount : e.txActiveCount ≠ 0 := Exec.txCount_ne_zero (e := { e with }) hopen
  have hone (k : Fin 4) (hk : (e.txSlots k).state = .open) : k = i := hs.one_open k i hk hopen
  rw [if_neg fun hprobe => hcount hprobe.2.2.2,
    earliestRetry_one hopen (h.rounds i hopen) hone (List.nodup_finRange 4)
      (List.mem_finRange i)] at hdeadline
  split at hdeadline
  · exact sleepsUntilDeadline_of_now hdeadline
  · rw [SleepsUntilDeadline, hdeadline]
    intro t ht
    refine (h.rests (fun k hk => ?_) fun hnone => ?_).sleeps hs.accounts
    · rw [hone k hk]
      exact .inr ht.isBefore
    · exact absurd hopen (hnone i)

/-- The timer of the credit probe, which must be armed if a datagram is queued. -/
theorem sleeps_iff_of_none_open (h : e.AwaitsTimer) (hs : e.Settled)
    (hnone : ∀ i, (e.txSlots i).state ≠ .open) : e.SleepsUntilDeadline now ↔ ¬ e.Stalled := by
  have hpos {n : UInt8} : n > 0 ↔ n ≠ 0 := UInt8.pos_iff_ne_zero
  have hretries (t : UInt32) (i : Fin 4) (hopen : (e.txSlots i).state = .open) :
      (e.txSlots i).Acknowledged ∨ isBefore t (e.txSlots i).retryDeadline := absurd hopen (hnone i)
  have hdeadline := h.nextDeadline_eq now
  have hcount : e.txActiveCount = 0 := (Exec.txCount_eq_zero_iff (e := { e with })).mpr hnone
  rw [earliestRetry_none fun i _ => hnone i] at hdeadline
  by_cases hqueued : ∃ i, (e.txSlots i).state = .queued
  · obtain ⟨i, hi⟩ := hqueued
    have hqueuedCount : e.txQueuedCount > 0 := hpos.mpr (Exec.txCount_ne_zero (e := { e with }) hi)
    have hcredits : e.remoteCredits = 0 := by
      by_contra hcredits
      exact h.queue ⟨hqueuedCount, hpos.mpr hcredits, hcount⟩
    by_cases harmed : e.creditProbeArmed
    · refine iff_of_true ?_ fun hstalled => hstalled.2.2.2 harmed
      rw [if_pos ⟨harmed, hcredits, hqueuedCount, hcount⟩] at hdeadline
      rw [SleepsUntilDeadline, hdeadline]
      intro t ht
      exact (h.rests (hretries t) fun _ _ => ⟨hcredits, harmed, ht.isBefore⟩).sleeps hs.accounts
    · refine iff_of_false (fun hsleeps => ?_) (not_not.mpr ⟨⟨i, hi⟩, hnone, hcredits, harmed⟩)
      rw [if_neg fun hprobe => harmed hprobe.1] at hdeadline
      rw [SleepsUntilDeadline, hdeadline] at hsleeps
      have hrests := (hsleeps now (by rw [UInt32.sub_self]; decide)).rests hs
      exact harmed (hrests.queue hnone ⟨i, hi⟩).2.1
  · have hqueuedCount : ¬ e.txQueuedCount > 0 := by
      rw [hpos, not_not]
      exact (Exec.txCount_eq_zero_iff (e := { e with })).mpr (not_exists.mp hqueued)
    refine iff_of_true ?_ fun hstalled => hqueued hstalled.1
    rw [if_neg fun hprobe => hqueuedCount hprobe.2.2.1] at hdeadline
    rw [SleepsUntilDeadline, hdeadline]
    intro t _
    exact (h.rests (hretries t) fun _ hq => absurd hq hqueued).sleeps hs.accounts

end AwaitsTimer

/-- Without a pending ACK. -/
theorem sleepsUntilDeadline_iff_of_nil (hs : e.Settled) (hentries : e.pendingAcks.entries = []) :
    e.SleepsUntilDeadline now ↔ (e.Stalled → e.WaitsForEgress) := by
  by_cases hwaits : e.WaitsForEgress
  · refine iff_of_true (sleepsUntilDeadline_of_now ?_) fun _ => hwaits
    rw [nextDeadline, hentries]
    exact if_pos hwaits
  by_cases hround : ∃ i, (e.txSlots i).state = .open ∧ (e.txSlots i).roundBitmap ≠ 0
  · refine iff_of_true (sleepsUntilDeadline_of_now ?_) fun hstalled => ?_
    · rw [nextDeadline, hentries]
      dsimp only
      rw [if_neg (show ¬ ∃ j, _ from hwaits), if_pos hround]
    · obtain ⟨i, hopen, _⟩ := hround
      exact absurd hopen (hstalled.2.1 i)
  by_cases hopenable : e.txQueuedCount > 0 ∧ e.remoteCredits > 0 ∧ e.txActiveCount = 0
  · refine iff_of_true (sleepsUntilDeadline_of_now ?_) fun hstalled => ?_
    · rw [nextDeadline, hentries]
      dsimp only
      rw [if_neg (show ¬ ∃ j, _ from hwaits), if_neg hround, if_pos hopenable]
    · exact absurd hstalled.2.2.1 (UInt8.pos_iff_ne_zero.mp hopenable.2.1)
  have hrounds (i : Fin 4) (hopen : (e.txSlots i).state = .open) :
      (e.txSlots i).roundBitmap = 0 := by
    by_contra hnot
    exact hround ⟨i, hopen, hnot⟩
  have htimer : e.AwaitsTimer := ⟨hentries, hwaits, hrounds, hopenable⟩
  by_cases hopen : ∃ i, (e.txSlots i).state = .open
  · obtain ⟨i, hopen⟩ := hopen
    exact iff_of_true (htimer.sleeps_of_open hs hopen) fun hstalled => absurd hopen (hstalled.2.1 i)
  · rw [htimer.sleeps_iff_of_none_open hs (not_exists.mp hopen)]
    exact ⟨fun hnot hstalled => absurd hstalled hnot, fun h hstalled => hwaits (h hstalled)⟩

/-- When the deadline can be relied on. -/
theorem sleepsUntilDeadline_iff (hs : e.Settled) :
    e.SleepsUntilDeadline now ↔ e.DeadlineCovers now := by
  cases hentries : e.pendingAcks.entries with
  | nil =>
    rw [sleepsUntilDeadline_iff_of_nil hs hentries, DeadlineCovers, hentries]
  | cons pending rest =>
    have hdeadline : e.nextDeadline now = some pending.readyDeadline := by
      rw [nextDeadline, hentries]
    rw [SleepsUntilDeadline, hdeadline, DeadlineCovers, hentries]
    dsimp only
    constructor
    · intro h hlater
      exact (quietUntil_iff hlater hentries rfl).mp fun t ht => (h t ht).rests hs
    · intro h t ht
      exact ((quietUntil_iff ht.later hentries rfl).mpr (h ht.later) t ht).sleeps hs.accounts

/-! ### Work without a timer -/

/-- No tick within `2^31` of `now` has anything to do. -/
def Dormant (e : ArqEngine) (now : UInt32) : Prop := ∀ t, (t - now).toNat ≤ 2 ^ 31 → e.Sleeps t

/-- Some work will come to a tick, or nothing is left that `hasPendingWork` would count. -/
def WorkMoves (e : ArqEngine) : Prop :=
  e.pendingAcks.entries ≠ [] ∨ e.WaitsForEgress ∨
    (∃ i, (e.txSlots i).state = .open ∧
      ((e.txSlots i).roundBitmap ≠ 0 ∨ ¬ (e.txSlots i).Acknowledged)) ∨
    ((∃ i, (e.txSlots i).state = .queued) ∧ ∀ i, (e.txSlots i).state ≠ .open) ∨
    (∀ i, (e.txSlots i).state ≠ .open) ∧ ∀ j, ¬ (e.rxSlots j).active

/-- What is left when no tick has anything to do. -/
structure Idle (e : ArqEngine) : Prop where
  acks : e.pendingAcks.entries = []
  egress : ¬ e.WaitsForEgress
  slots : ∀ i, (e.txSlots i).state = .open → (e.txSlots i).roundBitmap = 0 ∧
    (e.txSlots i).Acknowledged
  queue : (∃ i, (e.txSlots i).state = .queued) → ∃ i, (e.txSlots i).state = .open

theorem Idle.rests (h : e.Idle) (t : UInt32) : e.Rests t where
  egress j hactive hwaiting := h.egress ⟨j, hactive, hwaiting⟩
  acks pending rest hentries := by
    rw [h.acks] at hentries
    cases hentries
  rounds i hopen := (h.slots i hopen).1
  retries i hopen := .inl (h.slots i hopen).2
  queue hnone hqueued := by
    obtain ⟨i, hi⟩ := h.queue hqueued
    exact absurd hi (hnone i)

/-- Every timer runs out within `2^31` ticks. -/
theorem dormant_iff (hs : e.Settled) : e.Dormant now ↔ e.Idle := by
  constructor
  · intro h
    have hrests (t : UInt32) (ht : (t - now).toNat ≤ 2 ^ 31) : e.Rests t := (h t ht).rests hs
    have hstart := hrests now (by rw [UInt32.sub_self]; decide)
    refine ⟨?_, fun ⟨j, hactive, hwaiting⟩ => hstart.egress j hactive hwaiting,
      fun i hopen => ⟨hstart.rounds i hopen, ?_⟩,
      fun hqueued => ?_⟩
    · cases hentries : e.pendingAcks.entries with
      | nil => rfl
      | cons pending rest =>
        obtain ⟨t, ht, hdue⟩ := exists_not_isBefore now pending.readyDeadline
        exact absurd ((hrests t ht).acks pending rest hentries) hdue
    · obtain ⟨t, ht, hdue⟩ := exists_not_isBefore now (e.txSlots i).retryDeadline
      exact ((hrests t ht).retries i hopen).resolve_right hdue
    · by_contra hnone
      obtain ⟨t, ht, hdue⟩ := exists_not_isBefore now e.creditProbeDeadline
      exact hdue ((hrests t ht).queue (not_exists.mp hnone) hqueued).2.2
  · exact fun h t _ => (h.rests t).sleeps hs.accounts

theorem hasPendingWork_iff : e.hasPendingWork ↔ e.pendingAcks.entries ≠ [] ∨
    (∃ i, (e.txSlots i).state = .open) ∨ (∃ i, (e.txSlots i).state = .queued) ∨
      ∃ j, (e.rxSlots j).active := by
  have hcount {state : TxState} : e.txCount state > 0 ↔ ∃ i, (e.txSlots i).state = state := by
    rw [gt_iff_lt, UInt8.pos_iff_ne_zero, ← not_iff_not, not_not,
      Exec.txCount_eq_zero_iff (e := { e with }), not_exists]
  have hactive : e.rxActiveCount > 0 ↔ ∃ j, (e.rxSlots j).active := by
    have hle : ((List.finRange 4).countP fun j => (e.rxSlots j).active) ≤ 4 := Slots.count_le ..
    have hlt : ((List.finRange 4).countP fun j => (e.rxSlots j).active) < 256 := by omega
    rw [gt_iff_lt, UInt8.lt_iff_toNat_lt, rxActiveCount, UInt8.toNat_ofNat', Nat.mod_eq_of_lt hlt]
    exact List.countP_pos_iff.trans ⟨fun ⟨j, _, hj⟩ => ⟨j, hj⟩,
      fun ⟨j, hj⟩ => ⟨j, List.mem_finRange j, hj⟩⟩
  rw [hasPendingWork, decide_eq_true_eq, txActiveCount, txQueuedCount, hcount, hcount, hactive,
    gt_iff_lt, List.length_pos_iff]

/-- When pending work does not outlive every timer. -/
theorem pendingWork_iff (hs : e.Settled) :
    (e.Dormant now → e.hasPendingWork = false) ↔ e.WorkMoves := by
  rw [dormant_iff hs, ← Bool.not_eq_true, hasPendingWork_iff]
  constructor
  · intro h
    by_contra hstuck
    simp only [WorkMoves, not_or, not_and, not_not, not_exists] at hstuck
    obtain ⟨hacks, hegress, hslots, hqueue, hrest⟩ := hstuck
    have hidle : e.Idle := by
      exact ⟨hacks, hegress, hslots, fun hqueued => not_forall_not.mp (hqueue hqueued)⟩
    have hnothing := h hidle
    rw [not_or, not_or, not_or] at hnothing
    exact hrest (not_exists.mp hnothing.2.1) (not_exists.mp hnothing.2.2.2)
  · rintro (hacks | hwaits | ⟨i, hopen, hwork⟩ | ⟨hqueued, hnone⟩ | ⟨hnone, hfree⟩) hidle
    · exact absurd hidle.acks hacks
    · exact absurd hwaits hidle.egress
    · obtain ⟨hround, hacked⟩ := hidle.slots i hopen
      exact absurd hwork (not_or.mpr ⟨not_not.mpr hround, not_not.mpr hacked⟩)
    · obtain ⟨i, hi⟩ := hidle.queue hqueued
      exact absurd hi (hnone i)
    · rintro (hacks | ⟨i, hi⟩ | hqueued | ⟨j, hj⟩)
      · exact hacks hidle.acks
      · exact hnone i hi
      · obtain ⟨i, hi⟩ := hidle.queue hqueued
        exact hnone i hi
      · exact hfree j hj

end ArqEngine

/-! ### Runs -/

/-- In every state of a run and at every time, nothing is done before the deadline of `nextDeadline`
if and only if `DeadlineCovers` holds there. -/
theorem sleeps_until_deadline_iff (config : ArqConfig) (calls : List (ArqCallbacks × Call))
    (now : UInt32) :
    ((ArqEngine.reset config).after calls).SleepsUntilDeadline now ↔
      ((ArqEngine.reset config).after calls).DeadlineCovers now :=
  ArqEngine.sleepsUntilDeadline_iff (ArqEngine.after_settled config calls)

/-- The packet of a DATA frame; nothing stands for a frame that `buildDataPacket` refuses. -/
def dataPacket (header : DataHeader) (payload : List UInt8) : Packet :=
  (buildDataPacket header (some payload)).toOption.getD ⟨[], Nat.zero_le _⟩

/-- A datagram to send, and then a datagram is received, of which the ACK is ready after five
ticks. -/
def turnaroundCalls : List (ArqCallbacks × Call) :=
  [({}, .onTxDatagram (some [1])),
    (Exec.takesAll, .onRxPacket (dataPacket ⟨1, 0, 7, 0, 1, 1, 1⟩ [2]) 0)]

set_option maxRecDepth 100000 in
/-- The first tick opens the datagram while `nextDeadline` waits for the ACK. -/
theorem turnaroundCalls_tick :
    let e := (ArqEngine.reset { ackTurnaroundCycles := 5 }).after turnaroundCalls
    e.nextDeadline 0 = some 5 ∧ (e.txSlots 0).state = .queued ∧
      ((e.run {} (.onTick 0)).txSlots 0).state = .open := by
  decide +kernel

theorem not_sleeps_until_deadline : ¬ ∀ (config : ArqConfig) (calls : List (ArqCallbacks × Call))
    (now : UInt32), ((ArqEngine.reset config).after calls).SleepsUntilDeadline now := by
  obtain ⟨hdeadline, hqueued, hopen⟩ := turnaroundCalls_tick
  apply not_forall.mpr ⟨{ ackTurnaroundCycles := 5 }, _⟩
  apply not_forall.mpr ⟨turnaroundCalls, _⟩
  apply not_forall.mpr ⟨0, _⟩
  unfold ArqEngine.SleepsUntilDeadline
  rw [hdeadline]
  intro hsleeps
  have hsame := (hsleeps 0 ⟨by decide, by decide⟩ {}).1
  rw [hsame, hqueued] at hopen
  cases hopen

/-- In every state of a run, pending work that no tick will ever move is not counted by
`hasPendingWork` if and only if `WorkMoves` holds there. -/
theorem pending_work_has_timer_iff (config : ArqConfig) (calls : List (ArqCallbacks × Call))
    (now : UInt32) :
    (((ArqEngine.reset config).after calls).Dormant now →
        ((ArqEngine.reset config).after calls).hasPendingWork = false) ↔
      ((ArqEngine.reset config).after calls).WorkMoves :=
  ArqEngine.pendingWork_iff (ArqEngine.after_settled config calls)

/-- The first of two fragments; the second never comes. -/
def partialCalls : List (ArqCallbacks × Call) :=
  [(Exec.takesAll, .onRxPacket (dataPacket ⟨0, 0, 7, 0, 2, 116, 115⟩ (List.replicate 115 0)) 0)]

set_option maxRecDepth 100000 in
theorem partialCalls_slots :
    let e := (ArqEngine.reset {}).after partialCalls
    e.pendingAcks.entries = [] ∧ (∀ j, ¬ (e.rxSlots j).completeWaitingEgress) ∧
      (∀ i, (e.txSlots i).state = .empty) ∧ e.hasPendingWork := by
  decide +kernel

theorem not_pending_work_has_timer : ¬ ∀ (config : ArqConfig) (calls : List (ArqCallbacks × Call))
    (now : UInt32), ((ArqEngine.reset config).after calls).Dormant now →
      ((ArqEngine.reset config).after calls).hasPendingWork = false := by
  intro h
  obtain ⟨hacks, hegress, hempty, hpending⟩ := partialCalls_slots
  have hidle : ((ArqEngine.reset {}).after partialCalls).Idle := by
    refine ⟨hacks, fun ⟨j, _, hwaiting⟩ => hegress j hwaiting, fun i hopen => ?_,
      fun ⟨i, hqueued⟩ => ?_⟩
    · rw [hempty i] at hopen
      cases hopen
    · rw [hempty i] at hqueued
      cases hqueued
  have hdormant : ((ArqEngine.reset {}).after partialCalls).Dormant 0 :=
    (ArqEngine.dormant_iff (ArqEngine.after_settled {} partialCalls)).mpr hidle
  have hnone := h {} partialCalls 0 hdormant
  rw [hpending] at hnone
  cases hnone

end FlrcTnc.Arq

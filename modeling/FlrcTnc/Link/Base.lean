import FlrcTnc.Link.Refine

/-! What holds in every flow, resets and all: the two halves are in order, every frame in flight is
well formed, and the log knows the datagrams in the slots of the sender. -/

namespace FlrcTnc

open Framing Arq Mask

namespace Link

/-! ### The log -/

@[simp] theorem occupant_accepted (i k : Fin 4) (log : List Fate) (id : UInt16)
    (data : List UInt8) :
    occupant i (log ++ [.accepted k id data]) =
      if k = i then some (id, data) else occupant i log := by
  simp [occupant]

@[simp] theorem occupant_completed (i k : Fin 4) (log : List Fate) :
    occupant i (log ++ [.completed k]) = occupant i log := by
  simp [occupant]

@[simp] theorem occupant_delivered (i : Fin 4) (log : List Fate) (id : UInt16) (data : List UInt8) :
    occupant i (log ++ [.delivered id data]) = occupant i log := by
  simp [occupant]

@[simp] theorem since_accepted (i k : Fin 4) (log : List Fate) (id : UInt16) (data : List UInt8) :
    since i (log ++ [.accepted k id data]) =
      if k = i then [] else since i log ++ [.accepted k id data] := by
  simp [since]

@[simp] theorem since_completed (i k : Fin 4) (log : List Fate) :
    since i (log ++ [.completed k]) = since i log ++ [.completed k] := by
  simp [since]

@[simp] theorem since_delivered (i : Fin 4) (log : List Fate) (id : UInt16) (data : List UInt8) :
    since i (log ++ [.delivered id data]) = since i log ++ [.delivered id data] := by
  simp [since]

/-- The occupant of a slot was accepted. -/
theorem mem_of_occupant {i : Fin 4} {log : List Fate} {id : UInt16} {data : List UInt8}
    (h : occupant i log = some (id, data)) : .accepted i id data ∈ log := by
  induction log using List.reverseRecOn with
  | nil => cases h
  | append_singleton log fate ih =>
    cases fate with
    | accepted k id' data' =>
      rw [occupant_accepted] at h
      split at h
      · next hk =>
        cases h
        subst hk
        exact List.mem_append_right _ (List.mem_singleton_self _)
      · exact List.mem_append_left _ (ih h)
    | completed k =>
      rw [occupant_completed] at h
      exact List.mem_append_left _ (ih h)
    | delivered id' data' =>
      rw [occupant_delivered] at h
      exact List.mem_append_left _ (ih h)

end Link

namespace Flow

open Link

/-- What holds in every flow. -/
structure Base (f : Flow) : Prop where
  sender : f.sender.Inv
  receiver : f.receiver.Inv
  frames : ∀ frame ∈ f.data,
    validateDataHeader frame.1 ∧ frame.2.length = frame.1.payloadLen.toNat
  occupants : ∀ i t, f.sender.slots i = some t → occupant i f.log = some (t.id, t.data)

theorem Base.empty (nextId : UInt16) : Base (.empty nextId) where
  sender := .empty
  receiver := .empty
  frames frame hframe := by cases hframe
  occupants i t ht := by cases ht

/-- A sender of which one slot has new acknowledged bits or is emptied. -/
theorem Base.occupants_setSlot {f : Flow} (h : f.Base) {i : Fin 4} {t : Option Outgoing}
    (ht : ∀ u, t = some u → ∃ v, f.sender.slots i = some v ∧ u.id = v.id ∧ u.data = v.data)
    {k : Fin 4} {u : Outgoing} (hu : (f.sender.setSlot i t).slots k = some u) :
    occupant k f.log = some (u.id, u.data) := by
  rcases Sender.setSlot_eq_some_iff.mp hu with ⟨rfl, hnew⟩ | ⟨_, hold⟩
  · obtain ⟨v, hv, hid, hdata⟩ := ht u hnew
    rw [hid, hdata]
    exact h.occupants k v hv
  · exact h.occupants k u hold

theorem Base.step {rules : Rules} {f f' : Flow} (h : f.Base) (hstep : Step rules f f') :
    f'.Base := by
  cases hstep with
  | accept i data hpos hmax hempty =>
    refine ⟨h.sender.accept i hpos hmax _ _, h.receiver, h.frames, fun k t ht => ?_⟩
    rw [occupant_accepted]
    rcases Sender.setSlot_eq_some_iff.mp ht with ⟨rfl, hnew⟩ | ⟨hk, hold⟩
    · cases hnew
      exact if_pos rfl
    · rw [if_neg (Ne.symm hk)]
      exact h.occupants k t hold
  | openSlot i t ht hnone hrules =>
    refine ⟨h.sender.openSlot ht hnone, h.receiver, h.frames, fun k u => h.occupants_setSlot ?_⟩
    rintro u hu
    cases hu
    exact ⟨t, ht, rfl, rfl⟩
  | send i t ht frame hcarries =>
    refine ⟨h.sender, h.receiver, fun frame' hframe => ?_, h.occupants⟩
    rcases List.mem_append.mp hframe with hframe | hframe
    · exact h.frames frame' hframe
    · rw [List.mem_singleton.mp hframe]
      obtain ⟨_, _, _, hpayload⟩ := validateDataHeader_toNat hcarries.valid
      refine ⟨hcarries.valid, ?_⟩
      rw [hcarries.payload, fragmentOf_length, hpayload, hcarries.length]
  | fail i t ht hmissing hrules =>
    exact ⟨h.sender.clear i, h.receiver, h.frames, fun k u =>
      h.occupants_setSlot fun u hu => by cases hu⟩
  | withdraw i t ht ack hack hid hfailure =>
    refine ⟨h.sender.set ht.1 rfl id, h.receiver, h.frames, fun k u => h.occupants_setSlot ?_⟩
    rintro u hu
    cases hu
    exact ⟨t, ht.1, rfl, rfl⟩
  | add i t ht ack hack hid hfailure =>
    refine ⟨h.sender.set ht.1 rfl id, h.receiver, h.frames, fun k u => h.occupants_setSlot ?_⟩
    rintro u hu
    cases hu
    exact ⟨t, ht.1, rfl, rfl⟩
  | complete i t ht ack hack hid hfailure hall =>
    refine ⟨h.sender.clear i, h.receiver, h.frames, fun k u hu => ?_⟩
    rw [occupant_completed]
    exact h.occupants_setSlot (fun u hu => by cases hu) hu
  | take frame hframe j r hnew htakes =>
    exact ⟨h.sender, h.receiver.takes htakes (h.frames frame hframe).1, h.frames, h.occupants⟩
  | queue ack hqueues =>
    exact ⟨h.sender, ⟨h.receiver.fits, h.receiver.distinct⟩, h.frames, h.occupants⟩
  | deliver j r hr hcomplete stored credits hrules =>
    refine ⟨h.sender, h.receiver.clear j _ _, h.frames, fun k t ht => ?_⟩
    rw [occupant_delivered]
    exact h.occupants k t ht
  | sendAck ack rest hpending =>
    exact ⟨h.sender, ⟨h.receiver.fits, h.receiver.distinct⟩, h.frames, h.occupants⟩
  | drop data acks hdata hacks =>
    exact ⟨h.sender, h.receiver, fun frame hframe => h.frames frame (hdata.subset hframe),
      h.occupants⟩
  | resetS nextId hrules => exact ⟨.empty, h.receiver, h.frames, fun i t ht => by cases ht⟩
  | resetR hrules => exact ⟨h.sender, .empty, h.frames, h.occupants⟩

end Flow

/-! ### Pieces of a datagram -/

/-- The frame carries a piece of `data`. -/
def PieceOf (data : List UInt8) (frame : DataFrame) : Prop :=
  frame.1.datagramLength.toNat = data.length ∧ frame.2 = fragmentOf data frame.1.fragmentIndex.toNat

namespace Arq

/-- What has arrived of `data` stands in the buffer. -/
structure Incoming.Holds (r : Incoming) (data : List UInt8) : Prop where
  length : r.length.toNat = data.length
  bytes : ∀ k, hasBit r.bits k → ∀ j < fragmentLen data.length k,
    r.buffer (115 * k + j) = byteAt data (115 * k + j)

/-- A complete datagram is handed on as it was. -/
theorem Incoming.Holds.content_eq {r : Incoming} {data : List UInt8} (h : r.Holds data)
    (hfits : r.Fits) (hcomplete : r.Complete) : r.content = data := by
  have hall := hfits.complete_iff.mp hcomplete
  rw [h.length] at hall
  rw [Incoming.content, h.length, Buffer.read_eq_iff]
  intro k hk
  have hsplit : 115 * (k / 115) + k % 115 = k := Nat.div_add_mod k 115
  have hbyte := h.bytes (k / 115) (hall _ (by rw [fragments]; omega)) (k % 115)
    (by rw [fragmentLen]; omega)
  rwa [hsplit] at hbyte

theorem Incoming.Holds.fresh {id length : UInt16} {buffer : Buffer} {data : List UInt8}
    (h : length.toNat = data.length) : Incoming.Holds ⟨id, length, 0, buffer⟩ data :=
  ⟨h, fun k hk => by simp at hk⟩

theorem Incoming.Holds.add {r : Incoming} {data : List UInt8} {frame : DataFrame}
    (h : r.Holds data) (hpiece : PieceOf data frame) (hvalid : validateDataHeader frame.1) :
    (r.add frame.1 frame.2).Holds data := by
  obtain ⟨_, hmax, hindex, _⟩ := validateDataHeader_toNat hvalid
  have hfrag := fragments_le hmax
  refine ⟨h.length, fun k hk j hj => ?_⟩
  rw [Incoming.add, hasBit_or, hasBit_bit (by omega), Bool.or_eq_true, decide_eq_true_eq] at hk
  simp only [Incoming.add]
  by_cases hold : hasBit r.bits frame.1.fragmentIndex.toNat
  · rw [if_pos hold]
    rcases hk with hk | rfl
    · exact h.bytes k hk j hj
    · exact h.bytes _ hold j hj
  · rw [if_neg hold, Buffer.write]
    by_cases hkey : frame.1.fragmentIndex.toNat = k
    · subst hkey
      have hlen : frame.2.length = fragmentLen data.length frame.1.fragmentIndex.toNat := by
        rw [hpiece.2, fragmentOf_length]
      rw [if_pos (by rw [hlen]; omega), hpiece.2, Nat.add_sub_cancel_left,
        byteAt_fragmentOf data hj]
    · have hlen : frame.2.length ≤ 115 := by
        rw [hpiece.2, fragmentOf_length, fragmentLen]
        omega
      rw [fragmentLen] at hj
      rw [if_neg (by omega)]
      exact h.bytes k (hk.resolve_right hkey) j (by rw [fragmentLen]; exact hj)

/-- A fragment of `data` goes where `data` is. -/
theorem Receiver.Takes.holds {s : Receiver} {frame : DataFrame} {j : Fin 4} {r : Incoming}
    {data : List UInt8} (h : s.Takes frame.1 frame.2 j r) (hpiece : PieceOf data frame)
    (hvalid : validateDataHeader frame.1)
    (hheld : ∀ q, s.slots j = some q → q.Matches frame.1 → q.Holds data) : r.Holds data := by
  cases h with
  | held q hq hmatches => exact (hheld q hq hmatches).add hpiece hvalid
  | fresh buffer hempty hnew => exact (Incoming.Holds.fresh hpiece.1).add hpiece hvalid

end Arq

end FlrcTnc

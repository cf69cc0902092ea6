import Mathlib.Data.List.Forall2

/-! Exact wire formats.  A frame has a logical length on the wire and a packet may carry padding
behind it.  A format is exact when the parser yields a frame on exactly the packets that begin with
the logical bytes the builder writes for it; the usual round trips are consequences. -/

namespace WireFormat

variable {Byte Packet Frame : Type*}

/-- `parses p f`: the parser accepts `p` and yields `f`.  `builds f p`: the builder accepts `f` and
writes `p`. -/
structure Exact (bytes : Packet → List Byte) (logicalLen : Frame → Nat)
    (parses : Packet → Frame → Prop) (builds : Frame → Packet → Prop) : Prop where
  parses_iff : ∀ p f, parses p f ↔ ∃ q, builds f q ∧ logicalLen f ≤ (bytes p).length ∧
    (bytes p).take (logicalLen f) = (bytes q).take (logicalLen f)
  builds_unique : ∀ {f p q}, builds f p → builds f q → p = q
  builds_length : ∀ {f p}, builds f p → logicalLen f ≤ (bytes p).length

/-- What exactness gives: parsing undoes building, rebuilding a parsed packet reproduces its logical
bytes, a packet shorter than the logical length is not accepted, and neither the amount nor the
content of the padding matters. -/
structure RoundTrips (bytes : Packet → List Byte) (logicalLen : Frame → Nat)
    (parses : Packet → Frame → Prop) (builds : Frame → Packet → Prop) : Prop where
  parses_of_builds : ∀ {f p}, builds f p → parses p f
  rebuilds : ∀ {f p}, parses p f → ∃ q, builds f q ∧
    (bytes q).take (logicalLen f) = (bytes p).take (logicalLen f)
  not_short : ∀ {f p}, (bytes p).length < logicalLen f → ¬ parses p f
  padding : ∀ {f p q}, logicalLen f ≤ (bytes p).length → logicalLen f ≤ (bytes q).length →
    (bytes p).take (logicalLen f) = (bytes q).take (logicalLen f) → (parses p f ↔ parses q f)

namespace Exact

variable {bytes : Packet → List Byte} {logicalLen : Frame → Nat}
  {parses : Packet → Frame → Prop} {builds : Frame → Packet → Prop}

theorem parses_congr (h : Exact bytes logicalLen parses builds) {f : Frame} {p q : Packet}
    (hp : parses p f) (hle : logicalLen f ≤ (bytes q).length)
    (heq : (bytes p).take (logicalLen f) = (bytes q).take (logicalLen f)) : parses q f := by
  obtain ⟨r, hr, _, hpr⟩ := (h.parses_iff p f).mp hp
  exact (h.parses_iff q f).mpr ⟨r, hr, hle, heq.symm.trans hpr⟩

theorem parses_of_builds (h : Exact bytes logicalLen parses builds) {f : Frame} {p : Packet}
    (hb : builds f p) : parses p f :=
  (h.parses_iff p f).mpr ⟨p, hb, h.builds_length hb, rfl⟩

theorem roundTrips (h : Exact bytes logicalLen parses builds) :
    RoundTrips bytes logicalLen parses builds where
  parses_of_builds := h.parses_of_builds
  rebuilds {f p} hp := by
    obtain ⟨q, hq, _, heq⟩ := (h.parses_iff p f).mp hp
    exact ⟨q, hq, heq.symm⟩
  not_short {f p} hshort hp := by
    obtain ⟨_, _, hle, _⟩ := (h.parses_iff p f).mp hp
    omega
  padding hp hq heq :=
    ⟨fun h' => h.parses_congr h' hq heq, fun h' => h.parses_congr h' hp heq.symm⟩

end Exact

/-! ### Telling packets apart -/

section

variable {Tag : Type*} {tag : Tag} {takers : List Bool} {tags : List Tag}

/-- A parser takes a packet only if the packet has the tag that the parser wants. -/
def Wants (tag : Tag) : List Bool → List Tag → Prop :=
  List.Forall₂ fun taken wanted => taken = true → tag = wanted

theorem Wants.not_mem (h : Wants tag takers tags) (hother : tag ∉ tags) : true ∉ takers := by
  induction h with
  | nil => exact List.not_mem_nil
  | cons htaken _ ih =>
    obtain ⟨hne, hrest⟩ := List.ne_and_not_mem_of_not_mem_cons hother
    rw [List.mem_cons, not_or]
    exact ⟨fun heq => hne (htaken heq.symm), ih hrest⟩

/-- Of parsers that want different tags, at most one takes a packet. -/
theorem Wants.count_le_one (h : Wants tag takers tags) (hdistinct : tags.Nodup) :
    takers.count true ≤ 1 := by
  induction h with
  | nil => exact Nat.zero_le 1
  | @cons taken wanted takers tags htaken hrest ih =>
    obtain ⟨hnew, hothers⟩ := List.nodup_cons.mp hdistinct
    cases taken with
    | false =>
      rw [List.count_cons_of_ne Bool.false_ne_true]
      exact ih hothers
    | true =>
      obtain rfl := htaken rfl
      have hnone : takers.count true = 0 := List.count_eq_zero.mpr (Wants.not_mem hrest hnew)
      rw [List.count_cons_self]
      omega

end

end WireFormat

import FlrcTnc.Kiss.Stream

/-! Synchronisation of the decoder with a stream of encoded frames.  The phase of the delimiters
never recovers by itself: a closing `FEND` does not open the next frame and an empty frame returns
to `IDLE`, so a decoder that is idle before the stream emits all of it, and one that is inside a
frame takes every opener for a closer and every closer for an opener. -/

namespace FlrcTnc.Kiss

theorem feed_append (kiss : Decoder) (u v : List UInt8) :
    feed kiss (u ++ v) = ((feed (feed kiss u).1 v).1,
      (feed kiss u).2 ++ (feed (feed kiss u).1 v).2) :=
  Transducer.run_append _ kiss u v

theorem feed_singleton (kiss : Decoder) (byte : UInt8) :
    feed kiss [byte] = ((decodeFrameEx kiss byte).1, (decodeFrameEx kiss byte).2.emitted) :=
  Transducer.run_singleton _ kiss byte

/-- The documented buffer size is enough for every frame. -/
theorem room_of_documented (frame : KissFrame) {outBufLen : Nat}
    (hbuf : 2 * kissFramePayloadMaxLen + 3 ≤ outBufLen) :
    (frame.data.flatMap escapeByte).length + 3 ≤ outBufLen := by
  have hlen := length_escaped_le frame.data
  have hfits := frame.fits
  omega

/-- The commands of the host protocol. -/
def KissFrame.Known (frame : KissFrame) : Prop :=
  frame.command = kissDataFrame ∨ frame.command = kissControlFrame

theorem KissFrame.Known.command_ne {frame : KissFrame} (h : frame.Known) :
    frame.command ≠ kissFend ∧ frame.command ≠ kissFesc := by
  rcases h with h | h <;> rw [h] <;> decide

/-- An idle decoder reads one encoded frame, whatever it read before. -/
theorem feed_encodeFrame_idle {kiss : Decoder} (hidle : kiss.state = .idle) {frame : KissFrame}
    (hknown : frame.Known) {outBufLen : Nat} (hbuf : 2 * kissFramePayloadMaxLen + 3 ≤ outBufLen) :
    feed kiss (encodeFrame frame.command frame.data outBufLen) = ({}, [frame]) := by
  rw [feed_eq, decodeAll_encodeFrame hidle hknown.command_ne.1 hknown.command_ne.2
    (room_of_documented frame hbuf), List.flatMap_append, emitted_silence]
  rfl

/-! ### Out of phase -/

/-- An idle decoder skips the bytes up to the next `FEND`. -/
theorem feed_idle {word : List UInt8} (h : ∀ c ∈ word, c ≠ kissFend) : feed {} word = ({}, []) :=
  Transducer.run_silent _ fun c hc => by
    have hne := h c hc
    simp only [decodeFrameEx, if_neg hne]
    rfl

/-- A `FEND` ends whatever a decoder that is not idle has read. -/
theorem feed_fend {kiss : Decoder} (h : kiss.state ≠ .idle) : (feed kiss [kissFend]).1 = {} := by
  obtain ⟨state, buf, overflow, fits⟩ := kiss
  rw [feed_singleton]
  cases state with
  | idle => exact absurd rfl h
  | inFrame =>
    cases buf with
    | nil => rfl
    | cons command data => cases overflow <;> rfl
  | escape => rfl

/-- The opener closes, the body is skipped as noise and the closer opens an empty frame. -/
theorem feed_encodeFrame_busy {kiss : Decoder} (hbusy : kiss.state ≠ .idle) {frame : KissFrame}
    (hknown : frame.Known) {outBufLen : Nat} (hbuf : 2 * kissFramePayloadMaxLen + 3 ≤ outBufLen) :
    feed kiss (encodeFrame frame.command frame.data outBufLen) =
      (inFrameWith [] nil_fits, (feed kiss [kissFend]).2) := by
  have hbody := feed_idle fun c (hc : c ∈ _) => body_ne_fend frame.data hknown.command_ne.1 hc
  have hclose : feed {} [kissFend] = (inFrameWith [] nil_fits, []) := rfl
  rw [encodeFrame_eq (room_of_documented frame hbuf), feed_append, feed_append, feed_fend hbusy,
    hbody, hclose]
  simp

def encodeFrames (frames : List KissFrame) (outBufLen : Nat) : List UInt8 :=
  frames.flatMap fun frame => encodeFrame frame.command frame.data outBufLen

theorem feed_encodeFrames_idle {frames : List KissFrame} (hknown : ∀ f ∈ frames, f.Known)
    {outBufLen : Nat} (hbuf : 2 * kissFramePayloadMaxLen + 3 ≤ outBufLen) {kiss : Decoder}
    (hidle : kiss.state = .idle) :
    (feed kiss (encodeFrames frames outBufLen)).1.state = .idle ∧
      (feed kiss (encodeFrames frames outBufLen)).2 = frames := by
  have hblock (k : Decoder) (hk : k.state = .idle) (f : KissFrame) (hf : f ∈ frames) :
      (feed k (encodeFrame f.command f.data outBufLen)).1.state = .idle ∧
        (feed k (encodeFrame f.command f.data outBufLen)).2 = [f] := by
    rw [feed_encodeFrame_idle hk (hknown f hf) hbuf]
    exact ⟨rfl, rfl⟩
  have hrun := Transducer.run_blocks _ (fun k : Decoder => k.state = .idle) _ (fun f => [f]) frames
    hblock hidle
  rw [List.flatMap_singleton'] at hrun
  exact hrun

theorem feed_encodeFrames_busy {frame : KissFrame} {frames : List KissFrame}
    (hknown : ∀ f ∈ frame :: frames, f.Known) {outBufLen : Nat}
    (hbuf : 2 * kissFramePayloadMaxLen + 3 ≤ outBufLen) {kiss : Decoder}
    (hbusy : kiss.state ≠ .idle) :
    (feed kiss (encodeFrames (frame :: frames) outBufLen)).1.state ≠ .idle ∧
      (feed kiss (encodeFrames (frame :: frames) outBufLen)).2 = (feed kiss [kissFend]).2 := by
  have hblock (k : Decoder) (hk : k = inFrameWith [] nil_fits) (f : KissFrame) (hf : f ∈ frames) :
      (feed k (encodeFrame f.command f.data outBufLen)).1 = inFrameWith [] nil_fits ∧
        (feed k (encodeFrame f.command f.data outBufLen)).2 = [] := by
    rw [feed_encodeFrame_busy (by rw [hk]; decide) (hknown f (List.mem_cons_of_mem _ hf)) hbuf, hk]
    exact ⟨rfl, rfl⟩
  obtain ⟨hend, hout⟩ := Transducer.run_blocks _ (fun k => k = inFrameWith [] nil_fits) _
    (fun _ => []) frames hblock rfl
  have hsplit : feed kiss (encodeFrames (frame :: frames) outBufLen) =
      ((feed (inFrameWith [] nil_fits) (encodeFrames frames outBufLen)).1,
        (feed kiss [kissFend]).2 ++
          (feed (inFrameWith [] nil_fits) (encodeFrames frames outBufLen)).2) := by
    rw [encodeFrames, List.flatMap_cons, feed_append,
      feed_encodeFrame_busy hbusy (hknown frame (List.mem_cons_self ..)) hbuf]
    rfl
  rw [hsplit]
  constructor
  · change (feed _ _).1 = _ at hend
    rw [encodeFrames, hend]
    decide
  · change (feed _ _).2 = _ at hout
    rw [encodeFrames, hout]
    simp

/-- What the decoder makes of a stream of encoded frames after any bytes: all of it if these left
it idle; otherwise its first `FEND` ends the frame that was left open, nothing else is emitted and
the decoder is out of phase at the end as well. -/
theorem feed_encodeFrames (bytes : List UInt8) (frames : List KissFrame) (outBufLen : Nat)
    (hknown : ∀ f ∈ frames, f.Known) (hbuf : 2 * kissFramePayloadMaxLen + 3 ≤ outBufLen) :
    ((feed {} bytes).1.state = .idle →
      (feed (feed {} bytes).1 (encodeFrames frames outBufLen)).1.state = .idle ∧
        (feed (feed {} bytes).1 (encodeFrames frames outBufLen)).2 = frames) ∧
    ((feed {} bytes).1.state ≠ .idle → frames ≠ [] →
      (feed (feed {} bytes).1 (encodeFrames frames outBufLen)).1.state ≠ .idle ∧
        (feed (feed {} bytes).1 (encodeFrames frames outBufLen)).2 =
          (feed (feed {} bytes).1 [kissFend]).2) := by
  refine ⟨feed_encodeFrames_idle hknown hbuf, fun hbusy hne => ?_⟩
  obtain ⟨frame, rest, rfl⟩ := List.exists_cons_of_ne_nil hne
  exact feed_encodeFrames_busy hknown hbuf hbusy

/-- A host that was cut short inside a frame: its half frame comes out, the three behind do not. -/
theorem feed_encodeFrames_cut_short :
    (feed (feed {} [kissFend, kissDataFrame, 0x41]).1
        (encodeFrames (List.replicate 3 ⟨kissDataFrame, [1, 2], by decide⟩)
          (2 * kissFramePayloadMaxLen + 3))).2 =
      [⟨kissDataFrame, [0x41], by decide⟩] :=
  ((feed_encodeFrames [kissFend, kissDataFrame, 0x41] _ _ (by simp [KissFrame.Known]) le_rfl).2
    (by decide) (by simp)).2.trans (by decide)

/-- The decoder loses at most the first two frames of a stream, whatever came before. -/
def SelfSynchronises : Prop :=
  ∀ (bytes : List UInt8) (frames : List KissFrame) (outBufLen : Nat), (∀ f ∈ frames, f.Known) →
    2 * kissFramePayloadMaxLen + 3 ≤ outBufLen →
      (frames.drop 2).Sublist (feed (feed {} bytes).1 (encodeFrames frames outBufLen)).2

/-- Three empty data frames after a lone `FEND`: none is emitted. -/
theorem not_selfSynchronises : ¬ SelfSynchronises := by
  intro h
  have hlost := h [kissFend] (List.replicate 3 ⟨kissDataFrame, [], by simp⟩)
    (2 * kissFramePayloadMaxLen + 3) (by simp [KissFrame.Known]) le_rfl
  exact absurd hlost (by decide)

end FlrcTnc.Kiss

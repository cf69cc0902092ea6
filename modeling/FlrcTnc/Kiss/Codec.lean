import FlrcTnc.Lib.Transducer
import Mathlib.Data.UInt

/-! The KISS codec of the firmware: `kiss/Kiss.h` and `kiss/Kiss.cpp`. -/

namespace FlrcTnc.Kiss

def kissFend : UInt8 := 0xC0
def kissFesc : UInt8 := 0xDB
def kissTfend : UInt8 := 0xDC
def kissTfesc : UInt8 := 0xDD

def kissDataFrame : UInt8 := 0x00
def kissControlFrame : UInt8 := 0x0F

def tncPayloadMaxLen : Nat := 1280
/-- `TNC_PAYLOAD_MAX_LEN + SERIAL_INTEGRITY_HDR_LEN`. -/
def kissFramePayloadMaxLen : Nat := 1288

structure KissFrame where
  command : UInt8
  data : List UInt8
  fits : data.length ≤ kissFramePayloadMaxLen
  deriving DecidableEq, Repr

/-- The results of `decodeFrameEx`; `frame` carries what the call writes to its out parameter. -/
inductive KissDecodeResult
  | none
  | frame (frame : KissFrame)
  | oversizeDrop
  | invalidEscapeDrop
  deriving DecidableEq, Repr

inductive State
  | idle | inFrame | escape
  deriving DecidableEq, Repr

theorem nil_fits : ([] : List UInt8).length ≤ kissFramePayloadMaxLen + 1 := Nat.zero_le _

/-- The state of a `Kiss` object; `buf` is `_buf[0 .. _len)`. -/
structure Decoder where
  state : State := .idle
  buf : List UInt8 := []
  overflow : Bool := false
  fits : buf.length ≤ kissFramePayloadMaxLen + 1 := by exact nil_fits
  deriving DecidableEq, Repr

/-! ### Encoder -/

def escapeByte (b : UInt8) : List UInt8 :=
  if b = kissFend then [kissFesc, kissTfend]
  else if b = kissFesc then [kissFesc, kissTfesc]
  else [b]

/-- The first loop of `encodeFrame`: the length of the frame on the wire. -/
def requiredLen (payload : List UInt8) : Nat :=
  payload.foldl (fun len b => len + if b = kissFend ∨ b = kissFesc then 2 else 1) 3

/-- The bytes written to `outBuf`; none if it is too small. -/
def encodeFrame (command : UInt8) (payload : List UInt8) (outBufLen : Nat) : List UInt8 :=
  if requiredLen payload > outBufLen then []
  else [kissFend, command] ++ payload.flatMap escapeByte ++ [kissFend]

def encode (payload : List UInt8) (outBufLen : Nat) : List UInt8 :=
  encodeFrame kissDataFrame payload outBufLen

/-! ### Decoder -/

/-- A byte of the frame, kept while the buffer has room for it. -/
def Decoder.store (kiss : Decoder) (byte : UInt8) : Decoder :=
  if h : kiss.buf.length < kissFramePayloadMaxLen + 1 then
    { kiss with
      state := .inFrame
      buf := kiss.buf ++ [byte]
      fits := by rw [List.length_append]; exact h }
  else { kiss with state := .inFrame, overflow := true }

def decodeFrameEx (kiss : Decoder) (byte : UInt8) : Decoder × KissDecodeResult :=
  match kiss.state with
  | .idle =>
    if byte = kissFend then ({ state := .inFrame }, .none) else (kiss, .none)
  | .inFrame =>
    if byte = kissFend then
      match kiss with
      | { buf := [], .. } => ({ kiss with overflow := false, state := .idle }, .none)
      | { buf := command :: data, overflow, fits, .. } =>
        if overflow then ({}, .oversizeDrop)
        else ({}, .frame { command, data, fits := Nat.le_of_succ_le_succ fits })
    else if byte = kissFesc then ({ kiss with state := .escape }, .none)
    else (kiss.store byte, .none)
  | .escape =>
    if byte = kissTfend ∨ byte = kissTfesc then
      (kiss.store (if byte = kissTfend then kissFend else kissFesc), .none)
    else ({}, .invalidEscapeDrop)

/-- The payload of a data frame that fits a `PayloadFrame`. -/
def decode (kiss : Decoder) (byte : UInt8) : Decoder × Option (List UInt8) :=
  match decodeFrameEx kiss byte with
  | (kiss, .frame frame) =>
    if frame.command ≠ kissDataFrame then (kiss, none)
    else if frame.data.length > tncPayloadMaxLen then (kiss, none)
    else (kiss, some frame.data)
  | (kiss, _) => (kiss, none)

def reset (_ : Decoder) : Decoder := {}

/-- The frames that one result hands to the caller. -/
def KissDecodeResult.emitted : KissDecodeResult → List KissFrame
  | .frame f => [f]
  | _ => []

/-- `decodeFrameEx` on one byte after the other: the decoder at the end and the frames emitted. -/
def feed : Decoder → List UInt8 → Decoder × List KissFrame :=
  Transducer.run fun kiss byte => ((decodeFrameEx kiss byte).1, (decodeFrameEx kiss byte).2.emitted)

end FlrcTnc.Kiss

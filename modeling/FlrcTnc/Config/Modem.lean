import FlrcTnc.Lib.CText
import FlrcTnc.Serial.Tasks

/-! `ModemConfig.cpp`: the configuration of the modem, what is allowed in it, and its place in
flash. -/

namespace FlrcTnc.Config

open CText
open Serial (TransportMode)

def modemConfigMagic : UInt32 := 0x464c5243

/-- What the code has from elsewhere: floats, with `strtof`, which gives the number and the text at
`end`, and the two tests of `modemValidateConfig`; and the constants of RadioLib. -/
structure Externals (F : Type) where
  strtof : List UInt8 → F × List UInt8
  /-- `¬ (freqMHz < 2400.0f || freqMHz > 2500.0f)`. -/
  freqInRange : F → Bool
  isAllowedBitrate : F → Bool
  radiolibShaping05 : UInt8
  radiolibShaping10 : UInt8

inductive ModemConfigSource
  | defaults | nvs | resetHeld
  deriving DecidableEq, Repr

structure ModemConfig (F : Type) where
  magic : UInt32 := modemConfigMagic
  freqMHz : F
  bitrateKbps : F
  codingRate : UInt8
  txPowerDbm : Int8
  preambleBits : UInt8
  shaping : UInt8
  syncWord : Fin 4 → UInt8
  lbtRssiThresholdDbm : Int16
  transportMode : TransportMode := .genericFragmented

variable {F : Type} (x : Externals F)

def isAllowedPreamble (bits : UInt8) : Bool :=
  bits = 4 ∨ bits = 8 ∨ bits = 12 ∨ bits = 16 ∨ bits = 20 ∨ bits = 24 ∨ bits = 28 ∨ bits = 32

/-- `modemValidateConfig` with the message of the error. -/
def modemValidateConfig (cfg : ModemConfig F) : Except String Unit :=
  if ¬ x.freqInRange cfg.freqMHz then .error "freq must be 2400..2500 MHz"
  else if ¬ x.isAllowedBitrate cfg.bitrateKbps then
    .error "bitrate must be 260,325,520,650,1040,1300"
  else if ¬ (cfg.codingRate = 2 ∨ cfg.codingRate = 3 ∨ cfg.codingRate = 4) then
    .error "cr must be 2,3,4"
  else if cfg.txPowerDbm < -18 ∨ cfg.txPowerDbm > 13 then .error "power must be -18..13 dBm"
  else if ¬ isAllowedPreamble cfg.preambleBits then
    .error "preamble must be 4,8,12,16,20,24,28,32"
  else if ¬ (cfg.shaping = x.radiolibShaping05 ∨ cfg.shaping = x.radiolibShaping10) then
    .error "bt must be 0 or 1"
  else if cfg.transportMode ≠ .genericFragmented ∧ cfg.transportMode ≠ .nativePacket then
    .error "transport must be generic or native"
  else .ok ()

/-- `sizeof(ModemConfig)`. -/
def modemConfigSize : Nat := 24

/-- What flash does: whether `Preferences::begin` succeeds, and how much `putBytes` writes. -/
structure FlashOutcome where
  begins : Bool
  written : Nat

def modemSaveConfig (cfg : ModemConfig F) (flash : FlashOutcome) : Bool :=
  match modemValidateConfig x cfg with
  | .error _ => false
  | .ok () => if ¬ flash.begins then false else flash.written = modemConfigSize

/-! ### Numbers in text -/

/-- The bits of a `long` on the ESP32. -/
def longBits : Nat := 32

/-- `parseIntValue` of `main.cpp`. -/
def parseIntValue (value : List UInt8) : Option Int :=
  let (parsed, rest) := strtol longBits 10 value
  if rest ≠ [] then none else some parsed

/-- `parseFloatValue` of `main.cpp`. -/
def parseFloatValue (value : List UInt8) : Option F :=
  let (parsed, rest) := x.strtof value
  if rest ≠ [] then none else some parsed

/-- Byte `i` of the sync word in two of its digits. -/
def parseSyncByte (text : List UInt8) (i : Fin 4) : Option UInt8 :=
  let (value, rest) := strtol longBits 16 ((text.drop (i * 2)).take 2)
  if rest ≠ [] ∨ value < 0 ∨ value > 255 then none else some (UInt8.ofInt value)

/-- `modemParseSyncWord`; what it leaves in `out` when it fails is not looked at. -/
def modemParseSyncWord (text : List UInt8) : Option (Fin 4 → UInt8) :=
  if text.length ≠ 8 then none
  else if (List.finRange 4).any fun i => (parseSyncByte text i).isNone then none
  else some fun i => (parseSyncByte text i).getD 0

end FlrcTnc.Config

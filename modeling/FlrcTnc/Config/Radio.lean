import FlrcTnc.Config.Set

/-! `radio/Radio.cpp`, as far as the configuration goes: the calls of RadioLib that put it into the
chip, `applyConfig` and `scanBand`.  A call takes full effect or fails and changes nothing; the
mutex, `_txActive` and the waits are left out. -/

namespace FlrcTnc.Config

/-- What the radio and its commands have from elsewhere: floats, the text of one with `%.0f`, and
what `beginFLRC` makes of the sync word. -/
structure RadioExternals (F : Type) extends Externals F where
  /-- A literal without a fraction, such as `2400.0f`. -/
  whole : Nat → F
  /-- `0.01f`. -/
  hundredth : F
  add : F → F → F
  mul : F → F → F
  lt : F → F → Bool
  le : F → F → Bool
  format : F → String
  flrcSyncWord : (Fin 4 → UInt8) → Fin 4 → UInt8

/-! ### The chip -/

/-- The parameters of `beginFLRC`. -/
structure Flrc (F : Type) where
  freqMHz : F
  bitrateKbps : F
  codingRate : UInt8
  txPowerDbm : Int8
  preambleBits : UInt8
  shaping : UInt8

inductive RadioCall
  | beginFLRC | setSyncWord | setPreambleLength | startReceive
  deriving DecidableEq, Repr

/-- The chip behind RadioLib: the parameters in force, whether it receives, and the calls that the
command under way has made, with their answers. -/
structure Chip (F : Type) where
  flrc : Flrc F
  syncWord : Fin 4 → UInt8
  receiving : Bool
  calls : List (RadioCall × Int16) := []

variable {F : Type} (x : RadioExternals F)

def ModemConfig.flrc (config : ModemConfig F) : Flrc F where
  freqMHz := config.freqMHz
  bitrateKbps := config.bitrateKbps
  codingRate := config.codingRate
  txPowerDbm := config.txPowerDbm
  preambleBits := config.preambleBits
  shaping := config.shaping

namespace Chip

/-- A call that comes to `effect` if it succeeds. -/
def call (chip : Chip F) (name : RadioCall) (answer : Int16) (effect : Chip F) : Chip F :=
  { (if answer = radiolibErrNone then effect else chip) with
    calls := chip.calls ++ [(name, answer)] }

/-- `beginFLRC` leaves the radio in standby. -/
def beginFLRC (chip : Chip F) (flrc : Flrc F) (answer : Int16) : Chip F :=
  chip.call .beginFLRC answer
    { chip with flrc, syncWord := x.flrcSyncWord chip.syncWord, receiving := false }

def setSyncWord (chip : Chip F) (syncWord : Fin 4 → UInt8) (answer : Int16) : Chip F :=
  chip.call .setSyncWord answer { chip with syncWord }

def setPreambleLength (chip : Chip F) (preambleBits : UInt8) (answer : Int16) : Chip F :=
  chip.call .setPreambleLength answer { chip with flrc := { chip.flrc with preambleBits } }

def startReceive (chip : Chip F) (answer : Int16) : Chip F :=
  chip.call .startReceive answer { chip with receiving := true }

/-- A `beginFLRC` or a `setSyncWord` that fails. -/
def isSetupFailure (call : RadioCall × Int16) : Bool :=
  (call.1 = .beginFLRC ∨ call.1 = .setSyncWord) ∧ call.2 ≠ radiolibErrNone

def setupFailures (chip : Chip F) : Nat := chip.calls.countP isSetupFailure

end Chip

/-! ### The radio -/

/-- `Radio`, of which the model keeps the chip and `_config`. -/
structure Radio (F : Type) where
  chip : Chip F
  config : ModemConfig F

/-- The answers to the calls of `_applyConfigNoLock`; the second call may not be made. -/
structure ApplyAnswers where
  beginFLRC : Int16
  setSyncWord : Int16

/-- The answers to the calls of `_startReceiveNoLock`. -/
structure ReceiveAnswers where
  setPreambleLength : Int16
  startReceive : Int16

/-- The answers at one frequency of a scan. -/
structure ScanAnswers where
  apply : ApplyAnswers
  receive : ReceiveAnswers
  rssi : Int8

/-- The answers in a command: to its last setup and the start of reception behind it, and at each
frequency of a scan; and what flash does. -/
structure Answers where
  apply : ApplyAnswers
  receive : ReceiveAnswers
  scan : Nat → ScanAnswers
  flash : FlashOutcome

namespace Radio

def applyConfigNoLock (radio : Radio F) (config : ModemConfig F) (answers : ApplyAnswers) :
    Int16 × Radio F :=
  let chip := radio.chip.beginFLRC x config.flrc answers.beginFLRC
  if answers.beginFLRC ≠ radiolibErrNone then (answers.beginFLRC, { radio with chip })
  else
    let chip := chip.setSyncWord config.syncWord answers.setSyncWord
    if answers.setSyncWord ≠ radiolibErrNone then (answers.setSyncWord, { radio with chip })
    else (radiolibErrNone, { chip, config })

/-- `_startReceiveNoLock(true)`; the answers are not looked at. -/
def startReceiveNoLock (radio : Radio F) (answers : ReceiveAnswers) : Radio F :=
  let chip := radio.chip.setPreambleLength radio.config.preambleBits answers.setPreambleLength
  { radio with chip := chip.startReceive answers.startReceive }

def applyConfig (radio : Radio F) (config : ModemConfig F) (answers : Answers) :
    Int16 × Radio F :=
  let (state, radio) := radio.applyConfigNoLock x config answers.apply
  (state, if state = radiolibErrNone then radio.startReceiveNoLock answers.receive else radio)

/-- The frequencies that the loop of `scanBand` is for. -/
def scanFreqs (stopMHz stepMHz : F) : Nat → F → List F
  | 0, _ => []
  | maxN + 1, f =>
    if x.le f (x.add stopMHz x.hundredth) then f :: scanFreqs stopMHz stepMHz maxN (x.add f stepMHz)
    else []

/-- The body of the loop from its `n`-th frequency on, with the samples. -/
def scanLoop (savedConfig : ModemConfig F) (answers : Nat → ScanAnswers) :
    Nat → List F → Radio F → Radio F × List Int8
  | _, [], radio => (radio, [])
  | n, f :: freqs, radio =>
    let (state, radio) := radio.applyConfigNoLock x { savedConfig with freqMHz := f }
      (answers n).apply
    if state ≠ radiolibErrNone then (radio, [])
    else
      let (radio, rssi) := scanLoop savedConfig answers (n + 1) freqs
        (radio.startReceiveNoLock (answers n).receive)
      (radio, (answers n).rssi :: rssi)

/-- `scanBand`, which restores what was in `_config`. -/
def scanBand (radio : Radio F) (startMHz stopMHz stepMHz : F) (maxN : Nat) (answers : Answers) :
    Radio F × List Int8 :=
  let savedConfig := radio.config
  let (radio, rssi) := scanLoop x savedConfig answers.scan 0
    (scanFreqs x stopMHz stepMHz maxN startMHz) radio
  let (_, radio) := radio.applyConfigNoLock x savedConfig answers.apply
  (radio.startReceiveNoLock answers.receive, rssi)

/-- `config` is in the chip and in `_config`. -/
structure InForce (radio : Radio F) (config : ModemConfig F) (receiving : Bool) : Prop where
  held : radio.config = config
  flrc : radio.chip.flrc = config.flrc
  syncWord : radio.chip.syncWord = config.syncWord
  receiving : radio.chip.receiving = receiving

end Radio

/-- Both calls of a setup succeed. -/
def ApplyAnswers.Succeed (answers : ApplyAnswers) : Prop :=
  answers.beginFLRC = radiolibErrNone ∧ answers.setSyncWord = radiolibErrNone

instance (answers : ApplyAnswers) : Decidable answers.Succeed := inferInstanceAs (Decidable (_ ∧ _))

variable {x}

/-! ### Calls -/

namespace Chip

variable {chip effect : Chip F} {name : RadioCall} {answer : Int16}

theorem call_succeeded (h : answer = radiolibErrNone) :
    chip.call name answer effect = { effect with calls := chip.calls ++ [(name, answer)] } := by
  rw [call, if_pos h]

theorem call_failed (h : answer ≠ radiolibErrNone) :
    chip.call name answer effect = { chip with calls := chip.calls ++ [(name, answer)] } := by
  rw [call, if_neg h]

theorem setupFailures_call (chip effect : Chip F) (name : RadioCall) (answer : Int16) :
    (chip.call name answer effect).setupFailures =
      chip.setupFailures + (isSetupFailure (name, answer)).toNat := by
  rw [setupFailures, call, List.countP_append, List.countP_singleton, setupFailures]
  cases isSetupFailure (name, answer) <;> rfl

end Chip

namespace Radio

variable {radio : Radio F} {config old : ModemConfig F} {receiving : Bool}

/-! ### A setup -/

theorem applyConfigNoLock_applied (radio : Radio F) (config : ModemConfig F)
    {answers : ApplyAnswers} (h : answers.Succeed) :
    (radio.applyConfigNoLock x config answers).1 = radiolibErrNone ∧
      (radio.applyConfigNoLock x config answers).2.InForce config false ∧
      (radio.applyConfigNoLock x config answers).2.chip.setupFailures =
        radio.chip.setupFailures := by
  obtain ⟨hbegin, hsync⟩ := h
  rw [applyConfigNoLock, if_neg (not_not.mpr hbegin), if_neg (not_not.mpr hsync)]
  refine ⟨rfl, ?_, ?_⟩
  · rw [Chip.setSyncWord, Chip.call_succeeded hsync, Chip.beginFLRC, Chip.call_succeeded hbegin]
    exact ⟨rfl, rfl, rfl, rfl⟩
  · rw [Chip.setSyncWord, Chip.setupFailures_call, Chip.beginFLRC, Chip.setupFailures_call, hbegin,
      hsync]
    rfl

/-- A setup that fails has one failing call. -/
theorem applyConfigNoLock_failed (radio : Radio F) (config : ModemConfig F)
    {answers : ApplyAnswers} (h : ¬ answers.Succeed) :
    (radio.applyConfigNoLock x config answers).1 ≠ radiolibErrNone ∧
      (radio.applyConfigNoLock x config answers).2.chip.setupFailures =
        radio.chip.setupFailures + 1 := by
  by_cases hbegin : answers.beginFLRC = radiolibErrNone
  · have hsync : answers.setSyncWord ≠ radiolibErrNone := fun hsync => h ⟨hbegin, hsync⟩
    rw [applyConfigNoLock, if_neg (not_not.mpr hbegin), if_pos hsync]
    refine ⟨hsync, ?_⟩
    rw [Chip.setSyncWord, Chip.setupFailures_call, Chip.beginFLRC, Chip.setupFailures_call, hbegin]
    simp [Chip.isSetupFailure, hsync]
  · rw [applyConfigNoLock, if_pos hbegin]
    refine ⟨hbegin, ?_⟩
    rw [Chip.beginFLRC, Chip.setupFailures_call]
    simp [Chip.isSetupFailure, hbegin]

/-- With `beginFLRC` refused, everything is as it was. -/
theorem InForce.refused (h : radio.InForce old receiving) (config : ModemConfig F)
    {answers : ApplyAnswers} (hbegin : answers.beginFLRC ≠ radiolibErrNone) :
    (radio.applyConfigNoLock x config answers).2.InForce old receiving := by
  rw [applyConfigNoLock, if_pos hbegin, Chip.beginFLRC, Chip.call_failed hbegin]
  exact ⟨h.held, h.flrc, h.syncWord, h.receiving⟩

/-- With `setSyncWord` refused, the chip is in standby with the parameters of `beginFLRC`, of which
`_config` knows nothing. -/
theorem applyConfigNoLock_torn (radio : Radio F) (config : ModemConfig F) {answers : ApplyAnswers}
    (hbegin : answers.beginFLRC = radiolibErrNone) (hsync : answers.setSyncWord ≠ radiolibErrNone) :
    (radio.applyConfigNoLock x config answers).2.config = radio.config ∧
      (radio.applyConfigNoLock x config answers).2.chip.flrc = config.flrc ∧
      (radio.applyConfigNoLock x config answers).2.chip.syncWord =
        x.flrcSyncWord radio.chip.syncWord ∧
      (radio.applyConfigNoLock x config answers).2.chip.receiving = false := by
  rw [applyConfigNoLock, if_neg (not_not.mpr hbegin), if_pos hsync, Chip.setSyncWord,
    Chip.call_failed hsync, Chip.beginFLRC, Chip.call_succeeded hbegin]
  exact ⟨rfl, rfl, rfl, rfl⟩

/-! ### Reception -/

theorem setupFailures_startReceiveNoLock (radio : Radio F) (answers : ReceiveAnswers) :
    (radio.startReceiveNoLock answers).chip.setupFailures = radio.chip.setupFailures := by
  rw [startReceiveNoLock, Chip.startReceive, Chip.setupFailures_call, Chip.setPreambleLength,
    Chip.setupFailures_call]
  simp [Chip.isSetupFailure]

/-- Where the preamble is that of `_config`, only reception changes. -/
theorem startReceiveNoLock_spec (radio : Radio F) (answers : ReceiveAnswers)
    (hpreamble : radio.chip.flrc.preambleBits = radio.config.preambleBits) :
    (radio.startReceiveNoLock answers).config = radio.config ∧
      (radio.startReceiveNoLock answers).chip.flrc = radio.chip.flrc ∧
      (radio.startReceiveNoLock answers).chip.syncWord = radio.chip.syncWord ∧
      (radio.startReceiveNoLock answers).chip.receiving =
        (radio.chip.receiving || decide (answers.startReceive = radiolibErrNone)) := by
  have hset : (radio.chip.setPreambleLength radio.config.preambleBits
      answers.setPreambleLength).flrc = radio.chip.flrc ∧
      (radio.chip.setPreambleLength radio.config.preambleBits
        answers.setPreambleLength).syncWord = radio.chip.syncWord ∧
      (radio.chip.setPreambleLength radio.config.preambleBits
        answers.setPreambleLength).receiving = radio.chip.receiving := by
    rw [← hpreamble, Chip.setPreambleLength, Chip.call]
    split <;> exact ⟨rfl, rfl, rfl⟩
  obtain ⟨hflrc, hsync, hreceiving⟩ := hset
  rw [startReceiveNoLock, Chip.startReceive, Chip.call]
  split
  · next hstart => exact ⟨rfl, hflrc, hsync, by simp [hstart]⟩
  · next hstart => exact ⟨rfl, hflrc, hsync, by simp [hstart, hreceiving]⟩

theorem InForce.startReceive (h : radio.InForce config receiving) (answers : ReceiveAnswers) :
    (radio.startReceiveNoLock answers).InForce config
      (receiving || decide (answers.startReceive = radiolibErrNone)) := by
  have hpreamble : radio.chip.flrc.preambleBits = radio.config.preambleBits := by
    rw [h.flrc, h.held]
    rfl
  obtain ⟨hconfig, hflrc, hsync, hreceiving⟩ := startReceiveNoLock_spec radio answers hpreamble
  refine ⟨hconfig.trans h.held, hflrc.trans h.flrc, hsync.trans h.syncWord, ?_⟩
  rw [hreceiving, h.receiving]

/-- Each configuration in force is one. -/
theorem InForce.unique (h : radio.InForce config receiving) {config' : ModemConfig F}
    {receiving' : Bool} : radio.InForce config' receiving' ↔
      config' = config ∧ receiving' = receiving := by
  constructor
  · intro h'
    exact ⟨h'.held.symm.trans h.held, h'.receiving.symm.trans h.receiving⟩
  · rintro ⟨rfl, rfl⟩
    exact h

/-! ### A scan -/

/-- The frequency of the last step of a scan, if there is one, is that of `config`. -/
def EndsAt (config : ModemConfig F) (freqs : List F) : Prop :=
  ∀ f ∈ freqs.getLast?, f = config.freqMHz

variable (x) in
/-- The end of a scan puts the chip back where it was.  The setup at the end succeeds and reception
starts; or what is left of the last step is no other than what was there before. -/
def Restores (config : ModemConfig F) (freqs : List F) (answers : Answers) : Prop :=
  if answers.apply.beginFLRC = radiolibErrNone then
    answers.receive.startReceive = radiolibErrNone ∧
      (answers.apply.setSyncWord = radiolibErrNone ∨
        EndsAt config freqs ∧ x.flrcSyncWord config.syncWord = config.syncWord)
  else
    EndsAt config freqs ∧
      (freqs = [] ∨ answers.receive.startReceive = radiolibErrNone ∨
        (answers.scan (freqs.length - 1)).receive.startReceive = radiolibErrNone)

/-- What is in force behind the steps of a scan. -/
def scanned (config held : ModemConfig F) (freqs : List F) : ModemConfig F :=
  freqs.getLast?.elim held fun f => { config with freqMHz := f }

/-- Whether the chip receives behind the steps of a scan, the first of which is the `n`-th. -/
def scannedReceiving (answers : Nat → ScanAnswers) (n : Nat) (receiving : Bool) :
    List F → Bool
  | [] => receiving
  | _ :: freqs => decide ((answers (n + freqs.length)).receive.startReceive = radiolibErrNone)

theorem scanned_cons (config held : ModemConfig F) (f : F) (freqs : List F) :
    scanned config held (f :: freqs) = scanned config { config with freqMHz := f } freqs := by
  rw [scanned, scanned, List.getLast?_cons]
  cases freqs.getLast? <;> rfl

theorem scannedReceiving_cons (answers : Nat → ScanAnswers) (n : Nat) (receiving : Bool) (f : F)
    (freqs : List F) : scannedReceiving answers n receiving (f :: freqs) =
      scannedReceiving answers (n + 1)
        (decide ((answers n).receive.startReceive = radiolibErrNone)) freqs := by
  cases freqs with
  | nil => rfl
  | cons f' freqs =>
    rw [scannedReceiving, scannedReceiving, List.length_cons, Nat.add_right_comm, Nat.add_assoc]

theorem scanned_eq (config : ModemConfig F) (freqs : List F) : scanned config config freqs =
    { config with freqMHz := freqs.getLast?.getD config.freqMHz } := by
  rw [scanned]
  cases freqs.getLast? <;> rfl

theorem scanned_eq_iff (config : ModemConfig F) (freqs : List F) :
    config = scanned config config freqs ↔ EndsAt config freqs := by
  rw [scanned, EndsAt]
  cases freqs.getLast? with
  | none => simp
  | some f =>
    constructor
    · rintro h f' hf'
      rw [← Option.mem_some.mp hf']
      exact (congrArg ModemConfig.freqMHz h).symm
    · intro h
      rw [Option.elim_some, h f rfl]

/-- The steps of a scan stop at a setup that fails, or all of them are made. -/
theorem scanLoop_spec (h : radio.InForce old receiving) (config : ModemConfig F)
    (answers : Nat → ScanAnswers) (n : Nat) (freqs : List F) :
    (scanLoop x config answers n freqs radio).1.chip.setupFailures =
        radio.chip.setupFailures + 1 ∨
      (scanLoop x config answers n freqs radio).1.chip.setupFailures =
          radio.chip.setupFailures ∧
        (scanLoop x config answers n freqs radio).1.InForce (scanned config old freqs)
          (scannedReceiving answers n receiving freqs) := by
  induction freqs generalizing n radio old receiving with
  | nil => exact .inr ⟨rfl, h⟩
  | cons f freqs ih =>
    rw [scanLoop]
    dsimp only
    by_cases happly : (answers n).apply.Succeed
    · obtain ⟨hstate, hforce, hfailures⟩ :=
        applyConfigNoLock_applied (x := x) radio { config with freqMHz := f } happly
      rw [if_neg (not_not.mpr hstate)]
      dsimp only
      have hnext := ih (hforce.startReceive (answers n).receive) (n + 1)
      rw [setupFailures_startReceiveNoLock, hfailures] at hnext
      rw [scanned_cons, scannedReceiving_cons]
      exact hnext
    · obtain ⟨hstate, hfailures⟩ :=
        applyConfigNoLock_failed (x := x) radio { config with freqMHz := f } happly
      rw [if_pos hstate]
      exact .inl hfailures

/-- With its `setSyncWord` refused, the setup at the end of a scan leaves `_config` as it is. -/
theorem InForce.restore_torn (h : radio.InForce old receiving) {answers : ApplyAnswers}
    (hbegin : answers.beginFLRC = radiolibErrNone) (hsync : answers.setSyncWord ≠ radiolibErrNone)
    (hpreamble : old.preambleBits = config.preambleBits) (receive : ReceiveAnswers) :
    ((radio.applyConfigNoLock x config answers).2.startReceiveNoLock receive).InForce config true ↔
      receive.startReceive = radiolibErrNone ∧ config = old ∧
        x.flrcSyncWord old.syncWord = config.syncWord := by
  obtain ⟨hheld, hflrc, hword, hstandby⟩ :=
    applyConfigNoLock_torn (x := x) radio config hbegin hsync
  rw [h.held] at hheld
  rw [h.syncWord] at hword
  generalize (radio.applyConfigNoLock x config answers).2 = torn at hheld hflrc hword hstandby ⊢
  obtain ⟨hheld', hflrc', hword', hreceiving⟩ :=
    startReceiveNoLock_spec torn receive (by rw [hflrc, hheld, hpreamble]; rfl)
  rw [hstandby, Bool.false_or] at hreceiving
  constructor
  · intro h'
    refine ⟨of_decide_eq_true (hreceiving.symm.trans h'.receiving), ?_, ?_⟩
    · exact h'.held.symm.trans (hheld'.trans hheld)
    · exact (hword'.trans hword).symm.trans h'.syncWord
  · rintro ⟨hstart, hends, hkept⟩
    exact ⟨hheld'.trans (hheld.trans hends.symm), hflrc'.trans hflrc,
      (hword'.trans hword).trans hkept, hreceiving.trans (decide_eq_true hstart)⟩

/-- With one setup that fails at most, a scan leaves the configuration in force just when its end
restores it. -/
theorem InForce.scanBand_iff (h : radio.InForce config true) (startMHz stopMHz stepMHz : F)
    (maxN : Nat) (answers : Answers)
    (hone : (radio.scanBand x startMHz stopMHz stepMHz maxN answers).1.chip.setupFailures ≤
      radio.chip.setupFailures + 1) :
    (radio.scanBand x startMHz stopMHz stepMHz maxN answers).1.InForce config true ↔
      Restores x config (scanFreqs x stopMHz stepMHz maxN startMHz) answers := by
  rw [scanBand, h.held] at hone ⊢
  dsimp only at hone ⊢
  generalize scanFreqs x stopMHz stepMHz maxN startMHz = freqs at hone ⊢
  have hloop := scanLoop_spec (x := x) h config answers.scan 0 freqs
  generalize (scanLoop x config answers.scan 0 freqs radio).1 = scan at hone hloop ⊢
  rw [setupFailures_startReceiveNoLock] at hone
  rw [Restores]
  by_cases happly : answers.apply.Succeed
  · obtain ⟨_, hforce, _⟩ := applyConfigNoLock_applied (x := x) scan config happly
    rw [(hforce.startReceive answers.receive).unique, if_pos happly.1]
    simp [happly.2, eq_comm]
  obtain ⟨_, hfailures⟩ := applyConfigNoLock_failed (x := x) scan config happly
  -- the one failure is that of the end, so that every step was made
  obtain ⟨_, hforce⟩ := hloop.resolve_left fun hloop => by omega
  by_cases hbegin : answers.apply.beginFLRC = radiolibErrNone
  · have hsync : answers.apply.setSyncWord ≠ radiolibErrNone := fun hsync =>
      happly ⟨hbegin, hsync⟩
    rw [hforce.restore_torn hbegin hsync (by rw [scanned_eq]) answers.receive, if_pos hbegin,
      or_iff_right hsync, ← scanned_eq_iff, scanned_eq]
  · rw [if_neg hbegin, ((hforce.refused config hbegin).startReceive answers.receive).unique,
      scanned_eq_iff, eq_comm, Bool.or_eq_true, decide_eq_true_eq]
    cases freqs with
    | nil => simp [scannedReceiving]
    | cons f freqs => simp [scannedReceiving, or_comm]

end Radio

end FlrcTnc.Config

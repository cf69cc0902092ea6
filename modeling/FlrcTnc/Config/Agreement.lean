import FlrcTnc.Config.AsTold
import FlrcTnc.Config.Radio
import FlrcTnc.Lib.Transducer

/-! The three copies of the configuration, in the chip, in `Radio` and in `main.cpp`, under the
commands that change it. -/

namespace FlrcTnc.Config

open CText

variable {F : Type} (x : RadioExternals F)

/-! ### The commands -/

/-- `modemDefaultConfig`, from `config.h`. -/
def modemDefaultConfig : ModemConfig F where
  freqMHz := x.whole 2480
  bitrateKbps := x.whole 325
  codingRate := 2
  txPowerDbm := 5
  preambleBits := 32
  shaping := x.radiolibShaping10
  syncWord := fun i => [0x7E, 0xC5, 0xA2, 0x3D].getD i 0
  lbtRssiThresholdDbm := 0

/-- The numbers of `SCAN`. -/
structure ScanArgs (F : Type) where
  startMHz : F
  stopMHz : F
  stepMHz : F
  dwellUs : Int

def scanValue (args : ScanArgs F) (key value : List UInt8) : Except String (ScanArgs F) :=
  if equalsIgnoreCase key (ascii "start") then do
    let startMHz ← readValue (parseFloatValue x.toExternals value) "ERR invalid start"
    return { args with startMHz }
  else if equalsIgnoreCase key (ascii "stop") then do
    let stopMHz ← readValue (parseFloatValue x.toExternals value) "ERR invalid stop"
    return { args with stopMHz }
  else if equalsIgnoreCase key (ascii "step") then do
    let stepMHz ← readValue (parseFloatValue x.toExternals value) "ERR invalid step"
    return { args with stepMHz }
  else if equalsIgnoreCase key (ascii "dwell") then do
    let dwellUs ← readValue (parseIntValue value) "ERR invalid dwell"
    return { args with dwellUs }
  else .error "ERR unknown scan key"

/-- One `key=value` of the loop of `SCAN`. -/
def scanToken (args : ScanArgs F) (token : List UInt8) : Except String (ScanArgs F) :=
  (keyValue token).elim (.error "ERR expected key=value") fun pair =>
    scanValue x args pair.1 pair.2

/-- The numbers that `SCAN` hands to the MAC task, or the reply to a line that has others. -/
def scanRequest (line : List (List UInt8)) : Except String (ScanArgs F) := do
  let args ← line.foldlM (scanToken x) ⟨x.whole 2400, x.whole 2500, x.whole 5, 1000⟩
  if x.lt args.startMHz (x.whole 2400) ∨ x.lt (x.whole 2500) args.stopMHz ∨
      x.lt args.stepMHz (x.whole 1) ∨ x.le args.stopMHz args.startMHz then
    .error "ERR scan range: start/stop must be 2400..2500, step >= 1"
  else return args

def scanMaxN : Nat := 50

/-- The best frequency with its sample, from the `i`-th sample on. -/
def scanBest (args : ScanArgs F) : Nat → F × Int8 → List Int8 → F × Int8
  | _, best, [] => best
  | i, best, rssi :: samples =>
    scanBest args (i + 1)
      (if rssi < best.2 then (x.add args.startMHz (x.mul (x.whole i) args.stepMHz), rssi)
      else best) samples

/-- `sizeof(response)` of `SCAN`. -/
def scanResponseSize : Nat := 255

/-- The samples behind the head of the response, from the `i`-th on. -/
def scanSamples : Nat → String → List Int8 → String
  | _, response, [] => response
  | i, response, rssi :: samples =>
    if response.length < scanResponseSize - 5 then
      scanSamples (i + 1) (response ++ (if i > 0 then "," else "") ++ toString rssi.toInt) samples
    else response

def scanResponse (args : ScanArgs F) (samples : List Int8) : String :=
  if samples = [] then "ERR scan failed"
  else
    let best := (scanBest x args 0 (args.startMHz, samples.headD 0) samples).1
    let response := scanSamples 0 ("OK SCAN start=" ++ x.format args.startMHz ++ " stop=" ++
      x.format args.stopMHz ++ " step=" ++ x.format args.stepMHz ++ " n=" ++
      toString samples.length ++ " best=" ++ x.format best ++ " rssi=") samples
    String.ofList (response.toList.take (scanResponseSize - 1))

/-- The configuration that `SET` hands to the MAC task, if it comes to that. -/
def setRequest (config : ModemConfig F) (line : List (List UInt8)) : Option (ModemConfig F) :=
  (setTokens x.toExternals config line).toOption.filter fun next =>
    (modemValidateConfig x.toExternals next).toBool

inductive Command
  | set (line : List (List UInt8))
  | defaults
  | scan (line : List (List UInt8))

/-- The command that a text of the host is, if it is one of the three. -/
def Command.ofText (data : List UInt8) : Option Command :=
  let words := tokens isDelim (cString data)
  let isVerb (verb : String) := words.head?.any fun word => equalsIgnoreCase word (ascii verb)
  if data.length ≥ 256 then none
  else if isVerb "DEFAULTS" then some .defaults
  else if isVerb "SCAN" then some (.scan words.tail)
  else if isVerb "SET" then some (.set words.tail)
  else none

/-- The radio, and the statics of `main.cpp`. -/
structure Modem (F : Type) where
  radio : Radio F
  control : ControlState F

namespace Modem

/-- `DEFAULTS`, which does not look at what `modemSaveConfig` returns. -/
def defaultsCommand (modem : Modem F) (answers : Answers) : String × Modem F :=
  let next := modemDefaultConfig x
  let (state, radio) := modem.radio.applyConfig x next answers
  if state ≠ radiolibErrNone then ("ERR radio=" ++ toString state.toInt, { modem with radio })
  else ("OK defaults applied", ⟨radio, ⟨next, .defaults⟩⟩)

def scanCommand (modem : Modem F) (line : List (List UInt8)) (answers : Answers) :
    String × Modem F :=
  match scanRequest x line with
  | .error reply => (reply, modem)
  | .ok args =>
    let (radio, samples) :=
      modem.radio.scanBand x args.startMHz args.stopMHz args.stepMHz scanMaxN answers
    (scanResponse x args samples, { modem with radio })

/-- `SET` with the radio behind `requestApplyConfig`, whose result is not looked at where it is not
called. -/
def setCommand (modem : Modem F) (line : List (List UInt8)) (answers : Answers) :
    String × Modem F :=
  let applied := (setRequest x modem.control.modemConfig line).elim (radiolibErrNone, modem.radio)
    fun next => modem.radio.applyConfig x next answers
  let result := Config.setCommand x.toExternals modem.control line ⟨applied.1, answers.flash⟩
  (result.1, ⟨applied.2, result.2⟩)

def execute (modem : Modem F) (command : Command) (answers : Answers) : String × Modem F :=
  match command with
  | .defaults => modem.defaultsCommand x answers
  | .scan line => modem.scanCommand x line answers
  | .set line => modem.setCommand x line answers

/-- The modem with the calls of no command yet. -/
def atRest (modem : Modem F) : Modem F :=
  { modem with radio := { modem.radio with chip := { modem.radio.chip with calls := [] } } }

/-- A text of the host, with the answers to the calls that it comes to, and the modem behind it. -/
def step (modem : Modem F) (input : List UInt8 × Answers) : Modem F × List (Modem F) :=
  let after := (Command.ofText input.1).elim modem.atRest fun command =>
    (modem.atRest.execute x command input.2).2
  (after, [after])

/-- The modem behind `setup` and the start of the MAC task, with no call that failed. -/
def boot (chip : Chip F) (control : ControlState F) : Modem F where
  radio :=
    let radio : Radio F := { chip, config := modemDefaultConfig x }
    (radio.applyConfigNoLock x control.modemConfig ⟨radiolibErrNone, radiolibErrNone⟩).2
      |>.startReceiveNoLock ⟨radiolibErrNone, radiolibErrNone⟩
  control

/-! ### Agreement -/

/-- The parameters in the chip, `_config` and `modemConfig` are the same, and the chip receives. -/
def Agrees (modem : Modem F) : Prop := modem.radio.InForce modem.control.modemConfig true

/-- Of the calls of `beginFLRC` and `setSyncWord` in the command, one at most failed. -/
def OneFails (modem : Modem F) : Prop := modem.radio.chip.setupFailures ≤ 1

instance (modem : Modem F) : Decidable modem.OneFails := inferInstanceAs (Decidable (_ ≤ _))

end Modem

/-- What a command asks of the MAC task. -/
inductive Request (F : Type)
  | applyConfig (config : ModemConfig F)
  | scanBand (args : ScanArgs F)

def Command.request (config : ModemConfig F) : Command → Option (Request F)
  | .defaults => some (.applyConfig (modemDefaultConfig x))
  | .scan line => (scanRequest x line).toOption.map .scanBand
  | .set line => (setRequest x config line).map .applyConfig

/-- A new configuration is refused by `beginFLRC`, or gets through to reception; a scan restores the
old one. -/
def Request.Kept (config : ModemConfig F) (answers : Answers) : Request F → Prop
  | .applyConfig _ => answers.apply.beginFLRC = radiolibErrNone →
      answers.apply.setSyncWord = radiolibErrNone ∧ answers.receive.startReceive = radiolibErrNone
  | .scanBand args => Radio.Restores x config
      (Radio.scanFreqs x args.stopMHz args.stepMHz scanMaxN args.startMHz) answers

/-- What the text asks of the MAC task, if anything, is kept. -/
def Modem.Keeps (modem : Modem F) (input : List UInt8 × Answers) : Prop :=
  ∀ command, Command.ofText input.1 = some command →
    ∀ request, command.request x modem.control.modemConfig = some request →
      request.Kept x modem.control.modemConfig input.2

variable {x}

/-! ### A command -/

theorem Radio.InForce.applyConfig_iff {radio : Radio F} {config : ModemConfig F}
    (h : radio.InForce config true) (next : ModemConfig F) (answers : Answers) :
    (radio.applyConfig x next answers).2.InForce
        (if (radio.applyConfig x next answers).1 = radiolibErrNone then next else config) true ↔
      (Request.applyConfig next).Kept x config answers := by
  rw [Radio.applyConfig, Request.Kept]
  dsimp only
  by_cases happly : answers.apply.Succeed
  · obtain ⟨hstate, hforce, _⟩ := Radio.applyConfigNoLock_applied (x := x) radio next happly
    rw [if_pos hstate, if_pos hstate, (hforce.startReceive answers.receive).unique]
    simp [happly.1, happly.2, eq_comm]
  obtain ⟨hstate, _⟩ := Radio.applyConfigNoLock_failed (x := x) radio next happly
  rw [if_neg hstate, if_neg hstate]
  by_cases hbegin : answers.apply.beginFLRC = radiolibErrNone
  · have hsync : answers.apply.setSyncWord ≠ radiolibErrNone := fun hsync =>
      happly ⟨hbegin, hsync⟩
    obtain ⟨_, _, _, hstandby⟩ := Radio.applyConfigNoLock_torn (x := x) radio next hbegin hsync
    constructor
    · intro h'
      exact absurd (hstandby.symm.trans h'.receiving) Bool.false_ne_true
    · intro h'
      exact absurd (h' hbegin).1 hsync
  · exact iff_of_true (h.refused next hbegin) fun h' => absurd h' hbegin

/-- `SET` comes to the radio with what the line says, if that can be read and is valid. -/
theorem setRequest_iff {config next : ModemConfig F} {line : List (List UInt8)} :
    setRequest x config line = some next ↔
      ((∀ token ∈ line, Readable x.toExternals token) ∧
        modemValidateConfig x.toExternals (told x.toExternals config line) = .ok ()) ∧
      next = told x.toExternals config line := by
  have hok (result : Except String (ModemConfig F)) :
      result.toOption = some next ↔ result = .ok next := by
    cases result <;> simp [Except.toOption]
  have hvalid (result : Except String Unit) : result.toBool ↔ result = .ok () := by
    cases result <;> simp [Except.toBool]
  rw [setRequest, Option.filter_eq_some_iff, hok, setTokens_iff, hvalid]
  constructor
  · rintro ⟨⟨hreadable, rfl⟩, hvalid⟩
    exact ⟨⟨hreadable, hvalid⟩, rfl⟩
  · rintro ⟨⟨hreadable, hvalid⟩, rfl⟩
    exact ⟨⟨hreadable, rfl⟩, hvalid⟩

theorem setCommand_of_none {state : ControlState F} {line : List (List UInt8)}
    (h : setRequest x state.modemConfig line = none) (outcome : SetOutcome) :
    (setCommand x.toExternals state line outcome).2 = state := by
  obtain ⟨reply, _, hrefused⟩ := setCommand_refused outcome fun haccepted =>
    Option.some_ne_none _ ((setRequest_iff.mpr ⟨haccepted, rfl⟩).symm.trans h)
  rw [hrefused]

theorem setCommand_of_some {state : ControlState F} {line : List (List UInt8)}
    {next : ModemConfig F} (h : setRequest x state.modemConfig line = some next)
    (outcome : SetOutcome) :
    (setCommand x.toExternals state line outcome).2.modemConfig =
      if outcome.applied = radiolibErrNone then next else state.modemConfig := by
  obtain ⟨⟨hreadable, hvalid⟩, rfl⟩ := setRequest_iff.mp h
  rw [setCommand_accepted outcome hreadable hvalid]
  by_cases happlied : outcome.applied = radiolibErrNone
  · rw [if_neg (not_not.mpr happlied), if_pos happlied]
    split <;> rfl
  · rw [if_pos happlied, if_neg happlied]

namespace Modem

variable {modem : Modem F}

/-- What a command does to the radio and to `modemConfig`. -/
theorem execute_cases (modem : Modem F) (command : Command) (answers : Answers) :
    (command.request x modem.control.modemConfig = none ∧
      (modem.execute x command answers).2 = modem) ∨
    (∃ next, command.request x modem.control.modemConfig = some (.applyConfig next) ∧
      (modem.execute x command answers).2.radio = (modem.radio.applyConfig x next answers).2 ∧
      (modem.execute x command answers).2.control.modemConfig =
        if (modem.radio.applyConfig x next answers).1 = radiolibErrNone then next
        else modem.control.modemConfig) ∨
    (∃ args, command.request x modem.control.modemConfig = some (.scanBand args) ∧
      (modem.execute x command answers).2.radio =
        (modem.radio.scanBand x args.startMHz args.stopMHz args.stepMHz scanMaxN answers).1 ∧
      (modem.execute x command answers).2.control = modem.control) := by
  cases command with
  | defaults =>
    refine .inr (.inl ⟨modemDefaultConfig x, rfl, ?_⟩)
    rw [execute, defaultsCommand]
    dsimp only
    by_cases hstate : (modem.radio.applyConfig x (modemDefaultConfig x) answers).1 = radiolibErrNone
    · rw [if_neg (not_not.mpr hstate), if_pos hstate]
      exact ⟨rfl, rfl⟩
    · rw [if_pos hstate, if_neg hstate]
      exact ⟨rfl, rfl⟩
  | scan line =>
    rw [Command.request, execute, scanCommand]
    cases scanRequest x line with
    | error reply => exact .inl ⟨rfl, rfl⟩
    | ok args => exact .inr (.inr ⟨args, rfl, rfl, rfl⟩)
  | set line =>
    rw [Command.request, execute, setCommand]
    cases hrequest : setRequest x modem.control.modemConfig line with
    | none =>
      refine .inl ⟨rfl, ?_⟩
      rw [Option.elim_none, setCommand_of_none hrequest]
    | some next => exact .inr (.inl ⟨next, rfl, rfl, setCommand_of_some hrequest _⟩)

theorem execute_agrees_iff (h : modem.Agrees) (command : Command) (answers : Answers)
    (hone : (modem.execute x command answers).2.radio.chip.setupFailures ≤
      modem.radio.chip.setupFailures + 1) :
    (modem.execute x command answers).2.Agrees ↔
      ∀ request, command.request x modem.control.modemConfig = some request →
        request.Kept x modem.control.modemConfig answers := by
  rcases modem.execute_cases (x := x) command answers with
    ⟨hnone, hsame⟩ | ⟨next, hrequest, hradio, hconfig⟩ | ⟨args, hrequest, hradio, hcontrol⟩
  · rw [hnone, hsame]
    exact iff_of_true h fun _ hsome => (Option.some_ne_none _ hsome.symm).elim
  · rw [hrequest, Agrees, hradio, hconfig, h.applyConfig_iff]
    simp only [Option.some.injEq, forall_eq']
  · rw [hradio] at hone
    rw [hrequest, Agrees, hradio, hcontrol, h.scanBand_iff _ _ _ _ _ hone]
    simp only [Option.some.injEq, forall_eq']
    exact Iff.rfl

theorem Agrees.atRest (h : modem.Agrees) : modem.atRest.Agrees :=
  ⟨h.held, h.flrc, h.syncWord, h.receiving⟩

theorem step_agrees_iff (h : modem.Agrees) (input : List UInt8 × Answers)
    (hone : (modem.step x input).1.OneFails) :
    (modem.step x input).1.Agrees ↔ modem.Keeps x input := by
  rw [OneFails, step] at hone
  rw [step, Keeps]
  dsimp only at hone ⊢
  cases hcommand : Command.ofText input.1 with
  | none => exact iff_of_true h.atRest fun _ hsome => (Option.some_ne_none _ hsome.symm).elim
  | some command =>
    rw [hcommand, Option.elim_some] at hone
    rw [Option.elim_some, execute_agrees_iff h.atRest command input.2 (Nat.le_add_left_of_le hone)]
    simp only [Option.some.injEq, forall_eq']
    exact Iff.rfl

theorem boot_agrees (chip : Chip F) (control : ControlState F) :
    (boot x chip control).Agrees := by
  have hsucceed : ApplyAnswers.Succeed ⟨radiolibErrNone, radiolibErrNone⟩ := ⟨rfl, rfl⟩
  obtain ⟨_, hforce, _⟩ := Radio.applyConfigNoLock_applied (x := x)
    ⟨chip, modemDefaultConfig x⟩ control.modemConfig hsucceed
  exact hforce.startReceive ⟨radiolibErrNone, radiolibErrNone⟩

/-- A command whose last setup succeeds and starts reception is kept, whatever fails before that. -/
theorem keeps_of_succeed (modem : Modem F) {input : List UInt8 × Answers}
    (happly : input.2.apply.Succeed) (hstart : input.2.receive.startReceive = radiolibErrNone) :
    modem.Keeps x input := by
  intro command _ request _
  cases request with
  | applyConfig next => exact fun _ => ⟨happly.2, hstart⟩
  | scanBand args =>
    rw [Request.Kept, Radio.Restores, if_pos happly.1]
    exact ⟨hstart, .inl happly.2⟩

/-- In a run with one failing setup in each command at most, the configurations agree and the chip
receives behind every command, if and only if every command keeps them. -/
theorem run_agrees_iff (chip : Chip F) (control : ControlState F)
    (inputs : List (List UInt8 × Answers))
    (hone : ∀ after ∈ (Transducer.run (step x) (boot x chip control) inputs).2, after.OneFails) :
    (∀ after ∈ (Transducer.run (step x) (boot x chip control) inputs).2, after.Agrees) ↔
      Transducer.Along (step x) (Keeps x) (boot x chip control) inputs := by
  apply @Transducer.forall_output_iff_while _ _ _ (step x) Agrees (Keeps x) Agrees OneFails
  · intro modem input _ hafter
    exact hafter _ (List.mem_singleton_self _)
  · intro modem input h hafter
    rw [← step_agrees_iff h input (hafter _ (List.mem_singleton_self _))]
    exact List.forall_mem_singleton
  · exact boot_agrees chip control
  · exact hone

/-! ### Commands at a radio that fails -/

/-- Floats without a fraction, and a sync word that `beginFLRC` sets. -/
def wholeRadio : RadioExternals Int where
  toExternals := wholeExternals
  whole n := n
  hundredth := 0
  add := (· + ·)
  mul := (· * ·)
  lt f g := f < g
  le f g := f ≤ g
  format freq := toString freq
  flrcSyncWord _ := fun i => [0x2D, 0x01, 0x4B, 0x1D].getD i 0

/-- The chip out of reset. -/
def resetChip : Chip Int where
  flrc := ⟨0, 0, 0, 0, 0, 0⟩
  syncWord _ := 0
  receiving := false

def allSucceed : Answers where
  apply := ⟨0, 0⟩
  receive := ⟨0, 0⟩
  scan _ := ⟨⟨0, 0⟩, ⟨0, 0⟩, -90⟩
  flash := ⟨true, 24⟩

/-- Three commands with a scan that fails at its second frequency. -/
def scanFails : List (List UInt8 × Answers) :=
  [(ascii "SET freq=2450", allSucceed),
    (ascii "SCAN start=2400 stop=2410",
      { allSucceed with scan := fun n => ⟨⟨0, if n = 1 then -1 else 0⟩, ⟨0, 0⟩, -90⟩ }),
    (ascii "DEFAULTS", allSucceed)]

theorem run_agrees_iff_scanFails :
    (∀ after ∈ (Transducer.run (step wholeRadio) (boot wholeRadio resetChip bootState)
      scanFails).2, after.OneFails) ∧
    ∀ after ∈ (Transducer.run (step wholeRadio) (boot wholeRadio resetChip bootState)
      scanFails).2, after.Agrees := by
  have hone : ∀ after ∈ (Transducer.run (step wholeRadio) (boot wholeRadio resetChip bootState)
      scanFails).2, after.OneFails := by decide +kernel
  refine ⟨hone, (run_agrees_iff resetChip bootState scanFails hone).mpr ?_⟩
  exact ⟨keeps_of_succeed _ ⟨rfl, rfl⟩ rfl, keeps_of_succeed _ ⟨rfl, rfl⟩ rfl,
    keeps_of_succeed _ ⟨rfl, rfl⟩ rfl, trivial⟩

/-- A new frequency with `setSyncWord` refused. -/
def syncWordFails : List (List UInt8 × Answers) :=
  [(ascii "SET freq=2450", { allSucceed with apply := ⟨0, -1⟩ })]

/-- The chip is left in standby at the new frequency, and the rest of the code goes by the old
one. -/
theorem syncWordFails_disagrees :
    (Transducer.run (step wholeRadio) (boot wholeRadio resetChip bootState) syncWordFails).2.any
      fun after => after.OneFails ∧ after.radio.chip.receiving = false ∧
        after.radio.chip.flrc.freqMHz = 2450 ∧ after.radio.config.freqMHz = 2480 ∧
        after.control.modemConfig.freqMHz = 2480 := by
  decide +kernel

theorem not_run_agrees : ¬ ∀ (F : Type) (x : RadioExternals F) (chip : Chip F)
    (control : ControlState F) (inputs : List (List UInt8 × Answers)),
    (∀ after ∈ (Transducer.run (step x) (boot x chip control) inputs).2, after.OneFails) →
      ∀ after ∈ (Transducer.run (step x) (boot x chip control) inputs).2, after.Agrees := by
  intro h
  have hone : ∀ after ∈ (Transducer.run (step wholeRadio) (boot wholeRadio resetChip bootState)
      syncWordFails).2, after.OneFails := by decide +kernel
  obtain ⟨after, hafter, hfound⟩ := List.any_eq_true.mp syncWordFails_disagrees
  obtain ⟨_, hstandby, _⟩ := of_decide_eq_true hfound
  have hagrees := h Int wholeRadio resetChip bootState syncWordFails hone after hafter
  exact Bool.false_ne_true (hstandby.symm.trans hagrees.receiving)

end Modem

end FlrcTnc.Config

import FlrcTnc.Config.Agreement

/-! The configuration in flash, and the modem through power cycles: `modemLoadConfig` and
`modemClearConfig` of `ModemConfig.cpp`, and `setup` of `main.cpp`. -/

namespace FlrcTnc.Config

open CText

variable {F : Type} (x : RadioExternals F)

/-! ### Flash -/

/-- What `getBytes` finds under the key: how many bytes it gets, and what they make of `cfg`. -/
structure Blob (F : Type) where
  got : Nat
  cfg : ModemConfig F

/-- `modemLoadConfig`, where `begins` is what `Preferences::begin` returns. -/
def modemLoadConfig (blob : Option (Blob F)) (begins : Bool) : ControlState F :=
  if ¬ begins then ⟨modemDefaultConfig x, .defaults⟩
  else
    blob.elim ⟨modemDefaultConfig x, .defaults⟩ fun found =>
      if found.got ≠ modemConfigSize ∨ found.cfg.magic ≠ modemConfigMagic ∨
          ¬ (modemValidateConfig x.toExternals found.cfg).toBool then
        ⟨modemDefaultConfig x, .defaults⟩
      else ⟨found.cfg, .nvs⟩

def modemClearConfig (blob : Option (Blob F)) (begins : Bool) : Option (Blob F) :=
  if begins then none else blob

/-- What is under the key behind `modemSaveConfig`; a write that is not whole leaves `torn`. -/
def savedBlob (cfg : ModemConfig F) (flash : FlashOutcome) (torn blob : Option (Blob F)) :
    Option (Blob F) :=
  if ¬ (modemValidateConfig x.toExternals cfg).toBool then blob
  else if ¬ flash.begins then blob
  else if flash.written = modemConfigSize then some ⟨modemConfigSize, cfg⟩
  else torn

/-- The configuration that a command hands to `modemSaveConfig`, if it comes to that. -/
def Modem.saves (modem : Modem F) (command : Command) (answers : Answers) :
    Option (ModemConfig F) :=
  let applied (next : ModemConfig F) : Option (ModemConfig F) :=
    if (modem.radio.applyConfig x next answers).1 ≠ radiolibErrNone then none else some next
  match command with
  | .defaults => applied (modemDefaultConfig x)
  | .scan _ => none
  | .set line => (setRequest x modem.control.modemConfig line).bind applied

/-! ### The modem -/

/-- The modem, and what its flash has under the key. -/
structure Tnc (F : Type) where
  modem : Modem F
  blob : Option (Blob F)

/-- A text of the host with the answers to the calls that it comes to, or a power cycle, with the
button held or not. -/
inductive TncInput (F : Type)
  | command (data : List UInt8) (answers : Answers) (torn : Option (Blob F))
  | powerCycle (held begins : Bool) (chip : Chip F)

namespace Tnc

/-- `setup` and the start of the MAC task; a `setup` that halts is over at the next power cycle. -/
def setup (blob : Option (Blob F)) (held begins : Bool) (chip : Chip F) : Tnc F :=
  if held then ⟨.boot x chip ⟨modemDefaultConfig x, .resetHeld⟩, modemClearConfig blob begins⟩
  else ⟨.boot x chip (modemLoadConfig x blob begins), blob⟩

/-- A step with the reply of a command. -/
def step (tnc : Tnc F) : TncInput F → Tnc F × List String
  | .command data answers torn =>
    (Command.ofText data).elim (⟨tnc.modem.atRest, tnc.blob⟩, []) fun command =>
      let (reply, modem) := tnc.modem.atRest.execute x command answers
      (⟨modem, (tnc.modem.atRest.saves x command answers).elim tnc.blob fun next =>
        savedBlob x next answers.flash torn tnc.blob⟩, [reply])
  | .powerCycle held begins chip => (setup x tnc.blob held begins chip, [])

def run : Tnc F → List (TncInput F) → Tnc F × List String := Transducer.run (step x)

end Tnc

/-! ### What a configuration must have -/

/-- The loader takes it. -/
structure ModemConfig.Sound (cfg : ModemConfig F) : Prop where
  magic : cfg.magic = modemConfigMagic
  valid : modemValidateConfig x.toExternals cfg = .ok ()

variable {x}

theorem toBool_iff {result : Except String Unit} : result.toBool ↔ result = .ok () := by
  cases result <;> simp [Except.toBool]

/-- The saver and the loader are inverse. -/
theorem modemLoadConfig_saved {cfg : ModemConfig F} (h : cfg.Sound x) :
    modemLoadConfig x (some ⟨modemConfigSize, cfg⟩) true = ⟨cfg, .nvs⟩ := by
  have hnot : ¬ (modemConfigSize ≠ modemConfigSize ∨ cfg.magic ≠ modemConfigMagic ∨
      ¬ (modemValidateConfig x.toExternals cfg).toBool) := by
    rintro (hsize | hmagic | hinvalid)
    · exact hsize rfl
    · exact hmagic h.magic
    · exact hinvalid (toBool_iff.mpr h.valid)
  exact if_neg hnot

/-- What the loader comes to is the default, or what it has found. -/
theorem modemLoadConfig_cases (blob : Option (Blob F)) (begins : Bool) :
    modemLoadConfig x blob begins = ⟨modemDefaultConfig x, .defaults⟩ ∨
      ∃ cfg : ModemConfig F, cfg.Sound x ∧ blob = some ⟨modemConfigSize, cfg⟩ ∧
        modemLoadConfig x blob begins = ⟨cfg, .nvs⟩ := by
  rw [modemLoadConfig]
  split
  · exact .inl rfl
  · cases blob with
    | none => exact .inl rfl
    | some found =>
      obtain ⟨got, cfg⟩ := found
      rw [Option.elim_some]
      split
      · exact .inl rfl
      · next hfound =>
        obtain ⟨hsize, hmagic, hvalid⟩ := not_or.mp hfound |>.imp_right not_or.mp
        obtain rfl := not_not.mp hsize
        exact .inr ⟨cfg, ⟨not_not.mp hmagic, toBool_iff.mp (not_not.mp hvalid)⟩, rfl, rfl⟩

/-- What comes to the radio is sound. -/
theorem sound_of_setRequest {config next : ModemConfig F} {line : List (List UInt8)}
    (hmagic : config.magic = modemConfigMagic) (h : setRequest x config line = some next) :
    next.Sound x := by
  obtain ⟨⟨_, hvalid⟩, rfl⟩ := setRequest_iff.mp h
  exact ⟨hmagic, hvalid⟩

theorem savedBlob_of_writes {cfg : ModemConfig F} (h : cfg.Sound x) {flash : FlashOutcome}
    (hflash : flash.Writes) (torn blob : Option (Blob F)) :
    savedBlob x cfg flash torn blob = some ⟨modemConfigSize, cfg⟩ := by
  rw [savedBlob, if_neg (not_not.mpr (toBool_iff.mpr h.valid)), if_neg (not_not.mpr hflash.1),
    if_pos hflash.2]

/-! ### A command -/

/-- `SET` has come to flash with `next`. -/
structure ComesToFlash (next : ModemConfig F) (flash : FlashOutcome) (result : String × Modem F) :
    Prop where
  config : result.2.control.modemConfig = next
  written : flash.Writes → result.1 = "OK saved" ∧ result.2.control.modemConfigSource = .nvs
  failed : ¬ flash.Writes → result.1 = "ERR save failed"

namespace Modem

/-- `SET` is refused and changes nothing of `main.cpp`, or it comes to flash with what it says. -/
theorem setCommand_saves (modem : Modem F) (line : List (List UInt8)) (answers : Answers) :
    (modem.saves x (.set line) answers = none ∧
      (modem.setCommand x line answers).2.control = modem.control ∧
      (modem.setCommand x line answers).1 ≠ "OK saved") ∨
    ∃ next, setRequest x modem.control.modemConfig line = some next ∧
      modem.saves x (.set line) answers = some next ∧
      ComesToFlash next answers.flash (modem.setCommand x line answers) := by
  rw [saves, setCommand]
  cases hrequest : setRequest x modem.control.modemConfig line with
  | none =>
    left
    obtain ⟨reply, herror, hrefused⟩ :=
      setCommand_refused (F := F) ⟨radiolibErrNone, answers.flash⟩ fun haccepted =>
        Option.some_ne_none _ ((setRequest_iff.mpr ⟨haccepted, rfl⟩).symm.trans hrequest)
    rw [Option.elim_none, hrefused]
    exact ⟨rfl, rfl, herror.ne_saved⟩
  | some next =>
    obtain ⟨⟨hreadable, hvalid⟩, rfl⟩ := setRequest_iff.mp hrequest
    rw [Option.elim_some, setCommand_accepted _ hreadable hvalid, Option.bind_some]
    generalize modem.radio.applyConfig x _ answers = result
    by_cases happlied : result.1 = radiolibErrNone
    · refine .inr ⟨_, rfl, if_neg (not_not.mpr happlied), ?_⟩
      rw [if_neg (not_not.mpr happlied)]
      by_cases hwrites : answers.flash.Writes
      · rw [if_neg (not_not.mpr hwrites)]
        exact ⟨rfl, fun _ => ⟨rfl, rfl⟩, absurd hwrites⟩
      · rw [if_pos hwrites]
        exact ⟨rfl, fun h => absurd h hwrites, fun _ => rfl⟩
    · refine .inl ⟨if_pos happlied, ?_⟩
      rw [if_pos happlied]
      refine ⟨rfl, IsError.ne_saved ⟨"radio=" ++ toString result.1.toInt, ?_⟩⟩
      rw [← String.append_assoc]
      rfl

/-- A command leaves the configuration and flash alone, or it is a `SET` that comes to flash, or
`DEFAULTS`. -/
theorem execute_saves (modem : Modem F) (command : Command) (answers : Answers) :
    (modem.saves x command answers = none ∧
      (modem.execute x command answers).2.control = modem.control) ∨
    (∃ line next, command = .set line ∧ setRequest x modem.control.modemConfig line = some next ∧
      modem.saves x command answers = some next ∧
      ComesToFlash next answers.flash (modem.execute x command answers)) ∨
    ((modem.execute x command answers).1 = "OK defaults applied" ∧
      (modem.execute x command answers).2.control = ⟨modemDefaultConfig x, .defaults⟩) := by
  cases command with
  | scan line =>
    left
    rw [execute, scanCommand]
    cases scanRequest x line <;> exact ⟨rfl, rfl⟩
  | set line =>
    rcases modem.setCommand_saves (x := x) line answers with
      ⟨hnone, hcontrol, _⟩ | ⟨next, hrequest, hsaves, hcomes⟩
    · exact .inl ⟨hnone, hcontrol⟩
    · exact .inr (.inl ⟨line, next, rfl, hrequest, hsaves, hcomes⟩)
  | defaults =>
    rw [saves, execute, defaultsCommand]
    dsimp only
    split
    · exact .inl ⟨rfl, rfl⟩
    · exact .inr (.inr ⟨rfl, rfl⟩)

end Modem

/-! ### Runs -/

namespace Tnc

variable {tnc : Tnc F}

theorem setup_agrees (blob : Option (Blob F)) (held begins : Bool) (chip : Chip F) :
    (setup x blob held begins chip).modem.Agrees := by
  rw [setup]
  split <;> exact Modem.boot_agrees ..

/-- What every power cycle comes to has the magic number. -/
theorem setup_magic (blob : Option (Blob F)) (held begins : Bool) (chip : Chip F) :
    (setup x blob held begins chip).modem.control.modemConfig.magic = modemConfigMagic := by
  rw [setup]
  split
  · rfl
  · rcases modemLoadConfig_cases (x := x) blob begins with hdefault | ⟨cfg, hsound, _, hload⟩
    · rw [hdefault]
      rfl
    · rw [hload]
      exact hsound.magic

theorem step_magic (h : tnc.modem.control.modemConfig.magic = modemConfigMagic)
    (input : TncInput F) :
    (tnc.step x input).1.modem.control.modemConfig.magic = modemConfigMagic := by
  cases input with
  | powerCycle held begins chip => exact setup_magic tnc.blob held begins chip
  | command data answers torn =>
    rw [step]
    cases Command.ofText data with
    | none => exact h
    | some command =>
      rw [Option.elim_some]
      dsimp only
      rcases tnc.modem.atRest.execute_saves (x := x) command answers with
        ⟨_, hcontrol⟩ | ⟨_, next, _, hrequest, _, hcomes⟩ | ⟨_, hcontrol⟩
      · rw [hcontrol]
        exact h
      · rw [hcomes.config]
        exact (sound_of_setRequest h hrequest).magic
      · rw [hcontrol]
        rfl

theorem run_magic (h : tnc.modem.control.modemConfig.magic = modemConfigMagic)
    (inputs : List (TncInput F)) :
    (run x tnc inputs).1.modem.control.modemConfig.magic = modemConfigMagic := by
  induction inputs generalizing tnc with
  | nil => exact h
  | cons input inputs ih => exact ih (step_magic h input)

/-- The reply says that the configuration is another one now. -/
def changes (reply : String) : Bool :=
  reply ∈ ["OK saved", "ERR save failed", "OK defaults applied"]

/-- Nothing else than a command with such a reply and the button gets at flash. -/
theorem step_blob {input : TncInput F}
    (hbutton : ∀ begins chip, input ≠ .powerCycle true begins chip)
    (hreplies : ∀ reply ∈ (tnc.step x input).2, ¬ changes reply) :
    (tnc.step x input).1.blob = tnc.blob := by
  cases input with
  | powerCycle held begins chip =>
    cases held with
    | true => exact absurd rfl (hbutton begins chip)
    | false => rfl
  | command data answers torn =>
    rw [step] at hreplies ⊢
    cases hcommand : Command.ofText data with
    | none => rfl
    | some command =>
      rw [hcommand, Option.elim_some] at hreplies
      rw [Option.elim_some]
      have hreply := hreplies _ (List.mem_singleton_self _)
      rcases tnc.modem.atRest.execute_saves (x := x) command answers with
        ⟨hnone, _⟩ | ⟨line, next, rfl, _, _, hcomes⟩ | ⟨hdefaults, _⟩
      · dsimp only
        rw [hnone, Option.elim_none]
      · by_cases hwrites : answers.flash.Writes
        · rw [(hcomes.written hwrites).1] at hreply
          exact absurd rfl hreply
        · rw [hcomes.failed hwrites] at hreply
          exact absurd rfl hreply
      · rw [hdefaults] at hreply
        exact absurd rfl hreply

theorem run_blob {inputs : List (TncInput F)}
    (hbutton : ∀ begins chip, .powerCycle true begins chip ∉ inputs)
    (hreplies : ∀ reply ∈ (run x tnc inputs).2, ¬ changes reply) :
    (run x tnc inputs).1.blob = tnc.blob := by
  induction inputs generalizing tnc with
  | nil => rfl
  | cons input inputs ih =>
    rw [run, Transducer.run_cons] at hreplies ⊢
    have hfirst : (tnc.step x input).1.blob = tnc.blob :=
      step_blob (fun begins chip heq => hbutton begins chip (heq ▸ List.mem_cons_self ..))
        fun reply hmem => hreplies reply (List.mem_append_left _ hmem)
    rw [← hfirst]
    exact ih (fun begins chip hmem => hbutton begins chip (List.mem_cons_of_mem _ hmem))
      fun reply hmem => hreplies reply (List.mem_append_right _ hmem)

/-- A `SET` that is saved is in flash. -/
theorem step_saved (hmagic : tnc.modem.control.modemConfig.magic = modemConfigMagic)
    {data : List UInt8} {line : List (List UInt8)} (hset : Command.ofText data = some (.set line))
    {answers : Answers} {torn : Option (Blob F)}
    (hsaved : (tnc.step x (.command data answers torn)).2 = ["OK saved"]) :
    (told x.toExternals tnc.modem.control.modemConfig line).Sound x ∧
      (tnc.step x (.command data answers torn)).1.blob =
        some ⟨modemConfigSize, told x.toExternals tnc.modem.control.modemConfig line⟩ := by
  rw [step, hset, Option.elim_some] at hsaved ⊢
  dsimp only at hsaved ⊢
  have hreply := List.singleton_inj.mp hsaved
  rcases tnc.modem.atRest.setCommand_saves (x := x) line answers with
    ⟨_, _, hrefused⟩ | ⟨next, hrequest, hsaves, hcomes⟩
  · exact absurd hreply hrefused
  · have hsound : next.Sound x := sound_of_setRequest hmagic hrequest
    obtain ⟨_, rfl⟩ := setRequest_iff.mp hrequest
    have hwrites : answers.flash.Writes := by
      by_contra hfails
      have hfailed := (hcomes.failed hfails).symm.trans hreply
      exact absurd hfailed (by decide)
    refine ⟨hsound, ?_⟩
    rw [hsaves, Option.elim_some, savedBlob_of_writes hsound hwrites]
    rfl

/-- A new frequency. -/
def set2450 : List UInt8 := ascii "SET freq=2450"

/-- A wrong coding rate is refused, and flash is not there once. -/
def refusals : List (TncInput Int) :=
  [.command (ascii "SET freq=2410 cr=9") Modem.allSucceed none,
    .powerCycle false false Modem.resetChip]

/-- `DEFAULTS` does not look at what `modemSaveConfig` returns, so another configuration comes
back. -/
example :
    let r := run Modem.wholeRadio (setup Modem.wholeRadio none false true Modem.resetChip)
      [.command set2450 Modem.allSucceed none,
        .command (ascii "DEFAULTS") { Modem.allSucceed with flash := ⟨false, 0⟩ } none,
        .powerCycle false true Modem.resetChip]
    r.2 = ["OK saved", "OK defaults applied"] ∧ r.1.modem.control.modemConfig.freqMHz = 2450 := by
  decide +kernel

/-- The configuration is allowed, and what is said to come from flash is there. -/
structure Reported (x : RadioExternals F) (tnc : Tnc F) : Prop where
  sound : tnc.modem.control.modemConfig.Sound x
  stored : tnc.modem.control.modemConfigSource = .nvs →
    tnc.blob = some ⟨modemConfigSize, tnc.modem.control.modemConfig⟩

theorem setup_reported (hdefault : (modemDefaultConfig x).Sound x) (blob : Option (Blob F))
    (held begins : Bool) (chip : Chip F) : Reported x (setup x blob held begins chip) := by
  rw [setup]
  split
  · exact ⟨hdefault, fun hnvs => by cases hnvs⟩
  · rcases modemLoadConfig_cases (x := x) blob begins with hload | ⟨cfg, hsound, rfl, hload⟩
    · rw [hload]
      exact ⟨hdefault, fun hnvs => by cases hnvs⟩
    · rw [hload]
      exact ⟨hsound, fun _ => rfl⟩

theorem Reported.step (hdefault : (modemDefaultConfig x).Sound x) (h : Reported x tnc)
    {input : TncInput F} (hsaves : "ERR save failed" ∉ (tnc.step x input).2) :
    Reported x (tnc.step x input).1 := by
  cases input with
  | powerCycle held begins chip => exact setup_reported hdefault tnc.blob held begins chip
  | command data answers torn =>
    rw [Tnc.step] at hsaves ⊢
    cases hcommand : Command.ofText data with
    | none => exact ⟨h.sound, h.stored⟩
    | some command =>
      rw [hcommand, Option.elim_some] at hsaves
      rw [Option.elim_some]
      dsimp only at hsaves ⊢
      rcases tnc.modem.atRest.execute_saves (x := x) command answers with
        ⟨hnone, hcontrol⟩ | ⟨line, next, rfl, hrequest, hnext, hcomes⟩ | ⟨_, hcontrol⟩
      · rw [hnone, Option.elim_none]
        constructor
        · rw [hcontrol]
          exact h.sound
        · rw [hcontrol]
          exact h.stored
      · have hwrites : answers.flash.Writes := by
          by_contra hfails
          exact hsaves (List.mem_singleton.mpr (hcomes.failed hfails).symm)
        have hsound : next.Sound x := sound_of_setRequest h.sound.magic hrequest
        rw [hnext, Option.elim_some, savedBlob_of_writes hsound hwrites]
        constructor
        · rw [hcomes.config]
          exact hsound
        · rw [hcomes.config]
          exact fun _ => rfl
      · constructor
        · rw [hcontrol]
          exact hdefault
        · rw [hcontrol]
          intro hnvs
          cases hnvs

theorem Reported.run (hdefault : (modemDefaultConfig x).Sound x) (h : Reported x tnc)
    {inputs : List (TncInput F)} (hsaves : "ERR save failed" ∉ (tnc.run x inputs).2) :
    Reported x (tnc.run x inputs).1 := by
  induction inputs generalizing tnc with
  | nil => exact h
  | cons input inputs ih =>
    rw [Tnc.run, Transducer.run_cons] at hsaves ⊢
    have hfirst := h.step hdefault fun hmem => hsaves (List.mem_append_left _ hmem)
    exact ih hfirst fun hmem => hsaves (List.mem_append_right _ hmem)

end Tnc

end FlrcTnc.Config

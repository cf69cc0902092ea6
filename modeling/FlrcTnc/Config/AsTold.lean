import FlrcTnc.Config.Set

/-! When `SET` stores what it is told: the numbers in the text, and what becomes of them. -/

namespace FlrcTnc.Config

open CText

variable {F : Type} (x : Externals F)

/-- The keys with integers as values. -/
inductive IntKey
  | cr | power | preamble | bt | lbt
  deriving DecidableEq, Repr

namespace IntKey

def key : IntKey → SetKey
  | cr => .cr
  | power => .power
  | preamble => .preamble
  | bt => .bt
  | lbt => .lbt

/-- The values that the messages of `modemValidateConfig` allow; for `lbt`, those of an `int16_t`.
-/
def InRange (k : IntKey) (n : Int) : Prop :=
  match k with
  | cr => n ∈ [2, 3, 4]
  | power => -18 ≤ n ∧ n ≤ 13
  | preamble => n ∈ [4, 8, 12, 16, 20, 24, 28, 32]
  | bt => n = 0 ∨ n = 1
  | lbt => -2 ^ 15 ≤ n ∧ n < 2 ^ 15

/-- The configuration has the value. -/
def Stored (k : IntKey) (config : ModemConfig F) (n : Int) : Prop :=
  match k with
  | cr => config.codingRate.toNat = n
  | power => config.txPowerDbm.toInt = n
  | preamble => config.preambleBits.toNat = n
  | bt => config.shaping = if n = 0 then x.radiolibShaping05 else x.radiolibShaping10
  | lbt => config.lbtRssiThresholdDbm.toInt = n

end IntKey

/-- Every integer on the line is a decimal number in the range of its key. -/
def TellsNumbers (line : List (List UInt8)) : Prop :=
  ∀ k : IntKey, ∀ text, lastValue line k.key = some text → ∃ n, decimal text = some n ∧ k.InRange n

/-- A reply of success goes with the numbers of the line in the configuration, and any other reply
with the old configuration. -/
def AsTold (config : ModemConfig F) (line : List (List UInt8)) (reply : String)
    (config' : ModemConfig F) : Prop :=
  (reply = "OK saved" → ∀ k : IntKey, ∀ text, lastValue line k.key = some text →
    ∃ n, decimal text = some n ∧ k.InRange n ∧ k.Stored x config' n) ∧
  (reply ≠ "OK saved" → config' = config)

/-- `SET` stores what it is told, or nothing. -/
def SetsAsTold (state : ControlState F) (data : List UInt8) (outcome : SetOutcome) : Prop :=
  ∀ verb line, tokens isDelim (cString data) = verb :: line → equalsIgnoreCase verb (ascii "SET") →
    ∃ reply state', handleControlCommand x state data outcome = some (reply, state') ∧
      AsTold x state.modemConfig line reply state'.modemConfig

/-- The command is one that is applied: it is not too long, its values can be read, and with them,
read as the source does, the configuration is valid. -/
structure Accepts (config : ModemConfig F) (data : List UInt8) (line : List (List UInt8)) :
    Prop where
  fits : data.length < 256
  readable : ∀ token ∈ line, Readable x token
  valid : modemValidateConfig x (told x config line) = .ok ()

/-- The configuration gets to flash. -/
def FlashOutcome.Writes (flash : FlashOutcome) : Prop :=
  flash.begins ∧ flash.written = modemConfigSize

instance (flash : FlashOutcome) : Decidable flash.Writes := inferInstanceAs (Decidable (_ ∧ _))

variable {x}

/-! ### Replies -/

/-- The replies of the branches that fail. -/
def IsError (reply : String) : Prop := ∃ message, reply = "ERR " ++ message

theorem IsError.ne_saved {reply : String} (h : IsError reply) : reply ≠ "OK saved" := by
  obtain ⟨message, rfl⟩ := h
  intro heq
  have hlist := congrArg String.toList heq
  rw [String.toList_append] at hlist
  simp at hlist

theorem readValue_bind_error {α : Type} {value : Option α} {reply : String}
    {put : α → ModemConfig F} {reply' : String}
    (h : (readValue value reply >>= fun b => pure (put b)) = .error reply') : reply' = reply := by
  cases value with
  | none => exact (Except.error.inj h).symm
  | some a => cases h

theorem setToken_error {config : ModemConfig F} {token : List UInt8} {reply : String}
    (h : setToken x config token = .error reply) : IsError reply := by
  unfold setToken at h
  split at h
  · exact ⟨"expected key=value", (Except.error.inj h).symm⟩
  split at h
  · exact ⟨"invalid freq", readValue_bind_error h⟩
  · exact ⟨"invalid bitrate", readValue_bind_error h⟩
  · exact ⟨"invalid cr", readValue_bind_error h⟩
  · exact ⟨"invalid power", readValue_bind_error h⟩
  · exact ⟨"invalid preamble", readValue_bind_error h⟩
  · exact ⟨"invalid bt", readValue_bind_error h⟩
  · exact ⟨"invalid sync", readValue_bind_error h⟩
  · exact ⟨"invalid lbt", readValue_bind_error h⟩
  · exact ⟨"invalid transport (use native or generic)", readValue_bind_error h⟩
  · exact ⟨"unknown key", (Except.error.inj h).symm⟩

theorem setTokens_error {config : ModemConfig F} {line : List (List UInt8)} {reply : String}
    (h : setTokens x config line = .error reply) : IsError reply := by
  induction line generalizing config with
  | nil => cases h
  | cons token line ih =>
    rw [setTokens, List.foldlM_cons] at h
    cases hfirst : setToken x config token with
    | error first =>
      rw [hfirst] at h
      obtain rfl := Except.error.inj h
      exact setToken_error hfirst
    | ok next =>
      rw [hfirst] at h
      exact ih h

/-! ### The command -/

theorem modemSaveConfig_iff {config : ModemConfig F}
    (hvalid : modemValidateConfig x config = .ok ()) (flash : FlashOutcome) :
    modemSaveConfig x config flash ↔ flash.Writes := by
  unfold modemSaveConfig FlashOutcome.Writes
  rw [hvalid]
  dsimp only
  cases flash.begins <;> simp

/-- A command that is refused. -/
theorem setCommand_refused {state : ControlState F} {line : List (List UInt8)}
    (outcome : SetOutcome) (h : ¬ ((∀ token ∈ line, Readable x token) ∧
      modemValidateConfig x (told x state.modemConfig line) = .ok ())) :
    ∃ reply, IsError reply ∧ setCommand x state line outcome = (reply, state) := by
  unfold setCommand
  cases hloop : setTokens x state.modemConfig line with
  | error reply => exact ⟨reply, setTokens_error hloop, rfl⟩
  | ok next =>
    obtain ⟨hreadable, rfl⟩ := setTokens_iff.mp hloop
    dsimp only
    cases hvalid : modemValidateConfig x (told x state.modemConfig line) with
    | error message => exact ⟨_, ⟨message, rfl⟩, rfl⟩
    | ok => exact absurd ⟨hreadable, hvalid⟩ h

/-- A command that is tried. -/
theorem setCommand_accepted {state : ControlState F} {line : List (List UInt8)}
    (outcome : SetOutcome) (hreadable : ∀ token ∈ line, Readable x token)
    (hvalid : modemValidateConfig x (told x state.modemConfig line) = .ok ()) :
    setCommand x state line outcome =
      if outcome.applied ≠ radiolibErrNone then
        ("ERR radio=" ++ toString outcome.applied.toInt, state)
      else if ¬ outcome.flash.Writes then
        ("ERR save failed", { state with modemConfig := told x state.modemConfig line })
      else ("OK saved", ⟨told x state.modemConfig line, .nvs⟩) := by
  unfold setCommand
  rw [setTokens_iff.mpr ⟨hreadable, rfl⟩]
  dsimp only
  rw [hvalid]
  dsimp only
  simp only [modemSaveConfig_iff hvalid]

/-! ### Numbers -/

/-- A number in the range of its key is stored. -/
theorem IntKey.stored_told {k : IntKey} {config : ModemConfig F} {line : List (List UInt8)}
    {text : List UInt8} {n : Int} (htext : lastValue line k.key = some text)
    (hdecimal : decimal text = some n) (hrange : k.InRange n) :
    k.Stored x (told x config line) n := by
  have hlong : -2 ^ 31 ≤ n ∧ n < 2 ^ 31 := by
    cases k <;> simp only [InRange, List.mem_cons, List.not_mem_nil, or_false] at hrange <;> omega
  have hread : (strtol longBits 10 text).1 = n := by
    rw [strtol_of_decimal hdecimal]
    exact clamp_of_mem hlong.1 hlong.2
  cases k with
  | cr =>
    simp only [InRange, List.mem_cons, List.not_mem_nil, or_false] at hrange
    rw [Stored, told, show lastValue line .cr = some text from htext, Option.elim_some, hread]
    rcases hrange with rfl | rfl | rfl <;> rfl
  | preamble =>
    simp only [InRange, List.mem_cons, List.not_mem_nil, or_false] at hrange
    rw [Stored, told, show lastValue line .preamble = some text from htext, Option.elim_some, hread]
    rcases hrange with rfl | rfl | rfl | rfl | rfl | rfl | rfl | rfl <;> rfl
  | power =>
    obtain ⟨hlow, hhigh⟩ := hrange
    rw [Stored, told, show lastValue line .power = some text from htext, Option.elim_some, hread]
    exact Int8.toInt_ofInt_of_le (by omega) (by omega)
  | bt =>
    rw [Stored, told, show lastValue line .bt = some text from htext, Option.elim_some, hread]
    rfl
  | lbt =>
    rw [Stored, told, show lastValue line .lbt = some text from htext, Option.elim_some, hread]
    exact Int16.toInt_ofInt_of_le hrange.1 hrange.2

/-! ### When `SET` stores what it is told -/

theorem handleControlCommand_set {data verb : List UInt8} {line : List (List UInt8)}
    (htokens : tokens isDelim (cString data) = verb :: line)
    (hverb : equalsIgnoreCase verb (ascii "SET")) (state : ControlState F) (outcome : SetOutcome) :
    handleControlCommand x state data outcome =
      if data.length ≥ 256 then some ("ERR command too long", state)
      else some (setCommand x state line outcome) := by
  have hothers : otherVerbs.any (equalsIgnoreCase verb) = false := by
    have hset : equalsIgnoreCase verb = equalsIgnoreCase (ascii "SET") := by
      funext other
      simp only [equalsIgnoreCase, decide_eq_true_eq] at hverb ⊢
      rw [hverb]
    rw [hset]
    decide +kernel
  unfold handleControlCommand
  rw [htokens]
  dsimp only
  rw [hothers, if_neg Bool.false_ne_true, if_neg (not_not.mpr hverb)]

theorem IsError.asTold {reply : String} (h : IsError reply) (config : ModemConfig F)
    (line : List (List UInt8)) : AsTold x config line reply config :=
  ⟨fun hsaved => absurd hsaved h.ne_saved, fun _ => rfl⟩

theorem asTold_saved {config : ModemConfig F} {line : List (List UInt8)} :
    AsTold x config line "OK saved" (told x config line) ↔ TellsNumbers line := by
  constructor
  · intro h k text htext
    obtain ⟨n, hdecimal, hrange, _⟩ := h.1 rfl k text htext
    exact ⟨n, hdecimal, hrange⟩
  · refine fun h => ⟨fun _ k text htext => ?_, fun hne => absurd rfl hne⟩
    obtain ⟨n, hdecimal, hrange⟩ := h k text htext
    exact ⟨n, hdecimal, hrange, IntKey.stored_told htext hdecimal hrange⟩

theorem setsAsTold_iff (x : Externals F) (state : ControlState F) (data : List UInt8)
    (outcome : SetOutcome) : SetsAsTold x state data outcome ↔
      ∀ verb line, tokens isDelim (cString data) = verb :: line →
        equalsIgnoreCase verb (ascii "SET") → Accepts x state.modemConfig data line →
        outcome.applied = radiolibErrNone →
        (outcome.flash.Writes → TellsNumbers line) ∧
          (¬ outcome.flash.Writes → told x state.modemConfig line = state.modemConfig) := by
  refine forall_congr' fun verb => forall_congr' fun line => forall_congr' fun htokens =>
    forall_congr' fun hverb => ?_
  have hresult (result : String × ControlState F) :
      (∃ reply state', some result = some (reply, state') ∧
        AsTold x state.modemConfig line reply state'.modemConfig) ↔
        AsTold x state.modemConfig line result.1 result.2.modemConfig := by
    constructor
    · rintro ⟨reply, state', heq, h⟩
      obtain rfl := Option.some.inj heq
      exact h
    · exact fun h => ⟨result.1, result.2, rfl, h⟩
  rw [handleControlCommand_set htokens hverb]
  by_cases haccepts : Accepts x state.modemConfig data line
  · rw [if_neg (Nat.not_le.mpr haccepts.fits),
      setCommand_accepted outcome haccepts.readable haccepts.valid, hresult]
    by_cases happlied : outcome.applied = radiolibErrNone
    · rw [if_neg (not_not.mpr happlied)]
      by_cases hwrites : outcome.flash.Writes
      · rw [if_neg (not_not.mpr hwrites)]
        exact asTold_saved.trans
          ⟨fun h _ _ => ⟨fun _ => h, absurd hwrites⟩, fun h => (h haccepts happlied).1 hwrites⟩
      · rw [if_pos hwrites]
        refine ⟨fun h _ _ => ⟨fun hw => absurd hw hwrites, fun _ => ?_⟩, fun h => ?_⟩
        · exact h.2 (IsError.ne_saved ⟨"save failed", rfl⟩)
        rw [(h haccepts happlied).2 hwrites]
        exact IsError.asTold ⟨"save failed", rfl⟩ _ _
    · rw [if_pos happlied]
      refine ⟨fun _ _ hnone => absurd hnone happlied, fun _ => ?_⟩
      have herror : IsError ("ERR radio=" ++ toString outcome.applied.toInt) :=
        ⟨"radio=" ++ toString outcome.applied.toInt, by rw [← String.append_assoc]; rfl⟩
      exact herror.asTold _ _
  · refine ⟨fun _ haccepts' => absurd haccepts' haccepts, fun _ => ?_⟩
    by_cases hfits : data.length ≥ 256
    · rw [if_pos hfits, hresult]
      exact IsError.asTold ⟨"command too long", rfl⟩ _ _
    · rw [if_neg hfits, hresult]
      obtain ⟨reply, herror, hrefused⟩ := setCommand_refused outcome fun h =>
        haccepts ⟨Nat.not_le.mp hfits, h.1, h.2⟩
      rw [hrefused]
      exact herror.asTold _ _

/-! ### A coding rate out of range -/

/-- Floats without a fraction, which are all that the examples have. -/
def wholeExternals : Externals Int where
  strtof := strtol 32 10
  freqInRange freq := 2400 ≤ freq ∧ freq ≤ 2500
  isAllowedBitrate kbps := kbps ∈ [260, 325, 520, 650, 1040, 1300]
  radiolibShaping05 := 0x02
  radiolibShaping10 := 0x04

/-- The state behind a boot with the defaults of `config.h`. -/
def bootState : ControlState Int where
  modemConfig := {
    freqMHz := 2480
    bitrateKbps := 325
    codingRate := 2
    txPowerDbm := 5
    preambleBits := 32
    shaping := 0x04
    syncWord := fun i => [0x7E, 0xC5, 0xA2, 0x3D].getD i 0
    lbtRssiThresholdDbm := 0 }
  modemConfigSource := .defaults

/-- `cr=258` is taken for `cr=2`. -/
theorem not_setsAsTold : ¬ ∀ (F : Type) (x : Externals F) (state : ControlState F)
    (data : List UInt8) (outcome : SetOutcome), SetsAsTold x state data outcome := by
  intro h
  have hresult : (handleControlCommand wholeExternals bootState (ascii "SET cr=258")
      ⟨0, true, 24⟩).map Prod.fst = some "OK saved" := by decide +kernel
  obtain ⟨reply, state', hreply, hsaved, _⟩ := h Int wholeExternals bootState (ascii "SET cr=258")
    ⟨0, true, 24⟩ (ascii "SET") [ascii "cr=258"] (by decide +kernel) (by decide +kernel)
  rw [hreply] at hresult
  obtain ⟨n, hdecimal, hrange, _⟩ := hsaved (Option.some.inj hresult) .cr (ascii "258")
    (by decide +kernel)
  have hn : n = 258 := Option.some.inj (hdecimal.symm.trans (by decide +kernel))
  rw [hn] at hrange
  simp [IntKey.InRange] at hrange

end FlrcTnc.Config

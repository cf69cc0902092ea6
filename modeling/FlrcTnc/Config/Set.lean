import FlrcTnc.Config.Modem

/-! The `SET` command of `handleControlCommand`. -/

namespace FlrcTnc.Config

open CText

variable {F : Type} (x : Externals F)

/-! ### The command -/

inductive SetKey
  | freq | bitrate | cr | power | preamble | bt | sync | lbt | transport
  deriving DecidableEq, Repr

namespace SetKey

def text : SetKey → List UInt8
  | freq => ascii "freq"
  | bitrate => ascii "bitrate"
  | cr => ascii "cr"
  | power => ascii "power"
  | preamble => ascii "preamble"
  | bt => ascii "bt"
  | sync => ascii "sync"
  | lbt => ascii "lbt"
  | transport => ascii "transport"

/-- The order of the comparisons. -/
def all : List SetKey := [freq, bitrate, cr, power, preamble, bt, sync, lbt, transport]

/-- The comparisons with `strcasecmp`. -/
def ofText (key : List UInt8) : Option SetKey := all.find? fun k => equalsIgnoreCase key k.text

end SetKey

/-- A value for a key, or the reply to one that cannot be read. -/
def readValue {α : Type} (value : Option α) (reply : String) : Except String α :=
  match value with
  | none => .error reply
  | some a => .ok a

def parseTransport (value : List UInt8) : Option Serial.TransportMode :=
  if equalsIgnoreCase value (ascii "native") then some .nativePacket
  else if equalsIgnoreCase value (ascii "generic") then some .genericFragmented
  else none

/-- `RADIOLIB_SHAPING_0_5` for zero, and otherwise `RADIOLIB_SHAPING_1_0`. -/
def shapingOf (n : Int) : UInt8 := if n = 0 then x.radiolibShaping05 else x.radiolibShaping10

/-- One `key=value` of the loop. -/
def setToken (next : ModemConfig F) (token : List UInt8) : Except String (ModemConfig F) :=
  match keyValue token with
  | none => .error "ERR expected key=value"
  | some (key, value) =>
    match SetKey.ofText key with
    | some .freq => do
      let freqMHz ← readValue (parseFloatValue x value) "ERR invalid freq"
      return { next with freqMHz }
    | some .bitrate => do
      let bitrateKbps ← readValue (parseFloatValue x value) "ERR invalid bitrate"
      return { next with bitrateKbps }
    | some .cr => do
      let ivalue ← readValue (parseIntValue value) "ERR invalid cr"
      return { next with codingRate := UInt8.ofInt ivalue }
    | some .power => do
      let ivalue ← readValue (parseIntValue value) "ERR invalid power"
      return { next with txPowerDbm := Int8.ofInt ivalue }
    | some .preamble => do
      let ivalue ← readValue (parseIntValue value) "ERR invalid preamble"
      return { next with preambleBits := UInt8.ofInt ivalue }
    | some .bt => do
      let ivalue ← readValue (parseIntValue value) "ERR invalid bt"
      return { next with shaping := shapingOf x ivalue }
    | some .sync => do
      let syncWord ← readValue (modemParseSyncWord value) "ERR invalid sync"
      return { next with syncWord }
    | some .lbt => do
      let ivalue ← readValue (parseIntValue value) "ERR invalid lbt"
      return { next with lbtRssiThresholdDbm := Int16.ofInt ivalue }
    | some .transport => do
      let transportMode ← readValue (parseTransport value)
        "ERR invalid transport (use native or generic)"
      return { next with transportMode }
    | none => .error "ERR unknown key"

/-- The loop over the tokens. -/
def setTokens (next : ModemConfig F) (line : List (List UInt8)) : Except String (ModemConfig F) :=
  line.foldlM (setToken x) next

/-- The statics of `main.cpp` that the command changes. -/
structure ControlState (F : Type) where
  modemConfig : ModemConfig F
  modemConfigSource : ModemConfigSource

/-- What comes back from outside in the course of a command: the result of `requestApplyConfig`, and
what flash does. -/
structure SetOutcome where
  applied : Int16
  flash : FlashOutcome

/-- `RADIOLIB_ERR_NONE`. -/
def radiolibErrNone : Int16 := 0

/-- `SET` with the tokens behind it: the reply, and the state behind it. -/
def setCommand (state : ControlState F) (line : List (List UInt8)) (outcome : SetOutcome) :
    String × ControlState F :=
  match setTokens x state.modemConfig line with
  | .error reply => (reply, state)
  | .ok next =>
    match modemValidateConfig x next with
    | .error message => ("ERR " ++ message, state)
    | .ok () =>
      if outcome.applied ≠ radiolibErrNone then
        ("ERR radio=" ++ toString outcome.applied.toInt, state)
      else if ¬ modemSaveConfig x next outcome.flash then
        ("ERR save failed", { state with modemConfig := next })
      else ("OK saved", { state with modemConfig := next, modemConfigSource := .nvs })

def isDelim (c : UInt8) : Bool := c ∈ ascii " \t\r\n"

/-- The verbs that are looked for before `SET`. -/
def otherVerbs : List (List UInt8) :=
  ["GET", "STATS", "DIAG", "DEFAULTS", "SCAN"].map ascii

/-- `handleControlCommand`, as far as it is not about another verb. -/
def handleControlCommand (state : ControlState F) (data : List UInt8) (outcome : SetOutcome) :
    Option (String × ControlState F) :=
  if data.length ≥ 256 then some ("ERR command too long", state)
  else
    match tokens isDelim (cString data) with
    | [] => some ("ERR empty command", state)
    | verb :: line =>
      if otherVerbs.any (equalsIgnoreCase verb) then none
      else if ¬ equalsIgnoreCase verb (ascii "SET") then
        some ("ERR expected GET, SET, SCAN, DIAG, or DEFAULTS", state)
      else some (setCommand x state line outcome)

/-! ### What a line says -/

/-- The value that a token has for a key. -/
def valueIn (k : SetKey) (token : List UInt8) : Option (List UInt8) :=
  match keyValue token with
  | none => none
  | some (key, value) => if equalsIgnoreCase key k.text then some value else none

/-- The last value of a key on the line. -/
def lastValue (line : List (List UInt8)) (k : SetKey) : Option (List UInt8) :=
  line.reverse.findSome? (valueIn k)

/-- The value can be read for the key. -/
def SetKey.reads (k : SetKey) (value : List UInt8) : Bool :=
  match k with
  | freq | bitrate => (parseFloatValue x value).isSome
  | cr | power | preamble | bt | lbt => (parseIntValue value).isSome
  | sync => (modemParseSyncWord value).isSome
  | transport => (parseTransport value).isSome

/-- The token is a key with a value that can be read for it. -/
def Readable (token : List UInt8) : Prop :=
  ∃ key value k, keyValue token = some (key, value) ∧ SetKey.ofText key = some k ∧ k.reads x value

/-- The configuration with the last values on the line, read as the source does. -/
def told (config : ModemConfig F) (line : List (List UInt8)) : ModemConfig F where
  magic := config.magic
  freqMHz := (lastValue line .freq).elim config.freqMHz fun value => (x.strtof value).1
  bitrateKbps := (lastValue line .bitrate).elim config.bitrateKbps fun value => (x.strtof value).1
  codingRate := (lastValue line .cr).elim config.codingRate fun value =>
    UInt8.ofInt (strtol longBits 10 value).1
  txPowerDbm := (lastValue line .power).elim config.txPowerDbm fun value =>
    Int8.ofInt (strtol longBits 10 value).1
  preambleBits := (lastValue line .preamble).elim config.preambleBits fun value =>
    UInt8.ofInt (strtol longBits 10 value).1
  shaping := (lastValue line .bt).elim config.shaping fun value =>
    shapingOf x (strtol longBits 10 value).1
  syncWord := (lastValue line .sync).elim config.syncWord fun value =>
    (modemParseSyncWord value).getD fun _ => 0
  lbtRssiThresholdDbm := (lastValue line .lbt).elim config.lbtRssiThresholdDbm fun value =>
    Int16.ofInt (strtol longBits 10 value).1
  transportMode := (lastValue line .transport).elim config.transportMode fun value =>
    (parseTransport value).getD .genericFragmented

variable {x}

theorem SetKey.ofText_iff {key : List UInt8} {k : SetKey} :
    SetKey.ofText key = some k ↔ equalsIgnoreCase key k.text := by
  have hdistinct : ∀ k ∈ all, ∀ k' ∈ all, equalsIgnoreCase k.text k'.text → k = k' := by
    decide +kernel
  have hall (k : SetKey) : k ∈ all := by cases k <;> decide
  constructor
  · exact fun h => List.find?_some (p := fun k : SetKey => equalsIgnoreCase key k.text) h
  · intro h
    cases hfind : SetKey.ofText key with
    | none => exact absurd h (List.find?_eq_none.mp hfind k (hall k))
    | some k' =>
      have h' : equalsIgnoreCase key k'.text :=
        List.find?_some (p := fun k : SetKey => equalsIgnoreCase key k.text) hfind
      simp only [equalsIgnoreCase, decide_eq_true_eq] at h h' hdistinct
      rw [hdistinct k' (hall k') k (hall k) (h'.symm.trans h)]

theorem valueIn_eq {token key value : List UInt8} {k : SetKey}
    (htoken : keyValue token = some (key, value)) (hkey : SetKey.ofText key = some k)
    (k' : SetKey) : valueIn k' token = if k = k' then some value else none := by
  rw [valueIn, htoken]
  dsimp only
  by_cases hk : k = k'
  · rw [if_pos hk, if_pos (SetKey.ofText_iff.mp (hk ▸ hkey))]
  · rw [if_neg hk, if_neg]
    intro h
    exact hk (Option.some.inj (hkey.symm.trans (SetKey.ofText_iff.mpr h)))

@[simp] theorem lastValue_nil (k : SetKey) : lastValue [] k = none := rfl

theorem lastValue_cons (token : List UInt8) (line : List (List UInt8)) (k : SetKey) :
    lastValue (token :: line) k = (lastValue line k).or (valueIn k token) := by
  unfold lastValue
  rw [List.reverse_cons, List.findSome?_append, List.findSome?_singleton]

theorem told_nil (config : ModemConfig F) : told x config [] = config := rfl

theorem told_cons (config : ModemConfig F) (token : List UInt8) (line : List (List UInt8)) :
    told x config (token :: line) = told x (told x config [token]) line := by
  have helim {α β : Type} (a b : Option α) (c : β) (f : α → β) :
      (a.or b).elim c f = a.elim (b.elim c f) f := by
    cases a <;> rfl
  simp only [told, lastValue_cons, helim, lastValue_nil, Option.elim_none]

/-- A value that is read and put in its place. -/
theorem readValue_bind_iff {α : Type} {value : Option α} {a : α}
    (ha : ∀ b, value = some b → b = a) (reply : String) (put : α → ModemConfig F)
    {next : ModemConfig F} :
    (readValue value reply >>= fun b => pure (put b)) = .ok next ↔
      value.isSome ∧ next = put a := by
  cases value with
  | none => exact ⟨nofun, fun h => absurd h.1 Bool.false_ne_true⟩
  | some b =>
    rw [← ha b rfl]
    exact ⟨fun h => ⟨rfl, (Except.ok.inj h).symm⟩, fun h => congrArg Except.ok h.2.symm⟩

theorem parseIntValue_eq {value : List UInt8} (n : Int) (h : parseIntValue value = some n) :
    n = (strtol longBits 10 value).1 := by
  unfold parseIntValue at h
  dsimp only at h
  split at h
  · cases h
  · exact (Option.some.inj h).symm

theorem parseFloatValue_eq {value : List UInt8} (f : F) (h : parseFloatValue x value = some f) :
    f = (x.strtof value).1 := by
  unfold parseFloatValue at h
  dsimp only at h
  split at h
  · cases h
  · exact (Option.some.inj h).symm

theorem eq_getD {α : Type} {value : Option α} (d a : α) (h : value = some a) :
    a = value.getD d := by
  rw [h]
  rfl

/-- One token. -/
theorem setToken_iff {config next : ModemConfig F} {token : List UInt8} :
    setToken x config token = .ok next ↔ Readable x token ∧ next = told x config [token] := by
  unfold setToken Readable
  cases htoken : keyValue token with
  | none => simp
  | some keyvalue =>
    obtain ⟨key, value⟩ := keyvalue
    dsimp only
    cases hkey : SetKey.ofText key with
    | none => simp [hkey]
    | some k =>
      have hvalue (k' : SetKey) : lastValue [token] k' = if k = k' then some value else none := by
        rw [lastValue_cons, lastValue_nil, Option.none_or, valueIn_eq htoken hkey]
      have hreads : (∃ key' value' k', some (key, value) = some (key', value') ∧
          SetKey.ofText key' = some k' ∧ k'.reads x value') ↔ k.reads x value := by
        simp [hkey]
      rw [hreads, told]
      simp only [hvalue]
      cases k with
      | freq =>
        exact readValue_bind_iff parseFloatValue_eq _ fun freqMHz => { config with freqMHz }
      | bitrate =>
        exact readValue_bind_iff parseFloatValue_eq _ fun bitrateKbps => { config with bitrateKbps }
      | cr =>
        exact readValue_bind_iff parseIntValue_eq _ fun n =>
          { config with codingRate := UInt8.ofInt n }
      | power =>
        exact readValue_bind_iff parseIntValue_eq _ fun n =>
          { config with txPowerDbm := Int8.ofInt n }
      | preamble =>
        exact readValue_bind_iff parseIntValue_eq _ fun n =>
          { config with preambleBits := UInt8.ofInt n }
      | bt =>
        exact readValue_bind_iff parseIntValue_eq _ fun n =>
          { config with shaping := shapingOf x n }
      | sync =>
        exact readValue_bind_iff (eq_getD _) _ fun syncWord => { config with syncWord }
      | lbt =>
        exact readValue_bind_iff parseIntValue_eq _ fun n =>
          { config with lbtRssiThresholdDbm := Int16.ofInt n }
      | transport =>
        exact readValue_bind_iff (eq_getD _) _ fun transportMode => { config with transportMode }

/-- The loop reads every token, and comes to what the line says. -/
theorem setTokens_iff {config next : ModemConfig F} {line : List (List UInt8)} :
    setTokens x config line = .ok next ↔
      (∀ token ∈ line, Readable x token) ∧ next = told x config line := by
  induction line generalizing config with
  | nil =>
    rw [told_nil]
    simp [setTokens, eq_comm, pure, Except.pure]
  | cons token line ih =>
    rw [told_cons, List.forall_mem_cons, and_assoc, setTokens, List.foldlM_cons]
    cases hfirst : setToken x config token with
    | error reply =>
      refine ⟨nofun, ?_⟩
      rintro ⟨hreadable, _⟩
      rw [setToken_iff.mpr ⟨hreadable, rfl⟩] at hfirst
      cases hfirst
    | ok config' =>
      obtain ⟨hreadable, rfl⟩ := setToken_iff.mp hfirst
      exact ih.trans ⟨fun h => ⟨hreadable, h⟩, fun h => h.2⟩

end FlrcTnc.Config

import FlrcTnc.Config.Modem
import Mathlib.Tactic.FinCases

/-! Sync words as text: which texts `modemParseSyncWord` takes, and what `modemFormatSyncWord` makes
of the word again. -/

namespace FlrcTnc.Config

open CText

/-- The string that `modemFormatSyncWord` leaves in a buffer of so many bytes. -/
def modemFormatSyncWord (sync : Fin 4 → UInt8) (outLen : Nat) : Option (List UInt8) :=
  if outLen = 0 then none
  else some (((List.finRange 4).flatMap fun i => hexByte (sync i)).take (outLen - 1))

/-- The two characters of byte `i`. -/
def syncPair (text : List UInt8) (i : Fin 4) : List UInt8 := (text.drop (i * 2)).take 2

def isHexPair : List UInt8 → Bool
  | [a, b] => isDigit 16 a && isDigit 16 b
  | _ => false

/-- A space or a plus sign before one digit, or a minus sign before `0`. -/
def isLoosePair : List UInt8 → Bool
  | [a, b] => (isSpace a || a = 43) && isDigit 16 b || a = 45 && b = 48
  | _ => false

/-! ### Pairs -/

/-- `modemParseSyncWord` on one pair. -/
theorem parseSyncByte_eq {text pair : List UInt8} {i : Fin 4} (h : syncPair text i = pair) :
    parseSyncByte text i =
      if (strtol longBits 16 pair).2 ≠ [] ∨ (strtol longBits 16 pair).1 < 0 ∨
        (strtol longBits 16 pair).1 > 255 then none
      else some (UInt8.ofInt (strtol longBits 16 pair).1) := by
  subst h
  rfl

theorem clamp_small {n : Int} (hlow : -16 < n) (hhigh : n < 256) : clamp longBits n = n :=
  clamp_of_mem (by norm_num [longBits]; omega) (by norm_num [longBits]; omega)

/-- Two digits are one number. -/
theorem strtol_hexPair {a b : UInt8} (ha : isDigit 16 a) (hb : isDigit 16 b) :
    strtol longBits 16 [a, b] =
      (Int.ofNat ((digitValue a).getD 0 * 16 + (digitValue b).getD 0), []) := by
  obtain ⟨hspace, hplus, hminus, hless, -⟩ := hex_digit a ha
  obtain ⟨-, -, -, hless', -⟩ := hex_digit b hb
  have hsign : takeSign (List.dropWhile isSpace [a, b]) = (false, [a, b]) := by
    rw [List.dropWhile_cons_of_neg (by rw [hspace]; decide), takeSign_unsigned _ hplus hminus]
  rw [strtol_short hsign (Nat.le_refl 2), List.takeWhile_cons_of_pos ha,
    List.takeWhile_cons_of_pos hb, List.dropWhile_cons_of_pos ha, List.dropWhile_cons_of_pos hb]
  simp only [List.takeWhile_nil, List.dropWhile_nil, reduceCtorEq, if_false, signed, digitsValue,
    List.foldl_cons, List.foldl_nil, Nat.zero_mul, Nat.zero_add]
  rw [clamp_small (by omega) (by omega)]
  rfl

/-- One digit behind spaces or a sign is a number. -/
theorem strtol_digit {a b : UInt8} {negative : Bool}
    (hsign : takeSign (List.dropWhile isSpace [a, b]) = (negative, [b])) (hb : isDigit 16 b) :
    strtol longBits 16 [a, b] = (signed negative ((digitValue b).getD 0), []) := by
  obtain ⟨-, -, -, hless, -⟩ := hex_digit b hb
  rw [strtol_short hsign (by simp), List.takeWhile_cons_of_pos hb, List.dropWhile_cons_of_pos hb]
  simp only [List.takeWhile_nil, List.dropWhile_nil, reduceCtorEq, if_false, digitsValue,
    List.foldl_cons, List.foldl_nil, Nat.zero_mul, Nat.zero_add]
  rw [clamp_small]
  · unfold signed
    split <;> omega
  · unfold signed
    split <;> omega

/-- Without a digit `strtol` takes nothing. -/
theorem strtol_no_digit {text subject : List UInt8} {negative : Bool}
    (hsign : takeSign (text.dropWhile isSpace) = (negative, subject)) (h : subject.length ≤ 2)
    (hnone : subject.takeWhile (isDigit 16) = []) : strtol longBits 16 text = (0, text) := by
  rw [strtol_short hsign h, if_pos hnone]

theorem dropWhile_isSpace_of_not {a : UInt8} (text : List UInt8) (h : isSpace a = false) :
    List.dropWhile isSpace (a :: text) = a :: text :=
  List.dropWhile_cons_of_neg (by rw [h]; exact Bool.false_ne_true)

/-- Nothing but spaces, a sign and what is no digit: `strtol` takes nothing. -/
theorem strtol_space_no_digit {a b : UInt8} (ha : isSpace a) (hb : isDigit 16 b = false) :
    strtol longBits 16 [a, b] = (0, [a, b]) := by
  have hdrop : List.dropWhile isSpace [a, b] = List.dropWhile isSpace [b] :=
    List.dropWhile_cons_of_pos ha
  by_cases hspace : isSpace b
  · have hnil : takeSign (List.dropWhile isSpace [a, b]) = (false, []) := by
      rw [hdrop, List.dropWhile_cons_of_pos hspace]
      rfl
    exact strtol_no_digit hnil (Nat.zero_le 2) rfl
  · rw [Bool.not_eq_true] at hspace
    rw [dropWhile_isSpace_of_not [] hspace] at hdrop
    by_cases hplus : b = 43
    · subst hplus
      exact strtol_no_digit (congrArg takeSign hdrop) (Nat.zero_le 2) rfl
    by_cases hminus : b = 45
    · subst hminus
      exact strtol_no_digit (congrArg takeSign hdrop) (Nat.zero_le 2) rfl
    · have hsign := (congrArg takeSign hdrop).trans (takeSign_unsigned [] hplus hminus)
      exact strtol_no_digit hsign (by simp)
        (List.takeWhile_cons_of_neg (by rw [hb]; exact Bool.false_ne_true))

variable {text : List UInt8} {i : Fin 4} {a b : UInt8}

theorem parseSyncByte_hex (h : syncPair text i = [a, b]) (ha : isDigit 16 a) (hb : isDigit 16 b) :
    parseSyncByte text i =
      some (UInt8.ofNat ((digitValue a).getD 0 * 16 + (digitValue b).getD 0)) := by
  obtain ⟨-, -, -, hless, -⟩ := hex_digit a ha
  obtain ⟨-, -, -, hless', -⟩ := hex_digit b hb
  rw [parseSyncByte_eq h, strtol_hexPair ha hb, if_neg]
  · refine congrArg some (congrArg UInt8.ofNat ?_)
    simp only [Int.ofNat_eq_natCast]
    omega
  · simp only [ne_eq, not_true_eq_false, false_or, Int.ofNat_eq_natCast]
    omega

theorem parseSyncByte_loose (h : syncPair text i = [a, b]) (hloose : isLoosePair [a, b]) :
    (parseSyncByte text i).isSome := by
  have hparse (negative : Bool)
      (hsign : takeSign (List.dropWhile isSpace [a, b]) = (negative, [b])) (hb : isDigit 16 b)
      (hvalue : 0 ≤ signed negative ((digitValue b).getD 0)) :
      (parseSyncByte text i).isSome := by
    obtain ⟨-, -, -, hless, -⟩ := hex_digit b hb
    rw [parseSyncByte_eq h, strtol_digit hsign hb, if_neg]
    · rfl
    · simp only [ne_eq, not_true_eq_false, false_or]
      have hmax : signed negative ((digitValue b).getD 0) ≤ 255 := by
        unfold signed
        split <;> omega
      omega
  simp only [isLoosePair, Bool.or_eq_true, Bool.and_eq_true, decide_eq_true_eq] at hloose
  rcases hloose with ⟨hspace | rfl, hb⟩ | ⟨rfl, rfl⟩
  · obtain ⟨hnospace, hplus, hminus, -⟩ := hex_digit b hb
    refine hparse false ?_ hb (Int.natCast_nonneg _)
    rw [List.dropWhile_cons_of_pos hspace, dropWhile_isSpace_of_not [] hnospace,
      takeSign_unsigned [] hplus hminus]
  · exact hparse false rfl hb (Int.natCast_nonneg _)
  · exact hparse true rfl (by decide) (by decide)

theorem parseSyncByte_none (h : syncPair text i = [a, b]) (hhex : ¬ isHexPair [a, b])
    (hloose : ¬ isLoosePair [a, b]) : parseSyncByte text i = none := by
  have hrefused (hnone : strtol longBits 16 [a, b] = (0, [a, b])) :
      parseSyncByte text i = none := by
    rw [parseSyncByte_eq h, hnone, if_pos (.inl (by simp))]
  simp only [isHexPair, Bool.and_eq_true, not_and, Bool.not_eq_true] at hhex
  simp only [isLoosePair, Bool.or_eq_true, Bool.and_eq_true, decide_eq_true_eq, not_or, not_and,
    Bool.not_eq_true] at hloose
  obtain ⟨hdigit, hzero⟩ := hloose
  by_cases hspace : isSpace a
  · exact hrefused (strtol_space_no_digit hspace (hdigit (.inl hspace)))
  rw [Bool.not_eq_true] at hspace
  have hdrop := dropWhile_isSpace_of_not [b] hspace
  by_cases hplus : a = 43
  · subst hplus
    exact hrefused (strtol_no_digit (congrArg takeSign hdrop) (by simp)
      (List.takeWhile_cons_of_neg (by rw [hdigit (.inr rfl)]; exact Bool.false_ne_true)))
  by_cases hminus : a = 45
  · subst hminus
    have hsign : takeSign (List.dropWhile isSpace [45, b]) = (true, [b]) := congrArg takeSign hdrop
    by_cases hb : isDigit 16 b
    · -- a number below 0
      rw [parseSyncByte_eq h, strtol_digit hsign hb, if_pos]
      have hpositive := mt (digitValue_eq_zero b hb).mp (hzero rfl)
      refine .inr (.inl ?_)
      change -((digitValue b).getD 0 : Int) < 0
      omega
    · exact hrefused (strtol_no_digit hsign (by simp) (List.takeWhile_cons_of_neg hb))
  · have hsign := (congrArg takeSign hdrop).trans (takeSign_unsigned [b] hplus hminus)
    by_cases ha : isDigit 16 a
    · -- one digit, and something else behind it
      have hb := hhex ha
      have hrest : (strtol longBits 16 [a, b]).2 ≠ [] := by
        rw [strtol_short hsign (Nat.le_refl 2), List.takeWhile_cons_of_pos ha,
          List.dropWhile_cons_of_pos ha, if_neg (by simp)]
        simp [hb]
      rw [parseSyncByte_eq h, if_pos (.inl hrest)]
    · exact hrefused (strtol_no_digit hsign (Nat.le_refl 2) (List.takeWhile_cons_of_neg ha))

/-! ### Words -/

theorem syncPair_eq_pair (h : text.length = 8) (i : Fin 4) : ∃ a b, syncPair text i = [a, b] := by
  apply List.length_eq_two.mp
  rw [syncPair, List.length_take, List.length_drop, h]
  omega

/-- A text of eight characters is its four pairs. -/
theorem flatMap_syncPair (h : text.length = 8) :
    (List.finRange 4).flatMap (syncPair text) = text := by
  match text, h with
  | [_, _, _, _, _, _, _, _], _ => rfl

/-- Each pair is two digits or loose. -/
theorem modemParseSyncWord_isSome (text : List UInt8) : (modemParseSyncWord text).isSome ↔
    text.length = 8 ∧ ∀ i, isHexPair (syncPair text i) ∨ isLoosePair (syncPair text i) := by
  unfold modemParseSyncWord
  by_cases h : text.length = 8
  · have hpair (i : Fin 4) : (parseSyncByte text i).isSome ↔
        isHexPair (syncPair text i) ∨ isLoosePair (syncPair text i) := by
      obtain ⟨a, b, hab⟩ := syncPair_eq_pair h i
      rw [hab]
      by_cases hloose : isLoosePair [a, b]
      · exact ⟨fun _ => .inr hloose, fun _ => parseSyncByte_loose hab hloose⟩
      by_cases hhex : isHexPair [a, b]
      · simp only [isHexPair, Bool.and_eq_true] at hhex
        rw [parseSyncByte_hex hab hhex.1 hhex.2]
        simp [isHexPair, hhex]
      · rw [parseSyncByte_none hab hhex hloose]
        simp [hhex, hloose]
    rw [if_neg (not_not.mpr h)]
    simp only [← hpair, h, true_and]
    constructor
    · intro hsome i
      split at hsome
      · cases hsome
      · next hall =>
        rw [List.any_eq_true] at hall
        by_contra hnone
        exact hall ⟨i, List.mem_finRange i, by simpa using hnone⟩
    · intro hall
      rw [if_neg]
      · rfl
      · rw [List.any_eq_true]
        rintro ⟨i, -, hnone⟩
        have hsome := hall i
        rw [Option.isNone_iff_eq_none] at hnone
        rw [hnone] at hsome
        cases hsome
  · rw [if_pos h]
    simp [h]

/-- The bytes of a word that was read. -/
theorem parseSyncByte_of_modemParseSyncWord {word : Fin 4 → UInt8}
    (h : modemParseSyncWord text = some word) (i : Fin 4) :
    parseSyncByte text i = some (word i) := by
  unfold modemParseSyncWord at h
  split at h
  · cases h
  split at h
  · cases h
  next hall =>
  cases h
  rw [List.any_eq_true] at hall
  cases hbyte : parseSyncByte text i with
  | none => exact absurd ⟨i, List.mem_finRange i, by rw [hbyte]; rfl⟩ hall
  | some byte => simp [hbyte]

theorem isHexPair_iff (pair : List UInt8) (h : ∃ a b, pair = [a, b]) :
    isHexPair pair ↔ ∀ c ∈ pair, isDigit 16 c := by
  obtain ⟨a, b, rfl⟩ := h
  simp [isHexPair]

theorem forall_digit_iff (h : text.length = 8) :
    (∀ c ∈ text, isDigit 16 c) ↔ ∀ i, isHexPair (syncPair text i) := by
  have hpairs (i : Fin 4) := isHexPair_iff _ (syncPair_eq_pair h i)
  constructor
  · intro hall i
    rw [hpairs]
    intro c hc
    refine hall c ?_
    rw [← flatMap_syncPair h]
    exact List.mem_flatMap.mpr ⟨i, List.mem_finRange i, hc⟩
  · intro hall c hc
    rw [← flatMap_syncPair h] at hc
    obtain ⟨i, -, hc⟩ := List.mem_flatMap.mp hc
    exact (hpairs i).mp (hall i) c hc

theorem not_loose_of_hex {pair : List UInt8} (h : isHexPair pair) : ¬ isLoosePair pair := by
  unfold isHexPair at h
  split at h
  · next a b =>
    rw [Bool.and_eq_true] at h
    obtain ⟨hspace, hplus, hminus, -⟩ := hex_digit a h.1
    simp [isLoosePair, hspace, hplus, hminus]
  · cases h

/-- Two digits are printed in lower case. -/
theorem hexByte_of_digits {a b : UInt8} (ha : isDigit 16 a) (hb : isDigit 16 b) :
    hexByte (UInt8.ofNat ((digitValue a).getD 0 * 16 + (digitValue b).getD 0)) =
      [a, b].map toLower := by
  obtain ⟨-, -, -, hless, hprint⟩ := hex_digit a ha
  obtain ⟨-, -, -, hless', hprint'⟩ := hex_digit b hb
  generalize (digitValue a).getD 0 = n at hless hprint ⊢
  generalize (digitValue b).getD 0 = m at hless' hprint' ⊢
  have hhigh : UInt8.ofNat (n * 16 + m) / 16 = UInt8.ofNat n := by
    apply UInt8.toNat_inj.mp
    simp only [UInt8.toNat_div, UInt8.toNat_ofNat', UInt8.reduceToNat]
    omega
  have hlow : UInt8.ofNat (n * 16 + m) % 16 = UInt8.ofNat m := by
    apply UInt8.toNat_inj.mp
    simp only [UInt8.toNat_mod, UInt8.toNat_ofNat', UInt8.reduceToNat]
    omega
  rw [hexByte, hhigh, hlow, hprint, hprint']
  rfl

theorem modemFormatSyncWord_of_room (word : Fin 4 → UInt8) {outLen : Nat} (h : 8 < outLen) :
    modemFormatSyncWord word outLen =
      some ((List.finRange 4).flatMap fun i => hexByte (word i)) := by
  have hlength : ((List.finRange 4).flatMap fun i => hexByte (word i)).length = 8 := rfl
  rw [modemFormatSyncWord, if_neg (by omega), List.take_of_length_le (by omega)]

/-- What is printed reads back. -/
theorem modemParseSyncWord_format (word : Fin 4 → UInt8) :
    modemParseSyncWord ((List.finRange 4).flatMap fun i => hexByte (word i)) = some word := by
  obtain ⟨text, htext⟩ : ∃ text, text = (List.finRange 4).flatMap fun i => hexByte (word i) :=
    ⟨_, rfl⟩
  have hlength : text.length = 8 := by
    rw [htext]
    rfl
  have hpair (i : Fin 4) : syncPair text i = hexByte (word i) := by
    rw [htext]
    fin_cases i <;> rfl
  have hhigh (i : Fin 4) := isDigit_hexDigit (word i / 16) (by
    rw [UInt8.lt_iff_toNat_lt, UInt8.toNat_div]
    have := (word i).toNat_lt
    simp only [UInt8.reduceToNat]
    omega)
  have hlow (i : Fin 4) := isDigit_hexDigit (word i % 16) (by
    rw [UInt8.lt_iff_toNat_lt, UInt8.toNat_mod]
    simp only [UInt8.reduceToNat]
    omega)
  have hbyte (i : Fin 4) : parseSyncByte text i = some (word i) := by
    rw [parseSyncByte_hex (hpair i) (hhigh i).1 (hlow i).1, (hhigh i).2, (hlow i).2]
    refine congrArg some (UInt8.toNat_inj.mp ?_)
    have := (word i).toNat_lt
    simp only [UInt8.toNat_ofNat', UInt8.toNat_div, UInt8.toNat_mod, UInt8.reduceToNat]
    omega
  rw [← htext, modemParseSyncWord, if_neg (not_not.mpr hlength)]
  simp only [hbyte]
  rfl

/-- The text is taken just if it is eight hexadecimal digits, and what is taken is printed in lower
case. -/
structure SyncTextRight (text : List UInt8) : Prop where
  accepted : (modemParseSyncWord text).isSome ↔ text.length = 8 ∧ ∀ c ∈ text, isDigit 16 c
  printed : ∀ word outLen, modemParseSyncWord text = some word → 8 < outLen →
    modemFormatSyncWord word outLen = some (text.map toLower)

/-- Every word reads back as it was printed.  A text is treated as it should be just if it is not
one of eight characters whose pairs are of two digits or loose, with a loose one among them. -/
theorem syncWord_grammar_iff (text : List UInt8) :
    (∀ (word : Fin 4 → UInt8) (outLen : Nat), 8 < outLen →
      (modemFormatSyncWord word outLen).bind modemParseSyncWord = some word) ∧
    (SyncTextRight text ↔
      (text.length = 8 →
        (∀ i, isHexPair (syncPair text i) ∨ isLoosePair (syncPair text i)) →
        ∀ i, ¬ isLoosePair (syncPair text i))) := by
  refine ⟨fun word outLen hroom => ?_, fun h hlength hpairs i => ?_, fun h => ?_⟩
  · rw [modemFormatSyncWord_of_room word hroom]
    exact modemParseSyncWord_format word
  · have hdigits := (h.accepted.mp ((modemParseSyncWord_isSome text).mpr ⟨hlength, hpairs⟩)).2
    exact not_loose_of_hex ((forall_digit_iff hlength).mp hdigits i)
  · have haccepted : (modemParseSyncWord text).isSome ↔
        text.length = 8 ∧ ∀ c ∈ text, isDigit 16 c := by
      rw [modemParseSyncWord_isSome]
      constructor
      · rintro ⟨hlength, hpairs⟩
        exact ⟨hlength, (forall_digit_iff hlength).mpr fun i =>
          (hpairs i).resolve_right (h hlength hpairs i)⟩
      · rintro ⟨hlength, hdigits⟩
        exact ⟨hlength, fun i => .inl ((forall_digit_iff hlength).mp hdigits i)⟩
    refine ⟨haccepted, fun word outLen hword hroom => ?_⟩
    obtain ⟨hlength, hdigits⟩ := haccepted.mp (by rw [hword]; rfl)
    rw [modemFormatSyncWord_of_room word hroom]
    refine congrArg some ?_
    rw [← flatMap_syncPair hlength, List.map_flatMap]
    refine List.flatMap_congr fun i _ => ?_
    obtain ⟨a, b, hab⟩ := syncPair_eq_pair hlength i
    have hhex := (forall_digit_iff hlength).mp hdigits i
    rw [hab, isHexPair, Bool.and_eq_true] at hhex
    have hbyte := (parseSyncByte_of_modemParseSyncWord hword i).symm.trans
      (parseSyncByte_hex hab hhex.1 hhex.2)
    rw [Option.some.inj hbyte, hab, hexByte_of_digits hhex.1 hhex.2]

theorem syncWord_grammar_iff_eight :
    (modemFormatSyncWord (fun _ => 0xC3) 9).bind modemParseSyncWord = some fun _ => 0xC3 :=
  (syncWord_grammar_iff []).1 (fun _ => 0xC3) 9 (by decide)

/-- A sign passes for a digit. -/
theorem signedSyncWord_taken : ¬ SyncTextRight (ascii "+1234567") := by
  intro h
  have hdigits := (h.accepted.mp (by decide +kernel)).2
  exact absurd (hdigits 43 (by decide +kernel)) (by decide)

end FlrcTnc.Config

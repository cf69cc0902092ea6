import Mathlib.Data.FinEnum
import Mathlib.Data.List.TakeWhile
import Mathlib.Data.UInt

/-! Strings of C as lists of bytes without the NUL, and the functions of its library that read them.
-/

namespace CText

def ascii (s : String) : List UInt8 := s.toList.map fun c => UInt8.ofNat c.toNat

/-- The string at the start of a buffer. -/
def cString (data : List UInt8) : List UInt8 := data.takeWhile fun c => c ≠ 0

/-- `isspace`. -/
def isSpace (c : UInt8) : Bool := c = 32 ∨ (9 ≤ c ∧ c ≤ 13)

def toLower (c : UInt8) : UInt8 := if 65 ≤ c ∧ c ≤ 90 then c + 32 else c

/-- `strcasecmp` finds no difference. -/
def equalsIgnoreCase (s t : List UInt8) : Bool := s.map toLower = t.map toLower

/-! ### Numbers -/

def digitValue (c : UInt8) : Option Nat :=
  if 48 ≤ c ∧ c ≤ 57 then some (c - 48).toNat
  else if 97 ≤ toLower c ∧ toLower c ≤ 122 then some (toLower c - 97 + 10).toNat
  else none

def isDigit (base : Nat) (c : UInt8) : Bool := (digitValue c).any fun d => d < base

/-- The number that the digits spell. -/
def digitsValue (base : Nat) (digits : List UInt8) : Nat :=
  digits.foldl (fun n c => n * base + (digitValue c).getD 0) 0

/-- Whether there is a minus sign, and what stands behind the sign. -/
def takeSign : List UInt8 → Bool × List UInt8
  | 45 :: text => (true, text)
  | 43 :: text => (false, text)
  | text => (false, text)

def signed (negative : Bool) (n : Nat) : Int := if negative then -n else n

/-- `0x` before the digits of base 16. -/
def skipHexPrefix (base : Nat) : List UInt8 → List UInt8
  | 48 :: x :: d :: text =>
    if base = 16 ∧ toLower x = 120 ∧ isDigit 16 d then d :: text else 48 :: x :: d :: text
  | text => text

/-- The number nearest to `n` in a signed type of so many bits. -/
def clamp (bits : Nat) (n : Int) : Int := max (-2 ^ (bits - 1)) (min n (2 ^ (bits - 1) - 1))

/-- `strtol` where `long` has so many bits: the number, and the text at `end`. -/
def strtol (bits base : Nat) (text : List UInt8) : Int × List UInt8 :=
  let (negative, subject) := takeSign (text.dropWhile isSpace)
  let subject := skipHexPrefix base subject
  let digits := subject.takeWhile (isDigit base)
  if digits = [] then (0, text)
  else (clamp bits (signed negative (digitsValue base digits)), subject.dropWhile (isDigit base))

/-- The number that a text is in decimal, if it is nothing else than a sign, which may be missing,
and digits. -/
def decimal (text : List UInt8) : Option Int :=
  let (negative, digits) := takeSign text
  if digits ≠ [] ∧ digits.all (isDigit 10) then some (signed negative (digitsValue 10 digits))
  else none

theorem clamp_of_mem {bits : Nat} {n : Int} (hlow : -2 ^ (bits - 1) ≤ n)
    (hhigh : n < 2 ^ (bits - 1)) : clamp bits n = n := by
  unfold clamp
  omega

theorem skipHexPrefix_ten (text : List UInt8) : skipHexPrefix 10 text = text := by
  unfold skipHexPrefix
  split
  · exact if_neg fun h => absurd h.1 (by decide)
  · rfl

theorem isSpace_of_digit (c : UInt8) (h : isDigit 10 c) : isSpace c = false := by
  revert c
  decide +kernel

/-- No space stands before a decimal number. -/
theorem dropWhile_isSpace {text digits : List UInt8} {negative : Bool}
    (hsign : takeSign text = (negative, digits)) (hne : digits ≠ [])
    (hall : digits.all (isDigit 10)) : text.dropWhile isSpace = text := by
  unfold takeSign at hsign
  split at hsign
  · rfl
  · rfl
  · obtain rfl := (Prod.ext_iff.mp hsign).2
    obtain ⟨c, rest, rfl⟩ := List.exists_cons_of_ne_nil hne
    rw [List.all_cons, Bool.and_eq_true] at hall
    exact List.dropWhile_cons_of_neg (by rw [isSpace_of_digit c hall.1]; exact Bool.false_ne_true)

/-- `strtol` takes a decimal number to its end. -/
theorem strtol_of_decimal {text : List UInt8} {n : Int} (h : decimal text = some n) (bits : Nat) :
    strtol bits 10 text = (clamp bits n, []) := by
  unfold decimal at h
  cases hsign : takeSign text with
  | mk negative digits =>
    rw [hsign] at h
    dsimp only at h
    split at h
    · next hdigits =>
      obtain ⟨hne, hall⟩ := hdigits
      obtain rfl := Option.some.inj h
      unfold strtol
      rw [dropWhile_isSpace hsign hne hall, hsign]
      dsimp only
      have htake : digits.takeWhile (isDigit 10) = digits :=
        List.takeWhile_eq_self_iff.mpr (List.all_eq_true.mp hall)
      have hdrop : digits.dropWhile (isDigit 10) = [] :=
        List.dropWhile_eq_nil_iff.mpr (List.all_eq_true.mp hall)
      rw [skipHexPrefix_ten, htake, hdrop, if_neg hne]
    · cases h

/-! ### Hexadecimal -/

/-- The lower-case digit of a number below 16. -/
def hexDigit (n : UInt8) : UInt8 := if n < 10 then 48 + n else 87 + n

/-- `%02x` of a byte. -/
def hexByte (b : UInt8) : List UInt8 := [hexDigit (b / 16), hexDigit (b % 16)]

/-- A hexadecimal digit is neither a space nor a sign, and it is printed in lower case. -/
theorem hex_digit (c : UInt8) (h : isDigit 16 c) :
    isSpace c = false ∧ c ≠ 43 ∧ c ≠ 45 ∧ (digitValue c).getD 0 < 16 ∧
      hexDigit (UInt8.ofNat ((digitValue c).getD 0)) = toLower c := by
  revert c
  decide +kernel

/-- Only `0` has the value 0. -/
theorem digitValue_eq_zero (c : UInt8) (h : isDigit 16 c) :
    (digitValue c).getD 0 = 0 ↔ c = 48 := by
  revert c
  decide +kernel

/-- A half of a byte reads back from its digit. -/
theorem isDigit_hexDigit (n : UInt8) (h : n < 16) :
    isDigit 16 (hexDigit n) ∧ (digitValue (hexDigit n)).getD 0 = n.toNat := by
  revert n
  decide +kernel

theorem skipHexPrefix_short (base : Nat) {text : List UInt8} (h : text.length ≤ 2) :
    skipHexPrefix base text = text := by
  unfold skipHexPrefix
  split
  · simp only [List.length_cons] at h
    omega
  · rfl

theorem takeSign_unsigned {c : UInt8} (text : List UInt8) (hplus : c ≠ 43) (hminus : c ≠ 45) :
    takeSign (c :: text) = (false, c :: text) := by
  unfold takeSign
  split
  · next heq => exact absurd (List.cons.inj heq).1 hminus
  · next heq => exact absurd (List.cons.inj heq).1 hplus
  · rfl

/-- `strtol` of a text that is at most two bytes long behind spaces and sign. -/
theorem strtol_short {bits base : Nat} {text subject : List UInt8} {negative : Bool}
    (hsign : takeSign (text.dropWhile isSpace) = (negative, subject)) (h : subject.length ≤ 2) :
    strtol bits base text =
      if subject.takeWhile (isDigit base) = [] then (0, text)
      else (clamp bits (signed negative (digitsValue base (subject.takeWhile (isDigit base)))),
        subject.dropWhile (isDigit base)) := by
  unfold strtol
  rw [hsign]
  dsimp only
  rw [skipHexPrefix_short base h]

/-! ### Tokens -/

/-- `strtok_r` with the string that is left: the next token, and what is left behind it. -/
def strtok (isDelim : UInt8 → Bool) (text : List UInt8) : Option (List UInt8 × List UInt8) :=
  let start := text.dropWhile isDelim
  if start = [] then none
  else some (start.takeWhile fun c => !isDelim c, (start.dropWhile fun c => !isDelim c).drop 1)

def tokensFrom (isDelim : UInt8 → Bool) : Nat → List UInt8 → List (List UInt8)
  | 0, _ => []
  | fuel + 1, text =>
    match strtok isDelim text with
    | none => []
    | some (token, save) => token :: tokensFrom isDelim fuel save

/-- What `strtok_r` gives until there is nothing left. -/
def tokens (isDelim : UInt8 → Bool) (text : List UInt8) : List (List UInt8) :=
  tokensFrom isDelim text.length text

/-! ### Settings -/

/-- The name and the value of `name=value`, split at the first `=`. -/
def keyValue (token : List UInt8) : Option (List UInt8 × List UInt8) :=
  let key := token.takeWhile fun c => c ≠ 61
  if key.length = token.length then none else some (key, token.drop (key.length + 1))

end CText

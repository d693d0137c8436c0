import Mathlib.Data.List.DropRight

set_option autoImplicit false

namespace Decimal

-- The characters with the Unicode property White_Space.
def isWhitespace (character : Char) : Bool :=
  let code := character.toNat
  (9 ≤ code && code ≤ 13) || code == 0x20 || code == 0x85 || code == 0xA0 || code == 0x1680 ||
    (0x2000 ≤ code && code ≤ 0x200A) || code == 0x2028 || code == 0x2029 || code == 0x202F ||
    code == 0x205F || code == 0x3000

def trim (text : List Char) : List Char :=
  (text.dropWhile isWhitespace).rdropWhile isWhitespace

def unsigned : List Char → List Char
  | '+' :: digits => digits
  | digits => digits

def parse (bound : Nat) (text : List Char) : Option Nat :=
  let digits := unsigned text
  if digits.isEmpty || !digits.all Char.isDigit then none
  else
    let value := Nat.ofDigitChars 10 digits 0
    if value < bound then some value else none

def line (number : Nat) : List Char :=
  Nat.toDigits 10 number ++ ['\n']

theorem toDigits_digit {number : Nat} {character : Char}
    (member : character ∈ Nat.toDigits 10 number) : character.isDigit = true :=
  Nat.isDigit_of_mem_toDigits (by decide) (by decide) member

theorem digit_range {character : Char} (digit : character.isDigit = true) :
    48 ≤ character.toNat ∧ character.toNat ≤ 57 := by
  simp only [Char.isDigit, Bool.and_eq_true, decide_eq_true_eq, ge_iff_le,
    UInt32.le_iff_toNat_le] at digit
  exact digit

theorem digit_not_whitespace {character : Char} (digit : character.isDigit = true) :
    isWhitespace character = false := by
  have range := digit_range digit
  simp only [isWhitespace, Bool.or_eq_false_iff, Bool.and_eq_false_iff, decide_eq_false_iff_not,
    beq_eq_false_iff_ne]
  omega

theorem rdropWhile_solid {text : List Char}
    (solid : ∀ character ∈ text, isWhitespace character = false) :
    text.rdropWhile isWhitespace = text := by
  rw [List.rdropWhile_eq_self_iff]
  intro filled
  simp [solid _ (List.getLast_mem filled)]

theorem trim_solid {text : List Char}
    (solid : ∀ character ∈ text, isWhitespace character = false) : trim text = text := by
  have leading : text.dropWhile isWhitespace = text := by
    cases text with
    | nil => rfl
    | cons first rest => simp [solid first (by simp)]
  rw [trim, leading, rdropWhile_solid solid]

theorem trim_eq_nil {text : List Char} :
    trim text = [] ↔ ∀ character ∈ text, isWhitespace character = true := by
  rw [trim, List.rdropWhile_eq_nil_iff]
  constructor
  next =>
    intro dropped
    have leading : text.dropWhile isWhitespace = [] := by
      by_contra filled
      have solid := List.head_dropWhile_not isWhitespace filled
      simp [dropped _ (List.head_mem filled)] at solid
    exact List.dropWhile_eq_nil_iff.mp leading
  next =>
    intro blank character member
    exact blank character ((List.dropWhile_sublist isWhitespace).subset member)

theorem trim_newline {text : List Char} (filled : text ≠ [])
    (solid : ∀ character ∈ text, isWhitespace character = false) :
    trim (text ++ ['\n']) = text := by
  have leading : (text ++ ['\n']).dropWhile isWhitespace = text ++ ['\n'] := by
    cases text with
    | nil => contradiction
    | cons first rest => simp [solid first (by simp)]
  rw [trim, leading, List.rdropWhile_concat_pos _ _ _ (by decide), rdropWhile_solid solid]

theorem unsigned_digits {digits : List Char}
    (solid : ∀ character ∈ digits, character.isDigit = true) : unsigned digits = digits := by
  unfold unsigned
  split
  next rest =>
    have sign := solid '+' (by simp)
    contradiction
  next => rfl

theorem parse_toDigits {bound number : Nat} (fits : number < bound) :
    parse bound (Nat.toDigits 10 number) = some number := by
  have digits : ∀ character ∈ Nat.toDigits 10 number, character.isDigit = true :=
    fun _ member => toDigits_digit member
  have filled : (Nat.toDigits 10 number).isEmpty = false := by
    simp
  have all : (Nat.toDigits 10 number).all Char.isDigit = true := by
    simpa using digits
  simp [parse, unsigned_digits digits, filled, all, Nat.ofDigitChars_ten_toDigits, fits]

theorem parse_line {bound number : Nat} (fits : number < bound) :
    parse bound (trim (line number)) = some number := by
  rw [line, trim_newline Nat.toDigits_ne_nil
    (fun _ member => digit_not_whitespace (toDigits_digit member))]
  exact parse_toDigits fits

end Decimal

import Mathlib.Data.List.Basic

set_option autoImplicit false

namespace Utf8

def bytes (text : List Char) : List UInt8 :=
  text.flatMap String.utf8EncodeChar

theorem encode_ascii {character : Char} (ascii : character.toNat < 128) :
    String.utf8EncodeChar character = [character.val.toUInt8] := by
  apply String.utf8EncodeChar_eq_singleton
  rw [Char.utf8Size_eq_one_iff, UInt32.le_iff_toNat_le]
  exact Nat.le_of_lt_succ ascii

theorem or_wide (byte lead : UInt8) (wide : 128 ≤ lead.toNat) : 128 ≤ (byte ||| lead).toNat := by
  rw [UInt8.toNat_or]
  exact Nat.le_trans wide Nat.right_le_or

theorem encode_wide {character : Char} (wide : 128 ≤ character.toNat) :
    ∃ byte ∈ String.utf8EncodeChar character, 128 ≤ byte.toNat := by
  rcases Char.utf8Size_eq character with one | two | three | four
  next =>
    rw [Char.utf8Size_eq_one_iff, UInt32.le_iff_toNat_le] at one
    have narrow : character.toNat ≤ 127 := one
    omega
  next =>
    rw [String.utf8EncodeChar_eq_cons_cons two]
    exact ⟨_, List.mem_cons_self, or_wide _ _ (by decide)⟩
  next =>
    rw [String.utf8EncodeChar_eq_cons_cons_cons three]
    exact ⟨_, List.mem_cons_self, or_wide _ _ (by decide)⟩
  next =>
    rw [String.utf8EncodeChar_eq_cons_cons_cons_cons four]
    exact ⟨_, List.mem_cons_self, or_wide _ _ (by decide)⟩

theorem length_bytes {text : List Char} (ascii : ∀ character ∈ text, character.toNat < 128) :
    (bytes text).length = text.length := by
  induction text with
  | nil => rfl
  | cons character rest ih =>
    have later := ih fun other member => ascii other (List.mem_cons_of_mem _ member)
    simp only [bytes] at later
    simp [bytes, encode_ascii (ascii character List.mem_cons_self), later]

theorem all_bytes {accepts : UInt8 → Bool}
    (narrow : ∀ byte, accepts byte = true → byte.toNat < 128) (text : List Char) :
    (bytes text).all accepts = true ↔
      ∀ character ∈ text, character.toNat < 128 ∧ accepts character.val.toUInt8 = true := by
  induction text with
  | nil => simp [bytes]
  | cons character rest ih =>
    rw [bytes, List.flatMap_cons, List.all_append, Bool.and_eq_true, ← bytes, ih,
      List.forall_mem_cons]
    apply and_congr_left
    intro _
    by_cases ascii : character.toNat < 128
    next => simp [encode_ascii ascii, ascii]
    next =>
      obtain ⟨byte, member, wide⟩ := encode_wide (Nat.le_of_not_lt ascii)
      have refused : ¬ (String.utf8EncodeChar character).all accepts = true := by
        intro accepted
        have low := narrow byte (List.all_eq_true.mp accepted byte member)
        omega
      simp [refused, ascii]

end Utf8

/-
TenantRegistry/Proofs/Text/Bytes.lean

The order of texts and the order of their bytes.

Storage orders texts by their bytes in UTF-8, and texts are compared character
by character here.  The two orders agree: a lower character has lower bytes,
whatever follows (`utf8EncodeChar_append_lt`), for the first byte tells how many
there are, and the others are digits of the character, the leading ones first.
-/
import Mathlib.Data.List.Basic

namespace TenantRegistry

/-! ### Characters -/

/-- The digits of a smaller number come first. -/
theorem digits_lt {m n : Nat} (h : m < n) (hbound : n < 2097152) :
    m / 262144 % 8 < n / 262144 % 8 ∨ m / 262144 % 8 = n / 262144 % 8 ∧
      (m / 4096 % 64 < n / 4096 % 64 ∨ m / 4096 % 64 = n / 4096 % 64 ∧
        (m / 64 % 64 < n / 64 % 64 ∨ m / 64 % 64 = n / 64 % 64 ∧ m % 64 < n % 64)) := by
  -- one digit after the other is cut off, the last one first
  have hfirst : m / 64 < n / 64 ∨ m / 64 = n / 64 ∧ m % 64 < n % 64 := by omega
  have hsecond : m / 4096 < n / 4096 ∨
      m / 4096 = n / 4096 ∧ (m / 64 % 64 < n / 64 % 64 ∨ m / 64 = n / 64) := by omega
  have hthird : m / 262144 < n / 262144 ∨
      m / 262144 = n / 262144 ∧ (m / 4096 % 64 < n / 4096 % 64 ∨ m / 4096 = n / 4096) := by omega
  rw [Nat.mod_eq_of_lt (show m / 262144 < 8 by omega),
    Nat.mod_eq_of_lt (show n / 262144 < 8 by omega)]
  omega

/-- **Of two characters the lower one has the lower bytes**, whatever follows. -/
theorem utf8EncodeChar_append_lt {c d : Char} (h : c < d) (xs ys : List UInt8) :
    String.utf8EncodeChar c ++ xs < String.utf8EncodeChar d ++ ys := by
  have hval : c.val.toNat < d.val.toNat := UInt32.lt_iff_toNat_lt.mp h
  have hbound : d.val.toNat < 1114112 := by
    rcases d.valid with hlow | hhigh
    · exact Nat.lt_trans hlow (by decide)
    · exact hhigh.2
  have hdigits := digits_lt hval (Nat.lt_trans hbound (by decide))
  have hbyte : ∀ {n : Nat}, n < 256 → (UInt8.ofNat n).toNat = n := Nat.mod_eq_of_lt
  rw [String.utf8EncodeChar, String.utf8EncodeChar]
  -- sixteen cases by the number of bytes of both
  split_ifs <;>
    simp (disch := omega) only [List.cons_append, List.nil_append, List.cons_lt_cons_iff,
      UInt8.lt_iff_toNat_lt, ← UInt8.toNat_inj, hbyte] <;>
    omega

/-! ### Texts -/

/-- Lists of characters are in the order of their bytes. -/
theorem flatMap_utf8EncodeChar_lt {cs ds : List Char} (h : cs < ds) :
    cs.flatMap String.utf8EncodeChar < ds.flatMap String.utf8EncodeChar := by
  induction cs generalizing ds with
  | nil =>
    cases ds with
    | nil => exact absurd h (List.lt_irrefl _)
    | cons d ds =>
      rw [List.flatMap_nil, List.flatMap_cons]
      cases hbytes : String.utf8EncodeChar d with
      | nil => exact absurd hbytes String.utf8EncodeChar_ne_nil
      | cons byte rest => exact List.nil_lt_cons _ _
  | cons c cs ih =>
    cases ds with
    | nil => exact absurd h (List.not_lt_nil _)
    | cons d ds =>
      rw [List.flatMap_cons, List.flatMap_cons]
      rcases List.cons_lt_cons_iff.mp h with hlt | ⟨rfl, htail⟩
      · exact utf8EncodeChar_append_lt hlt _ _
      · exact List.append_left_lt (ih htail)

/-- **Texts are in the order of their bytes.** -/
theorem toUTF8_lt {text text' : String} (h : text < text') :
    text.toUTF8.data.toList < text'.toUTF8.data.toList := by
  have hbytes : ∀ text : String,
      text.toUTF8.data.toList = text.toList.flatMap String.utf8EncodeChar := by
    intro text
    rw [String.toUTF8_eq_toByteArray, ← String.utf8Encode_toList, List.utf8Encode,
      List.data_toByteArray]
  rw [hbytes, hbytes]
  exact flatMap_utf8EncodeChar_lt (String.lt_iff.mp h)

end TenantRegistry

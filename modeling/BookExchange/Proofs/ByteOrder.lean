import BookExchange.Text.Utf8
import Mathlib.Tactic.ByContra
import Mathlib.Tactic.SplitIfs

/-! Texts are ordered as their UTF-8 bytes are. -/
namespace BookExchange.Text

theorem char_toNat_lt (c : Char) : c.val.toNat < 0x110000 := by
  obtain h | h := c.valid
  · exact Nat.lt_trans h (by decide)
  · exact h.2

/-- The bytes of the lesser character are less, whatever follows. -/
theorem utf8EncodeChar_append_lt {c d : Char} (h : c < d) (xs ys : List UInt8) :
    String.utf8EncodeChar c ++ xs < String.utf8EncodeChar d ++ ys := by
  have hlt : c.val.toNat < d.val.toNat := h
  have hd := char_toNat_lt d
  have hmiddle (n : Nat) : n / 4096 = n / 64 / 64 := by rw [Nat.div_div_eq_div_mul]
  have hhigh (n : Nat) : n / 262144 = n / 64 / 64 / 64 := by
    rw [Nat.div_div_eq_div_mul, Nat.div_div_eq_div_mul]
  -- Either the leading bytes tell the widths apart, or the bytes are digits of one number.
  simp only [String.utf8EncodeChar, hmiddle, hhigh]
  split_ifs <;>
    simp only [List.cons_append, List.nil_append, List.cons_lt_cons_iff, UInt8.lt_iff_toNat_lt,
      ← UInt8.toNat_inj, UInt8.toNat_ofNat'] <;> omega

theorem encodeUtf8_eq (s : String) : encodeUtf8 s = s.toList.flatMap String.utf8EncodeChar := by
  have h : s.toByteArray = s.toList.utf8Encode := (String.utf8Encode_toList).symm
  rw [encodeUtf8, String.toUTF8_eq_toByteArray, h, List.utf8Encode, List.data_toByteArray]

theorem flatMap_utf8EncodeChar_lt {cs ds : List Char} (h : cs < ds) :
    cs.flatMap String.utf8EncodeChar < ds.flatMap String.utf8EncodeChar := by
  induction cs generalizing ds with
  | nil =>
    cases ds with
    | nil => exact absurd h (List.lt_irrefl _)
    | cons d ds =>
      obtain ⟨b, bs, hd⟩ := List.exists_cons_of_ne_nil (String.utf8EncodeChar_ne_nil (c := d))
      simp [hd]
  | cons c cs ih =>
    cases ds with
    | nil => exact absurd h (List.not_lt_nil _)
    | cons d ds =>
      rw [List.flatMap_cons, List.flatMap_cons]
      obtain hcd | ⟨rfl, hrest⟩ := List.cons_lt_cons_iff.mp h
      · exact utf8EncodeChar_append_lt hcd _ _
      · exact List.append_left_lt (ih hrest)

theorem encodeUtf8_lt_iff {s t : String} : encodeUtf8 s < encodeUtf8 t ↔ s < t := by
  have hmono {s t : String} (h : s < t) : encodeUtf8 s < encodeUtf8 t := by
    rw [encodeUtf8_eq, encodeUtf8_eq]
    exact flatMap_utf8EncodeChar_lt h
  constructor
  · intro h
    by_contra hst
    by_cases hts : t < s
    · exact List.lt_asymm h (hmono hts)
    · have heq : s = t := String.le_antisymm (String.not_lt.mp hts) (String.not_lt.mp hst)
      exact List.lt_irrefl _ (heq ▸ h)
  · exact hmono

end BookExchange.Text

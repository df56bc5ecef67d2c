import Mathlib.Data.String.Basic
import Mathlib.Tactic
import PathTemplate.Text.ByteOrder

/-!
# The order of texts and of their bytes

Texts are compared by the code points of their characters.  The first byte of a character in UTF-8
grows with the code point, and where it is the same, the other bytes are as many and spell the
lowest digits of the code point to base 64.  So the bytes of texts, compared as lists, have the
order of the texts.
-/

namespace PathTemplate.Text

theorem toNat_lt (c : Char) : c.toNat < 0x110000 := by
  have hvalid : c.toNat.isValidChar := c.valid
  unfold Nat.isValidChar at hvalid
  omega

/-! ## The bytes of one character -/

def leadByte (code : ℕ) : ℕ :=
  if code < 0x80 then code
  else if code < 0x800 then 0xC0 + code / 64
  else if code < 0x10000 then 0xE0 + code / 4096
  else 0xF0 + code / 262144

/-- The number of bytes after the first. -/
def trailCount (code : ℕ) : ℕ :=
  if code < 0x80 then 0
  else if code < 0x800 then 1
  else if code < 0x10000 then 2
  else 3

/-- The lowest digits of a code point to base 64, from the highest of them on. -/
def trail : ℕ → ℕ → List UInt8
  | 0, _ => []
  | count + 1, code => UInt8.ofNat (code / 64 ^ count % 64 + 128) :: trail count code

theorem utf8EncodeChar_eq (c : Char) :
    String.utf8EncodeChar c =
      UInt8.ofNat (leadByte c.toNat) :: trail (trailCount c.toNat) c.toNat := by
  have hbound := toNat_lt c
  have hcode : c.val.toNat = c.toNat := rfl
  unfold String.utf8EncodeChar leadByte trailCount
  rw [hcode]
  generalize c.toNat = code at hbound
  by_cases hone : code < 0x80
  · have hle : code ≤ 0x7f := by omega
    simp [hone, hle, trail]
  by_cases htwo : code < 0x800
  · have hle : ¬code ≤ 0x7f ∧ code ≤ 0x7ff := by omega
    have hlead : code / 64 % 32 + 192 = 0xC0 + code / 64 := by omega
    simp [hone, htwo, hle, hlead, trail]
  by_cases hthree : code < 0x10000
  · have hle : ¬code ≤ 0x7f ∧ ¬code ≤ 0x7ff ∧ code ≤ 0xffff := by omega
    have hlead : code / 4096 % 16 + 224 = 0xE0 + code / 4096 := by omega
    simp [hone, htwo, hthree, hle, hlead, trail]
  · have hle : ¬code ≤ 0x7f ∧ ¬code ≤ 0x7ff ∧ ¬code ≤ 0xffff := by omega
    have hlead : code / 262144 % 8 + 240 = 0xF0 + code / 262144 := by omega
    simp [hone, htwo, hthree, hle, hlead, trail]

theorem leadByte_lt {code : ℕ} (h : code < 0x110000) : leadByte code < 256 := by
  unfold leadByte
  split_ifs <;> omega

/-- The greater code point has a greater first byte, or it differs in a digit that follows. -/
theorem leadByte_lt_or_eq {low high : ℕ} (h : low < high) (hbound : high < 0x110000) :
    leadByte low < leadByte high ∨
      leadByte low = leadByte high ∧ trailCount low = trailCount high ∧
        low / 64 ^ trailCount low = high / 64 ^ trailCount low := by
  unfold leadByte trailCount
  split_ifs <;> omega

/-! ## Comparing bytes -/

theorem ofNat_lt_ofNat {low high : ℕ} (h : low < high) (hbound : high < 256) :
    UInt8.ofNat low < UInt8.ofNat high := by
  rw [UInt8.lt_iff_toNat_lt, UInt8.toNat_ofNat', UInt8.toNat_ofNat']
  omega

/-- Numbers that agree but for some digits at the end are told apart by these. -/
theorem trail_append_lt {low high : ℕ} (h : low < high) {count : ℕ}
    (heq : low / 64 ^ count = high / 64 ^ count) (before after : List UInt8) :
    trail count low ++ before < trail count high ++ after := by
  induction count with
  | zero =>
      rw [pow_zero, Nat.div_one, Nat.div_one] at heq
      omega
  | succ count ih =>
      have hle : low / 64 ^ count ≤ high / 64 ^ count := Nat.div_le_div_right h.le
      have hdigits : low / 64 ^ count / 64 = high / 64 ^ count / 64 := by
        rw [Nat.div_div_eq_div_mul, Nat.div_div_eq_div_mul, ← pow_succ, heq]
      rw [trail, trail, List.cons_append, List.cons_append, List.cons_lt_cons_iff]
      rcases hle.lt_or_eq with hlt | hsame
      · exact .inl (ofNat_lt_ofNat (by omega) (by omega))
      · exact .inr ⟨by rw [hsame], ih hsame⟩

theorem utf8EncodeChar_append_lt {c d : Char} (h : c < d) (before after : List UInt8) :
    String.utf8EncodeChar c ++ before < String.utf8EncodeChar d ++ after := by
  have hlt : c.toNat < d.toNat := h
  rw [utf8EncodeChar_eq, utf8EncodeChar_eq, List.cons_append, List.cons_append,
    List.cons_lt_cons_iff]
  rcases leadByte_lt_or_eq hlt (toNat_lt d) with hlead | ⟨hlead, hcount, hdigits⟩
  · exact .inl (ofNat_lt_ofNat hlead (leadByte_lt (toNat_lt d)))
  · rw [← hlead, ← hcount]
    exact .inr ⟨rfl, trail_append_lt hlt hdigits before after⟩

/-! ## Whole texts -/

theorem bytes_eq (text : String) : bytes text = text.toList.flatMap String.utf8EncodeChar := by
  conv_lhs => rw [← String.ofList_toList (s := text)]
  rw [bytes, String.toUTF8_eq_toByteArray, String.toByteArray_ofList, List.utf8Encode,
    List.data_toByteArray]

theorem flatMap_utf8EncodeChar_lt {left right : List Char} (h : left < right) :
    left.flatMap String.utf8EncodeChar < right.flatMap String.utf8EncodeChar := by
  induction left generalizing right with
  | nil =>
      cases right with
      | nil => exact absurd h (List.lt_irrefl [])
      | cons d right =>
          rw [List.flatMap_nil, List.flatMap_cons, utf8EncodeChar_eq, List.cons_append]
          exact List.nil_lt_cons _ _
  | cons c left ih =>
      cases right with
      | nil => exact absurd h (List.not_lt_nil _)
      | cons d right =>
          rw [List.flatMap_cons, List.flatMap_cons]
          rcases List.cons_lt_cons_iff.mp h with hlt | ⟨rfl, hrest⟩
          · exact utf8EncodeChar_append_lt hlt _ _
          · exact List.append_left_lt (ih hrest)

theorem bytes_lt_of_lt {left right : String} (h : left < right) : bytes left < bytes right := by
  rw [bytes_eq, bytes_eq]
  exact flatMap_utf8EncodeChar_lt (String.lt_iff.mp h)

theorem bytes_lt_iff {left right : String} : bytes left < bytes right ↔ left < right := by
  constructor
  · intro h
    rcases lt_trichotomy left right with hlt | rfl | hgt
    · exact hlt
    · exact absurd h (List.lt_irrefl _)
    · exact absurd h (List.lt_asymm (bytes_lt_of_lt hgt))
  · exact bytes_lt_of_lt

theorem bytes_le_iff {left right : String} : bytes left ≤ bytes right ↔ left ≤ right := by
  rw [← String.not_lt, ← bytes_lt_iff]
  exact List.not_lt.symm

end PathTemplate.Text

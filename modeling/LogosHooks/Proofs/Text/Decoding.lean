import LogosHooks.Text.Utf8
import Mathlib.Tactic.SplitIfs

/-!
Texts that were written as bytes are read back, by the lossy reading and by the strict one. The
bytes of a character lead the reading through one state for each byte, and complete the character
with the last.
-/
namespace LogosHooks.Utf8

variable {b : UInt8} {value low high : Nat} (rest : Bytes)

theorem scan_ascii (h : b.toNat < 0x80) :
    scan .idle (b :: rest) = some (Char.ofNat b.toNat) :: scan .idle rest := by
  simp [scan, next, start, h]

theorem scan_lead {missing : Nat} (h : lead? b.toNat = some (missing, value))
    (hb : 0x80 ≤ b.toNat) :
    scan .idle (b :: rest) =
      scan (.inside missing value (secondRange b.toNat).1 (secondRange b.toNat).2) rest := by
  simp [scan, next, start, h, Nat.not_lt.mpr hb]

theorem scan_inside {missing : Nat} (hlow : low ≤ b.toNat) (hhigh : b.toNat ≤ high) :
    scan (.inside (missing + 2) value low high) (b :: rest) =
      scan (.inside (missing + 1) (value * 64 + (b.toNat - 0x80)) 0x80 0xBF) rest := by
  simp [scan, next, hlow, hhigh]

theorem scan_last (hlow : low ≤ b.toNat) (hhigh : b.toNat ≤ high) :
    scan (.inside 1 value low high) (b :: rest) =
      some (Char.ofNat (value * 64 + (b.toNat - 0x80))) :: scan .idle rest := by
  simp [scan, next, hlow, hhigh]

/-! ### Characters -/

theorem toNat_ofNat_of_lt {n : Nat} (h : n < 256) : (UInt8.ofNat n).toNat = n := by
  simp [Nat.mod_eq_of_lt h]

theorem lead?_two {n : Nat} (hlow : 2 ≤ n) (hhigh : n < 32) : lead? (n + 0xC0) = some (1, n) := by
  rw [lead?, if_pos (by omega), Nat.add_sub_cancel]

theorem lead?_three {n : Nat} (h : n < 16) : lead? (n + 0xE0) = some (2, n) := by
  rw [lead?, if_neg (by omega), if_pos (by omega), Nat.add_sub_cancel]

theorem lead?_four {n : Nat} (h : n ≤ 4) : lead? (n + 0xF0) = some (3, n) := by
  rw [lead?, if_neg (by omega), if_neg (by omega), if_pos (by omega), Nat.add_sub_cancel]

/-- The ranges that are narrower than that of all bytes behind the first. -/
theorem within_secondRange (first n : Nat) (hall : 0x80 ≤ n ∧ n ≤ 0xBF)
    (h : (first = 0xE0 → 0xA0 ≤ n) ∧ (first = 0xED → n ≤ 0x9F) ∧ (first = 0xF0 → 0x90 ≤ n) ∧
      (first = 0xF4 → n ≤ 0x8F)) :
    (secondRange first).1 ≤ n ∧ n ≤ (secondRange first).2 := by
  unfold secondRange
  split_ifs with hE0 hED hF0 hF4
  · exact ⟨h.1 hE0, hall.2⟩
  · exact ⟨hall.1, h.2.1 hED⟩
  · exact ⟨h.2.2.1 hF0, hall.2⟩
  · exact ⟨hall.1, h.2.2.2 hF4⟩
  · exact hall

variable {b₁ b₂ b₃ : UInt8} {v : Nat}

theorem scan_two (h : 0x80 ≤ v ∧ v < 0x800) (hb : b.toNat = v / 64 + 0xC0)
    (hb₁ : b₁.toNat = v % 64 + 0x80) :
    scan .idle (b :: b₁ :: rest) = some (Char.ofNat v) :: scan .idle rest := by
  have hlead : lead? b.toNat = some (1, v / 64) := hb ▸ lead?_two (by omega) (by omega)
  have hsecond := within_secondRange b.toNat b₁.toNat (by omega) (by omega)
  have hv : v / 64 * 64 + (b₁.toNat - 0x80) = v := by omega
  rw [scan_lead _ hlead (by omega), scan_last _ hsecond.1 hsecond.2, hv]

/-- There are no characters from U+D800 to U+DFFF, and no bytes are read as such. -/
theorem scan_three (h : 0x800 ≤ v ∧ v < 0x10000) (hgap : v < 0xD800 ∨ 0xDFFF < v)
    (hb : b.toNat = v / 4096 + 0xE0) (hb₁ : b₁.toNat = v / 64 % 64 + 0x80)
    (hb₂ : b₂.toNat = v % 64 + 0x80) :
    scan .idle (b :: b₁ :: b₂ :: rest) = some (Char.ofNat v) :: scan .idle rest := by
  have hlead : lead? b.toNat = some (2, v / 4096) := hb ▸ lead?_three (by omega)
  have hsecond := within_secondRange b.toNat b₁.toNat (by omega) (by omega)
  have hv : (v / 4096 * 64 + (b₁.toNat - 0x80)) * 64 + (b₂.toNat - 0x80) = v := by omega
  rw [scan_lead _ hlead (by omega), scan_inside _ hsecond.1 hsecond.2,
    scan_last _ (by omega) (by omega), hv]

theorem scan_four (h : 0x10000 ≤ v ∧ v < 0x110000) (hb : b.toNat = v / 262144 + 0xF0)
    (hb₁ : b₁.toNat = v / 4096 % 64 + 0x80) (hb₂ : b₂.toNat = v / 64 % 64 + 0x80)
    (hb₃ : b₃.toNat = v % 64 + 0x80) :
    scan .idle (b :: b₁ :: b₂ :: b₃ :: rest) = some (Char.ofNat v) :: scan .idle rest := by
  have hlead : lead? b.toNat = some (3, v / 262144) := hb ▸ lead?_four (by omega)
  have hsecond := within_secondRange b.toNat b₁.toNat (by omega) (by omega)
  have hv : ((v / 262144 * 64 + (b₁.toNat - 0x80)) * 64 + (b₂.toNat - 0x80)) * 64 +
      (b₃.toNat - 0x80) = v := by omega
  rw [scan_lead _ hlead (by omega), scan_inside _ hsecond.1 hsecond.2,
    scan_inside _ (by omega) (by omega), scan_last _ (by omega) (by omega), hv]

theorem scan_utf8EncodeChar (c : Char) :
    scan .idle (String.utf8EncodeChar c ++ rest) = some c :: scan .idle rest := by
  have hvalid : c.val.toNat < 0xD800 ∨ 0xDFFF < c.val.toNat ∧ c.val.toNat < 0x110000 := c.valid
  have hc : Char.ofNat c.val.toNat = c := Char.ofNat_toNat c
  unfold String.utf8EncodeChar
  generalize c.val.toNat = v at hvalid hc ⊢
  rw [← hc]
  have hbyte : ∀ n, n < 256 → (UInt8.ofNat n).toNat = n := fun _ => toNat_ofNat_of_lt
  dsimp only
  split_ifs with h₁ h₂ h₃
  · have hb := hbyte v (by omega)
    have hread := scan_ascii (b := UInt8.ofNat v) rest (by omega)
    rwa [hb] at hread
  · apply scan_two rest (by omega)
    · rw [hbyte _ (by omega)]; omega
    · exact hbyte _ (by omega)
  · apply scan_three rest (by omega) (by omega)
    · rw [hbyte _ (by omega)]; omega
    · exact hbyte _ (by omega)
    · exact hbyte _ (by omega)
  · apply scan_four rest (by omega)
    · rw [hbyte _ (by omega)]; omega
    · exact hbyte _ (by omega)
    · exact hbyte _ (by omega)
    · exact hbyte _ (by omega)

/-! ### Texts -/

theorem scan_encode (t : Text) : scan .idle (encode t) = t.map some := by
  induction t with
  | nil => rfl
  | cons c t ih =>
    have hcons : encode (c :: t) = String.utf8EncodeChar c ++ encode t := rfl
    rw [hcons, scan_utf8EncodeChar, ih, List.map_cons]

theorem decodeLossy_encode (t : Text) : decodeLossy (encode t) = t := by
  rw [decodeLossy, scan_encode, List.map_map]
  exact List.map_id t

theorem decode?_encode (t : Text) : decode? (encode t) = some t := by
  rw [decode?, scan_encode]
  induction t with
  | nil => rfl
  | cons c t ih => simp [ih]

example : decodeLossy [0xE2, 0x82, 0xAC] = ['€'] := by decide +kernel
end LogosHooks.Utf8

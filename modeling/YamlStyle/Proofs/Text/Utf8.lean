import Mathlib
import YamlStyle.Text.Encoding.Utf

/-!
# ASCII characters in UTF-8

No sequence of more than one byte stands for an ASCII character: such a character in what is
decoded is a byte of its own.
-/

namespace YamlStyle.Text

variable {bytes : Bytes} {t : Text} {c : Char} {n k : Nat}

/-- An ASCII character other than NUL, which also stands for what is no code point. -/
def IsAscii (c : Char) : Prop := 0 < c.toNat ∧ c.toNat < 128

namespace Utf8

theorem not_isAscii_ofNat (h : 128 ≤ n) : ¬IsAscii (Char.ofNat n) := by
  rintro ⟨hpos, hlt⟩
  rw [Char.toNat_ofNat] at hpos hlt
  by_cases hv : n.isValidChar
  · rw [if_pos hv] at hlt
    omega
  · rw [if_neg hv] at hpos
    omega

/-- Payloads that add up to 128 or more make no ASCII character. -/
theorem not_isAscii_of_continuation {code seen : Nat} {low high : UInt8}
    (h : continuation code seen n low high bytes = .ok (t, k)) (hcode : 128 ≤ code * 64 ^ n) :
    ∀ c ∈ t, ¬IsAscii c := by
  induction n generalizing code seen low high bytes with
  | zero =>
    cases h
    intro c hc
    rw [List.mem_singleton.1 hc]
    exact not_isAscii_ofNat (by simpa using hcode)
  | succ n ih =>
    cases bytes with
    | nil => cases h
    | cons b r =>
      rw [continuation] at h
      split at h
      · refine ih h (hcode.trans ?_)
        rw [pow_succ', ← Nat.mul_assoc]
        exact Nat.mul_le_mul_right _ (Nat.le_add_right _ _)
      · cases h

/-- Each length of a sequence has its first bytes; the least of them leaves the second byte least room. -/
theorem tailOf_cases {b low high : UInt8} (h : tailOf b = some (n, low, high)) :
    high.toNat ≤ 0xbf ∧
      (n = 1 ∧ 0xc2 ≤ b.toNat ∧ b.toNat < 0xe0 ∨
        n = 2 ∧ 0xe0 ≤ b.toNat ∧ b.toNat < 0xf0 ∧ (b.toNat = 0xe0 → 0xa0 ≤ low.toNat) ∨
        n = 3 ∧ 0xf0 ≤ b.toNat ∧ b.toNat ≤ 0xf4 ∧ (b.toNat = 0xf0 → 0x90 ≤ low.toNat)) := by
  unfold tailOf at h
  simp only [UInt8.lt_iff_toNat_lt, beq_iff_eq, ← UInt8.toNat_inj, UInt8.reduceToNat] at h
  split_ifs at h <;> cases h
  · exact ⟨by decide, .inl ⟨rfl, by omega, by omega⟩⟩
  · exact ⟨by decide, .inr (.inl ⟨rfl, by omega, by omega, fun _ => by decide⟩)⟩
  · exact ⟨by decide, .inr (.inl ⟨rfl, by omega, by omega, fun hb => by omega⟩)⟩
  · exact ⟨by decide, .inr (.inl ⟨rfl, by omega, by omega, fun hb => by omega⟩)⟩
  · exact ⟨by decide, .inr (.inr ⟨rfl, by omega, by omega, fun _ => by decide⟩)⟩
  · exact ⟨by decide, .inr (.inr ⟨rfl, by omega, by omega, fun hb => by omega⟩)⟩
  · exact ⟨by decide, .inr (.inr ⟨rfl, by omega, by omega, fun hb => by omega⟩)⟩

/-- The first two bytes of a longer sequence rule out an ASCII character. -/
theorem le_of_tailOf {b d low high : UInt8} (h : tailOf b = some (n + 1, low, high)) (hlow : low ≤ d) (hhigh : d ≤ high) :
    128 ≤ (leadBits b (n + 1) * 64 + d.toNat % 64) * 64 ^ n := by
  rw [UInt8.le_iff_toNat_le] at hlow hhigh
  obtain ⟨hbound, ⟨hn, hleast, hless⟩ | ⟨hn, hleast, hless, hroom⟩ | ⟨hn, hleast, hmost, hroom⟩⟩ := tailOf_cases h
  · obtain rfl : n = 0 := by omega
    show 128 ≤ (b.toNat % 32 * 64 + d.toNat % 64) * 1
    omega
  · obtain rfl : n = 1 := by omega
    show 128 ≤ (b.toNat % 16 * 64 + d.toNat % 64) * 64
    omega
  · obtain rfl : n = 2 := by omega
    show 128 ≤ (b.toNat % 8 * 64 + d.toNat % 64) * 4096
    omega

theorem tailOf_pos {b low high : UInt8} (h : tailOf b = some (n, low, high)) : n ≠ 0 := by
  obtain ⟨-, hcases⟩ := tailOf_cases h
  omega

theorem head_of_mem_decodeChar (h : decodeChar bytes = .ok (t, n)) (hc : c ∈ t) (ha : IsAscii c) :
    bytes.head? = some (UInt8.ofNat c.toNat) := by
  cases bytes with
  | nil => cases h
  | cons b r =>
    rw [decodeChar] at h
    split at h
    · cases h
      rw [List.mem_singleton.1 hc, Char.toNat_ofNat, if_pos (.inl (by have := b.toNat_lt; omega))]
      simp
    · split at h
      · cases h
      · next m low high htail =>
        exfalso
        obtain ⟨m, rfl⟩ := Nat.exists_eq_succ_of_ne_zero (tailOf_pos htail)
        cases r with
        | nil => cases h
        | cons d r =>
          rw [continuation] at h
          split at h
          · next hd =>
            simp only [Bool.and_eq_true, decide_eq_true_eq] at hd
            exact not_isAscii_of_continuation h (le_of_tailOf htail hd.1 hd.2) c hc ha
          · cases h

theorem mem_of_mem_decodeFrom {codec : String} {fuel offset : Nat}
    (h : decodeFrom codec decodeChar fuel offset bytes = .ok t) (hc : c ∈ t) (ha : IsAscii c) :
    UInt8.ofNat c.toNat ∈ bytes := by
  induction fuel generalizing offset bytes t with
  | zero =>
    cases h
    cases hc
  | succ fuel ih =>
    cases bytes with
    | nil =>
      cases h
      cases hc
    | cons b r =>
      rw [decodeFrom] at h
      cases hd : decodeChar (b :: r) with
      | error m => rw [hd] at h; cases h
      | ok x =>
        obtain ⟨first, k⟩ := x
        rw [hd] at h
        cases hrest : decodeFrom codec decodeChar fuel (offset + k) ((b :: r).drop k) with
        | error e =>
          simp only [hrest, Except.map] at h
          cases h
        | ok later =>
          simp only [hrest, Except.map] at h
          cases h
          rcases List.mem_append.1 hc with hc | hc
          · exact List.mem_of_mem_head? (head_of_mem_decodeChar hd hc ha)
          · exact List.mem_of_mem_drop (ih hrest hc)

/-- An ASCII character in decoded text is a byte of its own. -/
theorem mem_of_mem_decode (h : decode bytes = .ok t) (hc : c ∈ t) (ha : IsAscii c) : UInt8.ofNat c.toNat ∈ bytes :=
  mem_of_mem_decodeFrom h hc ha

end Utf8

end YamlStyle.Text

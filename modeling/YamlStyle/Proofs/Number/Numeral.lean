import Mathlib
import YamlStyle.Number.Numeral

/-!
# Numerals made of digits

A run of decimal digits is a numeral unless it is too long, and stands for the number that its
digits write.
-/

namespace YamlStyle

namespace Text

variable {c : Char} {digits : Text}

theorem toNat_of_isDigit (h : isDigit c = true) : 48 ≤ c.toNat ∧ c.toNat ≤ 57 := by
  simp only [isDigit, Bool.and_eq_true, decide_eq_true_eq] at h
  exact h

theorem isHexDigit_of_isDigit (h : isDigit c = true) : isHexDigit c = true := by
  simp [isHexDigit, h]

theorem hexValue_of_isDigit (h : isDigit c = true) : hexValue c = c.toNat - 48 := by
  simp [hexValue, h]

theorem hexValue_lt (c : Char) : hexValue c < 16 := by
  unfold hexValue
  split
  · next h =>
    have := toNat_of_isDigit h
    omega
  · split
    · next h =>
      simp only [Bool.and_eq_true, decide_eq_true_eq] at h
      have : c.toNat ≤ 102 := h.2
      omega
    · split
      · next h =>
        simp only [Bool.and_eq_true, decide_eq_true_eq] at h
        have : c.toNat ≤ 70 := h.2
        omega
      · omega

theorem eq_ofNat_of_hexValue (h : isHexDigit c = true) (hlt : hexValue c < 10) : c = Char.ofNat (48 + hexValue c) := by
  have hd : isDigit c = true := by
    by_contra hd
    simp only [isHexDigit, hd, Bool.or_eq_true, Bool.and_eq_true, decide_eq_true_eq] at h
    rcases h with (h | ⟨hlow, hhigh⟩) | ⟨hlow, hhigh⟩
    · cases h
    · have hlow' : 97 ≤ c.toNat := hlow
      rw [hexValue, if_neg hd, if_pos (by simpa using ⟨hlow, hhigh⟩)] at hlt
      omega
    · have hhigh' : c.toNat ≤ 70 := hhigh
      have hlow' : 65 ≤ c.toNat := hlow
      have hsmall : ¬('a' ≤ c) := fun ha => by
        have : 97 ≤ c.toNat := ha
        omega
      rw [hexValue, if_neg hd, if_neg (by simp [hsmall]), if_pos (by simpa using ⟨hlow, hhigh⟩)] at hlt
      omega
  have := toNat_of_isDigit hd
  rw [hexValue_of_isDigit hd, Nat.add_sub_cancel' this.1, Char.ofNat_toNat]

theorem numberIn_concat (base : Nat) (digits : Text) (c : Char) :
    numberIn base (digits ++ [c]) = numberIn base digits * base + hexValue c := by
  simp [numberIn]

/-- So many hexadecimal digits write no greater number. -/
theorem numberIn_lt (digits : Text) : numberIn 16 digits < 16 ^ digits.length := by
  induction digits using List.reverseRecOn with
  | nil => simp [numberIn]
  | append_singleton digits c ih =>
    have hc := hexValue_lt c
    rw [numberIn_concat, List.length_append, List.length_singleton, pow_succ]
    omega

end Text

namespace Numeral

variable {digits : Text}

open Text

theorem asciiForm_of_digits (h : ∀ c ∈ digits, isDigit c = true) : asciiForm digits = digits := by
  unfold asciiForm
  conv_rhs => rw [← List.map_id digits]
  refine List.map_congr_left fun c hc => ?_
  have := toNat_of_isDigit (h c hc)
  rw [if_pos (by omega)]
  rfl

theorem signed_of_digits (h : ∀ c ∈ digits, isDigit c = true) : signed digits = (false, digits) := by
  unfold signed
  split
  · exact absurd (h _ (.head _)) (by decide)
  · exact absurd (h _ (.head _)) (by decide)
  · rfl

theorem withoutMark_ten (t : Text) : withoutMark 10 t = t := by
  unfold withoutMark
  split
  · simp [baseLetter?]
  · rfl

theorem splitOn_of_not_mem {sep : Char} {t : Text} (h : sep ∉ t) : Text.splitOn sep t = [t] := by
  induction t with
  | nil => rfl
  | cons c t ih =>
    obtain ⟨hc, ht⟩ := List.ne_and_not_mem_of_not_mem_cons h
    rw [Text.splitOn, if_neg (Ne.symm hc), ih ht]

/-- Decimal digits are a numeral unless there are too many of them. -/
theorem ofText_digits (h : ∀ c ∈ digits, isDigit c = true) (hne : digits ≠ []) :
    ofText 10 digits =
      if mostDigits < digits.length then .error (.tooLong digits.length) else .ok (numberIn 10 digits) := by
  have hspace : digits.dropWhile isAsciiSpace = digits := by
    cases digits with
    | nil => rfl
    | cons c r =>
      refine List.dropWhile_cons_of_neg ?_
      have := toNat_of_isDigit (h c (.head _))
      intro hs
      simp only [isAsciiSpace, Bool.or_eq_true, beq_iff_eq, Bool.and_eq_true, decide_eq_true_eq] at hs
      rcases hs with rfl | hs
      · exact absurd (h ' ' (.head _)) (by decide)
      · omega
  have hline : '_' ∉ digits := fun hmem => absurd (h '_' hmem) (by decide)
  have hrun : (digits.takeWhile fun c => c == '_' || isDigitIn 10 c) = digits := by
    refine List.takeWhile_eq_self_iff.2 fun c hc => ?_
    have hd := toNat_of_isDigit (h c hc)
    simp only [isDigitIn, isHexDigit_of_isDigit (h c hc), hexValue_of_isDigit (h c hc), Bool.or_eq_true,
      Bool.true_and, decide_eq_true_eq]
    exact .inr (by omega)
  have hfilter : (digits.filter (· != '_')) = digits := by
    refine List.filter_eq_self.2 fun c hc => ?_
    simp only [bne_iff_ne, ne_eq]
    rintro rfl
    exact hline hc
  have hempty : digits.isEmpty = false := List.isEmpty_eq_false_iff.2 hne
  unfold ofText
  rw [asciiForm_of_digits h, hspace, signed_of_digits h]
  dsimp only
  rw [withoutMark_ten, hrun, hfilter, isSpaced, splitOn_of_not_mem hline]
  simp [hempty]

theorem eq_malformed_of_ofText {t : Text} {f : Fault} (h : ofText 16 t = .error f) : f = .malformed 16 t := by
  unfold ofText at h
  dsimp only at h
  split at h
  · cases h
    rfl
  · split at h
    · next hten => simp at hten
    · split at h
      · cases h
        rfl
      · cases h

end Numeral

end YamlStyle

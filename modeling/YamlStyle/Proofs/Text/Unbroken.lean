import YamlStyle.Text.Encoding.Utf
import YamlStyle.Text.Quoted

/-!
# Messages of one line

What messages are put together from has no line feed: numbers, texts shown between quotes, and the
reasons why bytes cannot be read.
-/

namespace YamlStyle

/-! ## Digits -/

namespace Text

variable {c : Char} (hc : ∀ k, Nat.digitChar k ≠ c)

include hc

theorem not_mem_toDigits {base : Nat} (hbase : 1 < base) (n : Nat) : c ∉ Nat.toDigits base n := by
  induction n using Nat.strongRecOn with
  | ind n ih =>
    rw [Nat.toDigits_eq_if hbase]
    split
    · simp [(hc _).symm]
    · next hle =>
      have hlt : n / base < n := Nat.div_lt_self (by omega) hbase
      simp [(hc _).symm, ih _ hlt]

theorem not_mem_repr_nat (n : Nat) : c ∉ n.repr.toList := by
  rw [Nat.repr_eq_ofList_toDigits, String.toList_ofList]
  exact not_mem_toDigits hc (by decide) n

theorem not_mem_repr_int (hminus : c ≠ '-') (n : Int) : c ∉ n.repr.toList := by
  cases n with
  | ofNat n => exact not_mem_repr_nat hc n
  | negSucc n =>
    show c ∉ ("-" ++ (n + 1).repr).toList
    rw [String.toList_append, List.mem_append, not_or]
    exact ⟨by simpa using hminus, not_mem_repr_nat hc _⟩

end Text

/-! ## Messages -/

/-- A message without a line feed. -/
def Unbroken (s : String) : Prop := '\n' ∉ s.toList

instance (s : String) : Decidable (Unbroken s) := inferInstanceAs (Decidable (_ ∉ _))

namespace Unbroken

variable {a b : String} {t : Text}

@[simp] theorem ofList_iff : Unbroken (String.ofList t) ↔ '\n' ∉ t := by
  rw [Unbroken, String.toList_ofList]

/-- A literal is seen as the string of its characters, which is faster than to ask it for them. -/
theorem literal (h : t.contains '\n' = false) : Unbroken (String.ofList t) :=
  ofList_iff.2 fun hmem => Bool.false_ne_true (h.symm.trans (List.contains_iff_mem.2 hmem))

@[simp] theorem append_iff : Unbroken (a ++ b) ↔ Unbroken a ∧ Unbroken b := by
  rw [Unbroken, String.toList_append, List.mem_append, not_or]
  rfl

@[simp] theorem toString_iff : Unbroken (toString a) ↔ Unbroken a := Iff.rfl

theorem singleton {c : Char} (h : c ≠ '\n') : Unbroken (String.singleton c) := by
  rw [Unbroken, String.toList_singleton, List.mem_singleton]
  exact h.symm

theorem join {l : List String} (h : ∀ s ∈ l, Unbroken s) : Unbroken (String.join l) := by
  rw [Unbroken, String.toList_join, List.mem_flatMap]
  rintro ⟨s, hs, hmem⟩
  exact h s hs hmem

theorem intercalate {sep : String} (hsep : Unbroken sep) {l : List String} (h : ∀ s ∈ l, Unbroken s) :
    Unbroken (sep.intercalate l) := by
  induction l with
  | nil => exact List.not_mem_nil
  | cons s l ih =>
    obtain ⟨hs, hl⟩ := List.forall_mem_cons.1 h
    by_cases hnil : l = []
    · rw [hnil, String.intercalate_singleton]
      exact hs
    · rw [String.intercalate_cons_of_ne_nil hnil]
      exact append_iff.2 ⟨append_iff.2 ⟨hs, hsep⟩, ih hl⟩

theorem of_intercalate {sep : String} {l : List String} (h : Unbroken (sep.intercalate l)) : ∀ s ∈ l, Unbroken s := by
  induction l with
  | nil => exact List.forall_mem_nil _
  | cons s l ih =>
    by_cases hnil : l = []
    · rw [hnil, String.intercalate_singleton] at h
      rw [hnil]
      exact List.forall_mem_singleton.2 h
    · rw [String.intercalate_cons_of_ne_nil hnil, append_iff, append_iff] at h
      exact List.forall_mem_cons.2 ⟨h.1.1, ih h.2⟩

/-! ## Numbers -/

theorem digitChar_ne (k : Nat) : Nat.digitChar k ≠ '\n' := Nat.digitChar_ne '\n' (by decide)

@[simp] theorem repr_nat (n : Nat) : Unbroken n.repr := Text.not_mem_repr_nat digitChar_ne n

@[simp] theorem repr_int (n : Int) : Unbroken n.repr := Text.not_mem_repr_int digitChar_ne (by decide) n

@[simp] theorem hexDigits (width n : Nat) : Unbroken (Text.hexDigits width n) := by
  rw [Text.hexDigits, ofList_iff, List.mem_append, not_or]
  exact ⟨fun h => by simpa using List.eq_of_mem_replicate h, Text.not_mem_toDigits digitChar_ne (by decide) n⟩

/-! ## Quoted text -/

theorem escapeChar {quote : Char} (hquote : quote ≠ '\n') (c : Char) : Unbroken (Text.escapeChar quote c) := by
  have hescape : ∀ {n width : Nat} {lead : String}, Unbroken lead → Unbroken (lead ++ Text.hexDigits width n) :=
    fun hlead => append_iff.2 ⟨hlead, hexDigits _ _⟩
  by_cases hc : c = '\n'
  · -- A line feed is written as an escape: it is no quote and no backslash.
    rw [hc, Text.escapeChar, if_neg (by simpa using hquote.symm), if_pos (beq_self_eq_true _)]
    decide
  · unfold Text.escapeChar
    dsimp only
    split
    · rw [ofList_iff]
      simpa using Ne.symm hc
    · split
      · decide
      · split
        · decide
        · split
          · decide
          · split
            · exact singleton hc
            · split
              · exact hescape (by decide)
              · split
                · exact hescape (by decide)
                · exact hescape (by decide)

@[simp] theorem quoted (t : Text) : Unbroken (Text.quoted t) := by
  have hquote : Text.quoteFor t ≠ '\n' := by
    unfold Text.quoteFor
    split <;> decide
  have hmark : Unbroken (Text.quoteFor t).toString := singleton hquote
  refine append_iff.2 ⟨append_iff.2 ⟨hmark, join fun s hs => ?_⟩, hmark⟩
  obtain ⟨c, -, rfl⟩ := List.mem_map.1 hs
  exact escapeChar hquote c

@[simp] theorem quotedChar (c : Option Char) : Unbroken (Text.quotedChar c) := quoted _

/-! ## Bytes that cannot be read -/

open Text

theorem message {u : Undecodable} (hcodec : Unbroken u.codec) (hreason : Unbroken u.reason) : Unbroken u.message := by
  unfold Undecodable.message
  split <;> simp +decide [hcodec, hreason]

theorem of_continuation {n code seen : Nat} {low high : UInt8} {bytes : Bytes} {m : Malformed}
    (h : Utf8.continuation code seen n low high bytes = .error m) : Unbroken m.reason := by
  fun_induction Utf8.continuation code seen n low high bytes with
  | case1 => cases h
  | case2 =>
    cases h
    show Unbroken "unexpected end of data"
    decide
  | case3 _ _ _ _ _ _ _ _ ih => exact ih h
  | case4 =>
    cases h
    show Unbroken "invalid continuation byte"
    decide

theorem of_decodeChar {bytes : Bytes} {m : Malformed} (h : Utf8.decodeChar bytes = .error m) : Unbroken m.reason := by
  unfold Utf8.decodeChar at h
  split at h
  · cases h
    decide
  · split at h
    · cases h
    · split at h
      · cases h
        decide
      · exact of_continuation h

theorem message_of_decodeFrom {codec : String} {step : Decoder} (hcodec : Unbroken codec)
    (hstep : ∀ bytes m, step bytes = .error m → Unbroken m.reason) {fuel offset : Nat} {bytes : Bytes} {u : Undecodable}
    (h : decodeFrom codec step fuel offset bytes = .error u) : Unbroken u.message := by
  fun_induction decodeFrom codec step fuel offset bytes with
  | case1 => cases h
  | case2 => cases h
  | case3 _ _ _ _ m hm =>
    cases h
    exact message hcodec (hstep _ m hm)
  | case4 _ offset b r t n hn ih =>
    cases hrest : decodeFrom codec step _ (offset + n) ((b :: r).drop n) with
    | error e =>
      rw [hrest] at h
      cases h
      exact ih hrest
    | ok rest =>
      rw [hrest] at h
      cases h

theorem message_of_utf8 {bytes : Bytes} {u : Undecodable} (h : Utf8.decode bytes = .error u) : Unbroken u.message :=
  message_of_decodeFrom (by decide) (fun _ _ => of_decodeChar) h

end Unbroken

end YamlStyle

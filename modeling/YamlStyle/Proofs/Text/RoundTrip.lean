import YamlStyle.Proofs.Text.Utf8
import YamlStyle.Text.Encoding.Utf

/-!
# Reading back what is written

One character at a time, the decoders of UTF-8, UTF-16 and UTF-32 read back what the encoders write,
whatever follows it (`Decoder.Reads`). By `Decoder.Reads.decodeWith_flatMap` they read back whole texts.
-/

namespace YamlStyle.Text

/-- A decoder reads back what is written for a character, whatever follows it. -/
structure Decoder.Reads (step : Decoder) (write : Char → Bytes) : Prop where
  ne_nil : ∀ c, write c ≠ []
  eq : ∀ c rest, step (write c ++ rest) = .ok ([c], (write c).length)

namespace Decoder.Reads

variable {step : Decoder} {write : Char → Bytes}

theorem decodeFrom_flatMap (h : step.Reads write) (codec : String) (t : Text) {fuel : Nat}
    (hfuel : (t.flatMap write).length ≤ fuel) (offset : Nat) :
    decodeFrom codec step fuel offset (t.flatMap write) = .ok t := by
  induction t generalizing fuel offset with
  | nil => cases fuel <;> rfl
  | cons c t ih =>
    obtain ⟨b, r, hb⟩ := List.exists_cons_of_ne_nil (h.ne_nil c)
    rw [List.flatMap_cons, List.length_append] at hfuel
    have hpos : 0 < (write c).length := List.length_pos_of_ne_nil (h.ne_nil c)
    obtain ⟨fuel, rfl⟩ := Nat.exists_eq_add_of_le' (show 1 ≤ fuel by omega)
    have hread := h.eq c (t.flatMap write)
    have hdrop : (write c ++ t.flatMap write).drop (write c).length = t.flatMap write := List.drop_left
    rw [hb] at hread hdrop
    rw [List.flatMap_cons, hb]
    rw [List.cons_append] at hread hdrop ⊢
    rw [decodeFrom, hread]
    dsimp only
    rw [hdrop, ih (by rw [hb] at hpos hfuel; omega)]
    rfl

/-- What is written for a text is read back as that text. -/
theorem decodeWith_flatMap (h : step.Reads write) (codec : String) (offset : Nat) (t : Text) :
    decodeWith codec step offset (t.flatMap write) = .ok t :=
  h.decodeFrom_flatMap codec t le_rfl offset

/-- Two characters are not written alike, even with bytes after them. -/
theorem inj (h : step.Reads write) {c d : Char} {r s : Bytes} (he : write c ++ r = write d ++ s) : c = d := by
  have hread := h.eq c r
  rw [he, h.eq d s] at hread
  simp only [Except.ok.injEq, Prod.mk.injEq, List.cons.injEq, and_true] at hread
  exact hread.1.symm

end Decoder.Reads

/-- No half of a pair of units is a character, and no number from 0x110000 on. -/
theorem toNat_valid (c : Char) : c.toNat < 0xd800 ∨ 0xe000 ≤ c.toNat ∧ c.toNat < 0x110000 := by
  rcases c.valid with h | ⟨h, h'⟩
  · exact .inl h
  · exact .inr ⟨h, h'⟩

/-! ## UTF-8 -/

namespace Utf8

/-- A byte within bounds adds its payload. -/
theorem continuation_cons {low high b : UInt8} {r : Bytes} (hlow : low ≤ b) (hhigh : b ≤ high) (code seen n : Nat) :
    continuation code seen (n + 1) low high (b :: r) =
      continuation (code * 64 + b.toNat % 64) (seen + 1) n 0x80 0xbf r := by
  rw [continuation, if_pos (by simp [hlow, hhigh])]

theorem tailOf_two {b : UInt8} (h : 0xc2 ≤ b.toNat) (h' : b.toNat < 0xe0) : tailOf b = some (1, 0x80, 0xbf) := by
  simp only [tailOf, UInt8.lt_iff_toNat_lt, UInt8.reduceToNat]
  rw [if_neg (by omega), if_pos h']

theorem tailOf_three {b : UInt8} (h : 0xe0 ≤ b.toNat) (h' : b.toNat < 0xf0) :
    tailOf b = some (2, if b.toNat = 0xe0 then 0xa0 else 0x80, if b.toNat = 0xed then 0x9f else 0xbf) := by
  simp only [tailOf, UInt8.lt_iff_toNat_lt, beq_iff_eq, ← UInt8.toNat_inj, UInt8.reduceToNat]
  rw [if_neg (by omega), if_neg (by omega)]
  split_ifs <;> first | rfl | omega

theorem tailOf_four {b : UInt8} (h : 0xf0 ≤ b.toNat) (h' : b.toNat ≤ 0xf4) :
    tailOf b = some (3, if b.toNat = 0xf0 then 0x90 else 0x80, if b.toNat = 0xf4 then 0x8f else 0xbf) := by
  simp only [tailOf, UInt8.lt_iff_toNat_lt, beq_iff_eq, ← UInt8.toNat_inj, UInt8.reduceToNat]
  rw [if_neg (by omega), if_neg (by omega), if_neg (by omega), if_neg (by omega), if_neg (by omega)]
  split_ifs <;> first | rfl | omega

/-- A byte after the second has no bounds but those of its class. -/
theorem continuation_follow {k : Nat} (hk : k < 64) (code seen n : Nat) (r : Bytes) :
    continuation code seen (n + 1) 0x80 0xbf (UInt8.ofNat (0x80 + k) :: r) =
      continuation (code * 64 + k) (seen + 1) n 0x80 0xbf r := by
  have hb : (UInt8.ofNat (0x80 + k)).toNat = 0x80 + k := UInt8.toNat_ofNat_of_lt' (show _ < 256 by omega)
  rw [continuation_cons, hb, show (0x80 + k) % 64 = k by omega]
  · rw [UInt8.le_iff_toNat_le, hb]
    exact Nat.le_add_right _ _
  · rw [UInt8.le_iff_toNat_le, hb, show (0xbf : UInt8).toNat = 0xbf from rfl]
    omega

theorem decodeChar_cons {b : UInt8} {n : Nat} {low high : UInt8} (hb : 0x80 ≤ b.toNat)
    (h : tailOf b = some (n, low, high)) (r : Bytes) :
    decodeChar (b :: r) = continuation (leadBits b n) 1 n low high r := by
  rw [decodeChar, if_neg (by rw [UInt8.lt_iff_toNat_lt]; exact Nat.not_lt.2 hb), h]

theorem decodeChar_one {n : Nat} (h : n < 0x80) (rest : Bytes) :
    decodeChar (UInt8.ofNat n :: rest) = .ok ([Char.ofNat n], 1) := by
  have hb : (UInt8.ofNat n).toNat = n := UInt8.toNat_ofNat_of_lt' (show _ < 256 by omega)
  rw [decodeChar, if_pos (by rw [UInt8.lt_iff_toNat_lt, hb]; exact h), hb]

theorem decodeChar_two {n : Nat} (h : 0x80 ≤ n) (h' : n < 0x800) (rest : Bytes) :
    decodeChar (UInt8.ofNat (0xc0 + n / 64) :: UInt8.ofNat (0x80 + n % 64) :: rest) = .ok ([Char.ofNat n], 2) := by
  have hb : (UInt8.ofNat (0xc0 + n / 64)).toNat = 0xc0 + n / 64 := UInt8.toNat_ofNat_of_lt' (show _ < 256 by omega)
  have hbits : leadBits (UInt8.ofNat (0xc0 + n / 64)) 1 = n / 64 := by
    show (UInt8.ofNat (0xc0 + n / 64)).toNat % 32 = n / 64
    rw [hb]
    omega
  rw [decodeChar_cons (by omega) (tailOf_two (by omega) (by omega)), hbits, continuation_follow (Nat.mod_lt _ (by decide)),
    continuation, show n / 64 * 64 + n % 64 = n by omega]

theorem decodeChar_three {n : Nat} (h : 0x800 ≤ n) (h' : n < 0x10000) (hv : n < 0xd800 ∨ 0xe000 ≤ n) (rest : Bytes) :
    decodeChar (UInt8.ofNat (0xe0 + n / 4096) :: UInt8.ofNat (0x80 + n / 64 % 64) ::
      UInt8.ofNat (0x80 + n % 64) :: rest) = .ok ([Char.ofNat n], 3) := by
  have hb : (UInt8.ofNat (0xe0 + n / 4096)).toNat = 0xe0 + n / 4096 := UInt8.toNat_ofNat_of_lt' (show _ < 256 by omega)
  have hd : (UInt8.ofNat (0x80 + n / 64 % 64)).toNat = 0x80 + n / 64 % 64 := UInt8.toNat_ofNat_of_lt' (show _ < 256 by omega)
  have hbits : leadBits (UInt8.ofNat (0xe0 + n / 4096)) 2 = n / 4096 := by
    show (UInt8.ofNat (0xe0 + n / 4096)).toNat % 16 = n / 4096
    rw [hb]
    omega
  rw [decodeChar_cons (by omega) (tailOf_three (by omega) (by omega)), hbits, continuation_cons, hd,
    continuation_follow (Nat.mod_lt _ (by decide)), continuation,
    show (n / 4096 * 64 + (0x80 + n / 64 % 64) % 64) * 64 + n % 64 = n by omega]
  · -- The least first byte leaves room for what two bytes do not write.
    rw [UInt8.le_iff_toNat_le, hd, hb]
    split_ifs
    · show 0xa0 ≤ _
      omega
    · show 0x80 ≤ _
      omega
  · -- Past the first byte 0xed are the halves of pairs of units.
    rw [UInt8.le_iff_toNat_le, hd, hb]
    split_ifs
    · show _ ≤ 0x9f
      omega
    · show _ ≤ 0xbf
      omega

theorem decodeChar_four {n : Nat} (h : 0x10000 ≤ n) (h' : n < 0x110000) (rest : Bytes) :
    decodeChar (UInt8.ofNat (0xf0 + n / 262144) :: UInt8.ofNat (0x80 + n / 4096 % 64) ::
      UInt8.ofNat (0x80 + n / 64 % 64) :: UInt8.ofNat (0x80 + n % 64) :: rest) = .ok ([Char.ofNat n], 4) := by
  have hb : (UInt8.ofNat (0xf0 + n / 262144)).toNat = 0xf0 + n / 262144 := UInt8.toNat_ofNat_of_lt' (show _ < 256 by omega)
  have hd : (UInt8.ofNat (0x80 + n / 4096 % 64)).toNat = 0x80 + n / 4096 % 64 := UInt8.toNat_ofNat_of_lt' (show _ < 256 by omega)
  have hbits : leadBits (UInt8.ofNat (0xf0 + n / 262144)) 3 = n / 262144 := by
    show (UInt8.ofNat (0xf0 + n / 262144)).toNat % 8 = n / 262144
    rw [hb]
    omega
  rw [decodeChar_cons (by omega) (tailOf_four (by omega) (by omega)), hbits, continuation_cons, hd,
    continuation_follow (Nat.mod_lt _ (by decide)), continuation_follow (Nat.mod_lt _ (by decide)), continuation,
    show ((n / 262144 * 64 + (0x80 + n / 4096 % 64) % 64) * 64 + n / 64 % 64) * 64 + n % 64 = n by omega]
  · rw [UInt8.le_iff_toNat_le, hd, hb]
    split_ifs
    · show 0x90 ≤ _
      omega
    · show 0x80 ≤ _
      omega
  · rw [UInt8.le_iff_toNat_le, hd, hb]
    split_ifs
    · show _ ≤ 0x8f
      omega
    · show _ ≤ 0xbf
      omega

theorem reads_encodeChar : Decoder.Reads decodeChar encodeChar where
  ne_nil c := by
    unfold encodeChar
    dsimp only
    split_ifs <;> simp
  eq c rest := by
    have hvalid := toNat_valid c
    unfold encodeChar
    simp only [Nat.pow_eq, pow_zero, pow_one, Nat.div_one, Nat.reducePow]
    split_ifs with h₁ h₂ h₃
    · exact (decodeChar_one h₁ rest).trans (by rw [Char.ofNat_toNat]; rfl)
    · exact (decodeChar_two (by omega) h₂ rest).trans (by rw [Char.ofNat_toNat]; rfl)
    · exact (decodeChar_three (by omega) h₃ (by omega) rest).trans (by rw [Char.ofNat_toNat]; rfl)
    · exact (decodeChar_four (by omega) (by omega) rest).trans (by rw [Char.ofNat_toNat]; rfl)

end Utf8

/-! ## Numbers in either order -/

namespace ByteOrder

theorem read_big (bytes : Bytes) : big.read bytes = little.read bytes.reverse := by
  show _ = List.foldl _ 0 bytes.reverse.reverse
  rw [List.reverse_reverse]
  rfl

theorem write_big (count n : Nat) : big.write count n = (little.write count n).reverse := rfl

theorem read_little_cons (b : UInt8) (bytes : Bytes) : little.read (b :: bytes) = little.read bytes * 256 + b.toNat := by
  show List.foldl _ 0 (b :: bytes).reverse = _
  rw [List.reverse_cons, List.foldl_append]
  rfl

theorem write_little_succ (count n : Nat) :
    little.write (count + 1) n = UInt8.ofNat (n % 256) :: little.write count (n / 256) := by
  show (List.range (count + 1)).map _ = _ :: (List.range count).map _
  rw [List.range_succ_eq_map, List.map_cons, List.map_map]
  congr 1
  · simp
  · refine List.map_congr_left fun k _ => ?_
    simp only [Function.comp_apply, Nat.pow_eq, Nat.div_div_eq_div_mul, pow_succ']

theorem length_write (order : ByteOrder) (count n : Nat) : (order.write count n).length = count := by
  cases order
  · exact (List.length_map _).trans List.length_range
  · rw [write_big, List.length_reverse]
    exact (List.length_map _).trans List.length_range

/-- The bytes of a number that fits into them read as the number. -/
theorem read_write (order : ByteOrder) {count n : Nat} (h : n < 256 ^ count) : order.read (order.write count n) = n := by
  have hlittle : little.read (little.write count n) = n := by
    induction count generalizing n with
    | zero =>
      obtain rfl : n = 0 := by simpa using h
      rfl
    | succ count ih =>
      have hlow : (UInt8.ofNat (n % 256)).toNat = n % 256 := UInt8.toNat_ofNat_of_lt' (show _ < 256 by omega)
      rw [write_little_succ, read_little_cons, ih (by rw [pow_succ] at h; omega), hlow]
      omega
  cases order
  · exact hlittle
  · rw [read_big, write_big, List.reverse_reverse]
    exact hlittle

theorem write_two (order : ByteOrder) {n : Nat} (h : n < 0x10000) :
    ∃ b₀ b₁, order.write 2 n = [b₀, b₁] ∧ order.read [b₀, b₁] = n := by
  obtain ⟨b₀, b₁, hb⟩ := List.length_eq_two.1 (order.length_write 2 n)
  exact ⟨b₀, b₁, hb, hb ▸ order.read_write h⟩

theorem write_four (order : ByteOrder) {n : Nat} (h : n < 0x100000000) :
    ∃ b₀ b₁ b₂ b₃, order.write 4 n = [b₀, b₁, b₂, b₃] ∧ order.read [b₀, b₁, b₂, b₃] = n := by
  have hlength := order.length_write 4 n
  match hb : order.write 4 n, hlength with
  | [b₀, b₁, b₂, b₃], _ => exact ⟨b₀, b₁, b₂, b₃, rfl, hb ▸ order.read_write h⟩

end ByteOrder

/-! ## UTF-16 and UTF-32 -/

namespace Utf16

variable (order : ByteOrder) {n : Nat}

theorem decodeChar_unit (h : n < 0x10000) (hv : n < 0xd800 ∨ 0xe000 ≤ n) (rest : Bytes) :
    decodeChar order (order.write 2 n ++ rest) = .ok ([Char.ofNat n], 2) := by
  obtain ⟨b₀, b₁, hb, hread⟩ := order.write_two h
  rw [hb]
  show decodeChar order (b₀ :: b₁ :: rest) = _
  simp only [decodeChar, hread]
  rw [if_pos (by simpa using hv)]

theorem decodeChar_pair {m : Nat} (h : m < 0x100000) (rest : Bytes) :
    decodeChar order (order.write 2 (0xd800 + m / 0x400) ++ order.write 2 (0xdc00 + m % 0x400) ++ rest) =
      .ok ([Char.ofNat (0x10000 + m)], 4) := by
  obtain ⟨b₀, b₁, hhigh, hreadHigh⟩ := order.write_two (show 0xd800 + m / 0x400 < 0x10000 by omega)
  obtain ⟨b₂, b₃, hlow, hreadLow⟩ := order.write_two (show 0xdc00 + m % 0x400 < 0x10000 by omega)
  rw [hhigh, hlow]
  show decodeChar order (b₀ :: b₁ :: b₂ :: b₃ :: rest) = _
  simp only [decodeChar, hreadHigh, hreadLow]
  rw [if_neg (by simp; omega), if_neg (by omega), if_pos (by simp; omega), joinHalves,
    show 0x10000 + (0xd800 + m / 0x400 - 0xd800) * 0x400 + (0xdc00 + m % 0x400 - 0xdc00) = 0x10000 + m by omega]

theorem reads_encodeChar : Decoder.Reads (decodeChar order) (encodeChar order) where
  ne_nil c h := by
    have hlength := congrArg List.length h
    unfold encodeChar at hlength
    dsimp only at hlength
    split_ifs at hlength
    · rw [order.length_write] at hlength
      cases hlength
    · rw [List.length_append, order.length_write, order.length_write] at hlength
      cases hlength
  eq c rest := by
    have hvalid := toNat_valid c
    unfold encodeChar
    dsimp only
    split_ifs with h
    · rw [decodeChar_unit order h (by omega), Char.ofNat_toNat, order.length_write]
    · rw [decodeChar_pair order (by omega), Nat.add_sub_cancel' (by omega), Char.ofNat_toNat, List.length_append,
        order.length_write, order.length_write]

end Utf16

namespace Utf32

theorem reads_write (order : ByteOrder) : Decoder.Reads (decodeChar order) fun c => order.write 4 c.toNat where
  ne_nil c h := by
    have hlength := congrArg List.length h
    rw [order.length_write] at hlength
    cases hlength
  eq c rest := by
    have hvalid := toNat_valid c
    obtain ⟨b₀, b₁, b₂, b₃, hb, hread⟩ := order.write_four (show c.toNat < 0x100000000 by omega)
    rw [hb]
    show decodeChar order (b₀ :: b₁ :: b₂ :: b₃ :: rest) = _
    simp only [decodeChar, hread]
    rw [if_neg (by simp; omega), if_neg (by omega), Char.ofNat_toNat]
    rfl

end Utf32

/-! ## Whole texts -/

theorem Utf8.decode_encode (t : Text) : Utf8.decode (Utf8.encode t) = .ok t :=
  Utf8.reads_encodeChar.decodeWith_flatMap _ _ t

theorem Utf16.decode_encode (order : ByteOrder) (offset : Nat) (t : Text) :
    Utf16.decode order offset (Utf16.encode order t) = .ok t :=
  (Utf16.reads_encodeChar order).decodeWith_flatMap _ _ t

theorem Utf32.decode_encode (order : ByteOrder) (offset : Nat) (t : Text) :
    Utf32.decode order offset (Utf32.encode order t) = .ok t :=
  (Utf32.reads_write order).decodeWith_flatMap _ _ t

end YamlStyle.Text

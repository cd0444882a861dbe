import YamlStyle.Proofs.Text.RoundTrip
import YamlStyle.Text.Encoding.Detect

/-!
# Decoding undoes encoding

Where no encoding is asked for, the first bytes of a stream show how it is encoded: by a byte order mark,
or by the zero bytes around an early character. No scheme is taken for another, so that the text of a
stream is the one that was written (`outcome_decode_encode`).
-/

namespace YamlStyle.Text

/-- The ways to write a text as bytes that are told apart. -/
inductive Scheme where
  | utf8
  | utf16 (order : ByteOrder)
  | utf32 (order : ByteOrder)

namespace Scheme

def mark : Scheme → Bytes
  | utf8 => Encoding.mark8
  | utf16 .little => Encoding.littleMark16
  | utf16 .big => Encoding.bigMark16
  | utf32 .little => Encoding.littleMark32
  | utf32 .big => Encoding.bigMark32

def encode : Scheme → Text → Bytes
  | utf8 => Utf8.encode
  | utf16 order => Utf16.encode order
  | utf32 order => Utf32.encode order

/-- Whether a text shows its scheme without a mark. In UTF-8 it does not start with the character that
is the mark; in the others it starts with a character of one byte, if with any. -/
def IsShownBy (t : Text) : Scheme → Prop
  | utf8 => t.head? ≠ some '\ufeff'
  | _ => ∀ c ∈ t.head?, 0x01 ≤ c.toNat ∧ c.toNat ≤ 0xff

end Scheme

/-! ## First bytes of what is written -/

namespace Utf8

/-- A zero byte is only written for NUL, and the bytes from 0xf8 on are not written at all. -/
theorem of_mem_encodeChar {c : Char} {b : UInt8} (h : b ∈ encodeChar c) : b.toNat < 0xf8 ∧ (b = 0 → c = '\x00') := by
  have hvalid := toNat_valid c
  -- Every byte of a character of several bytes has its high bit.
  have hlong : ∀ m, 0x80 ≤ m → m < 0xf8 → b = UInt8.ofNat m → b.toNat < 0xf8 ∧ (b = 0 → c = '\x00') := by
    intro m hlow hhigh hb
    have hm : b.toNat = m := by rw [hb, UInt8.toNat_ofNat_of_lt' (show _ < 256 by omega)]
    refine ⟨by omega, fun he => ?_⟩
    rw [he, show (0 : UInt8).toNat = 0 from rfl] at hm
    omega
  unfold encodeChar at h
  simp only [Nat.pow_eq, pow_zero, pow_one, Nat.div_one, Nat.reducePow] at h
  split_ifs at h <;> simp only [List.mem_cons, List.not_mem_nil, or_false] at h
  · have hb : b.toNat = c.toNat := by rw [h, UInt8.toNat_ofNat_of_lt' (show _ < 256 by omega)]
    refine ⟨by omega, fun he => Char.toNat_inj.1 ?_⟩
    rw [← hb, he]
    rfl
  · rcases h with h | h <;> exact hlong _ (by omega) (by omega) h
  · rcases h with h | h | h <;> exact hlong _ (by omega) (by omega) h
  · rcases h with h | h | h | h <;> exact hlong _ (by omega) (by omega) h

end Utf8

namespace ByteOrder

theorem write_little_zero (count : Nat) : little.write count 0 = List.replicate count 0 := by
  induction count with
  | zero => rfl
  | succ count ih => rw [write_little_succ, Nat.zero_div, ih, List.replicate_succ]; rfl

theorem write_little_of_lt {n : Nat} (h : n < 256) (count : Nat) :
    little.write (count + 1) n = UInt8.ofNat n :: List.replicate count 0 := by
  rw [write_little_succ, Nat.mod_eq_of_lt h, Nat.div_eq_of_lt h, write_little_zero]

theorem write_big_of_lt {n : Nat} (h : n < 256) (count : Nat) :
    big.write (count + 1) n = List.replicate count 0 ++ [UInt8.ofNat n] := by
  rw [write_big, write_little_of_lt h, List.reverse_cons, List.reverse_replicate]

end ByteOrder

namespace Encoding

theorem startsWith_iff {mark bytes : Bytes} : startsWith mark bytes = true ↔ mark <+: bytes := by
  rw [startsWith, beq_iff_eq, eq_comm, ← List.prefix_iff_eq_take]

/-- What is written for a text starts with what is written for a character only if the text does. -/
theorem not_startsWith_flatMap {step : Decoder} {write : Char → Bytes} (h : step.Reads write) {c : Char} {t : Text}
    (hc : t.head? ≠ some c) : startsWith (write c) (t.flatMap write) = false := by
  rw [Bool.eq_false_iff, Ne, startsWith_iff]
  rintro ⟨r, hr⟩
  cases t with
  | nil => exact h.ne_nil c (List.append_eq_nil_iff.1 hr).1
  | cons d t => exact hc (congrArg some (h.inj hr).symm)

theorem not_startsWith_cons {b : UInt8} {mark bytes : Bytes} (h : b ∉ bytes) : startsWith (b :: mark) bytes = false := by
  rw [Bool.eq_false_iff, Ne, startsWith_iff]
  intro hstarts
  exact h (hstarts.subset List.mem_cons_self)

/-! ## Which encoding is detected -/

variable {b : UInt8} {r : Bytes}

theorem detect_bigMark32 (r : Bytes) : detect (bigMark32 ++ r) = utf32 := rfl

theorem detect_littleMark32 (r : Bytes) : detect (littleMark32 ++ r) = utf32 := rfl

theorem detect_bigMark16 (r : Bytes) : detect (bigMark16 ++ r) = utf16 := rfl

/-- The mark of UTF-16 starts that of UTF-32, and NUL would make up the rest. -/
theorem detect_littleMark16 (h : startsWith [0, 0] r = false) : detect (littleMark16 ++ r) = utf16 := by
  have hr : startsWith littleMark32 (littleMark16 ++ r) = false := h
  rw [detect, hr]
  rfl

theorem detect_mark8 (r : Bytes) : detect (mark8 ++ r) = utf8Marked := rfl

theorem detect_big32 (b : UInt8) (r : Bytes) : detect (0 :: 0 :: 0 :: b :: r) = utf32Big := rfl

theorem detect_little32 (h : b ≠ 0) (r : Bytes) : detect (b :: 0 :: 0 :: 0 :: r) = utf32Little := by
  simp [detect, startsWith, bigMark32, littleMark32, h]

theorem detect_big16 (h : b ≠ 0) (r : Bytes) : detect (0 :: b :: r) = utf16Big := by
  simp [detect, startsWith, bigMark32, littleMark32, bigMark16, h]

theorem detect_little16 (h : b ≠ 0) (hr : startsWith [0, 0] r = false) : detect (b :: 0 :: r) = utf16Little := by
  have htake : r.take 2 ≠ [0, 0] := by simpa [startsWith] using hr
  simp [detect, startsWith, bigMark32, littleMark32, bigMark16, littleMark16, h, htake]

/-- Three bytes that UTF-8 does not write are all that tells the other schemes from it. -/
theorem detect_utf8 {bytes : Bytes} (hzero : 0 ∉ bytes) (hfe : 0xfe ∉ bytes) (hff : 0xff ∉ bytes)
    (hmark : startsWith mark8 bytes = false) : detect bytes = utf8 := by
  have htail : 0 ∉ bytes.drop 1 := fun h => hzero (List.mem_of_mem_drop h)
  simp only [detect, bigMark32, littleMark32, bigMark16, littleMark16, not_startsWith_cons hzero, not_startsWith_cons hfe,
    not_startsWith_cons hff, not_startsWith_cons htail, hmark, Bool.false_and, Bool.false_eq_true, if_false]

/-! ## By name -/

theorem ofName?_of_unicode {name : String} {e : Encoding}
    (h : unicode.find? (isNamed (plainName name.toLower) ·.names) = some e) : ofName? name = some e := by
  simp only [ofName?, all, List.append_assoc, List.find?_append, h, Option.some_or]

/-- What is detected is an encoding that its name leads back to. -/
theorem ofName?_detect (bytes : Bytes) :
    (detect bytes).name.toList.contains '\x00' = false ∧ ofName? (detect bytes).name = some (detect bytes) := by
  unfold detect
  dsimp only
  split_ifs
  all_goals exact ⟨by cbv, ofName?_of_unicode (by cbv)⟩

end Encoding

/-- Where no encoding is asked for, bytes are decoded as what is detected. -/
theorem outcome_decode {asked : Asked} {override : Option String} {bytes : Bytes} {t : Text}
    (hasked : asked.outcome = .ok override) (hnone : override.filter (· != "") = none)
    (h : (Encoding.detect bytes).decode bytes = .ok t) : (decode asked bytes).outcome = .ok t := by
  have hname : (encodingName asked bytes).outcome = .ok (Encoding.detect bytes).name := by
    rw [encodingName, Logged.outcome_bind, Logged.outcome_mapError_eq_ok.2 hasked]
    dsimp only [Except.bind, bind]
    rw [hnone]
    rfl
  obtain ⟨hnul, hof⟩ := Encoding.ofName?_detect bytes
  rw [decode, Logged.outcome_bind, hname]
  show decodeAs (Encoding.detect bytes).name bytes = .ok t
  rw [decodeAs, if_neg (by rw [hnul]; exact Bool.false_ne_true), hof]
  cases bytes with
  | nil =>
    obtain rfl : [] = t := Except.ok.inj h
    rfl
  | cons b r =>
    rw [if_neg (by simp)]
    dsimp only
    rw [h]
    rfl

/-! ## Each scheme -/

theorem Encoding.decode_ofSteps {names : List String} {read : Bytes → Except Undecodable Text} {bytes : Bytes} {t : Text}
    (h : read bytes = .ok t) : (ofSteps names read).decode bytes = .ok t := by
  show (read bytes).mapError _ = _
  rw [h]
  rfl

section

variable {t : Text}

theorem head?_ne_of_not_mem {c : Char} (h : c ∉ t) : t.head? ≠ some c := fun hc => h (List.mem_of_mem_head? hc)

theorem Utf16.not_startsWith_encode (order : ByteOrder) (hnul : '\x00' ∉ t) :
    Encoding.startsWith [0, 0] (Utf16.encode order t) = false := by
  have hwrite : Utf16.encodeChar order '\x00' = [0, 0] := by cases order <;> rfl
  rw [← hwrite]
  exact Encoding.not_startsWith_flatMap (Utf16.reads_encodeChar order) (head?_ne_of_not_mem hnul)

/-- After a mark a text is read back. -/
theorem Scheme.decode_marked (s : Scheme) (hnul : '\x00' ∉ t) :
    (Encoding.detect (s.mark ++ s.encode t)).decode (s.mark ++ s.encode t) = .ok t := by
  match s with
  | utf8 =>
    rw [mark, Encoding.detect_mark8]
    exact Encoding.decode_ofSteps (Utf8.decode_encode t)
  | utf16 .little =>
    rw [mark, encode, Encoding.detect_littleMark16 (Utf16.not_startsWith_encode .little hnul)]
    exact Encoding.decode_ofSteps (Utf16.decode_encode .little 2 t)
  | utf16 .big =>
    rw [mark, Encoding.detect_bigMark16]
    exact Encoding.decode_ofSteps (Utf16.decode_encode .big 2 t)
  | utf32 .little =>
    rw [mark, Encoding.detect_littleMark32]
    exact Encoding.decode_ofSteps (Utf32.decode_encode .little 4 t)
  | utf32 .big =>
    rw [mark, Encoding.detect_bigMark32]
    exact Encoding.decode_ofSteps (Utf32.decode_encode .big 4 t)

theorem Utf8.detect_encode (hnul : '\x00' ∉ t) (hmark : t.head? ≠ some '\ufeff') :
    Encoding.detect (Utf8.encode t) = Encoding.utf8 := by
  have hbytes : ∀ b ∈ Utf8.encode t, b ≠ 0 ∧ b.toNat < 0xf8 := by
    intro b hb
    obtain ⟨c, hc, hb⟩ := List.mem_flatMap.1 hb
    obtain ⟨hlt, hzero⟩ := of_mem_encodeChar hb
    exact ⟨fun h => hnul (hzero h ▸ hc), hlt⟩
  have hwrite : Utf8.encodeChar '\ufeff' = Encoding.mark8 := by decide
  refine Encoding.detect_utf8 ?_ ?_ ?_ ?_
  · intro h
    exact (hbytes _ h).1 rfl
  · intro h
    exact absurd (hbytes _ h).2 (by decide)
  · intro h
    exact absurd (hbytes _ h).2 (by decide)
  · rw [← hwrite]
    exact Encoding.not_startsWith_flatMap Utf8.reads_encodeChar hmark

theorem Utf16.encodeChar_of_lt {c : Char} (h : c.toNat < 0x100) (order : ByteOrder) :
    Utf16.encodeChar order c = order.write 2 c.toNat := by
  rw [encodeChar]
  exact if_pos (by omega)

theorem ofNat_ne_zero {n : Nat} (h : 0x01 ≤ n) (h' : n ≤ 0xff) : UInt8.ofNat n ≠ 0 := by
  intro he
  have := congrArg UInt8.toNat he
  rw [UInt8.toNat_ofNat_of_lt' (show _ < 256 by omega), show (0 : UInt8).toNat = 0 from rfl] at this
  omega

theorem Utf16.detect_encode {c : Char} (hc : 0x01 ≤ c.toNat ∧ c.toNat ≤ 0xff) (hnul : '\x00' ∉ t) (order : ByteOrder) :
    Encoding.detect (Utf16.encode order (c :: t)) =
      match order with
      | .little => Encoding.utf16Little
      | .big => Encoding.utf16Big := by
  have hne := ofNat_ne_zero hc.1 hc.2
  rw [encode, List.flatMap_cons, encodeChar_of_lt (by omega)]
  cases order with
  | little =>
    rw [ByteOrder.write_little_of_lt (by omega)]
    exact Encoding.detect_little16 hne (not_startsWith_encode .little hnul)
  | big =>
    rw [ByteOrder.write_big_of_lt (by omega)]
    exact Encoding.detect_big16 hne _

theorem Utf32.detect_encode {c : Char} (hc : 0x01 ≤ c.toNat ∧ c.toNat ≤ 0xff) (t : Text) (order : ByteOrder) :
    Encoding.detect (Utf32.encode order (c :: t)) =
      match order with
      | .little => Encoding.utf32Little
      | .big => Encoding.utf32Big := by
  rw [encode, List.flatMap_cons]
  cases order with
  | little =>
    rw [ByteOrder.write_little_of_lt (by omega)]
    exact Encoding.detect_little32 (ofNat_ne_zero hc.1 hc.2) _
  | big =>
    rw [ByteOrder.write_big_of_lt (by omega)]
    exact Encoding.detect_big32 _ _

/-- Without a mark a text that shows its scheme is read back. -/
theorem Scheme.decode_unmarked {s : Scheme} (hnul : '\x00' ∉ t) (hshown : s.IsShownBy t) :
    (Encoding.detect (s.encode t)).decode (s.encode t) = .ok t := by
  match s, t with
  | utf8, t =>
    rw [encode, Utf8.detect_encode hnul hshown]
    exact Encoding.decode_ofSteps (Utf8.decode_encode t)
  | utf16 _, [] => rfl
  | utf32 _, [] => rfl
  | utf16 order, c :: t =>
    rw [encode, Utf16.detect_encode (hshown c rfl) (fun h => hnul (.tail _ h))]
    cases order with
    | little => exact Encoding.decode_ofSteps (Utf16.decode_encode .little 0 (c :: t))
    | big => exact Encoding.decode_ofSteps (Utf16.decode_encode .big 0 (c :: t))
  | utf32 order, c :: t =>
    rw [encode, Utf32.detect_encode (hshown c rfl)]
    cases order with
    | little => exact Encoding.decode_ofSteps (Utf32.decode_encode .little 0 (c :: t))
    | big => exact Encoding.decode_ofSteps (Utf32.decode_encode .big 0 (c :: t))

end

/-! ## Main theorem -/

/-- Where no encoding is asked for, a text without NUL is what its bytes are decoded as, in each scheme
behind the mark of the scheme, and without a mark where the text shows the scheme. -/
theorem outcome_decode_encode {asked : Asked} {override : Option String} {t : Text} (hasked : asked.outcome = .ok override)
    (hnone : override.filter (· != "") = none) (hnul : '\x00' ∉ t) (s : Scheme) :
    (decode asked (s.mark ++ s.encode t)).outcome = .ok t ∧
      (s.IsShownBy t → (decode asked (s.encode t)).outcome = .ok t) :=
  ⟨outcome_decode hasked hnone (s.decode_marked hnul),
    fun hshown => outcome_decode hasked hnone (Scheme.decode_unmarked hnul hshown)⟩

/-- The first character takes two bytes of UTF-8 and one unit of UTF-16, the last one four bytes and two. -/
theorem outcome_decode_encode_of_accent :
    (pure none : Asked).outcome = .ok none ∧ '\x00' ∉ "é: 😀".toList ∧
      Scheme.IsShownBy "é: 😀".toList (.utf16 .big) ∧
      (decode (pure none) (0xfe :: 0xff :: Utf16.encode .big "é: 😀".toList)).outcome = .ok "é: 😀".toList ∧
      (decode (pure none) (Utf16.encode .big "é: 😀".toList)).outcome = .ok "é: 😀".toList := by
  have hnul : '\x00' ∉ "é: 😀".toList := by decide
  have hshown : Scheme.IsShownBy "é: 😀".toList (.utf16 .big) := by
    intro c hc
    obtain rfl : 'é' = c := Option.some.inj hc
    decide
  have hasked : (pure none : Asked).outcome = .ok none := rfl
  obtain ⟨hmarked, hunmarked⟩ := outcome_decode_encode hasked rfl hnul (.utf16 .big)
  exact ⟨hasked, hnul, hshown, hmarked, hunmarked hshown⟩

end YamlStyle.Text

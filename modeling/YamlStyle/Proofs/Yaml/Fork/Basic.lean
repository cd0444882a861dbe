import YamlStyle.Proofs.Yaml.Ensures
import YamlStyle.Proofs.Yaml.PlainText

/-!
# Texts that part at a place

Two texts are the same up to a place where each goes on with a word of its own; or they are the same to their ends, but
the marks of one are not those of the other. Up to that place whatever is read from one of them is read from the other.
-/

namespace YamlStyle.Yaml

/-- A text that starts with a quote. -/
def StartsQuoted (t : Text) : Prop := ∃ ch r, t = ch :: r ∧ (ch = '"' ∨ ch = '\'')

/-- A text that starts neither with a blank nor with a comment, nor with a byte order mark. -/
def StartsWord (t : Text) : Prop := ∃ ch r, t = ch :: r ∧ endsWord (some ch) = false ∧ ch ≠ '#' ∧ ch ≠ '\ufeff'

theorem StartsQuoted.ne_nil {t : Text} (h : StartsQuoted t) : t ≠ [] := by
  obtain ⟨ch, r, rfl, -⟩ := h
  exact List.cons_ne_nil _ _

theorem StartsQuoted.startsWord {t : Text} (h : StartsQuoted t) : StartsWord t := by
  obtain ⟨ch, r, rfl, rfl | rfl⟩ := h
  · exact ⟨_, r, rfl, rfl, by decide, by decide⟩
  · exact ⟨_, r, rfl, rfl, by decide, by decide⟩

/-- How two texts go on from the place where they part, and which marks go together. -/
structure Fork where
  left : Text
  right : Text
  Marks : Mark → Mark → Prop
  advance : ∀ {m m' : Mark}, Marks m m' → ∀ ch following,
    Marks (advanceMark m ch following) (advanceMark m' ch following)
  column : ∀ {m m' : Mark}, Marks m m' → m'.column = m.column
  line : ∀ {a a' b b' : Mark}, Marks a a' → Marks b b' → (a'.line = b'.line ↔ a.line = b.line)
  /-- Distances are kept. -/
  apart : ∀ {a a' b b' : Mark}, Marks a a' → Marks b b' → a'.offset - b'.offset = a.offset - b.offset
  offset : ∀ {a a' b b' : Mark}, Marks a a' → Marks b b' → (a'.offset = b'.offset ↔ a.offset = b.offset)
  atStart : ∀ {m m' : Mark}, Marks m m' → (m'.offset = 0 ↔ m.offset = 0)
  seam : left = [] ∧ right = [] ∨ StartsQuoted left ∧ StartsWord right

namespace Fork

variable {F : Fork} {c c' d d' : Cursor} {n : Nat}

/-- Before the place where texts part stands a space. -/
def Edge (F : Fork) (p : Text) : Prop := F.left = [] ∨ ∀ ch ∈ p.getLast?, ch = ' '

/-- Two cursors at the same place of two texts that have not parted yet. They do not part at the start of a line. -/
def Beside (F : Fork) (c c' : Cursor) : Prop :=
  ∃ p, c.rest = p ++ F.left ∧ c'.rest = p ++ F.right ∧ F.Edge p ∧ (p = [] → F.left = [] ∨ c.mark.column ≠ 0) ∧
    F.Marks c.mark c'.mark

/-- A cursor at least `n` characters before the place where texts part, if they do. -/
def Before (F : Fork) (n : Nat) (c : Cursor) : Prop := F.left = [] ∨ n + F.left.length ≤ c.rest.length

theorem Before.mono {m : Nat} (h : F.Before n c) (hm : m ≤ n) : F.Before m c := h.imp_right fun h => by omega

theorem Before.of_length (h : F.Before n c) (hd : c.rest.length ≤ d.rest.length) : F.Before n d :=
  h.imp_right fun h => by omega

theorem right_eq_nil (h : F.left = []) : F.right = [] := by
  rcases F.seam with ⟨-, hr⟩ | ⟨⟨ch, r, hl, -⟩, -⟩
  · exact hr
  · rw [h] at hl
    cases hl

theorem parts (h : F.left ≠ []) : StartsQuoted F.left ∧ StartsWord F.right := F.seam.resolve_left fun hs => h hs.1

/-- The last character before the place where texts part is a space. -/
theorem Edge.exists_concat {p : Text} (h : F.Edge p) (hne : F.left ≠ []) (hp : p ≠ []) : ∃ q, p = q ++ [' '] := by
  obtain ⟨q, ch, rfl⟩ := (List.eq_nil_or_concat p).resolve_left hp
  rw [List.concat_eq_append] at h ⊢
  exact ⟨q, by rw [h.resolve_left hne ch (by simp)]⟩

/-- The mark after a character depends on the next one only if that is a line feed. -/
theorem advanceMark_congr {m : Mark} {ch : Char} {following following' : Option Char}
    (h : following = some '\n' ↔ following' = some '\n') : advanceMark m ch following = advanceMark m ch following' := by
  have : (following != some '\n') = (following' != some '\n') := by
    by_cases hf : following = some '\n'
    · rw [hf, h.1 hf]
    · rw [bne, bne, beq_eq_false_iff_ne.2 hf, beq_eq_false_iff_ne.2 fun h' => hf (h.2 h')]
  rw [advanceMark, advanceMark, this]

namespace Beside

theorem marks (h : F.Beside c c') : F.Marks c.mark c'.mark := by
  obtain ⟨-, -, -, -, -, h⟩ := h
  exact h

theorem rest_eq (h : F.Beside c c') (hnil : F.left = []) : c'.rest = c.rest := by
  obtain ⟨p, hc, hc', -⟩ := h
  rw [hc, hc', hnil, right_eq_nil hnil]

theorem before (h : F.Beside c c') : F.Before 0 c := by
  obtain ⟨p, hc, -⟩ := h
  rw [Before, hc, List.length_append]
  exact .inr (by omega)

/-- Either nothing tells the texts apart, or some of what they share is left. -/
theorem cases_before (h : F.Beside c c') (hb : F.Before 1 c) : F.left = [] ∧ c'.rest = c.rest ∨
    F.left ≠ [] ∧ ∃ q, c.rest = q ++ ' ' :: F.left ∧ c'.rest = q ++ ' ' :: F.right := by
  by_cases heq : F.left = []
  · exact .inl ⟨heq, h.rest_eq heq⟩
  · obtain ⟨p, hc, hc', hedge, -⟩ := h
    have hp : p ≠ [] := by
      rintro rfl
      have := hb.resolve_left heq
      rw [hc, List.nil_append] at this
      omega
    obtain ⟨q, rfl⟩ := hedge.exists_concat heq hp
    exact .inr ⟨heq, q, by simp [hc], by simp [hc']⟩

/-- Either some of what two texts share is left, or each of them goes on with a word. -/
theorem cases_start (h : F.Beside c c') :
    F.Before 1 c ∨ F.left ≠ [] ∧ c.rest = F.left ∧ c'.rest = F.right ∧ c.mark.column ≠ 0 := by
  by_cases heq : F.left = []
  · exact .inl (.inl heq)
  · obtain ⟨_ | ⟨ch, p⟩, hc, hc', -, hcolumn, -⟩ := h
    · exact .inr ⟨heq, hc, hc', (hcolumn rfl).resolve_left heq⟩
    · refine .inl (.inr ?_)
      rw [hc, List.length_append, List.length_cons]
      omega

theorem peek (h : F.Beside c c') (hb : F.Before 1 c) : c'.peek = c.peek := by
  rw [Cursor.peek, Cursor.peek]
  rcases h.cases_before hb with ⟨-, heq⟩ | ⟨-, q, hc, hc'⟩
  · rw [heq]
  · rw [hc, hc']
    cases q <;> rfl

/-- What is next is the same to a question that no word answers with yes. -/
theorem peek_congr (h : F.Beside c c') {p : Option Char → Bool}
    (hp : ∀ ch, endsWord (some ch) = false → ch ≠ '#' → p (some ch) = false) : p c'.peek = p c.peek := by
  rcases h.cases_start with hb | ⟨hne, hc, hc', -⟩
  · rw [h.peek hb]
  · obtain ⟨ch, r, hl, hch, hhash, -⟩ := (F.parts hne).1.startsWord
    obtain ⟨ch', r', hr, hch', hhash', -⟩ := (F.parts hne).2
    rw [Cursor.peek, Cursor.peek, hc, hc', hl, hr, List.head?_cons, List.head?_cons, hp ch hch hhash, hp ch' hch' hhash']

/-- The characters that start no word. -/
theorem peek_beq (h : F.Beside c c') {x : Char} (hx : endsWord (some x) = true ∨ x = '#') :
    (c'.peek == some x) = (c.peek == some x) := by
  refine h.peek_congr (p := (· == some x)) fun ch hch hhash => beq_false_of_ne fun heq => ?_
  obtain rfl := Option.some.inj heq
  rcases hx with hx | hx
  · rw [hx] at hch
    cases hch
  · exact hhash hx

theorem peek_isNone (h : F.Beside c c') : c'.peek.isNone = c.peek.isNone :=
  h.peek_congr (p := Option.isNone) fun _ _ _ => rfl

theorem next (h : F.Beside c c') (hb : F.Before 1 c) : F.Beside c.next c'.next := by
  have hm := h.marks
  obtain ⟨rest, m⟩ := c
  obtain ⟨rest', m'⟩ := c'
  rcases h.cases_before hb with ⟨hnil, heq⟩ | ⟨hne, q, hc, hc'⟩
  · dsimp only at heq
    subst heq
    cases rest' with
    | nil => exact h
    | cons ch r => exact ⟨r, by simp [Cursor.next, hnil], by simp [Cursor.next, right_eq_nil hnil], .inl hnil,
        fun _ => .inl hnil, F.advance hm _ _⟩
  · dsimp only at hc hc' hm
    subst hc hc'
    cases q with
    | nil =>
      have hfollow : F.right.head? = some '\n' ↔ F.left.head? = some '\n' := by
        obtain ⟨ch, r, hl, hch, -⟩ := (F.parts hne).1.startsWord
        obtain ⟨ch', r', hr, hch', -⟩ := (F.parts hne).2
        rw [hl, hr, List.head?_cons, List.head?_cons]
        constructor <;> (intro h; cases h)
        · cases hch'
        · cases hch
      refine ⟨[], rfl, rfl, .inr (by simp), fun _ => .inr ?_, ?_⟩
      · exact Nat.succ_ne_zero _
      simp only [Cursor.next, List.nil_append]
      rw [advanceMark_congr hfollow]
      exact F.advance hm _ _
    | cons ch q =>
      refine ⟨q ++ [' '], by simp [Cursor.next], by simp [Cursor.next], .inr (by simp), fun hnil => ?_, ?_⟩
      · simp at hnil
      have hfollow : (q ++ ' ' :: F.right).head? = (q ++ ' ' :: F.left).head? := by cases q <;> rfl
      simp only [Cursor.next, List.cons_append]
      rw [hfollow]
      exact F.advance hm _ _

theorem skip (h : F.Beside c c') (hb : F.Before n c) : F.Beside (c.skip n) (c'.skip n) := by
  induction n generalizing c c' with
  | zero => exact h
  | succ n ih =>
    refine ih (h.next (hb.mono (by omega))) (hb.imp_right fun hb => ?_)
    rw [Cursor.rest_next, List.length_drop]
    omega

/-- Blanks end where a word starts. -/
theorem takeWhile_blank (h : F.Beside c c') {p : Char → Bool} (hp : ∀ ch, p ch = true → endsWord (some ch) = true) :
    c'.rest.takeWhile p = c.rest.takeWhile p ∧ F.Before (c.rest.takeWhile p).length c := by
  by_cases hnil : F.left = []
  · rw [h.rest_eq hnil]
    exact ⟨rfl, .inl hnil⟩
  · obtain ⟨q, hc, hc', -⟩ := h
    have hword : ∀ {t}, StartsWord t → (q ++ t).takeWhile p = q.takeWhile p := by
      rintro t ⟨ch, r, rfl, hch, -⟩
      have hno : p ch = false := by
        cases hpc : p ch with
        | false => rfl
        | true => rw [hp ch hpc] at hch; cases hch
      rw [List.takeWhile_append]
      split
      · next hall =>
        rw [List.takeWhile_cons, hno]
        simp only [Bool.false_eq_true, if_false, List.append_nil]
        exact ((List.takeWhile_prefix p).eq_of_length hall).symm
      · rfl
    obtain ⟨hl, hr⟩ := F.parts hnil
    rw [Before, hc, hc', hword hl.startsWord, hword hr]
    refine ⟨rfl, .inr ?_⟩
    have := (List.takeWhile_prefix p (l := q)).length_le
    rw [List.length_append]
    omega

/-- Words end where a space stands. -/
theorem takeWhile_word (h : F.Beside c c') (hb : F.Before 1 c) {p : Char → Bool} (hp : p ' ' = false) :
    c'.rest.takeWhile p = c.rest.takeWhile p ∧ F.Before ((c.rest.takeWhile p).length + 1) c := by
  rcases h.cases_before hb with ⟨hnil, heq⟩ | ⟨hne, q, hc, hc'⟩
  · rw [heq]
    exact ⟨rfl, .inl hnil⟩
  · have hspace : ∀ t, (q ++ ' ' :: t).takeWhile p = q.takeWhile p := by
      intro t
      rw [List.takeWhile_append, List.takeWhile_cons, hp]
      split
      · next hall =>
        simp only [Bool.false_eq_true, if_false, List.append_nil]
        exact ((List.takeWhile_prefix p).eq_of_length hall).symm
      · rfl
    rw [Before, hc, hc', hspace, hspace]
    refine ⟨rfl, .inr ?_⟩
    have := (List.takeWhile_prefix p (l := q)).length_le
    rw [List.length_append, List.length_cons]
    omega

/-- Within what two texts share there are the same characters. -/
theorem peekAt (h : F.Beside c c') (hb : F.Before (n + 1) c) : c'.peekAt n = c.peekAt n := by
  rw [Cursor.peekAt, Cursor.peekAt]
  by_cases hnil : F.left = []
  · rw [h.rest_eq hnil]
  · obtain ⟨q, hc, hc', -⟩ := h
    have hlen := hb.resolve_left hnil
    rw [hc, List.length_append] at hlen
    rw [hc, hc', List.getElem?_append_left (by omega), List.getElem?_append_left (by omega)]

theorem take (h : F.Beside c c') (hb : F.Before n c) : c'.rest.take n = c.rest.take n := by
  by_cases hnil : F.left = []
  · rw [h.rest_eq hnil]
  · obtain ⟨q, hc, hc', -⟩ := h
    have hlen := hb.resolve_left hnil
    rw [hc, List.length_append] at hlen
    rw [hc, hc', List.take_append_of_le_length (by omega), List.take_append_of_le_length (by omega)]

/-- A character that is no space is not the last one before the place where texts part. -/
theorem before_of_peek (h : F.Beside c c') (hb : F.Before 1 c) {ch : Char} (hch : c.peek = some ch) (hne : ch ≠ ' ') :
    F.Before 2 c := by
  rcases h.cases_before hb with ⟨hnil, -⟩ | ⟨-, q, hc, -⟩
  · exact .inl hnil
  · rw [Cursor.peek, hc] at hch
    cases q with
    | nil => exact absurd (Option.some.inj hch).symm hne
    | cons x q =>
      refine .inr ?_
      rw [hc, List.cons_append, List.length_cons, List.length_append, List.length_cons]
      omega

/-- Characters that are no spaces come before the one before the place where texts part. -/
theorem before_of_forall (h : F.Beside c c') (hb : F.Before 1 c) (hn : ∀ k < n, c.peekAt k ≠ some ' ') :
    F.Before (n + 1) c := by
  rcases h.cases_before hb with ⟨hnil, -⟩ | ⟨-, q, hc, -⟩
  · exact .inl hnil
  · refine .inr ?_
    have hq : n ≤ q.length := by
      by_contra hlt
      refine hn q.length (by omega) ?_
      rw [Cursor.peekAt, hc, List.getElem?_append_right (Nat.le_refl _), Nat.sub_self]
      rfl
    rw [hc, List.length_append, List.length_cons]
    omega

theorem atMarker (h : F.Beside c c') (hb : F.Before 1 c) {ch : Char} (hch : ch ≠ ' ') :
    c'.atMarker ch = c.atMarker ch := by
  have hspace : (' ' == ch) = false := beq_false_of_ne (Ne.symm hch)
  rcases h.cases_before hb with ⟨-, heq⟩ | ⟨-, q, hc, hc'⟩
  · rw [Cursor.atMarker, Cursor.atMarker, Cursor.peekAt, Cursor.peekAt, heq]
  · rw [Cursor.atMarker, Cursor.atMarker, Cursor.peekAt, Cursor.peekAt, hc, hc']
    rcases q with _ | ⟨x, _ | ⟨y, _ | ⟨z, q⟩⟩⟩
    · simp [hspace]
    · simp [hspace]
    · simp [hspace]
    · cases q <;> rfl

theorem atSeparator (h : F.Beside c c') (hb : F.Before 1 c) : c'.atSeparator = c.atSeparator := by
  rw [Cursor.atSeparator, Cursor.atSeparator, h.atMarker hb (by decide), h.atMarker hb (by decide)]

/-- At the start of a line the texts have not parted. -/
theorem atSeparator_of_column (h : F.Beside c c') (hcolumn : c.mark.column = 0) : c'.atSeparator = c.atSeparator :=
  h.cases_start.elim h.atSeparator fun hseam => absurd hcolumn hseam.2.2.2

/-- What is left after a character that is no space. -/
theorem next_of_peek (h : F.Beside c c') (hb : F.Before 1 c) {ch : Char} (hch : c.peek = some ch) (hne : ch ≠ ' ') :
    F.Beside c.next c'.next ∧ F.Before 1 c.next ∧ c.next.rest.length < c.rest.length := by
  have hlen : c.rest.length = c.next.rest.length + 1 := by
    rw [Cursor.rest_next, List.length_drop]
    have : c.rest ≠ [] := by
      rintro hnil
      rw [Cursor.peek, hnil] at hch
      cases hch
    have := List.length_pos_iff.2 this
    omega
  refine ⟨h.next hb, (h.before_of_peek hb hch hne).imp_right fun hb => ?_, by omega⟩
  omega

/-- A plain word ends where a space stands. -/
theorem plainWord (h : F.Beside c c') (hb : F.Before 1 c) (place : Lex.PlainPlace) :
    Lex.plainWord place c'.rest = Lex.plainWord place c.rest ∧ F.Before ((Lex.plainWord place c.rest).length + 1) c := by
  have hspace : ∀ q t : Text, Lex.plainWord place (q ++ ' ' :: t) = Lex.plainWord place (q ++ [' ']) ∧
      (Lex.plainWord place (q ++ ' ' :: t)).length ≤ q.length := by
    intro q t
    induction q with
    | nil =>
      have hno : ∀ following, Lex.continuesPlain place ' ' following = false := fun _ => by
        simp [Lex.continuesPlain, endsWord]
      simp [Lex.plainWord, hno]
    | cons ch q ih =>
      have hhead : (q ++ ' ' :: t).head? = (q ++ [' ']).head? := by cases q <;> rfl
      rw [List.cons_append, List.cons_append, Lex.plainWord, Lex.plainWord, hhead, ih.1]
      split
      · refine ⟨rfl, ?_⟩
        rw [← ih.1, List.length_cons, List.length_cons]
        omega
      · exact ⟨rfl, by simp⟩
  rcases h.cases_before hb with ⟨hnil, heq⟩ | ⟨-, q, hc, hc'⟩
  · rw [heq]
    exact ⟨rfl, .inl hnil⟩
  · rw [hc, hc', (hspace q F.right).1, ← (hspace q F.left).1]
    refine ⟨rfl, .inr ?_⟩
    have := (hspace q F.left).2
    rw [hc, List.length_append, List.length_cons]
    omega

end Beside

theorem lineBreak_eq (c : Cursor) : c.lineBreak =
    if c.peek = some '\r' ∧ c.peekAt 1 = some '\n' then (some '\n', c.next.next)
    else if c.peek.any isLineEnd = true then (some '\n', c.next)
    else if c.peek.any isBreak = true then (c.peek, c.next)
    else (none, c) := by
  obtain ⟨_ | ⟨ch, r⟩, m⟩ := c
  · rfl
  · rw [Cursor.lineBreak]
    dsimp only
    split
    · next heq =>
      cases heq
      rfl
    · next x r' hno heq =>
      cases heq
      have hcrlf : ¬((Cursor.mk (ch :: r) m).peek = some '\r' ∧ (Cursor.mk (ch :: r) m).peekAt 1 = some '\n') := by
        rintro ⟨hcr, hlf⟩
        cases r with
        | nil => cases hlf
        | cons y r => exact hno r (Option.some.inj hcr) (by rw [Option.some.inj hlf])
      rw [if_neg hcrlf]
      rfl
    · next heq => cases heq

namespace Beside

/-- No break stands where the texts part. -/
theorem peek_any (h : F.Beside c c') {p : Char → Bool} (hp : ∀ ch, p ch = true → isBreak ch = true) :
    c'.peek.any p = c.peek.any p := by
  refine h.peek_congr fun ch hch _ => ?_
  rw [Option.any_some]
  cases hpc : p ch with
  | false => rfl
  | true =>
    have : endsWord (some ch) = true := by simp [endsWord, hp ch hpc]
    rw [hch] at this
    cases this

theorem exists_break (h : F.Beside c c') {p : Char → Bool} (hp : ∀ ch, p ch = true → isBreak ch = true)
    (hpeek : c.peek.any p = true) : F.Before 1 c ∧ ∃ ch, c.peek = some ch ∧ ch ≠ ' ' := by
  obtain ⟨ch, hch, hpc⟩ := (Option.any_eq_true _ _).1 hpeek
  refine ⟨?_, ch, hch, ?_⟩
  · rcases h.cases_start with hb | ⟨hne, hc, -⟩
    · exact hb
    · obtain ⟨x, r, hl, hx, -⟩ := (F.parts hne).1.startsWord
      rw [Cursor.peek, hc, hl] at hch
      cases hch
      simp [endsWord, hp ch hpc] at hx
  · rintro rfl
    exact absurd (hp _ hpc) (by decide)

theorem return_feed_iff (h : F.Beside c c') :
    (c'.peek = some '\r' ∧ c'.peekAt 1 = some '\n') ↔ (c.peek = some '\r' ∧ c.peekAt 1 = some '\n') := by
  rcases h.cases_start with hb | ⟨hne, hc, hc', -⟩
  · rw [h.peek hb]
    refine and_congr_right fun hr => ?_
    rw [h.peekAt (h.before_of_peek hb hr (by decide))]
  · obtain ⟨x, r, hl, hx, -⟩ := (F.parts hne).1.startsWord
    obtain ⟨x', r', hr, hx', -⟩ := (F.parts hne).2
    rw [Cursor.peek, Cursor.peek, hc, hc', hl, hr]
    constructor <;> (rintro ⟨heq, -⟩; cases heq)
    · cases hx'
    · cases hx

/-- A line break is read from both texts. The space before the place where they part comes after it. -/
theorem lineBreak (h : F.Beside c c') : c'.lineBreak.1 = c.lineBreak.1 ∧ F.Beside c.lineBreak.2 c'.lineBreak.2 ∧
    (c.lineBreak.1.isSome = true → c.lineBreak.2.rest.length < c.rest.length ∧ F.Before 1 c.lineBreak.2) := by
  have hend : ∀ ch, isLineEnd ch = true → isBreak ch = true := fun ch hch => by simp [isBreak, hch]
  rw [lineBreak_eq, lineBreak_eq, h.peek_any hend, h.peek_any fun _ h => h]
  by_cases hr : c.peek = some '\r' ∧ c.peekAt 1 = some '\n'
  · rw [if_pos hr, if_pos (h.return_feed_iff.2 hr)]
    obtain ⟨hb, -⟩ := h.exists_break hend (by rw [hr.1]; rfl)
    obtain ⟨h1, hb1, hlen1⟩ := h.next_of_peek hb hr.1 (by decide)
    have hpeek : c.next.peek = some '\n' := by
      rw [Cursor.peek, Cursor.rest_next, List.head?_drop]
      exact hr.2
    obtain ⟨h2, hb2, hlen2⟩ := h1.next_of_peek hb1 hpeek (by decide)
    exact ⟨rfl, h2, fun _ => ⟨Nat.lt_trans hlen2 hlen1, hb2⟩⟩
  · rw [if_neg hr, if_neg fun hr' => hr (h.return_feed_iff.1 hr')]
    by_cases hline : c.peek.any isLineEnd = true
    · obtain ⟨hb, ch, hch, hne⟩ := h.exists_break hend hline
      obtain ⟨h1, hb1, hlen1⟩ := h.next_of_peek hb hch hne
      rw [if_pos hline, if_pos hline]
      exact ⟨rfl, h1, fun _ => ⟨hlen1, hb1⟩⟩
    · rw [if_neg hline, if_neg hline]
      by_cases hother : c.peek.any isBreak = true
      · obtain ⟨hb, ch, hch, hne⟩ := h.exists_break (fun _ h => h) hother
        obtain ⟨h1, hb1, hlen1⟩ := h.next_of_peek hb hch hne
        rw [if_pos hother, if_pos hother]
        exact ⟨h.peek hb, h1, fun _ => ⟨hlen1, hb1⟩⟩
      · rw [if_neg hother, if_neg hother]
        exact ⟨rfl, h, fun hs => by cases hs⟩

end Beside

end Fork

end YamlStyle.Yaml

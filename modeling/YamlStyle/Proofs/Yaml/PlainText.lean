import YamlStyle.Proofs.Yaml.Endings
import YamlStyle.Proofs.Yaml.Extents

/-!
# Texts that plain scalars stand for as they are

A text that is a plain scalar from its first to its last character has words, with spaces or with wide breaks between
them (`IsPlainText`). Outside flow collections such a text reads the same wherever it stands, as long as what follows
ends a plain scalar (`run_plainScalar`).
-/

namespace YamlStyle.Yaml.Lex

/-! ## Words and gaps -/

/-- A place outside flow collections. -/
def inBlock : PlainPlace := ⟨false, .v1_2, 0⟩

/-- A break that stands for itself. -/
def IsWideBreak (c : Char) : Prop := c = '\u2028' ∨ c = '\u2029'

/-- A word of plain scalars outside flow collections. -/
structure IsWord (w : Text) : Prop where
  nonempty : w ≠ []
  head : w.head? ≠ some '#'
  whole : plainWord inBlock w = w

/-- A text that stands for itself as a plain scalar outside flow collections. -/
inductive IsPlainText : Text → Prop
  | word {w : Text} (hw : IsWord w) : IsPlainText w
  | spaces {w gap r : Text} (hw : IsWord w) (hne : gap ≠ []) (hgap : ∀ c ∈ gap, c = ' ') (hr : IsPlainText r) :
      IsPlainText (w ++ gap ++ r)
  | breaks {w gap r : Text} (hw : IsWord w) (hne : gap ≠ []) (hgap : ∀ c ∈ gap, IsWideBreak c)
      (hmarker : (Cursor.ofText r).atSeparator = false) (hr : IsPlainText r) : IsPlainText (w ++ gap ++ r)

variable {place : PlainPlace} {c : Cursor} {w r : Text}

theorem endsWord_of_isWideBreak {ch : Char} (h : IsWideBreak ch) : endsWord (some ch) = true := by
  rcases h with rfl | rfl <;> rfl

/-- Inside flow collections fewer characters go on with a word. -/
theorem continuesPlain_inBlock {ch : Char} {following : Option Char} (h : continuesPlain place ch following = true) :
    continuesPlain inBlock ch following = true := by
  by_cases hq : ch = '?'
  · subst hq
    rfl
  · by_cases hcolon : ch = ':'
    · subst hcolon
      cases hf : endsWord following <;> cases hflow : place.inFlow <;> simp_all [continuesPlain]
    · simp_all [continuesPlain, inBlock]

/-- A colon ends a word before a blank only. -/
theorem continuesPlain_congr {ch : Char} {following following' : Option Char}
    (h : endsWord following = endsWord following') :
    continuesPlain place ch following = continuesPlain place ch following' := by
  unfold continuesPlain
  rw [h]

/-- What follows a word has ended it. -/
theorem whole_of_plainWord (hr : endsWord r.head? = true) (h : plainWord place (w ++ r) = w) : plainWord inBlock w = w := by
  induction w with
  | nil => rfl
  | cons ch w ih =>
    rw [List.cons_append, plainWord] at h
    split at h
    · next hgoes =>
      rw [List.cons.injEq] at h
      have hfollow : endsWord (w ++ r).head? = endsWord w.head? := by
        cases w with
        | nil => exact hr
        | cons _ _ => rfl
      rw [plainWord, if_pos, ih h.2]
      rw [← continuesPlain_congr hfollow]
      exact continuesPlain_inBlock hgoes
    · cases h

/-! ## Reading a text -/

/-- A line break takes breaks only, and stands for a line feed or for itself. -/
theorem exists_of_lineBreak {ch : Char} (h : c.lineBreak.1 = some ch) : ∃ taken, c.rest = taken ++ c.lineBreak.2.rest ∧
    taken ≠ [] ∧ (∀ x ∈ taken, isBreak x = true) ∧ (ch = '\n' ∨ IsWideBreak ch) := by
  obtain ⟨rest, m⟩ := c
  unfold Cursor.lineBreak at h ⊢
  dsimp only at h ⊢
  split at h
  · next r =>
    cases h
    exact ⟨['\r', '\n'], by rw [Cursor.rest_skip]; rfl, by simp, by simp [isBreak, isLineEnd], .inl rfl⟩
  · next x r _ =>
    by_cases hend : isLineEnd x = true
    · rw [if_pos hend] at h ⊢
      cases h
      exact ⟨[x], rfl, by simp, by simp [isBreak, hend], .inl rfl⟩
    · rw [if_neg hend] at h ⊢
      by_cases hbreak : isBreak x = true
      · rw [if_pos hbreak] at h ⊢
        cases h
        refine ⟨[ch], rfl, by simp, by simp [hbreak], .inr ?_⟩
        simpa [isBreak, hend, IsWideBreak] using hbreak
      · rw [if_neg hbreak] at h
        cases h
  · cases h

theorem length_pos_of_ne_nil {taken : Text} (h : taken ≠ []) : 1 ≤ taken.length := List.length_pos_iff.2 h

/-- Further breaks are read as no more characters than they have. -/
theorem ensures_plainBreaks_self (fuel : Nat) {read : Text} (hc : c.atSeparator = false) :
    Ensures (plainBreaks fuel read) c fun found d => ∃ gap, c.rest = gap ++ d.rest ∧ ∀ text ∈ found,
      ∃ more, text = read ++ more ∧ more.length ≤ gap.length ∧
        (more = gap → (∀ ch ∈ gap, ch = '\n' ∨ IsWideBreak ch) ∧ d.atSeparator = false) := by
  induction fuel generalizing c read with
  | zero =>
    rw [plainBreaks, ensures_pure]
    exact ⟨[], rfl, fun text htext => ⟨[], by cases htext; simp, by simp, fun _ => ⟨by simp, hc⟩⟩⟩
  | succ fuel ih =>
    simp only [plainBreaks, ensures_bind]
    refine fun blanks d hspan => Scan.ensures_lineBreak.2 ?_
    obtain ⟨hblanks, -⟩ := ensures_span _ blanks d hspan
    cases hbreak : d.lineBreak.1 with
    | none =>
      rw [ensures_pure, Scan.lineBreak_none hbreak]
      refine ⟨blanks, hblanks.rest, fun text htext => ⟨[], by cases htext; simp, by simp, fun heq => ?_⟩⟩
      subst heq
      have hd : d = c := by
        have htaken : c.rest.takeWhile (· == ' ') = [] := congrArg Prod.fst (Except.ok.inj hspan)
        have hnext : c.skip (c.rest.takeWhile (· == ' ')).length = d := congrArg Prod.snd (Except.ok.inj hspan)
        rw [← hnext, htaken]
        rfl
      exact ⟨by simp, hd ▸ hc⟩
    | some ch =>
      obtain ⟨taken, htaken, hne, -, hch⟩ := exists_of_lineBreak hbreak
      simp only [ensures_bind, ensures_get, ensures_ite, ensures_pure]
      refine ⟨fun _ => ⟨blanks ++ taken, by rw [hblanks.rest, htaken, List.append_assoc], fun text htext => ?_⟩, fun hsep => ?_⟩
      · cases htext
      · refine (ih (by simpa using hsep)).imp fun found e hfound => ?_
        obtain ⟨gap, hgap, hmore⟩ := hfound
        refine ⟨blanks ++ taken ++ gap, by rw [hblanks.rest, htaken, hgap]; simp, fun text htext => ?_⟩
        obtain ⟨more, rfl, hlen, hself⟩ := hmore text htext
        have hpos := length_pos_of_ne_nil hne
        refine ⟨ch :: more, by simp, by simp only [List.length_cons, List.length_append]; omega, fun heq => ?_⟩
        have hlength := congrArg List.length heq
        simp only [List.length_cons, List.length_append] at hlength
        obtain rfl : blanks = [] := List.length_eq_zero_iff.1 (by omega)
        obtain ⟨x, rfl⟩ := List.length_eq_one_iff.1 (show taken.length = 1 by omega)
        simp only [List.nil_append, List.singleton_append, List.cons.injEq] at heq ⊢
        obtain ⟨rfl, rfl⟩ := heq
        obtain ⟨hall, hnext⟩ := hself rfl
        exact ⟨List.forall_mem_cons.2 ⟨hch, hall⟩, hnext⟩

/-- A gap that stands for itself has nothing but spaces, or begins with a wide break. -/
theorem ensures_plainSpaces_self : Ensures plainSpaces c fun found d => ∃ gap, c.rest = gap ++ d.rest ∧
    ∀ text ∈ found.1, text.length ≤ gap.length ∧ (text = gap → gap ≠ [] ∧
      ((∀ ch ∈ gap, ch = ' ') ∨ ((∀ ch ∈ gap, ch = '\n' ∨ IsWideBreak ch) ∧ d.atSeparator = false))) := by
  simp only [plainSpaces, ensures_bind]
  refine fun blanks d hspan => Scan.ensures_lineBreak.2 ?_
  obtain ⟨hblanks, hspaces⟩ := ensures_span _ blanks d hspan
  cases hbreak : d.lineBreak.1 with
  | none =>
    rw [ensures_pure, Scan.lineBreak_none hbreak]
    refine ⟨blanks, hblanks.rest, fun text htext => ?_⟩
    split at htext
    · cases htext
    · next hne =>
      cases htext
      exact ⟨Nat.le_refl _, fun _ => ⟨by simpa using hne, .inl fun ch hch => by simpa using hspaces ch hch⟩⟩
  | some ch =>
    obtain ⟨taken, htaken, hne, hbreaks, hch⟩ := exists_of_lineBreak hbreak
    have hpos := length_pos_of_ne_nil hne
    simp only [ensures_bind, ensures_get, ensures_ite, ensures_pure]
    refine ⟨fun _ => ⟨blanks ++ taken, by rw [hblanks.rest, htaken, List.append_assoc], fun text htext => ?_⟩, fun hsep => ?_⟩
    · cases htext
    · refine (ensures_plainBreaks_self _ (by simpa using hsep)).imp fun found e hfound => ?_
      obtain ⟨gap, hgap, hmore⟩ := hfound
      refine ⟨blanks ++ taken ++ gap, by rw [hblanks.rest, htaken, hgap]; simp, fun text htext => ?_⟩
      obtain ⟨further, rfl, rfl⟩ := Option.map_eq_some_iff.1 htext
      obtain ⟨more, rfl, hlen, hself⟩ := hmore further rfl
      rcases hch with rfl | hwide
      -- A line feed that stands for a space, or for nothing, is no gap that stands for itself.
      · have hfold : folded (some '\n') further = if further.isEmpty then [' '] else further := rfl
        rw [hfold]
        split
        · refine ⟨by simp only [List.length_append, List.length_singleton]; omega, fun heq => ?_⟩
          have hmem : ' ' ∈ taken := by
            obtain ⟨x, rest, rfl⟩ := List.exists_cons_of_ne_nil hne
            cases blanks with
            | nil => exact List.mem_cons.2 (.inl (List.cons.inj heq).1)
            | cons _ _ => simp at heq
          exact absurd (hbreaks ' ' hmem) (by decide)
        · refine ⟨by simp only [List.length_append]; omega, fun heq => ?_⟩
          have hlength := congrArg List.length heq
          simp only [List.length_append] at hlength
          omega
      · have hfold : folded (some ch) further = ch :: further := by rcases hwide with rfl | rfl <;> rfl
        rw [hfold]
        refine ⟨by simp only [List.length_append, List.length_cons]; omega, fun heq => ?_⟩
        have hlength := congrArg List.length heq
        simp only [List.length_cons, List.length_append] at hlength
        obtain rfl : blanks = [] := List.length_eq_zero_iff.1 (by omega)
        obtain ⟨x, rfl⟩ := List.length_eq_one_iff.1 (show taken.length = 1 by omega)
        simp only [List.nil_append, List.singleton_append, List.cons.injEq] at heq ⊢
        obtain ⟨rfl, rfl⟩ := heq
        obtain ⟨hall, hnext⟩ := hself rfl
        exact ⟨by simp, .inr ⟨List.forall_mem_cons.2 ⟨.inr hwide, hall⟩, hnext⟩⟩

theorem eq_and_eq_of_append {a b a' b' : Text} (h : a ++ b = a' ++ b') (ha : a.length ≤ a'.length)
    (hb : b.length ≤ b'.length) : a = a' ∧ b = b' := by
  have hlength := congrArg List.length h
  simp only [List.length_append] at hlength
  exact List.append_inj h (by omega)

/-- What is read of a plain scalar is no longer than its source, and a source without line feeds that stands for itself
is a plain text. -/
theorem ensures_plainRest_self (fuel : Nat) {gap : Text} {read : PlainRead} :
    Ensures (plainRest place fuel gap read) c fun read' _ => read'.text = read.text ∨
      ∃ more, read'.text = read.text ++ gap ++ more ∧ more.length ≤ c.rest.length ∧
        (more = c.rest → '\n' ∉ c.rest → IsPlainText c.rest) := by
  induction fuel generalizing c gap read with
  | zero =>
    rw [plainRest, ensures_pure]
    exact .inl rfl
  | succ fuel ih =>
    simp only [plainRest, ensures_bind, ensures_get, ensures_ite, ensures_pure, Scan.ensures_advance, ensures_mark]
    refine ⟨fun _ => .inl trivial, fun hgoes => ?_⟩
    simp only [Bool.or_eq_true, beq_iff_eq, List.isEmpty_iff, not_or] at hgoes
    obtain ⟨hhash, hne⟩ := hgoes
    set w := plainWord place c.rest with hw
    obtain ⟨r, hr⟩ : ∃ r, c.rest = w ++ r := ⟨c.rest.drop w.length, by
      rw [hw]
      nth_rewrite 1 [← plainWord_eq_take place c.rest]
      exact (List.take_append_drop _ _).symm⟩
    have hrest : (c.skip w.length).rest = r := by rw [Cursor.rest_skip, hr, List.drop_left]
    have hhead : w.head? ≠ some '#' := fun h => hhash (by
      rw [Cursor.peek, hr, List.head?_append_of_ne_nil _ hne]
      exact h)
    have hword : endsWord r.head? = true → IsWord w := fun hend =>
      ⟨hne, hhead, whole_of_plainWord hend (by rw [← hr, ← hw])⟩
    have hone : w.length ≤ c.rest.length ∧ (w = c.rest → '\n' ∉ c.rest → IsPlainText c.rest) := by
      refine ⟨by rw [hr, List.length_append]; omega, fun heq _ => ?_⟩
      have hnil : r = [] := by simpa [← heq] using hr
      rw [← heq]
      exact .word (hword (by rw [hnil]; rfl))
    intro found d hspaces
    obtain ⟨taken, htaken, hfound⟩ := ensures_plainSpaces_self found d hspaces
    rw [hrest] at htaken
    obtain ⟨spaces, afterBreak⟩ := found
    cases spaces with
    | none => exact (ensures_pure _).2 (.inr ⟨w, rfl, hone⟩)
    | some text =>
      obtain ⟨hlen, hself⟩ := hfound text rfl
      simp only [ensures_bind, ensures_get, ensures_ite, ensures_pure]
      refine ⟨fun _ => .inr ⟨w, rfl, hone⟩, fun _ => ih.imp fun read' _ hread' => ?_⟩
      rcases hread' with hread' | ⟨more, hread', hmore, hplain⟩
      · exact .inr ⟨w, hread', hone⟩
      refine .inr ⟨w ++ text ++ more, by rw [hread']; simp, ?_, fun heq hfeed => ?_⟩
      · rw [hr, htaken]
        simp only [List.length_append]
        omega
      · rw [hr, htaken, List.append_assoc, List.append_cancel_left_eq] at heq
        obtain ⟨rfl, rfl⟩ := eq_and_eq_of_append heq hlen hmore
        have hrest' : c.rest = w ++ text ++ d.rest := by rw [hr, htaken, List.append_assoc]
        rw [hrest'] at hfeed ⊢
        obtain ⟨hgap, hkind⟩ := hself rfl
        have hr' : IsPlainText d.rest := hplain rfl fun h => hfeed (by simp [h])
        rcases hkind with hall | ⟨hall, hmarker⟩
        · have hend : endsWord r.head? = true := by
            obtain ⟨x, g, rfl⟩ := List.exists_cons_of_ne_nil hgap
            rw [htaken, List.cons_append, List.head?_cons, hall x (.head _)]
            rfl
          exact .spaces (hword hend) hgap hall hr'
        · have hwide : ∀ ch ∈ text, IsWideBreak ch := fun ch hch =>
            (hall ch hch).resolve_left fun h => hfeed (by subst h; simp [hch])
          have hend : endsWord r.head? = true := by
            obtain ⟨x, g, rfl⟩ := List.exists_cons_of_ne_nil hgap
            rw [htaken]
            exact endsWord_of_isWideBreak (hwide x (.head _))
          exact .breaks (hword hend) hgap hwide hmarker hr'

/-- What is read as a plain scalar is no longer than the rest of the text. If it is all of the rest, without line
feeds, then that is a plain text. -/
theorem ensures_plainScalar_self : Ensures (plainScalar place) c fun read _ =>
    read.text.length ≤ c.rest.length ∧ (read.text = c.rest → '\n' ∉ c.rest → c.rest ≠ [] → IsPlainText c.rest) := by
  simp only [plainScalar, ensures_bind, ensures_get, ensures_mark]
  refine (ensures_plainRest_self _).imp fun read _ hread => ?_
  rcases hread with hread | ⟨more, hread, hlen, hplain⟩
  · rw [hread]
    exact ⟨Nat.zero_le _, fun heq _ hne => absurd heq.symm hne⟩
  · rw [hread]
    exact ⟨hlen, fun heq hfeed _ => hplain heq hfeed⟩

/-! ## Reading a plain text back -/

/-- What ends a plain scalar outside flow collections, or a word of one. -/
def EndsPlain (s : Text) : Prop := endsWord s.head? = true ∨ ∃ r, s = ':' :: r ∧ endsWord r.head? = true

/-- Outside flow collections only blanks end a word, and a colon before a blank. -/
theorem continuesPlain_of_block (hplace : place.inFlow = false) (ch : Char) (following : Option Char) :
    continuesPlain place ch following = (!endsWord (some ch) && (ch != ':' || !endsWord following)) := by
  have hblanks : endsWord (some '?') = false ∧ endsWord (some ':') = false := ⟨rfl, rfl⟩
  by_cases hq : ch = '?'
  · subst hq
    cases hversion : place.version != .v1_1 <;> simp [continuesPlain, hplace, hversion, hblanks]
  · by_cases hcolon : ch = ':'
    · subst hcolon
      cases hf : endsWord following <;> simp [continuesPlain, hplace, hf, hblanks]
    · have hne : (ch == ':') = false := beq_false_of_ne hcolon
      cases hb : endsWord (some ch) <;> simp [continuesPlain, hplace, hq, hne, hb, bne]

theorem plainWord_of_endsPlain {s : Text} (hplace : place.inFlow = false) (hs : EndsPlain s) : plainWord place s = [] := by
  cases s with
  | nil => rfl
  | cons ch r =>
    rw [plainWord, if_neg]
    rw [continuesPlain_of_block hplace]
    rcases hs with hs | ⟨r', heq, hr⟩
    · rw [List.head?_cons] at hs
      simp [hs]
    · cases heq
      simp [hr]

/-- A word is read in front of anything that ends it. -/
theorem plainWord_append {s : Text} (hplace : place.inFlow = false) (hw : plainWord inBlock w = w) (hs : EndsPlain s) :
    plainWord place (w ++ s) = w := by
  induction w with
  | nil => exact plainWord_of_endsPlain hplace hs
  | cons ch w ih =>
    rw [plainWord] at hw
    split at hw
    · next hgoes =>
      have hw' : plainWord inBlock w = w := (List.cons.inj hw).2
      rw [List.cons_append, plainWord, if_pos, ih hw']
      rw [continuesPlain_of_block rfl] at hgoes
      rw [continuesPlain_of_block hplace]
      cases w with
      | nil =>
        -- The last character is no colon, whatever follows it.
        have hcolon : ch ≠ ':' := by
          rintro rfl
          simp [endsWord] at hgoes
        simp_all
      | cons _ _ => exact hgoes
    · cases hw

theorem endsPlain_of_gap {gap r : Text} (hne : gap ≠ []) (hgap : ∀ ch ∈ gap, endsWord (some ch) = true) :
    EndsPlain (gap ++ r) := by
  obtain ⟨ch, gap, rfl⟩ := List.exists_cons_of_ne_nil hne
  exact .inl (hgap ch (.head _))

/-! ### Marks -/

/-- A character that neither starts a line nor stands without a column. -/
def TakesColumn (ch : Char) : Prop := ch ≠ '\n' ∧ ch ≠ '\r' ∧ ch ≠ '\ufeff'

theorem mark_skip {n : Nat} (hn : n ≤ c.rest.length) (h : ∀ ch ∈ c.rest.take n, TakesColumn ch) :
    (c.skip n).mark = ⟨c.mark.line, c.mark.column + n, c.mark.offset + n⟩ := by
  induction n generalizing c with
  | zero => rfl
  | succ n ih =>
    obtain ⟨_ | ⟨ch, r⟩, m⟩ := c
    · simp at hn
    · have hch := h ch (by simp)
      have hnext : (Cursor.mk (ch :: r) m).next = ⟨r, ⟨m.line, m.column + 1, m.offset + 1⟩⟩ := by
        simp [Cursor.next, advanceMark, hch.1, hch.2.1, hch.2.2]
      rw [Cursor.skip, hnext, ih (by simpa using hn) fun x hx => h x (by simpa using .inr hx)]
      show (⟨m.line, m.column + 1 + n, m.offset + 1 + n⟩ : Mark) = ⟨m.line, m.column + (n + 1), m.offset + (n + 1)⟩
      rw [Nat.add_right_comm, Nat.add_right_comm m.offset]
      rfl

/-! ### Gaps -/

/-- A text that starts with a word starts with no blank. -/
theorem IsPlainText.exists_cons (h : IsPlainText r) : ∃ ch r', r = ch :: r' ∧ endsWord (some ch) = false ∧ ch ≠ '#' := by
  have hword : ∀ {w : Text}, IsWord w → ∃ ch w', w = ch :: w' ∧ endsWord (some ch) = false ∧ ch ≠ '#' := by
    intro w hw
    obtain ⟨ch, w', rfl⟩ := List.exists_cons_of_ne_nil hw.nonempty
    refine ⟨ch, w', rfl, ?_, fun heq => hw.head (by rw [heq]; rfl)⟩
    have hwhole := hw.whole
    rw [plainWord] at hwhole
    split at hwhole
    · next hgoes =>
      rw [continuesPlain_of_block rfl] at hgoes
      simp only [Bool.and_eq_true, Bool.not_eq_true'] at hgoes
      exact hgoes.1
    · cases hwhole
  cases h with
  | word hw => exact hword hw
  | spaces hw _ _ _ | breaks hw _ _ _ _ =>
    obtain ⟨ch, w', rfl, hch⟩ := hword hw
    exact ⟨ch, _, rfl, hch⟩

/-- A colon starts a plain text before a word character only. -/
theorem IsPlainText.endsWord_of_colon (h : IsPlainText (':' :: r)) : endsWord r.head? = false := by
  have hword : ∀ {w s : Text}, IsWord w → w ++ s = ':' :: r → endsWord r.head? = false := by
    intro w s hw heq
    obtain ⟨ch, w', rfl⟩ := List.exists_cons_of_ne_nil hw.nonempty
    obtain ⟨rfl, rfl⟩ := List.cons.inj heq
    have hwhole := hw.whole
    rw [plainWord] at hwhole
    split at hwhole
    · next hgoes =>
      rw [continuesPlain_of_block rfl] at hgoes
      cases w' with
      | nil => simp [endsWord] at hgoes
      | cons x w' => simpa [endsWord, isBreak, isLineEnd] using hgoes
    · cases hwhole
  generalize hv : ':' :: r = v at h
  cases h with
  | word hw => exact hword hw (by rw [List.append_nil, hv])
  | spaces hw _ _ _ | breaks hw _ _ _ _ => exact hword hw (by rw [← List.append_assoc, hv])

theorem IsPlainText.endsWord_append {s : Text} (h : IsPlainText r) : endsWord (r ++ s).head? = false := by
  obtain ⟨ch, r', rfl, hch, -⟩ := h.exists_cons
  exact hch

theorem run_bind_of_ok {α β : Type} {x : Lex α} {f : α → Lex β} {a : α} {d : Cursor} (h : x.run c = .ok (a, d)) :
    (x >>= f).run c = (f a).run d := by
  rw [StateT.run_bind, h]
  rfl

theorem lineBreak_of_endsWord (h : endsWord c.rest.head? = false) : c.lineBreak = (none, c) := by
  obtain ⟨_ | ⟨ch, r⟩, m⟩ := c
  · rfl
  · simp only [List.head?_cons, endsWord, isBreak, Bool.or_eq_false_iff] at h
    have hr : ch ≠ '\r' := by
      rintro rfl
      simp [isLineEnd] at h
    unfold Cursor.lineBreak
    split
    · next heq => exact absurd (List.cons.inj heq).1 hr
    · next heq =>
      cases heq
      simp [isBreak, h.2]
    · rfl

theorem lineBreak_of_isWideBreak {ch : Char} (h : IsWideBreak ch) (hr : c.rest = ch :: r) :
    c.lineBreak = (some ch, c.skip 1) := by
  obtain ⟨rest, m⟩ := c
  cases hr
  rcases h with rfl | rfl <;> rfl

theorem span_of_forall {p : Char → Bool} {gap s : Text} (hrest : c.rest = gap ++ s) (hgap : ∀ ch ∈ gap, p ch = true)
    (hs : ∀ ch ∈ s.head?, p ch = false) : (span p).run c = .ok (gap, c.skip gap.length) := by
  have htaken : c.rest.takeWhile p = gap := by
    rw [hrest, List.takeWhile_append_of_pos hgap]
    cases s with
    | nil => simp
    | cons ch s => simp [hs ch rfl]
  show Except.ok (c.span p) = _
  rw [Cursor.span, htaken]

theorem span_none {p : Char → Bool} (h : ∀ ch ∈ c.rest.head?, p ch = false) : (span p).run c = .ok ([], c) :=
  span_of_forall c.rest.nil_append.symm (by simp) h

theorem ne_space_of_endsWord {s : Text} (hs : endsWord s.head? = false) : ∀ ch ∈ s.head?, (ch == ' ') = false := by
  intro ch hch
  rw [hch] at hs
  simp only [endsWord, Bool.or_eq_false_iff] at hs
  exact hs.1.1

/-- There is no gap before a character of a word. -/
theorem run_plainSpaces_none (h : endsWord c.rest.head? = false) : plainSpaces.run c = .ok ((none, false), c) := by
  have hspan : (span (· == ' ')).run c = .ok ([], c) := span_none (ne_space_of_endsWord h)
  have hbreak : lineBreak.run c = .ok (none, c) := congrArg Except.ok (lineBreak_of_endsWord h)
  rw [plainSpaces, run_bind_of_ok hspan, run_bind_of_ok hbreak]
  rfl

theorem run_plainSpaces_spaces {gap s : Text} (hrest : c.rest = gap ++ s) (hne : gap ≠ []) (hgap : ∀ ch ∈ gap, ch = ' ')
    (hs : endsWord s.head? = false) : plainSpaces.run c = .ok ((some gap, false), c.skip gap.length) := by
  have hspan := span_of_forall (p := (· == ' ')) hrest (by simpa using hgap) (ne_space_of_endsWord hs)
  have hnext : (c.skip gap.length).rest = s := by rw [Cursor.rest_skip, hrest, List.drop_left]
  have hbreak : lineBreak.run (c.skip gap.length) = .ok (none, c.skip gap.length) :=
    congrArg Except.ok (lineBreak_of_endsWord (by rw [hnext]; exact hs))
  rw [plainSpaces, run_bind_of_ok hspan, run_bind_of_ok hbreak]
  simp [hne]
  rfl

/-- Between two wide breaks there is no marker, and none after the last one. -/
theorem atSeparator_of_breaks {gap s : Text} (hgap : ∀ ch ∈ gap, IsWideBreak ch)
    (hmarker : (Cursor.ofText s).atSeparator = false) (hrest : c.rest = gap ++ s) : c.atSeparator = false := by
  obtain ⟨rest, m⟩ := c
  cases hrest
  cases gap with
  | nil => exact hmarker
  | cons ch gap =>
    rcases hgap ch (.head _) with rfl | rfl <;> simp [Cursor.atSeparator, Cursor.atMarker]

theorem ne_space_of_breaks {gap s : Text} (hgap : ∀ ch ∈ gap, IsWideBreak ch) (hs : endsWord s.head? = false) :
    ∀ ch ∈ (gap ++ s).head?, (ch == ' ') = false := by
  cases gap with
  | nil => exact ne_space_of_endsWord hs
  | cons ch gap =>
    rintro x ⟨⟩
    rcases hgap ch (.head _) with rfl | rfl <;> rfl

theorem run_get : (get : Lex Cursor).run c = .ok (c, c) := rfl

theorem run_plainBreaks {fuel : Nat} {gap s read : Text} (hfuel : gap.length ≤ fuel) (hrest : c.rest = gap ++ s)
    (hgap : ∀ ch ∈ gap, IsWideBreak ch) (hs : endsWord s.head? = false)
    (hmarker : (Cursor.ofText s).atSeparator = false) :
    (plainBreaks fuel read).run c = .ok (some (read ++ gap), c.skip gap.length) := by
  induction fuel generalizing c gap read with
  | zero =>
    obtain rfl : gap = [] := List.length_eq_zero_iff.1 (Nat.le_zero.1 hfuel)
    rw [plainBreaks, List.append_nil]
    rfl
  | succ fuel ih =>
    have hspan : (span (· == ' ')).run c = .ok ([], c) :=
      span_none (by rw [hrest]; exact ne_space_of_breaks hgap hs)
    rw [plainBreaks, run_bind_of_ok hspan]
    cases gap with
    | nil =>
      have hbreak : lineBreak.run c = .ok (none, c) :=
        congrArg Except.ok (lineBreak_of_endsWord (by rw [hrest]; exact hs))
      rw [run_bind_of_ok hbreak, List.append_nil]
      rfl
    | cons ch gap =>
      have hbreak : lineBreak.run c = .ok (some ch, c.skip 1) :=
        congrArg Except.ok (lineBreak_of_isWideBreak (hgap ch (.head _)) hrest)
      have hnext : (c.skip 1).rest = gap ++ s := by
        rw [Cursor.rest_skip, hrest]
        rfl
      have hgap' : ∀ x ∈ gap, IsWideBreak x := fun x hx => hgap x (.tail _ hx)
      rw [run_bind_of_ok hbreak, run_bind_of_ok run_get, if_neg (by simp [atSeparator_of_breaks hgap' hmarker hnext]),
        ih (by simpa using hfuel) hnext hgap', List.append_assoc, List.singleton_append, List.length_cons, Nat.add_comm,
        Cursor.skip_add]

theorem run_plainSpaces_breaks {gap s : Text} (hrest : c.rest = gap ++ s) (hne : gap ≠ [])
    (hgap : ∀ ch ∈ gap, IsWideBreak ch) (hs : endsWord s.head? = false)
    (hmarker : (Cursor.ofText s).atSeparator = false) :
    plainSpaces.run c = .ok ((some gap, true), c.skip gap.length) := by
  obtain ⟨ch, gap, rfl⟩ := List.exists_cons_of_ne_nil hne
  have hspan : (span (· == ' ')).run c = .ok ([], c) :=
    span_none (by rw [hrest]; exact ne_space_of_breaks hgap hs)
  have hbreak : lineBreak.run c = .ok (some ch, c.skip 1) :=
    congrArg Except.ok (lineBreak_of_isWideBreak (hgap ch (.head _)) hrest)
  have hnext : (c.skip 1).rest = gap ++ s := by
    rw [Cursor.rest_skip, hrest]
    rfl
  have hgap' : ∀ x ∈ gap, IsWideBreak x := fun x hx => hgap x (.tail _ hx)
  have hfuel : gap.length ≤ (c.skip 1).rest.length + 1 := by
    rw [hnext, List.length_append]
    omega
  have hfurther : (plainBreaks ((c.skip 1).rest.length + 1) []).run (c.skip 1) =
      .ok (some ([] ++ gap), (c.skip 1).skip gap.length) := run_plainBreaks hfuel hnext hgap' hs hmarker
  have hfold : folded (some ch) gap = ch :: gap := by rcases hgap ch (.head _) with rfl | rfl <;> rfl
  rw [plainSpaces, run_bind_of_ok hspan, run_bind_of_ok hbreak, run_bind_of_ok run_get,
    if_neg (by simp [atSeparator_of_breaks hgap' hmarker hnext]), run_bind_of_ok run_get, run_bind_of_ok hfurther,
    List.nil_append, ← Cursor.skip_add, List.length_cons, Nat.add_comm gap.length, Option.map_some, hfold]
  rfl

/-! ### Plain texts -/

/-- What follows a plain text ends it: a break that a marker follows, a comment, a line that is not deep enough, or
something that is no word. -/
def Halts (place : PlainPlace) (found : Option Text) (e : Cursor) : Prop :=
  found = none ∨ e.peek = some '#' ∨ e.mark.column < place.column ∨ plainWord place e.rest = []

theorem atMarker_append {s : Text} {ch : Char} (hs : EndsPlain s) (hch : ch ≠ ':' ∧ endsWord (some ch) = false)
    (h : (Cursor.ofText r).atMarker ch = false) : (Cursor.ofText (r ++ s)).atMarker ch = false := by
  have hhead : ∀ x ∈ s.head?, x ≠ ch := by
    rintro x hx rfl
    rcases hs with hs | ⟨s', rfl, -⟩
    · rw [hx] at hs
      simp [hs] at hch
    · cases hx
      exact hch.1 rfl
  have hne : ∀ x s', s = x :: s' → x ≠ ch := fun x s' heq => hhead x (by rw [heq]; rfl)
  -- A marker takes three characters and what follows them.
  rcases r with _ | ⟨x₁, _ | ⟨x₂, _ | ⟨x₃, _ | ⟨x₄, r⟩⟩⟩⟩
  · cases s with
    | nil => rfl
    | cons x s => simp [Cursor.atMarker, Cursor.ofText, hne x s rfl]
  · cases s with
    | nil => exact h
    | cons x s => simp [Cursor.atMarker, Cursor.ofText, hne x s rfl]
  · cases s with
    | nil => exact h
    | cons x s => simp [Cursor.atMarker, Cursor.ofText, hne x s rfl]
  · have hnone : ([x₁, x₂, x₃] == [ch, ch, ch]) = false := by simpa [Cursor.atMarker, Cursor.ofText, Cursor.peekAt, endsWord] using h
    simp only [Cursor.atMarker, Cursor.ofText, List.cons_append, List.take_succ_cons, List.take_zero, hnone, Bool.false_and]
  · exact h

theorem atSeparator_append {s : Text} (hs : EndsPlain s) (h : (Cursor.ofText r).atSeparator = false) :
    (Cursor.ofText (r ++ s)).atSeparator = false := by
  simp only [Cursor.atSeparator, Bool.or_eq_false_iff] at h ⊢
  exact ⟨atMarker_append hs ⟨by decide, rfl⟩ h.1, atMarker_append hs ⟨by decide, rfl⟩ h.2⟩

theorem run_mark : mark.run c = .ok (c.mark, c) := rfl

theorem run_advance (n : Nat) : (advance n).run c = .ok ((), c.skip n) := rfl

/-- One word of a plain text and the gap after it. -/
theorem run_plainRest_word {s gap : Text} {fuel : Nat} {read : PlainRead} (hw : IsWord w) (hplace : place.inFlow = false)
    (hrest : c.rest = w ++ s) (hs : EndsPlain s) {found : Option Text × Bool} {e : Cursor}
    (hspaces : plainSpaces.run (c.skip w.length) = .ok (found, e)) :
    (plainRest place (fuel + 1) gap read).run c =
      (match found.1 with
        | none => pure ⟨read.text ++ gap ++ w, (c.skip w.length).mark, found.2⟩
        | some text =>
          if e.peek == some '#' || (!place.inFlow && e.mark.column < place.column) then
            pure ⟨read.text ++ gap ++ w, (c.skip w.length).mark, found.2⟩
          else plainRest place fuel text ⟨read.text ++ gap ++ w, (c.skip w.length).mark, found.2⟩ : Lex PlainRead).run e := by
  have hword : plainWord place c.rest = w := by rw [hrest, plainWord_append hplace hw.whole hs]
  have hgoes : ¬(c.peek == some '#' || w.isEmpty) = true := by
    have hhead : c.peek = w.head? := by rw [Cursor.peek, hrest, List.head?_append_of_ne_nil _ hw.nonempty]
    simpa [hhead, hw.nonempty] using hw.head
  rw [plainRest, run_bind_of_ok run_get]
  dsimp only
  rw [hword, if_neg hgoes, run_bind_of_ok (run_advance _), run_bind_of_ok run_mark, run_bind_of_ok hspaces]
  obtain ⟨_ | text, afterBreak⟩ := found
  · rfl
  · rw [run_bind_of_ok run_get]

/-- After a word and a gap of a plain text the scalar goes on. -/
theorem run_plainRest_gap {w between r s gap : Text} {afterBreak : Bool} {fuel : Nat} {read : PlainRead} (hw : IsWord w)
    (hne : between ≠ []) (hblank : ∀ ch ∈ between, endsWord (some ch) = true) (hr : IsPlainText r)
    (hplace : place.inFlow = false) (hrest : c.rest = w ++ between ++ (r ++ s))
    (hcolumn : place.column ≤ c.mark.column + 1) (hchars : ∀ ch ∈ w ++ between, TakesColumn ch)
    (hspaces : plainSpaces.run (c.skip w.length) =
      .ok ((some between, afterBreak), (c.skip w.length).skip between.length)) :
    (plainRest place (fuel + 1) gap read).run c =
        (plainRest place fuel between ⟨read.text ++ gap ++ w, (c.skip w.length).mark, afterBreak⟩).run
          (c.skip (w ++ between).length) ∧
      (c.skip (w ++ between).length).rest = r ++ s ∧
      place.column ≤ (c.skip (w ++ between).length).mark.column + 1 := by
  have hlength : (w ++ between).length ≤ c.rest.length := by
    rw [hrest]
    simp only [List.length_append]
    omega
  have htake : c.rest.take (w ++ between).length = w ++ between := by rw [hrest, List.take_left]
  have hmark := mark_skip hlength (by rw [htake]; exact hchars)
  have hdrop : (c.skip (w ++ between).length).rest = r ++ s := by rw [Cursor.rest_skip, hrest, List.drop_left]
  have hpeek : (c.skip (w ++ between).length).peek ≠ some '#' := by
    obtain ⟨ch, r', rfl, -, hhash⟩ := hr.exists_cons
    rw [Cursor.peek, hdrop]
    simpa using hhash
  have hdeep : place.column ≤ (c.skip (w ++ between).length).mark.column := by
    have hpos := length_pos_of_ne_nil hne
    rw [hmark]
    simp only [List.length_append]
    omega
  refine ⟨?_, hdrop, by omega⟩
  rw [run_plainRest_word hw hplace (by rw [hrest, List.append_assoc]) (endsPlain_of_gap hne hblank) hspaces,
    ← Cursor.skip_add, ← List.length_append]
  dsimp only
  rw [if_neg]
  simp only [Bool.or_eq_true, beq_iff_eq, Bool.and_eq_true, decide_eq_true_eq]
  exact fun h => h.elim hpeek fun h => by omega

theorem run_plainRest {v s gap : Text} {fuel : Nat} {read : PlainRead} (hv : IsPlainText v) (hfuel : v.length ≤ fuel)
    (hplace : place.inFlow = false) (hrest : c.rest = v ++ s) (hcolumn : place.column ≤ c.mark.column + 1)
    (hchars : ∀ ch ∈ v, TakesColumn ch) (hs : EndsPlain s) {found : Option Text × Bool} {e : Cursor}
    (hspaces : plainSpaces.run (c.skip v.length) = .ok (found, e)) (hhalts : Halts place found.1 e) :
    (plainRest place fuel gap read).run c =
      .ok (⟨read.text ++ gap ++ v, (c.skip v.length).mark, found.2⟩, e) := by
  induction hv generalizing c gap read fuel with
  | @word w hw =>
    obtain ⟨fuel, rfl⟩ := Nat.exists_eq_add_of_le' ((length_pos_of_ne_nil hw.nonempty).trans hfuel)
    rw [run_plainRest_word hw hplace hrest hs hspaces]
    obtain ⟨_ | text, afterBreak⟩ := found
    · rfl
    · dsimp only
      split
      · rfl
      · next hgoes =>
        simp only [Bool.or_eq_true, beq_iff_eq, Bool.and_eq_true, Bool.not_eq_true', decide_eq_true_eq, not_or] at hgoes
        have hnil : plainWord place e.rest = [] := by
          rcases hhalts with h | h | h | h
          · cases h
          · exact absurd h hgoes.1
          · exact absurd ⟨hplace, h⟩ hgoes.2
          · exact h
        cases fuel with
        | zero => rfl
        | succ fuel =>
          rw [plainRest, run_bind_of_ok run_get]
          dsimp only
          rw [hnil, if_pos (by simp)]
          rfl
  | @spaces w between r hw hne hgap hr ih =>
    have hpos := length_pos_of_ne_nil hw.nonempty
    simp only [List.length_append] at hfuel
    obtain ⟨fuel, rfl⟩ := Nat.exists_eq_add_of_le' (show 1 ≤ fuel by omega)
    rw [List.append_assoc (w ++ between)] at hrest
    have hnext : (c.skip w.length).rest = between ++ (r ++ s) := by
      rw [Cursor.rest_skip, hrest, List.append_assoc, List.drop_left]
    obtain ⟨hrun, hdrop, hcolumn'⟩ := run_plainRest_gap hw hne (fun ch hch => by rw [hgap ch hch]; rfl) hr hplace hrest
      hcolumn (fun ch hch => hchars ch (List.mem_append_left _ hch))
      (run_plainSpaces_spaces hnext hne hgap hr.endsWord_append)
    have hsplit : c.skip (w ++ between ++ r).length = (c.skip (w ++ between).length).skip r.length := by
      rw [← Cursor.skip_add, ← List.length_append]
    rw [hsplit] at hspaces ⊢
    rw [hrun, ih (by omega) hdrop hcolumn' (fun ch hch => hchars ch (List.mem_append_right _ hch)) hspaces]
    simp only [List.append_assoc]
  | @breaks w between r hw hne hgap hmarker hr ih =>
    have hpos := length_pos_of_ne_nil hw.nonempty
    simp only [List.length_append] at hfuel
    obtain ⟨fuel, rfl⟩ := Nat.exists_eq_add_of_le' (show 1 ≤ fuel by omega)
    rw [List.append_assoc (w ++ between)] at hrest
    have hnext : (c.skip w.length).rest = between ++ (r ++ s) := by
      rw [Cursor.rest_skip, hrest, List.append_assoc, List.drop_left]
    obtain ⟨hrun, hdrop, hcolumn'⟩ := run_plainRest_gap hw hne (fun ch hch => endsWord_of_isWideBreak (hgap ch hch)) hr
      hplace hrest hcolumn (fun ch hch => hchars ch (List.mem_append_left _ hch))
      (run_plainSpaces_breaks hnext hne hgap hr.endsWord_append (atSeparator_append hs hmarker))
    have hsplit : c.skip (w ++ between ++ r).length = (c.skip (w ++ between).length).skip r.length := by
      rw [← Cursor.skip_add, ← List.length_append]
    rw [hsplit] at hspaces ⊢
    rw [hrun, ih (by omega) hdrop hcolumn' (fun ch hch => hchars ch (List.mem_append_right _ hch)) hspaces]
    simp only [List.append_assoc]

/-- Outside flow collections a plain text is read as it is, up to what ends it. -/
theorem run_plainScalar {v s : Text} (hv : IsPlainText v) (hplace : place.inFlow = false) (hrest : c.rest = v ++ s)
    (hcolumn : place.column ≤ c.mark.column + 1) (hchars : ∀ ch ∈ v, TakesColumn ch) (hs : EndsPlain s)
    {found : Option Text × Bool} {e : Cursor} (hspaces : plainSpaces.run (c.skip v.length) = .ok (found, e))
    (hhalts : Halts place found.1 e) :
    (plainScalar place).run c = .ok (⟨v, (c.skip v.length).mark, found.2⟩, e) := by
  have hfuel : v.length ≤ c.rest.length + 1 := by
    rw [hrest, List.length_append]
    omega
  rw [plainScalar, run_bind_of_ok run_get, run_bind_of_ok run_mark,
    run_plainRest hv hfuel hplace hrest hcolumn hchars hs hspaces hhalts]
  rfl

end YamlStyle.Yaml.Lex

namespace YamlStyle.Yaml

/-! ## Plain scalars among the tokens of a text -/

/-- What holds of every token that a reader hands out, if an invariant of the reader yields it. -/
theorem TokenReader.forall_mem_drain {invariant : TokenReader → Prop} {p : Token → Prop}
    (hmore : ∀ s, invariant s → Ensures Scan.needsMore s fun _ s' => invariant s')
    (hfetch : ∀ s, invariant s → Ensures Scan.fetch s fun _ s' => invariant s')
    (hrelease : ∀ (s : TokenReader) (x : Token) (queue : List Token), invariant s → s.queue = x :: queue →
      p x ∧ invariant { s with queue, taken := s.taken + 1 })
    {fuel : Nat} {s : TokenReader} {released : List Released} (hs : invariant s) (hr : ∀ r ∈ released, p r.token) :
    ∀ r ∈ (s.drain fuel released).tokens, p r.token := by
  have hdrained : ∀ r ∈ released.reverse, p r.token := fun r h => hr r (List.mem_reverse.1 h)
  induction fuel generalizing s released with
  | zero => exact hdrained
  | succ fuel ih =>
    rw [drain]
    split
    · exact hdrained
    · next s' hrun =>
      have hs' := hmore s hs _ _ hrun
      split
      · exact hdrained
      · next s'' hrun' => exact ih (hfetch s' hs' _ _ hrun') hr hdrained
    · next s' hrun =>
      have hs' := hmore s hs _ _ hrun
      split
      · exact hdrained
      · next x queue hq =>
        obtain ⟨hx, hnext⟩ := hrelease s' x queue hs' hq
        have hr' : ∀ r ∈ (⟨x, s'.version⟩ :: released : List Released), p r.token := List.forall_mem_cons.2 ⟨hx, hr⟩
        exact ih hnext hr' fun r h => hr' r (List.mem_reverse.1 h)

/-- Characters with which a plain scalar may start, given the next one. -/
def LeadsPlain (ch : Char) (following : Option Char) : Prop :=
  Scan.isIndicator ch = false ∨ ch = ':' ∨ ((ch = '-' ∨ ch = '?') ∧ endsWord following = false)

/-- A text that has been read as a plain scalar somewhere in `t`. -/
def IsPlainIn (t value : Text) : Prop :=
  ∃ (place : Lex.PlainPlace) (c d : Cursor) (read : Lex.PlainRead) (ch : Char), c.rest <:+ t ∧ c.peek = some ch ∧
    LeadsPlain ch (c.peekAt 1) ∧ (Lex.plainScalar place).run c = .ok (read, d) ∧ read.text = value

/-- The same of the value of a plain scalar. -/
def TokenKind.IsPlainIn (t : Text) : TokenKind → Prop
  | .scalar text .plain => Yaml.IsPlainIn t text.toList
  | _ => True

theorem leadsPlain_of_startsPlain {s : TokenReader} {ch : Char} (h : Scan.startsPlain s ch = true) :
    LeadsPlain ch (s.cursor.peekAt 1) := by
  simp only [Scan.startsPlain, Bool.or_eq_true, Bool.and_eq_true, Bool.not_eq_true', beq_iff_eq] at h
  rcases h with ((h | h) | h) | h
  · exact .inl h
  · exact .inr (.inr ⟨.inl h.1, h.2⟩)
  · exact .inr (.inl h.1.1.1.2)
  · rcases h.1.2 with hq | hcolon
    · exact .inr (.inr ⟨.inr hq, h.2⟩)
    · exact .inr (.inl hcolon)

variable {t : Text}

theorem isBroad_isPlainIn : Scan.IsBroad (TokenKind.IsPlainIn t) := by
  intro kind _ hplain
  unfold TokenKind.IsPlainIn
  split
  · exact absurd rfl (hplain _)
  · trivial

/-- The plain scalars of a text have been read in it. -/
theorem isPlainIn_of_mem_ofText {r : Released} (h : r ∈ (TokenStream.ofText t).tokens) :
    r.token.kind.IsPlainIn t := by
  unfold TokenStream.ofText at h
  split at h
  · cases h
  · have hstart : (TokenReader.start t).IsIn t := ⟨Cursor.isAfter_ofText t,
      List.forall_mem_singleton.2 (Token.isIn_empty (Nat.zero_le _) fun _ => trivial), fun x hx => by cases hx⟩
    refine @TokenReader.forall_mem_drain (fun s => s.IsIn t ∧ s.Holds (TokenKind.IsPlainIn t))
      (fun x => x.kind.IsPlainIn t)
      (fun s hs => ?_) (fun s hs => ?_) (fun s x queue hs hq => ?_)
      _ _ _ ⟨hstart, List.forall_mem_singleton.2 trivial⟩ (fun r hr => by cases hr) r h
    · exact fun a s' hrun => ⟨Scan.isIn_needsMore hs.1 a s' hrun, Scan.adds_needsMore s hs.2 a s' hrun⟩
    · refine fun a s' hrun => ⟨Scan.isIn_fetch hs.1 a s' hrun, ?_⟩
      refine (Scan.holds_fetch isBroad_isPlainIn hs.2 (fun s' n ch hcursor hpeek hstarts place => ?_) a s' hrun).elim
        (fun hdone => hdone.2 trivial) id
      refine fun read d hread => ⟨place, s'.cursor, d, read, ch, ?_, hpeek, leadsPlain_of_startsPlain hstarts, hread, ?_⟩
      · rw [hcursor, Cursor.rest_skip]
        exact (List.drop_suffix n _).trans hs.1.cursor.suffix
      · exact (String.toList_ofList).symm
    · have hin := hs.1.queue
      have hholds := hs.2
      rw [TokenReader.Holds, hq] at hholds
      rw [hq] at hin
      exact ⟨hholds x (.head _), ⟨hs.1.cursor, fun y hy => hin y (.tail _ hy), hs.1.keys⟩,
        fun y hy => hholds y (.tail _ hy)⟩

end YamlStyle.Yaml

import YamlStyle.Proofs.Text.Utf8
import YamlStyle.Proofs.Yaml.Faulting
import YamlStyle.Proofs.Yaml.Spelling

/-!
# Values that no text may carry

Some values can be written in a text but not be had: characters beyond Unicode, numbers that are too
long, versions without meaning. `Hazard` says how each of them stands in the text. A reader of lexical
units stops at a fault or at such a value.
-/

namespace YamlStyle.Yaml

open Text (isDigit isHexDigit numberIn)

variable {t : Text}

/-! ## Hazards -/

/-- An escape by eight hexadecimal digits stands in a text. -/
structure EscapesIn (t digits : Text) : Prop where
  isIn : '\\' :: 'U' :: digits <:+: t
  length : digits.length = 8
  hex : ∀ d ∈ digits, isHexDigit d = true

/-- What stands before a number of a version: the name of the directive and spaces, and for the second
number the first one and a point. -/
def IsVersionHead (head : Text) : Prop :=
  ∃ spaces, (∀ c ∈ spaces, c = ' ') ∧
    (head = "%YAML".toList ++ spaces ∨
      ∃ major, (∀ d ∈ major, isDigit d = true) ∧ head = "%YAML".toList ++ spaces ++ major ++ ['.'])

/-- A directive for a version stands in a text. -/
def NamesVersion (t : Text) (v : Version) : Prop :=
  ∃ spaces major minor, (∀ c ∈ spaces, c = ' ') ∧ (∀ d ∈ major, isDigit d = true) ∧
    (∀ d ∈ minor, isDigit d = true) ∧ "%YAML".toList ++ spaces ++ major ++ ['.'] ++ minor <:+: t ∧
    v = ⟨numberIn 10 major, numberIn 10 minor⟩

/-- Values at which the tokens of a text stop. -/
inductive TokenHazard (t : Text) : Failure → Prop
  | escapeBeyondUnicode {digits : Text} (h : EscapesIn t digits) (least : 0x110000 ≤ numberIn 16 digits)
      (below : numberIn 16 digits < 0x80000000) : TokenHazard t .escapeBeyondUnicode
  | escapeBeyondWord {digits : Text} (h : EscapesIn t digits) (least : 0x80000000 ≤ numberIn 16 digits) :
      TokenHazard t .escapeBeyondWord
  | longVersion {head digits : Text} (hhead : IsVersionHead head) (hdigits : ∀ d ∈ digits, isDigit d = true)
      (h : head ++ digits <:+: t) (long : Numeral.mostDigits < digits.length) :
      TokenHazard t (.notNumeral (.tooLong digits.length))

/-- Values at which the tokens or the events of a text stop. An escaped percent sign in a tag is taken
for the start of another escape. -/
inductive Hazard (t : Text) : Failure → Prop
  | ofToken {f : Failure} (h : TokenHazard t f) : Hazard t f
  | minorVersion {v : Version} (h : NamesVersion t v) (major : v.major = 1) (not1 : v.minor ≠ 1) (not2 : v.minor ≠ 2) :
      Hazard t (.unknownMinorVersion v)
  | tagEscape {digits : Text} (h : "%25".toList <:+: t) : Hazard t (.notNumeral (.malformed 16 digits))
  | negativeTagEscape (h : "%25".toList <:+: t) : Hazard t .escapeBeyondUnicode

theorem TokenHazard.mono {s : Text} {f : Failure} (h : TokenHazard s f) (hst : s <:+: t) : TokenHazard t f := by
  cases h with
  | escapeBeyondUnicode h least below => exact .escapeBeyondUnicode ⟨h.isIn.trans hst, h.length, h.hex⟩ least below
  | escapeBeyondWord h least => exact .escapeBeyondWord ⟨h.isIn.trans hst, h.length, h.hex⟩ least
  | longVersion hhead hdigits h long => exact .longVersion hhead hdigits (h.trans hst) long

/-! ## What is read -/

/-- A percent sign in what was read of a URI has been escaped in the text. -/
def EscapesPercent (t read : Text) : Prop := '%' ∈ read → "%25".toList <:+: t

/-- The version that a directive names stands in the text. -/
def NamesVersionOf (t : Text) : Directive → Prop
  | .yaml v => NamesVersion t v
  | _ => True

/-- What is known of a text in which a token was read. -/
def Traced (t : Text) (x : Token) : Prop :=
  match x.kind with
  | .directive d => NamesVersionOf t d ∧ Lex.IsDirective (t.slice x.start.offset x.stop.offset)
  | .tag read => EscapesPercent t read.suffix.toList
  | kind => kind.IsLegible

/-- What is known of a text in which a token of a kind was read, wherever it stands. -/
def TracedAnywhere (t : Text) : TokenKind → Prop
  | .directive _ => False
  | .tag read => EscapesPercent t read.suffix.toList
  | kind => kind.IsLegible

theorem TracedAnywhere.traced {kind : TokenKind} (h : TracedAnywhere t kind) (start stop : Mark) :
    Traced t ⟨kind, start, stop⟩ := by
  cases kind with
  | directive d => exact h.elim
  | _ => exact h

theorem Traced.of_directive {x : Token} {d : Directive} (h : Traced t x) (hd : x.kind = .directive d) :
    NamesVersionOf t d ∧ Lex.IsDirective (t.slice x.start.offset x.stop.offset) := by
  rw [Traced, hd] at h
  exact h

theorem Traced.of_tag {x : Token} {read : Tag} (h : Traced t x) (hread : x.kind = .tag read) :
    EscapesPercent t read.suffix.toList := by
  rw [Traced, hread] at h
  exact h

theorem Traced.legible {x : Token} (h : Traced t x) : x.kind.IsLegible := by
  obtain ⟨kind, start, stop⟩ := x
  cases kind with
  | directive | tag => trivial
  | _ => exact h

/-- A failure with a reason in the text. -/
def Explains (t : Text) (e : Failure) : Prop := e.IsFault ∨ TokenHazard t e

/-! ## Places in a text -/

/-- A cursor in a text, right after some characters. -/
structure Cursor.IsAfter (t before : Text) (c : Cursor) : Prop where
  suffix : before ++ c.rest <:+ t
  offset : c.mark.offset + c.rest.length = t.length

namespace Cursor

variable {before more : Text} {c c' : Cursor}

theorem isAfter_ofText (t : Text) : (ofText t).IsAfter t [] := ⟨List.suffix_rfl, Nat.zero_add _⟩

theorem IsAfter.isIn (h : c.IsAfter t before) : before <:+: t :=
  (List.prefix_append before c.rest).isInfix.trans h.suffix.isInfix

theorem IsAfter.drop (h : c.IsAfter t (more ++ before)) : c.IsAfter t before where
  suffix := (List.suffix_append more _).trans (List.append_assoc more before c.rest ▸ h.suffix)
  offset := h.offset

theorem IsAfter.weaken (h : c.IsAfter t before) : c.IsAfter t [] := drop (List.append_nil before ▸ h)

theorem IsAfter.append (h : c.IsAfter t before) (hp : c.Passes more c') : c'.IsAfter t (before ++ more) where
  suffix := by
    rw [List.append_assoc, ← hp.rest]
    exact h.suffix
  offset := by
    rw [hp.offset, ← h.offset, hp.rest, List.length_append, Nat.add_assoc]

theorem IsAfter.reaches {p : Char → Prop} {k : Nat} (h : c.IsAfter t before) (hr : c.Reaches p k c') :
    c'.IsAfter t [] := by
  obtain ⟨taken, hp⟩ := hr.passes
  exact (h.append hp).weaken

/-- What is left to read is what the text has after the mark. -/
theorem IsAfter.rest_eq (h : c.IsAfter t before) : c.rest = t.drop c.mark.offset := by
  obtain ⟨passed, hpassed⟩ := h.weaken.suffix
  have hlength : passed.length = c.mark.offset := by
    have := h.offset
    rw [← hpassed, List.length_append, List.nil_append] at this
    omega
  rw [← hpassed, ← hlength, List.drop_left, List.nil_append]

end Cursor

namespace Lex

variable {α β : Type} {before : Text} {E : Failure → Prop}

theorem meets_of_faults {x : Lex α} (hr : ReadsOn x) (hf : Faults x) :
    Meets (Cursor.IsAfter t before) (Explains t) x fun _ c => c.IsAfter t [] :=
  fun c hc => ⟨fun a c' h => hc.reaches (hr c a c' h), fun e h => .inl (hf c e h)⟩

theorem meets_peek {P : Cursor → Prop} : Meets P E peek fun found c => found = c.peek ∧ P c :=
  meets_get.bind fun c => meets_pure fun s hs => by
    obtain ⟨rfl, hc⟩ := hs
    exact ⟨rfl, hc⟩

theorem meets_mark {P : Cursor → Prop} : Meets P E mark fun _ c => P c :=
  meets_get.bind fun _ => meets_pure fun _ hs => hs.2

theorem meets_fail {P : Cursor → Prop} {Q : α → Cursor → Prop} (context : Context) (start : Mark) (cause : Cause)
    (hcause : cause.IsOfForm) : Meets P (Explains t) (fail context start cause : Lex α) Q := by
  intro c _
  constructor
  · intro a c' h
    cases h
  · intro e h
    cases h
    exact .inl ⟨_, rfl, hcause⟩

theorem meets_fail_bind {P : Cursor → Prop} {Q : β → Cursor → Prop} (context : Context) (start : Mark) (cause : Cause)
    (f : α → Lex β) (hcause : cause.IsOfForm) :
    Meets P (Explains t) (fail context start cause >>= f) Q :=
  (meets_fail (Q := fun _ _ => False) context start cause hcause).bind fun _ _ h => h.elim

/-- A check of the next character before a reader goes on. -/
theorem meets_peek_check {p : Option Char → Bool} {context : Context} {start : Mark} {cause : Option Char → Cause}
    {next : Lex α} {Q : α → Cursor → Prop} (h : Meets (Cursor.IsAfter t before) (Explains t) next Q)
    (hcause : ∀ c, (cause c).IsOfForm) :
    Meets (Cursor.IsAfter t before) (Explains t) (do
      if !p (← peek) then fail context start (cause (← peek))
      next) Q := by
  refine meets_peek.bind fun found => meets_ite (fun _ => ?_) fun _ => h.pre fun c hc => hc.2
  exact (meets_peek.pre fun c hc => hc.2).bind fun _ => meets_fail_bind _ _ _ _ (hcause _)

theorem meets_span (p : Char → Bool) : Meets (Cursor.IsAfter t before) E (span p)
    fun taken c => c.IsAfter t (before ++ taken) ∧ ∀ ch ∈ taken, p ch = true := by
  intro c hc
  refine ⟨(ensures_span p).imp fun taken c' ⟨hpasses, htaken⟩ => ⟨hc.append hpasses, htaken⟩, ?_⟩
  intro e h
  cases h

/-- Reading over the next character. -/
theorem meets_advance {ch : Char} : Meets (fun c => c.peek = some ch ∧ c.IsAfter t before) E (advance 1)
    fun _ c => c.IsAfter t (before ++ [ch]) :=
  meets_modify fun _ hc => hc.2.append (Cursor.passes_next hc.1)

/-! ## Escapes -/

theorem hazard_of_charOfCode {digits : Text} {e : Failure} (hhex : ∀ d ∈ digits, isHexDigit d = true)
    (hisIn : digits.length = 8 → '\\' :: 'U' :: digits <:+: t) (hlen : digits.length ≤ 4 ∨ digits.length = 8)
    (h : charOfCode (numberIn 16 digits) = .error e) : TokenHazard t e := by
  have hlt := Text.numberIn_lt digits
  unfold charOfCode at h
  split at h
  · next hword =>
    cases h
    rcases hlen with hlen | hlen
    · have := Nat.pow_le_pow_right (show 0 < 16 by omega) hlen
      omega
    · exact .escapeBeyondWord ⟨hisIn hlen, hlen, hhex⟩ hword
  · next hword =>
    split at h
    · next hunicode =>
      cases h
      rcases hlen with hlen | hlen
      · have := Nat.pow_le_pow_right (show 0 < 16 by omega) hlen
        omega
      · exact .escapeBeyondUnicode ⟨hisIn hlen, hlen, hhex⟩ hunicode (by omega)
    · cases h

/-- The digits that an escape asks for, once they have been checked. -/
theorem digits_of_find? {c : Cursor} (width : Nat)
    (h : ((List.range width).map c.peekAt).find? (fun d => !(d.map isHexDigit).getD false) = none) :
    (c.rest.take width).length = width ∧ ∀ d ∈ c.rest.take width, isHexDigit d = true := by
  have hat : ∀ k < width, ∃ d, c.rest[k]? = some d ∧ isHexDigit d = true := by
    intro k hk
    have := List.find?_eq_none.1 h (c.peekAt k) (List.mem_map_of_mem (List.mem_range.2 hk))
    cases hd : c.rest[k]? with
    | none => simp [Cursor.peekAt, hd] at this
    | some d => exact ⟨d, rfl, by simpa [Cursor.peekAt, hd] using this⟩
  constructor
  · rw [List.length_take, Nat.min_eq_left]
    by_contra hlt
    obtain ⟨d, hd, -⟩ := hat c.rest.length (by omega)
    rw [List.getElem?_eq_none (Nat.le_refl _)] at hd
    cases hd
  · intro d hd
    obtain ⟨k, hk, hkd⟩ := List.mem_iff_getElem.1 hd
    rw [List.length_take] at hk
    obtain ⟨d', hd', hhex⟩ := hat k (by omega)
    rw [List.getElem_take] at hkd
    rw [List.getElem?_eq_getElem (by omega), hkd] at hd'
    cases hd'
    exact hhex

theorem escapeWidth_cases {ch : Char} {width : Nat} (h : escapeWidth? ch = some width) :
    width ≤ 4 ∨ width = 8 ∧ ch = 'U' := by
  unfold escapeWidth? at h
  split at h <;> cases h <;> simp

theorem meets_escape (start : Mark) : Meets (Cursor.IsAfter t ['\\']) (Explains t) (escape start)
    fun _ c => c.IsAfter t [] := by
  refine meets_get.bind fun c => ?_
  split
  · refine (meets_of_faults ?_ ?_).pre fun s hs => hs.2
    · exact (reads_advance 1).bind fun _ => reads_pure _
    · exact (faults_advance 1).bind fun _ => faults_pure _
  · next width _ hwidth =>
    obtain ⟨ch, hch, hwidth⟩ := Option.bind_eq_some_iff.1 hwidth
    have hnext : Meets (fun s => c = s ∧ s.IsAfter t ['\\']) (Explains t) (advance 1)
        fun _ s => s.IsAfter t (['\\'] ++ [ch]) := meets_advance.pre fun s hs => ⟨hs.1 ▸ hch, hs.2⟩
    refine hnext.bind fun _ => meets_get.bind fun c' => ?_
    split
    · exact (meets_of_faults (reads_fail _ _ _) (faults_fail _ _ _ (by trivial))).pre fun s hs => hs.2
    · next hdigits =>
      obtain ⟨hlen, hhex⟩ := digits_of_find? width hdigits
      have hhazard : ∀ s e, c' = s ∧ s.IsAfter t (['\\'] ++ [ch]) →
          charOfCode (numberIn 16 (c'.rest.take width)) = .error e → TokenHazard t e := by
        rintro s e ⟨rfl, hs⟩ he
        refine hazard_of_charOfCode hhex (fun h8 => ?_) ?_ he
        · obtain rfl : ch = 'U' := by
            rcases escapeWidth_cases hwidth with hle | ⟨-, hch⟩
            · omega
            · exact hch
          exact ((List.prefix_append_right_inj ['\\', 'U']).2 (List.take_prefix width c'.rest)).isInfix.trans hs.suffix.isInfix
        · rcases escapeWidth_cases hwidth with hle | ⟨h8, -⟩
          · exact .inl (by omega)
          · exact .inr (by omega)
      refine (meets_lift (fun s _ hs _ => hs.2.weaken) fun s e hs he => .inr (hhazard s e hs he)).bind fun char => ?_
      refine meets_of_faults ?_ ?_
      · exact (reads_advance width).bind fun _ => reads_pure _
      · exact (faults_advance width).bind fun _ => faults_pure _
  · refine (meets_of_faults ?_ ?_).pre fun s hs => hs.2
    · refine readsOn_lineBreak.bind fun found => ?_
      split
      · exact reads_get.bind fun _ => readsOn_quotedBreaks _ _ _
      · exact reads_fail _ _ _
    · refine faults_lineBreak.bind fun found => ?_
      split
      · exact faults_get.bind fun _ => faults_quotedBreaks _ _ _
      · exact faults_fail _ _ _ trivial

theorem meets_quotedWord (double : Bool) (start : Mark) (fuel : Nat) (read : Text) :
    Meets (Cursor.IsAfter t []) (Explains t) (quotedWord double start fuel read) fun _ c => c.IsAfter t [] := by
  induction fuel generalizing read with
  | zero => exact meets_pure fun _ h => h
  | succ fuel ih =>
    have hadvance : ∀ (n : Nat) (c : Cursor) (read : Text),
        Meets (fun s => c = s ∧ s.IsAfter t []) (Explains t) (do advance n; quotedWord double start fuel read)
          fun _ c => c.IsAfter t [] := fun n c read =>
      ((meets_of_faults (reads_advance n) (faults_advance n)).pre fun s hs => hs.2).bind fun _ => ih _
    refine (meets_of_faults (readsOn_span _) (faults_span _)).bind fun word => meets_get.bind fun c => ?_
    split
    · exact meets_ite (fun _ => hadvance 2 c _) fun _ => meets_pure fun s hs => hs.2
    · exact hadvance 1 c _
    · exact hadvance 1 c _
    · exact hadvance 1 c _
    · next hpeek =>
      have hnext : Meets (fun s => c = s ∧ s.IsAfter t []) (Explains t) (advance 1)
          fun _ s => s.IsAfter t ([] ++ ['\\']) := meets_advance.pre fun s hs => ⟨hs.1 ▸ hpeek, hs.2⟩
      exact hnext.bind fun _ => (meets_escape start).bind fun _ => ih _
    · exact meets_pure fun s hs => hs.2

theorem meets_quotedRest (double : Bool) (start : Mark) (fuel : Nat) (read : Text) :
    Meets (Cursor.IsAfter t []) (Explains t) (quotedRest double start fuel read) fun _ c => c.IsAfter t [] := by
  induction fuel generalizing read with
  | zero => exact meets_pure fun _ h => h
  | succ fuel ih =>
    refine meets_peek.bind fun found => meets_ite (fun _ => meets_pure fun _ h => h.2) fun _ => ?_
    refine ((meets_of_faults (readsOn_quotedSpaces start) (faults_quotedSpaces start)).pre fun s hs => hs.2).bind
      fun spaces => meets_get.bind fun c => ?_
    exact ((meets_quotedWord _ _ _ _).pre fun s hs => hs.2).bind fun word => ih _

theorem meets_quotedScalar (double : Bool) :
    Meets (Cursor.IsAfter t []) (Explains t) (quotedScalar double) fun _ c => c.IsAfter t [] := by
  refine meets_mark.bind fun start => (meets_of_faults (reads_advance 1) (faults_advance 1)).bind fun _ => ?_
  refine meets_get.bind fun c => ((meets_quotedWord _ _ _ _).pre fun s hs => hs.2).bind fun first => ?_
  refine meets_get.bind fun c => ((meets_quotedRest _ _ _ _).pre fun s hs => hs.2).bind fun read => ?_
  exact (meets_of_faults (reads_advance 1) (faults_advance 1)).bind fun _ => meets_pure fun _ h => h

/-! ## Versions -/

/-- A number of a version is made of the digits at hand, unless there are too many. -/
theorem meets_versionNumber {head : Text} (hhead : IsVersionHead head) (start : Mark) :
    Meets (Cursor.IsAfter t head) (Explains t) (versionNumber start) fun n c =>
      ∃ digits, (∀ d ∈ digits, isDigit d = true) ∧ n = numberIn 10 digits ∧ c.IsAfter t (head ++ digits) := by
  refine (meets_span isDigit).bind fun digits => meets_ite (fun _ => ?_) fun hne => ?_
  · exact (meets_peek.pre fun c hc => hc.1).bind fun _ => meets_fail_bind _ _ _ _ trivial
  · have hne : digits ≠ [] := by simpa using hne
    rintro c ⟨hc, hdigits⟩
    rw [Numeral.ofText_digits hdigits hne]
    by_cases hlong : Numeral.mostDigits < digits.length
    · rw [if_pos hlong]
      exact ⟨ensures_throw _, (failsIn_throw _).2 (.inr (.longVersion hhead hdigits hc.isIn hlong))⟩
    · rw [if_neg hlong]
      exact ⟨(ensures_pure _).2 ⟨digits, hdigits, rfl, hc⟩, failsIn_pure _⟩

theorem meets_versionValue (start : Mark) :
    Meets (Cursor.IsAfter t "%YAML".toList) (Explains t) (versionValue start)
      fun v c => NamesVersion t v ∧ c.IsAfter t [] := by
  refine (meets_span (· == ' ')).bind fun spaces c ⟨hc, hspaces⟩ => ?_
  have hspaces : ∀ ch ∈ spaces, ch = ' ' := fun ch hch => eq_of_beq (hspaces ch hch)
  refine ((meets_versionNumber ⟨spaces, hspaces, .inl rfl⟩ start).bind fun major => ?_) c hc
  refine meets_exists fun first => meets_and fun hfirst => meets_and fun hmajor => ?_
  refine meets_peek.bind fun found => meets_ite (fun _ => ?_) fun hdot => ?_
  · exact (meets_peek.pre fun c hc => hc.2).bind fun _ => meets_fail_bind _ _ _ _ trivial
  · have hdot : found = some '.' := by simpa using hdot
    refine (meets_advance.pre fun c hc => ⟨hc.1.symm.trans hdot, hc.2⟩).bind fun _ => ?_
    refine (meets_versionNumber ⟨spaces, hspaces, .inr ⟨first, hfirst, rfl⟩⟩ start).bind fun minor => ?_
    refine meets_exists fun second => meets_and fun hsecond => meets_and fun hminor => meets_peek_check ?_ fun _ => trivial
    refine meets_pure fun c hc => ⟨⟨spaces, first, second, hspaces, hfirst, hsecond, hc.isIn, ?_⟩, hc.weaken⟩
    rw [hmajor, hminor]

/-! ## Tags -/

/-- The only escape for a percent sign is that of its code. -/
theorem eq_percent {digits : Text} (hlen : digits.length = 2) (hhex : ∀ d ∈ digits, isHexDigit d = true)
    (h : UInt8.ofNat (numberIn 16 digits) = 0x25) : digits = "25".toList := by
  obtain ⟨a, b, rfl⟩ := List.length_eq_two.1 hlen
  have ha := Text.hexValue_lt a
  have hb := Text.hexValue_lt b
  have hnumber : numberIn 16 [a, b] = Text.hexValue a * 16 + Text.hexValue b := by simp [numberIn]
  have hcode : numberIn 16 [a, b] = 0x25 := by
    have := congrArg UInt8.toNat h
    rw [UInt8.toNat_ofNat_of_lt' (by rw [hnumber]; simp only [UInt8.size]; omega)] at this
    simpa using this
  have hfirst := Text.eq_ofNat_of_hexValue (hhex a (by simp)) (by omega)
  have hsecond := Text.eq_ofNat_of_hexValue (hhex b (by simp)) (by omega)
  rw [show Text.hexValue a = 2 by omega] at hfirst
  rw [show Text.hexValue b = 5 by omega] at hsecond
  rw [hfirst, hsecond]
  rfl

theorem meets_uriEscapes (context : Context) (start : Mark) (fuel : Nat) (bytes : List UInt8) :
    Meets (Cursor.IsAfter t []) (Explains t) (uriEscapes context start fuel bytes)
      fun read c => (0x25 ∈ read → 0x25 ∈ bytes ∨ "%25".toList <:+: t) ∧ c.IsAfter t [] := by
  induction fuel generalizing bytes with
  | zero => exact meets_pure fun _ h => ⟨.inl, h⟩
  | succ fuel ih =>
    refine meets_peek.bind fun found => meets_ite (fun _ => meets_pure fun _ h => ⟨.inl, h.2⟩) fun hpercent => ?_
    have hpercent : found = some '%' := by simpa using hpercent
    refine (meets_advance.pre fun c hc => ⟨hc.1.symm.trans hpercent, hc.2⟩).bind fun _ => meets_get.bind fun c => ?_
    dsimp only
    split
    · exact meets_fail _ _ _ trivial
    · next hdigits =>
      obtain ⟨hlen, hhex⟩ := digits_of_find? 2 hdigits
      rintro s ⟨rfl, hc⟩
      have hisIn : '%' :: c.rest.take 2 <:+: t :=
        ((List.prefix_append_right_inj ['%']).2 (List.take_prefix 2 c.rest)).isInfix.trans hc.suffix.isInfix
      refine (((meets_of_faults (reads_advance 2) (faults_advance 2)).bind fun _ => ih _).post ?_) c hc
      rintro read c' ⟨hread, hc'⟩
      refine ⟨fun hmem => ?_, hc'⟩
      rcases hread hmem with hmem | hisIn
      · rcases List.mem_append.1 hmem with hmem | hmem
        · exact .inl hmem
        · rw [eq_percent hlen hhex (List.mem_singleton.1 hmem).symm] at hisIn
          exact .inr hisIn
      · exact .inr hisIn

/-- A percent sign in what a URI stands for has been escaped. -/
theorem meets_uriParts (version : Version) (escapes : Context) (start : Mark) (fuel : Nat) (read : Text) :
    Meets (Cursor.IsAfter t []) (Explains t) (uriParts version escapes start fuel read)
      fun all c => ('%' ∈ all → '%' ∈ read ∨ "%25".toList <:+: t) ∧ c.IsAfter t [] := by
  induction fuel generalizing read with
  | zero => exact meets_pure fun _ h => ⟨.inl, h⟩
  | succ fuel ih =>
    refine (meets_span _).bind fun plain c ⟨hc, hplain⟩ => ?_
    have hread : '%' ∈ read ++ plain → '%' ∈ read := by
      intro hmem
      rcases List.mem_append.1 hmem with hmem | hmem
      · exact hmem
      · exact absurd (hplain '%' hmem) (by simp)
    refine (meets_peek.bind fun found => meets_ite (fun _ => ?_) fun _ => ?_) c hc.weaken
    · exact meets_pure fun _ h => ⟨fun hmem => .inl (hread hmem), h.2⟩
    · refine (meets_mark.pre fun c hc => hc.2).bind fun escapesAt => meets_get.bind fun c => ?_
      refine ((meets_uriEscapes _ _ _ _).pre fun s hs => hs.2).bind fun bytes => meets_and fun hbytes => ?_
      split
      · next decoded hdecoded =>
        refine (ih _).post fun all c hall => ⟨fun hmem => ?_, hall.2⟩
        rcases hall.1 hmem with hmem | hisIn
        · rcases List.mem_append.1 hmem with hmem | hmem
          · exact .inl (hread hmem)
          · -- The percent sign is a byte of its own, so an escape has written it.
            rcases hbytes (Text.Utf8.mem_of_mem_decode hdecoded hmem ⟨by decide, by decide⟩) with hnil | hisIn
            · cases hnil
            · exact .inr hisIn
        · exact .inr hisIn
      · next hreason => exact meets_throw fun _ _ => .inl ⟨_, rfl, Unbroken.message_of_utf8 hreason⟩

theorem meets_uri (version : Version) (context escapes : Context) (start : Mark) :
    Meets (Cursor.IsAfter t []) (Explains t) (uri version context escapes start)
      fun read c => EscapesPercent t read.toList ∧ c.IsAfter t [] := by
  refine meets_mark.bind fun before => meets_get.bind fun c => ?_
  refine ((meets_uriParts _ _ _ _ _).pre fun s hs => hs.2).bind fun read => meets_and fun hread => ?_
  have hread : EscapesPercent t (String.ofList read).toList := by
    rw [String.toList_ofList]
    intro hmem
    rcases hread hmem with hnil | hisIn
    · cases hnil
    · exact hisIn
  refine meets_mark.bind fun after => meets_ite (fun _ => ?_) fun _ => meets_pure fun _ h => ⟨hread, h⟩
  exact meets_peek.bind fun _ => meets_fail_bind _ _ _ _ trivial

theorem meets_tag (version : Version) :
    Meets (Cursor.IsAfter t []) (Explains t) (tag version)
      fun read c => EscapesPercent t read.suffix.toList ∧ c.IsAfter t [] := by
  have hadvance : ∀ n, Meets (Cursor.IsAfter t []) (Explains t) (advance n) fun _ c => c.IsAfter t [] :=
    fun n => meets_of_faults (reads_advance n) (faults_advance n)
  have hend : ∀ read : Tag, EscapesPercent t read.suffix.toList → ∀ start,
      Meets (Cursor.IsAfter t []) (Explains t) (do
        if !endsName (← peek) then fail .tag start (.expectedSpace (← peek))
        return read) fun read c => EscapesPercent t read.suffix.toList ∧ c.IsAfter t [] :=
    fun read hread start => meets_peek_check (meets_pure fun _ h => ⟨hread, h⟩) fun _ => trivial
  refine meets_mark.bind fun start => meets_get.bind fun c => ?_
  refine ((hadvance _).pre fun s hs => hs.2).bind fun _ => meets_get.bind fun c => ?_
  dsimp only
  refine meets_ite (fun _ => ?_) fun _ => meets_ite (fun _ => ?_) fun _ => meets_ite (fun _ => ?_) fun _ => ?_
  · refine ((hadvance _).pre fun s hs => hs.2).bind fun _ => ?_
    refine (meets_uri _ _ _ _).bind fun suffix => meets_and fun hsuffix => meets_peek.bind fun found => ?_
    refine meets_ite (fun _ => (meets_peek.pre fun c hc => hc.2).bind fun _ => meets_fail_bind _ _ _ _ trivial) fun _ => ?_
    exact ((hadvance _).pre fun c hc => hc.2).bind fun _ => meets_pure_bind (hend _ hsuffix _)
  · refine ((hadvance _).pre fun s hs => hs.2).bind fun _ => meets_pure_bind (hend _ ?_ _)
    -- The suffix is one bang or two.
    intro hmem
    split at hmem <;> exact absurd hmem (by decide)
  · refine ((meets_of_faults (staysOnLine_handle _ _).readsOn (faults_handle _ _)).pre fun s hs => hs.2).bind fun h => ?_
    exact (meets_uri _ _ _ _).bind fun suffix => meets_and fun hsuffix => meets_pure_bind (hend _ hsuffix _)
  · refine ((hadvance _).pre fun s hs => hs.2).bind fun _ => ?_
    exact (meets_uri _ _ _ _).bind fun suffix => meets_and fun hsuffix => meets_pure_bind (hend _ hsuffix _)

/-! ## Directives -/

theorem meets_tagValue (version : Version) (start : Mark) :
    Meets (Cursor.IsAfter t []) (Explains t) (tagValue version start) fun _ c => c.IsAfter t [] := by
  have hspan : Meets (Cursor.IsAfter t []) (Explains t) (span (· == ' ')) fun _ c => c.IsAfter t [] :=
    meets_of_faults (readsOn_span _) (faults_span _)
  refine hspan.bind fun _ => (meets_of_faults (staysOnLine_handle _ _).readsOn (faults_handle _ _)).bind fun h => ?_
  refine meets_peek.bind fun found => meets_ite (fun _ => ?_) fun _ => ?_
  · exact (meets_peek.pre fun c hc => hc.2).bind fun _ => meets_fail_bind _ _ _ _ trivial
  · refine (hspan.pre fun c hc => hc.2).bind fun _ => (meets_uri _ _ _ _).bind fun lead => meets_and fun _ => ?_
    exact meets_peek_check (meets_pure fun _ h => h) fun _ => trivial

theorem meets_directive (version : Version) :
    Meets (fun c => c.peek = some '%' ∧ c.IsAfter t []) (Explains t) (directive version)
      fun read c => NamesVersionOf t read.1 ∧ c.IsAfter t [] := by
  have hend : ∀ read : Directive × Mark, NamesVersionOf t read.1 → ∀ start,
      Meets (Cursor.IsAfter t []) (Explains t) (do restOfLine .directive start; return read)
        fun read c => NamesVersionOf t read.1 ∧ c.IsAfter t [] := fun read hread start =>
    (meets_of_faults (readsOn_restOfLine _ _) (faults_restOfLine _ _)).bind fun _ => meets_pure fun _ h => ⟨hread, h⟩
  refine meets_mark.bind fun start => meets_advance.bind fun _ => (meets_span _).bind fun name => ?_
  refine meets_peek.bind fun found => meets_ite (fun _ => ?_) fun _ => ?_
  · exact (meets_peek.pre fun c hc => hc.2).bind fun _ => meets_fail_bind _ _ _ _ trivial
  · dsimp only
    refine meets_ite (fun hname => ?_) fun _ => meets_ite (fun _ => ?_) fun _ => ?_
    · obtain rfl := eq_of_beq hname
      refine ((meets_versionValue start).pre fun c hc => hc.2.1).bind fun v => meets_and fun hv => ?_
      exact meets_mark.bind fun _ => meets_pure_bind (hend (.yaml v, _) hv _)
    · refine ((meets_tagValue _ _).pre fun c hc => hc.2.1.weaken).bind fun read => ?_
      exact meets_mark.bind fun _ => meets_pure_bind (hend (.tag read.1 read.2, _) trivial _)
    · refine (meets_mark.pre fun c hc => hc.2.1).bind fun stop => ?_
      exact (meets_of_faults (readsOn_span _) (faults_span _)).bind fun _ =>
        meets_pure_bind (hend (.reserved _, stop) trivial _)

/-- A directive stands in the text between its marks. -/
theorem meets_directive_traced (version : Version) (start : Mark) :
    Meets (fun c => c.mark = start ∧ c.peek = some '%' ∧ c.IsAfter t []) (Explains t) (directive version)
      fun read c => Traced t ⟨.directive read.1, start, read.2⟩ ∧ c.IsAfter t [] := by
  rintro c ⟨rfl, hpercent, hc⟩
  obtain ⟨hread, hfails⟩ := meets_directive version c ⟨hpercent, hc⟩
  refine ⟨fun read c' hr => ?_, hfails⟩
  obtain ⟨hversion, hc'⟩ := hread read c' hr
  obtain ⟨written, hdirective, ⟨rest, hrest⟩, hstop⟩ := ensures_directive version hpercent read c' hr
  refine ⟨⟨hversion, ?_⟩, hc'⟩
  have hslice : t.slice c.mark.offset read.2.offset = written := by
    rw [Text.slice, hstop, Nat.add_sub_cancel_left, ← hc.rest_eq, ← hrest, List.take_left]
  rwa [hslice]

end Lex

end YamlStyle.Yaml

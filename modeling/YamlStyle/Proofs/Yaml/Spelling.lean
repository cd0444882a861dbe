import YamlStyle.Proofs.Number.Numeral
import YamlStyle.Proofs.Text.Unbroken
import YamlStyle.Proofs.Yaml.Ensures
import YamlStyle.Proofs.Yaml.Reading
import YamlStyle.Yaml.Scalar

/-!
# How tokens are written

What is read as a directive stands in the text between its two marks: a version with its two numbers,
a tag with whatever belongs to it, or the name of a directive that means nothing. The name of an anchor or
of an alias stands on one line. A plain scalar may fold lines into its value, but a line feed of it has a
word after it.
-/

namespace YamlStyle.Yaml

open Text (isDigit)

/-! ## Passing over a text -/

namespace Cursor

/-- From `c` on to `c'`, over `taken`. -/
structure Passes (c : Cursor) (taken : Text) (c' : Cursor) : Prop where
  rest : c.rest = taken ++ c'.rest
  offset : c'.mark.offset = c.mark.offset + taken.length

variable {c c' c'' : Cursor} {taken more : Text}

theorem Passes.refl (c : Cursor) : c.Passes [] c := ⟨rfl, rfl⟩

theorem Passes.trans (h : c.Passes taken c') (h' : c'.Passes more c'') : c.Passes (taken ++ more) c'' where
  rest := by rw [h.rest, h'.rest, List.append_assoc]
  offset := by rw [h'.offset, h.offset, List.length_append, Nat.add_assoc]

theorem offset_advanceMark (m : Mark) (ch : Char) (following : Option Char) :
    (advanceMark m ch following).offset = m.offset + 1 := by
  unfold advanceMark
  split
  · rfl
  · split <;> rfl

theorem passes_next {ch : Char} (h : c.peek = some ch) : c.Passes [ch] c.next := by
  obtain ⟨_ | ⟨d, r⟩, m⟩ := c
  · cases h
  · cases h
    exact ⟨rfl, offset_advanceMark _ _ _⟩

theorem passes_skip (n : Nat) (c : Cursor) : c.Passes (c.rest.take n) (c.skip n) := by
  induction n generalizing c with
  | zero => exact .refl c
  | succ n ih =>
    cases hrest : c.rest with
    | nil =>
      have hnext : c.next = c := by
        obtain ⟨r, m⟩ := c
        cases hrest
        rfl
      have hskip := ih c
      rw [hrest] at hskip
      rw [skip, hnext]
      simpa using hskip
    | cons ch r =>
      have hnext : c.Passes [ch] c.next := passes_next (by rw [peek, hrest]; rfl)
      have hr : c.next.rest = r := by rw [rest_next, hrest, List.drop_one, List.tail_cons]
      have hskip := hnext.trans (ih c.next)
      rwa [hr] at hskip

theorem Reaches.passes {p : Char → Prop} {k : Nat} (h : c.Reaches p k c') : ∃ taken, c.Passes taken c' := by
  obtain ⟨n, -, rfl, -⟩ := h
  exact ⟨_, passes_skip n c⟩

end Cursor

namespace Lex

variable {α β : Type} {c : Cursor} {Q : α → Cursor → Prop}

theorem ensures_mark {Q : Mark → Cursor → Prop} : Ensures mark c Q ↔ Q c.mark c := by
  simp [mark]

theorem ensures_peek {Q : Option Char → Cursor → Prop} : Ensures peek c Q ↔ Q c.peek c := by
  simp [peek]

theorem ensures_fail_bind (context : Context) (start : Mark) (cause : Cause) (f : α → Lex β)
    {Q : β → Cursor → Prop} : Ensures (fail context start cause >>= f) c Q := by
  intro b c' h
  cases h

theorem ensures_span (p : Char → Bool) :
    Ensures (span p) c fun taken c' => c.Passes taken c' ∧ ∀ ch ∈ taken, p ch = true := by
  intro taken c' h
  cases h
  refine ⟨?_, fun ch hch => List.all_eq_true.1 List.all_takeWhile ch hch⟩
  have h := Cursor.passes_skip (c.rest.takeWhile p).length c
  rwa [take_length_takeWhile] at h

theorem ensures_advance {ch : Char} (h : c.peek = some ch) : Ensures (advance 1) c fun _ c' => c.Passes [ch] c' :=
  (ensures_modify _).2 (Cursor.passes_next h)

theorem ReadsOn.ensures_passes {x : Lex α} (h : ReadsOn x) : Ensures x c fun _ c' => ∃ taken, c.Passes taken c' :=
  fun a c' hr => (h c a c' hr).passes

/-! ## Versions -/

/-- Digits that write a number. -/
def IsNumber (digits : Text) : Prop :=
  digits ≠ [] ∧ (∀ d ∈ digits, isDigit d = true) ∧ digits.length ≤ Numeral.mostDigits

theorem ensures_versionNumber (start : Mark) :
    Ensures (versionNumber start) c fun _ c' => ∃ digits, c.Passes digits c' ∧ IsNumber digits := by
  refine ensures_bind.2 ((ensures_span isDigit).imp fun digits c' ⟨hpasses, hdigits⟩ => ?_)
  refine ensures_ite.2 ⟨fun _ => ?_, fun hne => ?_⟩
  · exact ensures_bind.2 (ensures_peek.2 (ensures_fail_bind _ _ _ _))
  · have hne : digits ≠ [] := by simpa using hne
    rw [Numeral.ofText_digits hdigits hne]
    by_cases hlong : Numeral.mostDigits < digits.length
    · rw [if_pos hlong]
      exact ensures_throw _
    · rw [if_neg hlong]
      exact (ensures_pure _).2 ⟨digits, hpasses, hne, hdigits, Nat.le_of_not_lt hlong⟩

/-- Spaces and the two numbers of a version. -/
def IsVersion (written : Text) : Prop :=
  ∃ spaces major minor, (∀ ch ∈ spaces, ch = ' ') ∧ IsNumber major ∧ IsNumber minor ∧
    written = spaces ++ (major ++ '.' :: minor)

theorem ensures_versionValue (start : Mark) :
    Ensures (versionValue start) c fun _ c' => ∃ written, c.Passes written c' ∧ IsVersion written := by
  refine ensures_bind.2 ((ensures_span _).imp fun spaces c₁ ⟨hspaces, hblank⟩ => ?_)
  refine ensures_bind.2 ((ensures_versionNumber start).imp fun _ c₂ ⟨major, hmajor, hfirst⟩ => ?_)
  refine ensures_bind.2 (ensures_peek.2 (ensures_ite.2 ⟨fun _ => ?_, fun hdot => ?_⟩))
  · exact ensures_bind.2 (ensures_peek.2 (ensures_fail_bind _ _ _ _))
  · have hdot : c₂.peek = some '.' := by simpa using hdot
    refine ensures_bind.2 ((ensures_advance hdot).imp fun _ c₃ hpoint => ?_)
    refine ensures_bind.2 ((ensures_versionNumber start).imp fun _ c₄ ⟨minor, hminor, hsecond⟩ => ?_)
    refine ensures_bind.2 (ensures_peek.2 (ensures_ite.2 ⟨fun _ => ?_, fun _ => ?_⟩))
    · exact ensures_bind.2 (ensures_peek.2 (ensures_fail_bind _ _ _ _))
    · have hpasses := hspaces.trans (hmajor.trans (hpoint.trans hminor))
      refine (ensures_pure _).2 ⟨_, hpasses, spaces, major, minor, ?_, hfirst, hsecond, rfl⟩
      exact fun ch hch => eq_of_beq (hblank ch hch)

/-! ## Directives -/

/-- The characters of a directive between its marks. -/
inductive IsDirective : Text → Prop
  | version {written : Text} (h : IsVersion written) : IsDirective ("%YAML".toList ++ written)
  | tag (written : Text) : IsDirective ("%TAG".toList ++ written)
  | reserved {name : Text} (h : ∀ ch ∈ name, (isWordChar ch || ch == ':' || ch == '.') = true) :
      IsDirective ('%' :: name)

theorem ensures_directive (version : Version) (hc : c.peek = some '%') :
    Ensures (directive version) c fun read _ => ∃ written, IsDirective written ∧ written <+: c.rest ∧
      read.2.offset = c.mark.offset + written.length := by
  have hend : ∀ {read : Directive × Mark} {c' : Cursor} {written : Text} (start : Mark), c.Passes written c' →
      read.2 = c'.mark → IsDirective written → ∀ d, Ensures (do restOfLine .directive start; return read) d
        fun read _ => ∃ written, IsDirective written ∧ written <+: c.rest ∧
          read.2.offset = c.mark.offset + written.length := by
    intro read c' written start hpasses hstop hdirective d
    refine ensures_bind.2 fun _ _ _ => (ensures_pure _).2 ⟨written, hdirective, ?_, ?_⟩
    · rw [hpasses.rest]
      exact List.prefix_append _ _
    · rw [hstop]
      exact hpasses.offset
  refine ensures_bind.2 (ensures_mark.2 (ensures_bind.2 ((ensures_advance hc).imp fun _ c₁ hpercent => ?_)))
  refine ensures_bind.2 ((ensures_span _).imp fun name c₂ ⟨hname, hchars⟩ => ?_)
  have hhead := hpercent.trans hname
  refine ensures_bind.2 (ensures_peek.2 (ensures_ite.2 ⟨fun _ => ?_, fun _ => ?_⟩))
  · exact ensures_bind.2 (ensures_peek.2 (ensures_fail_bind _ _ _ _))
  · dsimp only
    refine ensures_ite.2 ⟨fun hyaml => ?_, fun _ => ensures_ite.2 ⟨fun htag => ?_, fun _ => ?_⟩⟩
    · obtain rfl := eq_of_beq hyaml
      refine ensures_bind.2 ((ensures_versionValue _).imp fun v c₃ ⟨written, hvalue, hversion⟩ => ?_)
      refine ensures_bind.2 (ensures_mark.2 (ensures_bind.2 ((ensures_pure _).2 ?_)))
      exact hend _ (hhead.trans hvalue) rfl (.version hversion) _
    · obtain rfl := eq_of_beq htag
      refine ensures_bind.2 ((readsOn_tagValue _ _).ensures_passes.imp fun _ c₃ ⟨written, hvalue⟩ => ?_)
      refine ensures_bind.2 (ensures_mark.2 (ensures_bind.2 ((ensures_pure _).2 ?_)))
      exact hend _ (hhead.trans hvalue) rfl (.tag written) _
    · refine ensures_bind.2 (ensures_mark.2 (ensures_bind.2 fun _ d _ => ?_))
      exact ensures_bind.2 ((ensures_pure _).2 (hend _ hhead rfl (.reserved hchars) d))

end Lex

/-! ## Line feeds -/

/-- No line feed is in a name, and none ends the value of a plain scalar. -/
def TokenKind.IsLegible : TokenKind → Prop
  | .anchor name | .alias name => Unbroken name
  | .scalar read .plain => read.toList.getLast? ≠ some '\n'
  | _ => True

namespace Lex

variable {c : Cursor} {place : PlainPlace}

theorem unbroken_anchorName (context : Context) : Ensures (anchorName context) c fun name _ => Unbroken name := by
  have hchar : isAnchorChar '\n' = false := by decide
  simp only [anchorName, ensures_bind, ensures_mark]
  intro _ _ _
  refine (ensures_span _).imp fun name _ hname => ?_
  simp only [ensures_peek, ensures_ite, ensures_fail_bind, ensures_pure, Unbroken.ofList_iff, implies_true, true_and]
  intro _ hmem
  rw [hname.2 '\n' hmem] at hchar
  cases hchar

theorem not_mem_plainWord (place : PlainPlace) (r : Text) : '\n' ∉ plainWord place r := by
  induction r with
  | nil => exact List.not_mem_nil
  | cons c r ih =>
    rw [plainWord]
    split
    · next hc =>
      refine List.not_mem_cons_of_ne_of_not_mem (fun h => ?_) ih
      rw [← h] at hc
      simp [continuesPlain, endsWord, isBreak, isLineEnd] at hc
    · exact List.not_mem_nil

theorem getLast?_plainRest (fuel : Nat) {gap : Text} {read : PlainRead} (h : read.text.getLast? ≠ some '\n') :
    Ensures (plainRest place fuel gap read) c fun read' _ => read'.text.getLast? ≠ some '\n' := by
  induction fuel generalizing c gap read with
  | zero =>
    rw [plainRest, ensures_pure]
    exact h
  | succ fuel ih =>
    simp only [plainRest, ensures_bind, ensures_get, ensures_ite, ensures_pure, ensures_mark]
    refine ⟨fun _ => h, fun hgoes => ?_⟩
    have hword : plainWord place c.rest ≠ [] := by
      intro hnil
      simp [hnil] at hgoes
    -- A gap becomes part of the value with the word after it, which ends with no line feed.
    have hlast : (read.text ++ gap ++ plainWord place c.rest).getLast? ≠ some '\n' := by
      rw [List.getLast?_append_of_ne_nil _ hword]
      exact fun hlast => not_mem_plainWord place c.rest (List.mem_of_getLast? hlast)
    intro _ _ _ found _ _
    obtain ⟨spaces, afterBreak⟩ := found
    cases spaces with
    | none => exact (ensures_pure _).2 hlast
    | some spaces =>
      simp only [ensures_bind, ensures_get, ensures_ite, ensures_pure]
      exact ⟨fun _ => hlast, fun _ => ih hlast⟩

theorem getLast?_plainScalar :
    Ensures (plainScalar place) c fun read _ => read.text.getLast? ≠ some '\n' := by
  simp only [plainScalar, ensures_bind, ensures_get, ensures_mark]
  exact getLast?_plainRest _ (by simp)

end Lex

end YamlStyle.Yaml

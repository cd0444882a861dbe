import YamlStyle.Proofs.Yaml.Failing
import YamlStyle.Yaml.Scalar

/-!
# Readers that fail with faults

Readers of plain and block scalars, of names and of handles stop at faults only, whatever the text.
-/

namespace YamlStyle.Yaml.Lex

variable {α : Type}

theorem faults_mark : Faults mark := faults_get.bind fun _ => faults_pure _

theorem faults_peek : Faults peek := faults_get.bind fun _ => faults_pure _

theorem faults_advance (n : Nat) : Faults (advance n) := faults_modify _

theorem faults_span (p : Char → Bool) : Faults (span p) := faults_modifyGet _

theorem faults_lineBreak : Faults lineBreak := faults_modifyGet _

theorem faults_fail (context : Context) (start : Mark) (cause : Cause) (h : cause.IsOfForm) :
    Faults (fail context start cause : Lex α) :=
  faults_mark.bind fun _ => faults_throw _ h

/-! ## Inside quotes -/

theorem faults_quotedBreaks (start : Mark) (fuel : Nat) (read : Text) : Faults (quotedBreaks start fuel read) := by
  induction fuel generalizing read with
  | zero => exact faults_pure _
  | succ fuel ih =>
    refine faults_get.bind fun c => faults_check (faults_fail _ _ _ trivial) fun _ => ?_
    refine (faults_span _).bind fun _ => faults_lineBreak.bind fun found => ?_
    split
    · exact ih _
    · exact faults_pure _

theorem faults_quotedSpaces (start : Mark) : Faults (quotedSpaces start) := by
  refine (faults_span _).bind fun blanks => faults_peek.bind fun c => faults_check (faults_fail _ _ _ trivial) fun _ => ?_
  refine faults_lineBreak.bind fun found => ?_
  split
  · exact faults_get.bind fun _ => (faults_quotedBreaks _ _ _).bind fun _ => faults_pure _
  · exact faults_pure _

/-! ## Plain scalars -/

theorem faults_plainBreaks (fuel : Nat) (read : Text) : Faults (plainBreaks fuel read) := by
  induction fuel generalizing read with
  | zero => exact faults_pure _
  | succ fuel ih =>
    refine (faults_span _).bind fun _ => faults_lineBreak.bind fun found => ?_
    split
    · exact faults_get.bind fun c => faults_ite (faults_pure _) (ih _)
    · exact faults_pure _

theorem faults_plainSpaces : Faults plainSpaces := by
  refine (faults_span _).bind fun _ => faults_lineBreak.bind fun found => ?_
  split
  · refine faults_get.bind fun c => faults_ite (faults_pure _) ?_
    exact faults_get.bind fun _ => (faults_plainBreaks _ _).bind fun _ => faults_pure _
  · exact faults_pure _

theorem faults_plainRest (place : PlainPlace) (fuel : Nat) (gap : Text) (read : PlainRead) :
    Faults (plainRest place fuel gap read) := by
  induction fuel generalizing gap read with
  | zero => exact faults_pure _
  | succ fuel ih =>
    refine faults_get.bind fun c => faults_ite (faults_pure _) ?_
    refine (faults_advance _).bind fun _ => faults_mark.bind fun stop => faults_plainSpaces.bind fun found => ?_
    obtain ⟨spaces, afterBreak⟩ := found
    cases spaces with
    | none => exact faults_pure _
    | some spaces => exact faults_get.bind fun c => faults_ite (faults_pure _) (ih _ _)

theorem faults_plainScalar (place : PlainPlace) : Faults (plainScalar place) :=
  faults_get.bind fun _ => faults_mark.bind fun _ => faults_plainRest _ _ _ _

/-! ## Block scalars -/

theorem faults_chomping : Faults chomping := by
  refine faults_peek.bind fun c => ?_
  split
  · exact (faults_advance 1).bind fun _ => faults_pure _
  · exact (faults_advance 1).bind fun _ => faults_pure _
  · exact faults_pure _

theorem faults_indentationIndicator (start : Mark) : Faults (indentationIndicator start) := by
  refine faults_peek.bind fun c => ?_
  split
  · exact faults_ite (faults_check (faults_fail _ _ _ trivial) fun _ => (faults_advance 1).bind fun _ => faults_pure _)
      (faults_pure _)
  · exact faults_pure _

/-- A check of the next character before a reader is done. -/
theorem faults_peek_check {p : Option Char → Bool} {context : Context} {start : Mark} {cause : Option Char → Cause}
    {next : Lex α} (h : Faults next) (hcause : ∀ c, (cause c).IsOfForm) : Faults (do
      if !p (← peek) then fail context start (cause (← peek))
      next) :=
  faults_peek.bind fun _ => faults_ite (faults_peek.bind fun _ => (faults_fail _ _ _ (hcause _)).bind fun _ => h) h

theorem faults_blockIndicators (start : Mark) : Faults (blockIndicators start) := by
  refine faults_chomping.bind fun chomp => ?_
  split
  · refine (faults_indentationIndicator start).bind fun indent => faults_ite ?_ ?_
    · exact faults_chomping.bind fun _ => (faults_pure _).bind fun _ => faults_peek_check (faults_pure _) fun _ => trivial
    · exact (faults_pure _).bind fun _ => (faults_pure _).bind fun _ => faults_peek_check (faults_pure _) fun _ => trivial
  · exact (faults_indentationIndicator start).bind fun _ => (faults_pure _).bind fun _ =>
      faults_peek_check (faults_pure _) fun _ => trivial

theorem faults_restOfLine (context : Context) (start : Mark) : Faults (restOfLine context start) := by
  have hend : Faults (do
      if !endsLine (← peek) then fail context start (.expectedCommentOrBreak (← peek))
      let _ ← lineBreak) := faults_peek_check (faults_lineBreak.bind fun _ => faults_pure _) fun _ => trivial
  refine (faults_span _).bind fun _ => faults_peek.bind fun c => ?_
  exact faults_ite ((faults_span _).bind fun _ => hend) hend

theorem faults_leadingLines (fuel : Nat) (seen : LeadingLines) : Faults (leadingLines fuel seen) := by
  induction fuel generalizing seen with
  | zero => exact faults_pure _
  | succ fuel ih =>
    refine faults_get.bind fun c => faults_ite ?_ ?_
    · exact (faults_advance 1).bind fun _ => faults_mark.bind fun _ => ih _
    · refine faults_lineBreak.bind fun found => ?_
      split
      · exact faults_mark.bind fun _ => ih _
      · exact faults_pure _

theorem faults_skipToColumn (column : Nat) : Faults (skipToColumn column) :=
  faults_get.bind fun _ => faults_advance _

theorem faults_blockBreaks (indent fuel : Nat) (read : Text) (stop : Mark) :
    Faults (blockBreaks indent fuel read stop) := by
  induction fuel generalizing read stop with
  | zero => exact faults_pure _
  | succ fuel ih =>
    refine faults_lineBreak.bind fun found => ?_
    split
    · exact faults_mark.bind fun _ => (faults_skipToColumn _).bind fun _ => ih _ _
    · exact faults_pure _

theorem faults_blockLines (isFolded atTop : Bool) (indent fuel : Nat) (read : BlockRead) :
    Faults (blockLines isFolded atTop indent fuel read) := by
  induction fuel generalizing read with
  | zero => exact faults_pure _
  | succ fuel ih =>
    refine faults_get.bind fun c => faults_ite (faults_pure _) ?_
    refine (faults_span _).bind fun line => faults_lineBreak.bind fun lastBreak => faults_mark.bind fun _ => ?_
    refine (faults_skipToColumn _).bind fun _ => faults_get.bind fun _ => (faults_blockBreaks _ _ _ _).bind fun _ => ?_
    exact faults_get.bind fun c' => faults_ite (faults_pure _) (ih _)

theorem faults_blockScalar (isFolded : Bool) (parent : Int) : Faults (blockScalar isFolded parent) := by
  have hlines : ∀ {β : Type} {atTop : Bool} {indent : Nat} {first : BlockRead} {f : BlockRead → β}, Faults (do
      let read ← blockLines isFolded atTop indent ((← get).rest.length + 1) first
      return f read) := faults_get.bind fun _ => (faults_blockLines _ _ _ _ _).bind fun _ => faults_pure _
  refine faults_mark.bind fun start => (faults_advance 1).bind fun _ => ?_
  refine (faults_blockIndicators _).bind fun found => (faults_restOfLine _ _).bind fun _ => ?_
  dsimp only
  split
  · refine faults_get.bind fun _ => faults_mark.bind fun _ => (faults_leadingLines _ _).bind fun seen => ?_
    split
    · refine faults_ite (faults_mark.bind fun _ => (faults_throw _ (by trivial)).bind fun _ => ?_) ?_
      · exact (faults_pure _).bind fun _ => hlines
      · exact (faults_pure _).bind fun _ => hlines
    · exact (faults_pure _).bind fun _ => hlines
  · refine faults_mark.bind fun _ => (faults_skipToColumn _).bind fun _ => faults_get.bind fun _ => ?_
    exact (faults_blockBreaks _ _ _ _).bind fun _ => (faults_pure _).bind fun _ => hlines

/-! ## Names and handles -/

theorem faults_anchorName (context : Context) : Faults (anchorName context) :=
  faults_mark.bind fun _ => (faults_advance 1).bind fun _ => (faults_span _).bind fun _ => faults_peek.bind fun _ =>
    faults_ite ((faults_fail _ _ _ (by trivial)).bind fun _ => faults_pure _) (faults_pure _)

theorem faults_handle (context : Context) (start : Mark) : Faults (handle context start) := by
  refine faults_get.bind fun c => faults_check (faults_fail _ _ _ trivial) fun _ => faults_ite ?_ ?_
  · exact (faults_advance 1).bind fun _ => faults_pure _
  · refine faults_ite ?_ ((faults_advance _).bind fun _ => faults_pure _)
    exact (faults_advance _).bind fun _ => (faults_fail _ _ _ (by trivial)).bind fun _ => (faults_advance _).bind fun _ =>
      faults_pure _

end YamlStyle.Yaml.Lex

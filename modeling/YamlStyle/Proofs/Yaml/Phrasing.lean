import YamlStyle.Proofs.Text.Unbroken
import YamlStyle.Yaml.Fault

/-!
# What errors of a text say

Reading the form of a text stops with other causes than building values from its nodes. All of them say
what is wrong in one line, and only an error without a cause takes more than one to tell
(`Failure.IsOfForm.unbroken_iff`).
-/

namespace YamlStyle.Yaml

@[simp] theorem TokenKind.unbroken_label (k : TokenKind) : Unbroken k.label := by
  cases k <;> exact .literal rfl

@[simp] theorem NodeSort.unbroken_label (s : NodeSort) : Unbroken s.label := by
  cases s <;> exact .literal rfl

/-- A cause that the form of a text can have, whatever its nodes stand for. -/
def Cause.IsOfForm : Cause → Prop
  | undecodableUri reason => Unbroken reason
  | secondKey .. | notTimestamp _ | binaryNotAscii _ | binaryNotBase64 _ => False
  | _ => True

theorem Cause.IsOfForm.unbroken {c : Cause} (h : c.IsOfForm) : Unbroken c.phrase := by
  unfold phrase
  cases c with
  | undecodableUri reason => exact h
  | secondKey | notTimestamp | binaryNotAscii | binaryNotBase64 => exact h.elim
  | _ =>
    simp
    and_intros <;> exact .literal rfl

/-- A fault of the form of a text. It lacks a cause only where a line of a block scalar comes too late. -/
def Fault.IsOfForm (f : Fault) : Prop :=
  match f.cause with
  | some c => c.IsOfForm
  | none => f.context = some .deeperFollowUp ∧ f.contextMark.isSome

/-- An error of the form of a text, or a character that may not occur in it. -/
def Failure.IsOfForm : Failure → Prop
  | unprintable .. => True
  | fault f => f.IsOfForm
  | _ => False

/-! ## Summaries -/

/-- A failure with no other summary than its whole report. -/
def Failure.HasReportOnly : Failure → Prop
  | unprintable .. => True
  | fault f => f.cause = none
  | _ => False

theorem not_unbroken_describeMark (source : Text) (m : Mark) : ¬Unbroken (describeMark source m) := by
  have hbreak : ¬Unbroken ":\n" := by decide
  have hplace : ¬Unbroken s!"  in \"<unicode string>\", line {m.line + 1}, column {m.column + 1}:\n" := by simp [hbreak]
  exact fun h => hplace (Unbroken.append_iff.1 h).1

/-- Without a cause the place of the context is shown. -/
theorem Fault.not_unbroken_describe {f : Fault} (hmark : f.contextMark.isSome) (hcause : f.cause = none)
    (source : Text) : ¬Unbroken (f.describe source) := by
  obtain ⟨m, hm⟩ := Option.isSome_iff_exists.1 hmark
  intro h
  refine not_unbroken_describeMark source m (Unbroken.of_intercalate h _ ?_)
  simp [hcause, hm]

/-- A report has more than one line, so the summary of an error is of one line just where it is its cause. -/
theorem Failure.IsOfForm.unbroken_iff {f : Failure} (h : f.IsOfForm) {source : Text} {summary : String}
    (hsummary : f.summary? source = some summary) : Unbroken summary ↔ ¬f.HasReportOnly := by
  cases f with
  | unprintable c offset =>
    cases hsummary
    have hbreak : ¬Unbroken ": special characters are not allowed\n" := by decide
    refine iff_of_false ?_ (not_not_intro trivial)
    simp [hbreak]
  | fault f =>
    obtain ⟨context, contextMark, _ | cause, mark⟩ := f
    · cases hsummary
      exact iff_of_false (Fault.not_unbroken_describe h.2 rfl source) (not_not_intro rfl)
    · cases hsummary
      exact iff_of_true (Cause.IsOfForm.unbroken h) (Option.some_ne_none cause)
  | _ => exact h.elim

end YamlStyle.Yaml

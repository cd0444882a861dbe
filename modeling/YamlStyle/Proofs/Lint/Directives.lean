import Mathlib
import YamlStyle.Lint.Directive
import YamlStyle.Stream

/-!
# What directives say about one rule

The rules that are off are kept as a list. What a comment does to one rule of the run does not
depend on the others: it is said here rule by rule.
-/

namespace YamlStyle

namespace Directive

/-- Whether named rules, none for all, cover a rule. -/
def covers (named : List String) (rule : String) : Bool := named.isEmpty || named.contains rule

/-- Whether a rule is off after a comment, given whether it was before. -/
def isOffAfter (rule : String) (off : Bool) (comment : Text) : Bool :=
  match ofComment? comment with
  | some (.disable named) => off || covers named rule
  | some (.enable named) => off && !covers named rule
  | _ => off

/-- Whether a comment turns a rule off on one line. -/
def turnsOffOnLine (rule : String) (comment : Text) : Bool :=
  match ofComment? comment with
  | some (.disableLine named) => covers named rule
  | _ => false

end Directive

namespace DisabledRules

variable {all : List String} {rule : String}

theorem contains_foldl_turnOff (h : rule ∈ all) (off : DisabledRules) (named : List String) :
    (named.foldl (fun off r => if all.contains r && !off.contains r then off ++ [r] else off) off).contains rule =
      (off.contains rule || named.contains rule) := by
  induction named generalizing off with
  | nil => simp
  | cons r named ih =>
    rw [List.foldl_cons, ih, List.contains_cons, ← Bool.or_assoc]
    congr 1
    split
    · rw [List.contains_append, List.contains_cons, List.contains_nil, Bool.or_false]
    · next hskip =>
      -- A rule that is skipped is off already or no rule of the run.
      cases hr : rule == r with
      | false => simp
      | true =>
        rw [← eq_of_beq hr] at hskip
        simp only [List.contains_iff_mem.2 h, Bool.true_and, Bool.not_eq_true', Bool.not_eq_false] at hskip
        rw [hskip, Bool.or_true]

theorem contains_turnOff (h : rule ∈ all) (off : DisabledRules) (named : List String) :
    (off.turnOff all named).contains rule = (off.contains rule || Directive.covers named rule) := by
  rw [turnOff, Directive.covers]
  split
  · next he => simp [he, h]
  · next he => rw [contains_foldl_turnOff h, Bool.eq_false_iff.2 he, Bool.false_or]

theorem contains_turnOn (off : DisabledRules) (named : List String) :
    (off.turnOn named).contains rule = (off.contains rule && !Directive.covers named rule) := by
  rw [turnOn, Directive.covers]
  split
  · next he => simp [he]
  · next he =>
    rw [Bool.eq_false_iff.2 he, Bool.false_or, Bool.eq_iff_iff]
    simp

theorem contains_after (h : rule ∈ all) (off : DisabledRules) (comment : Text) :
    (off.after all comment).contains rule = Directive.isOffAfter rule (off.contains rule) comment := by
  unfold after Directive.isOffAfter
  rcases Directive.ofComment? comment with _ | named | named | named
  · rfl
  · exact contains_turnOff h off named
  · exact contains_turnOn off named
  · rfl

theorem contains_afterOnLine (h : rule ∈ all) (off : DisabledRules) (comment : Text) :
    (off.afterOnLine all comment).contains rule =
      (off.contains rule || Directive.turnsOffOnLine rule comment) := by
  unfold afterOnLine Directive.turnsOffOnLine
  rcases Directive.ofComment? comment with _ | named | named | named
  · exact (Bool.or_false _).symm
  · exact (Bool.or_false _).symm
  · exact (Bool.or_false _).symm
  · exact contains_turnOff h off named

/-! ### Rules of the run -/

theorem mem_of_mem_foldl_turnOff {off : DisabledRules} {named : List String}
    (h : rule ∈ named.foldl (fun off r => if all.contains r && !off.contains r then off ++ [r] else off) off) :
    rule ∈ all ∨ rule ∈ off := by
  induction named generalizing off with
  | nil => exact .inr h
  | cons r named ih =>
    rcases ih h with hall | hoff
    · exact .inl hall
    · dsimp only at hoff
      split at hoff
      · next hr =>
        rcases List.mem_append.1 hoff with hoff | hoff
        · exact .inr hoff
        · rw [List.mem_singleton.1 hoff]
          exact .inl (List.contains_iff_mem.1 (Bool.and_eq_true_iff.1 hr).1)
      · exact .inr hoff

theorem mem_of_mem_turnOff {off : DisabledRules} {named : List String} (h : rule ∈ off.turnOff all named) :
    rule ∈ all ∨ rule ∈ off := by
  rw [turnOff] at h
  split at h
  · exact .inl (List.mem_eraseDups.1 h)
  · exact mem_of_mem_foldl_turnOff h

theorem mem_of_mem_turnOn {off : DisabledRules} {named : List String} (h : rule ∈ off.turnOn named) : rule ∈ off := by
  rw [turnOn] at h
  split at h
  · cases h
  · exact List.mem_of_mem_filter h

/-- A comment turns off rules of the run only. -/
theorem mem_of_mem_after {off : DisabledRules} {comment : Text} (h : rule ∈ off.after all comment) :
    rule ∈ all ∨ rule ∈ off := by
  unfold after at h
  split at h
  · exact mem_of_mem_turnOff h
  · exact .inr (mem_of_mem_turnOn h)
  · exact .inr h

theorem mem_of_mem_foldl_after {comments : List Text} (h : rule ∈ comments.foldl (after all) []) : rule ∈ all := by
  induction comments using List.reverseRecOn with
  | nil => cases h
  | append_singleton comments comment ih =>
    rw [List.foldl_append] at h
    exact (mem_of_mem_after h).elim id ih

end DisabledRules

/-! ## The directives of a text -/

namespace Comment

/-- The line that a directive for one line is about: its own, or the next if it stands alone. -/
def subject (t : Text) (c : Comment) : Nat := if c.isInline t then c.line else c.line + 1

theorem le_subject (t : Text) (c : Comment) : c.line ≤ c.subject t := by
  unfold subject
  split <;> omega

theorem subject_le (t : Text) (c : Comment) : c.subject t ≤ c.line + 1 := by
  unfold subject
  split <;> omega

end Comment

namespace Lint

/-- Whether a rule is off after the comments up to a line. -/
def isOff (t : Text) (cs : List Comment) (n : Nat) (rule : String) : Bool :=
  (cs.filter fun c => c.line ≤ n).foldl (fun off c => Directive.isOffAfter rule off (c.text t)) false

/-- Whether a comment that is about a line turns a rule off there. -/
def isOffOnLine (t : Text) (cs : List Comment) (n : Nat) (rule : String) : Bool :=
  cs.any fun c => c.subject t == n && Directive.turnsOffOnLine rule (c.text t)

/-- Whether directives take away a problem with an element on a line. -/
def isSilenced (t : Text) (cs : List Comment) (n : Nat) (p : Problem) : Bool :=
  p.rule.any fun rule => isOffOnLine t cs n rule || isOff t cs n rule

variable {t : Text} {cs later : List Comment} {n m : Nat} {rule : String}

theorem isOff_append_of_lt (h : ∀ c ∈ later, n < c.line) : isOff t (cs ++ later) n rule = isOff t cs n rule := by
  have hnil : (later.filter fun c => c.line ≤ n) = [] := by
    rw [List.filter_eq_nil_iff]
    intro c hc
    simpa using h c hc
  rw [isOff, List.filter_append, hnil, List.append_nil, isOff]

theorem isOff_of_le (h : ∀ c ∈ cs, c.line ≤ n) (hm : n ≤ m) : isOff t cs m rule = isOff t cs n rule := by
  have hall : ∀ k, n ≤ k → (cs.filter fun c => c.line ≤ k) = cs := by
    intro k hk
    rw [List.filter_eq_self]
    intro c hc
    simpa using Nat.le_trans (h c hc) hk
  rw [isOff, isOff, hall m hm, hall n (Nat.le_refl n)]

theorem isOff_append_singleton {c : Comment} (h : c.line ≤ n) :
    isOff t (cs ++ [c]) n rule = Directive.isOffAfter rule (isOff t cs n rule) (c.text t) := by
  simp [isOff, List.filter_append, h]

theorem isOffOnLine_append_of_lt (h : ∀ c ∈ later, n < c.line) :
    isOffOnLine t (cs ++ later) n rule = isOffOnLine t cs n rule := by
  have hnone : (later.any fun c => c.subject t == n && Directive.turnsOffOnLine rule (c.text t)) = false := by
    rw [List.any_eq_false]
    intro c hc
    have hlt := h c hc
    have hne : c.subject t ≠ n := fun he => by have := c.le_subject t; omega
    simp [hne]
  rw [isOffOnLine, List.any_append, hnone, Bool.or_false, isOffOnLine]

theorem isOffOnLine_of_le (h : ∀ c ∈ cs, c.line ≤ n) (hm : n + 1 < m) : isOffOnLine t cs m rule = false := by
  rw [isOffOnLine, List.any_eq_false]
  intro c hc
  have hle := h c hc
  have hne : c.subject t ≠ m := fun he => by have := c.subject_le t; omega
  simp [hne]

theorem isOffOnLine_append_singleton {c : Comment} :
    isOffOnLine t (cs ++ [c]) n rule =
      (isOffOnLine t cs n rule || c.subject t == n && Directive.turnsOffOnLine rule (c.text t)) := by
  simp [isOffOnLine]

/-- Comments on later lines say nothing about a problem. -/
theorem isSilenced_append_of_lt (h : ∀ c ∈ later, n < c.line) (p : Problem) :
    isSilenced t (cs ++ later) n p = isSilenced t cs n p := by
  unfold isSilenced
  congr 1
  funext rule
  rw [isOff_append_of_lt h, isOffOnLine_append_of_lt h]

end Lint

end YamlStyle

import YamlStyle.Proofs.Yaml.Ensures
import YamlStyle.Yaml.TokenStream

/-!
# What the steps of a scan ensure

The state that each small step of the reader of tokens leaves behind.
-/

namespace YamlStyle.Yaml.Scan

variable {s : TokenReader} {α : Type}

@[simp] theorem ensures_lex {Q : α → TokenReader → Prop} (read : Lex α) :
    Ensures (lex read) s Q ↔ Ensures read s.cursor fun a cursor => Q a { s with cursor } := by
  rw [lex, ensures_bind, ensures_get]
  constructor
  · intro h a c hr
    refine h a { s with cursor := c } ?_
    simp only [hr]
    rfl
  · intro h a s' hr
    cases hread : read.run s.cursor with
    | error e => simp only [hread] at hr; cases hr
    | ok r =>
      simp only [hread] at hr
      cases hr
      exact h r.1 r.2 hread

@[simp] theorem ensures_mark {Q : Mark → TokenReader → Prop} : Ensures Scan.mark s Q ↔ Q s.cursor.mark s := by
  simp only [Scan.mark, ensures_bind, ensures_get, ensures_pure]

@[simp] theorem ensures_peek {Q : Option Char → TokenReader → Prop} :
    Ensures Scan.peek s Q ↔ Q s.cursor.peek s := by
  simp only [Scan.peek, ensures_bind, ensures_get, ensures_pure]

@[simp] theorem ensures_inFlow {Q : Bool → TokenReader → Prop} : Ensures inFlow s Q ↔ Q (!s.flow.isEmpty) s := by
  simp only [inFlow, ensures_bind, ensures_get, ensures_pure]

variable {Q : Unit → TokenReader → Prop}

@[simp] theorem ensures_push (kind : TokenKind) (start stop : Mark) :
    Ensures (push kind start stop) s Q ↔ Q () { s with queue := s.queue ++ [⟨kind, start, stop⟩] } := by
  rw [push, ensures_modify]

@[simp] theorem ensures_pushHere (kind : TokenKind) :
    Ensures (pushHere kind) s Q ↔ Q () { s with queue := s.queue ++ [⟨kind, s.cursor.mark, s.cursor.mark⟩] } := by
  simp only [pushHere, ensures_bind, ensures_mark, ensures_push]

theorem ensures_advance {c : Cursor} {Q : Unit → Cursor → Prop} (n : Nat) :
    Ensures (Lex.advance n) c Q ↔ Q () (c.skip n) := by
  rw [Lex.advance, ensures_modify]

@[simp] theorem ensures_pushIndicator (kind : TokenKind) (width : Nat) :
    Ensures (pushIndicator kind width) s Q ↔
      Q () { s with cursor := s.cursor.skip width
                    queue := s.queue ++ [⟨kind, s.cursor.mark, (s.cursor.skip width).mark⟩] } := by
  simp only [pushIndicator, ensures_bind, ensures_mark, ensures_lex, ensures_advance, ensures_push]

@[simp] theorem ensures_allowKey (allowed : Bool) :
    Ensures (allowKey allowed) s Q ↔ Q () { s with keyAllowed := allowed } := by
  rw [allowKey, ensures_modify]

@[simp] theorem ensures_keyFault (key : SimpleKey) : Ensures (keyFault key) s Q := by
  simp only [keyFault, ensures_bind, ensures_mark, ensures_throw]

/-! ## Possible keys -/

/-- Whether no colon can claim a possible key any more. -/
def isStale (here : Mark) (key : SimpleKey) : Bool :=
  key.mark.line != here.line || keyReach < here.offset - key.mark.offset

theorem ensures_dropStaleKeys :
    Ensures dropStaleKeys s Q ↔
      ((∀ x ∈ s.keys, isStale s.cursor.mark x.2 = true → x.2.required = false) →
        Q () { s with keys := s.keys.filter fun x => !isStale s.cursor.mark x.2 }) := by
  rw [dropStaleKeys, ensures_bind, ensures_get]
  dsimp only
  split
  · next d key hfind =>
    have hkey := List.find?_some hfind
    have hmem := List.mem_of_find?_eq_some hfind
    simp only [Bool.and_eq_true] at hkey
    refine iff_of_true (ensures_keyFault key) fun h => absurd (h _ hmem hkey.1) (by simp [hkey.2])
  · next hfind =>
    rw [ensures_set]
    refine ⟨fun h _ => h, fun h => h fun x hx hs => ?_⟩
    have hnone := List.find?_eq_none.1 hfind x hx
    have hs' : (x.2.mark.line != s.cursor.mark.line ||
        decide (keyReach < s.cursor.mark.offset - x.2.mark.offset)) = true := hs
    simpa [hs'] using hnone

theorem filter_of_lookup_eq_none {β : Type} {d : Nat} {xs : List (Nat × β)} (h : xs.lookup d = none) :
    xs.filter (·.1 != d) = xs := by
  rw [List.filter_eq_self]
  intro x hx
  have hne := List.lookup_eq_none_iff.1 h x hx
  rw [bne, Bool.beq_comm]
  simpa using hne

theorem ensures_dropKey :
    Ensures dropKey s Q ↔
      ((∀ key, s.keys.lookup s.flow.length = some key → key.required = false) →
        Q () { s with keys := s.keys.filter (·.1 != s.flow.length) }) := by
  rw [dropKey, ensures_bind, ensures_get]
  cases hl : s.keys.lookup s.flow.length with
  | none =>
    simp only [ensures_pure, filter_of_lookup_eq_none hl]
    exact ⟨fun h _ => h, fun h => h fun key hk => by simp at hk⟩
  | some key =>
    simp only [ensures_ite, ensures_bind, ensures_set, Option.some.injEq, forall_eq']
    refine ⟨fun h hr => h.2 (by simp [hr]), fun h => ⟨fun hr => ensures_keyFault key, fun hr => h (by simpa using hr)⟩⟩

theorem ensures_saveKey :
    Ensures saveKey s Q ↔
      (s.keyAllowed = true → (∀ key, s.keys.lookup s.flow.length = some key → key.required = false) →
        Q () { s with keys := s.keys.filter (·.1 != s.flow.length) ++
                [(s.flow.length, ⟨s.taken + s.queue.length,
                  s.flow.isEmpty && s.indent == s.cursor.mark.column, s.cursor.mark⟩)] }) ∧
      (s.keyAllowed = false → Q () s) := by
  simp only [saveKey, ensures_bind, ensures_get, ensures_ite, ensures_dropKey, ensures_modify, ensures_pure,
    Bool.not_eq_true]

/-! ## Blocks -/

theorem ensures_indentTo {Q : Bool → TokenReader → Prop} (column : Nat) :
    Ensures (indentTo column) s Q ↔
      (s.indent < column → Q true { s with indents := s.indent :: s.indents, indent := (column : Int) }) ∧
      (¬s.indent < column → Q false s) := by
  simp only [indentTo, ensures_bind, ensures_get, ensures_ite, ensures_set, ensures_pure]

theorem ensures_openBlock (kind : TokenKind) (cause : Cause) :
    Ensures (openBlock kind cause) s Q ↔
      (s.keyAllowed = true →
        (s.indent < s.cursor.mark.column →
          Q () { s with indents := s.indent :: s.indents
                        indent := (s.cursor.mark.column : Int)
                        queue := s.queue ++ [⟨kind, s.cursor.mark, s.cursor.mark⟩] }) ∧
        (¬s.indent < s.cursor.mark.column → Q () s)) := by
  simp only [openBlock, ensures_bind, ensures_get, ensures_ite, ensures_mark, ensures_throw, ensures_indentTo,
    ensures_pushHere, ensures_pure, Bool.not_eq_true', Bool.not_eq_false]
  by_cases hi : s.indent < s.cursor.mark.column <;> simp [hi]

theorem ensures_insertBefore (number : Nat) (kind : TokenKind) (m : Mark) :
    Ensures (insertBefore number kind m) s Q ↔
      Q () { s with queue := s.queue.take (number - s.taken) ++ [⟨kind, m, m⟩] ++ s.queue.drop (number - s.taken) } := by
  rw [insertBefore, ensures_modify]

end YamlStyle.Yaml.Scan

import YamlStyle.Proofs.Lexeme.Spelling
import YamlStyle.Proofs.Rule.Trips
import YamlStyle.Proofs.Yaml.PlainText
import YamlStyle.Rule.Quotes

/-!
# Which quotes are redundant

The rule tries a value out as the plain value of a mapping. Quotes that it reports stand around a plain text
(`isPlain_of_reported`).
-/

namespace YamlStyle

open Yaml (IsPlainIn LeadsPlain TokenStream isAllowed endsWord)
open Yaml.Lex (IsPlainText)

/-! ## Plain scalars among lexemes -/

/-- A plain lexeme has been read as a plain scalar of some part of the text. -/
theorem Lexeme.exists_token_of_plain {t : Text} {xs : List Lexeme} (h : (ofText t).outcome = .ok xs) {x : Lexeme}
    (hx : x ∈ xs) (hstyle : x.style = some .plain) {value : String} (hvalue : x.value = some value) :
    ∃ base, ∃ r ∈ (TokenStream.ofText (t.drop base)).tokens, r.token.kind = .scalar value .plain := by
  obtain ⟨root, hroot, rfl⟩ := outcome_ofText_eq_ok.1 h
  rcases List.mem_cons.1 hx with rfl | hx
  · cases hstyle
  rcases List.mem_append.1 hx with hx | hx
  · rcases OffSide.mem_run hx with ⟨p, hp, rfl⟩ | ⟨_, -, rfl⟩
    · have hp := Node.mem_of_mem_pieces hp
      rw [Tree.filterMap_piece?] at hp
      obtain ⟨u, hu, hp⟩ := List.mem_filterMap.1 hp
      obtain ⟨⟨base, token⟩ | _, hof, hunit⟩ := Tree.unit?_of_build hroot hu
      · obtain ⟨r, hr, rfl⟩ := hof
        refine ⟨base, r, hr, ?_⟩
        obtain ⟨⟨kind, start, stop⟩, version⟩ := r
        obtain ⟨node, hnode, rfl⟩ := Option.map_eq_some_iff.1 hunit
        cases kind with
        | scalar text style =>
          cases style with
          | plain =>
            cases hnode
            cases hp
            exact congrArg (Yaml.TokenKind.scalar · .plain) (Option.some.inj hvalue)
          | _ =>
            cases hnode
            cases hp
            cases hstyle
        | streamStart | streamEnd | blockEnd => cases hnode
        | key =>
          have hkey : node = .explicitKey ∨ node = .implicitKey := by
            rw [← Option.some.inj hnode]
            exact ite_eq_or_eq _ _ _
          rcases hkey with rfl | rfl <;> cases hp <;> cases hstyle
        | _ =>
          cases hnode
          cases hp
          cases hstyle
      · cases hunit
    · cases hstyle
  · rw [List.mem_singleton.1 hx] at hstyle
    cases hstyle

/-! ## Plain texts -/

/-- A text of allowed characters that starts as plain scalars outside flow collections do and stands for itself. -/
structure IsPlain (v : Text) : Prop where
  words : IsPlainText v
  leads : ∃ ch, v.head? = some ch ∧ (Yaml.Scan.isIndicator ch = false ∨
    (ch = '-' ∨ ch = '?' ∨ ch = ':') ∧ endsWord v[1]? = false)
  allowed : ∀ ch ∈ v, isAllowed ch = true

namespace Yaml.Lex

variable {place : PlainPlace} {c : Cursor}

/-- Before a colon and a space a plain scalar ends. -/
theorem ensures_plainScalar_colon {w r : Text} (hrest : c.rest = w ++ ':' :: ' ' :: r)
    (hw : w ⊆ "key".toList) : Ensures (plainScalar place) c fun read _ => read.text = w := by
  have hword : plainWord place (w ++ ':' :: ' ' :: r) = w := by
    clear hrest
    induction w with
    | nil =>
      rw [List.nil_append, plainWord, if_neg]
      cases hflow : place.inFlow <;> simp [continuesPlain, endsWord, isBreak, isLineEnd, hflow]
    | cons ch w ih =>
      have hgoes : ∀ following, continuesPlain place ch following = true := by
        intro following
        have hch := hw (.head w)
        simp only [String.reduceToList, List.mem_cons, List.not_mem_nil, or_false] at hch
        rcases hch with rfl | rfl | rfl <;> simp [continuesPlain, endsWord, isBreak, isLineEnd]
      rw [List.cons_append, plainWord, if_pos (hgoes _), ih fun x hx => hw (.tail _ hx)]
  simp only [plainScalar, ensures_bind, ensures_get, ensures_mark, plainRest, ensures_ite, ensures_pure, Scan.ensures_advance]
  rw [hrest, hword]
  refine ⟨fun hstops => ?_, fun _ => ?_⟩
  · cases w with
    | nil => rfl
    | cons ch w =>
      have hhash : ch = '#' := by simpa [Cursor.peek, hrest] using hstops
      have hch := hw (.head w)
      rw [hhash] at hch
      exact absurd hch (by decide)
  · intro found e hspaces
    have hnext : (c.skip w.length).rest = ':' :: ' ' :: r := by rw [Cursor.rest_skip, hrest, List.drop_left]
    rw [run_plainSpaces_none (by rw [hnext]; rfl)] at hspaces
    cases hspaces
    exact (ensures_pure _).2 (by simp)

end Yaml.Lex

namespace Rule.Quotes

theorem isPlain_of_mem_key {w : Text} (h : w = "key".toList ∨ w = "ey".toList ∨ w = "y".toList) : IsPlain w := by
  rcases h with rfl | rfl | rfl <;> exact ⟨.word ⟨by decide, by decide, by decide⟩, ⟨_, rfl, .inl rfl⟩,
    List.all_eq_true.1 (by decide)⟩

theorem isPlain_of_isPlainIn {v t : Text} (ht : t <:+ "key: ".toList ++ v) (hv : v ≠ []) (hfeed : '\n' ∉ v)
    (hallowed : ∀ ch ∈ t, isAllowed ch = true) (h : IsPlainIn t v) : IsPlain v := by
  obtain ⟨place, c, d, read, ch, hsuffix, hpeek, hleads, hread, rfl⟩ := h
  obtain ⟨hlength, hself⟩ := Yaml.Lex.ensures_plainScalar_self read d hread
  obtain ⟨passed, hpassed⟩ := hsuffix.trans ht
  have hcount := congrArg List.length hpassed
  rw [List.length_append, List.length_append] at hcount
  have hle : passed.length ≤ 5 := by
    have : "key: ".toList.length = 5 := rfl
    omega
  have hrest : c.rest = ("key: ".toList ++ read.text).drop passed.length := by rw [← hpassed, List.drop_left]
  have hcolon : ∀ w r, c.rest = w ++ ':' :: ' ' :: r → w ⊆ "key".toList → read.text = w :=
    fun w r hr hw => Yaml.Lex.ensures_plainScalar_colon hr hw read d hread
  interval_cases hn : passed.length
  · exact isPlain_of_mem_key (.inl (hcolon "key".toList _ hrest (by simp)))
  · exact isPlain_of_mem_key (.inr (.inl (hcolon "ey".toList _ hrest (by simp))))
  · exact isPlain_of_mem_key (.inr (.inr (hcolon "y".toList _ hrest (by simp))))
  · exact absurd (hcolon [] _ hrest (by simp)) hv
  · have hch : ch = ' ' := by
      rw [Yaml.Cursor.peek, hrest] at hpeek
      exact (Option.some.inj hpeek).symm
    rcases hleads with h | h | ⟨h | h, -⟩ <;> rw [hch] at h <;> exact absurd h (by decide)
  · replace hrest : c.rest = read.text := hrest
    have hwords : IsPlainText read.text := by
      rw [← hrest] at hv hfeed ⊢
      exact hself hrest.symm hfeed hv
    rw [Yaml.Cursor.peek, hrest] at hpeek
    refine ⟨hwords, ⟨ch, hpeek, ?_⟩, fun x hx => hallowed x (hsuffix.subset (by rwa [hrest]))⟩
    rw [Yaml.Cursor.peekAt, hrest] at hleads
    rcases hleads with h | rfl | ⟨h, hfollow⟩
    · exact .inl h
    · obtain ⟨r, hr⟩ := List.head?_eq_some_iff.1 hpeek
      rw [hr] at hwords ⊢
      refine .inr ⟨.inr (.inr rfl), ?_⟩
      rw [List.getElem?_cons_succ, ← List.head?_eq_getElem?]
      exact hwords.endsWord_of_colon
    · exact .inr ⟨h.imp_right .inl, hfollow⟩

/-! ## Reports -/

/-- What is said about redundant quotes. -/
def redundantText (o : Options) (node : String) : String :=
  s!"string {node} is redundantly quoted with {o.quoteType.name} quotes"

/-- What a string is called. -/
def IsNodeName (node : String) : Prop := node = "key" ∨ node = "value"

/-- A value that needs no quotes is a plain text. -/
theorem isPlain_of_needsQuotes {value : String} {inFlow : Bool} (h : (needsQuotes value inFlow).outcome = .ok false)
    (hne : value ≠ "") (hfeed : '\n' ∉ value.toList) : IsPlain value.toList := by
  unfold needsQuotes at h
  by_cases hflow : (inFlow && value.toList.any ",[]\x7b\x7d".toList.contains) = true
  · rw [if_pos hflow] at h
    cases h
  rw [if_neg hflow] at h
  obtain ⟨xs, hxs, h⟩ := Logged.outcome_bind_eq_ok.1 h
  split at h
  · cases h
  have hfound : (xs[5]?.any fun x => x.style == some .plain && x.value == some value) = true := by
    simpa using Except.ok.inj h
  obtain ⟨x, hx, hplain⟩ := (Option.any_eq_true _ _).1 hfound
  simp only [Bool.and_eq_true, beq_iff_eq] at hplain
  have hlexemes : (Lexeme.ofText (unquoted value)).outcome = .ok xs := Logged.outcome_mapError_eq_ok.1 hxs
  obtain ⟨base, r, hr, hkind⟩ := Lexeme.exists_token_of_plain hlexemes (List.mem_of_getElem? hx) hplain.1 hplain.2
  have hread := Yaml.isPlainIn_of_mem_ofText hr
  rw [hkind] at hread
  have hallowed : ∀ ch ∈ (unquoted value).drop base, isAllowed ch = true := by
    unfold TokenStream.ofText at hr
    split at hr
    · cases hr
    · next hnone => simpa using List.findIdx?_eq_none_iff.1 hnone
  exact isPlain_of_isPlainIn (List.drop_suffix base _) (by simpa using hne) hfeed hallowed hread

/-- Quotes are reported as redundant only around a value that needs none. -/
theorem needsQuotes_of_complaint {o : Options} {node node' value : String} {isQuoted isText isOk inFlow : Bool}
    (hnode : IsNodeName node) (hnode' : IsNodeName node')
    (h : (complaint o node value isQuoted isText isOk inFlow).outcome = .ok (some (redundantText o node'))) :
    o.need = .onlyWhenNeeded ∧ isQuoted = true ∧ value ≠ "" ∧ (needsQuotes value inFlow).outcome = .ok false := by
  have hwrong : s!"string {node} is not quoted with {o.quoteType.name} quotes" ≠ redundantText o node' := by
    rcases hnode with rfl | rfl <;> rcases hnode' with rfl | rfl <;> cases hq : o.quoteType <;>
      simp only [redundantText, hq] <;> decide
  have hnot : s!"string {node} is not quoted" ≠ redundantText o node' := by
    rcases hnode with rfl | rfl <;> rcases hnode' with rfl | rfl <;> cases hq : o.quoteType <;>
      simp only [redundantText, hq] <;> decide
  unfold complaint at h
  dsimp only at h
  have hite : ∀ {b : Prop} [Decidable b] {told : String}, told ≠ redundantText o node' →
      (if b then some told else none) ≠ some (redundantText o node') ∧
        (if b then none else some told) ≠ some (redundantText o node') := by
    intro b _ told htold
    split <;> simp [htold]
  split at h
  · exact absurd (Except.ok.inj h) (hite hwrong).1
  · split at h
    · exact absurd (Except.ok.inj h) (hite hwrong).2
    · obtain ⟨found, -, h⟩ := Logged.outcome_bind_eq_ok.1 h
      exact absurd (Except.ok.inj h) (hite hnot).1
  · next hneed =>
    split at h
    · next hquoted =>
      split at h
      · next htext =>
        obtain ⟨needs, hneeds, h⟩ := Logged.outcome_bind_eq_ok.1 h
        simp only [Bool.and_eq_true, bne_iff_ne] at htext
        cases needs with
        | false => exact ⟨hneed, hquoted, htext.2, hneeds⟩
        | true => exact absurd (Except.ok.inj h) (hite hwrong).2
      · exact absurd (Except.ok.inj h) (hite hwrong).2
    · obtain ⟨found, -, h⟩ := Logged.outcome_bind_eq_ok.1 h
      exact absurd (Except.ok.inj h) (hite hnot).1

/-- What the rule keeps and finds, lexeme by lexeme, up to the first one on which it fails. -/
def steps (o : Options) (s : State) : List Window → List (Except Failure (State × List Finding))
  | [] => []
  | w :: ws =>
    match (check o w s).outcome with
    | .ok r => .ok r :: steps o r.1 ws
    | .error e => [.error e]

/-- Whether the quotes of `x` are reported as redundant, among these lexemes. -/
def IsReported (o : Options) (before : List Lexeme) (x : Lexeme) (after : List Lexeme) : Prop :=
  ∃ s findings node, (steps o .start (Window.slide none (before ++ x :: after)))[before.length]? = some (.ok (s, findings)) ∧
    IsNodeName node ∧ .atStart x (redundantText o node) ∈ findings

/-- What a lexeme that is reported is like. -/
structure IsRedundant (o : Options) (x : Lexeme) (value : String) : Prop where
  need : o.need = .onlyWhenNeeded
  scalar : x.kind = .scalar
  quoted : x.style.any (·.isQuoted) = true
  hasValue : x.value = some value
  nonempty : value ≠ ""
  /-- As the plain value of a mapping the value reads the same. -/
  needless : (needsQuotes value false).outcome = .ok false

theorem needsQuotes_of_inFlow {value : String} {inFlow : Bool} (h : (needsQuotes value inFlow).outcome = .ok false) :
    (needsQuotes value false).outcome = .ok false := by
  unfold needsQuotes at h ⊢
  by_cases hflow : (inFlow && value.toList.any ",[]\x7b\x7d".toList.contains) = true
  · rw [if_pos hflow] at h
    cases h
  · rw [if_neg hflow] at h
    rwa [if_neg (by simp)]

theorem isRedundant_of_check {o : Options} {w : Window} {s s' : State} {findings : List Finding} {node : String}
    (hnode : IsNodeName node) (h : (check o w s).outcome = .ok (s', findings))
    (hmem : .atStart w.curr (redundantText o node) ∈ findings) :
    IsRedundant o w.curr (w.curr.value.getD "") := by
  unfold check at h
  dsimp only at h
  split at h
  · cases h
    cases hmem
  · next hcandidate =>
    split at h
    · cases h
      cases hmem
    · obtain ⟨desc, hdesc, h⟩ := Logged.outcome_bind_eq_ok.1 h
      cases desc with
      | none =>
        cases h
        cases hmem
      | some desc =>
        cases h
        have hsame : redundantText o node = desc := by
          rw [List.mem_singleton] at hmem
          exact congrArg Finding.desc hmem
        rw [← hsame] at hdesc
        have hname : IsNodeName (if isOneOf w.prev [.key] then "key" else "value") := ite_eq_or_eq _ _ _
        obtain ⟨hneed, hquoted, hvalue, hneedless⟩ := needsQuotes_of_complaint hname hnode hdesc
        have hscalar : w.curr.kind = .scalar := by
          simp only [isCandidate, Bool.and_eq_true, beq_iff_eq, Bool.not_eq_true', Bool.not_eq_false] at hcandidate
          exact hcandidate.1.1.1
        refine ⟨hneed, hscalar, hquoted, ?_, hvalue, needsQuotes_of_inFlow hneedless⟩
        cases hx : w.curr.value with
        | none => exact absurd (by rw [hx]; rfl) hvalue
        | some value => rfl

theorem exists_check_of_steps {o : Options} {s : State} {prev : Option Lexeme} {before after : List Lexeme} {x : Lexeme}
    {r : State × List Finding}
    (h : (steps o s (Window.slide prev (before ++ x :: after)))[before.length]? = some (.ok r)) :
    ∃ w s', w.curr = x ∧ (check o w s').outcome = .ok r := by
  induction before generalizing s prev with
  | nil =>
    rw [List.nil_append, Window.slide, steps] at h
    split at h
    · next r' hr =>
      cases h
      exact ⟨_, _, rfl, hr⟩
    · cases h
  | cons y before ih =>
    rw [List.cons_append, Window.slide, steps] at h
    split at h
    · exact ih h
    · cases h

theorem IsReported.exists_isRedundant {o : Options} {before after : List Lexeme} {x : Lexeme}
    (h : IsReported o before x after) : ∃ value, IsRedundant o x value := by
  obtain ⟨s, findings, node, hstep, hnode, hmem⟩ := h
  obtain ⟨w, s', rfl, hcheck⟩ := exists_check_of_steps hstep
  exact ⟨_, isRedundant_of_check hnode hcheck hmem⟩

end Rule.Quotes

end YamlStyle

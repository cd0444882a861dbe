import Mathlib
import YamlStyle.Proofs.Lexeme.Reckoning
import YamlStyle.Proofs.Rule.Indentation.Block
import YamlStyle.Rule.Anchors

/-!
# Anchors that are declared

Whichever of its checks are on, the rule for anchors knows at each lexeme the anchors declared since the last
boundary between documents, in the order in which they were first declared (`names_foldl`). With them it
reports an alias just when no anchor with its name is among them, and an anchor just when one is
(`steps_declared`).
-/

namespace YamlStyle.Rule.Anchors

/-- Whether any of the checks is on. -/
def Options.isOn (o : Options) : Bool := o.forbidUndeclared || o.forbidDuplicated || o.forbidUnused

/-- What the rule keeps and finds, lexeme by lexeme. -/
def steps (o : Options) (s : State) : List Window → List (State × List Finding)
  | [] => []
  | w :: ws => check o w s :: steps o (check o w s).1 ws

/-- The lexemes after the last boundary between documents. -/
def sinceBoundary (xs : List Lexeme) : List Lexeme := xs.rtakeWhile fun x => !isBoundary x.kind

def IsAnchor (x : Lexeme) (name : String) : Prop := x.kind = .anchor ∧ x.value = some name

def IsAlias (x : Lexeme) (name : String) : Prop := x.kind = .alias ∧ x.value = some name

instance (x : Lexeme) (name : String) : Decidable (IsAnchor x name) := inferInstanceAs (Decidable (_ ∧ _))

instance (x : Lexeme) (name : String) : Decidable (IsAlias x name) := inferInstanceAs (Decidable (_ ∧ _))

/-- The name of the anchor that a lexeme declares. -/
def anchorName? (x : Lexeme) : Option String := if x.kind = .anchor then x.value else none

/-- The names of the anchors declared since the last boundary, in the order of their first declarations. -/
def declared (xs : List Lexeme) : List String := ((sinceBoundary xs).filterMap anchorName?).eraseDups

/-! ## Findings -/

def undeclaredText (name : String) : String := s!"found undeclared alias \"{name}\""

def duplicatedText (name : String) : String := s!"found duplicated anchor \"{name}\""

def unusedText (name : String) : String := s!"found unused anchor \"{name}\""

variable {o : Options} {w : Window} {s : State} {x : Lexeme} {xs before after : List Lexeme} {name other : String}

theorem toList_text (lead name : String) :
    (toString lead ++ toString name ++ toString "\"").toList = lead.toList ++ (name.toList ++ ['"']) := by
  show (lead ++ name ++ "\"").toList = _
  rw [String.toList_append, String.toList_append, List.append_assoc]
  rfl

theorem text_inj {lead : String} : toString lead ++ toString name ++ toString "\"" =
    toString lead ++ toString other ++ toString "\"" ↔ name = other := by
  constructor
  · intro h
    have h := congrArg String.toList h
    rw [toList_text, toList_text, List.append_cancel_left_eq, List.append_cancel_right_eq] at h
    exact String.toList_inj.1 h
  · rintro rfl
    rfl

theorem undeclaredText_inj {a b : String} : undeclaredText a = undeclaredText b ↔ a = b := text_inj

theorem duplicatedText_inj {a b : String} : duplicatedText a = duplicatedText b ↔ a = b := text_inj

theorem unusedText_inj {a b : String} : unusedText a = unusedText b ↔ a = b := text_inj

/-- Texts that begin differently are different, whatever names they have. -/
theorem text_ne {lead lead' : String} (n : Nat) (hlead : n ≤ lead.toList.length) (hlead' : n ≤ lead'.toList.length)
    (h : lead.toList.take n ≠ lead'.toList.take n) (name other : String) :
    toString lead ++ toString name ++ toString "\"" ≠ toString lead' ++ toString other ++ toString "\"" := by
  intro heq
  have heq := congrArg (fun t : String => t.toList.take n) heq
  rw [toList_text, toList_text, List.take_append_of_le_length hlead, List.take_append_of_le_length hlead'] at heq
  exact h heq

theorem undeclaredText_ne_duplicatedText (name other : String) : undeclaredText name ≠ duplicatedText other :=
  text_ne 7 (by decide) (by decide) (by decide) name other

theorem undeclaredText_ne_unusedText (name other : String) : undeclaredText name ≠ unusedText other :=
  text_ne 9 (by decide) (by decide) (by decide) name other

theorem duplicatedText_ne_unusedText (name other : String) : duplicatedText name ≠ unusedText other :=
  text_ne 7 (by decide) (by decide) (by decide) name other

/-- The anchors of the document that a lexeme belongs to, before the lexeme. -/
def State.enter (s : State) (x : Lexeme) : State := if isBoundary x.kind then [] else s

def undeclared (o : Options) (s : State) (x : Lexeme) : List Finding :=
  if o.forbidUndeclared && x.kind == .alias && !s.has x.value then
    [.atStart x (undeclaredText (x.value.getD "None"))]
  else []

def duplicated (o : Options) (s : State) (x : Lexeme) : List Finding :=
  if o.forbidDuplicated && x.kind == .anchor && s.has x.value then
    [.atStart x (duplicatedText (x.value.getD "None"))]
  else []

def unusedAtClose (o : Options) (s : State) (next : Option Lexeme) : List Finding :=
  if o.forbidUnused && isOneOf next closers then unused s else []

/-- The anchors of the document after a lexeme. -/
def State.leave (o : Options) (s : State) (x : Lexeme) (next : Option Lexeme) : State :=
  let s := if o.forbidUnused && !isOneOf next closers && x.kind == .alias then s.use x.value else s
  match x.kind, x.value with
  | .anchor, some name => s.declare ⟨name, x.start.line, x.start.column, false⟩
  | _, _ => s

/-- A step looks for each kind of finding among the anchors of the document, and then follows the lexeme. -/
theorem check_of_isOn (h : o.isOn = true) : check o w s =
    ((s.enter w.curr).leave o w.curr w.next, undeclared o (s.enter w.curr) w.curr ++
      duplicated o (s.enter w.curr) w.curr ++ unusedAtClose o (s.enter w.curr) w.next) := by
  have hon : (!(o.forbidUndeclared || o.forbidDuplicated || o.forbidUnused)) = false := by
    rw [← Options.isOn, h]
    rfl
  unfold check
  rw [hon]
  rfl

theorem desc_of_mem_undeclared {f : Finding} (h : f ∈ undeclared o s x) : ∃ name, f.desc = undeclaredText name := by
  unfold undeclared at h
  split at h
  · exact ⟨_, congrArg Finding.desc (List.mem_singleton.1 h)⟩
  · cases h

theorem desc_of_mem_duplicated {f : Finding} (h : f ∈ duplicated o s x) : ∃ name, f.desc = duplicatedText name := by
  unfold duplicated at h
  split at h
  · exact ⟨_, congrArg Finding.desc (List.mem_singleton.1 h)⟩
  · cases h

theorem desc_of_mem_unusedAtClose {f : Finding} {next : Option Lexeme} (h : f ∈ unusedAtClose o s next) :
    ∃ name, f.desc = unusedText name := by
  unfold unusedAtClose at h
  split at h
  · obtain ⟨a, -, rfl⟩ := List.mem_map.1 h
    exact ⟨a.name, rfl⟩
  · cases h

/-- Of findings that all have other texts none has this one. -/
theorem filter_of_ne {findings : List Finding} {text text' : String → String}
    (h : ∀ f ∈ findings, ∃ other, f.desc = text' other) (hne : ∀ name other, text name ≠ text' other) (name : String) :
    findings.filter (·.desc == text name) = [] := by
  refine List.filter_eq_nil_iff.2 fun f hf => ?_
  obtain ⟨other, hother⟩ := h f hf
  rw [hother, beq_iff_eq]
  exact (hne name other).symm

/-- A finding at a lexeme that has a name tells that name. -/
theorem filter_atStart {found : Bool} {text : String → String} (hinj : ∀ {a b}, text a = text b ↔ a = b)
    (hnamed : found = true → x.value ≠ none) :
    (if found then [Finding.atStart x (text (x.value.getD "None"))] else []).filter (·.desc == text name) =
      if found = true ∧ x.value = some name then [.atStart x (text name)] else [] := by
  cases found with
  | false => rfl
  | true =>
    obtain ⟨value, hvalue⟩ := Option.ne_none_iff_exists'.1 (hnamed rfl)
    simp only [hvalue, Option.getD_some, if_true, Option.some.injEq, true_and]
    by_cases h : value = name
    · rw [if_pos h, h]
      exact List.filter_cons_of_pos (beq_self_eq_true _)
    · rw [if_neg h]
      exact List.filter_cons_of_neg (by rw [beq_iff_eq]; exact fun heq => h (hinj.1 heq))

/-! ## Names -/

theorem has_some : s.has (some name) = true ↔ name ∈ s.map (·.name) := by
  simp [State.has]

theorem names_use (s : State) (name : Option String) : (s.use name).map (·.name) = s.map (·.name) := by
  rw [State.use, List.map_map]
  refine List.map_congr_left fun a _ => ?_
  dsimp only [Function.comp_apply]
  split <;> rfl

theorem names_declare (s : State) (a : Declared) : (s.declare a).map (·.name) =
    if a.name ∈ s.map (·.name) then s.map (·.name) else s.map (·.name) ++ [a.name] := by
  unfold State.declare
  by_cases h : a.name ∈ s.map (·.name)
  · rw [if_pos (has_some.2 h), if_pos h, List.map_map]
    refine List.map_congr_left fun b _ => ?_
    dsimp only [Function.comp_apply]
    split
    · next heq => exact (eq_of_beq heq).symm
    · rfl
  · rw [if_neg fun h' => h (has_some.1 h'), if_neg h, List.map_append]
    rfl

/-- What a lexeme makes of the names that are known. -/
def note (names : List String) (x : Lexeme) : List String :=
  if isBoundary x.kind then []
  else
    match anchorName? x with
    | some name => if name ∈ names then names else names ++ [name]
    | none => names

theorem anchorName?_of_isBoundary (h : isBoundary x.kind = true) : anchorName? x = none := by
  unfold anchorName?
  split
  · next hkind =>
    rw [hkind] at h
    cases h
  · rfl

theorem anchorName?_eq_some : anchorName? x = some name ↔ IsAnchor x name := by
  unfold anchorName? IsAnchor
  split
  · next h => simp [h]
  · next h => simp [h]

theorem names_leave (o : Options) (s : State) (x : Lexeme) (next : Option Lexeme) :
    (s.leave o x next).map (·.name) = match anchorName? x with
      | some name => if name ∈ s.map (·.name) then s.map (·.name) else s.map (·.name) ++ [name]
      | none => s.map (·.name) := by
  have hused : ∀ used : Bool, (if used then s.use x.value else s).map (·.name) = s.map (·.name) := by
    intro used
    cases used with
    | true => exact names_use s x.value
    | false => rfl
  unfold State.leave
  dsimp only
  split
  · next name hkind hvalue =>
    rw [anchorName?_eq_some.2 ⟨hkind, hvalue⟩, names_declare, hused]
  · next hother =>
    have hnone : anchorName? x = none := by
      cases h : anchorName? x with
      | none => rfl
      | some name =>
        obtain ⟨hkind, hvalue⟩ := anchorName?_eq_some.1 h
        exact absurd hvalue (hother name hkind)
    rw [hnone, hused]

theorem names_check (h : o.isOn = true) (w : Window) (s : State) :
    (check o w s).1.map (·.name) = note (s.map (·.name)) w.curr := by
  rw [check_of_isOn h, names_leave, note, State.enter]
  by_cases hboundary : isBoundary w.curr.kind = true
  · rw [if_pos hboundary, if_pos hboundary, anchorName?_of_isBoundary hboundary]
    rfl
  · rw [if_neg hboundary, if_neg hboundary]

theorem eraseDups_concat {α : Type} [BEq α] [LawfulBEq α] (xs : List α) (x : α) :
    (xs ++ [x]).eraseDups = if x ∈ xs then xs.eraseDups else xs.eraseDups ++ [x] := by
  rw [List.eraseDups_append]
  split
  · next h => simp [List.removeAll, h]
  · next h => simp [List.removeAll, h, List.eraseDups_cons]

/-- The names that are known after some lexemes. -/
theorem names_foldl (xs : List Lexeme) : xs.foldl note [] = declared xs := by
  induction xs using List.reverseRecOn with
  | nil => rfl
  | append_singleton xs x ih =>
    rw [List.foldl_append, ih, List.foldl_cons, List.foldl_nil, note, declared, declared]
    by_cases h : isBoundary x.kind = true
    · have hempty : sinceBoundary (xs ++ [x]) = [] := List.rtakeWhile_concat_neg _ _ _ (by simp [h])
      rw [if_pos h, hempty]
      rfl
    · have hmore : sinceBoundary (xs ++ [x]) = sinceBoundary xs ++ [x] := List.rtakeWhile_concat_pos _ _ _ (by simp [h])
      rw [if_neg h, hmore, List.filterMap_append]
      cases hname : anchorName? x with
      | none => simp [hname]
      | some name => simp [hname, eraseDups_concat]

theorem mem_declared : name ∈ declared xs ↔ ∃ a ∈ sinceBoundary xs, IsAnchor a name := by
  rw [declared, List.mem_eraseDups, List.mem_filterMap]
  simp only [anchorName?_eq_some]

/-! ## Runs -/

theorem exists_steps_slide (h : o.isOn = true) (s : State) (prev : Option Lexeme) (before : List Lexeme) (x : Lexeme)
    (after : List Lexeme) :
    ∃ w s', w.curr = x ∧ w.next = after.head? ∧ s'.map (·.name) = before.foldl note (s.map (·.name)) ∧
      (steps o s (Window.slide prev (before ++ x :: after)))[before.length]? = some (check o w s') := by
  induction before generalizing s prev with
  | nil =>
    refine ⟨⟨prev, x, after[0]?, after[1]?⟩, s, rfl, ?_, rfl, rfl⟩
    rw [List.head?_eq_getElem?]
  | cons y before ih =>
    obtain ⟨w, s', hcurr, hnext, hnames, hstep⟩ :=
      ih (check o ⟨prev, y, (before ++ x :: after)[0]?, (before ++ x :: after)[1]?⟩ s).1 (some y)
    refine ⟨w, s', hcurr, hnext, ?_, ?_⟩
    · rw [hnames, names_check h, List.foldl_cons]
    · rw [List.cons_append, Window.slide, steps, List.length_cons, List.getElem?_cons_succ]
      exact hstep

/-! ## Aliases without an anchor, and anchors declared twice -/

theorem enter_of_kind {k : LexemeKind} (h : x.kind = k) (hk : isBoundary k = false) (s : State) : s.enter x = s := by
  rw [State.enter, h, hk, if_neg Bool.false_ne_true]

theorem filter_check_undeclared (ho : o.forbidUndeclared = true) (hnamed : w.curr.kind = .alias → w.curr.value ≠ none) :
    (check o w s).2.filter (·.desc == undeclaredText name) =
      if IsAlias w.curr name ∧ name ∉ s.map (·.name) then [.atStart w.curr (undeclaredText name)] else [] := by
  have hon : o.isOn = true := by simp [Options.isOn, ho]
  rw [check_of_isOn hon]
  dsimp only
  rw [List.filter_append, List.filter_append,
    filter_of_ne (fun _ => desc_of_mem_duplicated) undeclaredText_ne_duplicatedText,
    filter_of_ne (fun _ => desc_of_mem_unusedAtClose) undeclaredText_ne_unusedText, List.append_nil, List.append_nil,
    undeclared, ho, Bool.true_and,
    filter_atStart undeclaredText_inj fun hfound => hnamed (eq_of_beq (Bool.and_eq_true_iff.1 hfound).1)]
  refine if_congr ?_ rfl rfl
  rw [Bool.and_eq_true, beq_iff_eq, Bool.not_eq_true', ← Bool.not_eq_true, IsAlias]
  constructor
  · rintro ⟨⟨hkind, hnot⟩, hvalue⟩
    rw [enter_of_kind hkind rfl, hvalue, has_some] at hnot
    exact ⟨⟨hkind, hvalue⟩, hnot⟩
  · rintro ⟨⟨hkind, hvalue⟩, hnot⟩
    refine ⟨⟨hkind, ?_⟩, hvalue⟩
    rwa [enter_of_kind hkind rfl, hvalue, has_some]

theorem filter_check_duplicated (ho : o.forbidDuplicated = true)
    (hnamed : w.curr.kind = .anchor → w.curr.value ≠ none) : (check o w s).2.filter (·.desc == duplicatedText name) =
      if IsAnchor w.curr name ∧ name ∈ s.map (·.name) then [.atStart w.curr (duplicatedText name)] else [] := by
  have hon : o.isOn = true := by simp [Options.isOn, ho]
  rw [check_of_isOn hon]
  dsimp only
  rw [List.filter_append, List.filter_append,
    filter_of_ne (fun _ => desc_of_mem_undeclared) fun a b => (undeclaredText_ne_duplicatedText b a).symm,
    filter_of_ne (fun _ => desc_of_mem_unusedAtClose) duplicatedText_ne_unusedText, List.append_nil, List.nil_append,
    duplicated, ho, Bool.true_and,
    filter_atStart duplicatedText_inj fun hfound => hnamed (eq_of_beq (Bool.and_eq_true_iff.1 hfound).1)]
  refine if_congr ?_ rfl rfl
  rw [Bool.and_eq_true, beq_iff_eq, IsAnchor]
  constructor
  · rintro ⟨⟨hkind, hhas⟩, hvalue⟩
    rw [enter_of_kind hkind rfl, hvalue, has_some] at hhas
    exact ⟨⟨hkind, hvalue⟩, hhas⟩
  · rintro ⟨⟨hkind, hvalue⟩, hmem⟩
    refine ⟨⟨hkind, ?_⟩, hvalue⟩
    rwa [enter_of_kind hkind rfl, hvalue, has_some]

/-- Let any check be on. At a lexeme the rule knows the anchors declared since the last boundary, this lexeme
included, in the order of their first declarations. It reports an alias as undeclared, if it looks for that,
just when no anchor with its name has been declared since the boundary, and an anchor as duplicated, if it looks
for that, just when one has; each time once and at the lexeme itself. -/
theorem steps_declared (o : Options) (hon : o.isOn = true) (before : List Lexeme) (x : Lexeme) (after : List Lexeme)
    (hnamed : x.kind = .alias ∨ x.kind = .anchor → x.value ≠ none) :
    ∃ s findings, (steps o [] (Window.slide none (before ++ x :: after)))[before.length]? = some (s, findings) ∧
      s.map (·.name) = declared (before ++ [x]) ∧
      (o.forbidUndeclared = true → ∀ name, findings.filter (·.desc == undeclaredText name) =
        if IsAlias x name ∧ ¬∃ a ∈ sinceBoundary before, IsAnchor a name then [.atStart x (undeclaredText name)]
        else []) ∧
      (o.forbidDuplicated = true → ∀ name, findings.filter (·.desc == duplicatedText name) =
        if IsAnchor x name ∧ ∃ a ∈ sinceBoundary before, IsAnchor a name then [.atStart x (duplicatedText name)]
        else []) := by
  obtain ⟨w, s, rfl, -, hnames, hstep⟩ := exists_steps_slide hon [] none before x after
  rw [List.map_nil, names_foldl] at hnames
  refine ⟨(check o w s).1, (check o w s).2, hstep, ?_, fun ho name => ?_, fun ho name => ?_⟩
  · rw [names_check hon, hnames, ← names_foldl, ← names_foldl, List.foldl_append]
    rfl
  · rw [filter_check_undeclared ho fun hkind => hnamed (.inl hkind), hnames]
    simp only [mem_declared]
  · rw [filter_check_duplicated ho fun hkind => hnamed (.inr hkind), hnames]
    simp only [mem_declared]

section TwoDocuments

open Indentation (mark plain)

/-- An anchor or an alias with a name of one character. -/
def named (kind : LexemeKind) (line column offset : Nat) (name : String) : Lexeme :=
  ⟨kind, ⟨line, column, offset⟩, ⟨line, column + 2, offset + 2⟩, some name, none⟩

/-- An anchor in one document, and two with one name in the next. -/
def twoDocuments : List Lexeme := [
  mark .streamStart 0 0 0 0, named .anchor 0 0 0 "a", plain 0 3 3 "1",
  mark .documentStart 1 0 5 3, mark .flowSequenceStart 1 4 9 1,
  named .anchor 1 5 10 "b", plain 1 8 13 "2", mark .flowEntry 1 9 14 1,
  named .anchor 1 11 16 "c", plain 1 14 19 "3", mark .flowEntry 1 15 20 1,
  named .anchor 1 17 22 "b", plain 1 20 25 "4", mark .flowEntry 1 21 26 1]

/-- The anchor of the first document is not known in the second one. -/
theorem steps_declared_twoDocuments :
    let o : Options := ⟨true, true, true⟩
    let x := named .alias 1 23 28 "a"
    let after := [mark .flowSequenceEnd 1 25 30 1, mark .streamEnd 2 0 32 0]
    (Lexeme.ofText "&a 1\n--- [&b 2, &c 3, &b 4, *a]\n".toList).outcome = .ok (twoDocuments ++ x :: after) ∧
      o.isOn = true ∧ (x.kind = .alias ∨ x.kind = .anchor → x.value ≠ none) ∧
      ∃ s findings,
        (steps o [] (Window.slide none (twoDocuments ++ x :: after)))[twoDocuments.length]? = some (s, findings) ∧
        s.map (·.name) = ["b", "c"] ∧
        findings.filter (·.desc == undeclaredText "a") = [.atStart x (undeclaredText "a")] := by
  intro o x after
  have hnamed : x.kind = .alias ∨ x.kind = .anchor → x.value ≠ none := by decide
  obtain ⟨s, findings, hstep, hnames, hundeclared, -⟩ := steps_declared o rfl twoDocuments x after hnamed
  refine ⟨?_, rfl, hnamed, s, findings, hstep, ?_, ?_⟩
  · rw [Lexeme.outcome_ofText_eq_reckoned]
    decide +kernel
  · rw [hnames]
    decide +kernel
  · rw [hundeclared rfl "a"]
    decide +kernel

end TwoDocuments

end YamlStyle.Rule.Anchors

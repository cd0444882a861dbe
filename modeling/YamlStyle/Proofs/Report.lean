import Mathlib
import YamlStyle.Proofs.Text.Unbroken
import YamlStyle.Report

/-!
# Reports for programs

Codes that set styles go over no line feed and not past a colon. So a report for programs has one line
for each problem that is shown, with the place of the problem in front, if and only if each of these
problems is told in one line (`Report.isOneLineEach_iff`).
-/

namespace YamlStyle

theorem Level.unbroken_shown (l : Option Level) : Unbroken (Level.shown l) := by
  rcases l with _ | ⟨⟨⟩⟩ <;> exact .literal rfl

namespace Report

variable {r rest t : Text}

/-! ## Codes that set styles -/

theorem exists_code_of_pastCode? (h : pastCode? r = some rest) :
    ∃ code, code ≠ [] ∧ '\n' ∉ code ∧ r = code ++ rest := by
  unfold pastCode? at h
  split at h
  · next c rest' hdrop =>
    split at h
    · next hletter =>
      cases h
      refine ⟨(r.takeWhile fun c => c == ';' || c == '?' || Text.isDigit c) ++ [c], by simp, fun hmem => ?_, ?_⟩
      · rcases List.mem_append.1 hmem with hmem | hmem
        · exact absurd (List.mem_takeWhile_imp hmem) (by decide)
        · rw [← List.mem_singleton.1 hmem] at hletter
          exact absurd hletter (by decide)
      · rw [List.append_assoc, List.singleton_append, ← hdrop, List.takeWhile_append_dropWhile]
    · cases h
  · cases h

theorem pastCode?_append {c : Char} (hc : (c == ';' || c == '?' || Text.isDigit c) = false)
    (hletter : Text.isAsciiLetter c = false) (r rest : Text) :
    pastCode? (r ++ c :: rest) = (pastCode? r).map (· ++ c :: rest) := by
  unfold pastCode?
  rw [List.dropWhile_append]
  cases hdrop : r.dropWhile fun c => c == ';' || c == '?' || Text.isDigit c with
  | nil => simp [hc, hletter]
  | cons d r' =>
    simp only [List.isEmpty_cons, Bool.false_eq_true, if_false, List.cons_append]
    split <;> rfl

theorem mem_unstyledText (fuel : Nat) (t : Text) : '\n' ∈ unstyledText fuel t ↔ '\n' ∈ t := by
  fun_induction unstyledText fuel t with
  | case1 => rfl
  | case2 => rfl
  | case3 fuel r rest hpast ih =>
    obtain ⟨code, -, hcode, rfl⟩ := exists_code_of_pastCode? hpast
    simp [ih, hcode]
  | case4 fuel r hpast ih => simp [ih]
  | case5 fuel c r _ ih => simp [ih]

/-- With fuel enough it does not matter how much there is. -/
theorem unstyledText_eq {fuel : Nat} (h : t.length ≤ fuel) {fuel' : Nat} (h' : t.length ≤ fuel') :
    unstyledText fuel t = unstyledText fuel' t := by
  fun_induction unstyledText fuel t generalizing fuel' with
  | case1 t =>
    rw [List.length_eq_zero_iff.1 (Nat.le_zero.1 h)]
    cases fuel' <;> rfl
  | case2 => cases fuel' <;> rfl
  | case3 fuel r rest hpast ih =>
    obtain ⟨code, hne, -, rfl⟩ := exists_code_of_pastCode? hpast
    have := List.length_pos_iff.2 hne
    simp only [List.length_cons, List.length_append] at h h'
    obtain ⟨fuel', rfl⟩ := Nat.exists_eq_add_of_lt (show 0 < fuel' by omega)
    rw [Nat.zero_add, unstyledText, hpast]
    exact ih (by omega) (by omega)
  | case4 fuel r hpast ih =>
    simp only [List.length_cons] at h h' ih
    obtain ⟨fuel', rfl⟩ := Nat.exists_eq_add_of_lt (show 0 < fuel' by omega)
    rw [Nat.zero_add, unstyledText, hpast]
    exact congrArg _ (ih (by omega) (by omega))
  | case5 fuel c r hnot ih =>
    simp only [List.length_cons] at h h'
    obtain ⟨fuel', rfl⟩ := Nat.exists_eq_add_of_lt (show 0 < fuel' by omega)
    rw [Nat.zero_add, unstyledText.eq_4 _ _ _ hnot]
    exact congrArg _ (ih (by omega) (by omega))

/-- A code is not read past a character that cannot stand in one. -/
theorem unstyledText_append {c : Char} (hc : (c == ';' || c == '?' || Text.isDigit c) = false)
    (hletter : Text.isAsciiLetter c = false) (hbracket : c ≠ '[') {fuel fuelRest fuelAll : Nat}
    (h : t.length ≤ fuel) (hrest : (c :: rest).length ≤ fuelRest) (hall : (t ++ c :: rest).length ≤ fuelAll) :
    unstyledText fuelAll (t ++ c :: rest) = unstyledText fuel t ++ unstyledText fuelRest (c :: rest) := by
  fun_induction unstyledText fuel t generalizing fuelAll with
  | case1 t =>
    rw [List.length_eq_zero_iff.1 (Nat.le_zero.1 h)] at hall ⊢
    exact unstyledText_eq hall hrest
  | case2 => exact unstyledText_eq hall hrest
  | case3 fuel r past hpast ih =>
    obtain ⟨code, hne, -, rfl⟩ := exists_code_of_pastCode? hpast
    have := List.length_pos_iff.2 hne
    simp only [List.cons_append, List.length_cons, List.length_append] at h hall ih ⊢
    obtain ⟨fuelAll, rfl⟩ := Nat.exists_eq_add_of_lt (show 0 < fuelAll by omega)
    rw [Nat.zero_add, unstyledText, pastCode?_append hc hletter, hpast]
    exact ih (by omega) (by omega)
  | case4 fuel r hpast ih =>
    simp only [List.cons_append, List.length_cons, List.length_append] at h hall ih ⊢
    obtain ⟨fuelAll, rfl⟩ := Nat.exists_eq_add_of_lt (show 0 < fuelAll by omega)
    rw [Nat.zero_add, unstyledText, pastCode?_append hc hletter, hpast]
    exact congrArg _ (ih (by omega) (by omega))
  | case5 fuel d r hnot ih =>
    simp only [List.cons_append, List.length_cons, List.length_append] at h hall ih ⊢
    obtain ⟨fuelAll, rfl⟩ := Nat.exists_eq_add_of_lt (show 0 < fuelAll by omega)
    have hnot' : ∀ r', d = '\x1b' → r ++ c :: rest = '[' :: r' → False := fun r' hd hr => by
      rcases r with _ | ⟨e, r⟩
      · exact hbracket (List.cons.inj hr).1
      · exact hnot r hd (by rw [(List.cons.inj hr).1])
    rw [Nat.zero_add, unstyledText.eq_4 _ _ _ hnot']
    exact congrArg _ (ih (by omega) (by omega))

/-- A text in which no code starts stays as it is, whatever follows. -/
theorem unstyledText_append_of_not_mem {plain : Text} (hplain : '\x1b' ∉ plain) {fuel fuelRest : Nat}
    (hrest : rest.length ≤ fuelRest) (h : (plain ++ rest).length ≤ fuel) :
    unstyledText fuel (plain ++ rest) = plain ++ unstyledText fuelRest rest := by
  induction plain generalizing fuel with
  | nil => exact unstyledText_eq h hrest
  | cons c plain ih =>
    simp only [List.mem_cons, not_or] at hplain
    simp only [List.cons_append, List.length_cons] at h ⊢
    obtain ⟨fuel, rfl⟩ := Nat.exists_eq_add_of_lt (show 0 < fuel by omega)
    rw [Nat.zero_add, unstyledText.eq_4 _ _ _ fun _ hc => absurd hc.symm hplain.1]
    exact congrArg _ (ih hplain.2 (by omega))

@[simp] theorem unbroken_unstyled (s : String) : Unbroken (unstyled s) ↔ Unbroken s := by
  rw [unstyled, Unbroken.ofList_iff, mem_unstyledText]
  rfl

/-! ## A line for each problem -/

/-- What the line for a problem starts with. -/
def parsableHead (file : String) (p : Problem) : String :=
  s!"{unstyled file}:{p.line}:{p.column}: [{Level.shown p.level}] "

/-- A report with one line for each problem, in their order, that starts with its place. -/
def IsOneLineEach (file : String) (ps : List Problem) (out : Text) : Prop :=
  ∃ ls : List Text, out = ls.flatMap (· ++ ['\n']) ∧ (∀ l ∈ ls, '\n' ∉ l) ∧
    List.Forall₂ (fun p l => (parsableHead file p).toList <+: l) ps ls

variable {file : String} {p : Problem} {ps : List Problem}

theorem toList_printed (ls : List String) :
    (printed ls).toList = (ls.map String.toList).flatMap (· ++ ['\n']) := by
  rw [printed, String.toList_join, List.flatMap_map, List.flatMap_map]
  simp

theorem lines_parsable (ps : List Problem) (file : String) (noWarnings : Bool) :
    lines ps file .parsable noWarnings = (visible noWarnings ps).map (problemLine file · .parsable) := by
  unfold lines
  split
  · next h => rw [h, List.map_nil]
  · simp [head, foot]

theorem count_lineFeed (ls : List Text) :
    (ls.flatMap (· ++ ['\n'])).count '\n' = ls.length + (ls.map (List.count '\n')).sum := by
  induction ls with
  | nil => rfl
  | cons l ls ih =>
    simp only [List.flatMap_cons, List.count_append, List.map_cons, List.sum_cons, List.length_cons, ih]
    simp
    omega

/-- The place in front of a message has no code that sets a style. -/
theorem parsableHead_prefix (file : String) (p : Problem) :
    (parsableHead file p).toList <+: (problemLine file p .parsable).toList := by
  have hdigit : ∀ k, Nat.digitChar k ≠ '\x1b' := fun _ => Nat.digitChar_ne '\x1b' (by decide)
  have hlevel : '\x1b' ∉ (Level.shown p.level).toList := by
    rcases p.level with _ | ⟨⟨⟩⟩ <;> decide
  have hline := Text.not_mem_repr_int hdigit (by decide) p.line
  have hcolumn := Text.not_mem_repr_int hdigit (by decide) p.column
  let place := p.line.repr.toList ++ ':' :: (p.column.repr.toList ++
    ':' :: ' ' :: '[' :: ((Level.shown p.level).toList ++ [']', ' ']))
  have hplace : '\x1b' ∉ ':' :: place := by
    simp [place, hline, hcolumn, hlevel]
  have hparts : (parsableLine file p).toList = file.toList ++ ':' :: (place ++ p.message.toList) := by
    simp [parsableLine, place]
    rfl
  have hhead : (parsableHead file p).toList = (unstyled file).toList ++ ':' :: place := by
    simp [parsableHead, place]
    rfl
  have hcons : ':' :: (place ++ p.message.toList) = (':' :: place) ++ p.message.toList := rfl
  refine ⟨unstyledText p.message.toList.length p.message.toList, ?_⟩
  rw [hhead, problemLine, unstyled, unstyled, String.toList_ofList, String.toList_ofList, hparts,
    ← String.length_toList, ← String.length_toList, hparts,
    unstyledText_append (by decide) (by decide) (by decide) le_rfl le_rfl le_rfl, hcons,
    unstyledText_append_of_not_mem hplace le_rfl le_rfl, List.append_assoc]

theorem unbroken_problemLine (hfile : Unbroken file) (hrule : ∀ r, p.rule = some r → Unbroken r) :
    Unbroken (problemLine file p .parsable) ↔ Unbroken p.desc := by
  have hmessage : Unbroken p.message ↔ Unbroken p.desc := by
    unfold Problem.message
    split
    · next r hr =>
      have hopen : Unbroken " (" := .literal rfl
      have hclose : Unbroken ")" := .literal rfl
      simp [hrule r hr, hopen, hclose]
    · rfl
  rw [problemLine, unbroken_unstyled, parsableLine]
  simp [hfile, Level.unbroken_shown, hmessage]
  exact fun _ => ⟨⟨.literal rfl, .literal rfl⟩, .literal rfl⟩

/-- A report for programs has one line a problem just when the descriptions have no line feed. -/
theorem isOneLineEach_iff (hfile : Unbroken file) (hrules : ∀ p ∈ ps, ∀ r, p.rule = some r → Unbroken r)
    (noWarnings : Bool) :
    IsOneLineEach file (visible noWarnings ps) (printed (lines ps file .parsable noWarnings)).toList ↔
      ∀ p ∈ visible noWarnings ps, Unbroken p.desc := by
  have hshown : ∀ p ∈ visible noWarnings ps,
      (Unbroken (problemLine file p .parsable) ↔ Unbroken p.desc) := fun p hp =>
    unbroken_problemLine hfile (hrules p (List.mem_of_mem_filter hp))
  rw [toList_printed, lines_parsable, List.map_map]
  generalize visible noWarnings ps = shown at hshown
  constructor
  · rintro ⟨ls, heq, hls, hheads⟩ p hp
    have hcount := congrArg (List.count '\n') heq
    have hzero : (ls.map (List.count '\n')).sum = 0 :=
      List.sum_eq_zero fun n hn => by
        obtain ⟨l, hl, rfl⟩ := List.mem_map.1 hn
        exact List.count_eq_zero.2 (hls l hl)
    rw [count_lineFeed, count_lineFeed, hzero, List.length_map, hheads.length_eq] at hcount
    have hsum := List.sum_eq_zero_iff.1 (Nat.left_eq_add.1 hcount.symm) _
      (List.mem_map_of_mem (List.mem_map_of_mem hp))
    exact (hshown p hp).1 (List.count_eq_zero.1 hsum)
  · intro hdescs
    refine ⟨_, rfl, fun l hl => ?_, ?_⟩
    · obtain ⟨p, hp, rfl⟩ := List.mem_map.1 hl
      exact (hshown p hp).2 (hdescs p hp)
    · rw [List.forall₂_map_right_iff, List.forall₂_same]
      exact fun p _ => parsableHead_prefix file p

end Report

end YamlStyle

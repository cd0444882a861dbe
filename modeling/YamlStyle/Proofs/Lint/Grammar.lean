import YamlStyle.Proofs.Lint.Directives
import YamlStyle.Proofs.Regex.Ways
import YamlStyle.Proofs.Text.Words
import YamlStyle.Regex.Parse

/-!
# The grammar of directives

A comment is a directive if its words are those of one (`named?_eq_some_iff`), so it is one of one kind only, and
of the comments that concern a rule the last one counts.
-/

namespace YamlStyle.Directive

open Regex
open scoped Computability

variable {keyword comment : Text} {ids : List Text} {q : Place}

/-- A mark of a comment or a space. -/
def isMark (c : Char) : Bool := c == '#' || Text.isSpace c

/-- A comment says with its words that it is a directive: after its marks come the name of the program, a keyword,
and words for the rules that it names. -/
structure Says (keyword : Text) (ids : List Text) (comment : Text) : Prop where
  marked : comment.head? = some '#'
  words : Text.words Text.isSpace (comment.dropWhile isMark) =
    "yamllint".toList :: keyword :: ids.map ("rule:".toList ++ ·)
  named : [] ∉ ids

/-! ## Sets of characters -/

theorem contains_class (negated : Bool) (c : Char) :
    CharSet.contains .none false ⟨[.ofClass .space negated], false⟩ c = (negated != Text.isSpace c) := by
  show (false != ((negated != Text.isSpace c) || false)) = _
  rw [Bool.or_false, Bool.false_bne]

theorem contains_space : CharSet.contains .none false ⟨[.ofClass .space false], false⟩ = Text.isSpace :=
  funext fun c => (contains_class false c).trans (Bool.false_bne _)

theorem contains_visible : CharSet.contains .none false ⟨[.ofClass .space true], false⟩ = (!Text.isSpace ·) :=
  funext fun c => (contains_class true c).trans (Bool.true_bne _)

theorem contains_mark : CharSet.contains .none false ⟨[.char '#', .ofClass .space false], false⟩ = isMark := by
  funext c
  simp [CharSet.contains, Member.contains, CharClass.contains, Flags.none, isMark]

theorem reads_space : space.Reads (oneChar Text.isSpace) := contains_space ▸ reads_oneOf _

theorem reads_visible : visible.Reads (oneChar (!Text.isSpace ·)) := contains_visible ▸ reads_oneOf _

theorem reads_mark : mark.Reads (oneChar isMark) := contains_mark ▸ reads_oneOf _

theorem mem_many_zero {isWanted : Char → Bool} {u : Text} :
    u ∈ oneChar isWanted ^ 0 * (oneChar isWanted)∗ ↔ ∀ c ∈ u, isWanted c = true := by
  rw [pow_zero, one_mul, mem_kstar_oneChar]

theorem mem_many_one {isWanted : Char → Bool} {u : Text} :
    u ∈ oneChar isWanted ^ 1 * (oneChar isWanted)∗ ↔ u ≠ [] ∧ ∀ c ∈ u, isWanted c = true := by
  rw [pow_one, Language.mem_mul]
  constructor
  · rintro ⟨_, ⟨c, hc, rfl⟩, v, hv, rfl⟩
    exact ⟨by simp, List.forall_mem_cons.2 ⟨hc, mem_kstar_oneChar.1 hv⟩⟩
  · rintro ⟨hne, hu⟩
    obtain ⟨c, v, rfl⟩ := List.exists_cons_of_ne_nil hne
    obtain ⟨hc, hv⟩ := List.forall_mem_cons.1 hu
    exact ⟨[c], ⟨c, hc, rfl⟩, v, mem_kstar_oneChar.2 hv, rfl⟩

/-! ## Lists of rules -/

/-- Names of rules, each after blanks and a mark. -/
def IsListOf : List Text → Text → Prop
  | [], list => list = []
  | id :: ids, list => ∃ blanks rest : Text, list = blanks ++ ("rule:".toList ++ id) ++ rest ∧
      (blanks ≠ [] ∧ ∀ c ∈ blanks, Text.isSpace c = true) ∧ (id ≠ [] ∧ ∀ c ∈ id, Text.isSpace c = false) ∧
      IsListOf ids rest

/-- The language of one rule in a list of rules. -/
def listed : Language Char :=
  oneChar Text.isSpace ^ 1 * (oneChar Text.isSpace)∗ *
    ({"rule:".toList} * (oneChar (!Text.isSpace ·) ^ 1 * (oneChar (!Text.isSpace ·))∗))

theorem mem_listed {u : Text} :
    u ∈ listed ↔ ∃ blanks id : Text, u = blanks ++ ("rule:".toList ++ id) ∧
      (blanks ≠ [] ∧ ∀ c ∈ blanks, Text.isSpace c = true) ∧ (id ≠ [] ∧ ∀ c ∈ id, Text.isSpace c = false) := by
  rw [listed, Language.mem_mul]
  constructor
  · rintro ⟨blanks, hblanks, _, ⟨_, rfl, id, hid, rfl⟩, rfl⟩
    exact ⟨blanks, id, rfl, mem_many_one.1 hblanks, by simpa using mem_many_one.1 hid⟩
  · rintro ⟨blanks, id, rfl, hblanks, hid⟩
    exact ⟨blanks, mem_many_one.2 hblanks, _, ⟨_, rfl, id, mem_many_one.2 (by simpa using hid), rfl⟩, rfl⟩

theorem mem_kstar_listed {list : Text} : list ∈ listed∗ ↔ ∃ ids, IsListOf ids list := by
  rw [Language.mem_kstar]
  constructor
  · rintro ⟨us, rfl, hus⟩
    induction us with
    | nil => exact ⟨[], rfl⟩
    | cons u us ih =>
      obtain ⟨hu, hrest⟩ := List.forall_mem_cons.1 hus
      obtain ⟨ids, hids⟩ := ih hrest
      obtain ⟨blanks, id, rfl, hblanks, hid⟩ := mem_listed.1 hu
      exact ⟨id :: ids, blanks, us.flatten, rfl, hblanks, hid, hids⟩
  · rintro ⟨ids, hids⟩
    induction ids generalizing list with
    | nil => exact ⟨[], hids, nofun⟩
    | cons id ids ih =>
      obtain ⟨blanks, rest, rfl, hblanks, hid, hrest⟩ := hids
      obtain ⟨us, rfl, hus⟩ := ih hrest
      exact ⟨_ :: us, rfl, List.forall_mem_cons.2 ⟨mem_listed.2 ⟨blanks, id, rfl, hblanks, hid⟩, hus⟩⟩

theorem IsListOf.head_blank {list : Text} (h : IsListOf ids list) : ∀ c ∈ list.head?, Text.isSpace c = true := by
  cases ids with
  | nil => rw [show list = [] from h]; nofun
  | cons id ids =>
    obtain ⟨blanks, rest, rfl, ⟨hne, hblanks⟩, -⟩ := h
    intro c hc
    obtain ⟨d, blanks, rfl⟩ := List.exists_cons_of_ne_nil hne
    cases hc
    exact hblanks c (List.mem_cons_self ..)

theorem isSpace_word {word : Text} (h : (word.all fun c => !Text.isSpace c) = true) :
    ∀ c ∈ word, Text.isSpace c = false := by
  simpa using h

theorem isSpace_rule {id : Text} (h : ∀ c ∈ id, Text.isSpace c = false) :
    ∀ c ∈ "rule:".toList ++ id, Text.isSpace c = false :=
  List.forall_mem_append.2 ⟨isSpace_word rfl, h⟩

theorem head_append {x y : Text} {p : Char → Bool} (hx : ∀ c ∈ x.head?, p c = true) (hy : ∀ c ∈ y.head?, p c = true) :
    ∀ c ∈ (x ++ y).head?, p c = true := by
  cases x with
  | nil => exact hy
  | cons c x => exact hx

/-- The words of a list are those of its names. -/
theorem IsListOf.words_append {list blanks : Text} (h : IsListOf ids list)
    (hblanks : ∀ c ∈ blanks, Text.isSpace c = true) :
    Text.words Text.isSpace (list ++ blanks) = ids.map ("rule:".toList ++ ·) ∧ [] ∉ ids := by
  induction ids generalizing list with
  | nil =>
    obtain rfl : list = [] := h
    exact ⟨Text.words_blanks hblanks, List.not_mem_nil⟩
  | cons id ids ih =>
    obtain ⟨before, rest, rfl, ⟨-, hbefore⟩, ⟨hne, hid⟩, hrest⟩ := h
    obtain ⟨hwords, hids⟩ := ih hrest
    have hhead : ∀ c ∈ (rest ++ blanks).head?, Text.isSpace c = true :=
      head_append hrest.head_blank fun c hc => hblanks c (List.mem_of_head? hc)
    refine ⟨?_, List.not_mem_cons_of_ne_of_not_mem hne.symm hids⟩
    rw [List.append_assoc, List.append_assoc, Text.words_blanks_append hbefore,
      Text.words_append (isSpace_rule hid) (by simp) hhead, hwords, List.map_cons]

/-- Words for names, after blanks, are a list of these names. -/
theorem exists_isListOf {rest : Text} (hwords : Text.words Text.isSpace rest = ids.map ("rule:".toList ++ ·))
    (hids : [] ∉ ids) (hhead : ∀ c ∈ rest.head?, Text.isSpace c = true) :
    ∃ list blanks, rest = list ++ blanks ∧ (∀ c ∈ blanks, Text.isSpace c = true) ∧ IsListOf ids list := by
  induction ids generalizing rest with
  | nil =>
    rcases Text.words_cases Text.isSpace rest with ⟨-, hblanks⟩ | ⟨_, _, _, -, hcons, -⟩
    · exact ⟨[], rest, rfl, hblanks, rfl⟩
    · rw [hwords] at hcons
      cases hcons
  | cons id ids ih =>
    obtain ⟨hne, hids⟩ := not_or.1 (fun h => hids (List.mem_cons.2 h))
    obtain ⟨blanks, r, rfl, hr, -, hblanksne, hblanks, hword, hhead⟩ := Text.exists_of_words_cons hwords hhead
    obtain ⟨list, after, rfl, hafter, hlist⟩ := ih hr hids hhead
    refine ⟨blanks ++ ("rule:".toList ++ id) ++ list, after, by simp, hafter, blanks, list, rfl, ⟨hblanksne, hblanks⟩,
      ⟨Ne.symm hne, fun c hc => hword c (List.mem_append_right _ hc)⟩, hlist⟩

/-! ## Names in a list -/

theorem allFrom_succ (p : Pattern) (t : Subject) (o count : Nat) :
    p.allFrom t o (count + 1) =
      match p.at? t o with
      | some q => q :: p.allFrom t q.offset count
      | none => p.allFrom t (o + 1) count := rfl

/-- A name is found up to its end. -/
theorem at?_name {id : Text} (hne : id ≠ []) (hid : ∀ c ∈ id, Text.isSpace c = false) {rest : Text}
    (hrest : ∀ c ∈ rest.head?, Text.isSpace c = true) (before : Text) :
    name.at? (before ++ ("rule:".toList ++ (id ++ rest))).toArray before.length =
      some ⟨(before ++ "rule:".toList ++ id).length,
        [⟨1, (before ++ "rule:".toList).length, some (before ++ "rule:".toList ++ id).length⟩]⟩ := by
  have hvisible : ∀ c ∈ id, CharSet.contains .none false ⟨[.ofClass .space true], false⟩ c = true := by
    simpa [contains_visible] using hid
  have hblank : ∀ c ∈ rest.head?, CharSet.contains .none false ⟨[.ofClass .space true], false⟩ c = false := by
    simpa [contains_visible] using hrest
  rw [name, at?_eq, waysAt_literal_append, waysAt_group, List.head?_map, visible, head?_waysAt_many _ hvisible hne hblank,
    Option.map_some, leave_singleton]

/-- There is no name where a blank is, or nothing. -/
theorem at?_name_eq_none {rest : Text} (h : ∀ c ∈ rest.head?, Text.isSpace c = true) (before : Text) :
    name.at? (before ++ rest).toArray before.length = none := by
  rw [name, at?_eq, List.head?_eq_none_iff, List.eq_nil_iff_forall_not_mem]
  intro q hq
  obtain ⟨v, rfl, -⟩ := (mem_waysAt_literal _ _).1 hq
  have hr := h 'r' rfl
  cases hr

theorem allFrom_name_blanks {t blanks rest : Text} (h : ∀ c ∈ blanks, Text.isSpace c = true) {before : Text}
    (ht : t = before ++ (blanks ++ rest)) (count : Nat) :
    name.allFrom t.toArray before.length (blanks.length + count) = name.allFrom t.toArray (before ++ blanks).length count := by
  induction blanks generalizing before with
  | nil => rw [List.length_nil, Nat.zero_add, List.append_nil]
  | cons c blanks ih =>
    obtain ⟨hc, hblanks⟩ := List.forall_mem_cons.1 h
    have hnone : name.at? t.toArray before.length = none := by
      rw [ht]
      exact at?_name_eq_none (fun d hd => by cases hd; exact hc) before
    have hcount : (c :: blanks).length + count = (blanks.length + count) + 1 := by rw [List.length_cons]; omega
    have hlength : before.length + 1 = (before ++ [c]).length := by simp
    rw [hcount, allFrom_succ, hnone]
    dsimp only
    rw [hlength, ih hblanks (by rw [ht]; simp), List.append_assoc]
    rfl

/-- Past the end of a text there is no name. -/
theorem allFrom_name_eq_nil {t : Text} {o : Nat} (h : t.length ≤ o) (count : Nat) : name.allFrom t.toArray o count = [] := by
  induction count generalizing o with
  | zero => rfl
  | succ count ih =>
    have hnone : name.at? t.toArray o = none := by
      have hchar : t.toArray[o]? = none := by rw [List.getElem?_toArray, List.getElem?_eq_none h]
      have hname : name.regex = .seq (.char 'r' false) (literal "ule:".toList (.group 1 (many 1 visible))) := rfl
      rw [Pattern.at?, hname, matcher, matcher]
      dsimp only [Matcher.one]
      rw [hchar]
    rw [allFrom_succ, hnone]
    exact ih (Nat.le_succ_of_le h)

theorem filterMap_allFrom_name {t list before : Text} (h : IsListOf ids list) (ht : t = before ++ list) {count : Nat}
    (hcount : list.length < count) :
    (name.allFrom t.toArray before.length count).filterMap (·.group? t 1) = ids := by
  induction ids generalizing list before count with
  | nil =>
    obtain rfl : list = [] := h
    rw [allFrom_name_eq_nil (by rw [ht]; simp)]
    rfl
  | cons id ids ih =>
    obtain ⟨blanks, rest, rfl, ⟨-, hblanks⟩, ⟨hne, hid⟩, hrest⟩ := h
    obtain ⟨m, rfl⟩ : ∃ m, count = blanks.length + (m + 1) := by
      refine ⟨count - blanks.length - 1, ?_⟩
      simp only [List.length_append] at hcount
      omega
    have hfound := at?_name hne hid hrest.head_blank (before ++ blanks)
    have htext : before ++ blanks ++ ("rule:".toList ++ (id ++ rest)) = t := by rw [ht]; simp
    rw [htext] at hfound
    have hgroup := group?_singleton 1 (before ++ blanks ++ "rule:".toList ++ id).length
      (before ++ blanks ++ "rule:".toList) id rest
    have htext' : before ++ blanks ++ "rule:".toList ++ id ++ rest = t := by rw [ht]; simp
    rw [htext'] at hgroup
    have hblanksText : t = before ++ (blanks ++ ("rule:".toList ++ id ++ rest)) := by rw [ht, List.append_assoc blanks]
    have hlater : rest.length < m := by
      have hmark : "rule:".toList.length = 5 := rfl
      simp only [List.length_append] at hcount
      omega
    rw [allFrom_name_blanks hblanks hblanksText, allFrom_succ, hfound]
    dsimp only
    rw [List.filterMap_cons, hgroup]
    exact congrArg (id :: ·) (ih hrest htext'.symm hlater)

theorem groups_name {list : Text} (h : IsListOf ids list) : name.groups 1 list = ids :=
  filterMap_allFrom_name h (List.nil_append list).symm (Nat.lt_succ_self _)

/-! ## Patterns -/

/-- What comes before the list of rules in a directive. -/
def Heads (keyword before : Text) : Prop :=
  ∃ marks blanks : Text, before = '#' :: marks ++ "yamllint".toList ++ blanks ++ keyword ∧
    (∀ c ∈ marks, isMark c = true) ∧ blanks ≠ [] ∧ ∀ c ∈ blanks, Text.isSpace c = true

/-- A comment says that it is a directive if it has the parts of one. -/
theorem says_iff (hkeyword : keyword ≠ [] ∧ ∀ c ∈ keyword, Text.isSpace c = false) :
    Says keyword ids comment ↔ ∃ before list blanks, comment = before ++ list ++ blanks ∧ Heads keyword before ∧
      IsListOf ids list ∧ ∀ c ∈ blanks, Text.isSpace c = true := by
  constructor
  · rintro ⟨hmarked, hwords, hnamed⟩
    obtain ⟨r, rfl⟩ := List.head?_eq_some_iff.1 hmarked
    have hr : '#' :: r = '#' :: r.takeWhile isMark ++ r.dropWhile isMark := by
      rw [List.cons_append, List.takeWhile_append_dropWhile]
    rw [List.dropWhile_cons_of_pos (by rfl)] at hwords
    have hmarks : ∀ c ∈ r.takeWhile isMark, isMark c = true := fun c hc => List.mem_takeWhile_imp hc
    have hhead := List.head?_dropWhile_not isMark r
    generalize r.takeWhile isMark = marks at hr hmarks
    generalize r.dropWhile isMark = rest at hr hwords hhead
    rcases Text.words_cases Text.isSpace rest with ⟨hnone, -⟩ | ⟨before, word, rest, rfl, hcons, -, hbefore, -, hrest⟩
    · rw [hwords] at hnone
      cases hnone
    · obtain ⟨rfl, hlater⟩ := List.cons.inj (hcons.symm.trans hwords)
      obtain rfl : before = [] := by
        -- A blank would be a mark.
        cases before with
        | nil => rfl
        | cons c before =>
          rw [List.append_assoc, List.cons_append, List.head?_cons] at hhead
          simp [isMark, hbefore c (List.mem_cons_self ..)] at hhead
      obtain ⟨gap, rest, rfl, hnames, -, hne, hgap, -, hrest⟩ := Text.exists_of_words_cons hlater hrest
      obtain ⟨list, blanks, rfl, hblanks, hlist⟩ := exists_isListOf hnames hnamed hrest
      refine ⟨_, list, blanks, ?_, ⟨marks, gap, rfl, hmarks, hne, hgap⟩, hlist, hblanks⟩
      rw [hr]
      simp
  · rintro ⟨before, list, blanks, rfl, ⟨marks, gap, rfl, hmarks, hne, hgap⟩, hlist, hblanks⟩
    obtain ⟨hwords, hnamed⟩ := hlist.words_append hblanks
    refine ⟨rfl, ?_, hnamed⟩
    have hdrop : ('#' :: marks ++ "yamllint".toList ++ gap ++ keyword ++ list ++ blanks).dropWhile isMark =
        "yamllint".toList ++ (gap ++ (keyword ++ (list ++ blanks))) := by
      simp only [List.append_assoc]
      rw [List.dropWhile_append_of_pos]
      · rfl
      · exact List.forall_mem_cons.2 ⟨rfl, hmarks⟩
    rw [hdrop, Text.words_append (isSpace_word rfl) (by simp), Text.words_blanks_append hgap, Text.words_append hkeyword.2 hkeyword.1,
      hwords]
    · exact head_append hlist.head_blank fun c hc => hblanks c (List.mem_of_head? hc)
    · obtain ⟨c, gap, rfl⟩ := List.exists_cons_of_ne_nil hne
      intro d hd
      cases hd
      exact hgap c (List.mem_cons_self ..)

/-- The ways of a pattern for directives lead past what comes before the list of rules, and go on from there. -/
theorem mem_waysAt_pattern {more : Regex → Regex} :
    q ∈ waysAt (Directive.pattern keyword more).regex [] comment [] ↔
      ∃ before rest : Text, comment = before ++ rest ∧ Heads keyword before ∧
        q ∈ waysAt (more (.seq (many 0 space) (.boundary .stop))) before rest [] := by
  simp only [Directive.pattern, waysAt_seq_start, mem_waysAt_literal, mem_waysAt_seq (Reads.many reads_mark 0),
    mem_waysAt_seq (Reads.many reads_space 1), mem_many_zero, mem_many_one]
  constructor
  · rintro ⟨_, rfl, marks, _, rfl, hmarks, _, rfl, gap, _, rfl, ⟨hne, hgap⟩, rest, rfl, hq⟩
    exact ⟨_, rest, by simp, ⟨marks, gap, rfl, hmarks, hne, hgap⟩, hq⟩
  · rintro ⟨_, rest, rfl, ⟨marks, gap, rfl, hmarks, hne, hgap⟩, hq⟩
    exact ⟨_, by simp, marks, _, rfl, hmarks, _, rfl, gap, _, rfl, ⟨hne, hgap⟩, rest, rfl, hq⟩

/-- What comes at the end of a directive: blanks, and a break may be the last of them. -/
theorem mem_waysAt_ending {before rest : Text} {spans : List Span} :
    q ∈ waysAt (.seq (many 0 space) (.boundary .stop)) before rest spans ↔
      ∃ blanks last : Text, rest = blanks ++ last ∧ (∀ c ∈ blanks ++ last, Text.isSpace c = true) ∧
        (last = [] ∨ last = ['\n']) ∧ q = ⟨(before ++ blanks).length, spans⟩ := by
  rw [mem_waysAt_seq (Reads.many reads_space 0)]
  simp only [mem_many_zero, mem_waysAt_stop]
  constructor
  · rintro ⟨blanks, last, rfl, hblanks, hlast, rfl⟩
    refine ⟨blanks, last, rfl, List.forall_mem_append.2 ⟨hblanks, ?_⟩, hlast, rfl⟩
    rcases hlast with rfl | rfl
    · nofun
    · exact List.forall_mem_singleton.2 rfl
  · rintro ⟨blanks, last, rfl, hblanks, hlast, rfl⟩
    exact ⟨blanks, last, rfl, (List.forall_mem_append.1 hblanks).1, hlast, rfl⟩

/-- The ways of the list of rules and of what comes after it: the group has the list. -/
theorem mem_waysAt_names {before rest : Text} :
    q ∈ waysAt (.seq names (.seq (many 0 space) (.boundary .stop))) before rest [] ↔
      ∃ list blanks last : Text, rest = list ++ (blanks ++ last) ∧ list ∈ listed∗ ∧
        (∀ c ∈ blanks ++ last, Text.isSpace c = true) ∧ (last = [] ∨ last = ['\n']) ∧
        q = ⟨(before ++ list ++ blanks).length, [⟨1, before.length, some (before ++ list).length⟩]⟩ := by
  have hlist : (many 0 (.part .same (.seq (many 1 space) (literal "rule:".toList (many 1 visible))))).Reads
      (listed ^ 0 * listed∗) :=
    ((Reads.many reads_space 1).seq ((Reads.many reads_visible 1).literal _)).part.many 0
  rw [pow_zero, one_mul] at hlist
  simp only [names, mem_waysAt_seq_group hlist, mem_waysAt_ending]
  constructor
  · rintro ⟨list, _, rfl, hlist, blanks, last, rfl, hblanks, hlast, rfl⟩
    exact ⟨list, blanks, last, rfl, hlist, hblanks, hlast, rfl⟩
  · rintro ⟨list, blanks, last, rfl, hlist, hblanks, hlast, rfl⟩
    exact ⟨list, _, rfl, hlist, blanks, last, rfl, hblanks, hlast, rfl⟩

/-- A file is turned off if its first line says so with its words, whatever breaks the line. -/
theorem isDisableFile_iff {line : Text} :
    isDisableFile line = true ↔ Says "disable-file".toList [] (line.trimEnd (· == '\r')) := by
  rw [isDisableFile, says_iff ⟨by decide, isSpace_word rfl⟩]
  generalize line.trimEnd (· == '\r') = comment
  have hat : (Directive.pattern "disable-file".toList id).at? comment.toArray 0 =
      (waysAt (Directive.pattern "disable-file".toList id).regex [] comment []).head? :=
    at?_eq _ [] comment
  rw [hat, List.isSome_head?, ← List.isEmpty_eq_false_iff, List.isEmpty_eq_false_iff_exists_mem]
  simp only [mem_waysAt_pattern, id, mem_waysAt_ending]
  constructor
  · rintro ⟨_, before, _, rfl, hbefore, blanks, last, rfl, hblanks, -, rfl⟩
    exact ⟨before, [], blanks ++ last, by simp, hbefore, rfl, hblanks⟩
  · rintro ⟨before, list, blanks, rfl, hbefore, hlist, hblanks⟩
    obtain rfl : list = [] := hlist
    exact ⟨_, before, blanks, by simp, hbefore, blanks, [], by simp, by simpa using hblanks, .inl rfl, rfl⟩

/-! ## Kinds of directives -/

namespace Kind

variable {j k : Kind} {named : List String}

theorem keyword_injective : Function.Injective Kind.keyword := by
  intro j k h
  cases j <;> cases k <;> first | rfl | exact absurd h (by decide)

theorem keyword_isWord (k : Kind) : k.keyword ≠ [] ∧ ∀ c ∈ k.keyword, Text.isSpace c = false := by
  cases k <;> exact ⟨by decide, isSpace_word rfl⟩

/-- How the pattern of a kind is written. -/
def written (k : Kind) : Text :=
  "^#[#\\s]*yamllint\\s+".toList ++ k.keyword ++ "((?:\\s+rule:\\S+)*)\\s*$".toList

theorem ofText_written (k : Kind) : (Pattern.ofText k.written).toOption = some k.pattern := by
  cases k <;> decide +kernel

theorem at?_pattern (k : Kind) (comment : Text) :
    k.pattern.at? comment.toArray 0 = (waysAt k.pattern.regex [] comment []).head? :=
  at?_eq k.pattern.regex [] comment

/-- Where a pattern matches a comment says that it is a directive, and the group has the list of its rules. -/
theorem says_of_at? (h : k.pattern.at? comment.toArray 0 = some q) :
    ∃ ids list, q.group? comment 1 = some list ∧ IsListOf ids list ∧ Says k.keyword ids comment := by
  rw [at?_pattern] at h
  obtain ⟨before, _, rfl, hbefore, hq⟩ := mem_waysAt_pattern.1 (List.mem_of_head? h)
  obtain ⟨list, blanks, last, rfl, hlist, hend, -, rfl⟩ := mem_waysAt_names.1 hq
  obtain ⟨ids, hids⟩ := mem_kstar_listed.1 hlist
  rw [← List.append_assoc]
  exact ⟨ids, list, group?_singleton .., hids,
    (says_iff k.keyword_isWord).2 ⟨before, list, blanks ++ last, rfl, hbefore, hids, hend⟩⟩

theorem exists_at? (h : Says k.keyword ids comment) : ∃ q, k.pattern.at? comment.toArray 0 = some q := by
  obtain ⟨before, list, blanks, rfl, hbefore, hlist, hblanks⟩ := (says_iff k.keyword_isWord).1 h
  have hend : before ++ list ++ blanks = before ++ (list ++ (blanks ++ [])) := by simp
  have hmem := mem_waysAt_pattern.2 ⟨before, _, hend, hbefore, mem_waysAt_names.2
    ⟨list, blanks, [], rfl, mem_kstar_listed.2 ⟨ids, hlist⟩, by simpa using hblanks, .inl rfl, rfl⟩⟩
  rw [at?_pattern]
  exact Option.isSome_iff_exists.1 (List.isSome_head?.2 (List.ne_nil_of_mem hmem))

theorem isSome_at?_iff : (k.pattern.at? comment.toArray 0).isSome ↔ ∃ ids, Says k.keyword ids comment := by
  rw [Option.isSome_iff_exists]
  constructor
  · rintro ⟨q, hq⟩
    obtain ⟨ids, -, -, -, hsays⟩ := says_of_at? hq
    exact ⟨ids, hsays⟩
  · rintro ⟨ids, hsays⟩
    exact exists_at? hsays

end Kind

/-- A comment says one thing only. -/
theorem Says.unique {keyword' : Text} {ids' : List Text} (h : Says keyword ids comment) (h' : Says keyword' ids' comment) :
    keyword = keyword' ∧ ids = ids' := by
  have hwords := h.words.symm.trans h'.words
  simp only [List.cons.injEq, true_and] at hwords
  refine ⟨hwords.1, List.map_injective_iff.2 ?_ hwords.2⟩
  exact fun x y hxy => List.append_cancel_left hxy

namespace Kind

variable {j k : Kind} {named : List String}

theorem named?_eq_some_iff : k.named? comment = some named ↔ Says k.keyword (named.map String.toList) comment := by
  have hread {q : Place} (hq : k.pattern.at? comment.toArray 0 = some q) :
      ∃ ids, k.named? comment = some (ids.map String.ofList) ∧ Says k.keyword ids comment := by
    obtain ⟨ids, list, hgroup, hlist, hsays⟩ := says_of_at? hq
    refine ⟨ids, ?_, hsays⟩
    rw [named?, hq]
    simp [hgroup, groups_name hlist]
  have hof (ids : List Text) : (ids.map String.ofList).map String.toList = ids := by
    simp [Function.comp_def]
  have hto (ids : List String) : (ids.map String.toList).map String.ofList = ids := by
    simp [Function.comp_def]
  constructor
  · intro h
    obtain ⟨q, hq, -⟩ := Option.bind_eq_some_iff.1 h
    obtain ⟨ids, hids, hsays⟩ := hread hq
    obtain rfl : ids.map String.ofList = named := Option.some.inj (hids.symm.trans h)
    rwa [hof]
  · intro h
    obtain ⟨q, hq⟩ := exists_at? h
    obtain ⟨ids, hids, hsays⟩ := hread hq
    rw [hids, ← (h.unique hsays).2, hto]

/-- No comment is a directive of two kinds. -/
theorem eq_of_isSome_at? (hj : (j.pattern.at? comment.toArray 0).isSome) (hk : (k.pattern.at? comment.toArray 0).isSome) :
    j = k := by
  obtain ⟨ids, hids⟩ := isSome_at?_iff.1 hj
  obtain ⟨ids', hids'⟩ := isSome_at?_iff.1 hk
  exact keyword_injective (hids.unique hids').1

theorem eq_of_named? {named' : List String} (hj : j.named? comment = some named) (hk : k.named? comment = some named') :
    j = k :=
  keyword_injective ((named?_eq_some_iff.1 hj).unique (named?_eq_some_iff.1 hk)).1

theorem named?_eq_none (hj : j.named? comment = some named) (hne : k ≠ j) : k.named? comment = none := by
  cases h : k.named? comment with
  | none => rfl
  | some named' => exact absurd (eq_of_named? h hj) hne

/-- A directive of a kind that concerns a rule: it names the rule, or none. -/
def Concerns (k : Kind) (rule : String) (comment : Text) : Prop :=
  ∃ named, k.named? comment = some named ∧ (named = [] ∨ rule ∈ named)

theorem concerns_iff {rule : String} : k.Concerns rule comment ↔ ∃ named, k.named? comment = some named ∧ covers named rule = true := by
  simp [Concerns, covers]

end Kind

/-- What is off after a comment, said of the kinds of directives. -/
theorem isOffAfter_iff {rule : String} {off : Bool} :
    isOffAfter rule off comment = true ↔
      Kind.disable.Concerns rule comment ∨ (off = true ∧ ¬ Kind.enable.Concerns rule comment) := by
  rw [Kind.concerns_iff, Kind.concerns_iff, isOffAfter, ofComment?]
  cases hdisable : Kind.disable.named? comment with
  | some named =>
    have henable := Kind.named?_eq_none (k := .enable) hdisable (by decide)
    simp [henable, hdisable, Kind.directive, or_comm]
  | none =>
    cases henable : Kind.enable.named? comment with
    | some named =>
      simp [henable, hdisable, Kind.directive]
    | none =>
      cases hline : Kind.disableLine.named? comment with
      | some named => simp [henable, hdisable, hline, Kind.directive]
      | none => simp [henable, hdisable, hline]

/-- The last directive that concerns a rule is one that disables it. -/
def LastDisables (rule : String) (comments : List Text) : Prop :=
  ∃ before c after, comments = before ++ c :: after ∧ Kind.disable.Concerns rule c ∧
    ∀ d ∈ after, ¬ Kind.disable.Concerns rule d ∧ ¬ Kind.enable.Concerns rule d

theorem lastDisables_concat {rule : String} {comments : List Text} :
    LastDisables rule (comments ++ [comment]) ↔ Kind.disable.Concerns rule comment ∨
      (LastDisables rule comments ∧ ¬ Kind.enable.Concerns rule comment) := by
  constructor
  · rintro ⟨before, c, after, heq, hc, hafter⟩
    rcases List.eq_nil_or_concat' after with rfl | ⟨after, d, rfl⟩
    · obtain ⟨-, hlast⟩ := List.append_inj' heq rfl
      obtain ⟨rfl, -⟩ := List.cons.inj hlast
      exact .inl hc
    · rw [← List.cons_append, ← List.append_assoc] at heq
      obtain ⟨rfl, hlast⟩ := List.append_inj' heq rfl
      obtain ⟨rfl, -⟩ := List.cons.inj hlast
      exact .inr ⟨⟨before, c, after, rfl, hc, fun d hd => hafter d (List.mem_append_left _ hd)⟩,
        (hafter comment (by simp)).2⟩
  · intro h
    by_cases hdisable : Kind.disable.Concerns rule comment
    · exact ⟨comments, comment, [], rfl, hdisable, nofun⟩
    · obtain ⟨⟨before, c, after, rfl, hc, hafter⟩, henable⟩ := h.resolve_left hdisable
      refine ⟨before, c, after ++ [comment], by simp, hc, ?_⟩
      exact List.forall_mem_append.2 ⟨hafter, List.forall_mem_singleton.2 ⟨hdisable, henable⟩⟩

end YamlStyle.Directive

namespace YamlStyle.DisabledRules

variable {all : List String} {rule : String}

theorem contains_foldl_after (h : rule ∈ all) {comments : List Text} :
    (comments.foldl (after all) []).contains rule = true ↔ Directive.LastDisables rule comments := by
  induction comments using List.reverseRecOn with
  | nil => exact iff_of_false (by simp) (by rintro ⟨before, c, after, heq, -⟩; simp at heq)
  | append_singleton comments comment ih =>
    rw [List.foldl_append, List.foldl_cons, List.foldl_nil, contains_after h, Directive.isOffAfter_iff, ih,
      Directive.lastDisables_concat]

/-- A rule is off after some comments if it is a rule of the run and the last directive that concerns it is one
that disables it. -/
theorem mem_foldl_after_iff {comments : List Text} :
    rule ∈ comments.foldl (after all) [] ↔ rule ∈ all ∧ Directive.LastDisables rule comments := by
  constructor
  · intro h
    have hall := mem_of_mem_foldl_after h
    exact ⟨hall, (contains_foldl_after hall).1 (List.contains_iff_mem.2 h)⟩
  · rintro ⟨hall, hlast⟩
    exact List.contains_iff_mem.1 ((contains_foldl_after hall).2 hlast)

end YamlStyle.DisabledRules

namespace YamlStyle.Directive

/-- A pattern for directives matches a comment if the words of the comment say so, and the rules are those that the
words name; no comment matches two of the patterns. After any comments a rule is off if it is a rule of the run and
the last directive that names it, or none, is one that disables. -/
theorem grammar_and_effect :
    (∀ (k : Kind) (comment : Text), (k.pattern.at? comment.toArray 0).isSome ↔ ∃ ids, Says k.keyword ids comment) ∧
      (∀ (k : Kind) (comment : Text) (named : List String),
        k.named? comment = some named ↔ Says k.keyword (named.map String.toList) comment) ∧
      (∀ (j k : Kind) (comment : Text),
        (j.pattern.at? comment.toArray 0).isSome → (k.pattern.at? comment.toArray 0).isSome → j = k) ∧
      ∀ (all : List String) (comments : List Text) (rule : String),
        rule ∈ comments.foldl (DisabledRules.after all) [] ↔ rule ∈ all ∧ LastDisables rule comments :=
  ⟨fun _ _ => Kind.isSome_at?_iff, fun _ _ _ => Kind.named?_eq_some_iff, fun _ _ _ => Kind.eq_of_isSome_at?,
    fun _ _ _ => DisabledRules.mem_foldl_after_iff⟩

/-- Two rules are turned off, and one of them on again. -/
def offAndOn : List Text := ["## yamllint disable rule:a\trule:b ".toList, "#yamllint enable rule:a".toList]

theorem grammar_and_effect_offAndOn :
    Kind.disable.named? "## yamllint disable rule:a\trule:b ".toList = some ["a", "b"] ∧
      Kind.enable.named? "#yamllint enable rule:a".toList = some ["a"] ∧
      "b" ∈ offAndOn.foldl (DisabledRules.after ["a", "b"]) [] ∧ "a" ∉ offAndOn.foldl (DisabledRules.after ["a", "b"]) [] := by
  obtain ⟨-, hnamed, -, heffect⟩ := grammar_and_effect
  have hoff : Kind.disable.named? "## yamllint disable rule:a\trule:b ".toList = some ["a", "b"] :=
    (hnamed _ _ _).2 ⟨rfl, rfl, by decide⟩
  have hon : Kind.enable.named? "#yamllint enable rule:a".toList = some ["a"] :=
    (hnamed _ _ _).2 ⟨rfl, rfl, by decide⟩
  have hdisable (rule : String) : ¬ Kind.disable.Concerns rule "#yamllint enable rule:a".toList := by
    rintro ⟨named, hnamed, -⟩
    cases Kind.eq_of_named? hnamed hon
  refine ⟨hoff, hon, (heffect _ _ _).2 ⟨by decide, ?_⟩, fun ha => ?_⟩
  · refine ⟨[], _, _, rfl, ⟨_, hoff, .inr (by decide)⟩, List.forall_mem_singleton.2 ⟨hdisable _, ?_⟩⟩
    rintro ⟨named, hnamed, hconcerns⟩
    obtain rfl : named = ["a"] := Option.some.inj (hnamed.symm.trans hon)
    exact absurd hconcerns (by decide)
  · have hcomments : offAndOn = [offAndOn.head (by decide)] ++ ["#yamllint enable rule:a".toList] := rfl
    have hlast := ((heffect _ _ _).1 ha).2
    rw [hcomments] at hlast
    rcases lastDisables_concat.1 hlast with hlast | ⟨-, henable⟩
    · exact hdisable _ hlast
    · exact henable ⟨["a"], hon, .inr (by decide)⟩

end YamlStyle.Directive

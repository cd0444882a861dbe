import Mathlib.Data.List.TakeWhile
import YamlStyle.Text.Basic

/-!
# Words of a text

A text without words is blank, and any other text is blanks, its first word and what comes after it
(`words_cases`).
-/

namespace YamlStyle.Text

variable {p : Char → Bool} {word blanks rest t : Text}

theorem words_go_nil (p : Char → Bool) (read : Text) :
    words.go p [] read = if read.isEmpty then [] else [read.reverse] := rfl

theorem words_go_cons (p : Char → Bool) (c : Char) (rest read : Text) :
    words.go p (c :: rest) read =
      if p c then if read.isEmpty then words.go p rest [] else read.reverse :: words.go p rest []
      else words.go p rest (c :: read) := rfl

theorem words_go_append (h : ∀ c ∈ word, p c = false) (rest read : Text) :
    words.go p (word ++ rest) read = words.go p rest (word.reverse ++ read) := by
  induction word generalizing read with
  | nil => rfl
  | cons c word ih =>
    rw [List.cons_append, words_go_cons, h c (.head _), if_neg Bool.false_ne_true, ih fun d hd => h d (.tail _ hd),
      List.reverse_cons, List.append_assoc]
    rfl

theorem words_go_blanks (h : ∀ c ∈ blanks, p c = true) (rest : Text) :
    words.go p (blanks ++ rest) [] = words.go p rest [] := by
  induction blanks with
  | nil => rfl
  | cons c blanks ih =>
    rw [List.cons_append, words_go_cons, h c (.head _), if_pos rfl]
    exact ih fun d hd => h d (.tail _ hd)

/-- What has been read of a word is the start of the next word. -/
theorem exists_words_go (rest : Text) {read : Text} (hread : read ≠ []) :
    ∃ more others, words.go p rest read = (read.reverse ++ more) :: others := by
  have hempty : ∀ {read : Text}, read ≠ [] → read.isEmpty = false := List.isEmpty_eq_false_iff.2
  induction rest generalizing read with
  | nil => exact ⟨[], [], by rw [words_go_nil, hempty hread, List.append_nil]; rfl⟩
  | cons c rest ih =>
    rw [words_go_cons]
    split
    · exact ⟨[], _, by rw [hempty hread, List.append_nil]; rfl⟩
    · obtain ⟨more, others, hgo⟩ := ih (List.cons_ne_nil c read)
      exact ⟨c :: more, others, by rw [hgo, List.reverse_cons, List.append_assoc]; rfl⟩

theorem words_blanks_append (h : ∀ c ∈ blanks, p c = true) (rest : Text) : words p (blanks ++ rest) = words p rest :=
  words_go_blanks h rest

theorem words_blanks (h : ∀ c ∈ blanks, p c = true) : words p blanks = [] := by
  have hgo := words_blanks_append h []
  rw [List.append_nil] at hgo
  rw [hgo]
  rfl

/-- A word ends where a blank follows or nothing. -/
theorem words_append (h : ∀ c ∈ word, p c = false) (hne : word ≠ []) (hrest : ∀ c ∈ rest.head?, p c = true) :
    words p (word ++ rest) = word :: words p rest := by
  have hempty : word.reverse.isEmpty = false := List.isEmpty_eq_false_iff.2 (List.reverse_ne_nil_iff.2 hne)
  rw [words, words_go_append h, List.append_nil, words]
  cases rest with
  | nil => rw [words_go_nil, hempty, List.reverse_reverse]; rfl
  | cons c rest =>
    rw [words_go_cons, words_go_cons, hrest c rfl, if_pos rfl, if_pos rfl, hempty, List.reverse_reverse]
    rfl

theorem words_of_word (h : ∀ c ∈ word, p c = false) (hne : word ≠ []) : words p word = [word] := by
  have hword : words p (word ++ []) = word :: words p [] := words_append h hne nofun
  rwa [List.append_nil] at hword

/-- A text is blank, or blanks before a word. -/
theorem words_cases (p : Char → Bool) (t : Text) :
    (words p t = [] ∧ ∀ c ∈ t, p c = true) ∨
      ∃ blanks word rest, t = blanks ++ word ++ rest ∧ words p t = word :: words p rest ∧ word ≠ [] ∧
        (∀ c ∈ blanks, p c = true) ∧ (∀ c ∈ word, p c = false) ∧ ∀ c ∈ rest.head?, p c = true := by
  have hblanks : ∀ c ∈ t.takeWhile p, p c = true := fun c hc => List.mem_takeWhile_imp hc
  have ht : t = t.takeWhile p ++ t.dropWhile p := List.takeWhile_append_dropWhile.symm
  cases hr : t.dropWhile p with
  | nil =>
    rw [hr, List.append_nil] at ht
    rw [← ht] at hblanks
    exact .inl ⟨words_blanks hblanks, hblanks⟩
  | cons c r =>
    have hc : p c = false := by simpa [hr] using List.head?_dropWhile_not p t
    have hword : ∀ d ∈ (c :: r).takeWhile (!p ·), p d = false := fun d hd => by simpa using List.mem_takeWhile_imp hd
    have hne : (c :: r).takeWhile (!p ·) ≠ [] := by simp [hc]
    have hrest : ∀ d ∈ ((c :: r).dropWhile (!p ·)).head?, p d = true := by
      intro d hd
      have hnot := List.head?_dropWhile_not (!p ·) (c :: r)
      rw [Option.mem_def.1 hd] at hnot
      simpa using hnot
    have hsplit : t = t.takeWhile p ++ (c :: r).takeWhile (!p ·) ++ (c :: r).dropWhile (!p ·) := by
      rw [List.append_assoc, List.takeWhile_append_dropWhile, ← hr, ← ht]
    have hwords := congrArg (words p) hsplit
    rw [List.append_assoc, words_blanks_append hblanks, words_append hword hne hrest] at hwords
    exact .inr ⟨_, _, _, hsplit, hwords, hne, hblanks, hword, hrest⟩

/-- The first word of a text that does not start with it comes after blanks. -/
theorem exists_of_words_cons {ws : List Text} (h : words p t = word :: ws) (hhead : ∀ c ∈ t.head?, p c = true) :
    ∃ blanks rest, t = blanks ++ word ++ rest ∧ words p rest = ws ∧ word ≠ [] ∧ blanks ≠ [] ∧
      (∀ c ∈ blanks, p c = true) ∧ (∀ c ∈ word, p c = false) ∧ ∀ c ∈ rest.head?, p c = true := by
  rcases words_cases p t with ⟨hnone, -⟩ | ⟨blanks, word', rest, rfl, hwords, hne, hblanks, hword, hrest⟩
  · rw [hnone] at h
    cases h
  · obtain ⟨rfl, hws⟩ := List.cons.inj (hwords.symm.trans h)
    refine ⟨blanks, rest, rfl, hws, hne, ?_, hblanks, hword, hrest⟩
    rintro rfl
    obtain ⟨c, word, rfl⟩ := List.exists_cons_of_ne_nil hne
    have hc := hhead c rfl
    rw [hword c (List.mem_cons_self ..)] at hc
    cases hc

end YamlStyle.Text

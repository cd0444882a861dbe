import Mathlib
import YamlStyle.Lexeme.Basic
import YamlStyle.Yaml.TokenStream

/-!
# The layout of tokens

How tokens stand to the block collections around them. Block ends are counted with the token that
they come before: together they arrive at one place, and where that place is decides how many
blocks have ended (`Fits`).
-/

namespace YamlStyle.Yaml

namespace TokenKind

/-- The kind of lexeme that shows a token. -/
def lexemeKind : TokenKind → LexemeKind
  | streamStart => .streamStart
  | streamEnd => .streamEnd
  | directive _ => .directive
  | documentStart => .documentStart
  | documentEnd => .documentEnd
  | blockSequenceStart => .blockSequenceStart
  | blockMappingStart => .blockMappingStart
  | blockEnd => .blockEnd
  | flowSequenceStart => .flowSequenceStart
  | flowSequenceEnd => .flowSequenceEnd
  | flowMappingStart => .flowMappingStart
  | flowMappingEnd => .flowMappingEnd
  | key => .key
  | value => .value
  | blockEntry => .blockEntry
  | flowEntry => .flowEntry
  | .alias _ => .alias
  | anchor _ => .anchor
  | tag _ => .tag
  | scalar _ _ => .scalar

/-- Whether a token shows in a tree: neither the ends of blocks nor those of the stream do. -/
def isShown : TokenKind → Bool
  | streamStart | streamEnd | blockEnd => false
  | _ => true

/-- Whether no block goes on beyond a token. -/
def isBoundary : TokenKind → Bool
  | directive _ | documentStart | documentEnd | streamEnd => true
  | _ => false

def isBlockScalar : TokenKind → Bool
  | scalar _ .literal | scalar _ .folded => true
  | _ => false

/-- Tokens of nodes that a colon may turn into keys. -/
def isKeyable : TokenKind → Bool
  | scalar _ style => style != .literal && style != .folded
  | .alias _ | anchor _ | tag _ | flowSequenceStart | flowMappingStart => true
  | _ => false

/-- Tokens after which the content of a node in a block may stand. -/
def isLead : TokenKind → Bool
  | blockEntry | key | value | anchor _ | tag _ => true
  | _ => false

/-- Tokens with which a node, or the block around it, may be over. -/
def isCloser : TokenKind → Bool
  | .blockEntry | .key | .value | .documentStart | .documentEnd | .streamEnd | .blockEnd => true
  | _ => false

end TokenKind

namespace Token

/-- At one offset a block starts before its first key, and both before all else. -/
def rank (x : Token) : Nat :=
  if x.kind.lexemeKind.isBlockStart then 0 else if x.kind == .key then 1 else 2

def IsBefore (x y : Token) : Prop :=
  x.start.offset < y.start.offset ∨ x.start.offset = y.start.offset ∧ x.rank < y.rank

/-- Whether a token opens something by a mark of its own at its column. -/
def isIndicator (x : Token) : Bool :=
  x.kind == .blockEntry || (x.kind == .key && x.start.offset < x.stop.offset)

/-- A token of no width. -/
def mark0 (kind : TokenKind) (m : Mark) : Token := ⟨kind, m, m⟩

theorem rank_key (m : Mark) : (mark0 .key m).rank = 1 := by simp [rank, mark0, TokenKind.lexemeKind, LexemeKind.isBlockStart]

theorem rank_of_isBlockStart {x : Token} (h : x.kind.lexemeKind.isBlockStart = true) : x.rank = 0 := by
  rw [rank, if_pos h]

theorem rank_pos {x : Token} (h : x.kind.lexemeKind.isBlockStart = false) : 0 < x.rank := by
  rw [rank, h]
  simp only [Bool.false_eq_true, if_false]
  split <;> decide

theorem IsBefore.trans {x y z : Token} (h : x.IsBefore y) (h' : y.IsBefore z) : x.IsBefore z := by
  unfold IsBefore at *
  omega

theorem isIndicator_mark0 {kind : TokenKind} (h : kind ≠ .blockEntry) (m : Mark) : (mark0 kind m).isIndicator = false := by
  simp [isIndicator, mark0, h]

end Token

/-- A block collection that is open, and the column it started at. -/
structure Block where
  isSequence : Bool
  column : Nat
  deriving DecidableEq, Repr

/-- A token, and how many block ends come just before it. -/
structure Arrival where
  ends : Nat
  token : Token
  deriving DecidableEq, Repr

namespace Arrival

def tokens (a : Arrival) : List Token := List.replicate a.ends (.mark0 .blockEnd a.token.start) ++ [a.token]

end Arrival

/-- What is open between two tokens: the blocks, innermost first, and how many flow collections
within them. -/
structure Layout where
  blocks : List Block
  depth : Nat
  last : Option Token
  deriving Repr

namespace Layout

def start : Layout := ⟨[], 0, none⟩

/-- The blocks that a token opens. -/
def opened (x : Token) : List Block :=
  match x.kind with
  | .blockMappingStart => [⟨false, x.start.column⟩]
  | .blockSequenceStart => [⟨true, x.start.column⟩]
  | _ => []

def depthAfter (depth : Nat) (kind : LexemeKind) : Nat :=
  if kind.isFlowStart then depth + 1 else if kind.isFlowEnd then depth - 1 else depth

/-- The blocks around a token, itself left out. -/
def within (l : Layout) (a : Arrival) : List Block := l.blocks.drop a.ends

def after (l : Layout) (a : Arrival) : Layout where
  blocks := opened a.token ++ l.within a
  depth := depthAfter l.depth a.token.kind.lexemeKind
  last := some a.token

def afterAll (l : Layout) (as : List Arrival) : Layout := as.foldl after l

/-- An arrival where the columns of the blocks and the place of the token agree. -/
structure Fits (l : Layout) (a : Arrival) : Prop where
  order : ∀ x ∈ l.last, x.IsBefore a.token
  /-- Blocks neither start nor end inside a flow collection. -/
  flow : 0 < l.depth → a.ends = 0 ∧ a.token.kind.lexemeKind.isBlockStart = false
  fresh : 0 < a.ends ∨ a.token.kind.isBlockScalar = true → ∀ x ∈ l.last, x.start.offset < a.token.start.offset
  ends_le : a.ends ≤ l.blocks.length
  boundary : l.depth = 0 → a.token.kind.isBoundary = true →
    l.within a = [] ∧ (a.token.kind ≠ .streamEnd → a.token.start.column = 0)
  deeper : l.depth = 0 → a.token.kind.isBoundary = false →
    ∀ b ∈ l.blocks.take a.ends, a.token.start.column < b.column
  inside : l.depth = 0 → a.token.kind.isBoundary = false →
    ∀ b ∈ (l.within a).head?, b.column ≤ a.token.start.column
  start : a.token.kind.lexemeKind.isBlockStart = true →
    ∀ b ∈ (l.within a).head?, b.column < a.token.start.column
  indicator : l.depth = 0 → a.token.isIndicator = true →
    ∃ b, (l.within a).head? = some b ∧ b.column = a.token.start.column
  blockScalar : a.token.kind.isBlockScalar = true → l.depth = 0

/-- Content of a node at the very column of the block around it, and no key that starts there. -/
structure Misses (l : Layout) (a : Arrival) : Prop where
  depth : l.depth = 0
  keyable : a.token.kind.isKeyable = true
  lead : ∃ x ∈ l.last, x.kind.isLead = true ∧ x.start.offset < a.token.start.offset
  column : ∃ b, (l.within a).head? = some b ∧ b.column = a.token.start.column

def Admits (l : Layout) (a : Arrival) : Prop := l.Fits a ∧ ¬l.Misses a

/-- Whether arrivals, one after another, are in a relation to the layouts they find. -/
def Walks (P : Layout → Arrival → Prop) : Layout → List Arrival → Prop
  | _, [] => True
  | l, a :: as => P l a ∧ Walks P (l.after a) as

/-! ## Walks -/

variable {P : Layout → Arrival → Prop} {l : Layout} {a : Arrival} {xs ys : List Arrival}

@[simp] theorem afterAll_nil : l.afterAll [] = l := rfl

@[simp] theorem afterAll_cons : l.afterAll (a :: xs) = (l.after a).afterAll xs := rfl

@[simp] theorem afterAll_append : l.afterAll (xs ++ ys) = (l.afterAll xs).afterAll ys := List.foldl_append ..

@[simp] theorem walks_nil : Walks P l [] := trivial

@[simp] theorem walks_cons : Walks P l (a :: xs) ↔ P l a ∧ Walks P (l.after a) xs := Iff.rfl

@[simp] theorem walks_append : Walks P l (xs ++ ys) ↔ Walks P l xs ∧ Walks P (l.afterAll xs) ys := by
  induction xs generalizing l with
  | nil => simp
  | cons a xs ih => simp [ih, and_assoc]

theorem Walks.imp {R : Layout → Arrival → Prop} (h : Walks P l xs) (hr : ∀ l a, P l a → R l a) : Walks R l xs := by
  induction xs generalizing l with
  | nil => trivial
  | cons a xs ih => exact ⟨hr l a h.1, ih h.2⟩

/-- Tokens that fit are in a strict order. -/
theorem pairwise_isBefore (h : Walks Fits l xs) :
    (∀ x ∈ l.last, ∀ a ∈ xs, x.IsBefore a.token) ∧ xs.Pairwise fun a b => a.token.IsBefore b.token := by
  induction xs generalizing l with
  | nil => exact ⟨fun _ _ _ ha => by simp at ha, .nil⟩
  | cons a xs ih =>
    obtain ⟨hbefore, hpairwise⟩ := ih h.2
    have ha := hbefore a.token rfl
    refine ⟨fun x hx b hb => ?_, .cons ha hpairwise⟩
    rcases List.mem_cons.1 hb with rfl | hb
    · exact h.1.order x hx
    · exact (h.1.order x hx).trans (ha b hb)

@[simp] theorem last_after : (l.after a).last = some a.token := rfl

theorem last_afterAll_concat : (l.afterAll (xs ++ [a])).last = some a.token := by simp

theorem exists_of_last_afterAll {x : Token} (h : (Layout.start.afterAll xs).last = some x) : ∃ a ∈ xs, a.token = x := by
  rcases List.eq_nil_or_concat xs with rfl | ⟨init, a, rfl⟩
  · cases h
  · rw [List.concat_eq_append, last_afterAll_concat] at h
    exact ⟨a, by simp, Option.some.inj h⟩

/-! ## Plain tokens -/

/-- A token that neither opens nor ends a block, and is no scalar of its own lines. -/
structure IsPlain (kind : TokenKind) : Prop where
  notStart : kind.lexemeKind.isBlockStart = false
  notBoundary : kind.isBoundary = false
  notBlockScalar : kind.isBlockScalar = false

/-- A token that a colon may turn into a key is plain and shows; it ends no flow collection, and marks no key and no
entry. -/
theorem plain_shown_of_isKeyable {kind : TokenKind} (h : kind.isKeyable = true) :
    IsPlain kind ∧ kind.isShown = true ∧ kind.lexemeKind.isFlowEnd = false ∧ kind ≠ .key ∧ kind ≠ .blockEntry := by
  cases kind with
  | scalar value style =>
    have hstyle : TokenKind.isBlockScalar (.scalar value style) = false := by cases style <;> first | rfl | cases h
    exact ⟨⟨rfl, rfl, hstyle⟩, rfl, rfl, nofun, nofun⟩
  | «alias» | anchor | tag | flowSequenceStart | flowMappingStart => exact ⟨⟨rfl, rfl, rfl⟩, rfl, rfl, nofun, nofun⟩
  | _ => cases h

theorem isPlain_of_isKeyable {kind : TokenKind} (h : kind.isKeyable = true) : IsPlain kind :=
  (plain_shown_of_isKeyable h).1

theorem isShown_of_isKeyable {kind : TokenKind} (h : kind.isKeyable = true) : kind.isShown = true :=
  (plain_shown_of_isKeyable h).2.1

theorem isIndicator_of_isKeyable (h : a.token.kind.isKeyable = true) : a.token.isIndicator = false := by
  obtain ⟨-, -, -, hkey, hentry⟩ := plain_shown_of_isKeyable h
  rw [Token.isIndicator, beq_eq_false_iff_ne.2 hkey, beq_eq_false_iff_ne.2 hentry]
  rfl

theorem depthAfter_of_isKeyable {kind : TokenKind} (h : kind.isKeyable = true) (hf : kind.lexemeKind.isFlowStart = false)
    (depth : Nat) : depthAfter depth kind.lexemeKind = depth := by
  obtain ⟨-, -, hend, -⟩ := plain_shown_of_isKeyable h
  rw [depthAfter, hf, hend]
  rfl

theorem rank_of_isKeyable {x : Token} (h : x.kind.isKeyable = true) : x.rank = 2 := by
  obtain ⟨hplain, -, -, hkey, -⟩ := plain_shown_of_isKeyable h
  rw [Token.rank, hplain.notStart, beq_eq_false_iff_ne.2 hkey]
  rfl

theorem fits_of_isPlain (hk : IsPlain a.token.kind) (order : ∀ x ∈ l.last, x.IsBefore a.token)
    (flow : 0 < l.depth → a.ends = 0) (fresh : 0 < a.ends → ∀ x ∈ l.last, x.start.offset < a.token.start.offset)
    (ends_le : a.ends ≤ l.blocks.length)
    (deeper : l.depth = 0 → ∀ b ∈ l.blocks.take a.ends, a.token.start.column < b.column)
    (inside : l.depth = 0 → ∀ b ∈ (l.within a).head?, b.column ≤ a.token.start.column)
    (indicator : l.depth = 0 → a.token.isIndicator = true →
      ∃ b, (l.within a).head? = some b ∧ b.column = a.token.start.column) : l.Fits a where
  order := order
  flow hd := ⟨flow hd, hk.notStart⟩
  fresh h := fresh (h.resolve_right (by simp [hk.notBlockScalar]))
  ends_le := ends_le
  boundary _ h := by simp [hk.notBoundary] at h
  deeper hd _ := deeper hd
  inside hd _ := inside hd
  start h := by simp [hk.notStart] at h
  indicator := indicator
  blockScalar h := by simp [hk.notBlockScalar] at h

/-- An indicator that has just opened the block it stands in. -/
theorem fits_of_opens {b : Block} {bs : List Block} {start : TokenKind} (hl : l = ⟨b :: bs, 0, some (.mark0 start a.token.start)⟩)
    (hs : start.lexemeKind.isBlockStart = true) (hb : b.column = a.token.start.column) (hk : IsPlain a.token.kind)
    (he : a.ends = 0) : l.Fits a := by
  subst hl
  refine fits_of_isPlain hk (fun x hx => ?_) (fun _ => he) (fun h0 => by omega) (by simp [he]) (fun _ b' hb' => ?_)
    (fun _ b' hb' => ?_) fun _ _ => ⟨b, by rw [within, he]; rfl, hb⟩
  · cases hx
    refine .inr ⟨rfl, ?_⟩
    rw [Token.rank_of_isBlockStart hs]
    exact Token.rank_pos hk.notStart
  · simp [he] at hb'
  · rw [within, he] at hb'
    cases hb'
    exact Nat.le_of_eq hb

theorem not_misses_of_not_isKeyable (h : a.token.kind.isKeyable = false) : ¬l.Misses a := by
  intro hm
  simp [hm.keyable] at h

/-! ## Keys found by a later colon -/

/-- An arrival with a token of no width put before its own token. -/
def preceded (kind : TokenKind) (a : Arrival) : List Arrival := [⟨a.ends, .mark0 kind a.token.start⟩, ⟨0, a.token⟩]

/-- The arrivals of a key and of the token that it is. -/
def keyed (a : Arrival) : List Arrival := preceded .key a

/-- The arrivals of a mapping and its first key. -/
def mapped (a : Arrival) : List Arrival := ⟨a.ends, .mark0 .blockMappingStart a.token.start⟩ :: keyed ⟨0, a.token⟩

theorem afterAll_keyed : l.afterAll (keyed a) = l.after a := by
  simp [keyed, preceded, Token.mark0, after, within, opened, depthAfter, TokenKind.lexemeKind, LexemeKind.isFlowStart,
    LexemeKind.isFlowEnd]

theorem walks_keyed (h : l.Fits a) (hk : a.token.kind.isKeyable = true)
    (hlast : ∀ x ∈ l.last, x.IsBefore (Token.mark0 .key a.token.start)) : Walks Admits l (keyed a) := by
  have hp := isPlain_of_isKeyable hk
  have hbefore : (Token.mark0 .key a.token.start).IsBefore a.token :=
    .inr ⟨rfl, by rw [rank_of_isKeyable hk, Token.rank_key]; decide⟩
  have hfit : l.Fits ⟨a.ends, Token.mark0 .key a.token.start⟩ := by
    refine fits_of_isPlain ⟨rfl, rfl, rfl⟩ hlast (fun hd => (h.flow hd).1) (fun he => h.fresh (.inl he)) h.ends_le
      (fun hd => h.deeper hd hp.notBoundary) (fun hd => h.inside hd hp.notBoundary) fun _ hi => ?_
    rw [Token.isIndicator_mark0 (by decide)] at hi
    cases hi
  refine ⟨⟨hfit, not_misses_of_not_isKeyable rfl⟩, ⟨?_, ?_⟩, trivial⟩
  · refine fits_of_isPlain hp ?_ (fun _ => rfl) (fun he => absurd he (Nat.lt_irrefl 0)) (Nat.zero_le _) (by simp)
      (fun hd => h.inside hd hp.notBoundary) fun _ hi => ?_
    · intro x hx
      cases hx
      exact hbefore
    · rw [isIndicator_of_isKeyable hk] at hi
      cases hi
  · intro hm
    obtain ⟨x, hx, -, hlt⟩ := hm.lead
    cases hx
    exact Nat.lt_irrefl _ hlt

theorem walks_mapped (h : l.Fits a) (hk : a.token.kind.isKeyable = true) (hd : l.depth = 0)
    (hlast : ∀ x ∈ l.last, x.start.offset < a.token.start.offset)
    (hdeep : ∀ b ∈ (l.within a).head?, b.column < a.token.start.column) : Walks Admits l (mapped a) := by
  have hp := isPlain_of_isKeyable hk
  have hfit : l.Fits ⟨a.ends, Token.mark0 .blockMappingStart a.token.start⟩ := {
    order := fun x hx => .inl (hlast x hx)
    flow := fun hd' => by omega
    fresh := fun _ => hlast
    ends_le := h.ends_le
    boundary := fun _ hb => by cases hb
    deeper := fun _ _ => h.deeper hd hp.notBoundary
    inside := fun _ _ => h.inside hd hp.notBoundary
    start := fun _ => hdeep
    indicator := by
      intro _ hi
      rw [Token.isIndicator_mark0 (by decide)] at hi
      cases hi
    blockScalar := fun hb => by cases hb }
  refine ⟨⟨hfit, not_misses_of_not_isKeyable rfl⟩, walks_keyed ?_ hk ?_⟩
  · refine fits_of_isPlain hp ?_ (fun _ => rfl) (fun he => absurd he (Nat.lt_irrefl 0)) (Nat.zero_le _) (by simp)
      ?_ fun _ hi => ?_
    · intro x hx
      cases hx
      exact .inr ⟨rfl, by rw [rank_of_isKeyable hk, Token.rank_of_isBlockStart rfl]; decide⟩
    · intro _ b hb
      cases hb
      exact Nat.le_refl _
    · rw [isIndicator_of_isKeyable hk] at hi
      cases hi
  · intro x hx
    cases hx
    exact .inr ⟨rfl, by rw [Token.rank_key, Token.rank_of_isBlockStart rfl]; decide⟩

/-! ## On the line of a key -/

/-- An arrival further right than `column` that does not touch the blocks. -/
structure Inline (column : Nat) (l : Layout) (a : Arrival) : Prop where
  ends : a.ends = 0
  notStart : a.token.kind.lexemeKind.isBlockStart = false
  column : column < a.token.start.column
  free : l.depth = 0 → a.token.kind.isBoundary = false ∧ a.token.isIndicator = false

/-- A layout with one more block around the place. -/
def inner (b : Block) (l : Layout) : Layout := { l with blocks := b :: l.blocks }

theorem eq_of_isBoundary {kind : TokenKind} (h : kind.isBoundary = true) :
    (∃ d, kind = .directive d) ∨ kind = .documentStart ∨ kind = .documentEnd ∨ kind = .streamEnd := by
  cases kind <;> simp_all [TokenKind.isBoundary]

theorem eq_of_isBlockStart {kind : TokenKind} (h : kind.lexemeKind.isBlockStart = true) :
    kind = .blockSequenceStart ∨ kind = .blockMappingStart := by
  cases kind <;> first | exact .inl rfl | exact .inr rfl | cases h

theorem opened_of_not_isBlockStart {x : Token} (h : x.kind.lexemeKind.isBlockStart = false) : opened x = [] := by
  cases hk : x.kind <;> simp_all [opened, TokenKind.lexemeKind, LexemeKind.isBlockStart]

theorem blocks_after_of_not_isBlockStart (h : a.token.kind.lexemeKind.isBlockStart = false) :
    (l.after a).blocks = l.within a := by
  rw [after, opened_of_not_isBlockStart h, List.nil_append]

/-- No block starts inside a flow collection. -/
theorem Fits.depth_eq_zero (h : l.Fits a) (hs : a.token.kind.lexemeKind.isBlockStart = true) : l.depth = 0 := by
  rcases Nat.eq_zero_or_pos l.depth with hd | hd
  · exact hd
  · rw [(h.flow hd).2] at hs
    cases hs

theorem Inline.blocks_after {column : Nat} (h : Inline column l a) : (l.after a).blocks = l.blocks := by
  rw [blocks_after_of_not_isBlockStart h.notStart, within, h.ends, List.drop_zero]

theorem blocks_afterAll_of_inline {column : Nat} (h : Walks (Inline column) l xs) :
    (l.afterAll xs).blocks = l.blocks := by
  induction xs generalizing l with
  | nil => rfl
  | cons a xs ih => rw [afterAll_cons, ih h.2, h.1.blocks_after]

theorem Inline.after_inner {b : Block} (h : Inline b.column l a) : (l.inner b).after a = (l.after a).inner b := by
  simp [after, inner, within, opened_of_not_isBlockStart h.notStart, h.ends]

/-- What stands on the line of a key is admitted by the mapping that the key opens, too. -/
theorem Inline.admits_inner {b : Block} (h : Inline b.column l a) (ha : l.Admits a) : (l.inner b).Admits a := by
  have hwithin : (l.inner b).within a = b :: l.blocks := by simp [within, inner, h.ends]
  have hne : ∀ b', ((l.inner b).within a).head? = some b' → b'.column ≠ a.token.start.column := by
    intro b' hb'
    rw [hwithin] at hb'
    cases hb'
    exact Nat.ne_of_lt h.column
  refine ⟨⟨ha.1.order, ha.1.flow, ha.1.fresh, ?_, ?_, ?_, ?_, ?_, ?_, ha.1.blockScalar⟩, fun hm => ?_⟩
  · rw [h.ends]
    exact Nat.zero_le _
  · intro hd hb
    rw [(h.free hd).1] at hb
    cases hb
  · intro _ _ b' hb'
    simp [h.ends] at hb'
  · intro _ _ b' hb'
    rw [hwithin] at hb'
    cases hb'
    exact Nat.le_of_lt h.column
  · intro hs
    rw [h.notStart] at hs
    cases hs
  · intro hd hi
    rw [(h.free hd).2] at hi
    cases hi
  · obtain ⟨b', hb', hc⟩ := hm.column
    exact hne b' hb' hc

theorem walks_inner {b : Block} (hi : Walks (Inline b.column) l xs) (h : Walks Admits l xs) :
    Walks Admits (l.inner b) xs := by
  induction xs generalizing l with
  | nil => trivial
  | cons a xs ih =>
    refine ⟨hi.1.admits_inner h.1, ?_⟩
    rw [hi.1.after_inner]
    exact ih hi.2 h.2

theorem afterAll_inner {b : Block} (hi : Walks (Inline b.column) l xs) :
    (l.inner b).afterAll xs = (l.afterAll xs).inner b := by
  induction xs generalizing l with
  | nil => rfl
  | cons a xs ih => rw [afterAll_cons, hi.1.after_inner, ih hi.2, afterAll_cons]

theorem afterAll_mapped (hk : a.token.kind.isKeyable = true) :
    l.afterAll (mapped a) = (l.after a).inner ⟨false, a.token.start.column⟩ := by
  have hopened : opened a.token = [] := opened_of_not_isBlockStart (isPlain_of_isKeyable hk).notStart
  rw [mapped, afterAll_cons, afterAll_keyed, inner, after, after, after, hopened]
  rfl

/-! ## Insertion -/

theorem walks_insert_keyed (h : Walks Admits l (xs ++ a :: ys)) (hk : a.token.kind.isKeyable = true)
    (hlast : ∀ x ∈ (l.afterAll xs).last, x.start.offset < a.token.start.offset) :
    Walks Admits l (xs ++ keyed a ++ ys) := by
  rw [walks_append, walks_cons] at h
  rw [List.append_assoc, walks_append, walks_append, afterAll_keyed]
  exact ⟨h.1, walks_keyed h.2.1.1 hk fun x hx => .inl (hlast x hx), h.2.2⟩

theorem walks_inline_insert_keyed {column : Nat} (h : Walks (Inline column) l (xs ++ a :: ys))
    (hd : 0 < (l.afterAll xs).depth) : Walks (Inline column) l (xs ++ keyed a ++ ys) := by
  rw [walks_append, walks_cons] at h
  obtain ⟨hx, ha, hy⟩ := h
  rw [List.append_assoc, walks_append, walks_append, afterAll_keyed]
  have hd' : ((l.afterAll xs).after ⟨a.ends, .mark0 .key a.token.start⟩).depth = (l.afterAll xs).depth := rfl
  refine ⟨hx, ⟨⟨ha.ends, rfl, ha.column, fun h0 => ?_⟩, ⟨rfl, ha.notStart, ha.column, fun h0 => ?_⟩, trivial⟩, hy⟩
  · omega
  · omega

/-- Where the token of an arrival stands among all tokens, the start of the stream being the first. -/
def position (xs : List Arrival) (a : Arrival) : Nat := 1 + (xs.flatMap Arrival.tokens).length + a.ends

theorem tokens_insert (x0 : Token) (kind : TokenKind) :
    let ts := x0 :: (xs ++ a :: ys).flatMap Arrival.tokens
    ts.take (position xs a) ++ [.mark0 kind a.token.start] ++ ts.drop (position xs a) =
      x0 :: (xs ++ preceded kind a ++ ys).flatMap Arrival.tokens := by
  have hsplit : x0 :: (xs ++ a :: ys).flatMap Arrival.tokens =
      (x0 :: (xs.flatMap Arrival.tokens ++ List.replicate a.ends (.mark0 .blockEnd a.token.start))) ++
        (a.token :: ys.flatMap Arrival.tokens) := by
    simp [Arrival.tokens]
  have hlen : position xs a =
      (x0 :: (xs.flatMap Arrival.tokens ++ List.replicate a.ends (.mark0 .blockEnd a.token.start))).length := by
    simp only [position, List.length_cons, List.length_append, List.length_replicate]
    omega
  simp only
  rw [hsplit, hlen, List.take_left, List.drop_left]
  simp [preceded, Arrival.tokens, Token.mark0]

/-- Of two arrivals the one with the lesser position comes first. -/
theorem append_cons_eq_of_position_lt {xs' ys' : List Arrival} {a' : Arrival} (h : xs ++ a :: ys = xs' ++ a' :: ys')
    (hp : position xs' a' < position xs a) : ∃ mid, xs = xs' ++ a' :: mid ∧ ys' = mid ++ a :: ys := by
  rcases List.append_eq_append_iff.1 h with ⟨c, hx, hc⟩ | ⟨c, hx, hc⟩
  · exfalso
    cases c with
    | nil =>
      simp only [List.nil_append, List.cons.injEq] at hc
      rw [hx, List.append_nil, hc.1] at hp
      exact Nat.lt_irrefl _ hp
    | cons b c =>
      simp only [List.cons_append, List.cons.injEq] at hc
      rw [hx, ← hc.1] at hp
      simp only [position, List.flatMap_append, List.flatMap_cons, List.length_append, Arrival.tokens,
        List.length_replicate, List.length_singleton] at hp
      omega
  · cases c with
    | nil =>
      simp only [List.nil_append, List.cons.injEq] at hc
      rw [List.append_nil] at hx
      rw [hx, hc.1] at hp
      exact absurd hp (Nat.lt_irrefl _)
    | cons b mid =>
      simp only [List.cons_append, List.cons.injEq] at hc
      exact ⟨mid, by rw [hx, hc.1], hc.2⟩

end Layout

end YamlStyle.Yaml

import YamlStyle.Lexeme.OffSide
import YamlStyle.Proofs.Yaml.Layout

/-!
# Containers of the off-side rule

The containers of the off-side rule stand for the blocks that are open where the tokens of a text
are read, with implicit sequences and explicit keys over the mappings that hold them.
-/

namespace YamlStyle.OffSide

open Yaml (Block)

variable {cs : List Container} {bs : List Block} {p : Piece} {column k : Nat}

/-- The kind of the container that stands for a block. -/
def kindOf (b : Block) : ContainerKind := if b.isSequence then .sequence else .map

theorem isBlock_kindOf (b : Block) : (kindOf b).isBlock = true := by
  cases h : b.isSequence <;> simp [kindOf, h, ContainerKind.isBlock]

/-- What a container stands for: a block, or a place in the mapping below it. -/
inductive Matches : List Container → List Block → Prop
  | nil : Matches [] []
  | block {cs bs b offset} : Matches cs bs → Matches (⟨kindOf b, b.column, offset⟩ :: cs) (b :: bs)
  | inside {cs bs kind b offset} : kind.isBlock = false → b.isSequence = false → Matches cs (b :: bs) →
      Matches (⟨kind, b.column, offset⟩ :: cs) (b :: bs)

theorem blockCount_cons (c : Container) (cs : List Container) :
    blockCount (c :: cs) = (if c.kind.isBlock then 1 else 0) + blockCount cs := by
  cases h : c.kind.isBlock <;> simp [blockCount, h, Nat.add_comm]

theorem Matches.blockCount_eq (h : Matches cs bs) : blockCount cs = bs.length := by
  induction h with
  | nil => rfl
  | block _ ih => rw [blockCount_cons, isBlock_kindOf, if_pos rfl, ih, List.length_cons, Nat.add_comm]
  | inside hk _ _ ih => rw [blockCount_cons, hk, if_neg (by decide), ih, Nat.zero_add]

theorem endsBefore_of_lt {c : Container} (ho : c.offset < p.start) (hc : column < c.indent) :
    endsBefore p column c = true := by
  simp [endsBefore, ho, hc]

theorem not_endsBefore_of_lt {c : Container} (hc : c.indent < column) : endsBefore p column c = false := by
  have h1 : ¬column < c.indent := by omega
  have h2 : (c.indent == column) = false := by simpa using Nat.ne_of_lt hc
  simp [endsBefore, h1, h2]

theorem endsBefore_of_eq {c : Container} (ho : c.offset < p.start) (hc : c.indent = column) :
    endsBefore p column c = !c.kind.isContinuedBy p.kind := by
  simp [endsBefore, ho, hc]

/-- The containers that end before a piece. -/
def closed (p : Piece) (column : Nat) (cs : List Container) : List Container := cs.takeWhile (endsBefore p column)

theorem closed_cons_of_pos {c : Container} (h : endsBefore p column c = true) :
    closed p column (c :: cs) = c :: closed p column cs := List.takeWhile_cons_of_pos h

theorem closed_cons_of_neg {c : Container} (h : endsBefore p column c = false) : closed p column (c :: cs) = [] :=
  List.takeWhile_cons_of_neg (by simp [h])

/-- A piece that continues the block it stands in ends those that are deeper, and no other. -/
theorem Matches.close (h : Matches cs bs) (ho : ∀ c ∈ cs, c.offset < p.start) (hk : k ≤ bs.length)
    (hdeep : ∀ b ∈ bs.take k, column < b.column)
    (hin : ∀ b ∈ (bs.drop k).head?, b.column < column ∨ b.column = column ∧ (kindOf b).isContinuedBy p.kind = true) :
    blockCount (closed p column cs) = k ∧ Matches (cs.drop (closed p column cs).length) (bs.drop k) := by
  induction h generalizing k with
  | nil =>
    cases Nat.le_zero.1 hk
    exact ⟨rfl, .nil⟩
  | @block cs bs b o hm ih =>
    have ho' : ∀ c ∈ cs, c.offset < p.start := fun c hc => ho c (List.mem_cons_of_mem _ hc)
    cases k with
    | zero =>
      have hends : endsBefore p column ⟨kindOf b, b.column, o⟩ = false := by
        rcases hin b rfl with hlt | ⟨heq, hgo⟩
        · exact not_endsBefore_of_lt hlt
        · rw [endsBefore_of_eq (ho _ (List.mem_cons_self ..)) heq, hgo]
          rfl
      rw [closed_cons_of_neg hends]
      exact ⟨rfl, hm.block⟩
    | succ k =>
      have hlt : column < b.column := hdeep b (by simp)
      obtain ⟨hcount, hrest⟩ := ih ho' (Nat.le_of_succ_le_succ hk) (fun b hb => hdeep b (by simp [hb])) hin
      rw [closed_cons_of_pos (endsBefore_of_lt (ho _ (List.mem_cons_self ..)) hlt), blockCount_cons, isBlock_kindOf,
        if_pos rfl, List.length_cons, List.drop_succ_cons, List.drop_succ_cons]
      exact ⟨by rw [hcount, Nat.add_comm], hrest⟩
  | @inside cs bs kind b o hkind hb hm ih =>
    have ho' : ∀ c ∈ cs, c.offset < p.start := fun c hc => ho c (List.mem_cons_of_mem _ hc)
    obtain ⟨hcount, hrest⟩ := ih ho' hk hdeep hin
    -- What stands in a mapping ends with it, or before it.
    cases hends : endsBefore p column ⟨kind, b.column, o⟩ with
    | true =>
      rw [closed_cons_of_pos hends, blockCount_cons, hkind, if_neg (by decide), List.length_cons, List.drop_succ_cons]
      exact ⟨by rw [hcount, Nat.zero_add], hrest⟩
    | false =>
      cases k with
      | zero =>
        rw [closed_cons_of_neg hends]
        exact ⟨rfl, hm.inside hkind hb⟩
      | succ k =>
        have hlt : column < b.column := hdeep b (by simp)
        rw [endsBefore_of_lt (ho _ (List.mem_cons_self ..)) hlt] at hends
        cases hends

/-- A piece at the column of a sequence that does not continue it ends one block more. -/
theorem Matches.lt_blockCount {b : Block} (h : Matches cs bs) (ho : ∀ c ∈ cs, c.offset < p.start)
    (hdeep : ∀ b ∈ bs.take k, column < b.column) (hin : (bs.drop k).head? = some b) (hb : b.isSequence = true)
    (hcol : b.column = column) (hgo : (kindOf b).isContinuedBy p.kind = false) :
    k < blockCount (closed p column cs) := by
  induction h generalizing k with
  | nil => simp at hin
  | @block cs bs b' o hm ih =>
    have ho' : ∀ c ∈ cs, c.offset < p.start := fun c hc => ho c (List.mem_cons_of_mem _ hc)
    cases k with
    | zero =>
      cases hin
      have hends : endsBefore p column ⟨kindOf b, b.column, o⟩ = true := by
        rw [endsBefore_of_eq (ho _ (List.mem_cons_self ..)) hcol, hgo]
        rfl
      rw [closed_cons_of_pos hends, blockCount_cons, isBlock_kindOf, if_pos rfl]
      omega
    | succ k =>
      have hlt : column < b'.column := hdeep b' (by simp)
      have hrest := ih ho' (k := k) (fun b hb => hdeep b (by simp [hb])) hin
      rw [closed_cons_of_pos (endsBefore_of_lt (ho _ (List.mem_cons_self ..)) hlt), blockCount_cons, isBlock_kindOf,
        if_pos rfl]
      omega
  | @inside cs bs kind b' o hkind hb' hm ih =>
    have ho' : ∀ c ∈ cs, c.offset < p.start := fun c hc => ho c (List.mem_cons_of_mem _ hc)
    cases k with
    | zero =>
      cases hin
      rw [hb] at hb'
      cases hb'
    | succ k =>
      have hlt : column < b'.column := hdeep b' (by simp)
      have hrest := ih ho' hdeep hin
      rw [closed_cons_of_pos (endsBefore_of_lt (ho _ (List.mem_cons_self ..)) hlt), blockCount_cons]
      omega

/-- A piece at the start of its line that continues nothing ends all blocks. -/
theorem Matches.close_all (h : Matches cs bs) (ho : ∀ c ∈ cs, c.offset < p.start)
    (hgo : ∀ kind : ContainerKind, kind.isContinuedBy p.kind = false) :
    blockCount (closed p 0 cs) = bs.length ∧ cs.drop (closed p 0 cs).length = [] := by
  have hall : closed p 0 cs = cs := by
    have hends : ∀ c ∈ cs, endsBefore p 0 c = true := by
      intro c hc
      rcases Nat.eq_zero_or_pos c.indent with h0 | hpos
      · rw [endsBefore_of_eq (ho c hc) h0, hgo]
        rfl
      · exact endsBefore_of_lt (ho c hc) hpos
    have happend : (cs ++ []).takeWhile (endsBefore p 0) = cs ++ [].takeWhile (endsBefore p 0) :=
      List.takeWhile_append_of_pos hends
    simpa [closed] using happend
  rw [hall, List.drop_length]
  exact ⟨h.blockCount_eq, rfl⟩

/-! ## What pieces open -/

/-- A container is opened over a mapping by what stands at its column. -/
theorem Matches.inside_head {kind : ContainerKind} {offset : Nat} (h : Matches cs bs) (hk : kind.isBlock = false) {b : Block}
    (hb : bs.head? = some b) (hq : b.isSequence = false) (hc : b.column = column) :
    Matches (⟨kind, column, offset⟩ :: cs) bs := by
  cases bs with
  | nil => cases hb
  | cons b' bs =>
    cases hb
    rw [← hc]
    exact h.inside hk hq

theorem Matches.continuesSequence (h : Matches cs bs) {b : Block} (hb : bs.head? = some b) (hq : b.isSequence = true) :
    OffSide.continuesSequence cs b.column = true := by
  cases h with
  | nil => cases hb
  | block _ =>
    cases hb
    simp [OffSide.continuesSequence, kindOf, hq]
  | inside _ hq' _ =>
    cases hb
    rw [hq] at hq'
    cases hq'

end YamlStyle.OffSide

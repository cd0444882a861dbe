import YamlStyle.Proofs.Yaml.Draining
import YamlStyle.Proofs.Yaml.Fork.Fetching

/-!
# Handing out tokens around a fork

Two readers of texts that part hand out the same tokens up to the scalar that starts where the texts part.
-/

namespace YamlStyle.Yaml

theorem TokenKind.ne_scalar_of_isWritten {kind : TokenKind} (h : kind.isWritten = false) : kind.lexemeKind ≠ .scalar := by
  cases kind <;> simp_all [isWritten, lexemeKind]

theorem TokenKind.not_spelled_of_isWritten {kind : TokenKind} (h : kind.isWritten = false) :
    ¬(kind.lexemeKind = .tag ∨ kind.lexemeKind = .directive) := by
  cases kind <;> simp_all [isWritten, lexemeKind]

/-- A reader that goes on stays in its text. -/
theorem Cursor.IsIn.goesOn {t : Text} (ht : t.IsRegular) {c d : Cursor} (h : c.IsIn t) (hon : ∃ k, d = c.skip k) :
    d.IsIn t ∧ c.mark.offset ≤ d.mark.offset := by
  obtain ⟨k, rfl⟩ := hon
  exact ⟨(h.skip ht k).1, c.offset_le_skip k⟩

/-- Tags and directives stop at most where the reader stands. -/
def TokenReader.IsPast (s : TokenReader) (xs : List Token) : Prop :=
  ∀ x ∈ xs, x.kind.lexemeKind = .tag ∨ x.kind.lexemeKind = .directive → x.stop.offset ≤ s.cursor.mark.offset

/-! ## Scalars to come -/

/-- Scalars that are not in the queue yet start at the place of the reader or after it. -/
theorem Drains.start_of_scalar {t : Text} (ht : t.IsRegular) {s : TokenReader} {rest : List Released}
    (h : Drains s rest) (hin : s.cursor.IsIn t) : ∀ r ∈ rest, r.token.kind.lexemeKind = .scalar →
      r.token ∈ s.queue ∨ s.cursor.mark.offset ≤ r.token.start.offset := by
  induction h with
  | finish => intro r hr; cases hr
  | @fetch s s' s'' rest hmore hfetch _ ih =>
    intro r hr hscalar
    have hsame : Scan.Onward (fun _ _ => False) s s' := Scan.respects_needsMore s _ _ hmore
    obtain ⟨hin', hle⟩ := hin.goesOn ht hsame.cursor
    let p : Cursor → Token → Prop := fun _ x => x.kind.lexemeKind = .scalar → s.cursor.mark.offset ≤ x.start.offset
    have hp : Scan.HoldsOfOthers p := fun _ x hx hs => absurd hs (TokenKind.ne_scalar_of_isWritten hx)
    have honward : Ensures Scan.fetch s' fun _ r => Scan.Onward p s' r := by
      rw [Scan.fetch_eq, ensures_bind]
      refine fun a u hskip => ?_
      have hu : Scan.Onward p s' u := Scan.respects_skipToToken s' a u hskip
      obtain ⟨-, hle'⟩ := hin'.goesOn ht hu.cursor
      exact (Scan.onward_fetchHere hp fun _ x hx _ _ => by rw [hx]; omega).imp fun _ _ h => hu.trans h
    have hon := honward () s'' hfetch
    obtain ⟨hin'', hle''⟩ := hin'.goesOn ht hon.cursor
    rcases ih hin'' r hr hscalar with hmem | hstart
    · rcases hon.queue _ hmem with hmem | ⟨_, _, _, hstart⟩
      · exact .inl ((hsame.queue _ hmem).resolve_right fun ⟨_, _, _, hno⟩ => hno)
      · exact .inr (hstart hscalar)
    · exact .inr (by omega)
  | @release s s' x queue rest hmore hq _ ih =>
    intro r hr hscalar
    have hsame : Scan.Onward (fun _ _ => False) s s' := Scan.respects_needsMore s _ _ hmore
    obtain ⟨hin', hle⟩ := hin.goesOn ht hsame.cursor
    rcases List.mem_cons.1 hr with rfl | hr
    · exact .inl ((hsame.queue x (by rw [hq]; exact .head _)).resolve_right fun ⟨_, _, _, hno⟩ => hno)
    · rcases ih hin' r hr hscalar with hmem | hstart
      · exact .inl ((hsame.queue _ (by rw [hq]; exact .tail _ hmem)).resolve_right fun ⟨_, _, _, hno⟩ => hno)
      · exact .inr (Nat.le_trans hle hstart)

/-- Firm tokens in the queue are handed out in their order. -/
theorem Drains.firm {s : TokenReader} {rest : List Released} (h : Drains s rest) :
    s.queue.filter Token.isFirm <+: (rest.map (·.token)).filter Token.isFirm := by
  have hneeds : ∀ {more : Bool} {s s' : TokenReader}, Scan.needsMore.run s = .ok (more, s') →
      s.queue.filter Token.isFirm <+: s'.queue.filter Token.isFirm := by
    intro more s s' hmore
    have hsame : Scan.Onward (fun _ _ => True) s s' := Scan.respects_needsMore s _ _ hmore
    exact hsame.firm
  induction h with
  | @finish s s' hmore hq =>
    have hsame := hneeds hmore
    rwa [hq] at hsame
  | @fetch s s' s'' rest hmore hfetch _ ih =>
    exact (hneeds hmore).trans
      ((Scan.goesOn_fetch s' _ _ hfetch).firm.trans ih)
  | @release s s' x queue rest hmore hq _ ih =>
    refine (hneeds hmore).trans ?_
    rw [hq, List.map_cons, List.filter_cons, List.filter_cons]
    split
    · exact List.cons_prefix_cons.2 ⟨rfl, ih⟩
    · exact ih

namespace TokenReader.IsPast

variable {s s' : TokenReader} {released : List Token}

theorem onward (h : s.IsPast (released ++ s.queue)) (hon : Scan.Onward (fun c y =>
    y.kind.lexemeKind = .tag ∨ y.kind.lexemeKind = .directive → y.stop.offset ≤ c.mark.offset) s s') :
    s'.IsPast (released ++ s'.queue) := by
  intro x hx hw
  obtain ⟨k, hk⟩ := hon.cursor
  have hle : s.cursor.mark.offset ≤ s'.cursor.mark.offset := hk ▸ s.cursor.offset_le_skip k
  rcases List.mem_append.1 hx with hx | hx
  · exact Nat.le_trans (h x (List.mem_append_left _ hx) hw) hle
  · rcases hon.queue x hx with hx | ⟨c, l, hc, hstop⟩
    · exact Nat.le_trans (h x (List.mem_append_right _ hx) hw) hle
    · exact Nat.le_trans (hstop hw) (hc ▸ c.offset_le_skip l)

theorem needsMore {more : Bool} (h : s.IsPast (released ++ s.queue)) (hrun : Scan.needsMore.run s = .ok (more, s')) :
    s'.IsPast (released ++ s'.queue) := h.onward (Scan.respects_needsMore s _ _ hrun)

end TokenReader.IsPast

/-- A scalar that has been read starts before the place of the reader. -/
theorem Sound.start_lt {t : Text} {released : List Token} {as : List Arrival} {n : Nat} {s : TokenReader}
    (h : Sound t released as n s) {x : Token} (hmem : x ∈ released ++ s.queue) (hscalar : x.kind.lexemeKind = .scalar) :
    x.start.offset < s.cursor.mark.offset := by
  simp only [h.tokens, List.mem_cons, List.mem_append, List.mem_flatMap, Arrival.tokens, List.mem_replicate,
    List.not_mem_nil, or_false] at hmem
  rcases hmem with rfl | ⟨a, ha, ⟨-, rfl⟩ | rfl⟩ | ⟨-, rfl⟩
  · cases hscalar
  · cases hscalar
  · exact h.passed a ha
  · cases hscalar

/-- A fetch passes the gap before the token and reads the token. A scalar that is new starts after the gap. -/
theorem Sound.exists_fetched {t : Text} (ht : t.IsRegular) {released : List Token} {as : List Arrival} {n : Nat}
    {s r : TokenReader} (h : Sound t released as n s) (hpast : s.IsPast (released ++ s.queue))
    (hfetch : Scan.fetch.run s = .ok ((), r)) :
    ∃ u, Scan.skipToToken.run s = .ok ((), u) ∧ Scan.fetchHere.run u = .ok ((), r) ∧ u.cursor.IsIn t ∧ r.cursor.IsIn t ∧
      u.IsPast (released ++ u.queue) ∧ r.IsPast (released ++ r.queue) ∧
      ∀ y ∈ r.queue, y.kind.lexemeKind = .scalar → y.start.offset < s.cursor.mark.offset ∨ y.start = u.cursor.mark := by
  obtain ⟨⟨⟩, u, hskip, hhere⟩ := exists_of_run_bind_ok (Scan.fetch_eq ▸ hfetch)
  let p : Cursor → Token → Prop := fun c y => (y.kind.lexemeKind = .scalar → y.start = u.cursor.mark) ∧
    (y.kind.lexemeKind = .tag ∨ y.kind.lexemeKind = .directive → y.stop.offset ≤ c.mark.offset)
  have hp : Scan.HoldsOfOthers p := fun _ y hy => ⟨fun hs => absurd hs (TokenKind.ne_scalar_of_isWritten hy), fun hw =>
    absurd hw (TokenKind.not_spelled_of_isWritten hy)⟩
  have hu : Scan.Onward p s u := Scan.respects_skipToToken s () u hskip
  have hr := Scan.onward_fetchHere hp (fun _ y hy hstop => ⟨fun _ => hy, fun hw => hstop fun hs => by
    rw [hs] at hw; rcases hw with hw | hw <;> cases hw⟩) () r hhere
  obtain ⟨hinu, -⟩ := h.cursor.goesOn ht hu.cursor
  refine ⟨u, hskip, hhere, hinu, (hinu.goesOn ht hr.cursor).1, hpast.onward (hu.imp fun _ _ h => h.2),
    hpast.onward ((hu.trans hr).imp fun _ _ h => h.2), fun y hy hscalar => ?_⟩
  rcases (hu.trans hr).queue y hy with hold | ⟨_, _, _, hnew, -⟩
  · exact .inl (h.start_lt (List.mem_append_right _ hold) hscalar)
  · exact .inr (hnew hscalar)

namespace Fork

variable {F : Fork} {t : Text}

/-- The same token handed out with the same version, up to marks. -/
structure SameReleased (F : Fork) (r r' : Released) : Prop where
  token : F.SameToken r.token r'.token
  version : r'.version = r.version

/-- A reader that has not got past the place where the texts part stands at most there. -/
theorem Near.offset_le {s : TokenReader} (h : F.Near s) (hne : F.left ≠ []) (hin : s.cursor.IsIn t) :
    s.cursor.mark.offset + F.left.length ≤ t.length := by
  have hlen := h.resolve_left hne
  have hbound := hin.bound
  rw [hin.rest, List.length_drop] at hlen
  omega

theorem near_of_offset_le {s : TokenReader} (hin : s.cursor.IsIn t) (h : s.cursor.mark.offset + F.left.length ≤ t.length) :
    F.Near s := by
  refine .inr ?_
  rw [hin.rest, List.length_drop]
  omega

/-- What is left of the text where the texts part. -/
theorem Twins.rest_eq {a b : TokenReader} (h : F.Twins [] [] a b) (hin : a.cursor.IsIn t)
    (hat : a.cursor.mark.offset + F.left.length = t.length) : a.cursor.rest = F.left := by
  obtain ⟨q, hrest, -⟩ := h.cursor
  have hlen := congrArg List.length hrest
  rw [hin.rest, List.length_drop, List.length_append] at hlen
  have hnil : q = [] := List.length_eq_zero_iff.1 (by omega)
  rw [hrest, hnil, List.nil_append]

/-- Readers that hand out the first tokens of their queues. -/
theorem Twins.release {a b : TokenReader} (h : F.Twins [] [] a b) {x : Token} {queue : List Token}
    (hq : a.queue = x :: queue)
    (hkeys : ∀ y ∈ a.keys, y.2.number ≠ a.taken) : ∃ x' queue', b.queue = x' :: queue' ∧ F.SameToken x x' ∧
      F.Twins [] [] { a with queue, taken := a.taken + 1 } { b with queue := queue', taken := b.taken + 1 } := by
  obtain ⟨new, new', hqa, hqb, hnew⟩ := h.queue
  rw [List.nil_append] at hqa hqb
  rw [hq] at hqa
  cases hnew with
  | nil => cases hqa
  | @cons y y' ys ys' hy hys =>
    cases hqa
    refine ⟨y', ys', hqb, hy, { h with fresh := fun z hz => ?_, queue := ⟨queue, ys', rfl, rfl, hys⟩, taken := ?_ }⟩
    · have := h.fresh z hz
      have := hkeys z hz
      simp only [List.length_nil] at *
      omega
    · have := h.taken
      simp only [List.length_nil] at *
      omega

/-- Where two readers come to the place where their texts part: the first one reads its scalar there. Before that the
readers have handed out the same tokens. -/
structure Crosses (F : Fork) (t : Text) (released : List Token) (b a₁ b₁ a₂ : TokenReader)
    (earlier earlier' rest₂ : List Released) :
    Prop where
  twins : F.Twins [] [] a₁ b₁
  left : a₁.cursor.rest = F.left
  sound : ∃ as, Sound t (released ++ earlier.map (·.token)) as 0 a₁
  past : a₁.IsPast (released ++ earlier.map (·.token) ++ a₁.queue)
  fetch : Scan.fetchHere.run a₁ = .ok ((), a₂)
  drains : Drains a₂ rest₂
  same : List.Forall₂ (SameReleased F) earlier earlier'
  back : ∀ b₂ rest', Scan.fetchHere.run b₁ = .ok ((), b₂) → Drains b₂ rest' → Drains b (earlier' ++ rest')

namespace Crosses

variable {released : List Token} {b b' a₁ b₁ a₂ : TokenReader} {earlier earlier' rest₂ : List Released}

/-- The token starts where the texts part. -/
theorem of_fetch {a ub : TokenReader} {as : List Arrival} {rest : List Released} (htwins : F.Twins [] [] a₁ ub)
    (hsound : Sound t released as 0 a₁) (hpast : a₁.IsPast (released ++ a₁.queue))
    (hat : a₁.cursor.mark.offset + F.left.length = t.length) (hfetch : Scan.fetchHere.run a₁ = .ok ((), a))
    (hdrains : Drains a rest) (hmore : Scan.needsMore.run b = .ok (true, b')) (hskip : Scan.skipToToken.run b' = .ok ((), ub)) :
    F.Crosses t released b a₁ ub a [] [] rest where
  twins := htwins
  left := htwins.rest_eq hsound.cursor hat
  sound := ⟨as, by simpa using hsound⟩
  past := by simpa using hpast
  fetch := hfetch
  drains := hdrains
  same := .nil
  back := fun b₂ rest' hfetchb hdrainsb => by
    refine .fetch hmore ?_ hdrainsb
    rw [Scan.fetch_eq, StateT.run_bind, hskip]
    exact hfetchb

/-- Before it the readers have handed out one more token. -/
theorem release {y z : Token} {version : Version} {queue : List Token}
    (h : F.Crosses t (released ++ [y]) { b' with queue, taken := b'.taken + 1 } a₁ b₁ a₂ earlier earlier' rest₂)
    (hmore : Scan.needsMore.run b = .ok (false, b')) (hq : b'.queue = z :: queue)
    (hsame : SameReleased F ⟨y, version⟩ ⟨z, b'.version⟩) :
    F.Crosses t released b a₁ b₁ a₂ (⟨y, version⟩ :: earlier) (⟨z, b'.version⟩ :: earlier') rest₂ := by
  have hsound := h.sound
  have hpast := h.past
  rw [List.append_assoc] at hsound
  rw [List.append_assoc released] at hpast
  exact { h with
    sound := hsound
    past := hpast
    same := .cons hsame h.same
    back := fun b₂ rest' hfetch hdrains => .release hmore hq (h.back b₂ rest' hfetch hdrains) }

/-- Before it the readers have read one more token. -/
theorem fetched {b'' : TokenReader} (h : F.Crosses t released b'' a₁ b₁ a₂ earlier earlier' rest₂)
    (hmore : Scan.needsMore.run b = .ok (true, b')) (hfetch : Scan.fetch.run b' = .ok ((), b'')) :
    F.Crosses t released b a₁ b₁ a₂ earlier earlier' rest₂ :=
  { h with back := fun b₂ rest' hfetch' hdrains => .fetch hmore hfetch (h.back b₂ rest' hfetch' hdrains) }

end Crosses

/-- The readers come to the place where the texts part if a scalar starts there. -/
theorem exists_crosses (ht : t.IsRegular) (hne : F.left ≠ []) {a b : TokenReader} {rest : List Released}
    (hdrains : Drains a rest) (h : F.Twins [] [] a b) {released : List Token} {as : List Arrival}
    (hsound : Sound t released as 0 a) (hpast : a.IsPast (released ++ a.queue)) {x : Released} (hx : x ∈ rest)
    (hscalar : x.token.kind.lexemeKind = .scalar)
    (hstart : x.token.start.offset + F.left.length = t.length) :
    ∃ a₁ b₁ a₂ earlier earlier' rest₂, rest = earlier ++ rest₂ ∧ F.Crosses t released b a₁ b₁ a₂ earlier earlier' rest₂ := by
  induction hdrains generalizing b released as with
  | finish => cases hx
  | @release a a' y queue rest hmore hq _ ih =>
    obtain ⟨more, b', hmore', rfl, htwins⟩ := Scan.follows_needsMore h false a' hmore trivial
    obtain ⟨hsound', hcursor, hrelease⟩ := hsound.ensures_needsMore false a' hmore
    have hpast' := hpast.needsMore hmore
    obtain ⟨z, zs, hqb, hz, hnext⟩ := htwins.release hq fun y hy => by
      have := (hrelease rfl).2 y hy
      omega
    have hxrest : x ∈ rest := by
      refine (List.mem_cons.1 hx).resolve_left fun heq => ?_
      have hmem : x.token ∈ a'.queue := by rw [hq, heq]; exact .head _
      have hlt := hsound'.start_lt (List.mem_append_right _ hmem) hscalar
      have hle := htwins.near.offset_le hne hsound'.cursor
      omega
    obtain ⟨a₁, b₁, a₂, earlier, earlier', rest₂, rfl, hcross⟩ := ih hnext (hsound'.release hq (hrelease rfl).2)
      (by rwa [hq, ← List.singleton_append, ← List.append_assoc] at hpast') hxrest
    exact ⟨a₁, b₁, a₂, _, _, rest₂, rfl, hcross.release hmore' hqb ⟨hz, htwins.version⟩⟩
  | @fetch a a' a'' rest hmore hfetch hdrains ih =>
    obtain ⟨more, b', hmore', rfl, htwins⟩ := Scan.follows_needsMore h true a' hmore trivial
    obtain ⟨hsound', -, -⟩ := hsound.ensures_needsMore true a' hmore
    have hleft := htwins.near.offset_le hne hsound'.cursor
    obtain ⟨u, hskip, hhere, hinu, hina, hpastu, hpast'', hqueue⟩ := hsound'.exists_fetched ht (hpast.needsMore hmore) hfetch
    by_cases hseam : u.cursor.mark.offset + F.left.length = t.length
    · obtain ⟨⟨⟩, ub, hskip', -, htwinsu⟩ := Scan.follows_skipToToken htwins () u hskip (near_of_offset_le hinu hseam.le)
      have hsoundu := hsound'.skip ht (Scan.ensures_skipToToken () u hskip)
      exact ⟨u, ub, a'', [], [], rest, rfl, .of_fetch htwinsu hsoundu hpastu hseam hhere hdrains hmore' hskip'⟩
    · have hnot : x.token ∉ a''.queue := fun hmem => by
        rcases hqueue _ hmem hscalar with hold | hnew
        · omega
        · exact hseam (hnew ▸ hstart)
      have hoffset := (hdrains.start_of_scalar ht hina x hx hscalar).resolve_left hnot
      obtain ⟨⟨⟩, b'', hfetch', -, htwins''⟩ := Scan.follows_fetch htwins () a'' hfetch (near_of_offset_le hina (by omega))
      rcases hsound'.ensures_fetch ht () a'' hfetch with ⟨as', hsound'', -⟩ | hdone
      · obtain ⟨a₁, b₁, a₂, earlier, earlier', rest₂, rfl, hcross⟩ := ih htwins'' hsound'' hpast'' hx
        exact ⟨a₁, b₁, a₂, earlier, earlier', rest₂, rfl, hcross.fetched hmore' hfetch'⟩
      · -- A reader that is done has only its queue left.
        rw [hdrains.unique (.of_done hdone.done rfl)] at hx
        obtain ⟨y, hy, rfl⟩ := List.mem_map.1 hx
        exact absurd hy hnot

end Fork

end YamlStyle.Yaml

/-!
## Releases and fetches after a fork

Tokens that no possible key precedes are handed out one by one. What comes after a fork is read alike, whatever either
reader has left in its queue from before.
-/

namespace YamlStyle.Yaml

open Scan Fork

variable {s : TokenReader} {rest : List Released}

/-- No possible key is stale. -/
def TokenReader.Clear (s : TokenReader) : Prop := ∀ x ∈ s.keys, isStale s.cursor.mark x.2 = false

/-- Without the possible keys that are stale. -/
def TokenReader.cleared (s : TokenReader) : TokenReader :=
  { s with keys := s.keys.filter fun x => !isStale s.cursor.mark x.2 }

/-- With the first `n` tokens of the queue handed out. -/
def TokenReader.released (s : TokenReader) (n : Nat) : TokenReader :=
  { s with queue := s.queue.drop n, taken := s.taken + n }

theorem TokenReader.clear_cleared (s : TokenReader) : s.cleared.Clear := by
  intro x hx
  change isStale s.cursor.mark x.2 = false
  simpa using (List.mem_filter.1 hx).2

theorem TokenReader.Clear.cleared_eq (h : s.Clear) : s.cleared = s := by
  have hkeys : (s.keys.filter fun x => !isStale s.cursor.mark x.2) = s.keys :=
    List.filter_eq_self.2 fun x hx => by rw [h x hx]; rfl
  rw [TokenReader.cleared, hkeys]

theorem TokenReader.Clear.staleFree (h : s.Clear) : StaleFree s := fun x hx hstale => by
  rw [h x hx] at hstale
  cases hstale

@[simp] theorem TokenReader.released_zero (s : TokenReader) : s.released 0 = s := rfl

theorem TokenReader.released_succ {x : Token} {queue : List Token} (hq : s.queue = x :: queue) (n : Nat) :
    s.released (n + 1) = ({ s with queue, taken := s.taken + 1 } : TokenReader).released n := by
  rw [TokenReader.released, TokenReader.released, hq, List.drop_succ_cons, Nat.add_right_comm, Nat.add_assoc]

namespace Scan

/-- What is asked of a queue that is not empty. -/
def askKeys : Scan Bool := do
  dropStaleKeys
  let s ← get
  return s.keys.any fun x => x.2.number == s.taken

theorem run_needsMore_eq (hd : s.done = false) : needsMore.run s =
    (if s.queue.isEmpty then pure true else askKeys).run s := by
  have hrun : needsMore.run s = (if s.done = true then pure false else (do
      let s ← get
      if s.queue.isEmpty then return true else askKeys : Scan Bool)).run s := rfl
  rw [hrun, hd, if_neg (by simp)]
  rfl

theorem run_needsMore_of_queue_nil (hd : s.done = false) (hq : s.queue = []) : needsMore.run s = .ok (true, s) := by
  rw [run_needsMore_eq hd, hq]
  rfl

theorem run_needsMore (hd : s.done = false) (hq : s.queue ≠ []) (h : StaleFree s) :
    needsMore.run s = .ok (s.cleared.keys.any (·.2.number == s.taken), s.cleared) := by
  rw [run_needsMore_eq hd, if_neg (by simpa using hq), askKeys, run_bind_ok (run_dropStaleKeys h)]
  rfl

theorem staleFree_of_needsMore {more : Bool} {r : TokenReader} (hd : s.done = false) (hq : s.queue ≠ [])
    (h : needsMore.run s = .ok (more, r)) : StaleFree s := by
  rw [run_needsMore_eq hd, if_neg (by simpa using hq), askKeys] at h
  obtain ⟨a, r', hdrop, -⟩ := exists_of_run_bind_ok h
  exact (ensures_dropStaleKeys_eq a r' hdrop).1

end Scan

namespace Drains

theorem exists_needsMore (h : Drains s rest) : ∃ more r, needsMore.run s = .ok (more, r) := by
  cases h with
  | finish hmore => exact ⟨_, _, hmore⟩
  | fetch hmore => exact ⟨_, _, hmore⟩
  | release hmore => exact ⟨_, _, hmore⟩

/-- It is no matter whether stale keys have been forgotten. -/
theorem cleared_iff (hd : s.done = false) (hq : s.queue ≠ []) (hs : StaleFree s) :
    Drains s.cleared rest ↔ Drains s rest := by
  have hsame : needsMore.run s.cleared = needsMore.run s := by
    rw [run_needsMore hd hq hs, run_needsMore (s := s.cleared) hd hq s.clear_cleared.staleFree, s.clear_cleared.cleared_eq]
    rfl
  constructor
  · intro h
    cases h with
    | finish hmore hnil => exact .finish (hsame ▸ hmore) hnil
    | fetch hmore hfetch h => exact .fetch (hsame ▸ hmore) hfetch h
    | release hmore hcons h => exact .release (hsame ▸ hmore) hcons h
  · intro h
    cases h with
    | finish hmore hnil => exact .finish (hsame ▸ hmore) hnil
    | fetch hmore hfetch h => exact .fetch (hsame ▸ hmore) hfetch h
    | release hmore hcons h => exact .release (hsame ▸ hmore) hcons h

/-- The first token is handed out if no possible key has its number. -/
theorem cons_iff {x : Token} {queue : List Token} (hclear : s.done = true ∨ s.Clear) (hq : s.queue = x :: queue)
    (hkeys : ∀ y ∈ s.keys, y.2.number ≠ s.taken) :
    Drains s rest ↔ ∃ rest', rest = ⟨x, s.version⟩ :: rest' ∧ Drains (s.released 1) rest' := by
  have hmore : needsMore.run s = .ok (false, s) := by
    cases hd : s.done with
    | true => exact run_needsMore_of_done hd
    | false =>
      have hclear := hclear.resolve_left (by simp [hd])
      rw [run_needsMore hd (by simp [hq]) hclear.staleFree, hclear.cleared_eq]
      have hnone : s.keys.any (·.2.number == s.taken) = false := List.any_eq_false.2 fun y hy => by simpa using hkeys y hy
      rw [hnone]
  have hreleased : s.released 1 = { s with queue, taken := s.taken + 1 } := by
    rw [TokenReader.released_succ hq]
    rfl
  rw [hreleased]
  constructor
  · intro h
    cases h with
    | finish hmore' hnil => rw [hmore] at hmore'; cases hmore'; rw [hq] at hnil; cases hnil
    | fetch hmore' => rw [hmore] at hmore'; cases hmore'
    | release hmore' hq' h =>
      rw [hmore] at hmore'
      cases hmore'
      rw [hq] at hq'
      cases hq'
      exact ⟨_, rfl, h⟩
  · rintro ⟨rest', rfl, h⟩
    exact .release hmore hq h

/-- So are all tokens before the first possible key. -/
theorem append_iff {old new : List Token} (hclear : s.done = true ∨ s.Clear) (hq : s.queue = old ++ new)
    (hkeys : ∀ y ∈ s.keys, s.taken + old.length ≤ y.2.number) :
    Drains s rest ↔ ∃ rest', rest = old.map (⟨·, s.version⟩) ++ rest' ∧ Drains (s.released old.length) rest' := by
  induction old generalizing s rest with
  | nil => simp
  | cons x old ih =>
    rw [List.length_cons] at hkeys
    have hcons : Drains s rest ↔ ∃ rest', rest = ⟨x, s.version⟩ :: rest' ∧ Drains (s.released 1) rest' :=
      cons_iff hclear hq fun y hy => by
        have := hkeys y hy
        omega
    have hreleased : s.released 1 = { s with queue := old ++ new, taken := s.taken + 1 } := by
      rw [TokenReader.released_succ hq]
      rfl
    rw [hcons]
    have hrest : ∀ rest', Drains (s.released 1) rest' ↔ ∃ rest'', rest' = old.map (⟨·, s.version⟩) ++ rest'' ∧
        Drains (s.released (old.length + 1)) rest'' := by
      intro rest'
      rw [hreleased, TokenReader.released_succ hq]
      refine ih (s := { s with queue := old ++ new, taken := s.taken + 1 }) hclear rfl fun y hy => ?_
      have := hkeys y hy
      simp only
      omega
    simp only [hrest, List.map_cons, List.cons_append, List.length_cons]
    constructor
    · rintro ⟨_, rfl, rest'', rfl, h⟩
      exact ⟨rest'', rfl, h⟩
    · rintro ⟨rest'', rfl, h⟩
      exact ⟨_, rfl, rest'', rfl, h⟩

/-- Some tokens are handed out, and then one is fetched. -/
theorem exists_fetch (hd : s.done = false) (hclear : s.Clear) (h : Drains s rest) : ∃ n, ∃ r rest', n ≤ s.queue.length ∧
    Scan.fetch.run (s.released n) = .ok ((), r) ∧ Drains r rest' ∧
    rest = (s.queue.take n).map (⟨·, s.version⟩) ++ rest' := by
  generalize hqueue : s.queue = queue
  induction queue generalizing s rest with
  | nil =>
    have hmore := run_needsMore_of_queue_nil hd hqueue
    cases h with
    | finish hmore' => rw [hmore] at hmore'; cases hmore'
    | release hmore' => rw [hmore] at hmore'; cases hmore'
    | fetch hmore' hfetch h =>
      rw [hmore] at hmore'
      cases hmore'
      exact ⟨0, _, _, Nat.le_refl _, hfetch, h, rfl⟩
  | cons x queue ih =>
    have hmore := run_needsMore hd (by simp [hqueue]) hclear.staleFree
    rw [hclear.cleared_eq] at hmore
    have hsame : ∀ {more : Bool} {r : TokenReader}, needsMore.run s = .ok (more, r) → r = s := by
      intro more r hmore'
      rw [hmore] at hmore'
      cases hmore'
      rfl
    cases h with
    | finish hmore' hnil =>
      rw [hsame hmore', hqueue] at hnil
      cases hnil
    | fetch hmore' hfetch h =>
      rw [hsame hmore'] at hfetch
      exact ⟨0, _, _, Nat.zero_le _, hfetch, h, rfl⟩
    | @release s s' y queue' rest hmore' hq' h =>
      have heq : s = s' := (hsame hmore').symm
      subst heq
      rw [hqueue] at hq'
      cases hq'
      obtain ⟨n, r, rest', hn, hfetch, hdrains, rfl⟩ := ih (s := { s with queue, taken := s.taken + 1 }) hd hclear h rfl
      refine ⟨n + 1, r, rest', by simpa using hn, ?_, hdrains, rfl⟩
      rw [TokenReader.released_succ hqueue]
      exact hfetch

/-- From every state without stale keys there comes a fetch. -/
theorem exists_of_fetch (hd : s.done = false) (hclear : s.Clear) : ∃ n ≤ s.queue.length, ∀ r rest',
    Scan.fetch.run (s.released n) = .ok ((), r) → Drains r rest' →
      Drains s ((s.queue.take n).map (⟨·, s.version⟩) ++ rest') := by
  generalize hqueue : s.queue = queue
  induction queue generalizing s with
  | nil => exact ⟨0, Nat.le_refl _, fun r rest' hfetch h => .fetch (run_needsMore_of_queue_nil hd hqueue) hfetch h⟩
  | cons x queue ih =>
    have hmore := run_needsMore hd (by simp [hqueue]) hclear.staleFree
    rw [hclear.cleared_eq] at hmore
    cases hany : s.keys.any (·.2.number == s.taken) with
    | true =>
      rw [hany] at hmore
      exact ⟨0, Nat.zero_le _, fun r rest' hfetch h => .fetch hmore hfetch h⟩
    | false =>
      rw [hany] at hmore
      obtain ⟨n, hn, hback⟩ := ih (s := { s with queue, taken := s.taken + 1 }) hd hclear rfl
      refine ⟨n + 1, by simpa using hn, fun r rest' hfetch h => ?_⟩
      rw [TokenReader.released_succ hqueue] at hfetch
      exact .release hmore hqueue (hback r rest' hfetch h)

end Drains

/-! ### After a fork -/

namespace Fork

variable {F : Fork} {a b : TokenReader} {old old' : List Token}

theorem Twins.released (h : F.Twins old old' a b) : F.Twins [] [] (a.released old.length) (b.released old'.length) := by
  obtain ⟨new, new', hq, hq', hnew⟩ := h.queue
  refine { h with queue := ⟨new, new', ?_, ?_, hnew⟩, taken := h.taken, last := rfl, fresh := h.fresh }
  · rw [TokenReader.released, hq, List.drop_left]
    rfl
  · rw [TokenReader.released, hq', List.drop_left]
    rfl

theorem Twins.cleared (h : F.Twins old old' a b) : F.Twins old old' a.cleared b.cleared :=
  h.filter fun x x' hx => by rw [hx.isStale h.cursor.marks]

theorem Twins.fresh' (h : F.Twins old old' a b) : ∀ y ∈ b.keys, b.taken + old'.length ≤ y.2.number := by
  intro y hy
  obtain ⟨x, hx, hsame⟩ := exists_left_of_mem h.keys hy
  rw [hsame.number, h.taken]
  exact h.fresh x hx

/-- Readers that are done have their queues left. -/
theorem exists_drains_of_done (h : F.Twins [] [] a b) (hd : a.done = true) {rest : List Released} (hdrains : Drains a rest) :
    ∃ rest', Drains b rest' ∧ List.Forall₂ (SameReleased F) rest rest' := by
  obtain ⟨new, new', hqa, hqb, hnew⟩ := h.queue
  rw [List.nil_append] at hqa hqb
  rw [hdrains.unique (.of_done hd hqa)]
  refine ⟨_, .of_done (h.done.trans hd) hqb, ?_⟩
  rw [List.forall₂_map_left_iff, List.forall₂_map_right_iff]
  exact hnew.imp fun x y hx => ⟨hx, h.version⟩

/-- Readers of the same text drain alike. -/
theorem exists_drains (hl : F.left = []) (h : F.Twins [] [] a b) {rest : List Released} (hdrains : Drains a rest) :
    ∃ rest', Drains b rest' ∧ List.Forall₂ (SameReleased F) rest rest' := by
  induction hdrains generalizing b with
  | @finish a a' hmore hq =>
    obtain ⟨more, b', hmore', rfl, htwins⟩ := follows_needsMore h false a' hmore trivial
    obtain ⟨new, new', hqa, hqb, hnew⟩ := htwins.queue
    rw [List.nil_append] at hqa hqb
    rw [hq] at hqa
    subst hqa
    cases hnew
    exact ⟨[], .finish hmore' hqb, .nil⟩
  | @fetch a a' a'' rest hmore hfetch _ ih =>
    obtain ⟨more, b', hmore', rfl, htwins⟩ := follows_needsMore h true a' hmore trivial
    obtain ⟨⟨⟩, b'', hfetch', -, htwins'⟩ := follows_fetch htwins () a'' hfetch (.inl hl)
    obtain ⟨rest', hdrains', hsame⟩ := ih htwins'
    exact ⟨rest', .fetch hmore' hfetch' hdrains', hsame⟩
  | @release a a' x queue rest hmore hq hrest ih =>
    cases hd : a.done with
    | true => exact exists_drains_of_done h hd (.release hmore hq hrest)
    | false =>
    obtain ⟨more, b', hmore', rfl, htwins⟩ := follows_needsMore h false a' hmore trivial
    have hkeys : ∀ z ∈ a'.keys, z.2.number ≠ a'.taken := by
      have hne : a.queue ≠ [] := by
        intro hnil
        rw [run_needsMore_of_queue_nil hd hnil] at hmore
        cases hmore
      rw [run_needsMore hd hne (staleFree_of_needsMore hd hne hmore)] at hmore
      obtain ⟨hany, rfl⟩ := Prod.mk.inj (Except.ok.inj hmore)
      exact fun z hz hnumber => List.any_eq_false.1 hany z hz (beq_iff_eq.2 hnumber)
    obtain ⟨y, ys, hqb, hy, hnext⟩ := htwins.release hq hkeys
    obtain ⟨rest', hdrains', hsame⟩ := ih hnext
    exact ⟨_, .release hmore' hqb hdrains', .cons ⟨hy, htwins.version⟩ hsame⟩

/-- So do readers that have some tokens of their own left in their queues. -/
theorem exists_drains_append (hl : F.left = []) (h : F.Twins old old' a b) (hq : a.queue ≠ []) (hq' : b.queue ≠ [])
    {rest : List Released} (hdrains : Drains a rest) : ∃ later later', rest = old.map (⟨·, a.version⟩) ++ later ∧
      Drains b (old'.map (⟨·, a.version⟩) ++ later') ∧ List.Forall₂ (SameReleased F) later later' := by
  -- Once the stale keys have been forgotten.
  have hclear : ∀ {a b : TokenReader}, F.Twins old old' a b → (a.done = true ∨ a.Clear) → (b.done = true ∨ b.Clear) →
      Drains a rest → ∃ later later', rest = old.map (⟨·, a.version⟩) ++ later ∧
        Drains b (old'.map (⟨·, a.version⟩) ++ later') ∧ List.Forall₂ (SameReleased F) later later' := by
    intro a b h ha hb hdrains
    obtain ⟨new, new', hqa, hqb, -⟩ := h.queue
    obtain ⟨later, rfl, hlater⟩ := (Drains.append_iff ha hqa h.fresh).1 hdrains
    obtain ⟨later', hlater', hsame⟩ := exists_drains hl h.released hlater
    refine ⟨later, later', rfl, (Drains.append_iff hb hqb h.fresh').2 ⟨later', ?_, hlater'⟩, hsame⟩
    rw [h.version]
  cases hd : a.done with
  | true => exact hclear h (.inl hd) (.inl (h.done.trans hd)) hdrains
  | false =>
    obtain ⟨more, r, hmore⟩ := hdrains.exists_needsMore
    have hs := staleFree_of_needsMore hd hq hmore
    obtain ⟨later, later', hlater, hlater', hsame⟩ := hclear h.cleared (.inr a.clear_cleared) (.inr b.clear_cleared)
      ((Drains.cleared_iff hd hq hs).2 hdrains)
    exact ⟨later, later', hlater, (Drains.cleared_iff (h.done.trans hd) hq' (staleFree_of_twins h hs)).1 hlater', hsame⟩

end Fork

end YamlStyle.Yaml

import Mathlib.Data.List.Sort
import CriticalCss.Proofs.Sites

/-!
# Text without comments

The text of a tree is what its source says outside of its comments. A comment counts if no other comment stands above it: what is below a
comment is not looked at (`OutermostAt`). If these comments lie in the tree one behind the other (`Apart`), the text is that of exactly
those bytes that no comment covers, each once and in their order (`rendered_of_uncovered`). In a tree in which a comment contains what
stands below it, these are the bytes that no comment at any depth covers; in other trees they need not be
(`nested_comment_outside_survives`).

The ranges that are cut out are first matched with the places of the comments, by induction on the tree; then the cuts are followed from
left to right.
-/

namespace CriticalCss

namespace SyntaxTree

/-! ## Places of comments -/

/-- A comment stands below the root of a tree. -/
def CommentAt (t : SyntaxTree) (q : Address) (c : SyntaxTree) : Prop := q ≠ [] ∧ t.subtree? q = some c ∧ c.kind = .comment

/-- A comment stands in a tree and no other comment above it. -/
def OutermostAt (t : SyntaxTree) (q : Address) (c : SyntaxTree) : Prop :=
  t.subtree? q = some c ∧ c.kind = .comment ∧ ∀ q' : Address, q'.Above q → ∀ d, t.subtree? q' = some d → d.kind ≠ .comment

/-- Whether a position is in the range of a tree. -/
def Covers (c : SyntaxTree) (i : Nat) : Prop := c.label.start ≤ i ∧ i < c.label.stop

/-- Marked trees lie in the range of a tree, one behind the other in the order of their places. -/
structure Apart (t : SyntaxTree) (marks : Address → SyntaxTree → Prop) : Prop where
  inside : ∀ q c, marks q c → t.label.start ≤ c.label.start ∧ c.label.start ≤ c.label.stop ∧ c.label.stop ≤ t.label.stop
  behind : ∀ q c, marks q c → ∀ q' c', marks q' c' → q < q' → c.label.stop ≤ c'.label.start

/-- Bytes that are left of the range of a tree when the ranges of marked trees are taken out: each of the others once, in their order. -/
def Leaves (source : List UInt8) (t : SyntaxTree) (marks : Address → SyntaxTree → Prop) (bytes : List UInt8) : Prop :=
  ∃ positions : List Nat,
    positions.Pairwise (· < ·) ∧ (∀ i, i ∈ positions ↔ t.Covers i ∧ ∀ q c, marks q c → ¬c.Covers i) ∧
    bytes = positions.filterMap (source[·]?)

/-- A comment contains every comment below it. -/
def CommentsContain (t : SyntaxTree) : Prop :=
  ∀ q c p d, t.subtree? q = some c → c.kind = .comment → c.subtree? p = some d → d.kind = .comment →
    c.label.start ≤ d.label.start ∧ d.label.stop ≤ c.label.stop

/-! ## The ranges that are cut out -/

variable {t c : SyntaxTree}

/-- At the root there is an outermost comment exactly if the tree is one. -/
theorem outermostAt_nil : t.OutermostAt [] c ↔ t.kind = .comment ∧ c = t := by
  constructor
  · rintro ⟨hc, hk, -⟩
    cases hc
    exact ⟨hk, rfl⟩
  · rintro ⟨hk, rfl⟩
    exact ⟨rfl, hk, fun q hq => absurd hq (SiteAux.not_above_nil q)⟩

/-- Below the root it is an outermost comment of a child, and the tree is no comment. -/
theorem outermostAt_cons {i : Nat} {q : Address} :
    t.OutermostAt (i :: q) c ↔ t.kind ≠ .comment ∧ ∃ child, t.children[i]? = some child ∧ child.OutermostAt q c := by
  constructor
  · rintro ⟨hc, hk, habove⟩
    obtain ⟨child, hchild, hc⟩ := Option.bind_eq_some_iff.mp hc
    refine ⟨habove [] (SiteAux.nil_above_cons i q) t rfl, child, hchild, hc, hk, ?_⟩
    intro q' hq' d hd
    refine habove (i :: q') (SiteAux.cons_above_cons.mpr ⟨rfl, hq'⟩) d ?_
    simp [subtree?, hchild, hd]
  · rintro ⟨hk, child, hchild, hc, hkc, habove⟩
    refine ⟨by simp [subtree?, hchild, hc], hkc, ?_⟩
    intro q' hq' d hd
    rcases SiteAux.above_cons hq' with rfl | ⟨r, rfl, hr⟩
    · cases hd
      exact hk
    · refine habove r hr d ?_
      simpa [subtree?, hchild] using hd

/-- The range of the tree at an address. -/
def rangeAt (t : SyntaxTree) (q : Address) : Nat × Nat :=
  match t.subtree? q with
  | none => (0, 0)
  | some c => (c.label.start, c.label.stop)

theorem commentsIn_eq (children : List SyntaxTree) (k : Nat) :
    commentsIn children = (children.zipIdx k).flatMap fun e => e.1.comments := by
  induction children generalizing k with
  | nil => rfl
  | cons c rest ih => rw [commentsIn, List.zipIdx_cons, List.flatMap_cons, ih (k + 1)]

/-- What some addresses have to be for a tree: those of its outermost comments, each once and in order, so that their ranges are the ones
that are cut out. -/
structure Collects (t : SyntaxTree) (addresses : List Address) : Prop where
  ordered : addresses.Pairwise (· < ·)
  complete : ∀ q, q ∈ addresses ↔ ∃ c, t.OutermostAt q c
  ranges : t.comments = addresses.map t.rangeAt

/-- Of a comment its own range is collected. -/
theorem collects_comment (hk : t.kind = .comment) : t.Collects [[]] where
  ordered := List.pairwise_singleton _ _
  complete := by
    intro q
    cases q with
    | nil => simp [outermostAt_nil, hk]
    | cons i q => simp [outermostAt_cons, hk]
  ranges := by
    obtain ⟨label, children⟩ := t
    exact if_pos hk

/-- Of any other tree the ranges of its children are collected, one child after the other. -/
theorem collects_node {below : SyntaxTree → List Address} (hk : t.kind ≠ .comment) (h : ∀ c ∈ t.children, c.Collects (below c)) :
    t.Collects (t.children.zipIdx.flatMap fun e => (below e.1).map (e.2 :: ·)) where
  ordered := SiteAux.ordered_flatMap (SiteAux.zipIdx_ordered t.children) fun e he =>
    (h e.1 (List.fst_mem_of_mem_zipIdx he)).ordered
  complete := by
    intro q
    simp only [List.mem_flatMap, List.mem_map, Prod.exists, List.mem_zipIdx_iff_getElem?]
    cases q with
    | nil => simp [outermostAt_nil, hk]
    | cons i q =>
      constructor
      · rintro ⟨child, j, hchild, p, hp, heq⟩
        cases heq
        obtain ⟨c, hc⟩ := ((h child (List.mem_of_getElem? hchild)).complete q).mp hp
        exact ⟨c, outermostAt_cons.mpr ⟨hk, child, hchild, hc⟩⟩
      · rintro ⟨c, hc⟩
        obtain ⟨-, child, hchild, hc⟩ := outermostAt_cons.mp hc
        exact ⟨child, i, hchild, q, ((h child (List.mem_of_getElem? hchild)).complete q).mpr ⟨c, hc⟩, rfl⟩
  ranges := by
    have hcomments : t.comments = t.children.zipIdx.flatMap fun e => e.1.comments := by
      obtain ⟨label, children⟩ := t
      exact (if_neg hk).trans (commentsIn_eq children 0)
    rw [hcomments, List.map_flatMap]
    refine List.flatMap_congr fun e he => ?_
    have hchild : t.children[e.2]? = some e.1 := List.mem_zipIdx_iff_getElem?.mp he
    rw [(h e.1 (List.mem_of_getElem? hchild)).ranges, List.map_map]
    refine List.map_congr_left fun q _ => ?_
    simp [rangeAt, subtree?, hchild]

/-- The ranges of every tree are those of its outermost comments. The induction is on the tree. -/
theorem exists_collects (t : SyntaxTree) : ∃ addresses, t.Collects addresses := by
  induction t using SyntaxTree.induction with
  | h t ih =>
    by_cases hk : t.kind = .comment
    · exact ⟨[[]], collects_comment hk⟩
    · choose! below hbelow using ih
      exact ⟨_, collects_node hk hbelow⟩

/-! ## Cutting out -/

/-- Ranges that lie one behind the other between two positions. -/
inductive InLine (stop : Nat) : Nat → List (Nat × Nat) → Prop
  | nil {position : Nat} : InLine stop position []
  | cons {position first last : Nat} {rest : List (Nat × Nat)} (hfirst : position ≤ first) (hlast : first ≤ last) (hstop : last ≤ stop)
      (h : InLine stop last rest) : InLine stop position ((first, last) :: rest)

/-- The positions from one position up to an end, without the ranges that are cut out. -/
def positionsOutside (stop : Nat) : List (Nat × Nat) → Nat → List Nat
  | [], position => List.range' position (stop - position)
  | (first, last) :: rest, position => List.range' position (first - position) ++ positionsOutside stop rest last

/-- A part of a source is what stands at its positions. -/
theorem slice_eq_filterMap (source : List UInt8) (start stop : Nat) :
    slice source start stop = (List.range' start (stop - start)).filterMap (source[·]?) := by
  unfold slice
  generalize stop - start = size
  induction size generalizing start with
  | zero => rfl
  | succ size ih =>
    rw [List.range'_succ, List.filterMap_cons, ← ih (start + 1)]
    by_cases h : start < source.length
    · rw [List.drop_eq_getElem_cons h, List.take_succ_cons, List.getElem?_eq_getElem h]
    · have hnone : source.drop start = [] := List.drop_eq_nil_of_le (by omega)
      have hnext : source.drop (start + 1) = [] := List.drop_eq_nil_of_le (by omega)
      simp [hnone, hnext, List.getElem?_eq_none (Nat.le_of_not_lt h)]

/-- What is left between some ranges is what stands at the positions outside of them. -/
theorem cutOut_eq_filterMap (source : List UInt8) (stop : Nat) (ranges : List (Nat × Nat)) (position : Nat) :
    cutOut source stop ranges position = (positionsOutside stop ranges position).filterMap (source[·]?) := by
  induction ranges generalizing position with
  | nil => exact slice_eq_filterMap source position stop
  | cons range rest ih =>
    obtain ⟨first, last⟩ := range
    rw [cutOut, positionsOutside, List.filterMap_append, slice_eq_filterMap, ih]

/-- Ranges in line begin at the position or behind it. -/
theorem InLine.le {stop position : Nat} {ranges : List (Nat × Nat)} (h : InLine stop position ranges) :
    ∀ range ∈ ranges, position ≤ range.1 := by
  induction h with
  | nil => exact nofun
  | cons hfirst hlast hstop h ih =>
    intro range hrange
    rcases List.mem_cons.mp hrange with rfl | hrange
    · exact hfirst
    · have hle := ih range hrange
      omega

theorem InLine.le_stop {stop position : Nat} {ranges : List (Nat × Nat)} (h : InLine stop position ranges) :
    ∀ range ∈ ranges, range.1 ≤ range.2 ∧ range.2 ≤ stop := by
  induction h with
  | nil => exact nofun
  | cons hfirst hlast hstop h ih => exact List.forall_mem_cons.mpr ⟨⟨hlast, hstop⟩, ih⟩

/-- Of ranges in line each ends before the next begins. -/
theorem InLine.pairwise {stop position : Nat} {ranges : List (Nat × Nat)} (h : InLine stop position ranges) :
    ranges.Pairwise fun a b => a.2 ≤ b.1 := by
  induction h with
  | nil => exact List.Pairwise.nil
  | cons hfirst hlast hstop h ih => exact List.pairwise_cons.mpr ⟨h.le, ih⟩

/-- Ranges are in line if each is and each lies behind those before it. -/
theorem inLine_of_pairwise {stop position : Nat} {ranges : List (Nat × Nat)} (hfrom : ∀ range ∈ ranges, position ≤ range.1)
    (hstop : ∀ range ∈ ranges, range.1 ≤ range.2 ∧ range.2 ≤ stop) (h : ranges.Pairwise fun a b => a.2 ≤ b.1) :
    InLine stop position ranges := by
  induction ranges generalizing position with
  | nil => exact .nil
  | cons range rest ih =>
    obtain ⟨hbehind, hrest⟩ := List.pairwise_cons.mp h
    obtain ⟨hlast, hstops⟩ := List.forall_mem_cons.mp hstop
    exact .cons (hfrom range List.mem_cons_self) hlast.1 hlast.2 (ih hbehind hstops hrest)

/-- The positions outside of ranges in line are those that none of them covers. -/
theorem mem_positionsOutside {stop position : Nat} {ranges : List (Nat × Nat)} (h : InLine stop position ranges) (i : Nat) :
    i ∈ positionsOutside stop ranges position ↔ (position ≤ i ∧ i < stop) ∧ ∀ range ∈ ranges, ¬(range.1 ≤ i ∧ i < range.2) := by
  induction h with
  | nil =>
    rw [positionsOutside, List.mem_range'_1]
    simp
    omega
  | @cons position first last rest hfirst hlast hstop h ih =>
    rw [positionsOutside, List.mem_append, List.mem_range'_1, ih, List.forall_mem_cons]
    constructor
    · rintro (hbefore | ⟨hbehind, hrest⟩)
      · refine ⟨by omega, by omega, fun range hrange => ?_⟩
        have hle := h.le range hrange
        omega
      · exact ⟨by omega, by omega, hrest⟩
    · rintro ⟨hspan, hcut, hrest⟩
      by_cases hbefore : i < first
      · exact Or.inl (by omega)
      · exact Or.inr ⟨by omega, hrest⟩

/-- These positions are counted upwards. -/
theorem positionsOutside_ordered {stop position : Nat} {ranges : List (Nat × Nat)} (h : InLine stop position ranges) :
    (positionsOutside stop ranges position).Pairwise (· < ·) := by
  induction h with
  | nil => exact List.pairwise_lt_range'
  | @cons position first last rest hfirst hlast hstop h ih =>
    rw [positionsOutside, List.pairwise_append]
    refine ⟨List.pairwise_lt_range', ih, ?_⟩
    intro i hi j hj
    have hi := List.mem_range'_1.mp hi
    have hj := ((mem_positionsOutside h j).mp hj).1
    omega

/-! ## The outermost comments -/

theorem rangeAt_eq {q : Address} (h : t.OutermostAt q c) : t.rangeAt q = (c.label.start, c.label.stop) := by
  rw [rangeAt, h.1]

/-- In a list that is in order, what holds of each pair in the order of the list holds of each pair in order. -/
theorem pairwise_iff_of_ordered {addresses : List Address} (h : addresses.Pairwise (· < ·)) {r : Address → Address → Prop} :
    addresses.Pairwise r ↔ ∀ q ∈ addresses, ∀ q' ∈ addresses, q < q' → r q q' := by
  constructor
  · intro hr q hq q' hq' hlt
    obtain ⟨i, hi, rfl⟩ := List.getElem_of_mem hq
    obtain ⟨j, hj, rfl⟩ := List.getElem_of_mem hq'
    rcases Nat.lt_trichotomy i j with hij | rfl | hij
    · exact List.pairwise_iff_getElem.mp hr i j hi hj hij
    · exact absurd hlt (List.lt_irrefl _)
    · exact absurd hlt (List.lt_asymm (List.pairwise_iff_getElem.mp h j i hj hi hij))
  · intro hr
    exact h.imp_of_mem fun {q q'} hq hq' hlt => hr q hq q' hq' hlt

/-- The ranges that are cut out are those of the outermost comments. -/
theorem forall_mem_comments_iff {p : Nat × Nat → Prop} :
    (∀ range ∈ t.comments, p range) ↔ ∀ q c, t.OutermostAt q c → p (c.label.start, c.label.stop) := by
  obtain ⟨addresses, h⟩ := t.exists_collects
  rw [h.ranges, List.forall_mem_map]
  constructor
  · intro hp q c hc
    exact rangeAt_eq hc ▸ hp q ((h.complete q).mpr ⟨c, hc⟩)
  · intro hp q hq
    obtain ⟨c, hc⟩ := (h.complete q).mp hq
    exact rangeAt_eq hc ▸ hp q c hc

/-- They are cut out in the order of the comments. -/
theorem pairwise_comments_iff :
    (t.comments.Pairwise fun a b => a.2 ≤ b.1) ↔
      ∀ q c, t.OutermostAt q c → ∀ q' c', t.OutermostAt q' c' → q < q' → c.label.stop ≤ c'.label.start := by
  obtain ⟨addresses, h⟩ := t.exists_collects
  rw [h.ranges, List.pairwise_map, pairwise_iff_of_ordered h.ordered]
  constructor
  · intro hp q c hc q' c' hc' hlt
    have hle := hp q ((h.complete q).mpr ⟨c, hc⟩) q' ((h.complete q').mpr ⟨c', hc'⟩) hlt
    rwa [rangeAt_eq hc, rangeAt_eq hc'] at hle
  · intro hp q hq q' hq' hlt
    obtain ⟨c, hc⟩ := (h.complete q).mp hq
    obtain ⟨c', hc'⟩ := (h.complete q').mp hq'
    rw [rangeAt_eq hc, rangeAt_eq hc']
    exact hp q c hc q' c' hc' hlt

/-- Comments lie apart if and only if the ranges that are cut out lie one behind the other. -/
theorem apart_outermostAt_iff : t.Apart t.OutermostAt ↔ InLine t.label.stop t.label.start t.comments := by
  constructor
  · intro h
    exact inLine_of_pairwise (forall_mem_comments_iff.mpr fun q c hc => (h.inside q c hc).1)
      (forall_mem_comments_iff.mpr fun q c hc => (h.inside q c hc).2) (pairwise_comments_iff.mpr h.behind)
  · intro h
    have hfrom := forall_mem_comments_iff.mp h.le
    have hstop := forall_mem_comments_iff.mp h.le_stop
    exact ⟨fun q c hc => ⟨hfrom q c hc, hstop q c hc⟩, pairwise_comments_iff.mp h.pairwise⟩

/-- What is left of a tree, if its outermost comments lie apart. -/
theorem leaves_bytesWithoutComments (source : List UInt8) (h : t.Apart t.OutermostAt) :
    t.Leaves source t.OutermostAt (t.bytesWithoutComments source) := by
  have hline := apart_outermostAt_iff.mp h
  refine ⟨positionsOutside t.label.stop t.comments t.label.start, positionsOutside_ordered hline, ?_, cutOut_eq_filterMap _ _ _ _⟩
  intro i
  rw [mem_positionsOutside hline i]
  exact and_congr_right fun _ => forall_mem_comments_iff

/-- Nothing else is left. -/
theorem Leaves.unique {source : List UInt8} {marks : Address → SyntaxTree → Prop} {bytes bytes' : List UInt8}
    (h : t.Leaves source marks bytes) (h' : t.Leaves source marks bytes') : bytes = bytes' := by
  obtain ⟨positions, hordered, hmem, rfl⟩ := h
  obtain ⟨positions', hordered', hmem', rfl⟩ := h'
  rw [hordered.eq_of_mem_iff hordered' fun i => (hmem i).trans (hmem' i).symm]

/-- The text of a tree is that of the bytes that its outermost comments leave, in the canonical spacing. -/
theorem rendered_of_leaves {source bytes : List UInt8} (h : t.Apart t.OutermostAt) (hleaves : t.Leaves source t.OutermostAt bytes) :
    t.rendered source = Text.collapse (Utf8.decodeTolerant bytes) := by
  rw [rendered, (leaves_bytesWithoutComments source h).unique hleaves]

/-! ## Comments below comments -/

theorem commentAt_of_outermostAt {q : Address} (hk : t.kind ≠ .comment) (h : t.OutermostAt q c) : t.CommentAt q c := by
  refine ⟨?_, h.1, h.2.1⟩
  rintro rfl
  exact hk (outermostAt_nil.mp h).1

/-- On the way to a comment stands an outermost one. -/
theorem exists_outermostAt {q : Address} {d : SyntaxTree} (hd : t.subtree? q = some d) (hk : d.kind = .comment) :
    ∃ q' p c, t.OutermostAt q' c ∧ c.subtree? p = some d := by
  induction q generalizing t with
  | nil =>
    cases hd
    exact ⟨[], [], d, outermostAt_nil.mpr ⟨hk, rfl⟩, rfl⟩
  | cons i q ih =>
    by_cases hcomment : t.kind = .comment
    · exact ⟨[], i :: q, t, outermostAt_nil.mpr ⟨hcomment, rfl⟩, hd⟩
    · obtain ⟨child, hchild, hd⟩ := Option.bind_eq_some_iff.mp hd
      obtain ⟨q', p, c, hc, hp⟩ := ih hd
      exact ⟨i :: q', p, c, outermostAt_cons.mpr ⟨hcomment, child, hchild, hc⟩, hp⟩

/-- Where comments contain those below them, the outermost ones cover what all cover. -/
theorem leaves_commentAt_iff {source bytes : List UInt8} (hk : t.kind ≠ .comment) (h : t.CommentsContain) :
    t.Leaves source t.CommentAt bytes ↔ t.Leaves source t.OutermostAt bytes := by
  have hcovered : ∀ i, (∀ q c, t.CommentAt q c → ¬c.Covers i) ↔ ∀ q c, t.OutermostAt q c → ¬c.Covers i := by
    intro i
    constructor
    · intro hfree q c hc
      exact hfree q c (commentAt_of_outermostAt hk hc)
    · rintro hfree q d ⟨-, hd, hkd⟩ hcovers
      obtain ⟨q', p, c, hc, hp⟩ := exists_outermostAt hd hkd
      obtain ⟨hstart, hstop⟩ := h q' c p d hc.1 hc.2.1 hp hkd
      exact hfree q' c hc ⟨hstart.trans hcovers.1, hcovers.2.trans_le hstop⟩
  unfold Leaves
  simp only [hcovered]

/-- Where all comments lie apart, the outermost ones do. -/
theorem apart_of_commentAt (hk : t.kind ≠ .comment) (h : t.Apart t.CommentAt) : t.Apart t.OutermostAt where
  inside q c hc := h.inside q c (commentAt_of_outermostAt hk hc)
  behind q c hc q' c' hc' := h.behind q c (commentAt_of_outermostAt hk hc) q' c' (commentAt_of_outermostAt hk hc')

/-! ## Looking at comments -/

theorem forall_commentAt_iff {p : Address → SyntaxTree → Prop} :
    (∀ q c, t.CommentAt q c → p q c) ↔ ∀ e ∈ t.places, e.1 ≠ [] → e.2.kind = .comment → p e.1 e.2 := by
  simp only [CommentAt, Prod.forall, mem_places_iff]
  exact forall₂_congr fun q c => ⟨fun h hc hq hk => h ⟨hq, hc, hk⟩, fun h hc => h hc.2.1 hc.1 hc.2.2⟩

theorem apart_commentAt_iff :
    t.Apart t.CommentAt ↔
      (∀ e ∈ t.places, e.1 ≠ [] → e.2.kind = .comment →
        t.label.start ≤ e.2.label.start ∧ e.2.label.start ≤ e.2.label.stop ∧ e.2.label.stop ≤ t.label.stop) ∧
      ∀ e ∈ t.places, e.1 ≠ [] → e.2.kind = .comment → ∀ e' ∈ t.places, e'.1 ≠ [] → e'.2.kind = .comment → e.1 < e'.1 →
        e.2.label.stop ≤ e'.2.label.start := by
  constructor
  · intro h
    refine ⟨forall_commentAt_iff.mp h.inside, fun e he hne hk => ?_⟩
    exact forall_commentAt_iff.mp (h.behind e.1 e.2 ⟨hne, mem_places_iff.mp he, hk⟩)
  · rintro ⟨hinside, hbehind⟩
    refine ⟨forall_commentAt_iff.mpr hinside, fun q c hc => ?_⟩
    exact forall_commentAt_iff.mpr (hbehind (q, c) (mem_places_iff.mpr hc.2.1) hc.1 hc.2.2)

instance (t : SyntaxTree) : Decidable (t.Apart t.CommentAt) := decidable_of_iff _ apart_commentAt_iff.symm

theorem commentsContain_iff :
    t.CommentsContain ↔ ∀ e ∈ t.places, e.2.kind = .comment → ∀ e' ∈ e.2.places, e'.2.kind = .comment →
      e.2.label.start ≤ e'.2.label.start ∧ e'.2.label.stop ≤ e.2.label.stop := by
  simp only [CommentsContain, Prod.forall, mem_places_iff]
  exact ⟨fun h q c hc hk p d => h q c p d hc hk, fun h q c p d hc hk => h q c hc hk p d⟩

instance (t : SyntaxTree) : Decidable t.CommentsContain := decidable_of_iff _ commentsContain_iff.symm

/-! ## Main statement -/

/-- The text of a tree whose comments lie apart, in three parts.
1. Some bytes are left when the outermost comments are taken out, and the text is what they say, in canonical form.
2. So it is with the comments at all depths, in a tree that is no comment and in which comments contain those below them.
3. Another tree of which the same bytes are left has the same text, whatever comments stand in it. -/
theorem text_of_uncovered (source : List UInt8) (t : SyntaxTree) :
    (t.Apart t.OutermostAt → (∃ bytes, t.Leaves source t.OutermostAt bytes) ∧
      ∀ bytes, t.Leaves source t.OutermostAt bytes → t.rendered source = Text.collapse (Utf8.decodeTolerant bytes)) ∧
    (t.Apart t.CommentAt → t.kind ≠ .comment → t.CommentsContain → (∃ bytes, t.Leaves source t.CommentAt bytes) ∧
      ∀ bytes, t.Leaves source t.CommentAt bytes → t.rendered source = Text.collapse (Utf8.decodeTolerant bytes)) ∧
    ∀ source' t' bytes, t.Apart t.OutermostAt → Apart t' t'.OutermostAt → t.Leaves source t.OutermostAt bytes →
      t'.Leaves source' t'.OutermostAt bytes → t.rendered source = t'.rendered source' := by
  refine ⟨?_, ?_, ?_⟩
  · intro h
    exact ⟨⟨_, leaves_bytesWithoutComments source h⟩, fun bytes hleaves => rendered_of_leaves h hleaves⟩
  · intro hall hk hcontain
    have h := apart_of_commentAt hk hall
    refine ⟨⟨_, (leaves_commentAt_iff hk hcontain).mpr (leaves_bytesWithoutComments source h)⟩, ?_⟩
    intro bytes hleaves
    exact rendered_of_leaves h ((leaves_commentAt_iff hk hcontain).mp hleaves)
  · intro source' t' bytes h h' hleaves hleaves'
    rw [rendered_of_leaves h hleaves, rendered_of_leaves h' hleaves']

namespace Commented

/-- A part of a source. -/
def part (kind : SyntaxKind) (start stop : Nat) (children : List SyntaxTree) : SyntaxTree :=
  .node { kind := kind, start := start, stop := stop, row := 0 } children

/-- A source with comments at both ends, and with two at different depths that touch each other. -/
def source : List UInt8 := Utf8.encode "/*a*/b/*c*//*d*/ e/**/".toList

/-- Its tree. -/
def tree : SyntaxTree :=
  part .selectors 0 22 [part .comment 0 5 [],
    part .other 5 18 [part .other 5 6 [], part .other 6 11 [part .comment 6 11 []], part .comment 11 16 [], part .other 17 18 []],
    part .comment 18 22 []]

/-- The same without comments. -/
def plainSource : List UInt8 := Utf8.encode "b e".toList

/-- Its tree. -/
def plainTree : SyntaxTree := part .selectors 0 3 []

/-- A source with a comment, and another comment behind it. -/
def nestedSource : List UInt8 := Utf8.encode "a/*x*//*y*/".toList

/-- A tree in which the second comment is below the first, though it is not in its range. -/
def nestedTree : SyntaxTree := part .selectors 0 11 [part .other 0 1 [], part .comment 1 6 [part .comment 6 11 []]]

end Commented

open Commented in
/-- A tree with comments at both ends, next to each other and at two depths has the text of its two other letters, and so has a tree over
another source that says these letters alone. -/
theorem text_of_uncovered_of_commented :
    tree.Apart tree.OutermostAt ∧ tree.Leaves source tree.OutermostAt plainSource ∧ tree.rendered source = "b e".toList ∧
      (tree.Apart tree.CommentAt ∧ tree.kind ≠ .comment ∧ tree.CommentsContain ∧
        ∃ bytes, tree.Leaves source tree.CommentAt bytes ∧ tree.rendered source = Text.collapse (Utf8.decodeTolerant bytes)) ∧
      plainTree.Apart plainTree.OutermostAt ∧ tree.rendered source = plainTree.rendered plainSource := by
  have hapart : tree.Apart tree.OutermostAt := apart_outermostAt_iff.mpr (inLine_of_pairwise (by decide) (by decide) (by decide))
  have hplain : plainTree.Apart plainTree.OutermostAt := apart_outermostAt_iff.mpr .nil
  have hbytes : tree.bytesWithoutComments source = plainSource := by decide +kernel
  have hleaves : tree.Leaves source tree.OutermostAt plainSource := hbytes ▸ leaves_bytesWithoutComments source hapart
  have hall : tree.Apart tree.CommentAt := by decide
  have hcontain : tree.CommentsContain := by decide
  have hkind : tree.kind ≠ .comment := by decide
  obtain ⟨houtermost, hdepths, hsame⟩ := text_of_uncovered source tree
  refine ⟨hapart, hleaves, ?_, ⟨hall, hkind, hcontain, ?_⟩, hplain, ?_⟩
  · rw [(houtermost hapart).2 plainSource hleaves]
    decide +kernel
  · obtain ⟨⟨bytes, hbytes⟩, htext⟩ := hdepths hall hkind hcontain
    exact ⟨bytes, hbytes, htext bytes hbytes⟩
  · refine hsame plainSource plainTree plainSource hapart hplain hleaves ?_
    have hplainBytes : plainTree.bytesWithoutComments plainSource = plainSource := by decide +kernel
    exact hplainBytes ▸ leaves_bytesWithoutComments plainSource hplain

open Commented in
/-- Comments at all depths may lie apart, and yet one of them survives: it stands below a comment that does not contain it. Without the two
comments the source says one letter; the text of the tree says more. No source is parsed into such a tree, in which a comment has a child:
the comments that parsing makes have none. -/
theorem nested_comment_outside_survives :
    nestedTree.Apart nestedTree.CommentAt ∧ nestedTree.Leaves nestedSource nestedTree.CommentAt (Utf8.encode ['a']) ∧
      Text.collapse (Utf8.decodeTolerant (Utf8.encode ['a'])) = ['a'] ∧ nestedTree.rendered nestedSource = "a/*y*/".toList := by
  refine ⟨by decide, ⟨[0], List.pairwise_singleton _ _, ?_, by decide +kernel⟩, by decide +kernel, by decide +kernel⟩
  intro i
  rw [forall_commentAt_iff]
  have hplaces : nestedTree.places = [([], nestedTree), ([0], part .other 0 1 []),
      ([1], part .comment 1 6 [part .comment 6 11 []]), ([1, 0], part .comment 6 11 [])] := rfl
  rw [hplaces]
  simp [Covers, nestedTree, part, kind, label]
  omega

end SyntaxTree

end CriticalCss

import CriticalCss.Proofs.Boundaries
import CriticalCss.Proofs.Judging
import CriticalCss.Proofs.Rendering

/-!
# Selectors in the text of their list

The text of a selector list and the texts of the selectors in it are made one by one: of each the comments are cut out, the bytes that are
left are read, and the blanks are collapsed. Where the trees in the list lie one behind the other at boundaries of characters (`LaidOut`),
each of the three steps does the same to a part of the list as to the part alone, but for a space where two parts meet. So the texts of
the selectors stand in the text of the list, in their order and none of them in another (`inOrder_row`), and a rule that is judged by its
list is looked for with the texts by which its selectors would have been judged (`selectors_in_list`).
-/

namespace CriticalCss

/-! ## Parts of a text -/

/-- Some texts occur in a text in this order, each of them behind the end of the one before it. -/
inductive Text.InOrder : List Text → Text → Prop
  | nil (t : Text) : InOrder [] t
  | cons (gap part : Text) {parts : List Text} {t : Text} (h : InOrder parts t) : InOrder (part :: parts) (gap ++ (part ++ t))

namespace Text.InOrder

variable {parts : List Text} {t : Text}

/-- What occurs in a text occurs behind any other. -/
theorem append_left (front : Text) (h : InOrder parts t) : InOrder parts (front ++ t) := by
  cases h with
  | nil => exact .nil _
  | cons gap part h =>
    rw [← List.append_assoc]
    exact .cons (front ++ gap) part h

/-- Some of the parts of a text are parts of it. -/
theorem of_sublist {fewer : List Text} (hfewer : fewer.Sublist parts) (h : InOrder parts t) : InOrder fewer t := by
  induction h generalizing fewer with
  | nil t =>
    rw [List.sublist_nil.mp hfewer]
    exact .nil t
  | cons gap part h ih =>
    cases hfewer with
    | cons _ hfewer => exact ((ih hfewer).append_left part).append_left gap
    | cons_cons _ hfewer => exact .cons gap part (ih hfewer)

theorem isInfix {part : Text} (h : InOrder parts t) (hpart : part ∈ parts) : part <:+: t := by
  induction h with
  | nil => exact absurd hpart List.not_mem_nil
  | cons gap first h ih =>
    rcases List.mem_cons.mp hpart with rfl | hpart
    · exact List.infix_append' gap _ _
    · exact (ih hpart).trans ((List.suffix_append first _).trans (List.suffix_append gap _)).isInfix

end Text.InOrder

namespace SyntaxTree

open Utf8 (IsBoundary Begins encode decodeTolerant)

/-! ## Cutting a range in two -/

theorem slice_append (source : List UInt8) {start middle stop : Nat} (h : start ≤ middle) (h' : middle ≤ stop) :
    slice source start middle ++ slice source middle stop = slice source start stop := by
  have hsize : stop - start = (middle - start) + (stop - middle) := by omega
  have hdrop : source.drop middle = (source.drop start).drop (middle - start) := by
    rw [List.drop_drop, Nat.add_sub_of_le h]
  rw [slice, slice, slice, hsize, List.take_add, hdrop]

/-- Ranges that lie before a position and ranges that lie behind it are cut out of the bytes on their side of it. -/
theorem cutOut_append (source : List UInt8) {stop middle position : Nat} {before after : List (Nat × Nat)}
    (hbefore : InLine middle position before) (hposition : position ≤ middle) (hafter : ∀ range ∈ after, middle ≤ range.1)
    (hstop : middle ≤ stop) :
    cutOut source stop (before ++ after) position = cutOut source middle before position ++ cutOut source stop after middle := by
  induction hbefore with
  | nil =>
    cases after with
    | nil => exact (slice_append source hposition hstop).symm
    | cons range after =>
      have hfirst : middle ≤ range.1 := hafter range List.mem_cons_self
      simp only [List.nil_append, cutOut, ← slice_append source hposition hfirst, List.append_assoc]
  | cons hfirst hlast hend h ih => simp only [List.cons_append, cutOut, ih hend, List.append_assoc]

theorem InLine.append {stop middle position : Nat} {before after : List (Nat × Nat)} (hbefore : InLine middle position before)
    (hafter : InLine stop middle after) (hposition : position ≤ middle) (hstop : middle ≤ stop) :
    InLine stop position (before ++ after) := by
  induction hbefore with
  | nil =>
    cases hafter with
    | nil => exact .nil
    | cons hfirst hlast hend h => exact .cons (hposition.trans hfirst) hlast hend h
  | cons hfirst hlast hend h ih => exact .cons hfirst hlast (hend.trans hstop) (ih hend)

/-! ## Layouts -/

/-- The range of a tree. -/
def range (t : SyntaxTree) : Nat × Nat := (t.label.start, t.label.stop)

/-- The children of a tree lie in its range, one behind the other, and begin and end at boundaries. -/
structure SetsOut (written : Text) (t : SyntaxTree) : Prop where
  row : InLine t.label.stop t.label.start (t.children.map range)
  boundaries : ∀ c ∈ t.children, IsBoundary written c.label.start ∧ IsBoundary written c.label.stop

/-- Every tree in a tree sets out its children. -/
def LaidOut (written : Text) (t : SyntaxTree) : Prop := ∀ q d, t.subtree? q = some d → d.SetsOut written

variable {written : Text} {t c : SyntaxTree}

theorem LaidOut.setsOut (h : t.LaidOut written) : t.SetsOut written := h [] t rfl

theorem LaidOut.child (h : t.LaidOut written) (hc : c ∈ t.children) : c.LaidOut written := by
  intro q d hd
  obtain ⟨i, hi⟩ := List.getElem?_of_mem hc
  refine h (i :: q) d ?_
  rw [subtree?, hi]
  exact hd

/-- A child ends behind its beginning. -/
theorem SetsOut.start_le_stop (h : t.SetsOut written) (hc : c ∈ t.children) : c.label.start ≤ c.label.stop :=
  (h.row.le_stop c.range (List.mem_map_of_mem hc)).1

theorem comments_of_comment (h : t.kind = .comment) : t.comments = [t.range] := by
  obtain ⟨label, children⟩ := t
  exact if_pos h

theorem comments_of_not_comment (h : t.kind ≠ .comment) : t.comments = commentsIn t.children := by
  obtain ⟨label, children⟩ := t
  exact if_neg h

theorem mem_commentsIn {children : List SyntaxTree} {r : Nat × Nat} : r ∈ commentsIn children ↔ ∃ c ∈ children, r ∈ c.comments := by
  rw [commentsIn_eq children 0]
  simp only [List.mem_flatMap, Prod.exists, List.mem_zipIdx_iff_getElem?]
  constructor
  · rintro ⟨c, i, hc, hr⟩
    exact ⟨c, List.mem_of_getElem? hc, hr⟩
  · rintro ⟨c, hc, hr⟩
    obtain ⟨i, hi⟩ := List.getElem?_of_mem hc
    exact ⟨c, i, hi, hr⟩

/-- The comments of trees in a row are in line, if those of each tree are. -/
theorem inLine_commentsIn {stop position : Nat} {children : List SyntaxTree} (hrow : InLine stop position (children.map range))
    (hbelow : ∀ c ∈ children, InLine c.label.stop c.label.start c.comments) : InLine stop position (commentsIn children) := by
  induction children generalizing position with
  | nil => exact .nil
  | cons c rest ih =>
    cases hrow with
    | cons hfirst hlast hend h =>
      rw [List.forall_mem_cons] at hbelow
      have hown : InLine c.label.stop position c.comments := InLine.append .nil hbelow.1 hfirst hlast
      exact hown.append (ih h hbelow.2) (hfirst.trans hlast) hend

/-- The comments of a tree are in line in its range. -/
theorem LaidOut.inLine_comments (h : t.LaidOut written) (hrange : t.label.start ≤ t.label.stop) :
    InLine t.label.stop t.label.start t.comments := by
  induction t using SyntaxTree.induction with
  | h t ih =>
    by_cases hk : t.kind = .comment
    · rw [comments_of_comment hk]
      exact .cons (Nat.le_refl _) hrange (Nat.le_refl _) .nil
    · rw [comments_of_not_comment hk]
      refine inLine_commentsIn h.setsOut.row ?_
      intro c hc
      exact ih c hc (h.child hc) (h.setsOut.start_le_stop hc)

/-- The comments of a tree end at boundaries. -/
theorem LaidOut.boundary_of_mem_comments (h : t.LaidOut written) (hstop : IsBoundary written t.label.stop) :
    ∀ r ∈ t.comments, IsBoundary written r.2 := by
  induction t using SyntaxTree.induction with
  | h t ih =>
    by_cases hk : t.kind = .comment
    · rw [comments_of_comment hk]
      exact List.forall_mem_singleton.mpr hstop
    · rw [comments_of_not_comment hk]
      intro r hr
      obtain ⟨c, hc, hr⟩ := mem_commentsIn.mp hr
      exact ih c hc (h.child hc) (h.setsOut.boundaries c hc).2 r hr

/-! ## Reading in parts -/

/-- What is left behind a boundary begins with a character, if what is cut out ends at boundaries. -/
theorem begins_cutOut {stop position : Nat} {ranges : List (Nat × Nat)} (hposition : IsBoundary written position)
    (hranges : ∀ r ∈ ranges, IsBoundary written r.2) : Begins (cutOut (encode written) stop ranges position) := by
  induction ranges generalizing position with
  | nil => exact Utf8.begins_slice hposition stop
  | cons r rest ih =>
    rw [List.forall_mem_cons] at hranges
    exact (Utf8.begins_slice hposition r.1).append (ih hranges.1 hranges.2)

/-- Bytes in three parts, the second and the third of which begin with characters, have the texts of these two in their text, each behind
some gap. -/
theorem exists_gaps (before : List UInt8) {own behind : List UInt8} (hown : Begins own) (hbehind : Begins behind) :
    ∃ gap space, Text.collapse (decodeTolerant (before ++ (own ++ behind))) =
      gap ++ (Text.collapse (decodeTolerant own) ++ (space ++ Text.collapse (decodeTolerant behind))) := by
  rw [Utf8.decodeTolerant_append before (hown.append hbehind), Utf8.decodeTolerant_append own hbehind]
  obtain ⟨first, -, hfirst⟩ := Text.exists_collapse_append (decodeTolerant before) (decodeTolerant own ++ decodeTolerant behind)
  obtain ⟨second, -, hsecond⟩ := Text.exists_collapse_append (decodeTolerant own) (decodeTolerant behind)
  refine ⟨Text.collapse (decodeTolerant before) ++ first, second, ?_⟩
  rw [hfirst, hsecond, List.append_assoc]

/-- The first of some trees in a row parts the bytes of the row: some before it, its own, and those behind it. -/
theorem cutOut_commentsIn_cons (source : List UInt8) {stop position : Nat} {rest : List SyntaxTree} (hfirst : position ≤ c.label.start)
    (hlast : c.label.start ≤ c.label.stop) (hend : c.label.stop ≤ stop) (hown : InLine c.label.stop c.label.start c.comments)
    (hbehind : InLine stop c.label.stop (commentsIn rest)) :
    cutOut source stop (commentsIn (c :: rest)) position =
      slice source position c.label.start ++ (c.bytesWithoutComments source ++ cutOut source stop (commentsIn rest) c.label.stop) := by
  have hall : ∀ r ∈ c.comments ++ commentsIn rest, c.label.start ≤ r.1 := (hown.append hbehind hlast hend).le
  have hgap := cutOut_append source .nil hfirst hall (hlast.trans hend)
  have hparts := cutOut_append source hown hlast hbehind.le hend
  rw [commentsIn, ← List.nil_append (c.comments ++ commentsIn rest), hgap, hparts]
  rfl

/-- The texts of trees in a row occur in order in the text of the row. The induction takes the first tree off the row: the bytes before it,
its own and those behind it are read apart from each other. -/
theorem inOrder_row {stop position : Nat} {children : List SyntaxTree} (hrow : InLine stop position (children.map range))
    (hboundaries : ∀ c ∈ children, IsBoundary written c.label.start ∧ IsBoundary written c.label.stop)
    (hlaid : ∀ c ∈ children, c.LaidOut written) :
    Text.InOrder (children.map (·.rendered (encode written)))
      (Text.collapse (decodeTolerant (cutOut (encode written) stop (commentsIn children) position))) := by
  induction children generalizing position with
  | nil => exact .nil _
  | cons c rest ih =>
    cases hrow with
    | cons hfirst hlast hend hrest =>
      rw [List.forall_mem_cons] at hboundaries hlaid
      obtain ⟨⟨hstart, hstop⟩, hmore⟩ := hboundaries
      obtain ⟨hc, hlaid⟩ := hlaid
      have hbelow : InLine stop c.label.stop (commentsIn rest) := by
        refine inLine_commentsIn hrest ?_
        intro d hd
        exact (hlaid d hd).inLine_comments (hrest.le_stop d.range (List.mem_map_of_mem hd)).1
      have hown : Begins (c.bytesWithoutComments (encode written)) := begins_cutOut hstart (hc.boundary_of_mem_comments hstop)
      have hbehind : Begins (cutOut (encode written) stop (commentsIn rest) c.label.stop) := by
        refine begins_cutOut hstop ?_
        intro r hr
        obtain ⟨d, hd, hr⟩ := mem_commentsIn.mp hr
        exact (hlaid d hd).boundary_of_mem_comments (hmore d hd).2 r hr
      obtain ⟨gap, space, htext⟩ := exists_gaps (slice (encode written) position c.label.start) hown hbehind
      rw [cutOut_commentsIn_cons _ hfirst hlast hend (hc.inLine_comments hlast) hbelow, htext]
      exact .cons gap _ ((ih hrest hmore hlaid).append_left space)

/-- The texts of the selectors in a list occur in order in the text of the list. -/
theorem LaidOut.inOrder_selectorsIn (h : t.LaidOut written) (hk : t.kind ≠ .comment) :
    Text.InOrder (t.selectorsIn.map (·.rendered (encode written))) (t.rendered (encode written)) := by
  have hchildren : t.selectorsIn.Sublist t.children := List.filter_sublist.trans List.filter_sublist
  have hrow := inOrder_row h.setsOut.row h.setsOut.boundaries fun c hc => h.child hc
  rw [rendered, bytesWithoutComments, comments_of_not_comment hk]
  exact hrow.of_sublist (hchildren.map _)

/-! ## Looking at a layout -/

theorem inLine_iff {stop position : Nat} {ranges : List (Nat × Nat)} :
    InLine stop position ranges ↔ (∀ r ∈ ranges, position ≤ r.1) ∧ (∀ r ∈ ranges, r.1 ≤ r.2 ∧ r.2 ≤ stop) ∧
      ranges.Pairwise fun a b => a.2 ≤ b.1 :=
  ⟨fun h => ⟨h.le, h.le_stop, h.pairwise⟩, fun h => inLine_of_pairwise h.1 h.2.1 h.2.2⟩

instance (stop position : Nat) (ranges : List (Nat × Nat)) : Decidable (InLine stop position ranges) :=
  decidable_of_iff _ inLine_iff.symm

theorem setsOut_iff : t.SetsOut written ↔ InLine t.label.stop t.label.start (t.children.map range) ∧
    ∀ c ∈ t.children, IsBoundary written c.label.start ∧ IsBoundary written c.label.stop :=
  ⟨fun h => ⟨h.row, h.boundaries⟩, fun h => ⟨h.1, h.2⟩⟩

instance (written : Text) (t : SyntaxTree) : Decidable (t.SetsOut written) := decidable_of_iff _ setsOut_iff.symm

theorem laidOut_iff : t.LaidOut written ↔ ∀ e ∈ t.places, e.2.SetsOut written := by
  simp only [LaidOut, Prod.forall, mem_places_iff]

instance (written : Text) (t : SyntaxTree) : Decidable (t.LaidOut written) := decidable_of_iff _ laidOut_iff.symm

end SyntaxTree

open SyntaxTree SiteAux

/-! ## The rule at a place -/

/-- In the arena is a rule for every place of a rule that a way leads to. -/
theorem exists_rule_of_reaches (source : List UInt8) {root t : SyntaxTree} {p : Address} (hreach : Reaches root p t) (hrule : t.IsRule) :
    ∃ r ∈ (Arena.ofTree source root).rules, r.draft = Site.draft source ⟨t, r.atRule⟩ := by
  obtain ⟨addresses, hl⟩ := exists_lists source root
  have hmatched := hl.matched none
  obtain ⟨i, hi, hp⟩ := List.getElem_of_mem ((hl.complete p).mpr ⟨t, hreach, hrule⟩)
  have hi' : i < (root.sites source none).length := by
    rw [← hmatched.length_eq]
    exact hi
  have hsite : (root.sites source none)[i].tree = t := by
    have hthere := subtree?_of_reaches (hmatched.get hi hi').1
    rw [List.get_eq_getElem, hp, subtree?_of_reaches hreach] at hthere
    exact (Option.some.inj hthere).symm
  have hdrafts : (Arena.ofTree source root).rules.map Rule.draft = (root.sites source none).map (·.draft source) :=
    Arena.rules_foldl_place {} _
  have hdraft : Site.draft source (root.sites source none)[i] ∈ (Arena.ofTree source root).rules.map Rule.draft := by
    rw [hdrafts]
    exact List.mem_map_of_mem (List.getElem_mem hi')
  obtain ⟨r, hr, hdraft⟩ := List.mem_map.mp hdraft
  refine ⟨r, hr, ?_⟩
  have hname : r.atRule = (root.sites source none)[i].atRule := congrArg Draft.atRule hdraft
  rw [hdraft, hname, ← hsite]

/-- A rule whose draft is that of a sound rule set has the list of the rule set and its selectors. -/
theorem Rule.exists_list_of_draft (source : List UInt8) {r : Rule} {rule list : SyntaxTree} (hk : rule.kind = .ruleSet)
    (hwell : ¬rule.Malformed) (hlist : rule.childOf? .selectors = some list)
    (hdraft : r.draft = Site.draft source ⟨rule, r.atRule⟩) :
    ∃ l, r.list = some l ∧ l.text = list.rendered source ∧
      r.selectors.map (·.text) = list.selectorsIn.map (·.rendered source) := by
  have hprelude := congrArg Draft.prelude hdraft
  rw [draft_prelude source hk, ruleSetPrelude?_eq_some source hwell hlist] at hprelude
  obtain ⟨l, hl, hboth⟩ := Option.map_eq_some_iff.mp hprelude
  obtain ⟨htext, hselectors⟩ := Prelude.mk.inj hboth
  refine ⟨l, hl, congrArg Fragment.text htext, ?_⟩
  have htexts := congrArg (List.map Fragment.text) hselectors
  rw [List.map_map, List.map_map] at htexts
  exact htexts

/-! ## Main statement -/

/-- In well encoded source, a rule set that is not malformed, and whose selector list is laid out at boundaries of characters, has a rule in
the arena, and of every rule with its draft four things hold.
1. The texts of its list and of its selectors are those of the trees, and the texts of the selectors occur in order in that of the list.
2. If the rule places its elements in a grid and holds no keyframes, the text of the list is what is looked for.
3. The text of each selector stands in it, and it is the text that is judged when the selector is judged alone.
4. Without patterns and without a colon, the selector alone is looked for with this text. -/
theorem selectors_in_list [Host] (written : Text) (root : SyntaxTree) {p : Address} {rule list : SyntaxTree} (hreach : Reaches root p rule)
    (hkind : rule.kind = .ruleSet) (hwell : ¬rule.Malformed) (hlist : rule.childOf? .selectors = some list)
    (hlaid : list.LaidOut written) :
    (∃ r ∈ (Arena.ofTree (Utf8.encode written) root).rules, r.draft = Site.draft (Utf8.encode written) ⟨rule, r.atRule⟩) ∧
    ∀ r ∈ (Arena.ofTree (Utf8.encode written) root).rules, r.draft = Site.draft (Utf8.encode written) ⟨rule, r.atRule⟩ →
      ∃ l, r.list = some l ∧
        (l.text = list.rendered (Utf8.encode written) ∧
          r.selectors.map (·.text) = list.selectorsIn.map (·.rendered (Utf8.encode written)) ∧
          Text.InOrder (r.selectors.map (·.text)) l.text) ∧
        (isKeyframes r.atRule = false → r.declares gridArea = true → ∀ force,
          (Profile.ofRules force (Arena.ofTree (Utf8.encode written) root).rules).classification? l.index = some (.test l.text)) ∧
        ∀ n ∈ r.selectors, n.text <:+: l.text ∧
          (∀ force, Selector.classify force n.text = (Selector.verdict force n.text).classification n.text) ∧
          (':' ∉ n.text → Selector.classify {} n.text = .test n.text) := by
  refine ⟨exists_rule_of_reaches _ hreach (Or.inl hkind), ?_⟩
  intro r hr hdraft
  obtain ⟨l, hl, htext, hselectors⟩ := r.exists_list_of_draft _ hkind hwell hlist hdraft
  have hnotComment : list.kind ≠ .comment := by
    have hselectorList : list.kind = .selectors := by simpa using List.find?_some hlist
    rw [hselectorList]
    exact nofun
  have horder : Text.InOrder (r.selectors.map (·.text)) l.text := by
    rw [hselectors, htext]
    exact hlaid.inOrder_selectorsIn hnotComment
  refine ⟨l, hl, ⟨htext, hselectors, horder⟩, ?_, ?_⟩
  · intro hframes hgrid force
    have hdistinct := Stylesheet.ofTree_distinctIndices none (Utf8.encode written) root
    exact (Profile.classification?_whole hdistinct force hr hframes hl hgrid).1
  · intro n hn
    have hmem : n.text ∈ r.selectors.map (·.text) := List.mem_map_of_mem hn
    have htrim : Text.trim n.text = n.text := by
      obtain ⟨t, -, ht⟩ := List.mem_map.mp (hselectors ▸ hmem)
      rw [← ht]
      exact Text.trim_of_collapse_eq (collapse_rendered _ t)
    have halone : ∀ force, Selector.classify force n.text = (Selector.verdict force n.text).classification n.text := by
      intro force
      rw [Selector.classify, htrim]
    refine ⟨horder.isInfix hmem, halone, ?_⟩
    intro hcolon
    have hordinary : Selector.verdict {} n.text = .ordinary := by
      simp [Selector.verdict, Pattern.anySelects, hcolon]
    rw [halone, hordinary]
    rfl

namespace Gridded

open SyntaxTree.Commented (part)

/-- A source with a comment in its first selector, and with a character of two bytes. -/
def written : Text := "é /*,*/ b,c\x7bgrid-area:d\x7d".toList

/-- Its selector list. -/
def list : SyntaxTree :=
  part .selectors 0 12
    [part .other 0 10 [part .other 0 2 [], part .comment 3 8 [], part .other 9 10 []],
      .node { kind := .other, named := false, start := 10, stop := 11, row := 0 } [], part .other 11 12 []]

/-- Its rule set. -/
def rule : SyntaxTree :=
  part .ruleSet 0 25 [list, part .block 12 25 [part .declaration 13 24 [part .propertyName 13 22 [], part .other 23 24 []]]]

/-- Its tree. -/
def root : SyntaxTree := part .other 0 25 [rule]

/-- Its rule. -/
def placed : Rule where
  list := some ⟨0, .selectorList, "é b,c".toList, 1⟩
  selectors := [⟨1, .selector, "é b".toList, 1⟩, ⟨2, .selector, ['c'], 1⟩]
  properties := [gridArea]

end Gridded

open Host.Plain Gridded in
/-- A rule that places its elements in a grid is looked for with its list, in which the comment is missing and the two selectors stand. -/
theorem selectors_in_list_of_grid :
    Reaches root [0] rule ∧ rule.kind = .ruleSet ∧ ¬rule.Malformed ∧ rule.childOf? .selectors = some list ∧ list.LaidOut written ∧
      Text.InOrder ["é b".toList, ['c']] "é b,c".toList ∧
      (Profile.ofRules {} (Arena.ofTree (Utf8.encode written) root).rules).classification? 0 = some (.test "é b,c".toList) ∧
      Selector.classify {} "é b".toList = .test "é b".toList := by
  have hreach : Reaches root [0] rule := by
    refine .down ?_ ⟨rfl, rfl⟩ (.here ?_)
    · exact not_or.mpr ⟨nofun, nofun⟩
    · exact not_or.mpr ⟨nofun, nofun⟩
  have hwell : ¬rule.Malformed := by
    rw [← ruleSetPrelude?_eq_none_iff (Utf8.encode written)]
    decide +kernel
  have hlaid : list.LaidOut written := by decide +kernel
  have hrules : (Arena.ofTree (Utf8.encode written) root).rules = [placed] := by decide +kernel
  have hplaced : placed ∈ (Arena.ofTree (Utf8.encode written) root).rules := by simp [hrules]
  have hdraft : placed.draft = Site.draft (Utf8.encode written) ⟨rule, placed.atRule⟩ := by decide +kernel
  obtain ⟨-, hall⟩ := selectors_in_list written root hreach rfl hwell rfl hlaid
  obtain ⟨l, hl, ⟨-, -, horder⟩, htested, halone⟩ := hall placed hplaced hdraft
  cases hl
  refine ⟨hreach, rfl, hwell, rfl, hlaid, horder, htested (by decide) (by decide) {}, ?_⟩
  exact (halone _ List.mem_cons_self).2.2 (by decide)

end CriticalCss

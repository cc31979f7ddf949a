import Mathlib.Data.List.Forall2
import CriticalCss.Proofs.Judging

/-!
# More patterns

What happens to a profile when its caller forces more selectors in or out. The patterns do not decide which nodes are judged; two
profiles of the same rules are two runs of recordings that write the same keys, so whatever relates the classifications of each text
relates the two ledgers entry by entry (`classifications_related`). A further pattern can only turn a classification into the one that it
forces (`becomes_keep`, `becomes_drop`), and from this follow all statements about the whole profile (`more_patterns`).
-/

namespace CriticalCss

/-! ## Ledgers with the same keys -/

namespace Ledger

variable {κ α : Type}

/-- Two ledgers have the same keys in the same order, and under each key related values. -/
def Related (R : α → α → Prop) (l m : Ledger κ α) : Prop := List.Forall₂ (fun e f => e.1 = f.1 ∧ R e.2 f.2) l m

variable {R : α → α → Prop} {l m : Ledger κ α}

theorem Related.refl (hR : ∀ v, R v v) (l : Ledger κ α) : Related R l l := List.forall₂_same.mpr fun e _ => ⟨rfl, hR e.2⟩

theorem Related.keys_eq (h : Related R l m) : keys l = keys m := by
  induction h with
  | nil => rfl
  | cons he _ ih => rw [keys_cons, keys_cons, he.1, ih]

/-- A value of the second ledger is related to one of the first under the same key. -/
theorem Related.exists_of_mem {k : κ} {w : α} (h : Related R l m) (hw : (k, w) ∈ m) : ∃ v, (k, v) ∈ l ∧ R v w := by
  induction h with
  | nil => exact absurd hw List.not_mem_nil
  | @cons e f l m he _ ih =>
    rcases List.mem_cons.mp hw with rfl | hw
    · obtain ⟨rfl, hvw⟩ := he
      exact ⟨e.2, List.mem_cons_self, hvw⟩
    · obtain ⟨v, hv, hvw⟩ := ih hw
      exact ⟨v, List.mem_cons_of_mem e hv, hvw⟩

variable [DecidableEq κ]

/-- Under each key stand related values, or none in either ledger. -/
theorem Related.find? (h : Related R l m) (k : κ) : Option.Rel R (find? k l) (find? k m) := by
  induction h with
  | nil => exact .none
  | @cons e f l m he _ ih =>
    obtain ⟨hk, hv⟩ := he
    rw [Ledger.find?, Ledger.find?, ← hk]
    split
    · exact .some hv
    · exact ih

/-- One write of related values under the same key keeps two ledgers related. -/
theorem Related.put (h : Related R l m) (k : κ) {v w : α} (hvw : R v w) : Related R (put k v l) (put k w m) := by
  induction h with
  | nil => exact .cons ⟨rfl, hvw⟩ .nil
  | @cons e f l m he hrest ih =>
    obtain ⟨hk, hv⟩ := he
    rw [Ledger.put, Ledger.put, ← hk]
    split
    · exact .cons ⟨rfl, hvw⟩ hrest
    · exact .cons ⟨rfl, hv⟩ ih

/-- A run of writes of related values under the same keys keeps two ledgers related. -/
theorem Related.putAll (h : Related R l m) {writes writes' : List (κ × α)} (hw : Related R writes writes') :
    Related R (putAll l writes) (putAll m writes') := by
  refine List.rel_foldl (fun l m hlm w w' hww => ?_) h hw
  rw [← hww.1]
  exact hlm.put w.1 hww.2

end Ledger

/-! ## One selector -/

namespace Pattern

theorem anySelects_of_subset [Host] {patterns patterns' : List Pattern} (h : patterns ⊆ patterns') {t : Text}
    (ht : anySelects patterns t = true) : anySelects patterns' t = true := by
  obtain ⟨p, hp, hs⟩ := List.any_eq_true.mp ht
  exact List.any_eq_true.mpr ⟨p, h hp, hs⟩

end Pattern

/-- A classification stays as it is or becomes another one. -/
def Classification.Becomes (target c c' : Classification) : Prop := c' = c ∨ c' = target

theorem Classification.Becomes.refl (target c : Classification) : Becomes target c c := Or.inl rfl

/-- Where there may be no classification, there is none afterwards either, unless it becomes the other one. -/
theorem Classification.Becomes.of_rel {target : Classification} {a b : Option Classification} (h : Option.Rel (Becomes target) a b) :
    b = a ∨ b = some target := by
  cases h with
  | none => exact Or.inl rfl
  | some hc =>
    rcases hc with rfl | rfl
    · exact Or.inl rfl
    · exact Or.inr rfl

namespace Selector

/-- The patterns of the caller come first, those that keep before those that drop; where none selects the text, none matters. -/
theorem classify_eq [Host] (force : ForceLists) (t : Text) :
    classify force t =
      if Pattern.anySelects force.keep (Text.trim t) then .keep
      else if Pattern.anySelects force.drop (Text.trim t) then .drop
      else classify {} t := by
  unfold classify verdict
  split
  · rfl
  · split
    · rfl
    · rfl

variable [Host] {keep keep' drop drop' : List Pattern} {t : Text}

theorem classify_of_selected (h : Pattern.anySelects keep (Text.trim t) = true) : classify ⟨keep, drop⟩ t = .keep := by
  rw [classify_eq, if_pos h]

/-- Further patterns that keep can only make a selector stay. -/
theorem becomes_keep (drop : List Pattern) (h : keep ⊆ keep') (t : Text) :
    Classification.Becomes .keep (classify ⟨keep, drop⟩ t) (classify ⟨keep', drop⟩ t) := by
  by_cases hk : Pattern.anySelects keep' (Text.trim t) = true
  · exact Or.inr (classify_of_selected hk)
  · have hk' : ¬Pattern.anySelects keep (Text.trim t) = true := mt (Pattern.anySelects_of_subset h) hk
    rw [classify_eq, classify_eq ⟨keep', drop⟩, if_neg hk, if_neg hk']
    exact Classification.Becomes.refl _ _

/-- Further patterns that drop can only make a selector go. -/
theorem becomes_drop (keep : List Pattern) (h : drop ⊆ drop') (t : Text) :
    Classification.Becomes .drop (classify ⟨keep, drop⟩ t) (classify ⟨keep, drop'⟩ t) := by
  rw [classify_eq, classify_eq ⟨keep, drop'⟩]
  split
  · exact Classification.Becomes.refl _ _
  · by_cases hx : Pattern.anySelects drop' (Text.trim t) = true
    · rw [if_pos hx]
      exact Or.inr rfl
    · rw [if_neg hx, if_neg (mt (Pattern.anySelects_of_subset h) hx)]
      exact Classification.Becomes.refl _ _

end Selector

/-! ## Whole profiles -/

/-- What relates each classification to itself and to that of the same selector under other patterns relates the verdicts of a rule. -/
theorem Rule.verdicts_related [Host] {R : Classification → Classification → Prop} {force force' : ForceLists} (hR : ∀ c, R c c)
    (h : ∀ t, R (Selector.classify force t) (Selector.classify force' t)) (r : Rule) :
    Ledger.Related R (r.verdicts force) (r.verdicts force') := by
  unfold verdicts
  split
  · exact .nil
  · exact .nil
  · exact Ledger.Related.refl hR _
  · rw [Ledger.Related, List.forall₂_map_left_iff, List.forall₂_map_right_iff, List.forall₂_same]
    exact fun n _ => ⟨rfl, h n.text⟩

/-- So it relates the verdicts of several rules. -/
theorem Rule.flatMap_verdicts_related [Host] {R : Classification → Classification → Prop} {force force' : ForceLists} (hR : ∀ c, R c c)
    (h : ∀ t, R (Selector.classify force t) (Selector.classify force' t)) (rules : List Rule) :
    Ledger.Related R (rules.flatMap (·.verdicts force)) (rules.flatMap (·.verdicts force')) := by
  have hsame : List.Forall₂ Eq rules rules := List.forall₂_same.mpr fun r _ => rfl
  refine List.rel_flatMap hsame ?_
  rintro r _ rfl
  exact r.verdicts_related hR h

namespace Profile

/-- The profiles of the same rules under different patterns are written alike, and so related entry by entry. -/
theorem classifications_related [Host] {R : Classification → Classification → Prop} {force force' : ForceLists} (hR : ∀ c, R c c)
    (h : ∀ t, R (Selector.classify force t) (Selector.classify force' t)) (rules : List Rule) :
    Ledger.Related R (ofRules force rules).classifications (ofRules force' rules).classifications := by
  rw [ofRules, ofRules, foldl_addRule, foldl_addRule]
  show Ledger.Related R (recordAll {} _).classifications (recordAll {} _).classifications
  rw [classifications_recordAll, classifications_recordAll]
  exact Ledger.Related.putAll .nil (Rule.flatMap_verdicts_related hR h rules)

section Changing

variable [Host] {force force' : ForceLists} {target : Classification}
  (h : ∀ t, Classification.Becomes target (Selector.classify force t) (Selector.classify force' t)) (rules : List Rule)

include h

/-- Where every selector keeps its classification or gets the target, so does every node. -/
theorem classification?_becomes (i : Nat) :
    (ofRules force' rules).classification? i = (ofRules force rules).classification? i ∨
      (ofRules force' rules).classification? i = some target :=
  Classification.Becomes.of_rel ((classifications_related (Classification.Becomes.refl target) h rules).find? i)

/-- Whatever the page has, a node goes or stays as before, or as one with the target does. -/
theorem isKept_becomes (i : Nat) (present : List Text) :
    (ofRules force' rules).isKept i present = (ofRules force rules).isKept i present ∨
      (ofRules force' rules).isKept i present = some (target.resolve present) := by
  rw [isKept, isKept]
  rcases classification?_becomes h rules i with hc | hc
  · exact Or.inl (by rw [hc])
  · exact Or.inr (by rw [hc, Option.map_some])

/-- The same nodes are judged, in the same order. -/
theorem keys_ofRules_eq : (ofRules force' rules).classifications.keys = (ofRules force rules).classifications.keys :=
  (classifications_related (Classification.Becomes.refl target) h rules).keys_eq.symm

/-- No text is looked for that was not, unless the target asks for it. -/
theorem selectors_subset (ht : target.tested? = none) : (ofRules force' rules).selectors ⊆ (ofRules force rules).selectors := by
  intro t hmem
  rw [mem_selectors_ofRules] at hmem ⊢
  obtain ⟨i, hi⟩ := hmem
  obtain ⟨c, hc, hbecomes⟩ := (Rule.flatMap_verdicts_related (Classification.Becomes.refl target) h rules).exists_of_mem hi
  rcases hbecomes with rfl | rfl
  · exact ⟨i, hc⟩
  · cases ht

end Changing

/-- With distinct numbers, patterns decide about a node only by what they make of its own text. -/
theorem classification?_eq_of_classify_eq [Host] {rules : List Rule} (hd : ((rules.flatMap Rule.nodes).map (·.index)).Nodup)
    {force force' : ForceLists} {r : Rule} (hr : r ∈ rules) {n : Node} (hn : n ∈ r.nodes)
    (h : Selector.classify force' n.text = Selector.classify force n.text) :
    (ofRules force' rules).classification? n.index = (ofRules force rules).classification? n.index := by
  rcases r.isSkipped_or_list with hs | ⟨l, hk, hl⟩
  · rw [classification?_skipped hd force' hr hs hn, classification?_skipped hd force hr hs hn]
  · have hnodes := hn
    rw [Rule.nodes_of_list hl, List.mem_cons] at hnodes
    cases hg : r.declares gridArea with
    | true =>
      obtain ⟨hlist, hselectors⟩ := classification?_whole hd force hr hk hl hg
      obtain ⟨hlist', hselectors'⟩ := classification?_whole hd force' hr hk hl hg
      rcases hnodes with rfl | hmem
      · rw [hlist, hlist']
      · rw [hselectors n hmem, hselectors' n hmem]
    | false =>
      obtain ⟨hselectors, hlist⟩ := classification?_parts hd force hr hk hl hg
      obtain ⟨hselectors', hlist'⟩ := classification?_parts hd force' hr hk hl hg
      rcases hnodes with rfl | hmem
      · rw [hlist, hlist']
      · rw [hselectors n hmem, hselectors' n hmem, h]

end Profile

/-! ## Main statement -/

open Profile in
/-- What further patterns do to the profile of a stylesheet, in six parts.
1. The same nodes are judged in the same order, and as many rules are skipped.
2. With further patterns that keep, a classification that changes becomes that of a node that always stays.
3. With further patterns that drop, one that changes becomes that of a node that always goes.
4. The latter change nothing about a node whose text a pattern that keeps selects already, if the nodes carry distinct numbers.
5. No text is looked for that was not looked for before.
6. Whatever the page has, further patterns that keep lose no node that stays, and further patterns that drop win none. -/
theorem more_patterns [Host] (keep keep' drop drop' : List Pattern) (hkeep : keep ⊆ keep') (hdrop : drop ⊆ drop') (s : Stylesheet) :
    ((ofRules ⟨keep', drop'⟩ s.rules).classifications.keys = (ofRules ⟨keep, drop⟩ s.rules).classifications.keys ∧
      (ofRules ⟨keep', drop'⟩ s.rules).skippedRules = (ofRules ⟨keep, drop⟩ s.rules).skippedRules) ∧
    (∀ i, (ofRules ⟨keep', drop⟩ s.rules).classification? i ≠ (ofRules ⟨keep, drop⟩ s.rules).classification? i →
      (ofRules ⟨keep', drop⟩ s.rules).classification? i = some .keep) ∧
    (∀ i, (ofRules ⟨keep, drop'⟩ s.rules).classification? i ≠ (ofRules ⟨keep, drop⟩ s.rules).classification? i →
      (ofRules ⟨keep, drop'⟩ s.rules).classification? i = some .drop) ∧
    (s.DistinctIndices → ∀ r ∈ s.rules, ∀ n ∈ r.nodes, (∃ p ∈ keep, p.selects (Text.trim n.text) = true) →
      (ofRules ⟨keep, drop'⟩ s.rules).classification? n.index = (ofRules ⟨keep, drop⟩ s.rules).classification? n.index) ∧
    (ofRules ⟨keep', drop'⟩ s.rules).selectors ⊆ (ofRules ⟨keep, drop⟩ s.rules).selectors ∧
    ∀ (present : List Text) (i : Nat),
      ((ofRules ⟨keep, drop⟩ s.rules).isKept i present = some true →
        (ofRules ⟨keep', drop⟩ s.rules).isKept i present = some true) ∧
      ((ofRules ⟨keep, drop'⟩ s.rules).isKept i present = some true →
        (ofRules ⟨keep, drop⟩ s.rules).isKept i present = some true) := by
  -- first the patterns that keep, with the old ones that drop; then the patterns that drop, with either
  have hin := Selector.becomes_keep drop hkeep
  have hout := Selector.becomes_drop keep hdrop
  have hboth := Selector.becomes_drop keep' hdrop
  refine ⟨⟨?_, ?_⟩, fun i => (classification?_becomes hin s.rules i).resolve_left,
    fun i => (classification?_becomes hout s.rules i).resolve_left, ?_, ?_, fun present i => ⟨fun hkept => ?_, fun hkept => ?_⟩⟩
  · rw [keys_ofRules_eq hboth, keys_ofRules_eq hin]
  · rw [skippedRules_ofRules, skippedRules_ofRules]
  · intro hd r hr n hn hselected
    have hany : Pattern.anySelects keep (Text.trim n.text) = true := List.any_eq_true.mpr hselected
    refine classification?_eq_of_classify_eq hd hr hn ?_
    rw [Selector.classify_of_selected hany, Selector.classify_of_selected hany]
  · exact List.Subset.trans (selectors_subset hboth s.rules rfl) (selectors_subset hin s.rules rfl)
  · rcases isKept_becomes hin s.rules i present with h | h
    · rw [h, hkept]
    · exact h
  · rcases isKept_becomes hout s.rules i present with h | h
    · rw [← h, hkept]
    · rw [hkept] at h
      cases h

open Host.Plain in
/-- A caller keeps one selector of a stylesheet with a rule of each kind, then another one, and drops the first and the list of the grid:
the first stays as it was kept, and the list is looked for all the same. -/
theorem more_patterns_of_fourRules :
    ([.literal ['p']] : List Pattern) ⊆ [.literal ['p'], .literal "p::before".toList] ∧
    ([] : List Pattern) ⊆ FourRules.force.drop ∧
    FourRules.sheet.DistinctIndices ∧
    (Profile.ofRules ⟨[.literal ['p'], .literal "p::before".toList], []⟩ FourRules.sheet.rules).classification? 6 = some .keep ∧
    (Profile.ofRules ⟨[.literal ['p']], FourRules.force.drop⟩ FourRules.sheet.rules).classification? 7 =
      (Profile.ofRules ⟨[.literal ['p']], []⟩ FourRules.sheet.rules).classification? 7 ∧
    (Profile.ofRules ⟨[.literal ['p']], []⟩ FourRules.sheet.rules).isKept 2 [".a, .b".toList] = some true := by
  have hkeep : ([.literal ['p']] : List Pattern) ⊆ [.literal ['p'], .literal "p::before".toList] := by simp
  have hdrop : ([] : List Pattern) ⊆ FourRules.force.drop := List.nil_subset _
  have hd : FourRules.sheet.DistinctIndices := by decide
  obtain ⟨-, hin, -, hselected, -, hkept⟩ := more_patterns _ _ _ _ hkeep hdrop FourRules.sheet
  refine ⟨hkeep, hdrop, hd, hin 6 (by decide), ?_, (hkept _ 2).2 (by decide)⟩
  exact hselected hd FourRules.plain (by simp [FourRules.sheet]) ⟨7, .selector, ['p'], 4⟩ (by simp [FourRules.plain, Rule.nodes])
    ⟨.literal ['p'], by simp, by decide⟩

end CriticalCss

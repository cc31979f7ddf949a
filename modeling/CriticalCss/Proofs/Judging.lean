import Mathlib.Data.List.Flatten
import CriticalCss.Proofs.Numbering
import CriticalCss.Proofs.Recording

/-!
# Judging a stylesheet

Making the profile of some rules is one run of recordings, that of their verdicts one rule after the other (`foldl_addRule`). When the
nodes of the rules carry distinct numbers no verdict is ever overwritten: the classifications are the list of the verdicts
(`classifications_ofRules`), and the classification of a node follows from its own rule, whatever the other rules are
(`classification?_ofRules`).
-/

namespace CriticalCss

/-! ## The verdicts of one rule -/

namespace Rule

/-- A rule is skipped if it holds keyframes or has no selector list. -/
theorem isSkipped_eq (r : Rule) : r.isSkipped = (isKeyframes r.atRule || !r.isWellFormed) := by
  unfold isSkipped treatment isWellFormed
  cases isKeyframes r.atRule with
  | true => rfl
  | false =>
    cases r.list with
    | none => rfl
    | some list => cases hg : r.declares gridArea <;> simp

/-- A rule is skipped, or it has a selector list and holds no keyframes. -/
theorem isSkipped_or_list (r : Rule) : r.isSkipped = true ∨ ∃ l, isKeyframes r.atRule = false ∧ r.list = some l := by
  rw [isSkipped_eq, isWellFormed]
  cases isKeyframes r.atRule with
  | true => exact Or.inl rfl
  | false =>
    cases r.list with
    | none => exact Or.inl rfl
    | some l => exact Or.inr ⟨l, rfl, rfl⟩

variable [Host]

theorem verdicts_of_isSkipped {r : Rule} (force : ForceLists) (h : r.isSkipped = true) : r.verdicts force = [] := by
  unfold isSkipped at h
  unfold verdicts
  split at h
  · rename_i ht
    rw [ht]
  · rename_i ht
    rw [ht]
  · cases h

/-- A rule that places its elements in a grid is judged by its selector list. -/
theorem verdicts_whole {r : Rule} {l : Node} (force : ForceLists) (hk : isKeyframes r.atRule = false) (hl : r.list = some l)
    (hg : r.declares gridArea = true) : r.verdicts force = [(l.index, .test l.text)] := by
  simp [verdicts, treatment, hk, hl, hg]

/-- Any other rule that is not skipped is judged selector by selector. -/
theorem verdicts_parts {r : Rule} {l : Node} (force : ForceLists) (hk : isKeyframes r.atRule = false) (hl : r.list = some l)
    (hg : r.declares gridArea = false) :
    r.verdicts force = r.selectors.map fun n => (n.index, Selector.classify force n.text) := by
  simp [verdicts, treatment, hk, hl, hg]

omit [Host] in
theorem nodes_of_list {r : Rule} {l : Node} (hl : r.list = some l) : r.nodes = l :: r.selectors := by
  simp [nodes, hl]

/-- The numbers that a rule judges are numbers of its nodes, in their order. -/
theorem keys_verdicts_sublist (force : ForceLists) (r : Rule) :
    (Ledger.keys (r.verdicts force)).Sublist (r.nodes.map (·.index)) := by
  cases hk : isKeyframes r.atRule with
  | true =>
    rw [verdicts_of_isSkipped force (by rw [isSkipped_eq, hk]; rfl)]
    exact List.nil_sublist _
  | false =>
    cases hl : r.list with
    | none =>
      rw [verdicts_of_isSkipped force (by rw [isSkipped_eq, isWellFormed, hl]; simp)]
      exact List.nil_sublist _
    | some l =>
      rw [nodes_of_list hl, List.map_cons]
      cases hg : r.declares gridArea with
      | true =>
        rw [verdicts_whole force hk hl hg]
        exact List.Sublist.cons_cons _ (List.nil_sublist _)
      | false =>
        rw [verdicts_parts force hk hl hg, Ledger.keys, List.map_map]
        exact List.sublist_cons_self _ _

end Rule

/-! ## The profile as one run of recordings -/

namespace Profile

variable [Host]

/-- Adding a rule records its verdicts and counts it if it is skipped. -/
theorem addRule_eq (force : ForceLists) (p : Profile) (r : Rule) :
    p.addRule force r =
      { p.recordAll (r.verdicts force) with skippedRules := p.skippedRules + if r.isSkipped then 1 else 0 } := by
  unfold addRule
  cases h : r.isSkipped with
  | true => simp [Rule.verdicts_of_isSkipped force h, recordAll]
  | false => simp [← skippedRules_recordAll p (r.verdicts force)]

/-- Adding several rules is one run of recordings. -/
theorem foldl_addRule (force : ForceLists) (p : Profile) (rules : List Rule) :
    rules.foldl (addRule force) p =
      { p.recordAll (rules.flatMap (·.verdicts force)) with skippedRules := p.skippedRules + rules.countP (·.isSkipped) } := by
  induction rules generalizing p with
  | nil => simp [recordAll]
  | cons r rules ih =>
    rw [List.foldl_cons, ih, addRule_eq, recordAll_skipped, List.flatMap_cons, recordAll_append, List.countP_cons]
    simp only [Profile.mk.injEq, true_and]
    omega

/-- The number of skipped rules of a profile. -/
theorem skippedRules_ofRules (force : ForceLists) (rules : List Rule) :
    (ofRules force rules).skippedRules = rules.countP (·.isSkipped) := by
  rw [ofRules, foldl_addRule]
  exact Nat.zero_add _

theorem mem_selectors_ofRules (force : ForceLists) (rules : List Rule) (t : Text) :
    t ∈ (ofRules force rules).selectors ↔ ∃ i, (i, .test t) ∈ rules.flatMap (·.verdicts force) := by
  rw [ofRules, foldl_addRule]
  exact mem_selectors_recordAll_empty _ t

/-! ## Distinct numbers -/

/-- The numbers that some rules judge are numbers of their nodes, in document order. -/
theorem keys_verdicts_sublist (force : ForceLists) (rules : List Rule) :
    (Ledger.keys (rules.flatMap (·.verdicts force))).Sublist ((rules.flatMap Rule.nodes).map (·.index)) := by
  rw [Ledger.keys, List.map_flatMap, List.map_flatMap]
  exact List.Sublist.flatMap_right rules fun r _ => r.keys_verdicts_sublist force

variable {rules : List Rule} (hd : ((rules.flatMap Rule.nodes).map (·.index)).Nodup)

include hd

/-- With distinct numbers the classifications are the verdicts of the rules, none of them overwritten. -/
theorem classifications_ofRules (force : ForceLists) :
    (ofRules force rules).classifications = rules.flatMap (·.verdicts force) := by
  rw [ofRules, foldl_addRule]
  show (recordAll {} _).classifications = _
  rw [classifications_recordAll, Ledger.putAll_of_nodup, List.nil_append]
  exact (keys_verdicts_sublist force rules).nodup hd

theorem nodup_keys_ofRules (force : ForceLists) : (ofRules force rules).classifications.keys.Nodup := by
  rw [classifications_ofRules hd]
  exact (keys_verdicts_sublist force rules).nodup hd

omit [Host] in
/-- In a single rule the list carries another number than any selector, and the selectors carry distinct ones. -/
theorem nodup_rule {r : Rule} (hr : r ∈ rules) {l : Node} (hl : r.list = some l) :
    l.index ∉ r.selectors.map (·.index) ∧ (r.selectors.map (·.index)).Nodup := by
  rw [List.map_flatMap, List.nodup_flatMap] at hd
  have hr := hd.1 r hr
  rwa [Rule.nodes_of_list hl, List.map_cons, List.nodup_cons] at hr

/-- The classification of a node follows from its own rule: no other rule judges its number. -/
theorem classification?_ofRules (force : ForceLists) {r : Rule} (hr : r ∈ rules) {n : Node} (hn : n ∈ r.nodes) :
    (ofRules force rules).classification? n.index = Ledger.find? n.index (r.verdicts force) := by
  obtain ⟨before, after, rfl⟩ := List.append_of_mem hr
  have hidx : n.index ∈ r.nodes.map (·.index) := List.mem_map_of_mem hn
  have hsplit := hd
  rw [List.flatMap_append, List.flatMap_cons, List.map_append, List.map_append, List.nodup_append, List.nodup_append] at hsplit
  obtain ⟨-, ⟨-, -, hafter⟩, hbefore⟩ := hsplit
  have hb : Ledger.find? n.index (before.flatMap (·.verdicts force)) = none := by
    rw [Ledger.find?_eq_none_iff]
    intro h
    exact hbefore _ ((keys_verdicts_sublist force before).subset h) _ (List.mem_append_left _ hidx) rfl
  have ha : Ledger.find? n.index (after.flatMap (·.verdicts force)) = none := by
    rw [Ledger.find?_eq_none_iff]
    intro h
    exact hafter _ hidx _ ((keys_verdicts_sublist force after).subset h) rfl
  rw [classification?, classifications_ofRules hd, List.flatMap_append, List.flatMap_cons, Ledger.find?_append, hb,
    Ledger.find?_append, ha, Option.none_or, Option.or_none]

/-- A text is looked for exactly if some node has it as its classification. -/
theorem mem_selectors_ofRules_iff (force : ForceLists) (t : Text) :
    t ∈ (ofRules force rules).selectors ↔ ∃ i, (ofRules force rules).classification? i = some (.test t) := by
  rw [mem_selectors_ofRules, ← classifications_ofRules hd]
  simp only [classification?, Ledger.find?_eq_some_iff (nodup_keys_ofRules hd force)]

/-! ### The kinds of rules -/

/-- In a rule that is judged selector by selector every selector has its own verdict, and the list has none. -/
theorem classification?_parts (force : ForceLists) {r : Rule} (hr : r ∈ rules) (hk : isKeyframes r.atRule = false) {l : Node}
    (hl : r.list = some l) (hg : r.declares gridArea = false) :
    (∀ n ∈ r.selectors, (ofRules force rules).classification? n.index = some (Selector.classify force n.text)) ∧
      (ofRules force rules).classification? l.index = none := by
  obtain ⟨hlist, hselectors⟩ := nodup_rule hd hr hl
  have hkeys : Ledger.keys (r.verdicts force) = r.selectors.map (·.index) := by
    rw [Rule.verdicts_parts force hk hl hg, Ledger.keys, List.map_map]
    rfl
  constructor
  · intro n hn
    have hnr : n ∈ r.nodes := Rule.nodes_of_list hl ▸ List.mem_cons_of_mem l hn
    rw [classification?_ofRules hd force hr hnr, Ledger.find?_eq_some_iff (hkeys ▸ hselectors),
      Rule.verdicts_parts force hk hl hg]
    exact List.mem_map.mpr ⟨n, hn, rfl⟩
  · have hlr : l ∈ r.nodes := Rule.nodes_of_list hl ▸ List.mem_cons_self
    rw [classification?_ofRules hd force hr hlr, Ledger.find?_eq_none_iff, hkeys]
    exact hlist

/-- In a rule that is judged as a whole the list is looked for as it stands, and no selector has a classification. -/
theorem classification?_whole (force : ForceLists) {r : Rule} (hr : r ∈ rules) (hk : isKeyframes r.atRule = false) {l : Node}
    (hl : r.list = some l) (hg : r.declares gridArea = true) :
    (ofRules force rules).classification? l.index = some (.test l.text) ∧
      ∀ n ∈ r.selectors, (ofRules force rules).classification? n.index = none := by
  obtain ⟨hlist, -⟩ := nodup_rule hd hr hl
  constructor
  · have hlr : l ∈ r.nodes := Rule.nodes_of_list hl ▸ List.mem_cons_self
    rw [classification?_ofRules hd force hr hlr, Rule.verdicts_whole force hk hl hg]
    simp [Ledger.find?]
  · intro n hn
    have hnr : n ∈ r.nodes := Rule.nodes_of_list hl ▸ List.mem_cons_of_mem l hn
    rw [classification?_ofRules hd force hr hnr, Rule.verdicts_whole force hk hl hg, Ledger.find?_eq_none_iff]
    intro h
    have hnl : n.index = l.index := List.mem_singleton.mp h
    exact hlist (hnl ▸ List.mem_map_of_mem hn)

/-- In a rule that is skipped no node has a classification. -/
theorem classification?_skipped (force : ForceLists) {r : Rule} (hr : r ∈ rules) (hs : r.isSkipped = true) {n : Node}
    (hn : n ∈ r.nodes) : (ofRules force rules).classification? n.index = none := by
  rw [classification?_ofRules hd force hr hn, Rule.verdicts_of_isSkipped force hs]
  rfl

end Profile

/-! ## Main statements -/

/-- What the profile of a stylesheet says, whenever the nodes of its rules carry distinct numbers, which those of every stylesheet that
was read do, in six parts.
1. In a rule that holds no keyframes, has a selector list and places nothing in a grid, each selector is classified by itself, and the
   list has no classification.
2. In such a rule that places its elements in a grid, the list is looked for as it stands, whatever the caller forces, and no selector
   has a classification.
3. In a rule that holds keyframes or has no selector list, no node has a classification.
4. No number has a classification that no node of a rule carries.
5. The rules of the third part are those that are counted as skipped.
6. The numbers with a classification stand in the order of the document. -/
theorem profile_of_distinct_indices [Host] :
    (∀ path source root, (Stylesheet.ofTree path source root).DistinctIndices) ∧
    ∀ (force : ForceLists) (s : Stylesheet), s.DistinctIndices →
      (∀ r ∈ s.rules, isKeyframes r.atRule = false → ∀ l, r.list = some l → r.declares gridArea = false →
        (∀ n ∈ r.selectors, (Profile.ofRules force s.rules).classification? n.index = some (Selector.classify force n.text)) ∧
        (Profile.ofRules force s.rules).classification? l.index = none) ∧
      (∀ r ∈ s.rules, isKeyframes r.atRule = false → ∀ l, r.list = some l → r.declares gridArea = true →
        (Profile.ofRules force s.rules).classification? l.index = some (.test l.text) ∧
        ∀ n ∈ r.selectors, (Profile.ofRules force s.rules).classification? n.index = none) ∧
      (∀ r ∈ s.rules, isKeyframes r.atRule = true ∨ r.list = none →
        ∀ n ∈ r.nodes, (Profile.ofRules force s.rules).classification? n.index = none) ∧
      (∀ i, (∀ r ∈ s.rules, ∀ n ∈ r.nodes, n.index ≠ i) → (Profile.ofRules force s.rules).classification? i = none) ∧
      (Profile.ofRules force s.rules).skippedRules = s.rules.countP (fun r => isKeyframes r.atRule || r.list.isNone) ∧
      (Profile.ofRules force s.rules).classifications.keys.Sublist ((s.rules.flatMap Rule.nodes).map (·.index)) := by
  refine ⟨Stylesheet.ofTree_distinctIndices, fun force s hd => ⟨?_, ?_, ?_, ?_, ?_, ?_⟩⟩
  · intro r hr hk l hl hg
    exact Profile.classification?_parts hd force hr hk hl hg
  · intro r hr hk l hl hg
    exact Profile.classification?_whole hd force hr hk hl hg
  · intro r hr hs n hn
    refine Profile.classification?_skipped hd force hr ?_ hn
    rw [Rule.isSkipped_eq, Rule.isWellFormed]
    rcases hs with hs | hs <;> simp [hs]
  · intro i hi
    rw [Profile.classification?, Profile.classifications_ofRules hd, Ledger.find?_eq_none_iff]
    intro h
    obtain ⟨n, hn, rfl⟩ := List.mem_map.mp ((Profile.keys_verdicts_sublist force s.rules).subset h)
    obtain ⟨r, hr, hn⟩ := List.mem_flatMap.mp hn
    exact hi r hr n hn rfl
  · rw [Profile.skippedRules_ofRules]
    refine List.countP_congr fun r _ => ?_
    rw [Rule.isSkipped_eq, Rule.isWellFormed, Option.not_isSome]
  · rw [Profile.classifications_ofRules hd]
    exact Profile.keys_verdicts_sublist force s.rules

namespace FourRules

/-- A rule of keyframes. -/
def keyframes : Rule where
  atRule := some "-webkit-keyframes".toList
  list := some ⟨0, .selectorList, "from".toList, 1⟩
  selectors := [⟨1, .selector, "from".toList, 1⟩]

/-- A rule of a grid. -/
def grid : Rule where
  list := some ⟨2, .selectorList, ".a, .b".toList, 3⟩
  selectors := [⟨3, .selector, ".a".toList, 3⟩, ⟨4, .selector, ".b".toList, 3⟩]
  properties := [gridArea]
  line := 3

/-- A rule that is judged selector by selector. -/
def plain : Rule where
  list := some ⟨5, .selectorList, "p::before, p".toList, 4⟩
  selectors := [⟨6, .selector, "p::before".toList, 4⟩, ⟨7, .selector, "p".toList, 4⟩]
  line := 4

/-- A stylesheet with a rule of each kind, the second of them malformed. -/
def sheet : Stylesheet where
  rules := [keyframes, { line := 2 }, grid, plain]

open Host.Plain in
/-- A caller who drops one selector and would drop the list of the grid. -/
def force : ForceLists where
  drop := [.literal "p".toList, .literal ".a, .b".toList]

end FourRules

open Host.Plain in
/-- In a stylesheet with a rule of each kind each part of the statement applies to some rule. -/
theorem profile_of_fourRules :
    FourRules.sheet.DistinctIndices ∧
    (Profile.ofRules FourRules.force FourRules.sheet.rules).classification? 6 = some (.test ['p']) ∧
    (Profile.ofRules FourRules.force FourRules.sheet.rules).classification? 7 = some .drop ∧
    (Profile.ofRules FourRules.force FourRules.sheet.rules).classification? 2 = some (.test ".a, .b".toList) ∧
    (Profile.ofRules FourRules.force FourRules.sheet.rules).classification? 3 = none ∧
    (Profile.ofRules FourRules.force FourRules.sheet.rules).classification? 1 = none ∧
    (Profile.ofRules FourRules.force FourRules.sheet.rules).skippedRules = 2 := by
  have hd : FourRules.sheet.DistinctIndices := by decide
  obtain ⟨hparts, hwhole, hskipped, -, hcount, -⟩ := profile_of_distinct_indices.2 FourRules.force FourRules.sheet hd
  have hplain := hparts FourRules.plain (by simp [FourRules.sheet]) rfl _ rfl (by decide)
  have hgrid := hwhole FourRules.grid (by simp [FourRules.sheet]) rfl _ rfl (by decide)
  refine ⟨hd, ?_, ?_, hgrid.1, hgrid.2 ⟨3, .selector, ".a".toList, 3⟩ (by simp [FourRules.grid]), ?_, ?_⟩
  · rw [hplain.1 ⟨6, .selector, "p::before".toList, 4⟩ (by simp [FourRules.plain])]
    decide
  · rw [hplain.1 ⟨7, .selector, "p".toList, 4⟩ (by simp [FourRules.plain])]
    decide
  · exact hskipped FourRules.keyframes (by simp [FourRules.sheet]) (Or.inl (by decide)) ⟨1, .selector, "from".toList, 1⟩
      (by simp [FourRules.keyframes, Rule.nodes])
  · rw [hcount]
    decide

/-- What a profile holds, in two parts. The first is about any run of recordings from the empty profile:
1. The classification of a number is the last one recorded for it.
2. The numbers with a classification are those recorded, each once and in the order of their first recordings.
3. The numbers that always stay, those that always go and those for which a text is looked for are all of them, each in one list.
4. The texts to look for are all that were ever recorded, each once.
5. Among them are all texts that are still looked for.
The second is about the profile of a stylesheet whose rules' nodes carry distinct numbers: a text is looked for exactly if it is the
classification of some number. -/
theorem profile_after_recording [Host] :
    (∀ calls : List (Nat × Classification),
      (∀ i, (Profile.recordAll {} calls).classification? i = ((calls.filter fun c => c.1 = i).map (·.2)).getLast?) ∧
      ((∀ i, i ∈ (Profile.recordAll {} calls).classifications.keys ↔ i ∈ calls.map (·.1)) ∧
        (Profile.recordAll {} calls).classifications.keys.Nodup ∧
        (Profile.recordAll {} calls).classifications.keys.Pairwise fun i j =>
          (calls.map (·.1)).idxOf i < (calls.map (·.1)).idxOf j) ∧
      (((Profile.recordAll {} calls).forceKept ++ (Profile.recordAll {} calls).forceDropped ++
          (Profile.recordAll {} calls).tested).Perm (Profile.recordAll {} calls).classifications.keys ∧
        (∀ i, i ∈ (Profile.recordAll {} calls).forceKept ↔ (Profile.recordAll {} calls).classification? i = some .keep) ∧
        (∀ i, i ∈ (Profile.recordAll {} calls).forceDropped ↔ (Profile.recordAll {} calls).classification? i = some .drop) ∧
        ∀ i, i ∈ (Profile.recordAll {} calls).tested ↔ ∃ t, (Profile.recordAll {} calls).classification? i = some (.test t)) ∧
      ((∀ t, t ∈ (Profile.recordAll {} calls).selectors ↔ ∃ i, (i, .test t) ∈ calls) ∧
        (Profile.recordAll {} calls).selectors.Nodup) ∧
      ∀ i t, (Profile.recordAll {} calls).classification? i = some (.test t) → t ∈ (Profile.recordAll {} calls).selectors) ∧
    ∀ (force : ForceLists) (s : Stylesheet), s.DistinctIndices → ∀ t,
      t ∈ (Profile.ofRules force s.rules).selectors ↔ ∃ i, (Profile.ofRules force s.rules).classification? i = some (.test t) := by
  refine ⟨fun calls => ?_, fun force s hd t => Profile.mem_selectors_ofRules_iff hd force t⟩
  have hnodup := Profile.nodup_keys_recordAll calls
  refine ⟨Profile.classification?_recordAll calls, ⟨Profile.mem_keys_recordAll calls, hnodup, Profile.keys_recordAll_ordered calls⟩,
    ⟨Profile.indices_perm _, ?_⟩, ⟨Profile.mem_selectors_recordAll_empty calls, ?_⟩, fun i t => Profile.mem_selectors_of_classification?⟩
  · exact ⟨Profile.mem_indicesOf hnodup .keep, Profile.mem_indicesOf hnodup .drop, Profile.mem_tested hnodup⟩
  · exact Profile.nodup_selectors_recordAll {} List.nodup_nil calls

open Host.Plain in
/-- A number is recorded with a text and then again without one: the text stays among those to look for, although it is no classification
any more. In a stylesheet with distinct numbers that does not happen. -/
theorem profile_after_recording_twice :
    (Profile.recordAll {} [(3, .test ['a']), (1, .keep), (3, .drop)]).classification? 3 = some .drop ∧
    (Profile.recordAll {} [(3, .test ['a']), (1, .keep), (3, .drop)]).classifications.keys = [3, 1] ∧
    ['a'] ∈ (Profile.recordAll {} [(3, .test ['a']), (1, .keep), (3, .drop)]).selectors ∧
    FourRules.sheet.DistinctIndices ∧
    ∃ i, (Profile.ofRules FourRules.force FourRules.sheet.rules).classification? i = some (.test ['p']) := by
  have hd : FourRules.sheet.DistinctIndices := by decide
  obtain ⟨hlast, -, -, ⟨hsel, -⟩, -⟩ := profile_after_recording.1 [(3, .test ['a']), (1, .keep), (3, .drop)]
  refine ⟨?_, by decide, (hsel ['a']).mpr ⟨3, List.mem_cons_self⟩, hd, ?_⟩
  · rw [hlast]
    decide
  · rw [← profile_after_recording.2 FourRules.force FourRules.sheet hd]
    decide

end CriticalCss

import CriticalCss.Proofs.Judging

/-!
# What the page is asked

A profile lists the texts to look for, and the page answers which of them it has. Nothing else about the page matters
(`isKept_eq_of_agree`), and a page that has more keeps no less (`isKept_of_subset`). When the profile is that of a stylesheet with
distinct numbers, every text of the list matters: some node stays or goes with this text alone (`exists_node_isKept_eq`), so that the
answers that keep the same nodes are exactly those that agree on the list.
-/

namespace CriticalCss

/-! ## One classification -/

namespace Classification

/-- Of the page only the text that is looked for matters. -/
theorem resolve_eq_of_agree {c : Classification} {present present' : List Text}
    (h : ∀ t, c = .test t → (t ∈ present ↔ t ∈ present')) : c.resolve present = c.resolve present' := by
  cases c with
  | keep => rfl
  | drop => rfl
  | test t =>
    rw [resolve, resolve, Bool.eq_iff_iff, List.elem_iff, List.elem_iff]
    exact h t rfl

/-- What stays on one page stays on every page that has more. -/
theorem resolve_of_subset {c : Classification} {present present' : List Text} (h : present ⊆ present') (hc : c.resolve present = true) :
    c.resolve present' = true := by
  cases c with
  | keep => rfl
  | drop => exact hc
  | test t => exact List.elem_iff.mpr (h (List.elem_iff.mp hc))

end Classification

/-! ## The nodes of a profile -/

namespace Profile

variable {p : Profile} {i : Nat} {present present' : List Text}

/-- Of the page only the text that is looked for in place of a node matters for this node. -/
theorem isKept_eq_of_agree (h : ∀ t, p.classification? i = some (.test t) → (t ∈ present ↔ t ∈ present')) :
    p.isKept i present = p.isKept i present' := by
  unfold isKept
  cases hc : p.classification? i with
  | none => rfl
  | some c =>
    refine congrArg some (Classification.resolve_eq_of_agree fun t ht => h t ?_)
    rw [hc, ht]

/-- A node that stays on one page stays on every page that has more. -/
theorem isKept_of_subset (h : present ⊆ present') (hk : p.isKept i present = some true) : p.isKept i present' = some true := by
  obtain ⟨c, hc, hr⟩ := Option.map_eq_some_iff.mp hk
  exact Option.map_eq_some_iff.mpr ⟨c, hc, Classification.resolve_of_subset h hr⟩

/-- A node for which a text is looked for stays exactly on the pages that have this text. -/
theorem isKept_of_test {t : Text} (h : p.classification? i = some (.test t)) (present : List Text) :
    p.isKept i present = some (present.elem t) := by
  rw [isKept, h]
  rfl

section DistinctNumbers

variable {rules : List Rule} (hd : ((rules.flatMap Rule.nodes).map (·.index)).Nodup)

include hd

/-- What has a classification is a node of some rule. -/
theorem exists_node_of_classification? [Host] {force : ForceLists} {c : Classification}
    (h : (ofRules force rules).classification? i = some c) : ∃ r ∈ rules, ∃ n ∈ r.nodes, n.index = i := by
  have hkey : i ∈ Ledger.keys (rules.flatMap (·.verdicts force)) := by
    rw [classification?, classifications_ofRules hd] at h
    by_contra hi
    rw [(Ledger.find?_eq_none_iff i _).mpr hi] at h
    cases h
  obtain ⟨n, hn, hni⟩ := List.mem_map.mp ((keys_verdicts_sublist force rules).subset hkey)
  obtain ⟨r, hr, hn⟩ := List.mem_flatMap.mp hn
  exact ⟨r, hr, n, hn, hni⟩

/-- For every text of the list there is a node that stays exactly on the pages that have this text. -/
theorem exists_node_isKept_eq [Host] {force : ForceLists} {t : Text} (ht : t ∈ (ofRules force rules).selectors) :
    ∃ r ∈ rules, ∃ n ∈ r.nodes, ∀ present, (ofRules force rules).isKept n.index present = some (present.elem t) := by
  obtain ⟨i, hi⟩ := (mem_selectors_ofRules_iff hd force t).mp ht
  obtain ⟨r, hr, n, hn, rfl⟩ := exists_node_of_classification? hd hi
  exact ⟨r, hr, n, hn, isKept_of_test hi⟩

end DistinctNumbers

end Profile

/-- The texts to look for are enough, and none of them is looked for in vain. The first two parts are about every run of recordings from
the empty profile, the last two about the profile of a stylesheet whose rules' nodes carry distinct numbers.
1. Two pages that agree on the texts to look for keep the same nodes.
2. A page that has more keeps no less.
3. For each text to look for there is a node that goes when the page has nothing and stays when it has this text alone.
4. Two pages that keep the same nodes agree on the texts to look for. -/
theorem selectors_suffice_and_matter [Host] :
    (∀ (calls : List (Nat × Classification)) (i : Nat) (present present' : List Text),
      ((∀ t ∈ (Profile.recordAll {} calls).selectors, t ∈ present ↔ t ∈ present') →
        (Profile.recordAll {} calls).isKept i present = (Profile.recordAll {} calls).isKept i present') ∧
      (present ⊆ present' → (Profile.recordAll {} calls).isKept i present = some true →
        (Profile.recordAll {} calls).isKept i present' = some true)) ∧
    ∀ (force : ForceLists) (s : Stylesheet), s.DistinctIndices →
      (∀ t ∈ (Profile.ofRules force s.rules).selectors, ∃ r ∈ s.rules, ∃ n ∈ r.nodes,
        (Profile.ofRules force s.rules).isKept n.index [] = some false ∧
        (Profile.ofRules force s.rules).isKept n.index [t] = some true) ∧
      ∀ present present' : List Text,
        (∀ r ∈ s.rules, ∀ n ∈ r.nodes,
          (Profile.ofRules force s.rules).isKept n.index present = (Profile.ofRules force s.rules).isKept n.index present') →
        ∀ t ∈ (Profile.ofRules force s.rules).selectors, t ∈ present ↔ t ∈ present' := by
  refine ⟨fun calls i present present' => ⟨fun h => ?_, Profile.isKept_of_subset⟩, fun force s hd => ⟨fun t ht => ?_, ?_⟩⟩
  · exact Profile.isKept_eq_of_agree fun t ht => h t (Profile.mem_selectors_of_classification? ht)
  · obtain ⟨r, hr, n, hn, hkept⟩ := Profile.exists_node_isKept_eq hd ht
    refine ⟨r, hr, n, hn, hkept [], ?_⟩
    rw [hkept [t], List.elem_iff.mpr List.mem_cons_self]
  · intro present present' hsame t ht
    obtain ⟨r, hr, n, hn, hkept⟩ := Profile.exists_node_isKept_eq hd ht
    have hn := hsame r hr n hn
    rw [hkept present, hkept present', Option.some.injEq, Bool.eq_iff_iff, List.elem_iff, List.elem_iff] at hn
    exact hn

open Host.Plain in
/-- A number is recorded twice, and two pages differ in a text that was never recorded; and in a stylesheet with a rule of each kind the
list of the grid is looked for, although the caller would drop it. -/
theorem selectors_of_fourRules_matter :
    (∀ t ∈ (Profile.recordAll {} [(3, .test ['a']), (3, .test ['b'])]).selectors, t ∈ [['b']] ↔ t ∈ [['b'], ['c']]) ∧
    (Profile.recordAll {} [(3, .test ['a']), (3, .test ['b'])]).isKept 3 [['b']] =
      (Profile.recordAll {} [(3, .test ['a']), (3, .test ['b'])]).isKept 3 [['b'], ['c']] ∧
    (Profile.recordAll {} [(3, .test ['a']), (3, .test ['b'])]).isKept 3 [['b'], ['c']] = some true ∧
    FourRules.sheet.DistinctIndices ∧
    (∃ r ∈ FourRules.sheet.rules, ∃ n ∈ r.nodes,
      (Profile.ofRules FourRules.force FourRules.sheet.rules).isKept n.index [] = some false ∧
      (Profile.ofRules FourRules.force FourRules.sheet.rules).isKept n.index [".a, .b".toList] = some true) ∧
    ¬∀ r ∈ FourRules.sheet.rules, ∀ n ∈ r.nodes, (Profile.ofRules FourRules.force FourRules.sheet.rules).isKept n.index [] =
      (Profile.ofRules FourRules.force FourRules.sheet.rules).isKept n.index [['p']] := by
  have hd : FourRules.sheet.DistinctIndices := by decide
  have hagree : ∀ t ∈ (Profile.recordAll {} [(3, .test ['a']), (3, .test ['b'])]).selectors,
      t ∈ [['b']] ↔ t ∈ [['b'], ['c']] := by decide
  obtain ⟨henough, hmore⟩ := selectors_suffice_and_matter.1 [(3, .test ['a']), (3, .test ['b'])] 3 [['b']] [['b'], ['c']]
  obtain ⟨hmatter, hsame⟩ := selectors_suffice_and_matter.2 FourRules.force FourRules.sheet hd
  refine ⟨hagree, henough hagree, hmore (by decide) (by decide), hd, hmatter _ (by decide), fun h => ?_⟩
  have hp := hsame [] [['p']] h ['p'] (by decide)
  simp at hp

end CriticalCss

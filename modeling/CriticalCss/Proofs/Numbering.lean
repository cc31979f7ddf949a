import Mathlib.Algebra.Ring.Nat
import Mathlib.Data.List.Nodup
import CriticalCss.Stylesheet.Arena

/-!
# Numbering

A draft that is placed in an arena becomes the rule `Draft.numbered`, and its nodes are added at the end (`Arena.place_eq`). From this
follows what every placing keeps (`Arena.place_partitioned`): the number of a node is its place in the arena, and the rules share the
arena out among them without a gap and without an overlap. The arena of a syntax tree is a run of placings, so it has both
(`arena_partition`).
-/

namespace CriticalCss

/-! ## Drafts with numbers -/

/-- Some fragments as selectors, numbered from a first number on. -/
def Fragment.numbered (first : Nat) (fragments : List Fragment) : List Node :=
  (fragments.zipIdx first).map fun p => ⟨p.2, .selector, p.1.text, p.1.line⟩

/-- The rule that a draft becomes when its nodes are numbered from a first number on. -/
def Draft.numbered (first : Nat) (d : Draft) : Rule where
  atRule := d.atRule
  list := d.prelude.map fun p => ⟨first, .selectorList, p.list.text, p.list.line⟩
  selectors := match d.prelude with
    | none => []
    | some p => Fragment.numbered (first + 1) p.selectors
  properties := d.properties
  line := d.line

theorem Fragment.indices_numbered (first : Nat) (fragments : List Fragment) :
    (Fragment.numbered first fragments).map (·.index) = List.range' first fragments.length := by
  rw [Fragment.numbered, List.map_map]
  exact List.zipIdx_map_snd first fragments

/-- The nodes of a numbered draft carry consecutive numbers. -/
theorem Draft.indices_numbered (first : Nat) (d : Draft) :
    (d.numbered first).nodes.map (·.index) = List.range' first (d.numbered first).nodes.length := by
  cases h : d.prelude with
  | none => simp [Draft.numbered, Rule.nodes, h]
  | some p =>
    have hlen : (Fragment.numbered (first + 1) p.selectors).length = p.selectors.length := by
      simp [Fragment.numbered]
    simp only [Draft.numbered, Rule.nodes, h, Option.map_some, Option.toList_some, List.map_append, List.map_singleton,
      Fragment.indices_numbered, List.length_append, List.length_singleton, hlen]
    rw [Nat.add_comm 1 p.selectors.length, List.range'_succ, List.singleton_append]

/-- What holds of the nodes of every rule in an arena: the list is a selector list, the selectors are selectors, and a rule without a
list has none. -/
structure Rule.Formed (r : Rule) : Prop where
  list_kind : ∀ l, r.list = some l → l.kind = .selectorList
  selector_kind : ∀ n ∈ r.selectors, n.kind = .selector
  bare : r.list = none → r.selectors = []

theorem Draft.numbered_formed (first : Nat) (d : Draft) : (d.numbered first).Formed where
  list_kind := by
    intro l hl
    obtain ⟨p, -, rfl⟩ := Option.map_eq_some_iff.mp hl
    rfl
  selector_kind := by
    intro n hn
    cases h : d.prelude with
    | none => simp [Draft.numbered, h] at hn
    | some p =>
      simp only [Draft.numbered, h, Fragment.numbered, List.mem_map] at hn
      obtain ⟨q, -, rfl⟩ := hn
      rfl
  bare := by
    intro hl
    have hp : d.prelude = none := Option.map_eq_none_iff.mp hl
    simp [Draft.numbered, hp]

/-- Of the nodes of a rule, the selectors are those of the kind. -/
theorem Rule.Formed.countP_nodes {r : Rule} (h : r.Formed) : r.nodes.countP (·.kind == .selector) = r.selectors.length := by
  have hs : r.selectors.countP (·.kind == .selector) = r.selectors.length := by
    rw [List.countP_eq_length]
    intro n hn
    simp [h.selector_kind n hn]
  have hl : r.list.toList.countP (·.kind == .selector) = 0 := by
    rw [List.countP_eq_zero]
    intro l hl
    simp [h.list_kind l (Option.mem_toList.mp hl)]
  rw [Rule.nodes, List.countP_append, hs, hl, Nat.zero_add]

/-- A rule without its numbers. -/
def Rule.draft (r : Rule) : Draft where
  atRule := r.atRule
  prelude := r.list.map fun l => ⟨⟨l.text, l.line⟩, r.selectors.map fun n => ⟨n.text, n.line⟩⟩
  properties := r.properties
  line := r.line

/-- Numbering a draft and forgetting the numbers gives the draft back. -/
theorem Draft.draft_numbered (first : Nat) (d : Draft) : (d.numbered first).draft = d := by
  obtain ⟨atRule, prelude, properties, line⟩ := d
  cases prelude with
  | none => rfl
  | some p =>
    have hs : (Fragment.numbered (first + 1) p.selectors).map (fun n => (⟨n.text, n.line⟩ : Fragment)) = p.selectors := by
      rw [Fragment.numbered, List.map_map]
      exact List.zipIdx_map_fst (first + 1) p.selectors
    simp [Draft.numbered, Rule.draft, hs]

/-! ## Placing -/

namespace Arena

/-- Adding selectors numbers them from the size of the arena on. -/
theorem addSelectors_eq (a : Arena) (fragments : List Fragment) :
    a.addSelectors fragments = (Fragment.numbered a.nodes.length fragments,
      { a with nodes := a.nodes ++ Fragment.numbered a.nodes.length fragments }) := by
  induction fragments generalizing a with
  | nil => simp [addSelectors, Fragment.numbered]
  | cons f rest ih =>
    simp [addSelectors, add, ih, Fragment.numbered]

/-- Placing a draft adds the rule that the draft becomes, and the nodes of this rule, and changes nothing else. -/
theorem place_eq (a : Arena) (d : Draft) :
    a.place d =
      { nodes := a.nodes ++ (d.numbered a.nodes.length).nodes, rules := a.rules ++ [d.numbered a.nodes.length] } := by
  cases h : d.prelude with
  | none => simp [place, h, addRule, Draft.numbered, Rule.nodes]
  | some p => simp [place, h, add, addSelectors_eq, addRule, Draft.numbered, Rule.nodes]

/-- A run of placings adds one rule for each draft. -/
theorem rules_foldl_place (a : Arena) (drafts : List Draft) :
    (drafts.foldl place a).rules.map Rule.draft = a.rules.map Rule.draft ++ drafts := by
  induction drafts generalizing a with
  | nil => simp
  | cons d drafts ih =>
    rw [List.foldl_cons, ih, place_eq]
    simp [Draft.draft_numbered]

/-- The number of a node is its place, the rules share out the arena, and each rule is formed. -/
structure Partitioned (a : Arena) : Prop where
  indices : a.nodes.map (·.index) = List.range a.nodes.length
  shared : a.rules.flatMap Rule.nodes = a.nodes
  formed : ∀ r ∈ a.rules, r.Formed

theorem empty_partitioned : ({} : Arena).Partitioned where
  indices := rfl
  shared := rfl
  formed := by simp

/-- Placing a draft in any arena that is shared out leaves one that is. -/
theorem place_partitioned {a : Arena} (h : a.Partitioned) (d : Draft) : (a.place d).Partitioned := by
  rw [place_eq]
  refine ⟨?_, ?_, ?_⟩
  · have happ := List.range'_append_1 (s := 0) (m := a.nodes.length) (n := (d.numbered a.nodes.length).nodes.length)
    rw [Nat.zero_add] at happ
    simp only [List.map_append, List.length_append, h.indices, d.indices_numbered, List.range_eq_range', happ]
  · simp [h.shared]
  · intro r hr
    rcases List.mem_append.mp hr with hr | hr
    · exact h.formed r hr
    · rw [List.mem_singleton] at hr
      exact hr ▸ d.numbered_formed _

/-- A run of placings keeps an arena shared out. -/
theorem foldl_place_partitioned {a : Arena} (h : a.Partitioned) (drafts : List Draft) : (drafts.foldl place a).Partitioned := by
  induction drafts generalizing a with
  | nil => exact h
  | cons d drafts ih => exact ih (place_partitioned h d)

/-- The arena of a syntax tree is a run of placings, one for each rule of the tree. -/
theorem ofTree_partitioned (source : List UInt8) (root : SyntaxTree) : (ofTree source root).Partitioned :=
  foldl_place_partitioned empty_partitioned _

/-- In a numbered arena a node stands at the place that its number names. -/
theorem Partitioned.index_eq {a : Arena} (h : a.Partitioned) {i : Nat} {n : Node} (hn : a.nodes[i]? = some n) : n.index = i := by
  have hi := List.getElem?_map (f := (·.index)) (l := a.nodes) (i := i)
  rw [h.indices, hn, List.getElem?_range (List.getElem?_eq_some_iff.mp hn).1] at hi
  exact (Option.some.inj hi).symm

/-- No two nodes of the rules carry the same number. -/
theorem Partitioned.nodup_indices {a : Arena} (h : a.Partitioned) : ((a.rules.flatMap Rule.nodes).map (·.index)).Nodup := by
  rw [h.shared, h.indices]
  exact List.nodup_range

/-- The selectors of an arena are those of its rules. -/
theorem Partitioned.countP_nodes {a : Arena} (h : a.Partitioned) :
    a.nodes.countP (·.kind == .selector) = (a.rules.map (·.selectors.length)).sum := by
  rw [← h.shared, List.countP_flatMap]
  congr 1
  exact List.map_congr_left fun r hr => (h.formed r hr).countP_nodes

end Arena

/-! ## Belonging to one rule -/

/-- When no node occurs twice in some rules, a node of one of them belongs to this one alone. -/
theorem existsUnique_rule {rules : List Rule} (h : (rules.flatMap Rule.nodes).Nodup) {n : Node} (hn : n ∈ rules.flatMap Rule.nodes) :
    ∃! j : Nat, ∃ r : Rule, rules[j]? = some r ∧ n ∈ r.nodes := by
  obtain ⟨r, hr, hnr⟩ := List.mem_flatMap.mp hn
  obtain ⟨j, hj⟩ := List.getElem?_of_mem hr
  have hdisj := List.pairwise_iff_getElem.mp (List.nodup_flatMap.mp h).2
  have hlt : ∀ (i k : Nat) (r s : Rule), rules[i]? = some r → rules[k]? = some s → n ∈ r.nodes → n ∈ s.nodes → ¬i < k := by
    intro i k r s hi hk hr hs hik
    obtain ⟨hil, rfl⟩ := List.getElem?_eq_some_iff.mp hi
    obtain ⟨hkl, rfl⟩ := List.getElem?_eq_some_iff.mp hk
    exact hdisj i k hil hkl hik hr hs
  refine ⟨j, ⟨r, hj, hnr⟩, ?_⟩
  rintro k ⟨s, hk, hns⟩
  have h1 := hlt j k r s hj hk hnr hns
  have h2 := hlt k j s r hk hj hns hnr
  omega

/-- The nodes of the rules carry pairwise distinct numbers. -/
def Stylesheet.DistinctIndices (s : Stylesheet) : Prop := ((s.rules.flatMap Rule.nodes).map (·.index)).Nodup

instance (s : Stylesheet) : Decidable s.DistinctIndices :=
  inferInstanceAs (Decidable ((s.rules.flatMap Rule.nodes).map (·.index)).Nodup)

/-- A stylesheet that was read has distinct numbers. -/
theorem Stylesheet.ofTree_distinctIndices (path : Option Text) (source : List UInt8) (root : SyntaxTree) :
    (Stylesheet.ofTree path source root).DistinctIndices :=
  (Arena.ofTree_partitioned source root).nodup_indices

/-- The rules of a syntax tree share out its arena, in five parts.
1. The number of a node is its place in the arena.
2. The nodes of the rules, one rule after the other and in each rule its list before its selectors, are the arena.
3. A node of the arena belongs to exactly one rule.
4. The list of a rule is a selector list, its selectors are selectors, and a rule without a list has none.
5. The selectors that the stylesheet counts are those of its rules. -/
theorem arena_partition (source : List UInt8) (root : SyntaxTree) :
    (∀ (i : Nat) (n : Node), (Arena.ofTree source root).nodes[i]? = some n → n.index = i) ∧
    (Arena.ofTree source root).rules.flatMap (fun r => r.list.toList ++ r.selectors) = (Arena.ofTree source root).nodes ∧
    (∀ n ∈ (Arena.ofTree source root).nodes, ∃! j : Nat, ∃ r : Rule, (Arena.ofTree source root).rules[j]? = some r ∧ n ∈ r.nodes) ∧
    (∀ r ∈ (Arena.ofTree source root).rules,
      (∀ l, r.list = some l → l.kind = .selectorList) ∧ (∀ n ∈ r.selectors, n.kind = .selector) ∧
      (r.list = none → r.selectors = [])) ∧
    (∀ path, (Stylesheet.ofTree path source root).selectorCount =
      ((Stylesheet.ofTree path source root).rules.map (·.selectors.length)).sum) := by
  have h := Arena.ofTree_partitioned source root
  refine ⟨fun i n hn => h.index_eq hn, h.shared, fun n hn => ?_, fun r hr => ?_, fun path => h.countP_nodes⟩
  · rw [← h.shared] at hn
    exact existsUnique_rule (List.Nodup.of_map _ h.nodup_indices) hn
  · have hf := h.formed r hr
    exact ⟨hf.list_kind, hf.selector_kind, hf.bare⟩

end CriticalCss

import CriticalCss.Proofs.Judging

/-!
# Stylesheets one after the other

What becomes of a stylesheet when more is written behind it. The rules of some trees in a row are found tree by tree
(`sitesIn_append`), and drafts that are placed behind an arena make the rules that they make alone, with every number raised by the
size of the arena (`Arena.ofDrafts_append`). Numbers that are raised change nothing about how a rule is judged
(`Rule.verdicts_raised`), so the profile of the whole is put together from the profiles of its parts (`profile_of_joined`).
-/

namespace CriticalCss

/-! ## Raised numbers -/

/-- A node whose number is raised. -/
def Node.raised (k : Nat) (n : Node) : Node := { n with index := n.index + k }

/-- A rule whose nodes' numbers are raised. -/
def Rule.raised (k : Nat) (r : Rule) : Rule :=
  { r with list := r.list.map (·.raised k), selectors := r.selectors.map (·.raised k) }

theorem Rule.nodes_raised (k : Nat) (r : Rule) : (r.raised k).nodes = r.nodes.map (·.raised k) := by
  cases h : r.list <;> simp [Rule.raised, Rule.nodes, h]

/-- Fragments that are numbered from a later number on are numbered alike, with raised numbers. -/
theorem Fragment.numbered_add (first k : Nat) (fragments : List Fragment) :
    Fragment.numbered (first + k) fragments = (Fragment.numbered first fragments).map (·.raised k) := by
  induction fragments generalizing first with
  | nil => rfl
  | cons f rest ih =>
    have hrest := ih (first + 1)
    simp only [Fragment.numbered, List.zipIdx_cons, List.map_cons, Node.raised] at hrest ⊢
    rw [Nat.add_right_comm first k 1, hrest]

/-- A draft that is numbered from a later number on becomes the same rule, with raised numbers. -/
theorem Draft.numbered_add (first k : Nat) (d : Draft) : d.numbered (first + k) = (d.numbered first).raised k := by
  cases h : d.prelude with
  | none => simp [Draft.numbered, Rule.raised, h]
  | some p =>
    have hselectors := Fragment.numbered_add (first + 1) k p.selectors
    rw [Nat.add_right_comm] at hselectors
    simp [Draft.numbered, Rule.raised, Node.raised, h, hselectors]

/-! ## Arenas one after the other -/

namespace Arena

/-- An arena behind another: its nodes and rules follow those of the first, with their numbers raised by the size of the first. -/
def followedBy (a b : Arena) : Arena where
  nodes := a.nodes ++ b.nodes.map (·.raised a.nodes.length)
  rules := a.rules ++ b.rules.map (·.raised a.nodes.length)

theorem followedBy_empty (a : Arena) : a.followedBy {} = a := by
  simp [followedBy]

/-- What is placed behind two arenas is placed behind the second of them. -/
theorem place_followedBy (a b : Arena) (d : Draft) : (a.followedBy b).place d = a.followedBy (b.place d) := by
  have hsize : (a.followedBy b).nodes.length = b.nodes.length + a.nodes.length := by
    simp [followedBy, Nat.add_comm]
  rw [place_eq, place_eq, hsize, d.numbered_add, Rule.nodes_raised]
  simp [followedBy]

/-- So it is with a run of placings. -/
theorem foldl_place_followedBy (a b : Arena) (drafts : List Draft) :
    drafts.foldl place (a.followedBy b) = a.followedBy (drafts.foldl place b) := by
  induction drafts generalizing b with
  | nil => rfl
  | cons d drafts ih => rw [List.foldl_cons, List.foldl_cons, place_followedBy, ih]

/-- The arena of two lists of drafts is that of the first, followed by that of the second. -/
theorem ofDrafts_append (first second : List Draft) : ofDrafts (first ++ second) = (ofDrafts first).followedBy (ofDrafts second) := by
  have h := foldl_place_followedBy (ofDrafts first) {} second
  rw [followedBy_empty] at h
  rw [ofDrafts, List.foldl_append]
  exact h

end Arena

/-! ## Trees one after the other -/

namespace SyntaxTree

variable (source : List UInt8)

/-- The rules of trees in a row are found tree by tree, and a name that one tree gives to its rules is lost behind it. -/
theorem sitesIn_append (outer : Option Text) (first second : List SyntaxTree) :
    sitesIn source outer (first ++ second) = sitesIn source outer first ++ sitesIn source outer second := by
  induction first with
  | nil => rfl
  | cons t rest ih =>
    simp only [List.cons_append, sitesIn]
    split
    · rw [ih, List.append_assoc]
    · exact ih

/-- The root of a stylesheet is no statement: its drafts are those of what stands in it. -/
theorem drafts_node {label : SyntaxLabel} (h : label.kind = .other) (children : List SyntaxTree) :
    (node label children).drafts source = (sitesIn source none children).map (·.draft source) := by
  have hname : (node label children).atRuleName? source = none := if_neg (by simp [kind, SyntaxTree.label, h])
  have hsites : (node label children).sites source none = sitesIn source none children := by
    simp [sites, h, hname]
  rw [drafts, hsites]

end SyntaxTree

/-- A stylesheet with more trees in it has the arena of the first of them, followed by that of the others. -/
theorem Arena.ofTree_append (source : List UInt8) {whole first second : SyntaxLabel} (hw : whole.kind = .other)
    (hf : first.kind = .other) (hs : second.kind = .other) (before after : List SyntaxTree) :
    Arena.ofTree source (.node whole (before ++ after)) =
      (Arena.ofTree source (.node first before)).followedBy (Arena.ofTree source (.node second after)) := by
  rw [ofTree, ofTree, ofTree, SyntaxTree.drafts_node source hw, SyntaxTree.drafts_node source hf,
    SyntaxTree.drafts_node source hs, SyntaxTree.sitesIn_append, List.map_append, ofDrafts_append]

/-! ## Profiles of raised rules -/

namespace Rule

theorem isSkipped_raised (k : Nat) (r : Rule) : (r.raised k).isSkipped = r.isSkipped := by
  rw [isSkipped_eq, isSkipped_eq, isWellFormed, isWellFormed]
  simp [raised]

/-- A rule with raised numbers is judged alike, under the raised numbers. -/
theorem verdicts_raised [Host] (force : ForceLists) (k : Nat) (r : Rule) :
    (r.raised k).verdicts force = (r.verdicts force).map fun v => (v.1 + k, v.2) := by
  rcases r.isSkipped_or_list with hs | ⟨l, hk, hl⟩
  · rw [verdicts_of_isSkipped force hs, verdicts_of_isSkipped force ((isSkipped_raised k r).trans hs)]
    rfl
  · have hl' : (r.raised k).list = some (l.raised k) := by simp [raised, hl]
    cases hg : r.declares gridArea with
    | true =>
      rw [verdicts_whole force hk hl hg, verdicts_whole (r := r.raised k) force hk hl' hg]
      rfl
    | false =>
      rw [verdicts_parts force hk hl hg, verdicts_parts (r := r.raised k) force hk hl' hg]
      simp [raised, Node.raised]

theorem flatMap_verdicts_raised [Host] (force : ForceLists) (k : Nat) (rules : List Rule) :
    (rules.map (·.raised k)).flatMap (·.verdicts force) =
      (rules.flatMap (·.verdicts force)).map fun v => (v.1 + k, v.2) := by
  rw [List.flatMap_map, List.map_flatMap]
  exact List.flatMap_congr fun r _ => r.verdicts_raised force k

end Rule

namespace Profile

variable [Host] (force : ForceLists) (k : Nat) (first second : List Rule)

/-- The texts to look for are those of either part. -/
theorem mem_selectors_ofRules_append (t : Text) :
    t ∈ (ofRules force (first ++ second.map (·.raised k))).selectors ↔
      t ∈ (ofRules force first).selectors ∨ t ∈ (ofRules force second).selectors := by
  simp only [mem_selectors_ofRules, List.flatMap_append, Rule.flatMap_verdicts_raised, List.mem_append, List.mem_map]
  constructor
  · rintro ⟨i, h | ⟨⟨j, c⟩, hv, he⟩⟩
    · exact Or.inl ⟨i, h⟩
    · cases he
      exact Or.inr ⟨j, hv⟩
  · rintro (⟨i, h⟩ | ⟨i, h⟩)
    · exact ⟨i, Or.inl h⟩
    · exact ⟨i + k, Or.inr ⟨_, h, rfl⟩⟩

theorem skippedRules_ofRules_append :
    (ofRules force (first ++ second.map (·.raised k))).skippedRules =
      (ofRules force first).skippedRules + (ofRules force second).skippedRules := by
  simp only [skippedRules_ofRules, List.countP_append, List.countP_map]
  congr 1
  exact List.countP_congr fun r _ => by rw [Function.comp_apply, Rule.isSkipped_raised]

end Profile

/-! ## Main statement -/

/-- A stylesheet in which some trees stand behind others, in five parts.
1. Its nodes are those of the first trees alone, followed by those of the others alone with raised numbers.
2. So are its rules. The numbers are raised by the number of nodes of the first trees.
3. The texts to look for are those of either part.
4. The skipped rules are those of both parts.
5. The classifications are those of the first trees alone, followed by those of the others alone with raised numbers. -/
theorem profile_of_joined [Host] (path : Option Text) (source : List UInt8) (whole first second : SyntaxLabel)
    (hw : whole.kind = .other) (hf : first.kind = .other) (hs : second.kind = .other) (before after : List SyntaxTree) :
    (Stylesheet.ofTree path source (.node whole (before ++ after))).nodes =
      (Stylesheet.ofTree path source (.node first before)).nodes ++
        (Stylesheet.ofTree path source (.node second after)).nodes.map
          (·.raised (Stylesheet.ofTree path source (.node first before)).nodes.length) ∧
    (Stylesheet.ofTree path source (.node whole (before ++ after))).rules =
      (Stylesheet.ofTree path source (.node first before)).rules ++
        (Stylesheet.ofTree path source (.node second after)).rules.map
          (·.raised (Stylesheet.ofTree path source (.node first before)).nodes.length) ∧
    ∀ force : ForceLists,
      (∀ t, t ∈ (Profile.ofRules force (Stylesheet.ofTree path source (.node whole (before ++ after))).rules).selectors ↔
        t ∈ (Profile.ofRules force (Stylesheet.ofTree path source (.node first before)).rules).selectors ∨
        t ∈ (Profile.ofRules force (Stylesheet.ofTree path source (.node second after)).rules).selectors) ∧
      (Profile.ofRules force (Stylesheet.ofTree path source (.node whole (before ++ after))).rules).skippedRules =
        (Profile.ofRules force (Stylesheet.ofTree path source (.node first before)).rules).skippedRules +
        (Profile.ofRules force (Stylesheet.ofTree path source (.node second after)).rules).skippedRules ∧
      (Profile.ofRules force (Stylesheet.ofTree path source (.node whole (before ++ after))).rules).classifications =
        (Profile.ofRules force (Stylesheet.ofTree path source (.node first before)).rules).classifications ++
        (Profile.ofRules force (Stylesheet.ofTree path source (.node second after)).rules).classifications.map
          fun e => (e.1 + (Stylesheet.ofTree path source (.node first before)).nodes.length, e.2) := by
  have harena := Arena.ofTree_append source hw hf hs before after
  have hnodes := congrArg Arena.nodes harena
  have hrules : (Stylesheet.ofTree path source (.node whole (before ++ after))).rules =
      (Stylesheet.ofTree path source (.node first before)).rules ++
        (Stylesheet.ofTree path source (.node second after)).rules.map
          (·.raised (Stylesheet.ofTree path source (.node first before)).nodes.length) := congrArg Arena.rules harena
  refine ⟨hnodes, hrules, fun force => ⟨fun t => ?_, ?_, ?_⟩⟩
  · rw [hrules]
    exact Profile.mem_selectors_ofRules_append force _ _ _ t
  · rw [hrules]
    exact Profile.skippedRules_ofRules_append force _ _ _
  · -- in each of the three stylesheets no verdict is overwritten, so the classifications are the verdicts
    rw [Profile.classifications_ofRules (Stylesheet.ofTree_distinctIndices path source _),
      Profile.classifications_ofRules (Stylesheet.ofTree_distinctIndices path source _),
      Profile.classifications_ofRules (Stylesheet.ofTree_distinctIndices path source _),
      hrules, List.flatMap_append, Rule.flatMap_verdicts_raised]

namespace TwoRules

/-- The source of a rule in an at-rule and of one behind it. -/
def source : List UInt8 := Utf8.encode "@x{a{}}b{}".toList

/-- A part of the source. -/
def part (kind : SyntaxKind) (start stop : Nat) (children : List SyntaxTree) : SyntaxTree :=
  .node { kind := kind, start := start, stop := stop, row := 0 } children

/-- The at-rule. -/
def inner : SyntaxTree :=
  part .atRule 0 7 [part .other 0 2 [],
    part .block 2 7 [part .ruleSet 3 6 [part .selectors 3 4 [part .other 3 4 []], part .block 4 6 []]]]

/-- The rule behind it. -/
def outer : SyntaxTree := part .ruleSet 7 10 [part .selectors 7 8 [part .other 7 8 []], part .block 8 10 []]

/-- A root over some bytes. -/
def root (start stop : Nat) : SyntaxLabel := { kind := .other, start := start, stop := stop, row := 0 }

end TwoRules

open Host.Plain in
/-- A rule behind an at-rule: its selector has number one alone and number three in the whole, and the name of the at-rule does not reach
it. -/
theorem profile_of_twoRules :
    (TwoRules.root 0 10).kind = .other ∧
    (Stylesheet.ofTree none TwoRules.source (.node (TwoRules.root 0 10) ([TwoRules.inner] ++ [TwoRules.outer]))).rules.map (·.atRule) =
      [some ['x'], none] ∧
    (Profile.ofRules {} (Stylesheet.ofTree none TwoRules.source
      (.node (TwoRules.root 0 10) ([TwoRules.inner] ++ [TwoRules.outer]))).rules).classifications =
      [(1, .test ['a']), (3, .test ['b'])] := by
  obtain ⟨-, hrules, hprofile⟩ := profile_of_joined none TwoRules.source (TwoRules.root 0 10) (TwoRules.root 0 7)
    (TwoRules.root 7 10) rfl rfl rfl [TwoRules.inner] [TwoRules.outer]
  refine ⟨rfl, ?_, ?_⟩
  · rw [hrules]
    decide
  · rw [(hprofile {}).2.2]
    decide

end CriticalCss

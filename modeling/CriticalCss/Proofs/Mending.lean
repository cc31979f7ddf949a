import CriticalCss.Proofs.Joining
import CriticalCss.Proofs.Sites

/-!
# Malformed preludes

What a malformed prelude does to a stylesheet. The flag that a tree carries says whether a defect is somewhere in it; where the flags are
right (`ErrorsMarked`), a rule set has no selector list just when it has no selectors, or a defect is somewhere before its block. A defect
in the block is no matter. When the prelude of one rule set is mended, and nothing else is changed but the flags above it
(`SyntaxTree.Mended`), this one rule gets its list and its selectors, and all that comes behind it is the same up to its numbers, which
are raised by the number of the nodes that have come in (`list_missing_iff_and_mended`).
-/

namespace CriticalCss

/-! ## Defects -/

namespace SyntaxTree

/-- Whether a tree is source that fits no rule, or stands for source that is missing. -/
def IsDefect (t : SyntaxTree) : Prop := t.kind = .error ∨ t.label.missing = true

/-- Whether a defect is somewhere in a tree, at whatever depth. -/
def HasDefect (t : SyntaxTree) : Prop := ∃ q d, t.subtree? q = some d ∧ d.IsDefect

/-- The flags of a tree are right: each tree in it carries the flag if a defect is in it. -/
def ErrorsMarked (root : SyntaxTree) : Prop := ∀ q t, root.subtree? q = some t → (t.label.hasError = true ↔ t.HasDefect)

/-- A rule set is without selectors, or something that is not its block is a defect or carries the flag. -/
def Malformed (rule : SyntaxTree) : Prop :=
  rule.childOf? .selectors = none ∨ ∃ c ∈ rule.children, c.kind ≠ .block ∧ (c.IsDefect ∨ c.label.hasError = true)

/-- The selectors in a list of selectors. -/
def selectorsIn (list : SyntaxTree) : List SyntaxTree := list.namedChildren.filter (·.kind != .comment)

/-- A prelude is malformed exactly if some child other than a block is a defect or has an error. -/
theorem hasMalformedPrelude_iff {rule : SyntaxTree} :
    rule.hasMalformedPrelude = true ↔ ∃ c ∈ rule.children, c.kind ≠ .block ∧ (c.IsDefect ∨ c.label.hasError = true) := by
  simp [hasMalformedPrelude, IsDefect]

/-- A rule set has no prelude exactly if it is malformed. -/
theorem ruleSetPrelude?_eq_none_iff (source : List UInt8) {rule : SyntaxTree} :
    rule.ruleSetPrelude? source = none ↔ rule.Malformed := by
  unfold ruleSetPrelude? Malformed
  rw [← hasMalformedPrelude_iff]
  cases rule.childOf? .selectors with
  | none => simp
  | some selectors => simp

/-- The prelude of a rule set that is not malformed is its list with the selectors in it. -/
theorem ruleSetPrelude?_eq_some (source : List UInt8) {rule list : SyntaxTree} (h : ¬rule.Malformed)
    (hlist : rule.childOf? .selectors = some list) :
    rule.ruleSetPrelude? source = some ⟨list.fragment source, list.selectorsIn.map (·.fragment source)⟩ := by
  have hsound : rule.hasMalformedPrelude = false := by
    rw [← Bool.not_eq_true, hasMalformedPrelude_iff]
    exact fun hfault => h (Or.inr hfault)
  unfold ruleSetPrelude?
  simp only [hlist, hsound, Bool.false_eq_true, if_false]
  rfl

/-- A rule set that is not malformed has a prelude with as many selectors as its list. -/
theorem exists_ruleSetPrelude? (source : List UInt8) {rule list : SyntaxTree} (h : ¬rule.Malformed)
    (hlist : rule.childOf? .selectors = some list) :
    ∃ p, rule.ruleSetPrelude? source = some p ∧ p.selectors.length = list.selectorsIn.length :=
  ⟨_, ruleSetPrelude?_eq_some source h hlist, List.length_map _⟩

/-- The draft of a rule set has the prelude of its tree. -/
theorem draft_prelude (source : List UInt8) {rule : SyntaxTree} (hk : rule.kind = .ruleSet) (name : Option Text) :
    (Site.draft source ⟨rule, name⟩).prelude = rule.ruleSetPrelude? source :=
  if_neg (by rw [hk]; exact nofun)

/-- A rule set has a draft without a prelude if and only if it is malformed. -/
theorem draft_prelude_eq_none_iff (source : List UInt8) {rule : SyntaxTree} (hk : rule.kind = .ruleSet) (name : Option Text) :
    (Site.draft source ⟨rule, name⟩).prelude = none ↔ rule.Malformed := by
  rw [draft_prelude source hk, ruleSetPrelude?_eq_none_iff]

/-- A way leads to the tree at its address. -/
theorem subtree?_of_reaches {t d : SyntaxTree} {p : Address} (h : Reaches t p d) : t.subtree? p = some d := by
  induction h with
  | here h => rfl
  | down h ho hr ih => simp [subtree?, ho.1, ih]

/-- Below any place the flags are right too. -/
theorem ErrorsMarked.of_subtree? {root t : SyntaxTree} {p : Address} (h : root.ErrorsMarked) (ht : root.subtree? p = some t) :
    t.ErrorsMarked := by
  intro q d hd
  refine h (p ++ q) d ?_
  rw [subtree?_append, ht]
  exact hd

/-- Where the flags are right, they can be looked at in the place of the defects. -/
theorem malformed_iff_of_errorsMarked {rule : SyntaxTree} (h : rule.ErrorsMarked) :
    rule.Malformed ↔ rule.childOf? .selectors = none ∨ ∃ c ∈ rule.children, c.kind ≠ .block ∧ c.HasDefect := by
  refine or_congr_right (exists_congr fun c => and_congr_right fun hc => and_congr_right fun _ => ?_)
  obtain ⟨i, hi⟩ := List.getElem?_of_mem hc
  have hflag : c.label.hasError = true ↔ c.HasDefect := by
    refine h [i] c ?_
    simp [subtree?, hi]
  rw [hflag]
  exact or_iff_right_of_imp fun hdefect => ⟨[], c, rfl, hdefect⟩

/-! ## Looking for defects -/

theorem hasDefect_iff {t : SyntaxTree} : t.HasDefect ↔ ∃ e ∈ t.places, e.2.IsDefect := by
  simp only [HasDefect, Prod.exists, mem_places_iff]

theorem errorsMarked_iff {t : SyntaxTree} : t.ErrorsMarked ↔ ∀ e ∈ t.places, (e.2.label.hasError = true ↔ e.2.HasDefect) := by
  simp only [ErrorsMarked, Prod.forall, mem_places_iff]

instance (t : SyntaxTree) : Decidable t.IsDefect := inferInstanceAs (Decidable (_ ∨ _))

instance (t : SyntaxTree) : Decidable t.HasDefect := decidable_of_iff _ hasDefect_iff.symm

instance (t : SyntaxTree) : Decidable t.ErrorsMarked := decidable_of_iff _ errorsMarked_iff.symm

/-! ## Trees that differ in a flag -/

end SyntaxTree

/-- What is known of a node apart from its flag. -/
def SyntaxLabel.unflagged (label : SyntaxLabel) : SyntaxLabel := { label with hasError := false }

namespace SyntaxTree

/-- The roots of two trees differ in the flag at most. -/
def Twin (t u : SyntaxTree) : Prop := t.label.unflagged = u.label.unflagged

namespace Twin

variable {t u : SyntaxTree}

/-- What does not depend on the flag is the same for both. -/
theorem congr {α : Type} (f : SyntaxLabel → α) (hf : ∀ label : SyntaxLabel, f label.unflagged = f label) (h : t.Twin u) :
    f t.label = f u.label := by
  rw [← hf t.label, ← hf u.label, show t.label.unflagged = u.label.unflagged from h]

theorem kind_eq (h : t.Twin u) : t.kind = u.kind := h.congr SyntaxLabel.kind fun _ => rfl

theorem named_eq (h : t.Twin u) : t.label.named = u.label.named := h.congr SyntaxLabel.named fun _ => rfl

theorem line_eq (h : t.Twin u) : t.line = u.line := h.congr (·.row + 1) fun _ => rfl

theorem text_eq (source : List UInt8) (h : t.Twin u) : t.text source = u.text source :=
  h.congr (fun label => Utf8.decodeTolerant (slice source label.start label.stop)) fun _ => rfl

end Twin

/-! ## Mending -/

/-- A rule set whose prelude is malformed, and the same rule set with a sound prelude that has some number of selectors: its place and
its block are the same. -/
structure Repairs (k : Nat) (bad good : SyntaxTree) : Prop where
  ruleSet : bad.kind = .ruleSet
  twin : bad.Twin good
  block : bad.childOf? .block = good.childOf? .block
  malformed : bad.Malformed
  sound : ¬good.Malformed
  selectors : ∃ list, good.childOf? .selectors = some list ∧ list.selectorsIn.length = k

/-- Two trees that are the same but for one rule set that a way leads to, whose prelude is repaired, and for the flags above it. -/
inductive Mended (k : Nat) (bad good : SyntaxTree) : SyntaxTree → SyntaxTree → Prop
  | here (h : Repairs k bad good) : Mended k bad good bad good
  | down {label label' : SyntaxLabel} {before after : List SyntaxTree} {c c' : SyntaxTree} (hlabel : label.unflagged = label'.unflagged)
      (hsound : ¬(node label (before ++ c :: after)).IsIgnored) (ho : (node label (before ++ c :: after)).Opens before.length c)
      (h : Mended k bad good c c') : Mended k bad good (node label (before ++ c :: after)) (node label' (before ++ c' :: after))

variable (source : List UInt8) {k : Nat} {bad good t u : SyntaxTree}

/-- What two such trees differ in is a repaired rule set. -/
theorem Mended.repairs (h : Mended k bad good t u) : Repairs k bad good := by
  induction h with
  | here h => exact h
  | down _ _ _ _ ih => exact ih

/-- Their roots are twins. -/
theorem Mended.twin (h : Mended k bad good t u) : t.Twin u := by
  cases h with
  | here h => exact h.twin
  | down hlabel _ _ _ => exact hlabel

/-! ## What stays the same -/

/-- The text of the first child of a kind is the same when a child is replaced by its twin. -/
theorem childOf?_text_of_twin (kind : SyntaxKind) (label label' : SyntaxLabel) (before after : List SyntaxTree)
    (h : t.Twin u) :
    ((node label (before ++ t :: after)).childOf? kind).map (·.text source) =
      ((node label' (before ++ u :: after)).childOf? kind).map (·.text source) := by
  simp only [childOf?, children, List.find?_append, List.find?_cons, ← h.kind_eq]
  cases before.find? (·.kind == kind) with
  | some found => rfl
  | none =>
    cases t.kind == kind with
    | true => exact congrArg some (h.text_eq source)
    | false => rfl

/-- Above the rule set only a child is changed, the one that the way goes through. -/
theorem Mended.exists_down (h : Mended k bad good t u) (hk : t.kind ≠ .ruleSet) :
    ∃ label label' before after c c', t = node label (before ++ c :: after) ∧ u = node label' (before ++ c' :: after) ∧
      Mended k bad good c c' := by
  cases h with
  | here h => exact absurd h.ruleSet hk
  | @down label label' before after c c' _ _ _ h => exact ⟨label, label', before, after, c, c', rfl, rfl, h⟩

/-- The name that a declaration gives a property is not touched. -/
theorem Mended.propertyName_eq (h : Mended k bad good t u) (hk : t.kind = .declaration) :
    (t.childOf? .propertyName).map (·.text source) = (u.childOf? .propertyName).map (·.text source) := by
  obtain ⟨label, label', before, after, c, c', rfl, rfl, hc⟩ := h.exists_down (by rw [hk]; exact nofun)
  exact childOf?_text_of_twin source _ _ _ _ _ hc.twin

/-- The properties that a block declares are not touched. -/
theorem Mended.declaredProperties_eq (h : Mended k bad good t u) (hk : t.kind = .block) :
    declaredProperties source t = declaredProperties source u := by
  obtain ⟨label, label', before, after, c, c', rfl, rfl, hc⟩ := h.exists_down (by rw [hk]; exact nofun)
  have hnamed := hc.twin.named_eq
  have hkind := hc.twin.kind_eq
  simp only [declaredProperties, namedChildren, children, List.filter_append, List.filter_cons, List.filterMap_append, ← hnamed]
  cases c.label.named with
  | false => rfl
  | true =>
    simp only [if_true, List.filter_cons, ← hkind]
    by_cases hdeclaration : c.kind = .declaration
    · have hname := hc.propertyName_eq source hdeclaration
      simp only [hdeclaration, beq_self_eq_true, if_true, List.filterMap_cons, hname]
    · simp only [beq_eq_false_iff_ne.mpr hdeclaration, Bool.false_eq_true, if_false]

/-- A way leaves a rule set for its first block. -/
theorem block_of_opens {label : SyntaxLabel} {before after : List SyntaxTree} {c : SyntaxTree} (hk : label.kind = .ruleSet)
    (ho : (node label (before ++ c :: after)).Opens before.length c) :
    c.kind = .block ∧ ∀ d ∈ before, d.kind ≠ .block := by
  obtain ⟨-, ho⟩ := ho
  simp only [kind, SyntaxTree.label, hk] at ho
  refine ⟨ho.1, ?_⟩
  intro d hd
  obtain ⟨i, hi⟩ := List.getElem?_of_mem hd
  have hlt : i < before.length := (List.getElem?_eq_some_iff.mp hi).1
  refine ho.2 i hlt d ?_
  simp only [children]
  rw [List.getElem?_append_left hlt]
  exact hi

/-- A way does not leave a keyframe block. -/
theorem not_keyframeBlock_of_opens {i : Nat} {c : SyntaxTree} (ho : t.Opens i c) : t.kind ≠ .keyframeBlock := by
  intro hk
  have hopens := ho.2
  rw [hk] at hopens
  exact hopens

/-- A way leaves a tree that is no rule set for a child that is more than punctuation. -/
theorem named_of_opens {i : Nat} {c : SyntaxTree} (hk : t.kind ≠ .ruleSet) (ho : t.Opens i c) : c.label.named = true := by
  have hopens := ho.2
  split at hopens
  · rename_i h
    exact absurd h hk
  · exact hopens.elim
  · exact hopens

theorem childOf?_block_eq {label : SyntaxLabel} {before after : List SyntaxTree} {c : SyntaxTree} (hk : c.kind = .block)
    (hbefore : ∀ d ∈ before, d.kind ≠ .block) : (node label (before ++ c :: after)).childOf? .block = some c := by
  have hnone : before.find? (·.kind == .block) = none := by simpa using hbefore
  simp [childOf?, children, hnone, hk]

/-- The draft of a rule set above the mended one is not touched. What is changed stands in its first block. -/
theorem Mended.draft_eq {label label' : SyntaxLabel} {before after : List SyntaxTree} {c c' : SyntaxTree}
    (hlabel : label.unflagged = label'.unflagged) (hk : label.kind = .ruleSet)
    (ho : (node label (before ++ c :: after)).Opens before.length c) (h : Mended k bad good c c') (atRule : Option Text) :
    Site.draft source ⟨node label (before ++ c :: after), atRule⟩ = Site.draft source ⟨node label' (before ++ c' :: after), atRule⟩ := by
  obtain ⟨hblock, hbefore⟩ := block_of_opens hk ho
  have hblock' : c'.kind = .block := h.twin.kind_eq ▸ hblock
  have htwin : (node label (before ++ c :: after)).Twin (node label' (before ++ c' :: after)) := hlabel
  have hselectors : (node label (before ++ c :: after)).childOf? .selectors = (node label' (before ++ c' :: after)).childOf? .selectors := by
    simp [childOf?, children, hblock, hblock']
  have hmalformed : (node label (before ++ c :: after)).hasMalformedPrelude = (node label' (before ++ c' :: after)).hasMalformedPrelude := by
    simp [hasMalformedPrelude, children, hblock, hblock']
  have hproperties : (node label (before ++ c :: after)).properties source = (node label' (before ++ c' :: after)).properties source := by
    simp only [properties, childOf?_block_eq hblock hbefore, childOf?_block_eq hblock' hbefore]
    exact h.declaredProperties_eq source hblock
  have hkeyframe : (node label (before ++ c :: after)).kind ≠ .keyframeBlock := not_keyframeBlock_of_opens ho
  simp only [Site.draft, ruleSetPrelude?, ← htwin.kind_eq, if_neg hkeyframe, hselectors, hmalformed, hproperties, htwin.line_eq]

/-- The name that an at-rule gives is not touched: it is read off the source that the first child covers. -/
theorem Mended.atRuleName?_eq (h : Mended k bad good t u) : t.atRuleName? source = u.atRuleName? source := by
  have htwin := h.twin
  cases h with
  | here h =>
    have hbad : bad.kind ≠ .atRule := by rw [h.ruleSet]; exact nofun
    have hgood : good.kind ≠ .atRule := h.twin.kind_eq ▸ hbad
    unfold atRuleName?
    rw [if_neg hbad, if_neg hgood]
  | @down label label' before after c c' _ _ _ hc =>
    unfold atRuleName?
    rw [← htwin.kind_eq]
    cases before with
    | nil => simp only [children, List.nil_append, hc.twin.text_eq source]
    | cons first before => rfl

/-! ## Drafts of a mended tree -/

/-- Without the repair there is no prelude. -/
theorem Repairs.prelude_eq_none (h : Repairs k bad good) (name : Option Text) : (Site.draft source ⟨bad, name⟩).prelude = none :=
  (draft_prelude_eq_none_iff source h.ruleSet name).mpr h.malformed

/-- The sound rule set of a repair has a prelude with all its selectors. -/
theorem Repairs.exists_prelude (h : Repairs k bad good) (name : Option Text) :
    ∃ p, (Site.draft source ⟨good, name⟩).prelude = some p ∧ p.selectors.length = k := by
  obtain ⟨list, hlist, hsize⟩ := h.selectors
  obtain ⟨p, hp, hselectors⟩ := exists_ruleSetPrelude? source h.sound hlist
  exact ⟨p, (draft_prelude source (h.twin.kind_eq ▸ h.ruleSet) name).trans hp, hselectors.trans hsize⟩

/-- Both rule sets declare the same properties. -/
theorem Repairs.properties_eq (h : Repairs k bad good) : good.properties source = bad.properties source := by
  unfold properties
  rw [h.block]

theorem sitesInBlock_eq_find? (outer : Option Text) (children : List SyntaxTree) :
    sitesInBlock source outer children = (children.find? (·.kind == .block)).toList.flatMap fun c => c.sites source outer := by
  induction children with
  | nil => rfl
  | cons c rest ih =>
    rw [sitesInBlock, List.find?_cons]
    by_cases h : c.kind = .block
    · simp [h]
    · rw [if_neg h, ih, beq_eq_false_iff_ne.mpr h]

/-- The rules of a rule set are itself and those in its block. -/
theorem sites_ruleSet (hk : t.kind = .ruleSet) (outer : Option Text) :
    t.sites source outer = ⟨t, outer⟩ :: (t.childOf? .block).toList.flatMap fun c => c.sites source outer := by
  obtain ⟨label, children⟩ := t
  have hk : label.kind = .ruleSet := hk
  simp only [sites, hk, sitesInBlock_eq_find?]
  rfl

/-- What stands in a tree that is neither ignored nor a rule is found child by child. -/
theorem sites_of_not_isRule {label : SyntaxLabel} {children : List SyntaxTree} (hsound : ¬(node label children).IsIgnored)
    (hrule : ¬(node label children).IsRule) (outer : Option Text) :
    (node label children).sites source outer = sitesIn source (((node label children).atRuleName? source).or outer) children := by
  cases hk : label.kind <;> simp_all [sites, IsIgnored, IsRule, kind, SyntaxTree.label]

theorem sitesIn_append_cons (outer : Option Text) (before after : List SyntaxTree) {c : SyntaxTree} (hnamed : c.label.named = true) :
    sitesIn source outer (before ++ c :: after) =
      sitesIn source outer before ++ (c.sites source outer ++ sitesIn source outer after) := by
  rw [sitesIn_append, sitesIn, if_pos hnamed]

/-- The drafts of the mended tree are those of the other, but for one. The induction follows the way to the rule set: a rule set on the
way has a draft of its own in front, any other tree has the drafts of the children on both sides. -/
theorem Mended.drafts_eq (h : Mended k bad good t u) (outer : Option Text) :
    ∃ before name after,
      (t.sites source outer).map (·.draft source) = before ++ Site.draft source ⟨bad, name⟩ :: after ∧
      (u.sites source outer).map (·.draft source) = before ++ Site.draft source ⟨good, name⟩ :: after := by
  induction h generalizing outer with
  | here h =>
    refine ⟨[], outer, ((bad.childOf? .block).toList.flatMap fun c => c.sites source outer).map (·.draft source), ?_, ?_⟩
    · rw [sites_ruleSet source h.ruleSet]
      rfl
    · rw [sites_ruleSet source (h.twin.kind_eq ▸ h.ruleSet), ← h.block]
      rfl
  | @down label label' before after c c' hlabel hsound ho hc ih =>
    have hwhole : Mended k bad good _ _ := .down hlabel hsound ho hc
    have hkind := hwhole.twin.kind_eq
    by_cases hk : (node label (before ++ c :: after)).kind = .ruleSet
    · obtain ⟨hblock, hbefore⟩ := block_of_opens hk ho
      have hblock' : c'.kind = .block := hc.twin.kind_eq ▸ hblock
      obtain ⟨first, name, last, hdrafts, hdrafts'⟩ := ih outer
      refine ⟨Site.draft source ⟨node label (before ++ c :: after), outer⟩ :: first, name, last, ?_, ?_⟩
      · rw [sites_ruleSet source hk, childOf?_block_eq hblock hbefore]
        simp [hdrafts]
      · rw [sites_ruleSet source (hkind ▸ hk), childOf?_block_eq hblock' hbefore, hc.draft_eq source hlabel hk ho]
        simp [hdrafts']
    · have hrule : ¬(node label (before ++ c :: after)).IsRule := not_or.mpr ⟨hk, not_keyframeBlock_of_opens ho⟩
      have hsound' : ¬(node label' (before ++ c' :: after)).IsIgnored := by rwa [IsIgnored, ← hkind]
      have hrule' : ¬(node label' (before ++ c' :: after)).IsRule := by rwa [IsRule, ← hkind]
      have hnamed := named_of_opens hk ho
      have hnamed' : c'.label.named = true := hc.twin.named_eq ▸ hnamed
      rw [sites_of_not_isRule source hsound hrule, sites_of_not_isRule source hsound' hrule', ← hwhole.atRuleName?_eq source,
        sitesIn_append_cons source _ _ _ hnamed, sitesIn_append_cons source _ _ _ hnamed']
      generalize ((node label (before ++ c :: after)).atRuleName? source).or outer = inner
      obtain ⟨first, name, last, hdrafts, hdrafts'⟩ := ih inner
      refine ⟨(sitesIn source inner before).map (·.draft source) ++ first, name,
        last ++ (sitesIn source inner after).map (·.draft source), ?_, ?_⟩
      · simp [hdrafts]
      · simp [hdrafts']

end SyntaxTree

/-! ## Arenas -/

theorem Node.raised_raised (j k : Nat) (n : Node) : (n.raised j).raised k = n.raised (j + k) := by
  simp [Node.raised, Nat.add_assoc]

theorem Rule.raised_raised (j k : Nat) (r : Rule) : (r.raised j).raised k = r.raised (j + k) := by
  simp [Rule.raised, Function.comp_def, Node.raised_raised]

theorem Rule.flatMap_nodes_raised (k : Nat) (rules : List Rule) :
    (rules.map (·.raised k)).flatMap Rule.nodes = (rules.flatMap Rule.nodes).map (·.raised k) := by
  rw [List.flatMap_map, List.map_flatMap]
  exact List.flatMap_congr fun r _ => r.nodes_raised k

/-- The rules of an arena behind one draft have their numbers raised by what stands before them, this draft included. -/
theorem Arena.rules_ofDrafts_append_cons (before after : List Draft) (d : Draft) :
    (ofDrafts (before ++ d :: after)).rules =
      (ofDrafts before).rules ++ d.numbered (ofDrafts before).nodes.length ::
        (ofDrafts after).rules.map
          (·.raised ((ofDrafts before).nodes.length + (d.numbered (ofDrafts before).nodes.length).nodes.length)) := by
  have h := foldl_place_followedBy ((ofDrafts before).place d) {} after
  rw [followedBy_empty] at h
  have hsplit : ofDrafts (before ++ d :: after) = ((ofDrafts before).place d).followedBy (ofDrafts after) := by
    rw [ofDrafts, List.foldl_append, List.foldl_cons]
    exact h
  rw [hsplit, place_eq]
  simp [followedBy]

/-- A rule without a prelude takes no numbers. -/
theorem Draft.numbered_of_none {d : Draft} (h : d.prelude = none) (first : Nat) :
    (d.numbered first).list = none ∧ (d.numbered first).selectors = [] ∧ (d.numbered first).nodes = [] := by
  simp [Draft.numbered, Rule.nodes, h]

/-- A rule with a prelude takes one number for its list and one for each selector. -/
theorem Draft.numbered_of_some {d : Draft} {p : Prelude} (h : d.prelude = some p) (first : Nat) :
    (d.numbered first).list.isSome = true ∧ (d.numbered first).selectors.length = p.selectors.length ∧
      (d.numbered first).nodes.length = 1 + p.selectors.length := by
  simp [Draft.numbered, Rule.nodes, Fragment.numbered, h, Nat.add_comm]

/-- When a draft without a prelude is replaced by one with a prelude, the rules behind it are raised by what has come in. -/
theorem Arena.exists_rules_replaced (before after : List Draft) {d d' : Draft} {p : Prelude} (hd : d.prelude = none)
    (hd' : d'.prelude = some p) :
    ∃ first rulesBefore rulesAfter,
      (ofDrafts (before ++ d :: after)).rules = rulesBefore ++ d.numbered first :: rulesAfter ∧
      (ofDrafts (before ++ d' :: after)).rules =
        rulesBefore ++ d'.numbered first :: rulesAfter.map (·.raised (1 + p.selectors.length)) := by
  obtain ⟨-, -, hnodes⟩ := Draft.numbered_of_none hd (ofDrafts before).nodes.length
  obtain ⟨-, -, hnodes'⟩ := Draft.numbered_of_some hd' (ofDrafts before).nodes.length
  refine ⟨(ofDrafts before).nodes.length, (ofDrafts before).rules,
    (ofDrafts after).rules.map (·.raised (ofDrafts before).nodes.length), ?_, ?_⟩
  · rw [rules_ofDrafts_append_cons, hnodes]
    rfl
  · rw [rules_ofDrafts_append_cons, hnodes', List.map_map]
    simp only [Function.comp_def, Rule.raised_raised]

/-- A rule has no list if and only if its draft has no prelude. -/
theorem Rule.list_eq_none_iff {r : Rule} : r.list = none ↔ r.draft.prelude = none := by
  simp [Rule.draft]

open SyntaxTree

/-! ## Main statement -/

/-- A malformed prelude takes the list from its own rule and nothing else from the stylesheet, in two parts.
1. Where the flags of a tree are right, the rule of a rule set has no list if and only if the rule set has no selectors, or a defect is
   somewhere in what is not its block. The rules are those of the rule sets and keyframe blocks that a way leads to, in their order.
2. Where the malformed prelude of one rule set is repaired, the rules before it are the same, and so are those behind it, with their
   numbers raised by one and the number of selectors. The rule itself keeps its at-rule, its properties and its line; without the repair
   it has no list and no selectors. The nodes are those of the rules. -/
theorem list_missing_iff_and_mended (source : List UInt8) :
    (∀ root : SyntaxTree, root.ErrorsMarked → ∃ addresses : List Address,
      addresses.Pairwise (· < ·) ∧
      (∀ p, p ∈ addresses ↔ ∃ t, Reaches root p t ∧ (t.kind = .ruleSet ∨ t.kind = .keyframeBlock)) ∧
      List.Forall₂
        (fun p r => ∃ t, Reaches root p t ∧ (t.kind = .ruleSet ∨ t.kind = .keyframeBlock) ∧
          (t.kind = .ruleSet →
            (r.list = none ↔ t.childOf? .selectors = none ∨ ∃ c ∈ t.children, c.kind ≠ .block ∧ c.HasDefect)))
        addresses (Arena.ofTree source root).rules) ∧
    ∀ (k : Nat) (bad good root root' : SyntaxTree), Mended k bad good root root' →
      ∃ before rule rule' after,
        (Arena.ofTree source root).rules = before ++ rule :: after ∧
        (Arena.ofTree source root').rules = before ++ rule' :: after.map (·.raised (1 + k)) ∧
        (Arena.ofTree source root).nodes = before.flatMap Rule.nodes ++ after.flatMap Rule.nodes ∧
        (Arena.ofTree source root').nodes =
          before.flatMap Rule.nodes ++ (rule'.nodes ++ (after.flatMap Rule.nodes).map (·.raised (1 + k))) ∧
        rule.list = none ∧ rule.selectors = [] ∧ rule'.list.isSome = true ∧ rule'.selectors.length = k ∧
        rule'.atRule = rule.atRule ∧ rule'.properties = rule.properties ∧ rule'.line = rule.line ∧
        rule.draft = Site.draft source ⟨bad, rule.atRule⟩ ∧ rule'.draft = Site.draft source ⟨good, rule.atRule⟩ := by
  constructor
  · intro root hmarked
    obtain ⟨addresses, hl⟩ := SiteAux.exists_lists source root
    refine ⟨addresses, hl.ordered, hl.complete, ?_⟩
    have hdrafts : (Arena.ofTree source root).rules.map Rule.draft = (root.sites source none).map (·.draft source) :=
      Arena.rules_foldl_place {} _
    have hsites : List.Forall₂
        (fun p d => ∃ t, Reaches root p t ∧ (t.kind = .ruleSet ∨ t.kind = .keyframeBlock) ∧ (t.kind = .ruleSet →
          (d.prelude = none ↔ t.childOf? .selectors = none ∨ ∃ c ∈ t.children, c.kind ≠ .block ∧ c.HasDefect)))
        addresses ((root.sites source none).map (·.draft source)) := by
      rw [List.forall₂_map_right_iff]
      refine (hl.matched none).imp fun p site hs => ?_
      obtain ⟨hreach, hrule, -⟩ := hs
      refine ⟨site.tree, hreach, hrule, fun hk => ?_⟩
      rw [draft_prelude_eq_none_iff source hk, malformed_iff_of_errorsMarked (hmarked.of_subtree? (subtree?_of_reaches hreach))]
    rw [← hdrafts, List.forall₂_map_right_iff] at hsites
    refine hsites.imp fun p r hr => ?_
    simpa only [Rule.list_eq_none_iff] using hr
  · intro k bad good root root' h
    have hrepairs := h.repairs
    obtain ⟨before, name, after, hdrafts, hdrafts'⟩ := h.drafts_eq source none
    have hbare := hrepairs.prelude_eq_none source name
    obtain ⟨p, hp, rfl⟩ := hrepairs.exists_prelude source name
    obtain ⟨first, rulesBefore, rulesAfter, hrules, hrules'⟩ := Arena.exists_rules_replaced before after hbare hp
    rw [← hdrafts] at hrules
    rw [← hdrafts'] at hrules'
    obtain ⟨hlist, hselectors, hnodes⟩ := Draft.numbered_of_none hbare first
    obtain ⟨hlist', hselectors', -⟩ := Draft.numbered_of_some hp first
    refine ⟨_, _, _, _, hrules, hrules', ?_, ?_, hlist, hselectors, hlist', hselectors', rfl, ?_, ?_, Draft.draft_numbered _ _,
      Draft.draft_numbered _ _⟩
    · have hshared := (Arena.ofTree_partitioned source root).shared
      rw [← hshared, Arena.ofTree, drafts, hrules, List.flatMap_append, List.flatMap_cons, hnodes]
      rfl
    · have hshared := (Arena.ofTree_partitioned source root').shared
      rw [← hshared, Arena.ofTree, drafts, hrules', List.flatMap_append, List.flatMap_cons, Rule.flatMap_nodes_raised]
    · exact hrepairs.properties_eq source
    · exact hrepairs.twin.line_eq.symm

namespace BrokenPrelude

/-- The source of a rule with a defect in its block, and of a rule with a defect before its block and another rule in it. -/
def source : List UInt8 := Utf8.encode "a{$}b,c{d{}}".toList

/-- A part of the source, with its flag. -/
def part (kind : SyntaxKind) (hasError : Bool) (start stop : Nat) (children : List SyntaxTree) : SyntaxTree :=
  .node { kind := kind, hasError := hasError, start := start, stop := stop, row := 0 } children

/-- The first rule. -/
def first : SyntaxTree :=
  part .ruleSet true 0 4 [part .selectors false 0 1 [part .other false 0 1 []], part .block true 1 4 [part .error true 2 3 []]]

/-- The block of the second rule. -/
def block : SyntaxTree :=
  part .block false 7 12 [part .ruleSet false 8 11 [part .selectors false 8 9 [part .other false 8 9 []], part .block false 9 11 []]]

/-- The second rule, with a defect two levels below its selectors. -/
def bad : SyntaxTree := part .ruleSet true 4 12 [part .selectors true 4 7 [part .other true 4 7 [part .error true 5 6 []]], block]

/-- The second rule, with two selectors. -/
def good : SyntaxTree :=
  part .ruleSet false 4 12 [part .selectors false 4 7 [part .other false 4 5 [], part .comment false 5 6 [], part .other false 6 7 []], block]

/-- The whole, with one of the two as the second rule. -/
def root (second : SyntaxTree) : SyntaxTree := part .other true 0 12 [first, second]

theorem repairs : SyntaxTree.Repairs 2 bad good where
  ruleSet := rfl
  twin := rfl
  block := rfl
  malformed := (SyntaxTree.ruleSetPrelude?_eq_none_iff source).mp (by decide)
  sound := fun h => absurd ((SyntaxTree.ruleSetPrelude?_eq_none_iff source).mpr h) (by decide)
  selectors := ⟨_, rfl, rfl⟩

end BrokenPrelude

open BrokenPrelude in
/-- A stylesheet with a defect in the block of its first rule and one before the block of its second. The first keeps its list and the
second has none, although the defect is two levels below its selectors; and when the second is repaired, the rule in its block has the
numbers five and six instead of two and three. -/
theorem list_missing_iff_and_mended_of_brokenPrelude :
    (root bad).ErrorsMarked ∧ SyntaxTree.Mended 2 bad good (root bad) (root good) ∧
      (∃ addresses, List.Forall₂
        (fun p r => ∃ t, SyntaxTree.Reaches (root bad) p t ∧ (t.kind = .ruleSet →
          (r.list = none ↔ t.childOf? .selectors = none ∨ ∃ c ∈ t.children, c.kind ≠ .block ∧ c.HasDefect)))
        addresses (Arena.ofTree source (root bad)).rules) ∧
      (Arena.ofTree source (root bad)).rules.map (fun r => r.nodes.map (·.index)) = [[0, 1], [], [2, 3]] ∧
      (∃ before rule rule' after,
        (Arena.ofTree source (root bad)).rules = before ++ rule :: after ∧
        (Arena.ofTree source (root good)).rules = before ++ rule' :: after.map (·.raised 3) ∧
        rule.list = none ∧ rule'.selectors.length = 2 ∧ rule'.draft = Site.draft source ⟨good, rule.atRule⟩) ∧
      (Arena.ofTree source (root good)).rules.map (fun r => r.nodes.map (·.index)) = [[0, 1], [2, 3, 4], [5, 6]] := by
  have hmarked : (root bad).ErrorsMarked := by decide
  have hmended : SyntaxTree.Mended 2 bad good (root bad) (root good) := by
    show SyntaxTree.Mended 2 bad good (.node _ ([first] ++ bad :: [])) (.node _ ([first] ++ good :: []))
    exact .down rfl (not_or.mpr ⟨nofun, nofun⟩) ⟨rfl, rfl⟩ (.here repairs)
  obtain ⟨hlists, hnumbers⟩ := list_missing_iff_and_mended source
  refine ⟨hmarked, hmended, ?_, by decide, ?_, by decide⟩
  · obtain ⟨addresses, -, -, h⟩ := hlists _ hmarked
    exact ⟨addresses, h.imp fun p r ⟨t, hreach, _, hlist⟩ => ⟨t, hreach, hlist⟩⟩
  · obtain ⟨before, rule, rule', after, hrules, hrules', -, -, hlist, -, -, hsize, -, -, -, -, hdraft⟩ := hnumbers _ _ _ _ _ hmended
    exact ⟨before, rule, rule', after, hrules, hrules', hlist, hsize, hdraft⟩

end CriticalCss

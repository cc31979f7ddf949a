import CriticalCss.Proofs.Forcing
import CriticalCss.Proofs.Mending
import CriticalCss.Proofs.Uncovered
import CriticalCss.Proofs.Words

/-!
# Texts in the arena

Every text in the arena of a tree is in canonical form, whichever way it came there. The text of a selector and that of the list of a rule
set are canonical forms of source text. The list of a keyframe block is put together of its offsets, with a comma and a space between each
two of them, and what is put together is not brought into canonical form again; it is in canonical form already, as long as no offset is
empty (`collapse_joinWith`). Placing a draft adds the texts of the draft (`Arena.place_canonical`), so a run of placings keeps an arena
canonical. In such an arena trimming changes nothing, and the patterns of a caller see the texts as they stand there
(`node_texts_canonical`).
-/

namespace CriticalCss

open SyntaxTree SiteAux

/-! ## Texts put together -/

/-- Pieces in canonical form with commas between them are in canonical form, if none of them is empty. -/
theorem collapse_joinWith {pieces : List Text} (h : ∀ p ∈ pieces, Text.collapse p = p ∧ p ≠ []) :
    Text.collapse (Text.joinWith [',', ' '] pieces) = Text.joinWith [',', ' '] pieces := by
  have hwords : ∀ t : Text, t ≠ [] → Text.collapse t = t → Text.words t ≠ [] := by
    intro t hne hcanonical hnone
    rw [Text.collapse, hnone] at hcanonical
    exact hne hcanonical.symm
  induction pieces with
  | nil => rfl
  | cons p pieces ih =>
    rw [List.forall_mem_cons] at h
    obtain ⟨⟨hp, hne⟩, hrest⟩ := h
    cases pieces with
    | nil => simpa [Text.joinWith] using hp
    | cons q pieces =>
      have hjoined : Text.joinWith [',', ' '] (p :: q :: pieces) = (p ++ [',']) ++ ' ' :: Text.joinWith [',', ' '] (q :: pieces) := by
        simp [Text.joinWith, List.intercalate_cons_cons]
      have hmore : Text.joinWith [',', ' '] (q :: pieces) ≠ [] := by
        have hq := (hrest q List.mem_cons_self).2
        cases pieces <;> simp [Text.joinWith, List.intercalate_cons_cons, hq]
      -- a piece ends with no blank, so the comma belongs to its last word
      have hcomma : Text.collapse (p ++ [',']) = p ++ [','] := by
        obtain ⟨c, hlast⟩ := Option.isSome_iff_exists.mp (List.getLast?_isSome.mpr hne)
        have hc : Text.isBlank c = false := (Text.ends_of_collapse_eq hp).2 c hlast
        rw [Text.collapse_append_of_ends hlast hc rfl (by decide), hp]
        rfl
      have hfirst : Text.words (p ++ [',']) ≠ [] := hwords _ (by simp) hcomma
      rw [hjoined, Text.collapse_append_blank (by decide) hfirst (hwords _ hmore (ih hrest)), hcomma, ih hrest]

/-- An empty piece at the end leaves a space behind the last comma. -/
example : Text.collapse (Text.joinWith [',', ' '] [['a'], []]) ≠ Text.joinWith [',', ' '] [['a'], []] := by decide

/-! ## Drafts -/

/-- The texts of a draft are in canonical form. -/
def Draft.Canonical (d : Draft) : Prop := ∀ p, d.prelude = some p → ∀ f ∈ p.list :: p.selectors, Text.collapse f.text = f.text

namespace SyntaxTree

variable (source : List UInt8)

theorem collapse_rendered (t : SyntaxTree) : Text.collapse (t.rendered source) = t.rendered source := Text.collapse_collapse _

/-- The texts of a rule set are canonical forms. -/
theorem ruleSetPrelude?_canonical {rule : SyntaxTree} {p : Prelude} (h : rule.ruleSetPrelude? source = some p) :
    ∀ f ∈ p.list :: p.selectors, Text.collapse f.text = f.text := by
  unfold ruleSetPrelude? at h
  split at h
  · cases h
  · split at h
    · cases h
    · cases h
      intro f hf
      rcases List.mem_cons.mp hf with rfl | hf
      · exact collapse_rendered source _
      · obtain ⟨t, -, rfl⟩ := List.mem_map.mp hf
        exact collapse_rendered source t

/-- The texts of a keyframe block are in canonical form if none of its offsets is empty. -/
theorem keyframePrelude_canonical {block : SyntaxTree}
    (h : ∀ c ∈ block.namedChildren, c.kind ≠ .block → c.kind ≠ .comment → c.rendered source ≠ []) :
    ∀ f ∈ (block.keyframePrelude source).list :: (block.keyframePrelude source).selectors, Text.collapse f.text = f.text := by
  have hoffset : ∀ f ∈ (block.keyframePrelude source).selectors, Text.collapse f.text = f.text ∧ f.text ≠ [] := by
    intro f hf
    obtain ⟨c, hc, rfl⟩ := List.mem_map.mp hf
    obtain ⟨hchild, hkind⟩ := List.mem_filter.mp hc
    have hkinds : c.kind ≠ .block ∧ c.kind ≠ .comment := by simpa using hkind
    exact ⟨collapse_rendered source c, h c hchild hkinds.1 hkinds.2⟩
  intro f hf
  rcases List.mem_cons.mp hf with rfl | hf
  · refine collapse_joinWith ?_
    intro p hp
    obtain ⟨f, hf, rfl⟩ := List.mem_map.mp hp
    exact hoffset f hf
  · exact (hoffset f hf).1

end SyntaxTree

/-- The draft of a site has texts in canonical form, if at a keyframe block no offset is empty. -/
theorem Site.draft_canonical (source : List UInt8) {site : Site}
    (h : site.tree.kind = .keyframeBlock →
      ∀ c ∈ site.tree.namedChildren, c.kind ≠ .block → c.kind ≠ .comment → c.rendered source ≠ []) :
    (site.draft source).Canonical := by
  intro p hp
  by_cases hkind : site.tree.kind = .keyframeBlock
  · have hprelude : (site.draft source).prelude = some (site.tree.keyframePrelude source) := if_pos hkind
    rw [hprelude] at hp
    cases hp
    exact keyframePrelude_canonical source (h hkind)
  · have hprelude : (site.draft source).prelude = site.tree.ruleSetPrelude? source := if_neg hkind
    rw [hprelude] at hp
    exact ruleSetPrelude?_canonical source hp

/-- The drafts of a tree have texts in canonical form, if at the keyframe blocks that a way leads to no offset is empty. -/
theorem SyntaxTree.drafts_canonical (source : List UInt8) {root : SyntaxTree}
    (h : ∀ q block, Reaches root q block → block.kind = .keyframeBlock →
      ∀ c ∈ block.namedChildren, c.kind ≠ .block → c.kind ≠ .comment → c.rendered source ≠ []) :
    ∀ d ∈ root.drafts source, d.Canonical := by
  intro d hd
  obtain ⟨site, hsite, rfl⟩ := List.mem_map.mp hd
  obtain ⟨q, hreach⟩ := exists_reaches_of_mem_sites hsite
  exact Site.draft_canonical source (h q site.tree hreach)

/-! ## Placing -/

namespace Arena

/-- The texts of an arena are in canonical form. -/
def Canonical (a : Arena) : Prop := ∀ n ∈ a.nodes, Text.collapse n.text = n.text

/-- A draft that is placed adds its own texts. -/
theorem place_canonical {a : Arena} {d : Draft} (ha : a.Canonical) (hd : d.Canonical) : (a.place d).Canonical := by
  intro n hn
  rw [place_eq] at hn
  rcases List.mem_append.mp hn with hn | hn
  · exact ha n hn
  · cases hp : d.prelude with
    | none => simp [Draft.numbered, Rule.nodes, hp] at hn
    | some p =>
      have htexts := hd p hp
      simp only [Draft.numbered, Rule.nodes, hp, Option.map_some, Option.toList_some, List.singleton_append, List.mem_cons,
        Fragment.numbered, List.mem_map] at hn
      rcases hn with rfl | ⟨e, he, rfl⟩
      · exact htexts p.list List.mem_cons_self
      · exact htexts e.1 (List.mem_cons_of_mem _ (List.fst_mem_of_mem_zipIdx he))

theorem foldl_place_canonical {a : Arena} {drafts : List Draft} (ha : a.Canonical) (h : ∀ d ∈ drafts, d.Canonical) :
    (drafts.foldl place a).Canonical := by
  induction drafts generalizing a with
  | nil => exact ha
  | cons d drafts ih =>
    rw [List.forall_mem_cons] at h
    exact ih (place_canonical ha h.1) h.2

end Arena

/-! ## Main statement -/

/-- Exact texts select a text if it is one of them. -/
theorem Pattern.anySelects_literal_iff [Host] {values : List Text} {t : Text} :
    anySelects (values.map .literal) t = true ↔ t ∈ values := by
  simp [anySelects, selects]

/-- The texts in the arena of a tree in which no keyframe block that a way leads to has an empty offset, in four parts.
1. Each is in canonical form.
2. Trimming changes none of them.
3. So a selector is judged by its text as it stands in the arena.
4. Patterns for exact texts are compared with that text itself. -/
theorem node_texts_canonical [Host] (source : List UInt8) (root : SyntaxTree)
    (h : ∀ q block, Reaches root q block → block.kind = .keyframeBlock →
      ∀ c ∈ block.namedChildren, c.kind ≠ .block → c.kind ≠ .comment → c.rendered source ≠ []) :
    ∀ n ∈ (Arena.ofTree source root).nodes,
      Text.collapse n.text = n.text ∧ Text.trim n.text = n.text ∧
      (∀ force, Selector.classify force n.text = (Selector.verdict force n.text).classification n.text) ∧
      ∀ keep drop : List Text, Selector.classify ⟨keep.map .literal, drop.map .literal⟩ n.text =
        if n.text ∈ keep then .keep else if n.text ∈ drop then .drop else Selector.classify {} n.text := by
  have hcanonical : (Arena.ofTree source root).Canonical :=
    Arena.foldl_place_canonical (fun n hn => absurd hn List.not_mem_nil) (drafts_canonical source h)
  intro n hn
  have htrim : Text.trim n.text = n.text := Text.trim_of_collapse_eq (hcanonical n hn)
  refine ⟨hcanonical n hn, htrim, ?_, ?_⟩
  · intro force
    rw [Selector.classify, htrim]
  · intro keep drop
    rw [Selector.classify_eq, htrim]
    simp only [Pattern.anySelects_literal_iff]

namespace Keyframed

open SyntaxTree.Commented (part)

/-- A source with a comment and a tab in a selector, and with keyframes behind it. -/
def source : List UInt8 := Utf8.encode "a /*b*/\tc\x7b\x7d@keyframes d\x7bfrom ,50%\x7b\x7d\x7d".toList

/-- A keyframe block with two offsets and a comma. -/
def block : SyntaxTree :=
  part .keyframeBlock 24 35
    [part .other 24 28 [], .node { kind := .other, named := false, start := 29, stop := 30, row := 0 } [], part .other 30 33 [],
      part .block 33 35 []]

/-- The tree of the source. -/
def root : SyntaxTree :=
  part .other 0 36
    [part .ruleSet 0 11 [part .selectors 0 9 [part .other 0 9 [part .comment 2 7 []]], part .block 9 11 []],
      part .atRule 11 36 [part .other 11 21 [], part .block 23 36 [block]]]

end Keyframed

open Host.Plain Keyframed in
/-- The list of a keyframe block is put together of offsets that are not empty; trimming leaves it as it stands in the arena, and a pattern
for this text selects it. -/
theorem node_texts_canonical_of_keyframes :
    (∀ q block, Reaches root q block → block.kind = .keyframeBlock →
      ∀ c ∈ block.namedChildren, c.kind ≠ .block → c.kind ≠ .comment → c.rendered source ≠ []) ∧
    (Arena.ofTree source root).nodes.map (·.text) =
      ["a c".toList, "a c".toList, "from, 50%".toList, "from".toList, "50%".toList] ∧
    Text.collapse "from, 50%".toList = "from, 50%".toList ∧ Text.trim "from, 50%".toList = "from, 50%".toList ∧
    Selector.classify ⟨["from".toList].map .literal, ["from, 50%".toList].map .literal⟩ "from, 50%".toList = .drop := by
  have hoffsets : ∀ e ∈ root.places, e.2.kind = .keyframeBlock →
      ∀ c ∈ e.2.namedChildren, c.kind ≠ .block → c.kind ≠ .comment → c.rendered source ≠ [] := by decide +kernel
  have h : ∀ q block, Reaches root q block → block.kind = .keyframeBlock →
      ∀ c ∈ block.namedChildren, c.kind ≠ .block → c.kind ≠ .comment → c.rendered source ≠ [] := by
    intro q block hreach
    exact hoffsets (q, block) (mem_places_iff.mpr (subtree?_of_reaches hreach))
  have hlist : (⟨2, .selectorList, "from, 50%".toList, 1⟩ : Node) ∈ (Arena.ofTree source root).nodes := by decide +kernel
  obtain ⟨hcanonical, htrim, -, hpatterns⟩ := node_texts_canonical source root h _ hlist
  refine ⟨h, by decide +kernel, hcanonical, htrim, ?_⟩
  rw [hpatterns]
  decide

end CriticalCss

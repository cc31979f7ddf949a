import Mathlib.Data.List.Forall2
import Mathlib.Tactic.Choose
import CriticalCss.Proofs.Numbering

/-!
# Where the rules of a tree stand

The rules of a syntax tree, described by the ways that lead to them. A way goes down from the root, one child at a time: from most trees
to any child that is more than punctuation, from a rule set only to its first block, and from a keyframe block nowhere; it enters no
comment and no statement that takes no part (`Reaches`). A rule is collected at each rule set and each keyframe block that such a way
leads to, in the order of the source, under the name of the nearest at-rule above it that has a name (`rules_at_reached_sites`).

The walk over the tree is first brought into one equation for all kinds of trees (`sites_eq`): a site for the root, if it is a rule,
and then the sites of the trees that are entered from it.
-/

namespace CriticalCss

/-- The place of a tree below another: which child to take, again and again. In the order of addresses a tree comes before those below
it, and what is below one child before what is below the next. -/
abbrev Address := List Nat

/-- A place lies above another if the way to the other leads through it. -/
def Address.Above (q p : Address) : Prop := q <+: p ∧ q ≠ p

namespace SyntaxTree

/-- A property that every tree has as soon as its children have it holds of all trees. -/
@[elab_as_elim]
theorem induction {P : SyntaxTree → Prop} (h : ∀ t, (∀ c ∈ t.children, P c) → P t) (t : SyntaxTree) : P t :=
  @SyntaxTree.rec P (fun children => ∀ c ∈ children, P c)
    (fun label children ih => h (.node label children) ih)
    (fun _ hc => absurd hc List.not_mem_nil)
    (fun _ _ ihh iht c hc => (List.mem_cons.mp hc).elim (fun e => e ▸ ihh) (iht c))
    t

/-! ## Ways through a tree -/

/-- Whether a tree says nothing about selectors. -/
def IsIgnored (t : SyntaxTree) : Prop := t.kind = .comment ∨ t.kind = .passive

/-- Whether a rule stands at a tree. -/
def IsRule (t : SyntaxTree) : Prop := t.kind = .ruleSet ∨ t.kind = .keyframeBlock

instance (t : SyntaxTree) : Decidable t.IsRule := inferInstanceAs (Decidable (_ ∨ _))

/-- Whether a way may leave a tree for its child at a position: a rule set for its first block, a keyframe block for no child, any
other tree for every child that is more than punctuation. -/
def Opens (t : SyntaxTree) (i : Nat) (c : SyntaxTree) : Prop :=
  t.children[i]? = some c ∧
    match t.kind with
    | .ruleSet => c.kind = .block ∧ ∀ j < i, ∀ d, t.children[j]? = some d → d.kind ≠ .block
    | .keyframeBlock => False
    | _ => c.label.named = true

/-- A way leads from a tree to the one at an address. -/
inductive Reaches : SyntaxTree → Address → SyntaxTree → Prop
  | here {t : SyntaxTree} (h : ¬t.IsIgnored) : Reaches t [] t
  | down {t c d : SyntaxTree} {i : Nat} {p : Address} (h : ¬t.IsIgnored) (ho : t.Opens i c) (hr : Reaches c p d) :
      Reaches t (i :: p) d

/-- The root is reached unless it is ignored. -/
theorem reaches_nil_iff {t d : SyntaxTree} : Reaches t [] d ↔ ¬t.IsIgnored ∧ d = t := by
  constructor
  · intro h
    cases h with
    | here h => exact ⟨h, rfl⟩
  · rintro ⟨h, rfl⟩
    exact .here h

/-- A way of more steps goes through a child that it may enter. -/
theorem reaches_cons_iff {t d : SyntaxTree} {i : Nat} {p : Address} :
    Reaches t (i :: p) d ↔ ∃ c, ¬t.IsIgnored ∧ t.Opens i c ∧ Reaches c p d := by
  constructor
  · intro h
    cases h with
    | down h ho hr => exact ⟨_, h, ho, hr⟩
  · rintro ⟨c, h, ho, hr⟩
    exact .down h ho hr

/-- A tree where a rule stands is not ignored. -/
theorem IsRule.not_isIgnored {t : SyntaxTree} (h : t.IsRule) : ¬t.IsIgnored := by
  rintro (hi | hi) <;> rcases h with h | h <;> simp [h] at hi

/-! ## Names above a place -/

/-- The tree at an address. -/
def subtree? : SyntaxTree → Address → Option SyntaxTree
  | t, [] => some t
  | t, i :: rest => t.children[i]?.bind fun c => c.subtree? rest

/-- Two ways one after the other. -/
theorem subtree?_append (t : SyntaxTree) (q p : Address) : t.subtree? (q ++ p) = (t.subtree? q).bind fun u => u.subtree? p := by
  induction q generalizing t with
  | nil => rfl
  | cons i q ih =>
    simp only [List.cons_append, subtree?]
    cases t.children[i]? with
    | none => rfl
    | some c => exact ih c

mutual

/-- All addresses in a tree, with the trees there. -/
def places : SyntaxTree → List (Address × SyntaxTree)
  | .node label children => ([], .node label children) :: placesIn 0 children

/-- All addresses in some trees in a row, the first of them at a position. -/
def placesIn : Nat → List SyntaxTree → List (Address × SyntaxTree)
  | _, [] => []
  | i, t :: rest => (places t).map (fun e => (i :: e.1, e.2)) ++ placesIn (i + 1) rest

end

theorem placesIn_eq (i : Nat) (children : List SyntaxTree) :
    placesIn i children = (children.zipIdx i).flatMap fun e => (places e.1).map fun p => (e.2 :: p.1, p.2) := by
  induction children generalizing i with
  | nil => rfl
  | cons t rest ih => rw [placesIn, List.zipIdx_cons, List.flatMap_cons, ih]

/-- The addresses in a tree are those at which there is something. -/
theorem mem_places_iff {t d : SyntaxTree} {q : Address} : (q, d) ∈ t.places ↔ t.subtree? q = some d := by
  induction t using SyntaxTree.induction generalizing q with
  | h t ih =>
    have hplaces : t.places = ([], t) :: placesIn 0 t.children := by
      obtain ⟨label, children⟩ := t
      rfl
    rw [hplaces, placesIn_eq]
    simp only [List.mem_cons, List.mem_flatMap, List.mem_map, Prod.exists, List.mem_zipIdx_iff_getElem?, Prod.mk.injEq]
    cases q with
    | nil => simp [subtree?, eq_comm]
    | cons i q =>
      simp only [subtree?, Option.bind_eq_some_iff, reduceCtorEq, false_and, false_or, List.cons.injEq]
      constructor
      · rintro ⟨c, j, hc, p, e, he, ⟨rfl, rfl⟩, rfl⟩
        exact ⟨c, hc, (ih c (List.mem_of_getElem? hc)).mp he⟩
      · rintro ⟨c, hc, hd⟩
        exact ⟨c, i, hc, q, d, (ih c (List.mem_of_getElem? hc)).mpr hd, ⟨rfl, rfl⟩, rfl⟩

/-- Whether the tree at an address is an at-rule with a name: its first child is an at sign and the name, and the name is not empty. -/
def Carries (source : List UInt8) (root : SyntaxTree) (q : Address) (name : Text) : Prop :=
  ∃ t, root.subtree? q = some t ∧ t.kind = .atRule ∧ name ≠ [] ∧
    ∃ first rest, t.children = first :: rest ∧ first.text source = '@' :: name

/-- The name of the nearest at-rule with a name above a place, if there is any. -/
def NearestName (source : List UInt8) (root : SyntaxTree) (p : Address) : Option Text → Prop
  | none => ∀ q, q.Above p → ∀ name, ¬Carries source root q name
  | some name => ∃ q, q.Above p ∧ Carries source root q name ∧
      ∀ q', q.Above q' → q'.Above p → ∀ other, ¬Carries source root q' other

end SyntaxTree

namespace SiteAux

open SyntaxTree

/-! ## Addresses -/

theorem not_above_nil (q : Address) : ¬q.Above [] := by
  rintro ⟨h, hne⟩
  exact hne (List.prefix_nil.mp h)

theorem nil_above_cons (i : Nat) (p : Address) : Address.Above [] (i :: p) :=
  ⟨List.nil_prefix, List.cons_ne_nil i p ∘ Eq.symm⟩

/-- Two places below the same step lie above each other as they do without it. -/
theorem cons_above_cons {i j : Nat} {q p : Address} : Address.Above (i :: q) (j :: p) ↔ i = j ∧ q.Above p := by
  simp only [Address.Above, List.cons_prefix_cons, ne_eq, List.cons.injEq]
  constructor
  · rintro ⟨⟨rfl, h⟩, hne⟩
    exact ⟨rfl, h, fun e => hne ⟨rfl, e⟩⟩
  · rintro ⟨rfl, h, hne⟩
    exact ⟨⟨rfl, h⟩, fun e => hne e.2⟩

/-- What lies above a place below the first step is the root or lies below the first step too. -/
theorem above_cons {j : Nat} {q p : Address} (h : q.Above (j :: p)) : q = [] ∨ ∃ r : Address, q = j :: r ∧ r.Above p := by
  cases q with
  | nil => exact Or.inl rfl
  | cons i r =>
    obtain ⟨rfl, hr⟩ := cons_above_cons.mp h
    exact Or.inr ⟨r, rfl, hr⟩

/-! ## Names -/

variable {source : List UInt8}

/-- The root carries the name that it gives to what stands in it. -/
theorem carries_nil {t : SyntaxTree} {name : Text} : Carries source t [] name ↔ t.atRuleName? source = some name := by
  obtain ⟨label, children⟩ := t
  constructor
  · rintro ⟨t, ht, hk, hne, first, rest, hc, htext⟩
    cases Option.some.inj ht
    obtain ⟨c, name, rfl⟩ := List.exists_cons_of_ne_nil hne
    unfold atRuleName?
    rw [if_pos hk, hc]
    simp only [htext]
  · intro h
    unfold atRuleName? at h
    split at h
    · rename_i hk
      split at h
      · cases h
      · rename_i first rest hc
        split at h
        · rename_i c name htext
          cases h
          exact ⟨_, rfl, hk, List.cons_ne_nil c name, first, rest, hc, htext⟩
        · cases h
    · cases h

theorem carries_cons {t c : SyntaxTree} {i : Nat} {q : Address} {name : Text} (hc : t.children[i]? = some c) :
    Carries source t (i :: q) name ↔ Carries source c q name := by
  simp [Carries, subtree?, hc]

/-- Seen from one step further up, the nearest name is the same, or that of the new root if there was none. -/
theorem nearestName_cons {t c : SyntaxTree} {i : Nat} {p : Address} {name : Option Text} (hc : t.children[i]? = some c)
    (h : NearestName source c p name) : NearestName source t (i :: p) (name.or (t.atRuleName? source)) := by
  cases name with
  | some name =>
    obtain ⟨q, hq, hcar, hbetween⟩ := h
    refine ⟨i :: q, cons_above_cons.mpr ⟨rfl, hq⟩, (carries_cons hc).mpr hcar, ?_⟩
    intro q' hq' hp other
    rcases above_cons hp with rfl | ⟨r, rfl, hr⟩
    · exact absurd hq' (not_above_nil _)
    · rw [carries_cons hc]
      exact hbetween r (cons_above_cons.mp hq').2 hr other
  | none =>
    rw [Option.none_or]
    cases hn : t.atRuleName? source with
    | none =>
      intro q hq other
      rcases above_cons hq with rfl | ⟨r, rfl, hr⟩
      · rw [carries_nil, hn]
        exact Option.some_ne_none other ∘ Eq.symm
      · rw [carries_cons hc]
        exact h r hr other
    | some name =>
      refine ⟨[], nil_above_cons i p, carries_nil.mpr hn, ?_⟩
      intro q' hq' hp other
      rcases above_cons hp with rfl | ⟨r, rfl, hr⟩
      · exact absurd hq' (not_above_nil _)
      · rw [carries_cons hc]
        exact h r hr other

theorem nearestName_nil (t : SyntaxTree) : NearestName source t [] none :=
  fun q hq => absurd hq (not_above_nil q)

/-! ## The trees that are entered -/

/-- The children that a way may leave a tree for, with their positions. -/
def entered (t : SyntaxTree) : List (SyntaxTree × Nat) :=
  match t.kind with
  | .comment | .passive | .keyframeBlock => []
  | .ruleSet => (t.children.zipIdx.find? (·.1.kind == .block)).toList
  | _ => t.children.zipIdx.filter (·.1.label.named)

/-- The first child of a kind, with its position. -/
theorem find?_zipIdx_eq_some {kind : SyntaxKind} {children : List SyntaxTree} {c : SyntaxTree} {i : Nat} :
    children.zipIdx.find? (·.1.kind == kind) = some (c, i) ↔
      children[i]? = some c ∧ c.kind = kind ∧ ∀ j < i, ∀ d, children[j]? = some d → d.kind ≠ kind := by
  rw [List.find?_eq_some_iff_getElem]
  constructor
  · rintro ⟨hk, k, hk', he, hbefore⟩
    rw [List.getElem_zipIdx, Nat.zero_add] at he
    obtain ⟨rfl, rfl⟩ := Prod.mk.inj he
    rw [List.length_zipIdx] at hk'
    refine ⟨List.getElem?_eq_getElem hk', beq_iff_eq.mp hk, fun j hj d hd => ?_⟩
    obtain ⟨hjl, rfl⟩ := List.getElem?_eq_some_iff.mp hd
    simpa using hbefore j hj
  · rintro ⟨hc, hk, hbefore⟩
    obtain ⟨hi, rfl⟩ := List.getElem?_eq_some_iff.mp hc
    refine ⟨beq_iff_eq.mpr hk, i, by rwa [List.length_zipIdx], by simp, fun j hj => ?_⟩
    have hjl : j < children.length := by omega
    simpa using hbefore j hj _ (List.getElem?_eq_getElem hjl)

/-- The trees that are entered are the children that a way may go through. -/
theorem mem_entered {t c : SyntaxTree} {i : Nat} : (c, i) ∈ entered t ↔ ¬t.IsIgnored ∧ t.Opens i c := by
  unfold entered Opens IsIgnored
  cases hk : t.kind <;> simp [List.mem_zipIdx_iff_getElem?, find?_zipIdx_eq_some]

theorem zipIdx_ordered (children : List SyntaxTree) : children.zipIdx.Pairwise fun a b => a.2 < b.2 := by
  rw [← List.pairwise_map (f := Prod.snd) (R := (· < ·)), List.zipIdx_map_snd]
  exact List.pairwise_lt_range'

/-- The trees that are entered are entered from left to right. -/
theorem entered_ordered (t : SyntaxTree) : (entered t).Pairwise fun a b => a.2 < b.2 := by
  have hall := zipIdx_ordered t.children
  unfold entered
  split
  · exact List.Pairwise.nil
  · exact List.Pairwise.nil
  · exact List.Pairwise.nil
  · cases t.children.zipIdx.find? (·.1.kind == .block) with
    | none => exact List.Pairwise.nil
    | some e => exact List.pairwise_singleton _ e
  · exact hall.filter _

/-! ## The walk as one equation -/

/-- The rules among some children are those of the children that are more than punctuation. -/
theorem sitesIn_eq (outer : Option Text) (children : List SyntaxTree) (k : Nat) :
    sitesIn source outer children =
      ((children.zipIdx k).filter (·.1.label.named)).flatMap fun e => e.1.sites source outer := by
  induction children generalizing k with
  | nil => simp [sitesIn]
  | cons c rest ih =>
    rw [sitesIn, List.zipIdx_cons, List.filter_cons, ih (k + 1)]
    split <;> simp

theorem sitesInBlock_eq (outer : Option Text) (children : List SyntaxTree) (k : Nat) :
    sitesInBlock source outer children =
      ((children.zipIdx k).find? (·.1.kind == .block)).toList.flatMap fun e => e.1.sites source outer := by
  induction children generalizing k with
  | nil => simp [sitesInBlock]
  | cons c rest ih =>
    rw [sitesInBlock, List.zipIdx_cons, List.find?_cons, ih (k + 1)]
    by_cases h : c.kind = .block
    · simp [h]
    · have hb : (c.kind == SyntaxKind.block) = false := beq_eq_false_iff_ne.mpr h
      rw [if_neg h, hb]

/-- The sites of a tree: its own, if a rule stands at it, and then those of the trees that are entered, under its name if it has one. -/
theorem sites_eq (outer : Option Text) (t : SyntaxTree) :
    t.sites source outer = (if t.IsRule then [⟨t, outer⟩] else []) ++
      (entered t).flatMap fun e => e.1.sites source ((t.atRuleName? source).or outer) := by
  obtain ⟨label, children⟩ := t
  cases hk : label.kind with
  | ruleSet =>
    -- a rule set has no name, so what stands in it keeps the name around it
    have hname : (node label children).atRuleName? source = none :=
      if_neg (by simp [SyntaxTree.kind, SyntaxTree.label, hk])
    rw [hname]
    simp [sites, entered, IsRule, SyntaxTree.kind, SyntaxTree.label, SyntaxTree.children, hk, sitesInBlock_eq _ _ 0]
  | _ =>
    simp [sites, entered, IsRule, SyntaxTree.kind, SyntaxTree.label, SyntaxTree.children, hk, sitesIn_eq _ _ 0]

/-! ## Listing the addresses -/

/-- What some addresses have to be for a tree: those of its rules, each once and in the order of the source, so that each site is the
tree at its address under the nearest name above it, or else under the name around the whole tree. -/
structure Lists (source : List UInt8) (t : SyntaxTree) (addresses : List Address) : Prop where
  ordered : addresses.Pairwise (· < ·)
  complete : ∀ p, p ∈ addresses ↔ ∃ d, Reaches t p d ∧ d.IsRule
  matched : ∀ outer, List.Forall₂
    (fun p site => Reaches t p site.tree ∧ site.tree.IsRule ∧ ∃ name, NearestName source t p name ∧ site.atRule = name.or outer)
    addresses (t.sites source outer)

/-- The addresses of the rules of a tree, once those of the trees that are entered are known. -/
def addressesBy (below : SyntaxTree → List Address) (t : SyntaxTree) : List Address :=
  (if t.IsRule then [[]] else []) ++ (entered t).flatMap fun e => (below e.1).map (e.2 :: ·)

/-- A rule at the root has the empty address. -/
theorem nil_mem_addressesBy {below : SyntaxTree → List Address} {t : SyntaxTree} : [] ∈ addressesBy below t ↔ t.IsRule := by
  by_cases h : t.IsRule <;> simp [addressesBy, h]

/-- The other rules are those below the trees that are entered. -/
theorem cons_mem_addressesBy {below : SyntaxTree → List Address} {t : SyntaxTree} {i : Nat} {p : Address} :
    i :: p ∈ addressesBy below t ↔ ∃ c, ¬t.IsIgnored ∧ t.Opens i c ∧ p ∈ below c := by
  have hnil : i :: p ∉ (if t.IsRule then [[]] else []) := by split <;> simp
  simp only [addressesBy, List.mem_append, hnil, false_or, List.mem_flatMap, List.mem_map, List.cons.injEq, Prod.exists]
  constructor
  · rintro ⟨c, j, hc, q, hq, rfl, rfl⟩
    obtain ⟨hi, ho⟩ := mem_entered.mp hc
    exact ⟨c, hi, ho, hq⟩
  · rintro ⟨c, hi, ho, hp⟩
    exact ⟨c, i, mem_entered.mpr ⟨hi, ho⟩, p, hp, rfl, rfl⟩

variable {below : SyntaxTree → List Address} {t : SyntaxTree}

/-- If the addresses below each child are those of the rules there, then so are those below the tree. -/
theorem complete_addressesBy (h : ∀ c ∈ t.children, Lists source c (below c)) (p : Address) :
    p ∈ addressesBy below t ↔ ∃ d, Reaches t p d ∧ d.IsRule := by
  cases p with
  | nil =>
    rw [nil_mem_addressesBy]
    constructor
    · intro hr
      exact ⟨t, reaches_nil_iff.mpr ⟨hr.not_isIgnored, rfl⟩, hr⟩
    · rintro ⟨d, hd, hr⟩
      exact (reaches_nil_iff.mp hd).2 ▸ hr
  | cons i p =>
    rw [cons_mem_addressesBy]
    constructor
    · rintro ⟨c, hi, ho, hp⟩
      obtain ⟨d, hd, hr⟩ := ((h c (List.mem_of_getElem? ho.1)).complete p).mp hp
      exact ⟨d, reaches_cons_iff.mpr ⟨c, hi, ho, hd⟩, hr⟩
    · rintro ⟨d, hd, hr⟩
      obtain ⟨c, hi, ho, hd⟩ := reaches_cons_iff.mp hd
      exact ⟨c, hi, ho, ((h c (List.mem_of_getElem? ho.1)).complete p).mpr ⟨d, hd, hr⟩⟩

/-- A tree that is entered is a child. -/
theorem mem_children_of_mem_entered {e : SyntaxTree × Nat} (he : e ∈ entered t) : e.1 ∈ t.children :=
  List.mem_of_getElem? (mem_entered.mp he).2.1

/-- Addresses below trees from left to right are in order if they are below each of the trees. -/
theorem ordered_flatMap {trees : List (SyntaxTree × Nat)} (htrees : trees.Pairwise fun a b => a.2 < b.2)
    (h : ∀ e ∈ trees, (below e.1).Pairwise (· < ·)) : (trees.flatMap fun e => (below e.1).map (e.2 :: ·)).Pairwise (· < ·) := by
  rw [List.pairwise_flatMap]
  refine ⟨?_, ?_⟩
  · intro e he
    rw [List.pairwise_map]
    refine (h e he).imp fun {p q} hpq => ?_
    exact List.cons_lt_cons_iff.mpr (Or.inr ⟨rfl, hpq⟩)
  · refine htrees.imp fun {a b} hab p hp q hq => ?_
    obtain ⟨p, -, rfl⟩ := List.mem_map.mp hp
    obtain ⟨q, -, rfl⟩ := List.mem_map.mp hq
    exact List.cons_lt_cons_iff.mpr (Or.inl hab)

/-- They are in order if they are in order below each child. -/
theorem ordered_addressesBy (h : ∀ c ∈ t.children, Lists source c (below c)) : (addressesBy below t).Pairwise (· < ·) := by
  unfold addressesBy
  rw [List.pairwise_append]
  refine ⟨?_, ?_, ?_⟩
  · split <;> simp
  · exact ordered_flatMap (entered_ordered t) fun e he => (h e.1 (mem_children_of_mem_entered he)).ordered
  · intro p hp q hq
    have hp' : p = [] := by
      split at hp
      · exact List.mem_singleton.mp hp
      · exact absurd hp List.not_mem_nil
    obtain ⟨e, -, hq⟩ := List.mem_flatMap.mp hq
    obtain ⟨q, -, rfl⟩ := List.mem_map.mp hq
    exact hp' ▸ List.nil_lt_cons e.2 q

/-- And each belongs to its rule, with the name that stands nearest above it. -/
theorem matched_addressesBy (h : ∀ c ∈ t.children, Lists source c (below c)) (outer : Option Text) :
    List.Forall₂
      (fun p site => Reaches t p site.tree ∧ site.tree.IsRule ∧ ∃ name, NearestName source t p name ∧ site.atRule = name.or outer)
      (addressesBy below t) (t.sites source outer) := by
  rw [sites_eq, addressesBy]
  refine List.rel_append ?_ ?_
  · split
    · rename_i hr
      refine List.Forall₂.cons ⟨.here hr.not_isIgnored, hr, none, nearestName_nil t, ?_⟩ .nil
      rw [Option.none_or]
    · exact .nil
  · have hsame : List.Forall₂ (fun a b => a = b ∧ a ∈ entered t) (entered t) (entered t) :=
      List.forall₂_same.mpr fun e he => ⟨rfl, he⟩
    refine List.rel_flatMap hsame ?_
    rintro e _ ⟨rfl, he⟩
    obtain ⟨hi, ho⟩ := mem_entered.mp he
    rw [List.forall₂_map_left_iff]
    refine ((h e.1 (mem_children_of_mem_entered he)).matched _).imp fun p site hs => ?_
    obtain ⟨hreach, hrule, name, hname, heq⟩ := hs
    refine ⟨.down hi ho hreach, hrule, name.or (t.atRuleName? source), nearestName_cons ho.1 hname, ?_⟩
    rw [heq, Option.or_assoc]

/-- Every tree has a list of the addresses of its rules. The induction is on the tree; what is listed does not depend on the name
around the tree, so one list serves all names. -/
theorem exists_lists (source : List UInt8) (t : SyntaxTree) : ∃ addresses, Lists source t addresses := by
  induction t using SyntaxTree.induction with
  | h t ih =>
    choose! below hbelow using ih
    exact ⟨addressesBy below t, ordered_addressesBy hbelow, complete_addressesBy hbelow, matched_addressesBy hbelow⟩

/-- A way leads to the tree of every site. -/
theorem exists_reaches_of_mem_sites {outer : Option Text} {site : Site} (h : site ∈ t.sites source outer) :
    ∃ p, Reaches t p site.tree := by
  obtain ⟨addresses, hl⟩ := exists_lists source t
  have hmatched := hl.matched outer
  obtain ⟨i, hi, rfl⟩ := List.getElem_of_mem h
  have hi' : i < addresses.length := by
    rw [hmatched.length_eq]
    exact hi
  exact ⟨addresses[i], (hmatched.get hi' hi).1⟩

end SiteAux

open SyntaxTree SiteAux

/-- The rules of a syntax tree are those at the rule sets and keyframe blocks that a way from the root leads to: some addresses, in the
order of the source and each once, are all the addresses of such trees, and the rules correspond to them one for one. A rule is what its
tree alone gives under the name of the nearest at-rule above it that has a name; without such an at-rule it has no name, whatever names
stand beside it or before it. -/
theorem rules_at_reached_sites (source : List UInt8) (root : SyntaxTree) :
    ∃ addresses : List Address,
      addresses.Pairwise (· < ·) ∧
      (∀ p, p ∈ addresses ↔ ∃ t, Reaches root p t ∧ (t.kind = .ruleSet ∨ t.kind = .keyframeBlock)) ∧
      List.Forall₂
        (fun p r => ∃ t, Reaches root p t ∧ (t.kind = .ruleSet ∨ t.kind = .keyframeBlock) ∧ NearestName source root p r.atRule ∧
          r.draft = Site.draft source ⟨t, r.atRule⟩)
        addresses (Arena.ofTree source root).rules := by
  obtain ⟨addresses, hl⟩ := exists_lists source root
  refine ⟨addresses, hl.ordered, hl.complete, ?_⟩
  have hdrafts : (Arena.ofTree source root).rules.map Rule.draft = (root.sites source none).map (·.draft source) := by
    rw [Arena.ofTree, Arena.ofDrafts, Arena.rules_foldl_place]
    rfl
  have hsites : List.Forall₂
      (fun p d => ∃ t, Reaches root p t ∧ t.IsRule ∧ NearestName source root p d.atRule ∧ d = Site.draft source ⟨t, d.atRule⟩)
      addresses ((root.sites source none).map (·.draft source)) := by
    rw [List.forall₂_map_right_iff]
    refine (hl.matched none).imp fun p site hs => ?_
    obtain ⟨hreach, hrule, name, hname, heq⟩ := hs
    rw [Option.or_none] at heq
    have hsite : NearestName source root p site.atRule := heq ▸ hname
    exact ⟨site.tree, hreach, hrule, hsite, rfl⟩
  rw [← hdrafts, List.forall₂_map_right_iff] at hsites
  exact hsites

end CriticalCss

import CriticalCss.Proofs.Judging

/-!
# Patterns that stand for each other

Where a pattern stands in a list, how often it stands there, and how its flag letters are arranged never matters. Two patterns that
differ in the arrangement of their flags, or in flags without an effect, select the same texts (`Pattern.Alike.selects_eq`), because
the source is compiled under the modes alone. So two lists with the same patterns up to this select the same texts
(`Pattern.SameEntries.anySelects_eq`), and the profile is the same with either (`profile_of_same_entries`).
-/

namespace CriticalCss

/-! ## One pattern for another -/

/-- The flag letters with an effect on what is selected. -/
def effectiveLetters : List Char := ['i', 'm', 's', 'y']

section

variable [Host]

/-- Two regular expressions have the same source, and the same of the letters with an effect stand among their flags. -/
structure RegexpPattern.Alike (p q : RegexpPattern) : Prop where
  source_eq : p.source = q.source
  mem_flags_iff : ∀ c ∈ effectiveLetters, c ∈ p.flags ↔ c ∈ q.flags

namespace RegexpPattern.Alike

variable {p q : RegexpPattern}

theorem elem_flags_eq (h : p.Alike q) {c : Char} (hc : c ∈ effectiveLetters) : p.flags.elem c = q.flags.elem c := by
  rw [Bool.eq_iff_iff, List.elem_iff, List.elem_iff]
  exact h.mem_flags_iff c hc

/-- Their flags turn on the same modes. -/
theorem flagModes_eq (h : p.Alike q) : flagModes p.flags = flagModes q.flags := by
  have hi := h.elem_flags_eq (c := 'i') (by decide)
  have hm := h.elem_flags_eq (c := 'm') (by decide)
  have hs := h.elem_flags_eq (c := 's') (by decide)
  unfold flagModes
  rw [hi, hm, hs]

/-- They are compiled to the same program: a program depends on the source and the modes and on nothing else. -/
theorem program_eq (h : p.Alike q) : p.program = q.program := by
  have hp := p.compiles
  rw [h.source_eq, h.flagModes_eq, q.compiles] at hp
  exact (Except.ok.inj hp).symm

theorem sticky_eq (h : p.Alike q) : p.sticky = q.sticky := h.elem_flags_eq (by decide)

/-- They find something in the same texts. -/
theorem selects_eq (h : p.Alike q) (t : Text) : p.selects t = q.selects t := by
  unfold selects
  rw [h.sticky_eq, h.program_eq]

end RegexpPattern.Alike

namespace Pattern

/-- A pattern may stand for another: each text for itself, and a regular expression for one of the same source and effect. -/
inductive Alike : Pattern → Pattern → Prop
  | literal (value : Text) : Alike (.literal value) (.literal value)
  | regexp {p q : RegexpPattern} (h : p.Alike q) : Alike (.regexp p) (.regexp q)

theorem Alike.refl (p : Pattern) : Alike p p := by
  cases p with
  | literal value => exact .literal value
  | regexp p => exact .regexp ⟨rfl, fun _ _ => Iff.rfl⟩

theorem Alike.selects_eq {p q : Pattern} (h : Alike p q) (t : Text) : p.selects t = q.selects t := by
  cases h with
  | literal value => rfl
  | regexp h => exact h.selects_eq t

/-! ## One list for another -/

/-- Two lists have the same entries: for each entry of one there is one in the other that may stand for it. Their order and their number
do not count. -/
structure SameEntries (l m : List Pattern) : Prop where
  left : ∀ p ∈ l, ∃ q ∈ m, Alike p q
  right : ∀ q ∈ m, ∃ p ∈ l, Alike p q

/-- Lists that hold the same patterns, in any order and any number, have the same entries. -/
theorem SameEntries.of_mem_iff {l m : List Pattern} (h : ∀ p, p ∈ l ↔ p ∈ m) : SameEntries l m where
  left p hp := ⟨p, (h p).mp hp, Alike.refl p⟩
  right p hp := ⟨p, (h p).mpr hp, Alike.refl p⟩

/-- Lists with the same entries select the same texts. -/
theorem SameEntries.anySelects_eq {l m : List Pattern} (h : SameEntries l m) (t : Text) : anySelects l t = anySelects m t := by
  unfold anySelects
  rw [Bool.eq_iff_iff, List.any_eq_true, List.any_eq_true]
  constructor
  · rintro ⟨p, hp, hs⟩
    obtain ⟨q, hq, hpq⟩ := h.left p hp
    exact ⟨q, hq, hpq.selects_eq t ▸ hs⟩
  · rintro ⟨q, hq, hs⟩
    obtain ⟨p, hp, hpq⟩ := h.right q hq
    exact ⟨p, hp, (hpq.selects_eq t).symm ▸ hs⟩

end Pattern

/-! ## Whole profiles -/

/-- The verdict on a selector depends on the lists only by the texts that they select. -/
theorem Selector.verdict_congr {force force' : ForceLists} {candidate : Text}
    (hkeep : Pattern.anySelects force.keep candidate = Pattern.anySelects force'.keep candidate)
    (hdrop : Pattern.anySelects force.drop candidate = Pattern.anySelects force'.drop candidate) :
    verdict force candidate = verdict force' candidate := by
  unfold verdict
  rw [hkeep, hdrop]

/-- Patterns that classify every selector alike lead to the same verdicts of a rule. -/
theorem Rule.verdicts_congr {force force' : ForceLists} (h : ∀ t, Selector.classify force t = Selector.classify force' t) (r : Rule) :
    r.verdicts force = r.verdicts force' := by
  unfold verdicts
  split
  · rfl
  · rfl
  · rfl
  · exact List.map_congr_left fun n _ => by rw [h n.text]

/-- Patterns that classify every selector alike lead to the same profile. -/
theorem Profile.ofRules_congr {force force' : ForceLists} (h : ∀ t, Selector.classify force t = Selector.classify force' t)
    (rules : List Rule) : ofRules force rules = ofRules force' rules := by
  have hstep : addRule force = addRule force' := by
    funext p r
    unfold addRule
    rw [Rule.verdicts_congr h r]
  rw [ofRules, ofRules, hstep]

/-- Either list of patterns may be exchanged for one that has the same entries: in another order, repeated, and with regular expressions
whose flags are arranged differently or have letters without an effect. The whole profile stays as it is. -/
theorem profile_of_same_entries (force force' : ForceLists) (hkeep : Pattern.SameEntries force.keep force'.keep)
    (hdrop : Pattern.SameEntries force.drop force'.drop) (s : Stylesheet) :
    Profile.ofRules force s.rules = Profile.ofRules force' s.rules := by
  refine Profile.ofRules_congr (fun t => ?_) s.rules
  have hverdict := Selector.verdict_congr (hkeep.anySelects_eq (Text.trim t)) (hdrop.anySelects_eq (Text.trim t))
  unfold Selector.classify
  rw [hverdict]

end

namespace Rearranged

open Host.Plain

/-- A regular expression for the letter P in either case, its case letter behind a letter without an effect. -/
def anyCase : RegexpPattern where
  source := ['P']
  flags := ['g', 'i']
  program := ⟨.single 80, { ignoreCase := true }⟩
  flags_sound := by decide
  fits := rfl
  compiles := by decide

/-- The same with its case letter alone. -/
def anyCaseBare : RegexpPattern where
  source := ['P']
  flags := ['i']
  program := ⟨.single 80, { ignoreCase := true }⟩
  flags_sound := by decide
  fits := rfl
  compiles := by decide

/-- Two patterns that drop. -/
def force : ForceLists where
  keep := [.literal ['p']]
  drop := [.regexp anyCase, .literal ".a".toList]

/-- The same patterns the other way around, one of them twice. -/
def rearranged : ForceLists where
  keep := [.literal ['p'], .literal ['p']]
  drop := [.literal ".a".toList, .regexp anyCaseBare, .literal ".a".toList]

end Rearranged

open Host.Plain Rearranged in
/-- Two patterns that drop change places, one stands there twice, and the flags of the other are shortened: one selector of the plain rule
is dropped as before. -/
theorem profile_of_rearranged :
    Pattern.SameEntries force.keep rearranged.keep ∧ Pattern.SameEntries force.drop rearranged.drop ∧
    Profile.ofRules force FourRules.sheet.rules = Profile.ofRules rearranged FourRules.sheet.rules ∧
    (Profile.ofRules rearranged FourRules.sheet.rules).classification? 6 = some .drop := by
  have hanyCase : Pattern.Alike (.regexp anyCase) (.regexp anyCaseBare) :=
    .regexp ⟨rfl, by simp [effectiveLetters, anyCase, anyCaseBare]⟩
  have hkeep : Pattern.SameEntries force.keep rearranged.keep := .of_mem_iff fun p => by simp [force, rearranged]
  have hdrop : Pattern.SameEntries force.drop rearranged.drop := by
    constructor
    · intro p hp
      rcases List.mem_pair.mp hp with rfl | rfl
      · exact ⟨_, by simp [rearranged], hanyCase⟩
      · exact ⟨_, by simp [rearranged], .literal _⟩
    · intro q hq
      simp only [rearranged, List.mem_cons, List.not_mem_nil, or_false] at hq
      rcases hq with rfl | rfl | rfl
      · exact ⟨_, by simp [force], .literal _⟩
      · exact ⟨_, by simp [force], hanyCase⟩
      · exact ⟨_, by simp [force], .literal _⟩
  have hprofile := profile_of_same_entries force rearranged hkeep hdrop FourRules.sheet
  refine ⟨hkeep, hdrop, hprofile, ?_⟩
  rw [← hprofile]
  decide +kernel

end CriticalCss

import Mathlib.Data.List.TakeWhile
import CriticalCss.Keyword

/-!
# Marks of vendors

Where a keyword is cut. A name in lower case begins with the mark of a vendor if it has one: a hyphen, a name without hyphens and a
second hyphen (`IsMark`). A mark ends where its second hyphen stands, so a name begins with one mark at most, and cutting a name cuts off
its mark (`split_of_isMark`) or nothing (`split_of_not_isMark`). A name that begins with two hyphens has no mark, since nothing stands
between the two. From this follows which names are those of keyframes (`keyword_of_name`).
-/

namespace CriticalCss

namespace Keyword

/-- The mark of a vendor: a name without hyphens, which is not empty, between two hyphens. -/
def IsMark (mark : Text) : Prop := ∃ vendor, vendor ≠ [] ∧ '-' ∉ vendor ∧ mark = '-' :: (vendor ++ ['-'])

variable {mark folded rest : Text}

/-! ## Cutting -/

/-- A name without hyphens in front of a hyphen is what is taken up to this hyphen. -/
theorem span_of_not_mem {vendor : Text} (h : '-' ∉ vendor) (rest : Text) :
    (vendor ++ '-' :: rest).takeWhile (· != '-') = vendor ∧ (vendor ++ '-' :: rest).dropWhile (· != '-') = '-' :: rest := by
  have hall : ∀ c ∈ vendor, (c != '-') = true := by
    intro c hc
    have hne : c ≠ '-' := fun heq => h (heq ▸ hc)
    simpa using hne
  constructor
  · rw [List.takeWhile_append_of_pos hall]
    simp
  · rw [List.dropWhile_append_of_pos hall]
    simp

/-- From a name that begins with a mark the mark is cut off. -/
theorem split_of_isMark (h : IsMark mark) : split (mark ++ rest) = ⟨mark, rest⟩ := by
  obtain ⟨vendor, hne, hhyphen, rfl⟩ := h
  obtain ⟨htake, hdrop⟩ := span_of_not_mem hhyphen rest
  obtain ⟨c, vendor, rfl⟩ := List.exists_cons_of_ne_nil hne
  have hassoc : '-' :: (c :: vendor ++ ['-']) ++ rest = '-' :: (c :: vendor ++ '-' :: rest) := by simp
  rw [hassoc]
  simp only [split, htake, hdrop]

/-- From any other name nothing is cut off. -/
theorem split_of_not_isMark (h : ∀ mark, IsMark mark → ¬mark <+: folded) : split folded = ⟨[], folded⟩ := by
  unfold split
  split
  · rename_i rest
    dsimp only
    split
    · -- what stands between the first two hyphens would be the name of a vendor
      rename_i c vendor d basename htake hdrop
      exfalso
      have hd : d = '-' := by
        have hnot := List.head?_dropWhile_not (· != '-') rest
        rw [hdrop] at hnot
        simpa using hnot
      have hhyphen : '-' ∉ c :: vendor := by
        intro hmem
        rw [← htake] at hmem
        have hkept := List.mem_takeWhile_imp hmem
        simp at hkept
      have hsplit := List.takeWhile_append_dropWhile (p := (· != '-')) (l := rest)
      rw [htake, hdrop, hd] at hsplit
      refine h ('-' :: (c :: vendor ++ ['-'])) ⟨c :: vendor, List.cons_ne_nil c vendor, hhyphen, rfl⟩ ⟨basename, ?_⟩
      rw [← hsplit]
      simp
    · rfl
  · rfl

/-- What is cut off is a mark or nothing, and nothing only if the name begins with no mark. -/
theorem vendor_split (folded : Text) :
    (split folded).vendor ++ (split folded).basename = folded ∧
      ((split folded).vendor = [] ∨ IsMark (split folded).vendor) ∧
      ((split folded).vendor = [] ↔ ∀ mark, IsMark mark → ¬mark <+: folded) := by
  by_cases h : ∃ mark, IsMark mark ∧ mark <+: folded
  · obtain ⟨mark, hmark, rest, rfl⟩ := h
    rw [split_of_isMark hmark]
    refine ⟨rfl, Or.inr hmark, ?_⟩
    have hne : mark ≠ [] := by
      obtain ⟨vendor, -, -, rfl⟩ := hmark
      exact List.cons_ne_nil _ _
    exact iff_of_false hne fun hnone => hnone mark hmark (List.prefix_append mark rest)
  · have hnone : ∀ mark, IsMark mark → ¬mark <+: folded := by
      intro mark hmark hbegins
      exact h ⟨mark, hmark, hbegins⟩
    rw [split_of_not_isMark hnone]
    exact ⟨rfl, Or.inl rfl, iff_of_true rfl hnone⟩

end Keyword

/-! ## Keyframes -/

/-- The name of keyframes begins with no hyphen, so it has no mark itself. -/
theorem not_isMark_prefix_keyframesName {mark : Text} (h : Keyword.IsMark mark) : ¬mark <+: keyframesName := by
  obtain ⟨vendor, -, -, rfl⟩ := h
  rintro ⟨rest, hrest⟩
  cases hrest

/-- The names of keyframes in lower case: the one without a mark, and those with the mark of any vendor. -/
theorem basename_split_eq_keyframesName_iff {folded : Text} :
    (Keyword.split folded).basename = keyframesName ↔
      folded = keyframesName ∨ ∃ mark, Keyword.IsMark mark ∧ folded = mark ++ keyframesName := by
  constructor
  · intro h
    obtain ⟨hwhole, hvendor, -⟩ := Keyword.vendor_split folded
    rw [h] at hwhole
    rcases hvendor with hnil | hmark
    · rw [hnil] at hwhole
      exact Or.inl hwhole.symm
    · exact Or.inr ⟨_, hmark, hwhole.symm⟩
  · rintro (rfl | ⟨mark, hmark, rfl⟩)
    · rw [Keyword.split_of_not_isMark fun mark hmark => not_isMark_prefix_keyframesName hmark]
    · rw [Keyword.split_of_isMark hmark]

/-- What a name denotes, once the at signs before it are gone and the rest is in lower case, in four parts.
1. The mark of its vendor and the name proper are the whole of it.
2. The mark is a hyphen, a name without hyphens and a hyphen, or there is none.
3. There is none only if the name begins with no such mark.
4. It is the name of keyframes if it is their plain name, or their plain name behind a mark. -/
theorem keyword_of_name (name : Text) :
    ∃ signs rest, name = signs ++ rest ∧ (∀ c ∈ signs, c = '@') ∧ rest.head? ≠ some '@' ∧
      (Keyword.ofName name).vendor ++ (Keyword.ofName name).basename = Unicode.lower rest ∧
      ((Keyword.ofName name).vendor = [] ∨ Keyword.IsMark (Keyword.ofName name).vendor) ∧
      ((Keyword.ofName name).vendor = [] ↔ ∀ mark, Keyword.IsMark mark → ¬mark <+: Unicode.lower rest) ∧
      (isKeyframes (some name) = true ↔
        Unicode.lower rest = keyframesName ∨ ∃ mark, Keyword.IsMark mark ∧ Unicode.lower rest = mark ++ keyframesName) := by
  refine ⟨name.takeWhile (· == '@'), name.dropWhile (· == '@'), List.takeWhile_append_dropWhile.symm, ?_, ?_, ?_⟩
  · intro c hc
    have hsign := List.mem_takeWhile_imp hc
    simpa using hsign
  · intro hhead
    have hnot := List.head?_dropWhile_not (· == '@') name
    rw [hhead] at hnot
    simp at hnot
  · have hfold : Keyword.ofName name = Keyword.split (Unicode.lower (name.dropWhile (· == '@'))) := rfl
    obtain ⟨hwhole, hvendor, hnone⟩ := Keyword.vendor_split (Unicode.lower (name.dropWhile (· == '@')))
    rw [isKeyframes, beq_iff_eq, hfold]
    exact ⟨hwhole, hvendor, hnone, basename_split_eq_keyframesName_iff⟩

/-- Of two hyphens in a row neither begins a mark, however the name goes on. -/
example : Keyword.split "--webkit-keyframes".toList = ⟨[], "--webkit-keyframes".toList⟩ := by decide

end CriticalCss

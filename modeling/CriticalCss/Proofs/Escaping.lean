import CriticalCss.Proofs.Purity

/-!
# Escaped colons

A colon behind a backslash belongs to a name. Where all colons are escaped, the pass over vendor parts leaves a selector as it is, and the
selector is never nothing but pseudo parts. The pass over allowed parts and the look for selections do not ask what stands in front of a
colon, so the selector is looked for as it is written exactly if no allowed name and no name of a selection stands behind a colon
(`classify_of_colonsEscaped`).
-/

namespace CriticalCss.Selector

variable {previous : Option Char} {t left : Text}

/-! ## Texts whose colons are escaped -/

/-- Behind a code point, each colon of a text stands directly behind a backslash. -/
def ColonsEscaped (previous : Option Char) (t : Text) : Prop :=
  ∀ before after, t = before ++ ':' :: after → before.getLast?.or previous = some '\\'

theorem colonsEscaped_nil (previous : Option Char) : ColonsEscaped previous [] := fun before _ hsplit =>
  absurd hsplit.symm (List.append_ne_nil_of_right_ne_nil before (List.cons_ne_nil _ _))

/-- A colon at the front must have a backslash before it, and the rest must have its colons escaped. -/
theorem colonsEscaped_cons_iff {c : Char} :
    ColonsEscaped previous (c :: t) ↔ (c = ':' → previous = some '\\') ∧ ColonsEscaped (some c) t := by
  constructor
  · intro h
    refine ⟨?_, fun before after hsplit => ?_⟩
    · rintro rfl
      exact h [] t rfl
    · rw [← getLast?_cons_or]
      exact h (c :: before) after (congrArg (c :: ·) hsplit)
  · rintro ⟨hfirst, hrest⟩ before after hsplit
    cases before with
    | nil =>
      obtain ⟨rfl, -⟩ := List.cons_eq_cons.mp hsplit
      exact hfirst rfl
    | cons d before =>
      obtain ⟨rfl, hbehind⟩ := List.cons_eq_cons.mp hsplit
      rw [getLast?_cons_or]
      exact hrest before after hbehind

instance decidableColonsEscaped : (previous : Option Char) → (t : Text) → Decidable (ColonsEscaped previous t)
  | previous, [] => .isTrue (colonsEscaped_nil previous)
  | previous, c :: t =>
    have := decidableColonsEscaped (some c) t
    decidable_of_iff ((c = ':' → previous = some '\\') ∧ ColonsEscaped (some c) t) colonsEscaped_cons_iff.symm

/-- Behind anything but a backslash such a text begins with no colon, so it may stand behind anything. -/
theorem ColonsEscaped.of_ne (h : ColonsEscaped previous t) (hne : previous ≠ some '\\') (other : Option Char) :
    ColonsEscaped other t := by
  cases t with
  | nil => exact colonsEscaped_nil other
  | cons c t =>
    obtain ⟨hfirst, hrest⟩ := colonsEscaped_cons_iff.mp h
    exact colonsEscaped_cons_iff.mpr ⟨fun hc => absurd (hfirst hc) hne, hrest⟩

/-- The colons of the front of a text are escaped if those of the text are. -/
theorem ColonsEscaped.of_append_left (h : ColonsEscaped previous (t ++ left)) : ColonsEscaped previous t := by
  rintro before after rfl
  exact h before (after ++ left) (by rw [List.append_assoc, List.cons_append])

/-- The colons of the end of a text are escaped too, in view of what stands before it. -/
theorem ColonsEscaped.of_append_right (h : ColonsEscaped previous (t ++ left)) : ColonsEscaped (t.getLast?.or previous) left := by
  rintro before after rfl
  rw [← Option.or_assoc, ← List.getLast?_append]
  exact h (t ++ before) after (List.append_assoc t before _).symm

/-- Blanks around a text hold no backslash, so that no colon depends on them. -/
theorem ColonsEscaped.trim (h : ColonsEscaped none t) : ColonsEscaped none (Text.trim t) := by
  obtain ⟨front, back, hsplit, hfront, -⟩ := Text.exists_trim t
  rw [hsplit] at h
  refine h.of_append_right.of_append_left.of_ne ?_ none
  rw [Option.or_none]
  intro hlast
  exact absurd (hfront '\\' (List.mem_of_getLast? hlast)) (by decide)

/-! ## The passes -/

/-- An allowed part ends in no backslash, so no colon follows it and what is left may stand where the part stood. -/
theorem Pass.colonsEscaped (h : Pass (fun _ => allowedSize) previous t left) (hescaped : ColonsEscaped previous t) :
    ColonsEscaped previous left := by
  induction h with
  | nil => exact hescaped
  | kept _ _ ih =>
    obtain ⟨hfirst, hrest⟩ := colonsEscaped_cons_iff.mp hescaped
    exact colonsEscaped_cons_iff.mpr ⟨hfirst, ih hrest⟩
  | @token previous token rest left hne hlength _ ih =>
    have hrest := hescaped.of_append_right
    rw [Option.or_of_isSome (List.getLast?_isSome.mpr hne)] at hrest
    refine (ih hrest).of_ne (fun hlast => ?_) previous
    exact (isAllowedPart_of_size hne hlength).not_mem (by decide) (by decide) (List.mem_of_getLast? hlast)

/-- No vendor part begins at an escaped colon. -/
theorem ColonsEscaped.stripVendor_eq (h : ColonsEscaped none t) : stripVendor t = t := by
  refine (deleteTokens_eq_self_iff fits_vendorSize).mpr (tokenFree_vendorSize_iff.mpr ?_)
  intro before after hsplit
  have hlast := h before ('-' :: after) hsplit
  rwa [Option.or_none] at hlast

/-- The backslash in front of an escaped colon is left. -/
theorem ColonsEscaped.isPurePseudo_eq_false (h : ColonsEscaped none t) (hcolon : ':' ∈ t) : isPurePseudo (stripAllowed t) = false := by
  obtain ⟨before, after, hsplit⟩ := List.append_of_mem hcolon
  have hlast := h before after hsplit
  rw [Option.or_none] at hlast
  have hbackslash : '\\' ∈ t := hsplit ▸ List.mem_append_left _ (List.mem_of_getLast? hlast)
  have hleft := mem_deleteTokens_of_separates fits_allowedSize (separates_allowedSize (by decide) (by decide)) hbackslash
  exact isPurePseudo_eq_false_iff.mpr ⟨'\\', mem_outside (by decide) (by decide) hleft false, by decide⟩

/-! ## Main statement -/

/-- A selector whose colons are escaped, in two parts.
1. If it mentions a selection, it is dropped; otherwise it is looked for without its allowed parts, and nothing else is taken from it.
2. It is looked for as it is written, trimmed, exactly if neither an allowed name nor the name of a selection stands behind a colon. -/
theorem classify_of_colonsEscaped [Host] (selector : Text) (h : ColonsEscaped none selector) :
    classify {} selector =
      (if mentionsSelection (Text.trim selector) then .drop else .test (stripAllowed (Text.trim selector))) ∧
    (classify {} selector = .test (Text.trim selector) ↔
      ∀ name ∈ allowedNames ++ selectionNames, ¬ ':' :: name <:+: Text.trim selector) := by
  have htrim := h.trim
  have hvendor : stripVendor (stripAllowed (Text.trim selector)) = stripAllowed (Text.trim selector) :=
    ((pass_deleteTokens fits_allowedSize _).colonsEscaped htrim).stripVendor_eq
  have hallowed : stripAllowed (Text.trim selector) = Text.trim selector ↔ ∀ name ∈ allowedNames, ¬ ':' :: name <:+: Text.trim selector :=
    (deleteTokens_eq_self_iff fits_allowedSize).trans tokenFree_allowedSize_iff
  cases hmentions : mentionsSelection (Text.trim selector) with
  | true =>
    obtain ⟨name, hname, hfound⟩ := mentionsSelection_iff.mp hmentions
    have hdropped : classify {} selector = .drop := by
      have hcolon : ':' ∈ Text.trim selector := hfound.subset List.mem_cons_self
      simp [classify, verdict, Pattern.anySelects, hcolon, hmentions, Verdict.classification]
    refine ⟨hdropped, iff_of_false (by simp [hdropped]) fun hnone => ?_⟩
    exact hnone name (List.mem_append_right _ hname) hfound
  | false =>
    have htested : classify {} selector = .test (stripAllowed (Text.trim selector)) :=
      classify_eq_test_iff.mpr ⟨⟨rfl, rfl⟩, hmentions, htrim.isPurePseudo_eq_false, hvendor.symm⟩
    refine ⟨htested, ?_⟩
    rw [htested, Classification.test.injEq, hallowed, List.forall_mem_append]
    refine (and_iff_left fun name hname hfound => ?_).symm
    rw [mentionsSelection_iff.mpr ⟨name, hname, hfound⟩] at hmentions
    cases hmentions

open Host.Plain in
/-- Utility classes with several escaped colons are looked for as they are written. -/
theorem classify_of_utilityClass :
    ColonsEscaped none " .md\\:x\\:-y a".toList ∧ classify {} " .md\\:x\\:-y a".toList = .test ".md\\:x\\:-y a".toList := by
  have h : ColonsEscaped none " .md\\:x\\:-y a".toList := by decide
  exact ⟨h, (classify_of_colonsEscaped _ h).2.mpr (by decide)⟩

open Host.Plain in
/-- An allowed name behind an escaped colon is deleted with the colon, and the name of a selection there makes the selector go. -/
theorem escaped_colon_deleted :
    ColonsEscaped none ".a\\:before".toList ∧ classify {} ".a\\:before".toList = .test ".a\\".toList ∧
    ColonsEscaped none ".a\\:selection".toList ∧ classify {} ".a\\:selection".toList = .drop := by
  decide

end CriticalCss.Selector

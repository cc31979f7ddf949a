import CriticalCss.Proofs.Spacing

/-!
# How far the passes reach

The two passes delete colons, hyphens and small letters and nothing else (`Thinned`), so a selector that is looked for agrees with the
selector in all other code points (`tested_thinned`). What can be in no part and escapes no colon parts a text into two that go through the
passes alone, and no other code point does (`isSeparator_iff`). So a complex selector or a list of selectors is stripped part by part,
however many parts it has (`stripped_joined`), and a selector in which no part begins at a colon is looked for as it is written
(`stripVendor_stripAllowed_eq_self_iff`).
-/

namespace CriticalCss.Selector

variable {c : Char} {t u left : Text}

/-! ## Deleted code points -/

/-- The second text is the first one without some code points of one kind. -/
inductive Thinned (kind : Char → Prop) : Text → Text → Prop
  | nil : Thinned kind [] []
  | kept {c : Char} {t u : Text} : Thinned kind t u → Thinned kind (c :: t) (c :: u)
  | deleted {c : Char} {t u : Text} : kind c → Thinned kind t u → Thinned kind (c :: t) u

variable {kind : Char → Prop}

theorem Thinned.append_left {word : Text} (hword : ∀ c ∈ word, kind c) (h : Thinned kind t u) : Thinned kind (word ++ t) u := by
  induction word with
  | nil => exact h
  | cons c word ih =>
    rw [List.forall_mem_cons] at hword
    exact .deleted hword.1 (ih hword.2)

theorem Thinned.trans {v : Text} (h : Thinned kind t u) (h' : Thinned kind u v) : Thinned kind t v := by
  induction h generalizing v with
  | nil => exact h'
  | kept _ ih =>
    cases h' with
    | kept h' => exact .kept (ih h')
    | deleted hc h' => exact .deleted hc (ih h')
  | deleted hc _ ih => exact .deleted hc (ih h')

/-- All code points of other kinds are left, in their order. -/
theorem Thinned.filter_eq [DecidablePred kind] (h : Thinned kind t u) :
    u.filter (fun c => ¬kind c) = t.filter (fun c => ¬kind c) := by
  induction h with
  | nil => rfl
  | kept _ ih => rw [List.filter_cons, List.filter_cons, ih]
  | deleted hc _ ih => rw [ih, List.filter_cons_of_neg (by simpa using hc)]

/-- A pass deletes what its tokens are made of. -/
theorem Pass.thinned {size : Option Char → Text → Nat} {previous : Option Char} (h : Pass size previous t left)
    (htoken : ∀ previous token rest, token ≠ [] → size previous (token ++ rest) = token.length → ∀ c ∈ token, kind c) :
    Thinned kind t left := by
  induction h with
  | nil => exact .nil
  | kept _ _ ih => exact .kept ih
  | @token previous token rest left hne hlength _ ih => exact ih.append_left (htoken previous token rest hne hlength)

/-- A colon, a hyphen or a small letter. -/
def IsDeletable (c : Char) : Prop := c = ':' ∨ c = '-' ∨ ('a' ≤ c ∧ c ≤ 'z')

instance (c : Char) : Decidable (IsDeletable c) := inferInstanceAs (Decidable (_ ∨ _ ∨ _ ∧ _))

theorem isDeletable_iff : IsDeletable c ↔ c = ':' ∨ isVendorPart c = true := by
  unfold IsDeletable isVendorPart Char.isLower
  simp only [Bool.or_eq_true, Bool.and_eq_true, decide_eq_true_eq, beq_iff_eq, Char.le_def, ge_iff_le]
  tauto

theorem thinned_stripAllowed (t : Text) : Thinned IsDeletable t (stripAllowed t) := by
  refine (pass_deleteTokens fits_allowedSize t).thinned ?_
  intro _ token rest hne hlength c hc
  by_contra hnot
  rw [isDeletable_iff, not_or, Bool.not_eq_true] at hnot
  exact (isAllowedPart_of_size hne hlength).not_mem hnot.1 hnot.2 hc

theorem thinned_stripVendor (t : Text) : Thinned IsDeletable t (stripVendor t) := by
  refine (pass_deleteTokens fits_vendorSize t).thinned ?_
  intro _ token rest hne hlength c hc
  exact isDeletable_iff.mpr ((vendorToken hne hlength).1 c hc)

/-! ## Texts that the passes leave as they are -/

/-- Both passes leave a text as it is exactly if no allowed name stands behind a colon, and a hyphen only behind an escaped one. -/
theorem stripVendor_stripAllowed_eq_self_iff :
    stripVendor (stripAllowed t) = t ↔
      (∀ name ∈ allowedNames, ¬ ':' :: name <:+: t) ∧
      ∀ before after, t = before ++ ':' :: '-' :: after → before.getLast? = some '\\' := by
  rw [← tokenFree_allowedSize_iff, ← tokenFree_vendorSize_iff, ← deleteTokens_eq_self_iff fits_allowedSize,
    ← deleteTokens_eq_self_iff fits_vendorSize]
  constructor
  · intro h
    have hvendor := (pass_deleteTokens fits_vendorSize (stripAllowed t)).sublist
    have hallowed := (pass_deleteTokens fits_allowedSize t).sublist
    have hlength : t.length ≤ (stripAllowed t).length := by
      have hle := hvendor.length_le
      rw [← stripVendor, h] at hle
      exact hle
    have hself : stripAllowed t = t := hallowed.eq_of_length_le hlength
    rw [hself] at h
    exact ⟨hself, h⟩
  · rintro ⟨hallowed, hvendor⟩
    rw [stripAllowed, hallowed]
    exact hvendor

/-! ## Separators -/

/-- What can be in no part and escapes no colon. -/
def IsSeparator (c : Char) : Prop := c ≠ ':' ∧ c ≠ '-' ∧ c ≠ '\\' ∧ ¬('a' ≤ c ∧ c ≤ 'z')

instance (c : Char) : Decidable (IsSeparator c) := inferInstanceAs (Decidable (_ ∧ _ ∧ _ ∧ ¬(_ ∧ _)))

theorem isSeparator_iff_not_isDeletable : IsSeparator c ↔ ¬IsDeletable c ∧ c ≠ '\\' := by
  unfold IsSeparator IsDeletable
  tauto

/-- A hyphen or a small letter is deleted behind a colon and a hyphen. -/
theorem stripVendor_stripAllowed_name (h : isVendorPart c = true) : stripVendor (stripAllowed [':', '-', c]) = [] := by
  have hc : c ≠ ':' := ne_colon_of_isVendorPart h
  have hallowed : stripAllowed [':', '-', c] = [':', '-', c] := by
    simp [stripAllowed, deleteTokens, deleteFrom, allowedSize, afterColons, allowedName?, allowedNames, hc]
  have hsize : vendorSize none ([':', '-', c] ++ []) = [':', '-', c].length := by
    have hcolons : vendorSize none ([':'] ++ '-' :: [c]) = _ := vendorSize_colons (by simp) (Or.inl rfl) [c]
    rwa [List.takeWhile_cons_of_pos h] at hcolons
  rw [hallowed, stripVendor, deleteTokens]
  exact deleteFrom_token (List.cons_ne_nil _ _) hsize

/-- Only separators part each text into two that go through both passes alone. -/
theorem isSeparator_iff :
    IsSeparator c ↔ ∀ before after,
      stripVendor (stripAllowed (before ++ c :: after)) = stripVendor (stripAllowed before) ++ c :: stripVendor (stripAllowed after) := by
  rw [isSeparator_iff_not_isDeletable, isDeletable_iff, not_or, Bool.not_eq_true]
  constructor
  · rintro ⟨⟨hcolon, hpart⟩, hescape⟩ before after
    exact stripVendor_stripAllowed_append_cons hcolon hescape hpart before after
  · -- a colon begins a part, a hyphen or a letter goes on with one, and a backslash escapes a colon
    intro h
    refine ⟨⟨?_, ?_⟩, ?_⟩
    · rintro rfl
      exact absurd (h [] ['-']) (by decide)
    · by_contra hpart
      rw [Bool.not_eq_false] at hpart
      have hname := h [':', '-'] []
      rw [List.cons_append, List.cons_append, List.nil_append, stripVendor_stripAllowed_name hpart] at hname
      exact List.append_ne_nil_of_right_ne_nil _ (List.cons_ne_nil _ _) hname.symm
    · rintro rfl
      exact absurd (h [] [':', '-']) (by decide)

/-- A text and further texts behind it, each with a code point in front. -/
def joined : Text → List (Char × Text) → Text
  | first, [] => first
  | first, (c, t) :: more => first ++ c :: joined t more

/-! ## Main statements -/

/-- Both passes are local, in two parts.
1. A code point parts every text into two that go through both passes alone exactly if it is a separator.
2. However many texts are joined with separators, each of them goes through both passes alone. -/
theorem stripped_joined :
    (∀ c, IsSeparator c ↔ ∀ before after,
      stripVendor (stripAllowed (before ++ c :: after)) =
        stripVendor (stripAllowed before) ++ c :: stripVendor (stripAllowed after)) ∧
    ∀ first more, (∀ p ∈ more, IsSeparator p.1) →
      stripVendor (stripAllowed (joined first more)) =
        joined (stripVendor (stripAllowed first)) (more.map fun p => (p.1, stripVendor (stripAllowed p.2))) := by
  refine ⟨fun c => isSeparator_iff, ?_⟩
  intro first more h
  -- on the texts behind the first, each of which becomes the first one in turn
  induction more generalizing first with
  | nil => rfl
  | cons p more ih =>
    rw [List.forall_mem_cons] at h
    rw [joined, isSeparator_iff.mp h.1, ih p.2 h.2]
    rfl

/-- A list of two complex selectors is stripped selector by selector. -/
theorem stripped_joined_of_list :
    (∀ p ∈ [(' ', "a:hover::after".toList), (',', "".toList), (' ', "b::-ms-x".toList), ('>', ":first-line".toList)], IsSeparator p.1) ∧
    stripVendor (stripAllowed ".nav:-moz-y a:hover::after, b::-ms-x>:first-line".toList) = ".nav a:hover, b>".toList := by
  have hseparators : ∀ p ∈ [(' ', "a:hover::after".toList), (',', "".toList), (' ', "b::-ms-x".toList), ('>', ":first-line".toList)],
      IsSeparator p.1 := by decide
  exact ⟨hseparators, stripped_joined.2 ".nav:-moz-y".toList _ hseparators⟩

/-- A selector that is looked for, in four parts.
1. It is the trimmed selector without some colons, hyphens and small letters.
2. All other code points are those of the trimmed selector, in the same order.
3. It is the trimmed selector exactly if no allowed name stands behind a colon there, and a hyphen only behind an escaped one.
4. So it is if neither a hyphen nor an allowed name stands behind a colon. -/
theorem tested_thinned [Host] (force : ForceLists) (selector u : Text) (h : classify force selector = .test u) :
    Thinned IsDeletable (Text.trim selector) u ∧
    u.filter (fun c => ¬IsDeletable c) = (Text.trim selector).filter (fun c => ¬IsDeletable c) ∧
    (u = Text.trim selector ↔
      (∀ name ∈ allowedNames, ¬ ':' :: name <:+: Text.trim selector) ∧
      ∀ before after, Text.trim selector = before ++ ':' :: '-' :: after → before.getLast? = some '\\') ∧
    ((∀ name ∈ ['-'] :: allowedNames, ¬ ':' :: name <:+: Text.trim selector) → u = Text.trim selector) := by
  have hu := eq_of_classify_eq_test h
  have hthinned : Thinned IsDeletable (Text.trim selector) u := by
    rw [hu]
    exact (thinned_stripAllowed _).trans (thinned_stripVendor _)
  have hself := stripVendor_stripAllowed_eq_self_iff (t := Text.trim selector)
  rw [← hu] at hself
  refine ⟨hthinned, hthinned.filter_eq, hself, ?_⟩
  intro hnone
  rw [List.forall_mem_cons] at hnone
  refine hself.mpr ⟨hnone.2, ?_⟩
  intro before after hsplit
  have hhyphen : [':', '-'] <:+: Text.trim selector := ⟨before, after, by rw [hsplit, List.append_assoc]; rfl⟩
  exact absurd hhyphen hnone.1

open Host.Plain in
/-- Of a selector that loses parts all else is left, and one whose colons begin no parts is left as it is. -/
theorem tested_thinned_of_parts :
    (classify {} " .nav-x::-ms-a:hover > #B:first-line é".toList = .test ".nav-x:hover > #B é".toList ∧
      Thinned IsDeletable (Text.trim " .nav-x::-ms-a:hover > #B:first-line é".toList) ".nav-x:hover > #B é".toList) ∧
    (∀ name ∈ ['-'] :: allowedNames, ¬ ':' :: name <:+: Text.trim "\na:not(.b-c):bef\\:ore".toList) ∧
    classify {} "\na:not(.b-c):bef\\:ore".toList = .test (Text.trim "\na:not(.b-c):bef\\:ore".toList) := by
  have hparts : classify {} " .nav-x::-ms-a:hover > #B:first-line é".toList = .test ".nav-x:hover > #B é".toList := by decide
  have hnone : ∀ name ∈ ['-'] :: allowedNames, ¬ ':' :: name <:+: Text.trim "\na:not(.b-c):bef\\:ore".toList := by decide
  have hwhole : classify {} "\na:not(.b-c):bef\\:ore".toList = .test "a:not(.b-c):bef\\:ore".toList := by decide
  refine ⟨⟨hparts, (tested_thinned _ _ _ hparts).1⟩, hnone, ?_⟩
  rw [← (tested_thinned _ _ _ hwhole).2.2.2 hnone]
  exact hwhole

end CriticalCss.Selector

import CriticalCss.Proofs.Purity

/-!
# Spaces between what is left

A selector in canonical form is its words with one space between each two of them, and so is what is looked for, but its words have gone
through the passes one by one (`stripVendor_stripAllowed_unwords`). A word that is deleted as a whole leaves its spaces behind: of
`a :before` the passes leave `a` and a space. So what is looked for is in canonical form exactly if each word of the selector keeps
something (`tested_unwords`).
-/

namespace CriticalCss.Selector

/-! ## Both passes at a separator -/

theorem vendorSize_of_ne_backslash {previous : Option Char} (h : previous ≠ some '\\') (t : Text) :
    vendorSize previous t = vendorSize none t := by
  rw [vendorSize, vendorSize, if_neg h, if_neg (Option.some_ne_none _).symm]

/-- What is no colon, no backslash and may not stand in a name parts a text into two that go through both passes alone. -/
theorem stripVendor_stripAllowed_append_cons {c : Char} (hcolon : c ≠ ':') (hescape : c ≠ '\\') (hpart : isVendorPart c = false)
    (before after : Text) :
    stripVendor (stripAllowed (before ++ c :: after)) =
      stripVendor (stripAllowed before) ++ c :: stripVendor (stripAllowed after) := by
  have hallowed : stripAllowed (before ++ c :: after) = stripAllowed before ++ c :: stripAllowed after := by
    have hpass := (pass_deleteTokens fits_allowedSize before).append_cons (separates_allowedSize hcolon hpart)
      (pass_deleteFrom fits_allowedSize (some c) after)
    rw [deleteFrom_eq_deleteTokens] at hpass
    exact hpass.eq_deleteFrom.symm
  have hvendor : ∀ s t : Text, stripVendor (s ++ c :: t) = stripVendor s ++ c :: stripVendor t := by
    intro s t
    have hpass := (pass_deleteTokens fits_vendorSize s).append_cons (separates_vendorSize hcolon hpart)
      (pass_deleteFrom fits_vendorSize (some c) t)
    rw [deleteFrom_congr (vendorSize_of_ne_backslash (by simpa using hescape))] at hpass
    exact hpass.eq_deleteFrom.symm
  rw [hallowed, hvendor]

/-- Joined words go through both passes one by one. -/
theorem stripVendor_stripAllowed_unwords (ws : List Text) :
    stripVendor (stripAllowed (Text.unwords ws)) = Text.unwords (ws.map fun w => stripVendor (stripAllowed w)) := by
  induction ws with
  | nil => rfl
  | cons w ws ih =>
    cases ws with
    | nil => simp [Text.unwords]
    | cons v ws =>
      rw [Text.unwords_cons_cons, stripVendor_stripAllowed_append_cons (by decide) (by decide) (by decide), ih]
      simp only [List.map_cons, Text.unwords_cons_cons]

/-- A word that does not begin with a colon keeps at least its first code point. -/
theorem stripVendor_stripAllowed_ne_nil {w : Text} (hne : w ≠ []) (h : w.head? ≠ some ':') : stripVendor (stripAllowed w) ≠ [] := by
  obtain ⟨c, w, rfl⟩ := List.exists_cons_of_ne_nil hne
  have hc : c ≠ ':' := by simpa using h
  have hallowed : (stripAllowed (c :: w)).head? = some c := beginWithColon_allowedSize.head?_deleteTokens hc rfl
  have hvendor : (stripVendor (stripAllowed (c :: w))).head? = some c := beginWithColon_vendorSize.head?_deleteTokens hc hallowed
  intro hnil
  rw [hnil] at hvendor
  cases hvendor

/-! ## Main statement -/

section

variable [Host] {force : ForceLists} {selector u : Text}

theorem eq_unwords_of_tested (hcanonical : Text.collapse selector = selector) (h : classify force selector = .test u) :
    u = Text.unwords ((Text.words selector).map fun w => stripVendor (stripAllowed w)) := by
  rw [eq_of_classify_eq_test h, Text.trim_of_collapse_eq hcanonical, ← stripVendor_stripAllowed_unwords]
  exact congrArg (fun t => stripVendor (stripAllowed t)) hcanonical.symm

/-- The case in which no word is left cannot come about, because a selector of which only blanks are left is not looked for. -/
theorem collapse_tested_iff (hcanonical : Text.collapse selector = selector) (h : classify force selector = .test u) :
    Text.collapse u = u ↔ ∀ w ∈ Text.words selector, stripVendor (stripAllowed w) ≠ [] := by
  have hpieces : ∀ w ∈ (Text.words selector).map fun w => stripVendor (stripAllowed w), ∀ c ∈ w, Text.isBlank c = false := by
    intro w hw c hc
    obtain ⟨v, hv, rfl⟩ := List.mem_map.mp hw
    exact (Text.mem_words hv).2 c ((stripVendor_stripAllowed_sublist v).subset hc)
  have hu := eq_unwords_of_tested hcanonical h
  have hsome : (Text.words selector).map (fun w => stripVendor (stripAllowed w)) = [] ∨
      ∃ w ∈ (Text.words selector).map fun w => stripVendor (stripAllowed w), w ≠ [] := by
    by_cases hnone : Text.words selector = []
    · exact Or.inl (by rw [hnone, List.map_nil])
    · have hleft : Text.words u ≠ [] :=
        Text.words_ne_nil_iff.mpr (exists_not_blank_of_tested h (Text.words_ne_nil_iff.mp hnone))
      obtain ⟨w, hw⟩ := List.exists_mem_of_ne_nil _ hleft
      rw [hu, Text.words_unwords hpieces, List.mem_filter] at hw
      exact Or.inr ⟨w, hw.1, of_decide_eq_true hw.2⟩
  rw [hu, Text.collapse_unwords_eq_iff hpieces hsome, List.forall_mem_map]

/-- What is looked for of a selector in canonical form, in four parts.
1. It is the words of the selector, each gone through both passes, with one space between each two of them.
2. It is in canonical form exactly if each word of the selector keeps something.
3. It is in canonical form if no word of the selector begins with a colon.
4. Of two selectors whose words all keep something, the same words are looked for only if the same text is. -/
theorem tested_unwords (force : ForceLists) (selector u : Text) (hcanonical : Text.collapse selector = selector)
    (h : classify force selector = .test u) :
    u = Text.unwords ((Text.words selector).map fun w => stripVendor (stripAllowed w)) ∧
    (Text.collapse u = u ↔ ∀ w ∈ Text.words selector, stripVendor (stripAllowed w) ≠ []) ∧
    ((∀ w ∈ Text.words selector, w.head? ≠ some ':') → Text.collapse u = u) ∧
    (∀ other selector' u', Text.collapse selector' = selector' → classify other selector' = .test u' →
      (∀ w ∈ Text.words selector ++ Text.words selector', stripVendor (stripAllowed w) ≠ []) → Text.words u = Text.words u' → u = u') := by
  have hiff := collapse_tested_iff hcanonical h
  refine ⟨eq_unwords_of_tested hcanonical h, hiff, fun hcolon => ?_, ?_⟩
  · exact hiff.mpr fun w hw => stripVendor_stripAllowed_ne_nil (Text.mem_words hw).1 (hcolon w hw)
  · intro other selector' u' hcanonical' h' hkept hwords
    rw [List.forall_mem_append] at hkept
    have hu : Text.unwords (Text.words u) = u := hiff.mpr hkept.1
    have hu' : Text.unwords (Text.words u') = u' := (collapse_tested_iff hcanonical' h').mpr hkept.2
    rw [← hu, hwords, hu']

end

open Host.Plain in
/-- Where each word keeps something, the spaces between them are left as they were. -/
theorem tested_unwords_of_descendant :
    Text.collapse ".nav a:hover::after > b::-ms-x".toList = ".nav a:hover::after > b::-ms-x".toList ∧
    classify {} ".nav a:hover::after > b::-ms-x".toList = .test ".nav a:hover > b".toList ∧
    Text.collapse ".nav a:hover > b".toList = ".nav a:hover > b".toList := by
  have hcanonical : Text.collapse ".nav a:hover::after > b::-ms-x".toList = ".nav a:hover::after > b::-ms-x".toList := by decide
  have h : classify {} ".nav a:hover::after > b::-ms-x".toList = .test ".nav a:hover > b".toList := by decide
  exact ⟨hcanonical, h, (tested_unwords _ _ _ hcanonical h).2.2.1 (by decide)⟩

open Host.Plain in
/-- A word that is nothing but a part leaves its spaces behind, at the end or next to each other. -/
theorem deleted_word_leaves_spaces :
    (Text.collapse "a :before".toList = "a :before".toList ∧ classify {} "a :before".toList = .test "a ".toList ∧
      Text.collapse "a ".toList ≠ "a ".toList) ∧
    (Text.collapse "a ::-ms-x b".toList = "a ::-ms-x b".toList ∧ classify {} "a ::-ms-x b".toList = .test "a  b".toList ∧
      Text.collapse "a  b".toList ≠ "a  b".toList) := by
  decide

end CriticalCss.Selector

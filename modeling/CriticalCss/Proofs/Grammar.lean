import Mathlib.Computability.Language
import CriticalCss.Proofs.Purity

/-!
# The three answers to a selector with a colon

A selector is nothing but pseudo parts when a pass that deletes them leaves only blanks. Said without the pass: a grammar spells the
selector with blanks and pseudo tokens, in any number and order (`pseudoTexts`). The pass and the grammar cut colons differently, since a
part may have two colons and a token has one, but what is outside is told by one bit of memory for either, so they agree on every text
(`isPurePseudo_iff`). With it, which answer a selector gets is said of its text alone (`classify_of_colon`).
-/

namespace CriticalCss.Selector

open scoped Computability

variable {t w : Text}

/-! ## The grammar -/

/-- The texts of one code point of a kind. -/
def letters (kind : Char → Prop) : Language Char := {w | ∃ c, kind c ∧ w = [c]}

/-- An ASCII letter or digit, a hyphen or an underscore. -/
def IsNameLetter (c : Char) : Prop :=
  ('a' ≤ c ∧ c ≤ 'z') ∨ ('A' ≤ c ∧ c ≤ 'Z') ∨ ('0' ≤ c ∧ c ≤ '9') ∨ c = '-' ∨ c = '_'

/-- A pseudo token is a colon with any number of letters, digits, hyphens and underscores behind it. -/
def pseudoTokens : Language Char := {[':']} * (letters IsNameLetter)∗

/-- Blanks and pseudo tokens, any number of them one behind the other. -/
def pseudoTexts : Language Char := (letters (Text.isBlank · = true) + pseudoTokens)∗

theorem mem_kstar_letters_iff {kind : Char → Prop} : w ∈ (letters kind)∗ ↔ ∀ c ∈ w, kind c := by
  constructor
  · rintro ⟨pieces, rfl, hpieces⟩ c hc
    obtain ⟨piece, hpiece, hc⟩ := List.mem_flatten.mp hc
    obtain ⟨d, hd, rfl⟩ := hpieces piece hpiece
    rwa [List.mem_singleton.mp hc]
  · intro h
    refine ⟨w.map fun c => [c], (List.flatMap_singleton' w).symm, ?_⟩
    intro piece hpiece
    obtain ⟨c, hc, rfl⟩ := List.mem_map.mp hpiece
    exact ⟨c, h c hc, rfl⟩

theorem mem_pseudoTokens_iff : w ∈ pseudoTokens ↔ ∃ name, w = ':' :: name ∧ ∀ c ∈ name, IsNameLetter c := by
  constructor
  · rintro ⟨colon, rfl, name, hname, rfl⟩
    exact ⟨name, rfl, mem_kstar_letters_iff.mp hname⟩
  · rintro ⟨name, rfl, hname⟩
    exact Language.append_mem_mul (Set.mem_singleton [':']) (mem_kstar_letters_iff.mpr hname)

theorem nil_mem_pseudoTexts : [] ∈ pseudoTexts := Language.nil_mem_kstar _

theorem append_mem_pseudoTexts (hw : w ∈ letters (Text.isBlank · = true) + pseudoTokens) (ht : t ∈ pseudoTexts) :
    w ++ t ∈ pseudoTexts := by
  have hle := mul_kstar_le_kstar (a := letters (Text.isBlank · = true) + pseudoTokens)
  exact hle (Language.append_mem_mul hw ht)

/-- What holds of the empty text, and stays true when a blank or a pseudo token is put in front, holds of all texts that the grammar
spells. -/
theorem pseudoTexts_induction {motive : Text → Prop} (hnil : motive [])
    (hblank : ∀ b t, Text.isBlank b = true → motive t → motive (b :: t))
    (htoken : ∀ name t, (∀ c ∈ name, IsNameLetter c) → motive t → motive (':' :: name ++ t)) (ht : t ∈ pseudoTexts) : motive t := by
  obtain ⟨pieces, rfl, hpieces⟩ := ht
  induction pieces with
  | nil => exact hnil
  | cons piece pieces ih =>
    rw [List.forall_mem_cons] at hpieces
    have hrest := ih hpieces.2
    rw [List.flatten_cons]
    rcases hpieces.1 with ⟨b, hb, rfl⟩ | hpiece
    · exact hblank b _ hb hrest
    · obtain ⟨name, rfl, hname⟩ := mem_pseudoTokens_iff.mp hpiece
      exact htoken name _ hname hrest

/-! ## The pass and the grammar -/

/-- The class of the pass is the one that the grammar spells out. -/
theorem isNamePart_iff {c : Char} : isNamePart c = true ↔ IsNameLetter c := by
  unfold isNamePart IsNameLetter Char.isAlpha Char.isUpper Char.isLower Char.isDigit
  simp only [Bool.or_eq_true, Bool.and_eq_true, decide_eq_true_eq, beq_iff_eq, Char.le_def, ge_iff_le]
  tauto

theorem isBlank_eq_false_of_isNameLetter {c : Char} (h : IsNameLetter c) : Text.isBlank c = false := by
  simp only [IsNameLetter, Char.le_def, UInt32.le_iff_toNat_le] at h
  rcases h with h | h | h | rfl | rfl
  · change 97 ≤ c.toNat ∧ c.toNat ≤ 122 at h
    simp [Text.isBlank]
    omega
  · change 65 ≤ c.toNat ∧ c.toNat ≤ 90 at h
    simp [Text.isBlank]
    omega
  · change 48 ≤ c.toNat ∧ c.toNat ≤ 57 at h
    simp [Text.isBlank]
    omega
  · decide
  · decide

/-- A blank is outside pseudo parts wherever it stands. -/
theorem outside_cons_blank {b : Char} (hb : Text.isBlank b = true) (behind : Bool) (rest : Text) :
    outside behind (b :: rest) = b :: outside false rest := by
  refine outside_cons_of_outside ?_ rest
  rintro (rfl | ⟨-, hname⟩)
  · cases hb
  · rw [isBlank_eq_false_of_isNameLetter (isNamePart_iff.mp hname)] at hb
    cases hb

/-- Of a text that the grammar spells only blanks are outside pseudo parts, wherever the text stands. -/
theorem isBlank_of_mem_outside (ht : t ∈ pseudoTexts) : ∀ behind, ∀ c ∈ outside behind t, Text.isBlank c = true := by
  refine pseudoTexts_induction (motive := fun t => ∀ behind, ∀ c ∈ outside behind t, Text.isBlank c = true) ?_ ?_ ?_ ht
  · intro behind c hc
    cases hc
  · intro b t hb ih behind
    rw [outside_cons_blank hb, List.forall_mem_cons]
    exact ⟨hb, ih false⟩
  · intro name t hname ih behind
    have hinside : ∀ c ∈ name, c = ':' ∨ isNamePart c = true := by
      intro c hc
      exact Or.inr (isNamePart_iff.mpr (hname c hc))
    rw [List.cons_append, outside_cons_of_inside (Or.inl rfl), outside_append hinside]
    exact ih true

/-- A text of which only blanks are outside pseudo parts goes on with the name in front of it, if there is one, and the grammar spells the
rest. -/
theorem exists_name_of_outside {behind : Bool} (h : ∀ c ∈ outside behind t, Text.isBlank c = true) :
    ∃ name rest, t = name ++ rest ∧ (∀ c ∈ name, IsNameLetter c) ∧ (behind = false → name = []) ∧ rest ∈ pseudoTexts := by
  -- behind a pseudo part the grammar spells no text of its own, so the name that is still to come is split off
  induction t generalizing behind with
  | nil => exact ⟨[], [], rfl, by simp, fun _ => rfl, nil_mem_pseudoTexts⟩
  | cons c t ih =>
    by_cases hc : c = ':' ∨ behind = true ∧ isNamePart c = true
    · rw [outside_cons_of_inside hc] at h
      obtain ⟨name, rest, rfl, hname, -, hrest⟩ := ih h
      rcases hc with rfl | ⟨rfl, hc⟩
      · have htoken : ':' :: name ∈ pseudoTokens := mem_pseudoTokens_iff.mpr ⟨name, rfl, hname⟩
        exact ⟨[], ':' :: name ++ rest, rfl, by simp, fun _ => rfl, append_mem_pseudoTexts (Or.inr htoken) hrest⟩
      · exact ⟨c :: name, rest, rfl, List.forall_mem_cons.mpr ⟨isNamePart_iff.mp hc, hname⟩, by simp, hrest⟩
    · rw [outside_cons_of_outside hc, List.forall_mem_cons] at h
      obtain ⟨name, rest, rfl, -, hnone, hrest⟩ := ih h.2
      rw [hnone rfl, List.nil_append]
      exact ⟨[], c :: rest, rfl, by simp, fun _ => rfl, append_mem_pseudoTexts (Or.inl ⟨c, h.1, rfl⟩) hrest⟩

/-- A text is nothing but pseudo parts exactly if the grammar spells it. -/
theorem isPurePseudo_iff : isPurePseudo t = true ↔ t ∈ pseudoTexts := by
  rw [isPurePseudo, deleteTokens_pseudoSize, List.all_eq_true]
  constructor
  · intro h
    obtain ⟨name, rest, rfl, -, hnone, hrest⟩ := exists_name_of_outside h
    rwa [hnone rfl]
  · intro h
    exact isBlank_of_mem_outside h false

/-! ## Main statement -/

/-- The name of a selection stands directly behind a colon. -/
def NamesSelection (t : Text) : Prop := ":selection".toList <:+: t ∨ ":-moz-selection".toList <:+: t

instance (t : Text) : Decidable (NamesSelection t) := inferInstanceAs (Decidable (_ ∨ _))

theorem mentionsSelection_iff_namesSelection : mentionsSelection t = true ↔ NamesSelection t := by
  rw [mentionsSelection_iff, selectionNames, List.exists_mem_cons_iff, List.exists_mem_cons_iff]
  simp [NamesSelection]

/-- What becomes of a selector with a colon that no pattern selects. -/
theorem classify_eq_of_mem_colon [Host] {selector : Text} (h : ':' ∈ selector) :
    classify {} selector =
      if mentionsSelection (Text.trim selector) then .drop
      else if isPurePseudo (stripAllowed (Text.trim selector)) then .keep
      else .test (stripVendor (stripAllowed (Text.trim selector))) := by
  have hcolon : ':' ∈ Text.trim selector := Text.mem_trim_of_not_blank h rfl
  have hordinary : (!(Text.trim selector).elem ':') = false := by simpa using hcolon
  simp only [classify, verdict, Pattern.anySelects, List.any_nil, Bool.false_eq_true, if_false, hordinary]
  split_ifs <;> rfl

/-- A selector with a colon that no pattern selects, in three parts.
1. It is dropped exactly if the name of a selection stands directly behind a colon.
2. Otherwise it is kept exactly if what is left of it without its allowed parts is spelled with blanks and pseudo tokens.
3. In all remaining cases a text is looked for, which is the selector without its allowed parts and then without its vendor parts. -/
theorem classify_of_colon [Host] (selector : Text) (h : ':' ∈ selector) :
    (classify {} selector = .drop ↔ NamesSelection (Text.trim selector)) ∧
    (¬NamesSelection (Text.trim selector) →
      (classify {} selector = .keep ↔ stripAllowed (Text.trim selector) ∈ pseudoTexts)) ∧
    (¬NamesSelection (Text.trim selector) → stripAllowed (Text.trim selector) ∉ pseudoTexts →
      classify {} selector = .test (stripVendor (stripAllowed (Text.trim selector)))) := by
  rw [classify_eq_of_mem_colon h, ← mentionsSelection_iff_namesSelection, ← isPurePseudo_iff]
  split_ifs with hmentions hpure
  · simp [hmentions]
  · simp [hmentions, hpure]
  · simp [hmentions, hpure]

open Host.Plain in
/-- Each colon of a run is a token, with a name behind the last one; a letter in front of a token makes a selector one to look for; and of the
colons in front of the name of a selection only the last one counts. -/
theorem classify_of_colonRuns :
    (':' ∈ " ::before :hover\t:::-moz-x".toList ∧ classify {} " ::before :hover\t:::-moz-x".toList = .keep ∧
      " :hover\t:::-moz-x".toList ∈ pseudoTexts) ∧
    (':' ∈ "a :hover::-ms-b".toList ∧ "a :hover::-ms-b".toList ∉ pseudoTexts ∧
      classify {} "a :hover::-ms-b".toList = .test "a :hover".toList) ∧
    ':' ∈ "p:::selection".toList ∧ classify {} "p:::selection".toList = .drop := by
  have hkept : classify {} " ::before :hover\t:::-moz-x".toList = .keep := by decide
  have htoken : "a :hover::-ms-b".toList ∉ pseudoTexts := by
    rw [← isPurePseudo_iff]
    decide
  refine ⟨⟨by decide, hkept, ?_⟩, ⟨by decide, htoken, ?_⟩, by decide, ?_⟩
  · exact ((classify_of_colon _ (by decide)).2.1 (by decide)).mp hkept
  · exact (classify_of_colon _ (by decide)).2.2 (by decide) htoken
  · exact (classify_of_colon _ (by decide)).1.mpr (by decide)

end CriticalCss.Selector

import Mathlib.Logic.Relation
import CriticalCss.Proofs.Words

/-!
# Texts with the same canonical form

Which texts are canonical forms, and which texts have the same one. How a text is split into words is a relation on the text itself
(`Splits`): words that go on as far as they can, with a gap of blanks in front of each. Each text is split in one way only
(`splits_iff`). A text is a canonical form exactly if it holds single spaces between words and no other blanks (`collapse_eq_self_iff`).
Two texts have the same canonical form exactly if one becomes the other by the exchange of gaps (`Respaced`): a gap between words may be
exchanged for any other, but not for nothing. One exchange keeps the words, so a run of them does. The other way round, texts with the
same words become one another gap by gap, from left to right (`Splits.respaced`).
-/

namespace CriticalCss.Text

variable {s t gap w rest : Text} {ws : List Text}

/-! ## Gaps -/

/-- A gap holds blanks only. It may be empty. -/
def IsGap (t : Text) : Prop := ∀ c ∈ t, isBlank c = true

theorem isGap_nil : IsGap [] := List.forall_mem_nil _

theorem IsGap.filter_eq (hgap : IsGap gap) : gap.filter (fun c => !isBlank c) = [] :=
  List.filter_eq_nil_iff.mpr fun c hc => by simp [hgap c hc]

/-- A text has no words exactly if it is a gap. -/
theorem words_eq_nil_iff : words t = [] ↔ IsGap t := by
  rw [← not_iff_not, ← ne_eq, words_ne_nil_iff, IsGap]
  simp

/-- A gap in front of a text does not change its words. -/
theorem words_gap_append (hgap : IsGap gap) (t : Text) : words (gap ++ t) = words t := by
  rw [words_append (Or.inl fun c hc => hgap c (List.mem_of_getLast? hc)), words_eq_nil_iff.mpr hgap, List.nil_append]

/-- A gap at the end of a text does not change its words. -/
theorem words_append_gap (hgap : IsGap gap) (t : Text) : words (t ++ gap) = words t := by
  rw [words_append (Or.inr fun c hc => hgap c (List.mem_of_head? hc)), words_eq_nil_iff.mpr hgap, List.append_nil]

/-- A gap that is not empty parts the words in front of it from those behind it. -/
theorem words_append_gap_append (hne : gap ≠ []) (hgap : IsGap gap) (s t : Text) :
    words (s ++ (gap ++ t)) = words s ++ words t := by
  have hfirst : ∀ c, (gap ++ t).head? = some c → isBlank c = true := by
    intro c hc
    rw [List.head?_append_of_ne_nil gap hne] at hc
    exact hgap c (List.mem_of_head? hc)
  rw [words_append (Or.inr hfirst), words_gap_append hgap]

/-! ## Splitting -/

/-- A word is not empty and holds no blank. -/
def IsWord (w : Text) : Prop := w ≠ [] ∧ ∀ c ∈ w, isBlank c = false

/-- A text goes on with a blank or is at its end. -/
def EndsWord (t : Text) : Prop := ∀ c, t.head? = some c → isBlank c = true

theorem endsWord_nil : EndsWord [] := by
  intro c hc
  cases hc

/-- How a text is split into words: in front of each word is a gap, and the word goes on as far as it can. Behind the last word is a
gap. -/
inductive Splits : Text → List Text → Prop
  | gap {gap : Text} : IsGap gap → Splits gap []
  | word {gap w rest : Text} {ws : List Text} : IsGap gap → IsWord w → EndsWord rest → Splits rest ws →
      Splits (gap ++ (w ++ rest)) (w :: ws)

/-- The gap in front of the first word is not empty if the text begins with a blank. -/
theorem IsWord.gap_ne_nil (hw : IsWord w) (h : EndsWord (gap ++ (w ++ rest))) : gap ≠ [] := by
  rintro rfl
  obtain ⟨c, w, rfl⟩ := List.exists_cons_of_ne_nil hw.1
  have hc := h c rfl
  rw [hw.2 c List.mem_cons_self] at hc
  cases hc

theorem Splits.cons_blank {b : Char} (hb : isBlank b = true) (h : Splits t ws) : Splits (b :: t) ws := by
  cases h with
  | gap hgap => exact .gap (List.forall_mem_cons.mpr ⟨hb, hgap⟩)
  | word hgap hw hrest hws => exact .word (List.forall_mem_cons.mpr ⟨hb, hgap⟩) hw hrest hws

/-- A code point in front of a blank or the end is a word. -/
theorem Splits.cons_word {c : Char} (hc : isBlank c = false) (ht : EndsWord t) (h : Splits t ws) : Splits (c :: t) ([c] :: ws) :=
  @Splits.word [] [c] t ws isGap_nil ⟨List.cons_ne_nil c [], by simpa using hc⟩ ht h

/-- A code point in front of a word makes the word longer. -/
theorem Splits.cons_cons {c d : Char} (hc : isBlank c = false) (hd : isBlank d = false) (h : Splits (d :: t) (w :: ws)) :
    Splits (c :: d :: t) ((c :: w) :: ws) := by
  generalize hsplit : d :: t = whole at h
  cases h with
  | @word gap w rest ws hgap hw hrest hws =>
    cases gap with
    | nil => exact @Splits.word [] (c :: w) rest ws hgap ⟨List.cons_ne_nil c w, List.forall_mem_cons.mpr ⟨hc, hw.2⟩⟩ hrest hws
    | cons b gap =>
      rw [List.cons_append, List.cons_eq_cons] at hsplit
      rw [hsplit.1, hgap b List.mem_cons_self] at hd
      cases hd

/-- A text is split into its words. -/
theorem splits_words (t : Text) : Splits t (words t) := by
  fun_induction words t with
  | case1 => exact .gap isGap_nil
  | case2 c hc => exact .gap (by simpa [IsGap] using hc)
  | case3 c hc => exact .cons_word (by simpa using hc) endsWord_nil (.gap isGap_nil)
  | case4 c d rest hc ih => exact ih.cons_blank hc
  | case5 c d rest hc hd ih => exact ih.cons_word (by simpa using hc) (by simpa [EndsWord] using hd)
  | case6 c d rest hc hd hws ih => exact absurd hws (words_ne_nil (by simpa using hd) rest)
  | case7 c d rest hc hd w ws hws ih =>
    rw [hws] at ih
    exact ih.cons_cons (by simpa using hc) (by simpa using hd)

theorem Splits.words_eq (h : Splits t ws) : words t = ws := by
  induction h with
  | gap hgap => exact words_eq_nil_iff.mpr hgap
  | @word gap w rest ws hgap hw hrest _ ih =>
    rw [words_gap_append hgap, words_append (Or.inr hrest), words_of_not_blank hw.1 hw.2, ih, List.singleton_append]

/-- A text is split in one way, into its words. -/
theorem splits_iff : Splits t ws ↔ words t = ws := ⟨Splits.words_eq, fun h => h ▸ splits_words t⟩

/-- The words of a text one behind the other are what is left of it without its blanks. -/
theorem Splits.flatten_eq (h : Splits t ws) : ws.flatten = t.filter fun c => !isBlank c := by
  induction h with
  | gap hgap => exact hgap.filter_eq.symm
  | @word gap w rest ws hgap hw _ _ ih =>
    have hkept : w.filter (fun c => !isBlank c) = w := List.filter_eq_self.mpr fun c hc => by simp [hw.2 c hc]
    rw [List.filter_append, List.filter_append, hgap.filter_eq, hkept, List.nil_append, List.flatten_cons, ih]

/-! ## Single spaces between words -/

/-- A text holds blanks as single spaces only, each between two code points that are no blanks. -/
def Spaced (t : Text) : Prop :=
  ∀ before c after, t = before ++ c :: after → isBlank c = true →
    c = ' ' ∧ (∃ d, before.getLast? = some d ∧ isBlank d = false) ∧ ∃ d, after.head? = some d ∧ isBlank d = false

theorem spaced_of_not_blank (h : ∀ c ∈ t, isBlank c = false) : Spaced t := by
  rintro before c after rfl hc
  rw [h c (List.mem_append_right before List.mem_cons_self)] at hc
  cases hc

/-- A single space may stand between a text that ends with no blank and a text that begins with none. -/
theorem Spaced.append (hs : Spaced s) (ht : Spaced t) (hlast : ∃ d, s.getLast? = some d ∧ isBlank d = false)
    (hfirst : ∃ d, t.head? = some d ∧ isBlank d = false) : Spaced (s ++ ' ' :: t) := by
  intro before c after hsplit hc
  -- the blank is the space between the two texts, or it stands in one of them
  rcases List.append_eq_append_iff.mp hsplit with ⟨more, rfl, hmore⟩ | ⟨more, rfl, hmore⟩
  · cases more with
    | nil =>
      obtain ⟨rfl, rfl⟩ := List.cons_eq_cons.mp hmore
      exact ⟨rfl, by rwa [List.append_nil], hfirst⟩
    | cons b more =>
      obtain ⟨rfl, rfl⟩ := List.cons_eq_cons.mp hmore
      obtain ⟨hspace, ⟨d, hd, hnot⟩, hafter⟩ := ht more c after rfl hc
      refine ⟨hspace, ⟨d, ?_, hnot⟩, hafter⟩
      rw [List.getLast?_append, List.getLast?_cons, hd]
      rfl
  · cases more with
    | nil =>
      obtain ⟨rfl, rfl⟩ := List.cons_eq_cons.mp hmore
      exact ⟨rfl, by rwa [List.append_nil] at hlast, hfirst⟩
    | cons b more =>
      rw [List.cons_append] at hmore
      obtain ⟨rfl, rfl⟩ := List.cons_eq_cons.mp hmore
      obtain ⟨hspace, hbefore, d, hd, hnot⟩ := hs before c more rfl hc
      refine ⟨hspace, hbefore, d, ?_, hnot⟩
      rw [List.head?_append, hd]
      rfl

/-- What stands behind a blank is spaced like the whole. -/
theorem Spaced.of_append {b : Char} (hb : isBlank b = true) (h : Spaced (s ++ b :: t)) : Spaced t := by
  intro before c after hsplit hc
  obtain ⟨hspace, ⟨d, hd, hnot⟩, hafter⟩ := h (s ++ b :: before) c after (by rw [hsplit]; simp) hc
  refine ⟨hspace, ⟨d, ?_, hnot⟩, hafter⟩
  cases before with
  | nil =>
    obtain rfl : b = d := by simpa using hd
    rw [hb] at hnot
    cases hnot
  | cons e before => simpa [List.getLast?_append, List.getLast?_cons] using hd

/-- No blank stands in front of a text with single spaces between words. -/
theorem Spaced.gap_eq_nil (h : Spaced (gap ++ t)) (hgap : IsGap gap) : gap = [] := by
  cases gap with
  | nil => rfl
  | cons b gap =>
    obtain ⟨-, ⟨d, hd, -⟩, -⟩ := h [] b (gap ++ t) rfl (hgap b List.mem_cons_self)
    cases hd

theorem spaced_unwords (h : ∀ w ∈ ws, IsWord w) : Spaced (unwords ws) := by
  induction ws with
  | nil => exact spaced_of_not_blank (List.forall_mem_nil _)
  | cons w ws ih =>
    rw [List.forall_mem_cons] at h
    obtain ⟨⟨hne, hw⟩, hws⟩ := h
    by_cases hnil : ws = []
    · simpa [hnil, unwords] using spaced_of_not_blank hw
    · rw [unwords_cons_of_ne_nil w hnil]
      refine (spaced_of_not_blank hw).append (ih hws) ?_ ?_
      · exact ⟨_, List.getLast?_eq_some_getLast hne, hw _ (List.getLast_mem hne)⟩
      · have hfirst := List.head?_eq_some_head (unwords_ne_nil hws hnil)
        exact ⟨_, hfirst, (ends_unwords hws).1 _ hfirst⟩

/-- A text with single spaces between words is its words, joined. -/
theorem Spaced.unwords_eq (hspaced : Spaced t) (h : Splits t ws) : unwords ws = t := by
  induction ws generalizing t with
  | nil =>
    cases h with
    | gap hgap =>
      rw [← List.append_nil t] at hspaced
      exact (hspaced.gap_eq_nil hgap).symm
  | cons w ws ih =>
    cases h with
    | @word gap _ rest _ hgap hw hrest hws =>
      obtain rfl := hspaced.gap_eq_nil hgap
      rw [List.nil_append] at hspaced ⊢
      cases rest with
      | nil =>
        obtain rfl : ws = [] := hws.words_eq.symm
        simp [unwords]
      | cons b rest =>
        have hb : isBlank b = true := hrest b rfl
        have hbehind : words rest = ws := by rw [← words_cons_blank hb rest, hws.words_eq]
        obtain ⟨rfl, -, d, hd, hnot⟩ := hspaced w b rest rfl hb
        have hmore : ws ≠ [] := by
          rw [← hbehind]
          exact words_ne_nil_iff.mpr ⟨d, List.mem_of_head? hd, hnot⟩
        rw [unwords_cons_of_ne_nil w hmore, ih (hspaced.of_append hb) (splits_iff.mpr hbehind)]

/-- A text is its own canonical form exactly if it holds single spaces between words and no other blanks. -/
theorem collapse_eq_self_iff : collapse t = t ↔ Spaced t := by
  constructor
  · intro h
    rw [← h]
    exact spaced_unwords fun w hw => mem_words hw
  · intro h
    exact h.unwords_eq (splits_words t)

/-! ## Exchanging gaps -/

/-- A text becomes another by the exchange of one gap: of the one in front, of the one at the end, or of one in between, which is neither
empty nor exchanged for nothing. -/
inductive Respaced : Text → Text → Prop
  | front {gap gap' rest : Text} : IsGap gap → IsGap gap' → Respaced (gap ++ rest) (gap' ++ rest)
  | between {before gap gap' behind : Text} : gap ≠ [] → gap' ≠ [] → IsGap gap → IsGap gap' →
      Respaced (before ++ (gap ++ behind)) (before ++ (gap' ++ behind))
  | back {before gap gap' : Text} : IsGap gap → IsGap gap' → Respaced (before ++ gap) (before ++ gap')

theorem Respaced.words_eq (h : Respaced s t) : words s = words t := by
  cases h with
  | front hgap hgap' => rw [words_gap_append hgap, words_gap_append hgap']
  | between hne hne' hgap hgap' => rw [words_append_gap_append hne hgap, words_append_gap_append hne' hgap']
  | back hgap hgap' => rw [words_append_gap hgap, words_append_gap hgap']

theorem words_eq_of_respaced (h : Relation.ReflTransGen Respaced s t) : words s = words t := by
  induction h with
  | refl => rfl
  | tail _ hstep ih => rw [ih, hstep.words_eq]

/-- Texts that are split into the same words become one another, also behind another text, if they do not go on with its last word. -/
theorem Splits.respaced (hs : Splits s ws) (ht : Splits t ws) (before : Text) (hplace : before = [] ∨ EndsWord s ∧ EndsWord t) :
    Relation.ReflTransGen Respaced (before ++ s) (before ++ t) := by
  induction hs generalizing t before with
  | gap hgap =>
    cases ht with
    | gap hgap' => exact .single (.back hgap hgap')
  | @word gap w rest ws hgap hw hrest _ ih =>
    cases ht with
    | @word gap' _ rest' _ hgap' _ hrest' hws' =>
      -- the gap in front of the word is exchanged first, then what stands behind the word
      have hfirst : Respaced (before ++ (gap ++ (w ++ rest))) (before ++ (gap' ++ (w ++ rest))) := by
        rcases hplace with rfl | ⟨hends, hends'⟩
        · exact .front hgap hgap'
        · exact .between (hw.gap_ne_nil hends) (hw.gap_ne_nil hends') hgap hgap'
      have hbehind := ih hws' (before ++ (gap' ++ w)) (Or.inr ⟨hrest, hrest'⟩)
      simp only [List.append_assoc] at hbehind
      exact .head hfirst hbehind

/-- Texts have the same words exactly if one becomes the other by the exchange of gaps. -/
theorem words_eq_words_iff : words s = words t ↔ Relation.ReflTransGen Respaced s t := by
  constructor
  · intro h
    exact (splits_iff.mpr h).respaced (splits_words t) [] (Or.inl rfl)
  · exact words_eq_of_respaced

/-! ## Main statement -/

/-- The canonical form of a text, in six parts.
1. It holds blanks as single spaces only, each between two code points that are no blanks.
2. It holds all that is no blank, in the same order.
3. It is its own canonical form, and a text is its own canonical form exactly if it holds blanks only as in the first part.
4. The words of a text are those that it is split into by gaps.
5. Two texts have the same canonical form exactly if they have the same words.
6. They have the same canonical form exactly if one becomes the other by the exchange of gaps. -/
theorem canonical_form (s t : Text) :
    Spaced (collapse t) ∧
    (collapse t).filter (fun c => !isBlank c) = t.filter (fun c => !isBlank c) ∧
    (collapse (collapse t) = collapse t ∧ (collapse t = t ↔ Spaced t)) ∧
    (∀ ws, Splits t ws ↔ words t = ws) ∧
    (collapse s = collapse t ↔ words s = words t) ∧
    (collapse s = collapse t ↔ Relation.ReflTransGen Respaced s t) := by
  have hwords : collapse s = collapse t ↔ words s = words t := by
    constructor
    · intro h
      rw [← words_collapse s, h, words_collapse]
    · intro h
      rw [collapse, h, collapse]
  refine ⟨spaced_unwords fun w => mem_words, ?_, ⟨collapse_collapse t, collapse_eq_self_iff⟩, fun ws => splits_iff, hwords, ?_⟩
  · rw [← (splits_words (collapse t)).flatten_eq, words_collapse, (splits_words t).flatten_eq]
  · rw [hwords, words_eq_words_iff]

/-- A no-break space is a blank like a tab, but a space of no width is none and stays. -/
example : collapse "\t.a >\u00a0\n .b\u200b ".toList = ".a > .b\u200b".toList := by decide

end CriticalCss.Text

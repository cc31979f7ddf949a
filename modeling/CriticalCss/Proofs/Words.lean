import Mathlib.Data.List.Basic
import Mathlib.Data.List.TakeWhile
import CriticalCss.Text.Basic

/-!
# Words and blanks

Everything about words follows from two equations: a blank parts the words in front of it from those behind it
(`words_append_blank`), and a text without blanks is one word (`words_of_not_blank`). Joining words and taking the words again are
inverse to each other up to empty pieces (`words_unwords`). A text is in canonical form exactly if it is its own canonical form; then
trimming takes nothing from it (`trim_of_collapse_eq`). The canonical form of two texts put together holds those of both, with one space
between them at most (`exists_collapse_append`).
-/

namespace CriticalCss.Text

variable {t w : Text}

/-! ## Trimming -/

/-- A run of code points of one kind takes all that stand there. -/
theorem eq_false_of_head?_dropWhile {kind : Char → Bool} {c : Char} (h : (t.dropWhile kind).head? = some c) : kind c = false := by
  have hnot := List.head?_dropWhile_not kind t
  rwa [h] at hnot

/-- Trimming takes blanks from both ends and nothing else. -/
theorem exists_trim (t : Text) :
    ∃ front back, t = front ++ (trim t ++ back) ∧ (∀ c ∈ front, isBlank c = true) ∧ ∀ c ∈ back, isBlank c = true := by
  refine ⟨t.takeWhile isBlank, ((trimStart t).reverse.takeWhile isBlank).reverse, ?_, fun c => List.mem_takeWhile_imp, fun c hc => ?_⟩
  · rw [trim, trimEnd, ← List.reverse_append, List.takeWhile_append_dropWhile, List.reverse_reverse, trimStart,
      List.takeWhile_append_dropWhile]
  · exact List.mem_takeWhile_imp (List.mem_reverse.mp hc)

theorem trim_sublist (t : Text) : (trim t).Sublist t := by
  have hend : (trimEnd (trimStart t)).Sublist (trimStart t) := by
    have hdrop := List.reverse_sublist.mpr (List.dropWhile_sublist (l := (trimStart t).reverse) isBlank)
    rwa [List.reverse_reverse] at hdrop
  exact hend.trans (List.dropWhile_sublist isBlank)

/-- What is no blank is not trimmed. -/
theorem mem_trim_of_not_blank {c : Char} (h : c ∈ t) (hc : isBlank c = false) : c ∈ trim t := by
  obtain ⟨front, back, hsplit, hfront, hback⟩ := exists_trim t
  rw [hsplit, List.mem_append, List.mem_append] at h
  rcases h with h | h | h
  · rw [hfront c h] at hc
    cases hc
  · exact h
  · rw [hback c h] at hc
    cases hc

/-- A text that neither begins nor ends with a blank is left as it is. -/
theorem trim_eq_self (hfirst : ∀ c, t.head? = some c → isBlank c = false) (hlast : ∀ c, t.getLast? = some c → isBlank c = false) :
    trim t = t := by
  have hkept : ∀ s : Text, (∀ c, s.head? = some c → isBlank c = false) → s.dropWhile isBlank = s := by
    intro s hs
    cases s with
    | nil => rfl
    | cons c s => exact List.dropWhile_cons_of_neg (by rw [hs c rfl]; exact Bool.false_ne_true)
  rw [trim, trimStart, hkept t hfirst, trimEnd, hkept, List.reverse_reverse]
  intro c hc
  exact hlast c (by rwa [List.head?_reverse] at hc)

/-- A trimmed text is left as it is. -/
theorem trim_trim (t : Text) : trim (trim t) = trim t := by
  have hprefix : trim t <+: trimStart t := by
    have hsuffix := List.reverse_prefix.mpr (List.dropWhile_suffix (l := (trimStart t).reverse) isBlank)
    rwa [List.reverse_reverse] at hsuffix
  refine trim_eq_self ?_ ?_
  · intro c hc
    obtain ⟨rest, hrest⟩ := hprefix
    have hhead : (t.dropWhile isBlank).head? = some c := by
      rw [← trimStart, ← hrest, List.head?_append, hc]
      rfl
    exact eq_false_of_head?_dropWhile hhead
  · intro c hc
    rw [trim, trimEnd, List.getLast?_reverse] at hc
    exact eq_false_of_head?_dropWhile hc

/-! ## Words -/

theorem words_cons_blank {b : Char} (hb : isBlank b = true) (t : Text) : words (b :: t) = words t := by
  cases t with
  | nil => simp [words, hb]
  | cons c t => simp [words, hb]

theorem words_ne_nil {c : Char} (hc : isBlank c = false) (t : Text) : words (c :: t) ≠ [] := by
  cases t with
  | nil => simp [words, hc]
  | cons d t =>
    unfold words
    simp only [hc, Bool.false_eq_true, if_false]
    split
    · exact List.cons_ne_nil _ _
    · split <;> exact List.cons_ne_nil _ _

/-- A text has words exactly if it holds something besides blanks. -/
theorem words_ne_nil_iff : words t ≠ [] ↔ ∃ c ∈ t, isBlank c = false := by
  induction t with
  | nil => simp [words]
  | cons c t ih =>
    rw [List.exists_mem_cons_iff, ← ih]
    cases hc : isBlank c with
    | true => simp [words_cons_blank hc]
    | false => exact iff_of_true (words_ne_nil hc t) (Or.inl rfl)

/-- A blank parts the words in front of it from those behind it. -/
theorem words_append_blank {b : Char} (hb : isBlank b = true) (s t : Text) : words (s ++ b :: t) = words s ++ words t := by
  induction s with
  | nil => exact words_cons_blank hb t
  | cons c s ih =>
    by_cases hc : isBlank c = true
    · rw [List.cons_append, words_cons_blank hc, words_cons_blank hc, ih]
    · rw [Bool.not_eq_true] at hc
      cases s with
      | nil => simp [words, hc, hb, words_cons_blank hb]
      | cons d s =>
        rw [List.cons_append] at ih
        rw [List.cons_append, List.cons_append]
        by_cases hd : isBlank d = true
        · simp [words, hc, hd, ih]
        · rw [Bool.not_eq_true] at hd
          obtain ⟨w, ws, hws⟩ := List.exists_cons_of_ne_nil (words_ne_nil hd s)
          simp [words, hc, hd, ih, hws]

/-- A text without blanks is one word. -/
theorem words_of_not_blank (hne : w ≠ []) (h : ∀ c ∈ w, isBlank c = false) : words w = [w] := by
  induction w with
  | nil => exact absurd rfl hne
  | cons c w ih =>
    rw [List.forall_mem_cons] at h
    cases w with
    | nil => simp [words, h.1]
    | cons d w =>
      have hd := h.2 d List.mem_cons_self
      simp [words, h.1, hd, ih (List.cons_ne_nil d w) h.2]

/-- A word is not empty and holds no blank. -/
theorem mem_words (h : w ∈ words t) : w ≠ [] ∧ ∀ c ∈ w, isBlank c = false := by
  fun_induction words t generalizing w with
  | case1 => cases h
  | case2 c hc => cases h
  | case3 c hc =>
    obtain rfl := List.mem_singleton.mp h
    exact ⟨List.cons_ne_nil c [], by simpa using hc⟩
  | case4 c d rest hc ih => exact ih h
  | case5 c d rest hc hd ih =>
    rcases List.mem_cons.mp h with rfl | h
    · exact ⟨List.cons_ne_nil c [], by simpa using hc⟩
    · exact ih h
  | case6 c d rest hc hd hws ih =>
    obtain rfl := List.mem_singleton.mp h
    exact ⟨List.cons_ne_nil c [], by simpa using hc⟩
  | case7 c d rest hc hd v ws hws ih =>
    rw [hws] at ih
    rcases List.mem_cons.mp h with rfl | h
    · exact ⟨List.cons_ne_nil c v, List.forall_mem_cons.mpr ⟨by simpa using hc, (ih List.mem_cons_self).2⟩⟩
    · exact ih (List.mem_cons_of_mem v h)

/-! ## Words of texts put together -/

/-- Texts that do not meet inside a word have their words one after the other. -/
theorem words_append {s t : Text} (h : (∀ c, s.getLast? = some c → isBlank c = true) ∨ ∀ c, t.head? = some c → isBlank c = true) :
    words (s ++ t) = words s ++ words t := by
  rcases h with hlast | hfirst
  · rcases List.eq_nil_or_concat s with rfl | ⟨s, c, rfl⟩
    · rfl
    · have hc : isBlank c = true := hlast c (by simp)
      have hs : words (s ++ [c]) = words s := by
        rw [words_append_blank hc]
        exact List.append_nil _
      rw [List.concat_eq_append, hs, List.append_assoc]
      exact words_append_blank hc s t
  · cases t with
    | nil => simp [words]
    | cons c t =>
      have hc : isBlank c = true := hfirst c rfl
      rw [words_append_blank hc, words_cons_blank hc]

/-- A code point in front of a word belongs to it. -/
theorem exists_words_cons_cons {c d : Char} (hc : isBlank c = false) (hd : isBlank d = false) (t : Text) :
    ∃ w ws, words (d :: t) = w :: ws ∧ words (c :: d :: t) = (c :: w) :: ws := by
  obtain ⟨w, ws, hws⟩ := List.exists_cons_of_ne_nil (words_ne_nil hd t)
  exact ⟨w, ws, hws, by simp [words, hc, hd, hws]⟩

/-- Texts that meet inside a word have all their words but this one: it is the last of the first text and the first of the second. -/
theorem exists_words_append {c d : Char} (hc : isBlank c = false) (hd : isBlank d = false) (s t : Text) :
    ∃ before w v after, words (s ++ [c]) = before ++ [w] ∧ words (d :: t) = v :: after ∧
      words (s ++ c :: d :: t) = before ++ (w ++ v) :: after := by
  induction s with
  | nil =>
    obtain ⟨v, after, hv, hwhole⟩ := exists_words_cons_cons hc hd t
    exact ⟨[], [c], v, after, by simp [words, hc], hv, hwhole⟩
  | cons b s ih =>
    obtain ⟨before, w, v, after, hw, hv, hwhole⟩ := ih
    -- both texts go on with the same code point behind the first
    obtain ⟨e, rest, hrest⟩ := List.exists_cons_of_ne_nil (List.append_ne_nil_of_right_ne_nil s (List.cons_ne_nil c []))
    have hmore : s ++ c :: d :: t = e :: (rest ++ d :: t) := by
      rw [← List.cons_append, ← hrest, List.append_assoc]
      rfl
    rw [List.cons_append, List.cons_append, hrest, hmore]
    rw [hrest] at hw
    rw [hmore] at hwhole
    by_cases hb : isBlank b = true
    · rw [words_cons_blank hb, words_cons_blank hb]
      exact ⟨before, w, v, after, hw, hv, hwhole⟩
    · rw [Bool.not_eq_true] at hb
      by_cases he : isBlank e = true
      · have hpart : ∀ u : Text, words (b :: e :: u) = [b] :: words (e :: u) := by
          intro u
          have hone : words [b] = [[b]] := words_of_not_blank (List.cons_ne_nil b []) (by simpa using hb)
          rw [words_cons_blank he, ← List.singleton_append, words_append_blank he, hone, List.singleton_append]
        exact ⟨[b] :: before, w, v, after, by rw [hpart, hw, List.cons_append], hv, by rw [hpart, hwhole, List.cons_append]⟩
      · rw [Bool.not_eq_true] at he
        obtain ⟨u, us, hu, hbu⟩ := exists_words_cons_cons hb he rest
        obtain ⟨u', us', hu', hbu'⟩ := exists_words_cons_cons hb he (rest ++ d :: t)
        rw [hu] at hw
        rw [hu'] at hwhole
        rw [hbu, hbu']
        cases before with
        | nil =>
          rw [List.nil_append, List.cons_eq_cons] at hw hwhole
          exact ⟨[], b :: w, v, after, by rw [hw.1, hw.2, List.nil_append], hv, by rw [hwhole.1, hwhole.2]; rfl⟩
        | cons first before =>
          rw [List.cons_append, List.cons_eq_cons] at hw hwhole
          exact ⟨(b :: first) :: before, w, v, after, by rw [hw.1, hw.2]; rfl, hv, by rw [hwhole.1, hwhole.2]; rfl⟩

/-! ## Words joined -/

theorem unwords_cons_cons (w v : Text) (ws : List Text) : unwords (w :: v :: ws) = w ++ ' ' :: unwords (v :: ws) := by
  simp [unwords, List.intercalate_cons_cons]

theorem unwords_cons_of_ne_nil (w : Text) {ws : List Text} (h : ws ≠ []) : unwords (w :: ws) = w ++ ' ' :: unwords ws := by
  obtain ⟨v, ws, rfl⟩ := List.exists_cons_of_ne_nil h
  exact unwords_cons_cons w v ws

theorem unwords_append {ws vs : List Text} (hws : ws ≠ []) (hvs : vs ≠ []) : unwords (ws ++ vs) = unwords ws ++ ' ' :: unwords vs := by
  induction ws with
  | nil => exact absurd rfl hws
  | cons w ws ih =>
    rw [List.cons_append, unwords_cons_of_ne_nil w (List.append_ne_nil_of_right_ne_nil ws hvs)]
    by_cases hnil : ws = []
    · simp [hnil, unwords]
    · rw [ih hnil, unwords_cons_of_ne_nil w hnil, List.append_assoc, List.cons_append]

/-- Joining does not part a word in two. -/
theorem unwords_append_cons (before : List Text) (w v : Text) (after : List Text) :
    unwords (before ++ (w ++ v) :: after) = unwords (before ++ [w]) ++ unwords (v :: after) := by
  induction before with
  | nil => cases after <;> simp [unwords, List.intercalate_cons_cons]
  | cons u before ih =>
    rw [List.cons_append, unwords_cons_of_ne_nil u (by simp), ih, List.cons_append, unwords_cons_of_ne_nil u (by simp),
      List.append_assoc, List.cons_append]

/-- The words of joined pieces without blanks are the pieces, except the empty ones. -/
theorem words_unwords {ws : List Text} (h : ∀ w ∈ ws, ∀ c ∈ w, isBlank c = false) : words (unwords ws) = ws.filter (· ≠ []) := by
  have hpiece : ∀ w : Text, (∀ c ∈ w, isBlank c = false) → words w = [w].filter (· ≠ []) := by
    intro w hw
    cases w with
    | nil => rfl
    | cons c w => exact words_of_not_blank (List.cons_ne_nil c w) hw
  induction ws with
  | nil => rfl
  | cons w ws ih =>
    rw [List.forall_mem_cons] at h
    cases ws with
    | nil => simpa [unwords] using hpiece w h.1
    | cons v ws =>
      rw [unwords_cons_cons, words_append_blank (by decide), ih h.2, hpiece w h.1, ← List.filter_append, List.singleton_append]

/-- Joined words are split into the same words again. -/
theorem words_unwords_eq_self {ws : List Text} (h : ∀ w ∈ ws, w ≠ [] ∧ ∀ c ∈ w, isBlank c = false) : words (unwords ws) = ws := by
  rw [words_unwords fun w hw => (h w hw).2]
  exact List.filter_eq_self.mpr fun w hw => decide_eq_true (h w hw).1

theorem unwords_ne_nil {ws : List Text} (h : ∀ w ∈ ws, w ≠ [] ∧ ∀ c ∈ w, isBlank c = false) (hne : ws ≠ []) : unwords ws ≠ [] := by
  intro hnil
  rw [← words_unwords_eq_self h, hnil] at hne
  exact hne rfl

/-- Joined pieces without blanks have one space fewer than there are pieces. -/
theorem count_space_unwords {ws : List Text} (h : ∀ w ∈ ws, ∀ c ∈ w, isBlank c = false) : (unwords ws).count ' ' = ws.length - 1 := by
  have hpiece : ∀ w : Text, (∀ c ∈ w, isBlank c = false) → w.count ' ' = 0 := by
    intro w hw
    exact List.count_eq_zero.mpr fun hspace => absurd (hw ' ' hspace) (by decide)
  induction ws with
  | nil => rfl
  | cons w ws ih =>
    rw [List.forall_mem_cons] at h
    cases ws with
    | nil => simpa [unwords] using hpiece w h.1
    | cons v ws =>
      rw [unwords_cons_cons, List.count_append, List.count_cons_self, ih h.2, hpiece w h.1]
      simp

/-! ## Canonical form -/

/-- Joined pieces without blanks are in canonical form if none is empty, and, where not all are empty, only then. -/
theorem collapse_unwords_eq_iff {ws : List Text} (h : ∀ w ∈ ws, ∀ c ∈ w, isBlank c = false) (hne : ws = [] ∨ ∃ w ∈ ws, w ≠ []) :
    collapse (unwords ws) = unwords ws ↔ ∀ w ∈ ws, w ≠ [] := by
  rw [collapse, words_unwords h]
  constructor
  · intro heq
    rcases hne with rfl | ⟨v, hv, hvne⟩
    · simp
    · have hkept : v ∈ ws.filter (· ≠ []) := List.mem_filter.mpr ⟨hv, decide_eq_true hvne⟩
      have hspaces := congrArg (List.count ' ') heq
      rw [count_space_unwords h, count_space_unwords fun w hw => h w (List.mem_filter.mp hw).1] at hspaces
      have hlength : (ws.filter (· ≠ [])).length = ws.length := by
        have hpos := List.length_pos_of_mem hkept
        have hpos' := List.length_pos_of_mem hv
        omega
      intro w hw
      exact of_decide_eq_true (List.length_filter_eq_length_iff.mp hlength w hw)
  · intro hall
    rw [List.filter_eq_self.mpr fun w hw => decide_eq_true (hall w hw)]

/-- Words that are joined begin and end with no blank. -/
theorem ends_unwords {ws : List Text} (h : ∀ w ∈ ws, w ≠ [] ∧ ∀ c ∈ w, isBlank c = false) :
    (∀ c, (unwords ws).head? = some c → isBlank c = false) ∧ ∀ c, (unwords ws).getLast? = some c → isBlank c = false := by
  induction ws with
  | nil => exact ⟨nofun, nofun⟩
  | cons w ws ih =>
    rw [List.forall_mem_cons] at h
    obtain ⟨⟨hne, hw⟩, hws⟩ := h
    cases ws with
    | nil =>
      rw [unwords, List.intercalate_singleton]
      exact ⟨fun c hc => hw c (List.mem_of_head? hc), fun c hc => hw c (List.mem_of_getLast? hc)⟩
    | cons v ws =>
      rw [unwords_cons_cons, List.head?_append_of_ne_nil _ hne]
      refine ⟨fun c hc => hw c (List.mem_of_head? hc), fun c hc => (ih hws).2 c ?_⟩
      have hrest : unwords (v :: ws) ≠ [] := unwords_ne_nil hws (List.cons_ne_nil v ws)
      rwa [List.getLast?_append_of_ne_nil _ (List.cons_ne_nil _ _), List.getLast?_cons, List.getLast?_eq_some_getLast hrest,
        Option.getD_some, ← List.getLast?_eq_some_getLast hrest] at hc

/-- A canonical form has the words of the text. -/
theorem words_collapse (t : Text) : words (collapse t) = words t := words_unwords_eq_self fun _ => mem_words

/-- A canonical form is in canonical form. -/
theorem collapse_collapse (t : Text) : collapse (collapse t) = collapse t := by
  rw [collapse, words_collapse, collapse]

/-- A text in canonical form begins and ends with no blank. -/
theorem ends_of_collapse_eq (h : collapse t = t) :
    (∀ c, t.head? = some c → isBlank c = false) ∧ ∀ c, t.getLast? = some c → isBlank c = false := by
  have hends := ends_unwords fun w (hw : w ∈ words t) => mem_words hw
  rwa [show unwords (words t) = t from h] at hends

/-- Trimming takes nothing from a text in canonical form. -/
theorem trim_of_collapse_eq (h : collapse t = t) : trim t = t := by
  obtain ⟨hfirst, hlast⟩ := ends_of_collapse_eq h
  exact trim_eq_self hfirst hlast

/-- A blank between words becomes a space. -/
theorem collapse_append_blank {b : Char} (hb : isBlank b = true) {s t : Text} (hs : words s ≠ []) (ht : words t ≠ []) :
    collapse (s ++ b :: t) = collapse s ++ ' ' :: collapse t := by
  rw [collapse, words_append_blank hb, unwords_append hs ht, collapse, collapse]

/-- Texts that meet inside a word have their canonical forms next to each other. -/
theorem collapse_append_of_ends {s t : Text} {c d : Char} (hlast : s.getLast? = some c) (hc : isBlank c = false)
    (hfirst : t.head? = some d) (hd : isBlank d = false) : collapse (s ++ t) = collapse s ++ collapse t := by
  obtain ⟨s, rfl⟩ := List.getLast?_eq_some_iff.mp hlast
  obtain ⟨t, rfl⟩ := List.head?_eq_some_iff.mp hfirst
  obtain ⟨before, w, v, after, hs, ht, hwhole⟩ := exists_words_append hc hd s t
  rw [List.append_assoc, List.singleton_append, collapse, hwhole, unwords_append_cons, collapse, hs, collapse, ht]

/-- Between the canonical forms of two texts put together stands a space or nothing. -/
theorem exists_collapse_append (s t : Text) :
    ∃ gap, (gap = [] ∨ gap = [' ']) ∧ collapse (s ++ t) = collapse s ++ (gap ++ collapse t) := by
  by_cases hinside : (∃ c, s.getLast? = some c ∧ isBlank c = false) ∧ ∃ d, t.head? = some d ∧ isBlank d = false
  · obtain ⟨⟨c, hlast, hc⟩, d, hfirst, hd⟩ := hinside
    exact ⟨[], Or.inl rfl, collapse_append_of_ends hlast hc hfirst hd⟩
  · have hwords : words (s ++ t) = words s ++ words t := by
      refine words_append ?_
      by_contra hnot
      rw [not_or] at hnot
      exact hinside (by simpa using hnot)
    by_cases hs : words s = []
    · exact ⟨[], Or.inl rfl, by rw [collapse, hwords, collapse, hs]; rfl⟩
    · by_cases ht : words t = []
      · exact ⟨[], Or.inl rfl, by rw [collapse, hwords, collapse, collapse, ht, List.append_nil]; exact (List.append_nil _).symm⟩
      · exact ⟨[' '], Or.inr rfl, by rw [collapse, hwords, unwords_append hs ht, collapse, collapse]; rfl⟩

end CriticalCss.Text

import Mathlib.Data.List.Infix
import CriticalCss.Selector.Pseudo
import CriticalCss.Proofs.Words

/-!
# Passes that delete tokens

A pass reads a text once from left to right. `Pass` says what it leaves, token by token: a code point at which no token begins is kept,
and a token is deleted as a whole, with what stands behind it read on as if the token were still in front. Every pass of the library is
such a pass (`pass_deleteTokens`), whatever its tokens are, so what holds of all passes is proved by induction on `Pass`.
-/

namespace CriticalCss.Selector

/-! ## Passes token by token -/

/-- What a pass leaves of a text behind a code point. -/
inductive Pass (size : Option Char → Text → Nat) : Option Char → Text → Text → Prop
  | nil (previous : Option Char) : Pass size previous [] []
  | kept {previous : Option Char} {c : Char} {rest left : Text} : size previous (c :: rest) = 0 → Pass size (some c) rest left →
      Pass size previous (c :: rest) (c :: left)
  | token {previous : Option Char} {token rest left : Text} : token ≠ [] → size previous (token ++ rest) = token.length →
      Pass size token.getLast? rest left → Pass size previous (token ++ rest) left

/-- No token is longer than the text that it begins. -/
def Fits (size : Option Char → Text → Nat) : Prop := ∀ previous t, size previous t ≤ t.length

variable {size : Option Char → Text → Nat} {previous : Option Char} {t left : Text}

theorem Fits.of_exists (h : ∀ previous t, size previous t ≠ 0 → ∃ token rest, t = token ++ rest ∧ size previous t = token.length) :
    Fits size := by
  intro previous t
  by_cases hsize : size previous t = 0
  · exact le_of_eq_of_le hsize (Nat.zero_le _)
  · obtain ⟨token, rest, rfl, hlength⟩ := h previous t hsize
    rw [hlength, List.length_append]
    exact Nat.le_add_right _ _

/-- The last code point of a text that begins with a given one, when the text may be empty behind it. -/
theorem getLast?_cons_or (c : Char) (before : Text) (previous : Option Char) :
    (c :: before).getLast?.or previous = before.getLast?.or (some c) := by
  rw [List.getLast?_cons]
  cases before.getLast? <;> rfl

/-- Code points that are still to go are passed over, and what follows is read behind the last of them. -/
theorem deleteFrom_length_append (previous : Option Char) (token rest : Text) :
    deleteFrom size previous token.length (token ++ rest) = deleteFrom size (token.getLast?.or previous) 0 rest := by
  induction token generalizing previous with
  | nil => rfl
  | cons c token ih =>
    show deleteFrom size (some c) token.length (token ++ rest) = _
    rw [ih, getLast?_cons_or]

theorem deleteFrom_of_eq_zero {c : Char} {rest : Text} (h : size previous (c :: rest) = 0) :
    deleteFrom size previous 0 (c :: rest) = c :: deleteFrom size (some c) 0 rest := by
  simp only [deleteFrom, h]

theorem deleteFrom_token {token rest : Text} (hne : token ≠ []) (h : size previous (token ++ rest) = token.length) :
    deleteFrom size previous 0 (token ++ rest) = deleteFrom size token.getLast? 0 rest := by
  obtain ⟨c, more, rfl⟩ := List.exists_cons_of_ne_nil hne
  rw [List.cons_append, List.length_cons] at h
  have hstep : deleteFrom size previous 0 (c :: (more ++ rest)) = deleteFrom size (some c) more.length (more ++ rest) := by
    simp only [deleteFrom, h]
  rw [List.cons_append, hstep, deleteFrom_length_append, ← getLast?_cons_or c more none, Option.or_none]

/-- Deleting tokens is a pass, for tokens of every kind. -/
theorem pass_deleteFrom (hfits : Fits size) (previous : Option Char) (t : Text) :
    Pass size previous t (deleteFrom size previous 0 t) := by
  -- by the length of the text, since a token takes several code points at once
  induction hn : t.length using Nat.strongRecOn generalizing previous t with
  | ind n ih =>
    subst hn
    cases t with
    | nil => exact .nil previous
    | cons c rest =>
      by_cases h : size previous (c :: rest) = 0
      · rw [deleteFrom_of_eq_zero h]
        exact .kept h (ih rest.length (Nat.lt_succ_self _) (some c) rest rfl)
      · have hlength : ((c :: rest).take (size previous (c :: rest))).length = size previous (c :: rest) :=
          List.length_take_of_le (hfits previous (c :: rest))
        have hsplit := List.take_append_drop (size previous (c :: rest)) (c :: rest)
        generalize htoken : (c :: rest).take (size previous (c :: rest)) = token at hlength hsplit
        generalize (c :: rest).drop (size previous (c :: rest)) = behind at hsplit
        have hne : token ≠ [] := by
          rintro rfl
          exact h hlength.symm
        have hshorter : behind.length < (c :: rest).length := by
          have := List.length_pos_of_ne_nil hne
          rw [← hsplit, List.length_append]
          omega
        rw [← hsplit] at hlength ⊢
        rw [deleteFrom_token hne hlength.symm]
        exact .token hne hlength.symm (ih behind.length hshorter _ behind rfl)

theorem pass_deleteTokens (hfits : Fits size) (t : Text) : Pass size none t (deleteTokens size t) := pass_deleteFrom hfits none t

/-! ## What a pass leaves -/

/-- A pass only deletes. -/
theorem Pass.sublist (h : Pass size previous t left) : left.Sublist t := by
  induction h with
  | nil => exact List.Sublist.refl []
  | kept _ _ ih => exact ih.cons_cons _
  | token _ _ _ ih => exact ih.trans (List.sublist_append_right _ _)

/-- A text behind a code point has no token: at no place does one begin. -/
def TokenFree (size : Option Char → Text → Nat) (previous : Option Char) (t : Text) : Prop :=
  ∀ before after, t = before ++ after → size (before.getLast?.or previous) after = 0

theorem tokenFree_nil_iff : TokenFree size previous [] ↔ size previous [] = 0 := by
  constructor
  · intro h
    exact h [] [] rfl
  · intro h before after hsplit
    obtain ⟨rfl, rfl⟩ := List.append_eq_nil_iff.mp hsplit.symm
    exact h

theorem tokenFree_cons_iff {c : Char} : TokenFree size previous (c :: t) ↔ size previous (c :: t) = 0 ∧ TokenFree size (some c) t := by
  constructor
  · intro h
    refine ⟨h [] _ rfl, fun before after hsplit => ?_⟩
    rw [← getLast?_cons_or]
    exact h (c :: before) after (congrArg (c :: ·) hsplit)
  · rintro ⟨hfirst, hrest⟩ before after hsplit
    cases before with
    | nil =>
      rw [List.nil_append] at hsplit
      subst hsplit
      exact hfirst
    | cons d before =>
      rw [List.cons_append] at hsplit
      obtain ⟨rfl, rfl⟩ := List.cons_eq_cons.mp hsplit
      rw [getLast?_cons_or]
      exact hrest before after rfl

/-- A text without tokens is left as it is. -/
theorem TokenFree.deleteFrom_eq (h : TokenFree size previous t) : deleteFrom size previous 0 t = t := by
  induction t generalizing previous with
  | nil => rfl
  | cons c rest ih =>
    obtain ⟨hfirst, hrest⟩ := tokenFree_cons_iff.mp h
    rw [deleteFrom_of_eq_zero hfirst, ih hrest]

/-- A pass that leaves a text as long as it was has found no token. -/
theorem Pass.tokenFree_of_length_eq (hfits : Fits size) (h : Pass size previous t left) (hlength : left.length = t.length) :
    TokenFree size previous t := by
  induction h with
  | nil previous => exact tokenFree_nil_iff.mpr (Nat.le_zero.mp (hfits previous []))
  | kept hsize _ ih => exact tokenFree_cons_iff.mpr ⟨hsize, ih (Nat.succ.inj hlength)⟩
  | @token previous token rest left hne _ hpass _ =>
    have hshorter := hpass.sublist.length_le
    have hpos := List.length_pos_of_ne_nil hne
    rw [List.length_append] at hlength
    omega

theorem deleteTokens_eq_self_iff (hfits : Fits size) : deleteTokens size t = t ↔ TokenFree size none t :=
  ⟨fun h => (pass_deleteTokens hfits t).tokenFree_of_length_eq hfits (congrArg List.length h), TokenFree.deleteFrom_eq⟩

/-! ## Passes at a separator -/

/-- A word without some code point that a text begins with ends before the code point comes. -/
theorem prefix_of_prefix_append_cons {word before rest : Text} {c : Char} (h : word <+: before ++ c :: rest) (hc : c ∉ word) :
    word <+: before := by
  rcases List.prefix_or_prefix_of_prefix h (List.prefix_append before (c :: rest)) with hword | ⟨more, rfl⟩
  · exact hword
  · cases more with
    | nil =>
      rw [List.append_nil]
    | cons d more =>
      rw [List.prefix_append_right_inj, List.cons_prefix_cons] at h
      exact absurd (h.1 ▸ List.mem_append_right before List.mem_cons_self) hc

/-- A code point separates tokens: none begins with it, and what stands from it on does not change which tokens begin before it. -/
structure Separates (size : Option Char → Text → Nat) (c : Char) : Prop where
  size_cons : ∀ previous rest, size previous (c :: rest) = 0
  size_append : ∀ previous before rest, before ≠ [] → size previous (before ++ c :: rest) = size previous before

/-- Two texts are passed one behind the other, if what stands behind the first does not change which tokens begin in it. -/
theorem Pass.append {rest more : Text} (h : Pass size previous t left)
    (hapart : ∀ previous before, before ≠ [] → before <:+ t → size previous (before ++ rest) = size previous before)
    (hrest : Pass size (t.getLast?.or previous) rest more) : Pass size previous (t ++ rest) (left ++ more) := by
  induction h with
  | nil previous => exact hrest
  | @kept previous d t left hsize _ ih =>
    rw [getLast?_cons_or] at hrest
    refine .kept ?_ (ih (fun p before hne hsuffix => hapart p before hne (hsuffix.trans (List.suffix_cons d t))) hrest)
    rw [← hsize]
    exact hapart previous (d :: t) (List.cons_ne_nil d t) List.suffix_rfl
  | @token previous token t left hne hlength _ ih =>
    rw [List.append_assoc]
    refine .token hne ?_ (ih (fun p before hne hsuffix => hapart p before hne (hsuffix.trans (List.suffix_append token t))) ?_)
    · rw [← hlength, ← List.append_assoc]
      exact hapart previous (token ++ t) (List.append_ne_nil_of_left_ne_nil hne t) List.suffix_rfl
    · rw [List.getLast?_append, Option.or_assoc] at hrest
      rwa [Option.or_of_isSome (List.getLast?_isSome.mpr hne)] at hrest

/-- What stands in front of a separator is passed as if it stood alone, and the separator is kept. -/
theorem Pass.append_cons {c : Char} (hc : Separates size c) (h : Pass size previous t left) {rest more : Text}
    (hrest : Pass size (some c) rest more) : Pass size previous (t ++ c :: rest) (left ++ c :: more) :=
  h.append (fun p before hne _ => hc.size_append p before rest hne) (.kept (hc.size_cons _ rest) hrest)

/-- A pass leaves one text. -/
theorem Pass.eq_deleteFrom (h : Pass size previous t left) : left = deleteFrom size previous 0 t := by
  induction h with
  | nil => rfl
  | kept hsize _ ih => rw [deleteFrom_of_eq_zero hsize, ih]
  | token hne hlength _ ih => rw [deleteFrom_token hne hlength, ih]

/-- A separator is in no token. -/
theorem mem_deleteTokens_of_separates (hfits : Fits size) {c : Char} (hc : Separates size c) (h : c ∈ t) : c ∈ deleteTokens size t := by
  obtain ⟨before, after, rfl⟩ := List.append_of_mem h
  have hpass := (pass_deleteTokens hfits before).append_cons hc (pass_deleteFrom hfits (some c) after)
  rw [deleteTokens, ← hpass.eq_deleteFrom]
  exact List.mem_append_right _ List.mem_cons_self

/-! ## Passes cut in two -/

/-- Which token a text begins with is settled where the token ends: what stands behind it does not matter. -/
def Settled (size : Option Char → Text → Nat) : Prop :=
  ∀ previous t rest, size previous (t ++ rest) ≤ t.length → size previous t = size previous (t ++ rest)

/-- A code point that is left stood in the text and no token began at it. What stood in front of it was passed as if it stood alone. -/
theorem Pass.exists_kept (hsettled : Settled size) {c : Char} {front back : Text} (h : Pass size previous t (front ++ c :: back)) :
    ∃ before after, t = before ++ c :: after ∧ Pass size previous before front ∧
      size (before.getLast?.or previous) (c :: after) = 0 ∧ Pass size (some c) after back := by
  generalize hleft : front ++ c :: back = left at h
  induction h generalizing front with
  | nil => exact absurd hleft (List.append_ne_nil_of_right_ne_nil front (List.cons_ne_nil c back))
  | @kept previous d rest left hsize hpass ih =>
    cases front with
    | nil =>
      rw [List.nil_append] at hleft
      obtain ⟨rfl, rfl⟩ := List.cons_eq_cons.mp hleft
      exact ⟨[], rest, rfl, .nil previous, hsize, hpass⟩
    | cons e front =>
      rw [List.cons_append] at hleft
      obtain ⟨rfl, hrest⟩ := List.cons_eq_cons.mp hleft
      obtain ⟨before, after, rfl, hbefore, hnone, hafter⟩ := ih hrest
      refine ⟨e :: before, after, rfl, .kept ?_ hbefore, by rwa [getLast?_cons_or], hafter⟩
      rw [← hsize]
      exact hsettled previous (e :: before) (c :: after) (le_of_eq_of_le hsize (Nat.zero_le _))
  | @token previous token rest left hne hlength _ ih =>
    obtain ⟨before, after, rfl, hbefore, hnone, hafter⟩ := ih hleft
    refine ⟨token ++ before, after, (List.append_assoc token before _).symm, .token hne ?_ hbefore, ?_, hafter⟩
    · rw [← List.append_assoc] at hlength
      rw [← hlength]
      refine hsettled previous (token ++ before) (c :: after) ?_
      rw [hlength, List.length_append]
      exact Nat.le_add_right _ _
    · rwa [List.getLast?_append, Option.or_assoc, Option.or_of_isSome (List.getLast?_isSome.mpr hne)]

/-- What is left first was first, or stood directly behind a token. -/
theorem Pass.head_eq_or_exists_token {c : Char} (h : Pass size previous t (c :: left)) :
    t.head? = some c ∨
      ∃ before token after p, t = before ++ (token ++ c :: after) ∧ token ≠ [] ∧ size p (token ++ c :: after) = token.length := by
  generalize hleft : c :: left = all at h
  induction h with
  | nil => cases hleft
  | kept =>
    cases hleft
    exact Or.inl rfl
  | @token previous token rest all hne hlength _ ih =>
    rcases ih hleft with hhead | ⟨before, token', after, p, rfl, hne', hlength'⟩
    · obtain ⟨after, rfl⟩ := List.head?_eq_some_iff.mp hhead
      exact Or.inr ⟨[], token, after, previous, rfl, hne, hlength⟩
    · exact Or.inr ⟨token ++ before, token', after, p, (List.append_assoc _ _ _).symm, hne', hlength'⟩

/-! ## Tokens that begin with a colon -/

/-- Tokens begin with a colon. -/
def BeginWithColon (size : Option Char → Text → Nat) : Prop := ∀ previous t, t.head? ≠ some ':' → size previous t = 0

/-- What holds no colon is kept. -/
theorem deleteFrom_append_of_not_mem (hcolon : BeginWithColon size) {word : Text} (h : ':' ∉ word) (previous : Option Char)
    (rest : Text) : deleteFrom size previous 0 (word ++ rest) = word ++ deleteFrom size (word.getLast?.or previous) 0 rest := by
  induction word generalizing previous with
  | nil => rfl
  | cons c word ih =>
    rw [List.mem_cons, not_or] at h
    have hnone : size previous (c :: (word ++ rest)) = 0 := hcolon previous _ (by simpa using Ne.symm h.1)
    rw [List.cons_append, deleteFrom_of_eq_zero hnone, ih h.2, getLast?_cons_or, List.cons_append]

theorem BeginWithColon.tokenFree (hcolon : BeginWithColon size) (h : ':' ∉ t) : TokenFree size previous t := by
  rintro before after rfl
  exact hcolon _ after fun hhead => h (List.mem_append_right before (List.mem_of_head? hhead))

/-- A first code point that is no colon is left first. -/
theorem BeginWithColon.head?_deleteTokens (hcolon : BeginWithColon size) {c : Char} (hc : c ≠ ':') (h : t.head? = some c) :
    (deleteTokens size t).head? = some c := by
  obtain ⟨rest, rfl⟩ := List.head?_eq_some_iff.mp h
  rw [deleteTokens, deleteFrom_of_eq_zero (hcolon none _ (by simpa using hc))]
  rfl

/-! ## Passes that do not look back -/

/-- Two code points in front of a text are the same to a pass if they are to what the text may begin with. -/
theorem deleteFrom_congr {other : Option Char} (h : ∀ t, size previous t = size other t) (t : Text) :
    deleteFrom size previous 0 t = deleteFrom size other 0 t := by
  cases t with
  | nil => rfl
  | cons c t => simp only [deleteFrom, h]

section Forgetful

variable {size : Text → Nat} {t rest : Text}

/-- Where the code point in front does not matter, it may be any. -/
theorem deleteFrom_eq_deleteTokens (previous : Option Char) (t : Text) :
    deleteFrom (fun _ => size) previous 0 t = deleteTokens (fun _ => size) t := by
  cases t <;> rfl

theorem deleteTokens_cons {c : Char} (h : size (c :: rest) = 0) :
    deleteTokens (fun _ => size) (c :: rest) = c :: deleteTokens (fun _ => size) rest := by
  rw [← deleteFrom_eq_deleteTokens (some c) rest]
  exact deleteFrom_of_eq_zero h

end Forgetful

end CriticalCss.Selector

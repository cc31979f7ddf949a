import CriticalCss.Proofs.Vendor
import CriticalCss.Proofs.Words

/-!
# Selectors that are nothing but pseudo parts

Whether a selector is nothing but pseudo parts is asked of the text that the vendor pass then reads. The tokens of the two passes begin
and end at different places, but each vendor part lies within pseudo parts. So what is outside the pseudo parts, which is told by one bit
of memory (`outside`), is left by the vendor pass (`Pass.outside_sublist`), and the page is never asked for a blank selector
(`exists_not_blank_iff`).
-/

namespace CriticalCss.Selector

variable {t : Text}

/-! ## What is outside pseudo parts -/

/-- What is outside the pseudo parts of a text that is read behind such a part or not. A colon always belongs to a pseudo part, and what
may stand in a name belongs to the one in front of it. -/
def outside (behind : Bool) : Text → Text
  | [] => []
  | c :: rest => if c = ':' ∨ behind = true ∧ isNamePart c = true then outside true rest else c :: outside false rest

theorem outside_cons_of_inside {behind : Bool} {c : Char} (h : c = ':' ∨ behind = true ∧ isNamePart c = true) (rest : Text) :
    outside behind (c :: rest) = outside true rest := if_pos h

theorem outside_cons_of_outside {behind : Bool} {c : Char} (h : ¬(c = ':' ∨ behind = true ∧ isNamePart c = true)) (rest : Text) :
    outside behind (c :: rest) = c :: outside false rest := if_neg h

/-- Behind a pseudo part, colons and what may stand in a name belong to pseudo parts. -/
theorem outside_append {word : Text} (h : ∀ c ∈ word, c = ':' ∨ isNamePart c = true) (rest : Text) :
    outside true (word ++ rest) = outside true rest := by
  induction word with
  | nil => rfl
  | cons c word ih =>
    rw [List.forall_mem_cons] at h
    rw [List.cons_append, outside_cons_of_inside (h.1.imp_right fun hc => ⟨rfl, hc⟩), ih h.2]

/-- It only matters behind which text a text is read if the text goes on with a name. -/
theorem outside_eq_of_head? (h : ∀ c, t.head? = some c → isNamePart c = false) (behind : Bool) : outside behind t = outside false t := by
  cases t with
  | nil => rfl
  | cons c rest => simp [outside, h c rfl]

/-- What is neither a colon nor may stand in a name is outside. -/
theorem mem_outside {c : Char} (hcolon : c ≠ ':') (hpart : isNamePart c = false) (h : c ∈ t) (behind : Bool) : c ∈ outside behind t := by
  induction t generalizing behind with
  | nil => cases h
  | cons d t ih =>
    by_cases hd : d = ':' ∨ behind = true ∧ isNamePart d = true
    · rw [outside_cons_of_inside hd]
      rcases List.mem_cons.mp h with rfl | h
      · simp [hcolon, hpart] at hd
      · exact ih h true
    · rw [outside_cons_of_outside hd, List.mem_cons]
      exact (List.mem_cons.mp h).imp_right fun h => ih h false

/-! ## The pass over pseudo parts -/

/-- A pseudo part begins at each colon that the pass comes to. -/
theorem pseudoSize_eq_zero_iff : pseudoSize t = 0 ↔ t.head? ≠ some ':' := by
  unfold pseudoSize
  split
  · simp
  · simp
  · rename_i hnot
    exact iff_of_true rfl fun h => (List.head?_eq_some_iff.mp h).elim hnot

/-- A pseudo part is a colon with colons and what may stand in a name behind it, and takes all of the latter that stands there. -/
theorem exists_pseudoToken (h : pseudoSize t ≠ 0) :
    ∃ word rest, t = ':' :: word ++ rest ∧ pseudoSize t = (':' :: word).length ∧ (∀ c ∈ word, c = ':' ∨ isNamePart c = true) ∧
      ∀ c, rest.head? = some c → isNamePart c = false := by
  have hname : ∀ rest : Text, ∀ c ∈ rest.takeWhile isNamePart, c = ':' ∨ isNamePart c = true := fun rest c hc =>
    Or.inr (List.mem_takeWhile_imp hc)
  unfold pseudoSize at h ⊢
  split at h
  · rename_i rest
    refine ⟨':' :: rest.takeWhile isNamePart, rest.dropWhile isNamePart, ?_, ?_, ?_, fun _ => Text.eq_false_of_head?_dropWhile⟩
    · rw [List.cons_append, List.cons_append, List.takeWhile_append_dropWhile]
    · simp only [List.length_cons]
      omega
    · exact List.forall_mem_cons.mpr ⟨Or.inl rfl, hname rest⟩
  · rename_i rest _
    refine ⟨rest.takeWhile isNamePart, rest.dropWhile isNamePart, ?_, ?_, hname rest, fun _ => Text.eq_false_of_head?_dropWhile⟩
    · rw [List.cons_append, List.takeWhile_append_dropWhile]
    · exact Nat.add_comm _ _
  · exact absurd rfl h

theorem fits_pseudoSize : Fits fun _ => pseudoSize := by
  refine .of_exists fun _ t h => ?_
  obtain ⟨word, rest, hsplit, hsize, -, -⟩ := exists_pseudoToken h
  exact ⟨':' :: word, rest, hsplit, hsize⟩

/-- The pass leaves what is outside the pseudo parts. -/
theorem Pass.eq_outside {previous : Option Char} {left : Text} (h : Pass (fun _ => pseudoSize) previous t left) :
    left = outside false t := by
  induction h with
  | nil => rfl
  | @kept previous c rest left hsize _ ih =>
    have hc : c ≠ ':' := by simpa using pseudoSize_eq_zero_iff.mp hsize
    rw [outside_cons_of_outside (by simp [hc]), ih]
  | @token previous token rest left hne hlength _ ih =>
    have hsize : pseudoSize (token ++ rest) ≠ 0 := by
      rw [show pseudoSize _ = _ from hlength]
      exact mt List.eq_nil_of_length_eq_zero hne
    obtain ⟨word, behind, hsplit, hword, hinside, hbehind⟩ := exists_pseudoToken hsize
    obtain ⟨rfl, rfl⟩ := List.append_inj hsplit (hlength.symm.trans hword)
    rw [ih, ← outside_eq_of_head? hbehind true, ← outside_append hinside]
    rfl

theorem deleteTokens_pseudoSize (t : Text) : deleteTokens (fun _ => pseudoSize) t = outside false t :=
  (pass_deleteTokens fits_pseudoSize t).eq_outside

/-! ## Vendor parts within pseudo parts -/

theorem isNamePart_of_isVendorPart {c : Char} (h : isVendorPart c = true) : isNamePart c = true := by
  unfold isVendorPart at h
  unfold isNamePart Char.isAlpha
  rcases Bool.or_eq_true_iff.mp h with h | h
  · simp [h]
  · simp [h]

/-- A vendor part is a colon with colons and what may stand in a name behind it. -/
theorem exists_vendorWord {previous : Option Char} {token rest : Text} (hne : token ≠ [])
    (h : vendorSize previous (token ++ rest) = token.length) :
    ∃ word, token = ':' :: word ∧ ∀ c ∈ word, c = ':' ∨ isNamePart c = true := by
  obtain ⟨c, word, rfl⟩ := List.exists_cons_of_ne_nil hne
  have hcolon : c = ':' := by
    by_contra hc
    rw [beginWithColon_vendorSize previous _ (by simpa using hc)] at h
    cases h
  refine ⟨word, by rw [hcolon], fun d hd => ?_⟩
  exact ((vendorToken hne h).1 d (List.mem_cons_of_mem c hd)).imp_right isNamePart_of_isVendorPart

/-- The vendor pass leaves all that is outside the pseudo parts. -/
theorem Pass.outside_sublist {previous : Option Char} {left : Text} (h : Pass vendorSize previous t left) (behind : Bool) :
    (outside behind t).Sublist left := by
  induction h generalizing behind with
  | nil => exact List.Sublist.refl []
  | @kept previous c rest left _ _ ih =>
    by_cases hc : c = ':' ∨ behind = true ∧ isNamePart c = true
    · rw [outside_cons_of_inside hc]
      exact (ih true).cons c
    · rw [outside_cons_of_outside hc]
      exact (ih false).cons_cons c
  | @token previous token rest left hne hlength _ ih =>
    obtain ⟨word, rfl, hword⟩ := exists_vendorWord hne hlength
    rw [List.cons_append, outside_cons_of_inside (Or.inl rfl), outside_append hword]
    exact ih true

theorem outside_sublist_stripVendor (t : Text) : (outside false t).Sublist (stripVendor t) :=
  (pass_deleteTokens fits_vendorSize t).outside_sublist false

/-! ## Main statement -/

/-- A selector with a colon in it is more than pseudo parts exactly if something outside them is no blank. -/
theorem isPurePseudo_eq_false_iff : isPurePseudo t = false ↔ ∃ c ∈ outside false t, Text.isBlank c = false := by
  rw [isPurePseudo, deleteTokens_pseudoSize, List.all_eq_false]
  simp only [Bool.not_eq_true]

/-- What is looked for of a selector that is not blank is not blank: if it has a colon, something outside its pseudo parts is left. -/
theorem exists_not_blank_of_tested [Host] {force : ForceLists} {selector u : Text} (h : classify force selector = .test u)
    (hselector : ∃ c ∈ selector, Text.isBlank c = false) : ∃ c ∈ u, Text.isBlank c = false := by
  obtain ⟨-, -, hpure, rfl⟩ := classify_eq_test_iff.mp h
  by_cases hcolon : ':' ∈ Text.trim selector
  · obtain ⟨c, hc, hblank⟩ := isPurePseudo_eq_false_iff.mp (hpure hcolon)
    exact ⟨c, (outside_sublist_stripVendor _).subset hc, hblank⟩
  · obtain ⟨c, hc, hblank⟩ := hselector
    rw [stripVendor_stripAllowed_of_not_mem hcolon]
    exact ⟨c, Text.mem_trim_of_not_blank hc hblank, hblank⟩

/-- A selector that is looked for, in two parts.
1. What a pass over pseudo parts leaves of the selector without its allowed parts is left in it, in the same order.
2. It holds something that is no blank exactly if the selector does. -/
theorem exists_not_blank_iff [Host] (force : ForceLists) (selector u : Text) (h : classify force selector = .test u) :
    (deleteTokens (fun _ => pseudoSize) (stripAllowed (Text.trim selector))).Sublist u ∧
    ((∃ c ∈ u, Text.isBlank c = false) ↔ ∃ c ∈ selector, Text.isBlank c = false) := by
  have hu := eq_of_classify_eq_test h
  refine ⟨?_, ?_, exists_not_blank_of_tested h⟩
  · rw [hu, deleteTokens_pseudoSize]
    exact outside_sublist_stripVendor _
  · rintro ⟨c, hc, hblank⟩
    have hleft : u.Sublist selector := hu ▸ (stripVendor_stripAllowed_sublist _).trans (Text.trim_sublist selector)
    exact ⟨c, hleft.subset hc, hblank⟩

open Host.Plain in
/-- Of a selector that ends in a run of colons and a vendor's name, the run but two colons and what the name cannot hold are left. -/
theorem exists_not_blank_of_colonRun :
    classify {} " ::::-ms-a B::-x".toList = .test ":: B".toList ∧ ∃ c ∈ ":: B".toList, Text.isBlank c = false := by
  have h : classify {} " ::::-ms-a B::-x".toList = .test ":: B".toList := by decide
  exact ⟨h, (exists_not_blank_iff _ _ _ h).2.mpr ⟨'B', by decide, by decide⟩⟩

end CriticalCss.Selector

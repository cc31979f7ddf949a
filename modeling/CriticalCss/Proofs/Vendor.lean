import Mathlib
import CriticalCss.Proofs.Allowed
import CriticalCss.Selector.Verdict

/-!
# Vendor parts are gone

The pass over vendor parts reads a selector once, and what it deletes is never read again. All the same no vendor part is left
(`Pass.tokenFree_vendorSize`): what a deleted part leaves side by side never makes a new one, because a part is deleted with all the
letters and hyphens behind it. The pass deletes no code point behind a backslash (`stripVendor_append_backslash`). Vendor parts are those
that a regular expression finds, and the library's own expressions find the same ones (`acceptsPart_vendorProgram_eq_false_iff`).
-/

namespace CriticalCss.Selector

/-! ## What a vendor part is -/

/-- A text begins as a vendor part does: with one or two colons and a hyphen. -/
def BeginsVendor (t : Text) : Prop := [':', '-'] <+: t ∨ [':', ':', '-'] <+: t

theorem beginsVendor_cons_iff {c : Char} {t : Text} : BeginsVendor (c :: t) ↔ c = ':' ∧ (t.head? = some '-' ∨ [':', '-'] <+: t) := by
  unfold BeginsVendor
  rw [List.cons_prefix_cons, List.cons_prefix_cons, ← and_or_left, eq_comm]
  cases t with
  | nil => simp
  | cons d t => simp [List.cons_prefix_cons, eq_comm]

/-- One or two colons. -/
def IsColons (colons : Text) : Prop := colons = [':'] ∨ colons = [':', ':']

theorem IsColons.eq_colon {colons : Text} (h : IsColons colons) {c : Char} (hc : c ∈ colons) : c = ':' := by
  rcases h with rfl | rfl <;> simpa using hc

theorem beginsVendor_iff_exists {t : Text} : BeginsVendor t ↔ ∃ colons name, IsColons colons ∧ t = colons ++ '-' :: name := by
  constructor
  · rintro (⟨name, rfl⟩ | ⟨name, rfl⟩)
    · exact ⟨[':'], name, Or.inl rfl, rfl⟩
    · exact ⟨[':', ':'], name, Or.inr rfl, rfl⟩
  · rintro ⟨colons, name, rfl | rfl, rfl⟩
    · exact Or.inl ⟨name, rfl⟩
    · exact Or.inr ⟨name, rfl⟩

theorem vendorSize_backslash (t : Text) : vendorSize (some '\\') t = 0 := if_pos rfl

/-- Behind anything but a backslash a vendor part takes all of what may stand in its name. -/
theorem vendorSize_colons {previous : Option Char} (hp : previous ≠ some '\\') {colons : Text} (hcolons : IsColons colons)
    (name : Text) : vendorSize previous (colons ++ '-' :: name) = (colons ++ '-' :: name.takeWhile isVendorPart).length := by
  rw [vendorSize, if_neg hp]
  rcases hcolons with rfl | rfl
  · simp [afterColons]
    omega
  · simp [afterColons]
    omega

/-- A text that does not begin as a vendor part does begins with none. -/
theorem vendorSize_of_not_beginsVendor (previous : Option Char) {t : Text} (h : ¬BeginsVendor t) : vendorSize previous t = 0 := by
  unfold vendorSize afterColons
  split
  · rfl
  · split
    · rename_i rest
      cases rest with
      | nil => rfl
      | cons d rest =>
        have hd : d ≠ '-' := fun hd => h (Or.inr ⟨rest, hd ▸ rfl⟩)
        simp [hd]
    · rename_i rest _
      cases rest with
      | nil => rfl
      | cons d rest =>
        have hd : d ≠ '-' := fun hd => h (Or.inl ⟨rest, hd ▸ rfl⟩)
        simp [hd]
    · rfl

/-- No vendor part begins behind a backslash, and behind anything else one begins where the text looks like it. -/
theorem vendorSize_eq_zero_iff {previous : Option Char} {t : Text} :
    vendorSize previous t = 0 ↔ previous = some '\\' ∨ ¬BeginsVendor t := by
  constructor
  · intro h
    by_contra hnot
    rw [not_or, not_not] at hnot
    obtain ⟨colons, name, hcolons, rfl⟩ := beginsVendor_iff_exists.mp hnot.2
    rw [vendorSize_colons hnot.1 hcolons] at h
    exact List.append_ne_nil_of_right_ne_nil colons (List.cons_ne_nil _ _) (List.eq_nil_of_length_eq_zero h)
  · rintro (rfl | h)
    · exact vendorSize_backslash t
    · exact vendorSize_of_not_beginsVendor previous h

/-- A vendor part holds colons and what may stand in a vendor's name, and it takes all of the latter that stands there. -/
theorem exists_vendorToken {previous : Option Char} {t : Text} (h : vendorSize previous t ≠ 0) :
    ∃ token rest, t = token ++ rest ∧ vendorSize previous t = token.length ∧
      (∀ c ∈ token, c = ':' ∨ isVendorPart c = true) ∧ ∀ c, rest.head? = some c → isVendorPart c = false := by
  rw [Ne, vendorSize_eq_zero_iff, not_or, not_not] at h
  obtain ⟨colons, name, hcolons, rfl⟩ := beginsVendor_iff_exists.mp h.2
  refine ⟨colons ++ '-' :: name.takeWhile isVendorPart, name.dropWhile isVendorPart, ?_, vendorSize_colons h.1 hcolons name, ?_, ?_⟩
  · rw [List.append_assoc, List.cons_append, List.takeWhile_append_dropWhile]
  · intro c hc
    rcases List.mem_append.mp hc with hc | hc
    · exact Or.inl (hcolons.eq_colon hc)
    · rcases List.mem_cons.mp hc with rfl | hc
      · exact Or.inr rfl
      · exact Or.inr (List.mem_takeWhile_imp hc)
  · exact fun c hc => Text.eq_false_of_head?_dropWhile hc

theorem fits_vendorSize : Fits vendorSize := by
  refine .of_exists fun previous t h => ?_
  obtain ⟨token, rest, hsplit, hsize, -, -⟩ := exists_vendorToken h
  exact ⟨token, rest, hsplit, hsize⟩

theorem beginWithColon_vendorSize : BeginWithColon vendorSize := by
  intro previous t h
  refine vendorSize_of_not_beginsVendor previous ?_
  rintro (⟨name, rfl⟩ | ⟨name, rfl⟩)
  · exact h rfl
  · exact h rfl

/-- A run that ends within a text is the same whatever stands behind the text. -/
theorem takeWhile_eq_of_length_le {t rest : Text} {kind : Char → Bool} (h : ((t ++ rest).takeWhile kind).length ≤ t.length) :
    t.takeWhile kind = (t ++ rest).takeWhile kind := by
  rw [List.takeWhile_append] at h ⊢
  split
  · rename_i hall
    rw [if_pos hall, List.length_append] at h
    have hnone : rest.takeWhile kind = [] := List.eq_nil_of_length_eq_zero (by omega)
    rw [hnone, List.append_nil]
    exact (List.takeWhile_prefix kind).eq_of_length hall
  · rfl

theorem settled_vendorSize : Settled vendorSize := by
  intro previous t rest hsize
  by_cases hp : previous = some '\\'
  · rw [hp, vendorSize_backslash, vendorSize_backslash]
  by_cases hbegins : BeginsVendor (t ++ rest)
  · obtain ⟨colons, name, hcolons, hsplit⟩ := beginsVendor_iff_exists.mp hbegins
    rw [hsplit, vendorSize_colons hp hcolons] at hsize
    -- the colons and the hyphen stand in the text, so only the name can reach beyond it
    obtain ⟨front, rfl⟩ : colons ++ ['-'] <+: t := by
      refine List.prefix_of_prefix_length_le ⟨name, ?_⟩ (List.prefix_append t rest) (le_trans ?_ hsize)
      · rw [hsplit, List.append_assoc, List.singleton_append]
      · simp
    obtain rfl : front ++ rest = name := by simpa using hsplit
    have hname : ((front ++ rest).takeWhile isVendorPart).length ≤ front.length := by
      simp only [List.length_append, List.length_cons, List.length_nil] at hsize
      omega
    rw [List.append_assoc, List.append_assoc, List.singleton_append, List.cons_append, vendorSize_colons hp hcolons,
      vendorSize_colons hp hcolons, takeWhile_eq_of_length_le hname]
  · have hnot : ¬BeginsVendor t :=
      mt (Or.imp (·.trans (List.prefix_append t rest)) (·.trans (List.prefix_append t rest))) hbegins
    rw [vendorSize_of_not_beginsVendor previous hbegins, vendorSize_of_not_beginsVendor previous hnot]

/-- What a pass deletes at once is a vendor part, and none of what may stand in its name is left behind it. -/
theorem vendorToken {previous : Option Char} {token rest : Text} (hne : token ≠ [])
    (h : vendorSize previous (token ++ rest) = token.length) :
    (∀ c ∈ token, c = ':' ∨ isVendorPart c = true) ∧ ∀ c, rest.head? = some c → isVendorPart c = false := by
  have hsize : vendorSize previous (token ++ rest) ≠ 0 := by
    rw [h]
    exact mt List.eq_nil_of_length_eq_zero hne
  obtain ⟨token', rest', hsplit, hlength, htoken, hrest⟩ := exists_vendorToken hsize
  obtain ⟨rfl, rfl⟩ := List.append_inj hsplit (h ▸ hlength)
  exact ⟨htoken, hrest⟩

/-! ## No vendor part is left -/

/-- A text has no vendor part exactly if each colon in front of a hyphen stands directly behind a backslash. -/
theorem tokenFree_vendorSize_iff {t : Text} :
    TokenFree vendorSize none t ↔ ∀ before after, t = before ++ ':' :: '-' :: after → before.getLast? = some '\\' := by
  constructor
  · intro h before after hsplit
    have hnone := h before (':' :: '-' :: after) hsplit
    rw [Option.or_none, vendorSize_eq_zero_iff] at hnone
    exact hnone.resolve_right (not_not_intro (Or.inl ⟨after, rfl⟩))
  · intro h before after hsplit
    rw [Option.or_none, vendorSize_eq_zero_iff]
    by_contra hnot
    rw [not_or, not_not] at hnot
    obtain ⟨hlast, ⟨name, rfl⟩ | ⟨name, rfl⟩⟩ := hnot
    · exact hlast (h before name hsplit)
    · -- the second of two colons stands behind a colon
      have hcolon := h (before ++ [':']) name (by simpa using hsplit)
      rw [List.getLast?_concat] at hcolon
      cases hcolon

/-- What may stand in a vendor's name and comes first in what is left came first in the text. -/
theorem Pass.head?_of_isVendorPart {previous : Option Char} {t left : Text} (h : Pass vendorSize previous t left) {c : Char}
    (hc : left.head? = some c) (hv : isVendorPart c = true) : t.head? = some c := by
  induction h with
  | nil => exact hc
  | kept => exact hc
  | token hne hlength _ ih =>
    have hnot := (vendorToken hne hlength).2 c (ih hc)
    rw [hv] at hnot
    cases hnot

/-- No vendor part is left, and none comes about. -/
theorem Pass.tokenFree_vendorSize {previous : Option Char} {t left : Text} (h : Pass vendorSize previous t left) :
    TokenFree vendorSize previous left := by
  induction h with
  | nil previous => exact tokenFree_nil_iff.mpr (vendorSize_of_not_beginsVendor previous (by simp [BeginsVendor]))
  | @kept previous c rest left hsize hpass ih =>
    refine tokenFree_cons_iff.mpr ⟨?_, ih⟩
    rw [vendorSize_eq_zero_iff] at hsize ⊢
    refine hsize.imp_right fun hbegins hleft => hbegins ?_
    rw [beginsVendor_cons_iff] at hleft ⊢
    obtain ⟨rfl, hhyphen | hcolon⟩ := hleft
    · exact ⟨rfl, Or.inl (hpass.head?_of_isVendorPart hhyphen rfl)⟩
    · -- behind a colon no vendor part is left, so this colon cannot make one longer
      have hnone := ih [] left rfl
      rw [vendorSize_eq_zero_iff] at hnone
      exact absurd (Or.inl hcolon) (hnone.resolve_left (by decide))
  | @token previous token rest left hne hlength _ ih =>
    have hlast : token.getLast? ≠ some '\\' := by
      intro hlast
      rcases (vendorToken hne hlength).1 _ (List.mem_of_getLast? hlast) with h | h
      · exact absurd h (by decide)
      · exact absurd h (by decide)
    cases left with
    | nil => exact tokenFree_nil_iff.mpr (vendorSize_of_not_beginsVendor previous (by simp [BeginsVendor]))
    | cons d left =>
      rw [tokenFree_cons_iff, vendorSize_eq_zero_iff] at ih ⊢
      exact ⟨Or.inr (ih.1.resolve_left hlast), ih.2⟩

theorem tokenFree_stripVendor (t : Text) : TokenFree vendorSize none (stripVendor t) :=
  (pass_deleteTokens fits_vendorSize t).tokenFree_vendorSize

/-! ## What is kept -/

/-- What may not stand in a vendor's name ends a vendor part in front of it. -/
theorem vendorSize_append_of_beginsVendor {c : Char} (hpart : isVendorPart c = false) {before : Text} (h : BeginsVendor before)
    (previous : Option Char) (rest : Text) : vendorSize previous (before ++ c :: rest) = vendorSize previous before := by
  have hname : ∀ name : Text, (name ++ c :: rest).takeWhile isVendorPart = name.takeWhile isVendorPart := by
    intro name
    rw [List.takeWhile_append, List.takeWhile_cons_of_neg (by simp [hpart]), List.append_nil]
    split
    · rename_i h
      exact ((List.takeWhile_prefix isVendorPart).eq_of_length h).symm
    · rfl
  by_cases hp : previous = some '\\'
  · rw [hp, vendorSize_backslash, vendorSize_backslash]
  · obtain ⟨colons, name, hcolons, rfl⟩ := beginsVendor_iff_exists.mp h
    rw [List.append_assoc, List.cons_append, vendorSize_colons hp hcolons, vendorSize_colons hp hcolons, hname]

/-- What is neither a colon nor may stand in a vendor's name separates vendor parts. -/
theorem separates_vendorSize {c : Char} (hcolon : c ≠ ':') (hpart : isVendorPart c = false) : Separates vendorSize c := by
  have hhyphen : c ≠ '-' := by
    rintro rfl
    cases hpart
  constructor
  · intro previous rest
    exact vendorSize_of_not_beginsVendor previous fun h => hcolon (beginsVendor_cons_iff.mp h).1
  · intro previous before rest hne
    by_cases h : BeginsVendor before
    · exact vendorSize_append_of_beginsVendor hpart h previous rest
    · have h' : ¬BeginsVendor (before ++ c :: rest) := by
        rintro (h' | h')
        · exact h (Or.inl (prefix_of_prefix_append_cons h' (by simp [hcolon, hhyphen])))
        · exact h (Or.inr (prefix_of_prefix_append_cons h' (by simp [hcolon, hhyphen])))
      rw [vendorSize_of_not_beginsVendor previous h, vendorSize_of_not_beginsVendor previous h']

/-- A colon ends a vendor part in front of it, and makes none unless a hyphen follows it. -/
theorem vendorSize_append_colon {before behind : Text} (hne : before ≠ [])
    (hhyphen : behind.head? = some '-' → before.getLast? = some '\\') (previous : Option Char) :
    vendorSize previous (before ++ ':' :: behind) = vendorSize previous before := by
  by_cases h : BeginsVendor before
  · exact vendorSize_append_of_beginsVendor rfl h previous behind
  · have h' : ¬BeginsVendor (before ++ ':' :: behind) := by
      match before with
      | [c] =>
        rw [List.cons_append, List.nil_append, beginsVendor_cons_iff]
        rintro ⟨rfl, hhead | ⟨rest, hbegins⟩⟩
        · cases hhead
        · obtain rfl := (List.cons_eq_cons.mp hbegins).2
          cases hhyphen rfl
      | c :: d :: before =>
        rw [beginsVendor_cons_iff] at h
        rw [List.cons_append, beginsVendor_cons_iff]
        refine mt (And.imp_right (Or.imp_right fun hbegins => ?_)) h
        rw [List.cons_append, List.cons_prefix_cons] at hbegins
        refine List.cons_prefix_cons.mpr ⟨hbegins.1, ?_⟩
        exact prefix_of_prefix_append_cons hbegins.2 (by simp)
    rw [vendorSize_of_not_beginsVendor previous h, vendorSize_of_not_beginsVendor previous h']

/-- A backslash is kept and so is the code point behind it. What stands in front of them is passed as if it stood alone. -/
theorem stripVendor_append_backslash (before : Text) (c : Char) (after : Text) :
    ∃ rest, rest.Sublist after ∧ stripVendor (before ++ '\\' :: c :: after) = stripVendor before ++ '\\' :: c :: rest := by
  have hbefore := pass_deleteTokens fits_vendorSize before
  have hafter := pass_deleteFrom fits_vendorSize (some c) after
  have hescaped : Pass vendorSize (some '\\') (c :: after) (c :: deleteFrom vendorSize (some c) 0 after) :=
    .kept (vendorSize_backslash _) hafter
  have hpass := hbefore.append_cons (separates_vendorSize (by decide) (by decide)) hescaped
  exact ⟨_, hafter.sublist, hpass.eq_deleteFrom.symm⟩

/-! ## Vendor parts as a regular expression finds them -/

/-- The regular expression of vendor parts. -/
def vendorSource : Text := "(?<!\\\\):?:-[a-z-]*".toList

/-- What it says of a colon, a hyphen and what may stand behind them. -/
def colonHyphenName : Regexp.Expr :=
  .sequence (.single ':'.toNat) (.sequence (.single '-'.toNat)
    (.loop 0 none .greedy (.oneOf false [.range 'a'.toNat 'z'.toNat, .single '-'.toNat])))

/-- What it says. -/
def vendorProgram : Regexp.Program where
  expr := .sequence (.look true true (.single '\\'.toNat)) (.sequence (.loop 0 (some 1) .greedy (.single ':'.toNat)) colonHyphenName)
  modes := {}

theorem compile_vendorSource [Host] : Regexp.compile vendorSource {} = .ok vendorProgram := by cbv

theorem beginsVendor_iff_getElem? {t : Text} :
    BeginsVendor t ↔ t[0]? = some ':' ∧ (t[1]? = some ':' ∧ t[2]? = some '-' ∨ t[1]? = some '-') := by
  match t with
  | [] => simp [BeginsVendor]
  | [c] => simp [BeginsVendor, List.cons_prefix_cons]
  | [c, d] => simp [BeginsVendor, List.cons_prefix_cons, eq_comm]
  | c :: d :: e :: t =>
    simp only [BeginsVendor, List.cons_prefix_cons, List.nil_prefix, and_true]
    grind

theorem isSome_run_colonHyphenName_iff {t : Text} {p : Regexp.Place} :
    (colonHyphenName.run t.toArray {} some p).isSome = true ↔ t[p.position]? = some ':' ∧ t[p.position + 1]? = some '-' := by
  show ((Regexp.Expr.single ':'.toNat).run t.toArray {} ((Regexp.Expr.single '-'.toNat).run t.toArray {} _) p).isSome = true ↔ _
  rw [Regexp.Expr.isSome_run_single_iff, Regexp.Expr.isSome_run_single_iff, Regexp.Expr.isSome_run_many, and_iff_left rfl]

/-- The expression finds a vendor part where the pass finds one. -/
theorem acceptsAt_vendorProgram_iff (before after : Text) :
    vendorProgram.acceptsAt (before ++ after).toArray before.length = true ↔ vendorSize before.getLast? after ≠ 0 := by
  have hbehind : ∀ i, (before ++ after)[before.length + i]? = after[i]? := by
    intro i
    rw [List.getElem?_append_right (Nat.le_add_right _ _), Nat.add_sub_cancel_left]
  have hhere : (before ++ after)[before.length]? = after[0]? := hbehind 0
  have hsize : before.length ≤ (before ++ after).toArray.size := by simp
  rw [Ne, vendorSize_eq_zero_iff, not_or, not_not, beginsVendor_iff_getElem?]
  show ((Regexp.Expr.look true true (.single '\\'.toNat)).run (before ++ after).toArray {}
    ((Regexp.Expr.loop 0 (some 1) .greedy (.single ':'.toNat)).run _ {} (colonHyphenName.run _ {} some)) _).isSome = true ↔ _
  rw [Regexp.Expr.run_notBehind]
  split
  · rename_i hescaped
    exact ⟨nofun, fun h => absurd hescaped h.1⟩
  · rename_i hescaped
    rw [Regexp.Expr.run_optional _ _ hsize, Option.isSome_or, Bool.or_eq_true, Regexp.Expr.isSome_run_single_iff,
      isSome_run_colonHyphenName_iff, isSome_run_colonHyphenName_iff]
    simp only [Nat.add_assoc, Nat.reduceAdd, hhere, hbehind]
    rw [← and_or_left, and_iff_right hescaped]

/-- It finds nothing in a text exactly if the text has no vendor part. -/
theorem acceptsPart_vendorProgram_eq_false_iff {t : Text} :
    vendorProgram.acceptsPart t = false ↔ TokenFree vendorSize none t := by
  rw [← Bool.not_eq_true, Regexp.Program.acceptsPart_iff, not_exists]
  constructor
  · rintro h before after rfl
    by_contra hsize
    rw [Option.or_none] at hsize
    refine h before.length ⟨?_, (acceptsAt_vendorProgram_iff before after).mpr hsize⟩
    rw [List.length_append]
    exact Nat.le_add_right _ _
  · rintro h i ⟨hi, haccepts⟩
    have hsplit := List.take_append_drop i t
    have hsize := acceptsAt_vendorProgram_iff (t.take i) (t.drop i)
    rw [hsplit, List.length_take_of_le hi] at hsize
    have hnone := h _ _ hsplit.symm
    rw [Option.or_none] at hnone
    exact hsize.mp haccepts hnone

/-! ## Main statement -/

/-- Both passes leave a text without a colon as it is. -/
theorem stripVendor_stripAllowed_of_not_mem {t : Text} (h : ':' ∉ t) : stripVendor (stripAllowed t) = t := by
  have hleft : stripAllowed t = t := (beginWithColon_allowedSize.tokenFree h).deleteFrom_eq
  rw [hleft]
  exact (beginWithColon_vendorSize.tokenFree h).deleteFrom_eq

theorem stripVendor_stripAllowed_sublist (t : Text) : (stripVendor (stripAllowed t)).Sublist t :=
  (pass_deleteTokens fits_vendorSize _).sublist.trans (pass_deleteTokens fits_allowedSize t).sublist

/-- A selector is looked for exactly if no pattern selects it, it mentions no selection and it is not, with a colon in it, nothing but
pseudo parts. It has gone through both passes then; where it has no colon, they change nothing. -/
theorem classify_eq_test_iff [Host] {force : ForceLists} {selector u : Text} :
    classify force selector = .test u ↔
      (Pattern.anySelects force.keep (Text.trim selector) = false ∧ Pattern.anySelects force.drop (Text.trim selector) = false) ∧
      mentionsSelection (Text.trim selector) = false ∧
      (':' ∈ Text.trim selector → isPurePseudo (stripAllowed (Text.trim selector)) = false) ∧
      u = stripVendor (stripAllowed (Text.trim selector)) := by
  generalize htrim : Text.trim selector = t
  rw [classify, verdict, htrim]
  split_ifs with hkeep hdrop hordinary hmentions hpure
  · simp [Verdict.classification, hkeep]
  · simp [Verdict.classification, hdrop]
  · have hcolon : ':' ∉ t := by simpa using hordinary
    have hmentions : mentionsSelection t = false := by
      rw [← Bool.not_eq_true, mentionsSelection_iff]
      rintro ⟨name, -, hname⟩
      exact hcolon (hname.subset List.mem_cons_self)
    rw [stripVendor_stripAllowed_of_not_mem hcolon]
    simp [Verdict.classification, hkeep, hdrop, hcolon, hmentions, @eq_comm _ u]
  · simp [Verdict.classification, hmentions]
  · have hcolon : ':' ∈ t := by simpa using hordinary
    simp [Verdict.classification, hcolon, hpure]
  · simp [Verdict.classification, hkeep, hdrop, hmentions, hpure, @eq_comm _ u]

/-- A selector that is looked for has gone through both passes; where it has no colon, they change nothing. -/
theorem eq_of_classify_eq_test [Host] {force : ForceLists} {selector u : Text} (h : classify force selector = .test u) :
    u = stripVendor (stripAllowed (Text.trim selector)) := (classify_eq_test_iff.mp h).2.2.2

/-- A selector that is looked for, in four parts.
1. It is the trimmed selector without its allowed pseudo parts and then without its vendor parts.
2. The regular expression of vendor parts finds nothing in it.
3. Another pass over vendor parts leaves it as it is.
4. Each backslash of the selector without its allowed pseudo parts is kept with the code point behind it, and what stands in front of them
   in the result is what is left of what stood in front of them. -/
theorem vendor_parts_stripped [Host] (force : ForceLists) (selector u : Text) (h : classify force selector = .test u) :
    u = stripVendor (stripAllowed (Text.trim selector)) ∧
    (∃ program, Regexp.compile vendorSource {} = .ok program ∧ program.acceptsPart u = false) ∧
    stripVendor u = u ∧
    ∀ before c after, stripAllowed (Text.trim selector) = before ++ '\\' :: c :: after →
      ∃ rest, rest.Sublist after ∧ u = stripVendor before ++ '\\' :: c :: rest := by
  have hu := eq_of_classify_eq_test h
  have hfree : TokenFree vendorSize none u := hu ▸ tokenFree_stripVendor _
  refine ⟨hu, ⟨vendorProgram, compile_vendorSource, acceptsPart_vendorProgram_eq_false_iff.mpr hfree⟩, hfree.deleteFrom_eq, ?_⟩
  intro before c after hsplit
  rw [hu, hsplit]
  exact stripVendor_append_backslash before c after

open Host.Plain in
/-- A colon that belongs to a name stays with the hyphen behind it, and of three colons before a vendor's name the first stays. -/
theorem vendor_parts_stripped_of_threeColons :
    classify {} ".a\\:-b:::-moz-c p::-ms-d".toList = .test ".a\\:-b: p".toList ∧
    (∃ program, Regexp.compile vendorSource {} = .ok program ∧ program.acceptsPart ".a\\:-b: p".toList = false) ∧
    ∃ rest, ".a\\:-b: p".toList = stripVendor ".a".toList ++ '\\' :: ':' :: rest := by
  have h : classify {} ".a\\:-b:::-moz-c p::-ms-d".toList = .test ".a\\:-b: p".toList := by decide
  obtain ⟨-, hfound, -, hescaped⟩ := vendor_parts_stripped _ _ _ h
  obtain ⟨rest, -, hrest⟩ := hescaped ".a".toList ':' "-b:::-moz-c p::-ms-d".toList (by decide)
  exact ⟨h, hfound, rest, hrest⟩

end CriticalCss.Selector

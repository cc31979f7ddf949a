import CriticalCss.Proofs.Deleting
import CriticalCss.Proofs.Matching

/-!
# Allowed parts

An allowed part is one or two colons and an allowed name (`IsAllowedPart`). No allowed name begins another, so a text begins with at most
one allowed part of each number of colons, and where it ends does not depend on what stands behind it (`settled_allowedSize`). A text
has an allowed part exactly where an allowed name stands behind a colon, and there a regular expression finds it too
(`acceptsPart_allowedProgram_iff`).
-/

namespace CriticalCss.Selector

variable {t name : Text}

/-! ## Allowed names -/

/-- Names hold no colons: they are made of what may stand in a vendor's name. -/
theorem isVendorPart_of_mem_names : ∀ name ∈ allowedNames ++ selectionNames, ∀ c ∈ name, isVendorPart c = true := by
  have hall : ∀ name ∈ allowedNames ++ selectionNames, name.all isVendorPart = true := by decide
  exact fun name hname => List.all_eq_true.mp (hall name hname)

theorem ne_nil_of_mem_names : ∀ name ∈ allowedNames ++ selectionNames, name ≠ [] := by decide

theorem ne_colon_of_isVendorPart {c : Char} (h : isVendorPart c = true) : c ≠ ':' := by
  rintro rfl
  cases h

/-- No name begins with an allowed one, except itself. -/
theorem eq_of_allowed_begins :
    ∀ name ∈ allowedNames, ∀ other ∈ allowedNames ++ selectionNames, name <+: other → name = other := by decide

/-- A text begins with at most one allowed name. -/
theorem allowedName?_eq_some_iff : allowedName? t = some name ↔ name ∈ allowedNames ∧ name <+: t := by
  constructor
  · intro h
    have hbegins := List.find?_some h
    exact ⟨List.mem_of_find?_eq_some h, List.isPrefixOf_iff_prefix.mp hbegins⟩
  · rintro ⟨hname, hbegins⟩
    cases hfound : allowedName? t with
    | none =>
      have hnot := List.find?_eq_none.mp hfound name hname
      exact absurd (List.isPrefixOf_iff_prefix.mpr hbegins) hnot
    | some other =>
      have hother := List.mem_of_find?_eq_some hfound
      have hbegins' := List.find?_some hfound
      rcases List.prefix_or_prefix_of_prefix (List.isPrefixOf_iff_prefix.mp hbegins') hbegins with h | h
      · rw [eq_of_allowed_begins other hother name (List.mem_append_left _ hname) h]
      · rw [eq_of_allowed_begins name hname other (List.mem_append_left _ hother) h]

/-- A selection is mentioned exactly if its name stands behind a colon. -/
theorem mentionsSelection_iff : mentionsSelection t = true ↔ ∃ name ∈ selectionNames, ':' :: name <:+: t := by
  induction t with
  | nil => simp [mentionsSelection]
  | cons c t ih =>
    have hhere : ∀ name : Text, ':' :: name <+: c :: t ↔ c = ':' ∧ name <+: t := fun name => by
      rw [List.cons_prefix_cons, eq_comm]
    simp only [mentionsSelection, Bool.or_eq_true, Bool.and_eq_true, beq_iff_eq, List.any_eq_true, List.isPrefixOf_iff_prefix, ih,
      List.infix_cons_iff, hhere, and_or_left, exists_or, and_left_comm, exists_and_left]

/-! ## Allowed parts -/

/-- One or two colons and an allowed name. -/
def IsAllowedPart (part : Text) : Prop := ∃ name ∈ allowedNames, part = ':' :: name ∨ part = ':' :: ':' :: name

theorem IsAllowedPart.ne_nil {part : Text} (h : IsAllowedPart part) : part ≠ [] := by
  obtain ⟨name, -, rfl | rfl⟩ := h <;> exact List.cons_ne_nil _ _

theorem colon_not_mem_of_mem_allowedNames (h : name ∈ allowedNames) : ':' ∉ name := fun hcolon =>
  ne_colon_of_isVendorPart (isVendorPart_of_mem_names name (List.mem_append_left _ h) ':' hcolon) rfl

/-- What is neither a colon nor may stand in a vendor's name is in no part. -/
theorem IsAllowedPart.not_mem {part : Text} (h : IsAllowedPart part) {c : Char} (hcolon : c ≠ ':') (hpart : isVendorPart c = false) :
    c ∉ part := by
  obtain ⟨name, hname, h⟩ := h
  have hnot : c ∉ name := by
    intro hc
    rw [isVendorPart_of_mem_names name (List.mem_append_left _ hname) c hc] at hpart
    cases hpart
  rcases h with rfl | rfl <;> simp [hcolon, hnot]

/-- A part from its second colon on is a part. -/
theorem IsAllowedPart.of_append_colon {front more : Text} (h : IsAllowedPart (front ++ ':' :: more)) (hne : front ≠ []) :
    IsAllowedPart (':' :: more) := by
  obtain ⟨c, front, rfl⟩ := List.exists_cons_of_ne_nil hne
  obtain ⟨name, hname, hpart⟩ := h
  have hcolon := colon_not_mem_of_mem_allowedNames hname
  rw [List.cons_append, List.cons_eq_cons, List.cons_eq_cons] at hpart
  rcases hpart with ⟨-, rfl⟩ | ⟨-, hsecond⟩
  · exact absurd (List.mem_append_right front List.mem_cons_self) hcolon
  · cases front with
    | nil => exact ⟨name, hname, Or.inl hsecond⟩
    | cons d front =>
      obtain ⟨-, rfl⟩ := List.cons_eq_cons.mp hsecond
      exact absurd (List.mem_append_right front List.mem_cons_self) hcolon

/-- Behind a single colon a rule is told of one colon. -/
theorem afterColons_one {rule : Nat → Text → Nat} {c : Char} (hc : c ≠ ':') (rest : Text) :
    afterColons rule (':' :: c :: rest) = rule 1 (c :: rest) := by
  simp [afterColons, hc]

/-- A text that begins with an allowed part begins with this one alone: no two of them begin a text together. -/
theorem allowedSize_append {part : Text} (h : IsAllowedPart part) (rest : Text) : allowedSize (part ++ rest) = part.length := by
  obtain ⟨name, hname, hpart⟩ := h
  have hfound : allowedName? (name ++ rest) = some name := allowedName?_eq_some_iff.mpr ⟨hname, List.prefix_append name rest⟩
  rcases hpart with rfl | rfl
  · obtain ⟨c, more, rfl⟩ := List.exists_cons_of_ne_nil (ne_nil_of_mem_names name (List.mem_append_left _ hname))
    have hc : c ≠ ':' := ne_colon_of_isVendorPart (isVendorPart_of_mem_names _ (List.mem_append_left _ hname) c List.mem_cons_self)
    rw [List.cons_append] at hfound
    simp only [allowedSize, List.cons_append, afterColons_one hc, hfound, List.length_cons]
    omega
  · simp only [allowedSize, afterColons, List.cons_append, hfound, List.length_cons]
    split <;> omega

/-- A text begins with an allowed part where the pass deletes something. -/
theorem exists_allowedPart (h : allowedSize t ≠ 0) : ∃ part rest, IsAllowedPart part ∧ t = part ++ rest := by
  unfold allowedSize afterColons at h
  split at h
  · rename_i rest
    cases htwo : allowedName? rest with
    | some name =>
      obtain ⟨hname, after, rfl⟩ := allowedName?_eq_some_iff.mp htwo
      exact ⟨':' :: ':' :: name, after, ⟨name, hname, Or.inr rfl⟩, rfl⟩
    | none =>
      cases hone : allowedName? (':' :: rest) with
      | some name =>
        obtain ⟨hname, after, hafter⟩ := allowedName?_eq_some_iff.mp hone
        exact ⟨':' :: name, after, ⟨name, hname, Or.inl rfl⟩, congrArg (':' :: ·) hafter.symm⟩
      | none => simp [htwo, hone] at h
  · rename_i rest _
    cases hone : allowedName? rest with
    | some name =>
      obtain ⟨hname, after, rfl⟩ := allowedName?_eq_some_iff.mp hone
      exact ⟨':' :: name, after, ⟨name, hname, Or.inl rfl⟩, rfl⟩
    | none => simp [hone] at h
  · exact absurd rfl h

/-- What the pass deletes at once is an allowed part. -/
theorem isAllowedPart_of_size {token rest : Text} (hne : token ≠ []) (h : allowedSize (token ++ rest) = token.length) :
    IsAllowedPart token := by
  have hsize : allowedSize (token ++ rest) ≠ 0 := by
    rw [h]
    exact mt List.eq_nil_of_length_eq_zero hne
  obtain ⟨part, more, hpart, hsplit⟩ := exists_allowedPart hsize
  have hlength : token.length = part.length := by rw [← h, hsplit, allowedSize_append hpart]
  obtain ⟨rfl, -⟩ := List.append_inj hsplit hlength
  exact hpart

/-- Nothing is deleted at a place exactly if no allowed part begins there. -/
theorem allowedSize_eq_zero_iff : allowedSize t = 0 ↔ ∀ part, IsAllowedPart part → ¬part <+: t := by
  constructor
  · rintro h part hpart ⟨rest, rfl⟩
    rw [allowedSize_append hpart] at h
    exact hpart.ne_nil (List.eq_nil_of_length_eq_zero h)
  · intro h
    by_contra hsize
    obtain ⟨part, rest, hpart, rfl⟩ := exists_allowedPart hsize
    exact h part hpart (List.prefix_append part rest)

/-- An allowed part begins with a colon. -/
theorem allowedSize_of_head? (h : t.head? ≠ some ':') : allowedSize t = 0 := by
  rw [allowedSize_eq_zero_iff]
  rintro part ⟨name, -, rfl | rfl⟩ ⟨rest, rfl⟩
  · exact h rfl
  · exact h rfl

/-- Where all allowed parts at the beginning of a longer text end in the text, it begins with the same one. -/
theorem allowedSize_append_eq {rest : Text} (h : ∀ part, IsAllowedPart part → part <+: t ++ rest → part <+: t) :
    allowedSize (t ++ rest) = allowedSize t := by
  by_cases hsize : allowedSize (t ++ rest) = 0
  · rw [hsize]
    rw [allowedSize_eq_zero_iff] at hsize
    exact (allowedSize_eq_zero_iff.mpr fun part hpart hbegins => hsize part hpart (hbegins.trans (List.prefix_append t rest))).symm
  · obtain ⟨part, more, hpart, hsplit⟩ := exists_allowedPart hsize
    obtain ⟨more', rfl⟩ := h part hpart ⟨more, hsplit.symm⟩
    rw [List.append_assoc, allowedSize_append hpart, allowedSize_append hpart]

theorem beginWithColon_allowedSize : BeginWithColon fun _ => allowedSize := fun _ _ h => allowedSize_of_head? h

/-- What is deleted at a place is no more than stands there. -/
theorem fits_allowedSize : Fits fun _ => allowedSize := by
  refine .of_exists fun previous t h => ?_
  obtain ⟨part, rest, hpart, rfl⟩ := exists_allowedPart h
  exact ⟨part, rest, rfl, allowedSize_append hpart rest⟩

/-- Whether a part ends in a text does not depend on what follows the text. -/
theorem settled_allowedSize : Settled fun _ => allowedSize := by
  intro previous t rest (hsize : allowedSize (t ++ rest) ≤ t.length)
  refine (allowedSize_append_eq fun part hpart hbegins => ?_).symm
  obtain ⟨more, hmore⟩ := hbegins
  rw [← hmore, allowedSize_append hpart] at hsize
  exact List.prefix_of_prefix_length_le (List.prefix_append part more) (hmore ▸ List.prefix_append t rest) hsize

/-- What stands in no allowed part separates allowed parts. -/
theorem separates_allowedSize {c : Char} (hcolon : c ≠ ':') (hpart : isVendorPart c = false) : Separates (fun _ => allowedSize) c where
  size_cons previous rest := allowedSize_of_head? (by simpa using hcolon)
  size_append previous before rest hne :=
    allowedSize_append_eq fun part hallowed hbegins => prefix_of_prefix_append_cons hbegins (hallowed.not_mem hcolon hpart)

/-! ## Texts without their allowed parts -/

theorem stripAllowed_cons {c : Char} {rest : Text} (h : allowedSize (c :: rest) = 0) : stripAllowed (c :: rest) = c :: stripAllowed rest :=
  deleteTokens_cons h

/-- A text without colons in front of another one stays as it is. -/
theorem stripAllowed_append_of_not_mem {word : Text} (h : ':' ∉ word) (rest : Text) :
    stripAllowed (word ++ rest) = word ++ stripAllowed rest := by
  show deleteFrom _ none 0 (word ++ rest) = word ++ deleteTokens _ rest
  rw [deleteFrom_append_of_not_mem beginWithColon_allowedSize h, deleteFrom_eq_deleteTokens]

/-- A colon at which no allowed part begins is kept, and what stands on either side of it is passed as if it stood alone. -/
theorem stripAllowed_append_colon {behind : Text} (h : allowedSize (':' :: behind) = 0) (before : Text) :
    stripAllowed (before ++ ':' :: behind) = stripAllowed before ++ ':' :: stripAllowed behind := by
  have hbehind : Pass (fun _ => allowedSize) (some ':') behind (stripAllowed behind) := by
    rw [stripAllowed, ← deleteFrom_eq_deleteTokens (some ':')]
    exact pass_deleteFrom fits_allowedSize (some ':') behind
  have hpass := (pass_deleteTokens fits_allowedSize before).append ?_ (.kept h hbehind)
  · exact hpass.eq_deleteFrom.symm
  · intro previous front hne _
    refine allowedSize_append_eq fun part hpart hbegins => ?_
    rcases List.prefix_or_prefix_of_prefix hbegins (List.prefix_append front (':' :: behind)) with hin | ⟨more, rfl⟩
    · exact hin
    · -- a part that reaches beyond the front would have this colon as its second one, and then one begins at this colon too
      rw [List.prefix_append_right_inj] at hbegins
      cases more with
      | nil => rw [List.append_nil]
      | cons d more =>
        obtain ⟨rfl, -⟩ := List.cons_prefix_cons.mp hbegins
        exact absurd hbegins (allowedSize_eq_zero_iff.mp h _ (hpart.of_append_colon hne))

/-! ## Allowed parts as a regular expression finds them -/

/-- The regular expression of allowed parts. -/
def allowedSource : Text := ":?:before|:?:after|:?:visited|:?:first-letter|:?:first-line".toList

/-- What it says. -/
def allowedProgram : Regexp.Program where
  expr := Regexp.Expr.choices (allowedNames.map fun name => .colons (.word name))
  modes := {}

/-- The expression finds something in a text exactly if an allowed name stands behind a colon there. -/
theorem acceptsPart_allowedProgram_iff : allowedProgram.acceptsPart t = true ↔ ∃ name ∈ allowedNames, ':' :: name <:+: t := by
  unfold allowedProgram
  rw [Regexp.acceptsPart_choices_iff (by simp [allowedNames])]
  simp only [List.mem_map, exists_exists_and_eq_and, Regexp.acceptsPart_colons_word_iff]

/-- A text has an allowed part exactly if an allowed name stands behind a colon there. -/
theorem tokenFree_allowedSize_iff : TokenFree (fun _ => allowedSize) none t ↔ ∀ name ∈ allowedNames, ¬ ':' :: name <:+: t := by
  constructor
  · rintro h name hname ⟨before, after, rfl⟩
    have hnone := h before (':' :: name ++ after) (List.append_assoc _ _ _)
    rw [allowedSize_eq_zero_iff] at hnone
    exact hnone (':' :: name) ⟨name, hname, Or.inl rfl⟩ (List.prefix_append _ after)
  · rintro h before after rfl
    rw [allowedSize_eq_zero_iff]
    rintro part ⟨name, hname, hpart⟩ hbegins
    have hinfix : part <:+: before ++ after := hbegins.isInfix.trans (List.suffix_append before after).isInfix
    rcases hpart with rfl | rfl
    · exact h name hname hinfix
    · exact h name hname ((List.suffix_cons ':' (':' :: name)).isInfix.trans hinfix)

end CriticalCss.Selector

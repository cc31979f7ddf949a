import CriticalCss.Proofs.Vendor

/-!
# Names that come about

A pass reads a text once. When an allowed part stands inside a name, deleting it brings the pieces of the name together, and the name is
left behind its colon: of `a:bef:beforeore` the pass leaves `a:before`. This is the only way in which an allowed part or a selection can
be left (`names_found_iff`): a colon is kept, then comes a piece of a name, then at least one allowed part, and what stands behind it
without its allowed parts begins with the rest of the name (`Interrupted`). The pass over vendor parts adds none, and takes away only
what begins with a hyphen behind a colon that no backslash escapes (`infix_stripVendor_iff`).
-/

namespace CriticalCss.Selector

variable {name t : Text}

/-! ## Selections -/

theorem append_prefix_iff {head tail t : Text} : head ++ tail <+: t ↔ head <+: t ∧ tail <+: t.drop head.length := by
  constructor
  · rintro ⟨rest, rfl⟩
    rw [List.append_assoc, List.drop_left]
    exact ⟨List.prefix_append _ _, List.prefix_append _ _⟩
  · rintro ⟨⟨rest, rfl⟩, h⟩
    rwa [List.drop_left, ← List.prefix_append_right_inj head] at h

/-- The regular expression of selections. -/
def selectionSource : Text := ":?:(-moz-)?selection".toList

/-- What it says. -/
def selectionProgram : Regexp.Program where
  expr := .colons (.sequence (.loop 0 (some 1) .greedy (.group (some 1) {} (.word "-moz-".toList))) (.word "selection".toList))
  modes := {}

/-- The expression of the allowed names is read as this program. -/
theorem compile_allowedSource [Host] : Regexp.compile allowedSource {} = .ok allowedProgram := by cbv

/-- The expression of selections is read as this program. -/
theorem compile_selectionSource [Host] : Regexp.compile selectionSource {} = .ok selectionProgram := by cbv

/-- The expression finds something in a text exactly if the text mentions a selection. -/
theorem acceptsPart_selectionProgram_iff :
    selectionProgram.acceptsPart t = true ↔ ∃ name ∈ selectionNames, ':' :: name <:+: t := by
  have hnames : selectionNames = ["selection".toList, "-moz-".toList ++ "selection".toList] := by decide
  simp only [hnames, List.mem_cons, List.not_mem_nil, or_false, exists_eq_or_imp, exists_eq_left,
    Regexp.infix_iff_exists_prefix_drop, ← exists_or]
  refine Regexp.acceptsPart_colons_iff.trans (exists_congr fun i => ?_)
  rw [Regexp.Expr.cons_prefix_drop_iff, Regexp.Expr.cons_prefix_drop_iff, ← and_or_left]
  refine and_congr_right fun hcolon => ?_
  have hroom : i + 1 ≤ t.toArray.size := (List.getElem?_eq_some_iff.mp hcolon).1
  show ((Regexp.Expr.loop 0 (some 1) .greedy _).run t.toArray {} ((Regexp.Expr.word "selection".toList).run t.toArray {} some)
    { position := i + 1 }).isSome = true ↔ _
  rw [Regexp.Expr.run_optional _ _ hroom, Option.isSome_or, Bool.or_eq_true, or_comm, Regexp.Expr.isSome_run_word_iff,
    Option.isSome_some, and_iff_left rfl]
  refine or_congr_right ?_
  show ((Regexp.Expr.word "-moz-".toList).run t.toArray {} _ _).isSome = true ↔ _
  rw [Regexp.Expr.isSome_run_word_iff, Regexp.Expr.isSome_run_word_iff, Option.isSome_some, and_iff_left rfl, append_prefix_iff,
    List.drop_drop]

/-! ## Names that allowed parts interrupt -/

/-- A text begins with a piece of a name, then comes an allowed part, and without its allowed parts what follows begins with the rest. -/
def Interrupted (name t : Text) : Prop :=
  ∃ head tail rest, name = head ++ tail ∧ tail ≠ [] ∧ t = head ++ rest ∧ allowedSize rest ≠ 0 ∧ tail <+: stripAllowed rest

/-- What is left begins with a name if the text does, and else only if allowed parts interrupt the name. -/
theorem prefix_stripAllowed_iff (hname : ':' ∉ name) : name <+: stripAllowed t ↔ name <+: t ∨ Interrupted name t := by
  constructor
  · intro h
    induction name generalizing t with
    | nil => exact Or.inl List.nil_prefix
    | cons c name ih =>
      rw [List.mem_cons, not_or] at hname
      by_cases hsize : allowedSize t = 0
      · cases t with
        | nil => exact Or.inl h
        | cons d t =>
          rw [stripAllowed_cons hsize, List.cons_prefix_cons] at h
          obtain ⟨rfl, h⟩ := h
          rcases ih hname.2 h with h | ⟨head, tail, rest, rfl, hne, rfl, hrest, htail⟩
          · exact Or.inl (List.cons_prefix_cons.mpr ⟨rfl, h⟩)
          · exact Or.inr ⟨c :: head, tail, rest, rfl, hne, rfl, hrest, htail⟩
      · exact Or.inr ⟨[], c :: name, t, rfl, List.cons_ne_nil c name, rfl, hsize, h⟩
  · rintro (⟨rest, rfl⟩ | ⟨head, tail, rest, rfl, -, rfl, -, htail⟩)
    · rw [stripAllowed_append_of_not_mem hname]
      exact List.prefix_append name _
    · rw [List.mem_append, not_or] at hname
      rw [stripAllowed_append_of_not_mem hname.1, List.prefix_append_right_inj]
      exact htail

/-- A name that is left behind a colon stood there or was interrupted there, and the colon belonged to no allowed part. -/
theorem exists_of_stripAllowed_eq {front back : Text} (hname : ':' ∉ name) (h : stripAllowed t = front ++ ':' :: (name ++ back)) :
    ∃ before behind, t = before ++ ':' :: behind ∧ stripAllowed before = front ∧ allowedSize (':' :: behind) = 0 ∧
      (name <+: behind ∨ Interrupted name behind) := by
  have hpass := pass_deleteTokens fits_allowedSize t
  rw [show deleteTokens _ t = _ from h] at hpass
  obtain ⟨before, behind, rfl, hbefore, hnone, hbehind⟩ := hpass.exists_kept settled_allowedSize
  have hback := hbehind.eq_deleteFrom
  rw [deleteFrom_eq_deleteTokens] at hback
  refine ⟨before, behind, rfl, hbefore.eq_deleteFrom.symm, hnone, (prefix_stripAllowed_iff hname).mp ?_⟩
  exact ⟨back, hback⟩

/-! ## Names behind the vendor pass -/

/-- What may stand in vendor's names is left at the beginning only if it stood there. -/
theorem exists_append_of_deleteFrom_vendorSize {previous : Option Char} {back : Text} (hname : ∀ c ∈ name, isVendorPart c = true)
    (h : deleteFrom vendorSize previous 0 t = name ++ back) : ∃ rest, t = name ++ rest := by
  induction name generalizing previous t with
  | nil => exact ⟨t, rfl⟩
  | cons c name ih =>
    rw [List.forall_mem_cons] at hname
    have hpass := pass_deleteFrom fits_vendorSize previous t
    have hhead := hpass.head?_of_isVendorPart (c := c) (by rw [h]; rfl) hname.1
    obtain ⟨t, rfl⟩ := List.head?_eq_some_iff.mp hhead
    have hnone : vendorSize previous (c :: t) = 0 :=
      beginWithColon_vendorSize previous _ (by simpa using ne_colon_of_isVendorPart hname.1)
    rw [deleteFrom_of_eq_zero hnone, List.cons_append, List.cons_eq_cons] at h
    obtain ⟨rest, rfl⟩ := ih hname.2 h.2
    exact ⟨rest, rfl⟩

/-- A name is left behind a colon exactly if it stood there, except that a name with a hyphen in front needs an escaped colon. -/
theorem infix_stripVendor_iff (hne : name ≠ []) (hname : ∀ c ∈ name, isVendorPart c = true) :
    ':' :: name <:+: stripVendor t ↔
      ∃ before after, t = before ++ ':' :: (name ++ after) ∧ (name.head? = some '-' → before.getLast? = some '\\') := by
  have hcolon : ':' ∉ name := fun h => ne_colon_of_isVendorPart (hname ':' h) rfl
  constructor
  · rintro ⟨front, back, h⟩
    have hpass := pass_deleteTokens fits_vendorSize t
    rw [show deleteTokens _ t = _ from h.symm, List.append_assoc] at hpass
    obtain ⟨before, behind, rfl, -, hnone, hbehind⟩ := hpass.exists_kept settled_vendorSize
    obtain ⟨after, rfl⟩ := exists_append_of_deleteFrom_vendorSize hname hbehind.eq_deleteFrom.symm
    refine ⟨before, after, rfl, fun hhyphen => ?_⟩
    rw [Option.or_none, vendorSize_eq_zero_iff] at hnone
    refine hnone.resolve_right (not_not.mpr (beginsVendor_cons_iff.mpr ⟨rfl, Or.inl ?_⟩))
    rw [List.head?_append_of_ne_nil _ hne]
    exact hhyphen
  · rintro ⟨before, after, rfl, hhyphen⟩
    have hhead : (name ++ after).head? = some '-' → before.getLast? = some '\\' := by
      rwa [List.head?_append_of_ne_nil _ hne]
    have hkept : vendorSize before.getLast? (':' :: (name ++ after)) = 0 := by
      rw [vendorSize_eq_zero_iff, or_iff_not_imp_right, not_not, beginsVendor_cons_iff]
      rintro ⟨-, h | h⟩
      · exact hhead h
      · have hfirst : (name ++ after).head? = some ':' := by
          obtain ⟨rest, h⟩ := h
          rw [← h]
          rfl
        rw [List.head?_append_of_ne_nil _ hne] at hfirst
        exact absurd (List.mem_of_head? hfirst) hcolon
    have hpass := (pass_deleteTokens fits_vendorSize before).append ?_
      (.kept (by rwa [Option.or_none]) (pass_deleteFrom fits_vendorSize (some ':') (name ++ after)))
    · refine ⟨stripVendor before, deleteFrom vendorSize (name.getLast?.or (some ':')) 0 after, ?_⟩
      show stripVendor before ++ ':' :: name ++ _ = deleteFrom vendorSize none 0 _
      rw [← hpass.eq_deleteFrom, deleteFrom_append_of_not_mem beginWithColon_vendorSize hcolon, List.append_assoc]
      rfl
    · intro previous front hfront hsuffix
      refine vendorSize_append_colon hfront (fun h => ?_) previous
      obtain ⟨more, rfl⟩ := hsuffix
      have hlast := hhead h
      rwa [List.getLast?_append, Option.or_of_isSome (List.getLast?_isSome.mpr hfront)] at hlast

/-! ## Main statement -/

/-- A name comes about behind a colon of a text: allowed parts interrupt it there, and none begins at the colon. A name with a hyphen in
front needs a backslash in front of the colon as well, since otherwise it is deleted as a vendor part. -/
def ComesAbout (name t : Text) : Prop :=
  ∃ before behind, t = before ++ ':' :: behind ∧ allowedSize (':' :: behind) = 0 ∧ Interrupted name behind ∧
    (name.head? = some '-' → (stripAllowed before).getLast? = some '\\')

/-- Of the names that are deleted or decide about a selector, both passes leave those that come about. -/
theorem infix_stripVendor_stripAllowed_iff (hname : name ∈ allowedNames ++ selectionNames)
    (hselection : name ∈ selectionNames → ¬ ':' :: name <:+: t) :
    ':' :: name <:+: stripVendor (stripAllowed t) ↔ ComesAbout name t := by
  have hparts := isVendorPart_of_mem_names name hname
  have hcolon : ':' ∉ name := fun h => ne_colon_of_isVendorPart (hparts ':' h) rfl
  rw [infix_stripVendor_iff (ne_nil_of_mem_names name hname) hparts]
  constructor
  · rintro ⟨front, back, h, hhyphen⟩
    obtain ⟨before, behind, rfl, rfl, hnone, hbehind⟩ := exists_of_stripAllowed_eq hcolon h
    refine ⟨before, behind, rfl, hnone, hbehind.resolve_left fun hbegins => ?_, hhyphen⟩
    have hwhole : ':' :: name <+: ':' :: behind := List.cons_prefix_cons.mpr ⟨rfl, hbegins⟩
    rcases List.mem_append.mp hname with hallowed | hselected
    · exact allowedSize_eq_zero_iff.mp hnone _ ⟨name, hallowed, Or.inl rfl⟩ hwhole
    · exact hselection hselected (hwhole.isInfix.trans (List.suffix_append before _).isInfix)
  · rintro ⟨before, behind, rfl, hnone, hinterrupted, hhyphen⟩
    obtain ⟨back, hback⟩ := (prefix_stripAllowed_iff hcolon).mpr (Or.inr hinterrupted)
    exact ⟨stripAllowed before, back, by rw [stripAllowed_append_colon hnone, hback], hhyphen⟩

/-- A name comes about only where a part is directly followed by what may stand in a name. -/
theorem ComesAbout.exists_part (hname : name ∈ allowedNames ++ selectionNames) (h : ComesAbout name t) :
    ∃ part c, IsAllowedPart part ∧ isVendorPart c = true ∧ part ++ [c] <:+: t := by
  obtain ⟨before, behind, rfl, -, ⟨head, tail, rest, rfl, hne, rfl, hrest, htail⟩, -⟩ := h
  obtain ⟨c, tail, rfl⟩ := List.exists_cons_of_ne_nil hne
  obtain ⟨left, hleft⟩ := htail
  have hc : isVendorPart c = true := isVendorPart_of_mem_names _ hname c (List.mem_append_right head List.mem_cons_self)
  have hpass := pass_deleteTokens fits_allowedSize rest
  rw [show deleteTokens _ rest = _ from hleft.symm, List.cons_append] at hpass
  rcases hpass.head_eq_or_exists_token with hhead | ⟨front, token, after, -, rfl, hne', hlength⟩
  · refine absurd (allowedSize_of_head? ?_) hrest
    rw [hhead]
    exact fun h => ne_colon_of_isVendorPart hc (Option.some.inj h)
  · exact ⟨token, c, isAllowedPart_of_size hne' hlength, hc, before ++ ':' :: (head ++ front), after, by simp⟩

/-- What may be found in a selector that is looked for, in three parts.
1. The regular expression of allowed parts finds something exactly if an allowed name comes about.
2. The regular expression of selections finds something exactly if the name of a selection comes about.
3. Neither finds anything if no allowed part of the selector is directly followed by a small letter or a hyphen. -/
theorem names_found_iff [Host] (force : ForceLists) (selector u : Text) (h : classify force selector = .test u) :
    ∃ allowed selection, Regexp.compile allowedSource {} = .ok allowed ∧ Regexp.compile selectionSource {} = .ok selection ∧
      (allowed.acceptsPart u = true ↔ ∃ name ∈ allowedNames, ComesAbout name (Text.trim selector)) ∧
      (selection.acceptsPart u = true ↔ ∃ name ∈ selectionNames, ComesAbout name (Text.trim selector)) ∧
      ((∀ part c, IsAllowedPart part → isVendorPart c = true → ¬part ++ [c] <:+: Text.trim selector) →
        allowed.acceptsPart u = false ∧ selection.acceptsPart u = false) := by
  have hleft : ∀ name ∈ allowedNames ++ selectionNames, ':' :: name <:+: u ↔ ComesAbout name (Text.trim selector) := by
    intro name hname
    rw [eq_of_classify_eq_test h]
    refine infix_stripVendor_stripAllowed_iff hname fun hselection hmentioned => ?_
    have hmentions := mentionsSelection_iff.mpr ⟨name, hselection, hmentioned⟩
    rw [(classify_eq_test_iff.mp h).2.1] at hmentions
    cases hmentions
  have hallowed : allowedProgram.acceptsPart u = true ↔ ∃ name ∈ allowedNames, ComesAbout name (Text.trim selector) :=
    acceptsPart_allowedProgram_iff.trans
      (exists_congr fun name => and_congr_right fun hname => hleft name (List.mem_append_left _ hname))
  have hselection : selectionProgram.acceptsPart u = true ↔ ∃ name ∈ selectionNames, ComesAbout name (Text.trim selector) :=
    acceptsPart_selectionProgram_iff.trans
      (exists_congr fun name => and_congr_right fun hname => hleft name (List.mem_append_right _ hname))
  refine ⟨allowedProgram, selectionProgram, compile_allowedSource, compile_selectionSource, hallowed, hselection, fun hapart => ?_⟩
  have hnone : ∀ name ∈ allowedNames ++ selectionNames, ¬ComesAbout name (Text.trim selector) := by
    intro name hname hcomes
    obtain ⟨part, c, hpart, hc, hfound⟩ := hcomes.exists_part hname
    exact hapart part c hpart hc hfound
  rw [← Bool.not_eq_true, ← Bool.not_eq_true, hallowed, hselection]
  constructor
  · rintro ⟨name, hname, hcomes⟩
    exact hnone name (List.mem_append_left _ hname) hcomes
  · rintro ⟨name, hname, hcomes⟩
    exact hnone name (List.mem_append_right _ hname) hcomes

open Host.Plain in
/-- Behind an escaped colon even the name of a selection with a hyphen in front comes about, and where allowed parts end with their names
nothing does. -/
theorem names_found_of_interrupted :
    (classify {} "a\\:-moz-sel:beforeection".toList = .test "a\\:-moz-selection".toList ∧
      ∃ selection, Regexp.compile selectionSource {} = .ok selection ∧ selection.acceptsPart "a\\:-moz-selection".toList = true) ∧
    (classify {} "a:first-line, b:hover".toList = .test "a, b:hover".toList ∧
      ∃ allowed, Regexp.compile allowedSource {} = .ok allowed ∧ allowed.acceptsPart "a, b:hover".toList = false) := by
  have hescaped : classify {} "a\\:-moz-sel:beforeection".toList = .test "a\\:-moz-selection".toList := by decide
  have hcomes : ComesAbout "-moz-selection".toList (Text.trim "a\\:-moz-sel:beforeection".toList) :=
    ⟨"a\\".toList, "-moz-sel:beforeection".toList, by decide, by decide,
      ⟨"-moz-sel".toList, "ection".toList, ":beforeection".toList, by decide, by decide, by decide, by decide, by decide⟩, by decide⟩
  have hplain : classify {} "a:first-line, b:hover".toList = .test "a, b:hover".toList := by decide
  obtain ⟨-, selection, -, hcompiled, -, hselection, -⟩ := names_found_iff _ _ _ hescaped
  obtain ⟨allowed, _, hcompiled', -, -, -, hnone⟩ := names_found_iff _ _ _ hplain
  refine ⟨⟨hescaped, selection, hcompiled, hselection.mpr ⟨_, by decide, hcomes⟩⟩, hplain, allowed, hcompiled', (hnone ?_).1⟩
  have htrim : Text.trim "a:first-line, b:hover".toList = "a:first-line, b:hover".toList := by decide
  rw [htrim]
  rintro part c ⟨name, hname, rfl | rfl⟩ hc hfound
  · simp only [allowedNames, List.mem_cons, List.not_mem_nil, or_false] at hname
    rcases hname with rfl | rfl | rfl | rfl | rfl <;> simp [List.infix_cons_iff, List.cons_prefix_cons] at hfound
    subst hfound
    cases hc
  · simp only [allowedNames, List.mem_cons, List.not_mem_nil, or_false] at hname
    rcases hname with rfl | rfl | rfl | rfl | rfl <;> simp [List.infix_cons_iff, List.cons_prefix_cons] at hfound

open Host.Plain in
/-- What is left can hold an allowed part and a selection: a part inside another part, or inside a selection, is deleted, and the other
part is not read again. A second look would delete the one and drop the selector for the other. -/
theorem nested_parts_found :
    classify {} "a:bef:beforeore".toList = .test "a:before".toList ∧
    (∃ allowed, Regexp.compile allowedSource {} = .ok allowed ∧ allowed.acceptsPart "a:before".toList = true) ∧
    classify {} "a:before".toList = .test "a".toList ∧
    classify {} "p:sel:afterection".toList = .test "p:selection".toList ∧
    (∃ selection, Regexp.compile selectionSource {} = .ok selection ∧ selection.acceptsPart "p:selection".toList = true) ∧
    classify {} "p:selection".toList = .drop :=
  ⟨by decide, ⟨allowedProgram, compile_allowedSource, by decide⟩, by decide, by decide,
    ⟨selectionProgram, compile_selectionSource, by decide⟩, by decide⟩

end CriticalCss.Selector

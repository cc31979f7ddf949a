import CriticalCss.Proofs.Refusing

/-!
# Mappings that are accepted

A list of mappings is read in two ways: as the list of a field of settings, where every item is checked and all issues are found, and as a
list of entries, where the first fault ends the reading and the kind of a mapping is looked for beforehand. `Pattern.Describes` says when
the fields of a mapping are the parts of a pattern. Both ways accept a list exactly if each of its mappings describes a pattern, and both
give these patterns in the order of the list (`Pattern.ofTagged_eq_ok_iff`, `Pattern.ofMapping_eq_ok_iff`); so they accept the same lists
(`settings_accept_parsed`).
-/

namespace CriticalCss

open FailingAux

/-! ## Fields of an open mapping -/

namespace Value

/-- What is filled keeps its entries under their keys. -/
theorem field?_fillEntries (container : Value) (level : Nat) (name : Text) (entries : List (Value × Value)) :
    field? name (fillEntries container level entries) = (field? name entries).map (fill container level) := by
  induction entries with
  | nil => rfl
  | cons e rest ih =>
    obtain ⟨key, value⟩ := e
    rw [fillEntries, field?_cons, field?_cons, ih]
    cases key.isText name <;> rfl

theorem field?_openEntries (name : Text) (closed : List (Value × Value)) :
    field? name (openEntries closed) = (field? name closed).map (fill (.mapping closed) 0) := field?_fillEntries _ 0 name closed

/-- A place for a mapping holds no text, and the mapping holds none either. -/
theorem asText_fill (entries : List (Value × Value)) (level : Nat) (v : Value) : (fill (.mapping entries) level v).asText = v.asText := by
  cases v with
  | enclosing k isMapping => by_cases h : k = level <;> simp [fill, asText, h]
  | _ => rfl

theorem fill_eq_text_iff {entries : List (Value × Value)} {level : Nat} {v : Value} {t : Text} :
    fill (.mapping entries) level v = .text t ↔ v = .text t := by
  cases v with
  | enclosing k isMapping => by_cases h : k = level <;> simp [fill, h]
  | _ => simp [fill]

/-- A field holds a text in an open mapping if it holds this text in the mapping. -/
theorem field?_openEntries_eq_text_iff {name t : Text} {closed : List (Value × Value)} :
    field? name (openEntries closed) = some (.text t) ↔ field? name closed = some (.text t) := by
  rw [field?_openEntries, Option.map_eq_some_iff]
  simp only [fill_eq_text_iff, exists_eq_right]

theorem exists_field?_openEntries_iff {name t : Text} {closed : List (Value × Value)} :
    (∃ v, field? name (openEntries closed) = some v ∧ v.asText = .ok t) ↔ ∃ v, field? name closed = some v ∧ v.asText = .ok t := by
  simp only [field?_openEntries, Option.map_eq_some_iff]
  constructor
  · rintro ⟨-, ⟨v, hv, rfl⟩, ht⟩
    rw [asText_fill] at ht
    exact ⟨v, hv, ht⟩
  · rintro ⟨v, hv, ht⟩
    exact ⟨_, ⟨v, hv, rfl⟩, (asText_fill closed 0 v).trans ht⟩

end Value

/-! ## Parts of a pattern -/

namespace Pattern

/-- The name of the field of an exact text. -/
def valueField : Text := "value".toList

section

variable [Host]

/-- The fields of a mapping are the parts of a pattern: its kind, which is named by a text, and its text or else its source with its
flags. -/
inductive Describes (closed : List (Value × Value)) : Pattern → Prop
  | literal {t : Text} (hkind : Value.field? kindField closed = some (.text literalKind))
      (hvalue : ∃ v, Value.field? valueField closed = some v ∧ v.asText = .ok t) : Describes closed (.literal t)
  | regexp {p : RegexpPattern} (hkind : Value.field? kindField closed = some (.text regexpKind))
      (hsource : ∃ v, Value.field? sourceField closed = some v ∧ v.asText = .ok p.source)
      (hflags : AsksForFlags closed p.flags) : Describes closed (.regexp p)

variable {closed closed' : List (Value × Value)} {p : Pattern}

theorem Describes.kind_eq (h : Describes closed p) : Value.field? kindField closed = some (.text p.kind) := by
  cases h with
  | literal hkind hvalue => exact hkind
  | regexp hkind hsource hflags => exact hkind

omit [Host] in
theorem asksForFlags_openEntries {flags : Text} : AsksForFlags (Value.openEntries closed) flags ↔ AsksForFlags closed flags := by
  unfold AsksForFlags
  rw [field?_openEntries_eq_none_iff, Value.exists_field?_openEntries_iff]

/-! ## Reading a mapping -/

theorem literalOfFields_eq_ok_iff {entries : List (Value × Value)} (hkind : Value.field? kindField entries = some (.text literalKind)) :
    literalOfFields entries = .ok p ↔ ∃ t, (∃ v, Value.field? valueField entries = some v ∧ v.asText = .ok t) ∧ p = .literal t := by
  have hkindOk := kind_eq_ok hkind
  unfold literalOfFields
  simp only [hkindOk]
  constructor
  · intro h
    split at h
    · rename_i kind t _ hvalue
      cases h
      exact ⟨t, required_eq_ok_iff.mp hvalue, rfl⟩
    · cases h
  · rintro ⟨t, hvalue, rfl⟩
    have hvalueOk := required_eq_ok_iff.mpr hvalue
    unfold valueField at hvalueOk
    rw [hvalueOk]

theorem regexpOfFields_eq_ok_iff {entries : List (Value × Value)} (hkind : Value.field? kindField entries = some (.text regexpKind)) :
    regexpOfFields entries = .ok p ↔
      ∃ q, (∃ v, Value.field? sourceField entries = some v ∧ v.asText = .ok q.source) ∧ AsksForFlags entries q.flags ∧ p = .regexp q := by
  have hkindOk := kind_eq_ok hkind
  unfold regexpOfFields
  simp only [hkindOk]
  constructor
  · intro h
    split at h
    · rename_i kind source flags _ hsource hflags
      split at h
      · rename_i q hbuilt
        cases h
        obtain ⟨rfl, rfl⟩ := RegexpPattern.build_eq_ok_iff.mp hbuilt
        exact ⟨q, required_eq_ok_iff.mp hsource, (flags_eq_ok_iff.mp hflags).1, rfl⟩
      · cases h
    · cases h
  · rintro ⟨q, hsource, hflags, rfl⟩
    have hsourceOk := required_eq_ok_iff.mpr hsource
    have hflagsOk := flags_eq_ok_iff.mpr ⟨hflags, q.flags_sound⟩
    unfold sourceField at hsourceOk
    unfold flagsField at hflagsOk
    rw [hsourceOk, hflagsOk]
    simp only [RegexpPattern.build_eq_ok_iff.mpr ⟨rfl, rfl⟩]

/-- A mapping is checked without an issue if it describes a pattern, and this is the pattern. -/
theorem ofTagged_eq_ok_iff : ofTagged (.mapping closed) = .ok p ↔ Describes closed p := by
  have hopened : ∀ {t : Text}, Value.field? kindField closed = some (.text t) →
      Value.field? kindField (Value.openEntries closed) = some (.text t) := Value.field?_openEntries_eq_text_iff.mpr
  constructor
  · intro h
    simp only [ofTagged] at h
    split at h
    · cases h
    · rename_i tag htag
      split at h
      · rename_i hliteral
        rw [PatternFile.isText_iff.mp hliteral] at htag
        obtain ⟨t, hvalue, rfl⟩ := (literalOfFields_eq_ok_iff htag).mp (mapError_eq_ok_iff.mp h)
        exact .literal (Value.field?_openEntries_eq_text_iff.mp htag) (Value.exists_field?_openEntries_iff.mp hvalue)
      · split at h
        · rename_i hregexp
          rw [PatternFile.isText_iff.mp hregexp] at htag
          obtain ⟨q, hsource, hflags, rfl⟩ := (regexpOfFields_eq_ok_iff htag).mp (mapError_eq_ok_iff.mp h)
          exact .regexp (Value.field?_openEntries_eq_text_iff.mp htag) (Value.exists_field?_openEntries_iff.mp hsource)
            (asksForFlags_openEntries.mp hflags)
        · cases h
  · intro h
    cases h with
    | literal hkind hvalue =>
      have hisLiteral : (Value.text literalKind).isText literalKind = true := by decide
      simp only [ofTagged, hopened hkind, hisLiteral, if_true, mapError_eq_ok_iff]
      exact (literalOfFields_eq_ok_iff (hopened hkind)).mpr ⟨_, Value.exists_field?_openEntries_iff.mpr hvalue, rfl⟩
    | regexp hkind hsource hflags =>
      have hnotLiteral : (Value.text regexpKind).isText literalKind = false := by decide
      have hisRegexp : (Value.text regexpKind).isText regexpKind = true := by decide
      simp only [ofTagged, hopened hkind, hnotLiteral, hisRegexp, Bool.false_eq_true, if_false, if_true, mapError_eq_ok_iff]
      exact (regexpOfFields_eq_ok_iff (hopened hkind)).mpr
        ⟨_, Value.exists_field?_openEntries_iff.mpr hsource, asksForFlags_openEntries.mpr hflags, rfl⟩

/-- Looking for the kind beforehand refuses nothing that is accepted without it. -/
theorem ofMapping_eq_ok_iff : ofMapping closed = .ok p ↔ Describes closed p := by
  rw [← ofTagged_eq_ok_iff]
  unfold ofMapping
  cases hkind : Value.field? kindField closed with
  | none =>
    refine iff_of_false refuse_ne_ok ?_
    intro h
    rw [(ofTagged_eq_ok_iff.mp h).kind_eq] at hkind
    cases hkind
  | some tag =>
    cases hread : ofTagged (.mapping closed) with
    | ok q => simp
    | error refusal => cases refusal <;> simp [refuse_ne_ok]

/-- A list of mappings is parsed if each describes a pattern. -/
theorem ofValues_mapping_eq_ok_iff {entries : List (List (Value × Value))} {patterns : List Pattern} :
    ofValues (entries.map .mapping) = .ok patterns ↔ List.Forall₂ Describes entries patterns := by
  have heach : ∀ closed p, ofValue (.mapping closed) = .ok p ↔ Describes closed p := fun _ _ => ofMapping_eq_ok_iff
  rw [ofValues_eq_ok_iff, List.forall₂_map_left_iff]
  simp only [heach]

/-! ## Fields that are not read -/

/-- The fields that are parts of the pattern that a mapping describes, by the kind that it names. -/
def partFields (closed : List (Value × Value)) : List Text :=
  match Value.field? kindField closed with
  | some (.text kind) => if kind = literalKind then [valueField] else if kind = regexpKind then [sourceField, flagsField] else []
  | _ => []

/-- Two mappings have the same kind and the same parts. What else they hold may differ. -/
def SameParts (closed closed' : List (Value × Value)) : Prop :=
  ∀ name ∈ kindField :: partFields closed, Value.field? name closed' = Value.field? name closed

omit [Host] in
theorem SameParts.symm (h : SameParts closed closed') : SameParts closed' closed := by
  have hparts : partFields closed' = partFields closed := by
    unfold partFields
    rw [h kindField List.mem_cons_self]
  intro name hname
  rw [hparts] at hname
  exact (h name hname).symm

theorem SameParts.describes (h : SameParts closed closed') (hp : Describes closed p) : Describes closed' p := by
  have hkind' := h kindField List.mem_cons_self
  cases hp with
  | literal hkind hvalue =>
    have hparts : partFields closed = [valueField] := by
      unfold partFields
      rw [hkind]
      rfl
    have hsame := h valueField (by simp [hparts])
    exact .literal (hkind'.trans hkind) (hsame ▸ hvalue)
  | regexp hkind hsource hflags =>
    have hparts : partFields closed = [sourceField, flagsField] := by
      unfold partFields
      rw [hkind]
      rfl
    have hsame := h sourceField (by simp [hparts])
    have hsame' := h flagsField (by simp [hparts])
    refine .regexp (hkind'.trans hkind) (hsame ▸ hsource) ?_
    unfold AsksForFlags
    rw [hsame']
    exact hflags

/-- Of mappings that describe some patterns, each describes one of them. -/
theorem exists_describes_of_mem {entries : List (List (Value × Value))} {patterns : List Pattern}
    (h : List.Forall₂ Describes entries patterns) (hclosed : closed ∈ entries) : ∃ p ∈ patterns, Describes closed p := by
  induction h with
  | nil => exact absurd hclosed List.not_mem_nil
  | cons hp _ ih =>
    rcases List.mem_cons.mp hclosed with rfl | hclosed
    · exact ⟨_, List.mem_cons_self, hp⟩
    · obtain ⟨p, hmem, hp⟩ := ih hclosed
      exact ⟨p, List.mem_cons_of_mem _ hmem, hp⟩

/-- Mappings with the same parts describe the same patterns. -/
theorem forall₂_describes_of_sameParts {entries entries' : List (List (Value × Value))} (h : List.Forall₂ SameParts entries entries')
    (patterns : List Pattern) : List.Forall₂ Describes entries patterns ↔ List.Forall₂ Describes entries' patterns := by
  induction h generalizing patterns with
  | nil => rfl
  | cons hsame _ ih =>
    cases patterns with
    | nil => simp
    | cons p patterns =>
      rw [List.forall₂_cons, List.forall₂_cons, ih]
      exact and_congr_left fun _ => ⟨hsame.describes, hsame.symm.describes⟩

end

end Pattern

/-! ## Settings that are given a list -/

section

variable [Host]

namespace PatternSettings

/-- No variable of the settings of patterns is set, in whatever case its name is written. -/
def Unset (environment : Environment) : Prop := ∀ v ∈ environment, ¬"foldline_patterns_".toList <+: Unicode.lower v.1

/-- Settings with the patterns of one list, under its key. -/
def holding (key : Text) (patterns : List Pattern) : PatternSettings where
  lists := ⟨if key = PatternFile.keepKey then patterns else [], if key = PatternFile.dropKey then patterns else []⟩

variable {environment : Environment}

omit [Host] in
theorem Unset.value?_eq_none (h : Unset environment) (field : Text) (hfield : field ∈ fieldNames) :
    environment.value? (variableOf field) = none := by
  have hlower : ∀ field ∈ fieldNames, Unicode.lower (variableOf field) = variableOf field := by decide +kernel
  have hnone : environment.filter (fun v => Unicode.lower v.1 == Unicode.lower (variableOf field)) = [] := by
    rw [List.filter_eq_nil_iff]
    intro v hv hsame
    refine h v hv ?_
    rw [beq_iff_eq.mp hsame, hlower field hfield]
    exact List.prefix_append _ _
  rw [Environment.value?, hnone]
  rfl

/-- Without variables the settings hold what is given. -/
theorem Unset.ofGiven_eq_ok_iff (h : Unset environment) {given : List (Value × Value)} {s : PatternSettings} :
    ofGiven environment given = .ok s ↔
      ofFields given (Value.field? PatternFile.keepKey given) (Value.field? PatternFile.dropKey given) (Value.field? fileField given) =
        .ok s := by
  have hkeep := h.value?_eq_none PatternFile.keepKey (by decide)
  have hdrop := h.value?_eq_none PatternFile.dropKey (by decide)
  have hfile := h.value?_eq_none fileField (by decide)
  have hvariable : ∀ {field : Text}, environment.value? (variableOf field) = none → listVariable environment field = .ok none := by
    intro field hnone
    simp only [listVariable, Environment.fieldValue, hnone]
  simp only [ofGiven, hvariable hkeep, hvariable hdrop, hfile, bind_eq_ok_iff, Except.ok.injEq, exists_eq_left', mapError_eq_ok_iff,
    Option.map_none, Option.orElse_eq_orElse, Option.orElse_eq_or, Option.or_none]

theorem checkList_mapping_eq_ok_iff {field : Text} {entries : List (List (Value × Value))} {patterns : List Pattern} :
    checkList field (some (.list (entries.map .mapping))) = .ok patterns ↔ List.Forall₂ Pattern.Describes entries patterns := by
  rw [checkList, mapError_eq_ok_iff, checkItems_eq_ok_iff, List.forall₂_map_left_iff]
  simp only [Pattern.ofTagged_eq_ok_iff]

/-- Settings that are given a list of mappings for one of their lists hold the patterns that the mappings describe, and nothing else. -/
theorem Unset.ofGiven_list_eq_ok_iff (h : Unset environment) {key : Text} (hkey : key = PatternFile.keepKey ∨ key = PatternFile.dropKey)
    {entries : List (List (Value × Value))} {s : PatternSettings} :
    ofGiven environment [(.text key, .list (entries.map .mapping))] = .ok s ↔
      ∃ patterns, List.Forall₂ Pattern.Describes entries patterns ∧ s = holding key patterns := by
  have hexpected : unexpected [(.text key, .list (entries.map .mapping))] = [] := by
    rcases hkey with rfl | rfl <;> rfl
  have hfile : Value.field? fileField [(.text key, .list (entries.map .mapping))] = none := by
    rcases hkey with rfl | rfl <;> rfl
  have hdistinct : PatternFile.keepKey ≠ PatternFile.dropKey := by decide
  obtain ⟨⟨keep, drop⟩, file⟩ := s
  rw [h.ofGiven_eq_ok_iff, ofFields_eq_ok_iff, hfile, hexpected]
  rcases hkey with rfl | rfl
  · simp only [Value.field?, if_true, if_neg hdistinct, checkList_mapping_eq_ok_iff, holding]
    constructor
    · rintro ⟨hkeep, hdrop, hnone, -⟩
      cases hdrop
      cases hnone
      exact ⟨keep, hkeep, rfl⟩
    · rintro ⟨patterns, hpatterns, hs⟩
      cases hs
      exact ⟨hpatterns, rfl, rfl, trivial⟩
  · simp only [Value.field?, if_true, if_neg hdistinct.symm, checkList_mapping_eq_ok_iff, holding]
    constructor
    · rintro ⟨hkeep, hdrop, hnone, -⟩
      cases hkeep
      cases hnone
      exact ⟨drop, hdrop, rfl⟩
    · rintro ⟨patterns, hpatterns, hs⟩
      cases hs
      exact ⟨rfl, hpatterns, rfl, trivial⟩

end PatternSettings

/-! ## Main statement -/

/-- Settings that are given a list of mappings, where no variable is set, and a list of entries accept the same mappings, in four parts.
1. The settings are accepted exactly if the list is parsed, and hold the same patterns in the same order.
2. The list is parsed exactly if each of its mappings describes a pattern, and these are the patterns.
3. Mappings may hold other fields than the parts of their patterns: where these differ, neither outcome does.
4. A list with a mapping whose kind is missing, or is not the text of a known kind, is refused both ways. -/
theorem settings_accept_parsed {environment : Environment} (hunset : PatternSettings.Unset environment) {key : Text}
    (hkey : key = PatternFile.keepKey ∨ key = PatternFile.dropKey) (entries : List (List (Value × Value))) :
    (∀ s, PatternSettings.ofGiven environment [(.text key, .list (entries.map .mapping))] = .ok s ↔
      ∃ patterns, Pattern.ofValues (entries.map .mapping) = .ok patterns ∧ s = .holding key patterns) ∧
    (∀ patterns, Pattern.ofValues (entries.map .mapping) = .ok patterns ↔ List.Forall₂ Pattern.Describes entries patterns) ∧
    (∀ entries', List.Forall₂ Pattern.SameParts entries entries' →
      (PatternSettings.ofGiven environment [(.text key, .list (entries'.map .mapping))]).toOption =
          (PatternSettings.ofGiven environment [(.text key, .list (entries.map .mapping))]).toOption ∧
        (Pattern.ofValues (entries'.map .mapping)).toOption = (Pattern.ofValues (entries.map .mapping)).toOption) ∧
    ∀ closed ∈ entries, (∀ kind ∈ [Pattern.literalKind, Pattern.regexpKind], Value.field? Pattern.kindField closed ≠ some (.text kind)) →
      (∃ fault, PatternSettings.ofGiven environment [(.text key, .list (entries.map .mapping))] = .error fault) ∧
        ∃ fault, Pattern.ofValues (entries.map .mapping) = .error fault := by
  refine ⟨?_, fun _ => Pattern.ofValues_mapping_eq_ok_iff, ?_, ?_⟩
  · intro s
    simp only [hunset.ofGiven_list_eq_ok_iff hkey, Pattern.ofValues_mapping_eq_ok_iff]
  · intro entries' hsame
    have hboth := Pattern.forall₂_describes_of_sameParts hsame
    constructor
    · refine toOption_eq_of_ok_iff fun s => ?_
      simp only [hunset.ofGiven_list_eq_ok_iff hkey, hboth]
    · refine toOption_eq_of_ok_iff fun patterns => ?_
      simp only [Pattern.ofValues_mapping_eq_ok_iff, hboth]
  · intro closed hclosed hkind
    have hnone : ¬∃ patterns, List.Forall₂ Pattern.Describes entries patterns := by
      rintro ⟨patterns, hpatterns⟩
      obtain ⟨p, -, hp⟩ := Pattern.exists_describes_of_mem hpatterns hclosed
      refine hkind p.kind ?_ hp.kind_eq
      cases p <;> simp [Pattern.kind]
    constructor
    · refine exists_error_of_not_ok fun s hs => ?_
      obtain ⟨patterns, hpatterns, -⟩ := (hunset.ofGiven_list_eq_ok_iff hkey).mp hs
      exact hnone ⟨patterns, hpatterns⟩
    · exact exists_error_of_not_ok fun patterns hpatterns => hnone ⟨patterns, Pattern.ofValues_mapping_eq_ok_iff.mp hpatterns⟩

end

open Host.Plain

namespace Accepted

open Pattern

/-- An environment with a variable whose name is almost one of the settings. -/
def environment : Environment := [("FOLDLINE_PATTERN".toList, ['x'])]

/-- A mapping with a field that no pattern has. -/
def noted : List (Value × Value) :=
  [(.text kindField, .text literalKind), (.text valueField, .ofString ".a"), (.text "note".toList, .int 1)]

/-- The same without this field. -/
def bare : List (Value × Value) := [(.text kindField, .text literalKind), (.text valueField, .ofString ".a")]

/-- A mapping with a source and flags. -/
def flagged : List (Value × Value) :=
  [(.text sourceField, .ofString "b"), (.text kindField, .text regexpKind), (.text flagsField, .ofString "i")]

/-- A mapping whose kind is a number. -/
def numbered : List (Value × Value) := [(.text kindField, .int 1), (.text valueField, .ofString ".a")]

end Accepted

open Accepted in
/-- Two mappings give settings with their two patterns, in order; a further field makes no difference, and a kind that is no text makes an
end. -/
theorem settings_accept_parsed_of_noted :
    PatternSettings.Unset environment ∧ (PatternFile.dropKey = PatternFile.keepKey ∨ PatternFile.dropKey = PatternFile.dropKey) ∧
      (∃ s, PatternSettings.ofGiven environment [(.text PatternFile.dropKey, .list ([noted, flagged].map .mapping))] = .ok s ∧
        s.lists.keep = [] ∧ s.lists.drop.map Pattern.written = [".a".toList, "/b/i".toList]) ∧
      List.Forall₂ Pattern.SameParts [noted, flagged] [bare, flagged] ∧
      (Pattern.ofValues ([bare, flagged].map .mapping)).toOption = (Pattern.ofValues ([noted, flagged].map .mapping)).toOption ∧
      ∃ fault, PatternSettings.ofGiven environment [(.text PatternFile.dropKey, .list ([noted, numbered].map .mapping))] = .error fault := by
  have hunset : PatternSettings.Unset environment := by
    refine List.forall_mem_singleton.mpr ?_
    decide +kernel
  have hkey : PatternFile.dropKey = PatternFile.keepKey ∨ PatternFile.dropKey = PatternFile.dropKey := Or.inr rfl
  have hnoted : Pattern.SameParts noted bare := by
    have hparts : Pattern.partFields noted = [Pattern.valueField] := rfl
    rw [Pattern.SameParts, hparts]
    exact List.forall_mem_cons.mpr ⟨rfl, List.forall_mem_singleton.mpr rfl⟩
  have hsame : List.Forall₂ Pattern.SameParts [noted, flagged] [bare, flagged] := .cons hnoted (.cons (fun _ _ => rfl) .nil)
  have hparsed : ∃ patterns, Pattern.ofValues ([noted, flagged].map .mapping) = .ok patterns ∧
      patterns.map Pattern.written = [".a".toList, "/b/i".toList] := exists_ok_of_any (by decide +kernel)
  obtain ⟨patterns, hpatterns, hwritten⟩ := hparsed
  obtain ⟨hholds, -, hextra, -⟩ := settings_accept_parsed hunset hkey [noted, flagged]
  obtain ⟨-, -, -, hrefused⟩ := settings_accept_parsed hunset hkey [noted, numbered]
  refine ⟨hunset, hkey, ⟨_, (hholds _).mpr ⟨patterns, hpatterns, rfl⟩, rfl, hwritten⟩, hsame, (hextra _ hsame).2, ?_⟩
  refine (hrefused numbered (by simp) ?_).1
  intro kind _
  exact nofun

end CriticalCss

import CriticalCss.Proofs.Loading
import CriticalCss.Proofs.Written

/-!
# Entries that give no pattern

An entry that is no pattern is refused with a fault that says what is wrong with it. Some faults do not: what ends a check at once comes
from the regular expression or from the message that is due, and the entry is not named. `Pattern.AsksFor` says which source and flags an
entry asks for, in a text between slashes or in the fields of a mapping. `Pattern.Interrupts` lists what ends the check: a source that
cannot be compiled, for want of room or for a count that is too large, and a refused entry that cannot be written into its message. It is
exactly what `Pattern.ofValue` is ended by (`Pattern.ofValue_eq_interrupted_iff`).
-/

namespace CriticalCss

open FailingAux

/-- Whether a fault says what is wrong with an entry. What ends a check at once says nothing about the entry. -/
def PatternFault.Proper : PatternFault → Prop
  | .interrupted _ => False
  | _ => True

theorem PatternFault.not_proper_iff {fault : PatternFault} : ¬fault.Proper ↔ ∃ cause, fault = .interrupted cause := by
  cases fault <;> simp [Proper]

/-! ## Regular expressions -/

namespace RegexpPattern

variable [Host] {source flags : Text} {cause : Interruption}

/-- The flags are sound, and compiling the source under them ends at once. -/
inductive Interrupts (source flags : Text) : Interruption → Prop
  /-- There is no room for it. -/
  | exhausted {message : Text} (hflags : flagFault? flags = none)
      (hroom : Host.exhausted? (.compiling source (flagModes flags)) = some message) : Interrupts source flags (.exhausted message)
  /-- A count in the source is too large to be counted. -/
  | countTooLarge (hflags : flagFault? flags = none) (hroom : Host.exhausted? (.compiling source (flagModes flags)) = none)
      (hcount : Regexp.compile source (flagModes flags) = .error .countTooLarge) : Interrupts source flags .countTooLarge

theorem Interrupts.flags_sound (h : Interrupts source flags cause) : flagFault? flags = none := by
  cases h with
  | exhausted hflags => exact hflags
  | countTooLarge hflags => exact hflags

/-- There is no pattern if the flags are unsound, or else if there is no room for the source, or else if the source is unsound. -/
theorem build_eq_error_iff {fault : RegexpFault} :
    build source flags = .error fault ↔
      (∃ found, flagFault? flags = some found ∧ fault = .flags found) ∨
      flagFault? flags = none ∧
        ((∃ message, Host.exhausted? (.compiling source (flagModes flags)) = some message ∧ fault = .exhausted message) ∨
          Host.exhausted? (.compiling source (flagModes flags)) = none ∧
            ∃ failure, Regexp.compile source (flagModes flags) = .error failure ∧ fault = .unsound source flags failure) := by
  unfold build
  split
  · rename_i found hf
    simp [hf, eq_comm]
  · rename_i hf
    split
    · rename_i message hr
      simp [hf, hr, eq_comm]
    · rename_i hr
      split
      · rename_i program hc
        simp [hf, hr, hc]
      · rename_i failure hc
        simp [hf, hr, hc, eq_comm]

omit [Host] in
theorem refusal_eq_interrupted_iff {fault : RegexpFault} :
    fault.refusal = .interrupted cause ↔
      (∃ message, fault = .exhausted message ∧ cause = .exhausted message) ∨
        ∃ source flags, fault = .unsound source flags .countTooLarge ∧ cause = .countTooLarge := by
  cases fault with
  | flags found => simp [RegexpFault.refusal]
  | exhausted message => simp [RegexpFault.refusal, eq_comm]
  | unsound source flags failure => cases failure <;> simp [RegexpFault.refusal, eq_comm]

theorem exists_refusal_iff :
    (∃ fault, build source flags = .error fault ∧ fault.refusal = .interrupted cause) ↔ Interrupts source flags cause := by
  simp only [build_eq_error_iff, refusal_eq_interrupted_iff]
  constructor
  · rintro ⟨fault, ⟨found, -, rfl⟩ | ⟨hflags, ⟨message, hroom, rfl⟩ | ⟨hroom, failure, hfailure, rfl⟩⟩, hcause⟩
    · rcases hcause with ⟨_, h, -⟩ | ⟨_, _, h, -⟩ <;> cases h
    · rcases hcause with ⟨_, h, rfl⟩ | ⟨_, _, h, -⟩ <;> cases h
      exact .exhausted hflags hroom
    · rcases hcause with ⟨_, h, -⟩ | ⟨_, _, h, rfl⟩ <;> cases h
      exact .countTooLarge hflags hroom hfailure
  · intro h
    cases h with
    | exhausted hflags hroom => exact ⟨_, Or.inr ⟨hflags, Or.inl ⟨_, hroom, rfl⟩⟩, Or.inl ⟨_, rfl, rfl⟩⟩
    | countTooLarge hflags hroom hcount =>
      exact ⟨_, Or.inr ⟨hflags, Or.inr ⟨hroom, _, hcount, rfl⟩⟩, Or.inr ⟨_, _, rfl, rfl⟩⟩

end RegexpPattern

namespace Pattern

/-! ## What an entry asks for -/

/-- The name of the field of a source. -/
def sourceField : Text := "source".toList

/-- The name of the field of flags. -/
def flagsField : Text := "flags".toList

/-- What the fields of a mapping say about flags: those that are written, or else none. -/
def AsksForFlags (entries : List (Value × Value)) (flags : Text) : Prop :=
  Value.field? flagsField entries = none ∧ flags = [] ∨ ∃ v, Value.field? flagsField entries = some v ∧ v.asText = .ok flags

/-- The source and the flags of the regular expression that an entry asks for. -/
inductive AsksFor : Value → Text → Text → Prop
  /-- A text, trimmed, is the source between slashes, and the flags behind the last of them. -/
  | text {t source flags : Text} (hslashes : Text.trim t = '/' :: (source ++ '/' :: flags)) (hlast : '/' ∉ flags) :
      AsksFor (.text t) source flags
  /-- A mapping says its kind, and has the source and the flags as its fields. -/
  | mapping {closed : List (Value × Value)} {v : Value} {source flags : Text}
      (hkind : Value.field? kindField (Value.openEntries closed) = some (.text regexpKind))
      (hfield : Value.field? sourceField (Value.openEntries closed) = some v) (hsource : v.asText = .ok source)
      (hflags : AsksForFlags (Value.openEntries closed) flags) : AsksFor (.mapping closed) source flags

/-! ## Fields of a mapping -/

theorem asFlags_eq_ok_iff {v : Value} {flags : Text} : asFlags v = .ok flags ↔ v.asText = .ok flags ∧ flagFault? flags = none := by
  unfold asFlags
  rw [bind_eq_ok_iff]
  constructor
  · rintro ⟨t, ht, h⟩
    split at h
    · rename_i hsound
      cases h
      exact ⟨ht, hsound⟩
    · cases h
  · rintro ⟨ht, hsound⟩
    refine ⟨flags, ht, ?_⟩
    simp only [hsound]

theorem asOneOf_singleton {choice : Text} {v : Value} : Value.asOneOf [choice] v = .ok choice ↔ v = .text choice := by
  cases v with
  | text t =>
    unfold Value.asOneOf
    by_cases h : t = choice <;> simp [h]
  | _ => exact ⟨nofun, nofun⟩

variable {entries : List (Value × Value)}

theorem required_eq_ok_iff {α : Type} {name : Text} {check : Value → Except Complaint α} {a : α} :
    (Checked.required entries name check).outcome = .ok a ↔ ∃ v, Value.field? name entries = some v ∧ check v = .ok a := by
  unfold Checked.required
  cases Value.field? name entries <;> simp

theorem optional_eq_ok_iff {α : Type} {name : Text} {absent : α} {check : Value → Except Complaint α} {a : α} :
    (Checked.optional entries name absent check).outcome = .ok a ↔
      Value.field? name entries = none ∧ a = absent ∨ ∃ v, Value.field? name entries = some v ∧ check v = .ok a := by
  unfold Checked.optional
  cases Value.field? name entries <;> simp [eq_comm]

/-- The kind that a mapping names is the kind that is asked for. -/
theorem kind_eq_ok {kind : Text} (hkind : Value.field? kindField entries = some (.text kind)) :
    (Checked.optional entries kindField kind (Value.asOneOf [kind])).outcome = .ok kind :=
  optional_eq_ok_iff.mpr (Or.inr ⟨_, hkind, asOneOf_singleton.mpr rfl⟩)

theorem flags_eq_ok_iff {flags : Text} :
    (Checked.optional entries flagsField [] asFlags).outcome = .ok flags ↔ AsksForFlags entries flags ∧ flagFault? flags = none := by
  simp only [optional_eq_ok_iff, asFlags_eq_ok_iff, AsksForFlags]
  constructor
  · rintro (⟨hnone, rfl⟩ | ⟨v, hv, ht, hsound⟩)
    · exact ⟨Or.inl ⟨hnone, rfl⟩, rfl⟩
    · exact ⟨Or.inr ⟨v, hv, ht⟩, hsound⟩
  · rintro ⟨⟨hnone, rfl⟩ | ⟨v, hv, ht⟩, hsound⟩
    · exact Or.inl ⟨hnone, rfl⟩
    · exact Or.inr ⟨v, hv, ht, hsound⟩

/-- A mapping has a field when it is opened if it has it before. -/
theorem field?_openEntries_eq_none_iff {name : Text} {closed : List (Value × Value)} :
    Value.field? name (Value.openEntries closed) = none ↔ Value.field? name closed = none := by
  rw [Value.field?_eq_none_iff, Value.field?_eq_none_iff, Value.openEntries, PatternFile.keys_fillEntries]

/-! ## What ends the check of an entry -/

variable [Host] {cause : Interruption}

/-- What ends the check of an entry at once. -/
inductive Interrupts : Value → Interruption → Prop
  /-- Compiling the regular expression that the entry asks for. -/
  | compiling {v : Value} {source flags : Text} {cause : Interruption} (hasks : AsksFor v source flags)
      (hcompiling : RegexpPattern.Interrupts source flags cause) : Interrupts v cause
  /-- The entry is no text, it is refused, and it cannot be written into the message that is due. -/
  | showing {v : Value} {found : List Issue} {cause : Interruption} (htext : ∀ t, v ≠ .text t)
      (hrefused : ofTagged v = .error (.issues found)) (hshowing : v.interruption? = some cause) : Interrupts v cause

/-- What is refused gives no pattern, whether it can be shown or not. -/
theorem refuse_ne_ok {entry : Value} {fault : PatternFault} {p : Pattern} : refuse entry fault ≠ .ok p := by
  unfold refuse
  split <;> exact nofun

theorem refuse_eq_interrupted_iff {entry : Value} {fault : PatternFault} (h : fault.Proper) :
    refuse entry fault = .error (.interrupted cause) ↔ entry.interruption? = some cause := by
  unfold refuse
  split
  · rename_i found hfound
    simp [hfound]
  · rename_i hnone
    simp only [hnone, Except.error.injEq, reduceCtorEq, iff_false]
    rintro rfl
    exact h

/-! ## Texts -/

/-- Reading a text is ended by the regular expression between its slashes. -/
theorem ofText_eq_interrupted_iff {t : Text} :
    ofText t = .error (.interrupted cause) ↔
      ∃ source flags, AsksFor (.text t) source flags ∧ RegexpPattern.Interrupts source flags cause := by
  have hasks : ∀ source flags, AsksFor (.text t) source flags ↔ splitRegexp (Text.trim t) = some (source, flags) := by
    intro source flags
    rw [splitRegexp_eq_some_iff]
    constructor
    · intro h
      cases h with
      | text hslashes hlast => exact ⟨hslashes, hlast⟩
    · rintro ⟨hslashes, hlast⟩
      exact .text hslashes hlast
  simp only [hasks]
  unfold ofText
  generalize Text.trim t = u
  match u with
  | [] => exact iff_of_false nofun fun ⟨_, _, h, _⟩ => by cases h
  | c :: u =>
    cases hsplit : splitRegexp (c :: u) with
    | none => simp [hsplit]
    | some parts =>
      obtain ⟨source, flags⟩ := parts
      simp only [hsplit, Option.some.injEq, Prod.mk.injEq]
      have hone : (∃ s f, (source = s ∧ flags = f) ∧ RegexpPattern.Interrupts s f cause) ↔
          RegexpPattern.Interrupts source flags cause := by
        constructor
        · rintro ⟨s, f, ⟨rfl, rfl⟩, h⟩
          exact h
        · intro h
          exact ⟨source, flags, ⟨rfl, rfl⟩, h⟩
      rw [hone, ← RegexpPattern.exists_refusal_iff]
      cases hbuilt : RegexpPattern.build source flags with
      | ok p => simp
      | error fault => cases hrefusal : fault.refusal <;> simp [hrefusal]

/-- A text between slashes is refused with the issues of its regular expression. -/
theorem ofText_of_build_eq_error {t source flags : Text} {fault : RegexpFault} {found : List Issue}
    (hsplit : splitRegexp (Text.trim t) = some (source, flags)) (hbuilt : RegexpPattern.build source flags = .error fault)
    (hrefusal : fault.refusal = .issues found) : ofText t = .error (.malformedText (Text.trim t) found) := by
  unfold ofText
  generalize Text.trim t = u at hsplit
  match u with
  | [] => cases hsplit
  | c :: u => simp only [hsplit, hbuilt, hrefusal]

/-! ## Mappings -/

/-- The source of a regular expression is looked at once all its fields are sound. -/
theorem regexpOfFields_eq_interrupted_iff (hkind : Value.field? kindField entries = some (.text regexpKind)) :
    regexpOfFields entries = .error (.interrupted cause) ↔
      ∃ v source flags, Value.field? sourceField entries = some v ∧ v.asText = .ok source ∧ AsksForFlags entries flags ∧
        RegexpPattern.Interrupts source flags cause := by
  have hkindOk := kind_eq_ok hkind
  unfold regexpOfFields
  simp only [hkindOk]
  constructor
  · intro h
    split at h
    · rename_i kind source flags _ hsource hflags
      obtain ⟨v, hv, hsource⟩ := required_eq_ok_iff.mp hsource
      obtain ⟨hasks, -⟩ := flags_eq_ok_iff.mp hflags
      split at h
      · cases h
      · rename_i fault hbuilt
        exact ⟨v, source, flags, hv, hsource, hasks, RegexpPattern.exists_refusal_iff.mp ⟨fault, hbuilt, Except.error.inj h⟩⟩
    · cases h
  · rintro ⟨v, source, flags, hv, hsource, hasks, hinterrupts⟩
    have hsourceOk := required_eq_ok_iff.mpr ⟨v, hv, hsource⟩
    have hflagsOk := flags_eq_ok_iff.mpr ⟨hasks, hinterrupts.flags_sound⟩
    obtain ⟨fault, hbuilt, hrefusal⟩ := RegexpPattern.exists_refusal_iff.mpr hinterrupts
    unfold sourceField at hsourceOk
    unfold flagsField at hflagsOk
    rw [hsourceOk, hflagsOk]
    simp only [hbuilt, hrefusal]

/-- An exact text asks for nothing that could end its check. -/
theorem literalOfFields_ne_interrupted : literalOfFields entries ≠ .error (.interrupted cause) := by
  intro h
  simp only [literalOfFields] at h
  split at h <;> cases h

omit [Host] in
theorem within_eq_interrupted_iff {step : PathStep} {refusal : Refusal} :
    refusal.within step = .interrupted cause ↔ refusal = .interrupted cause := by
  cases refusal <;> simp [Refusal.within]

/-- Checking a mapping is ended by the regular expression of its fields. -/
theorem ofTagged_eq_interrupted_iff {closed : List (Value × Value)} :
    ofTagged (.mapping closed) = .error (.interrupted cause) ↔
      ∃ source flags, AsksFor (.mapping closed) source flags ∧ RegexpPattern.Interrupts source flags cause := by
  have hasks : (∃ source flags, AsksFor (.mapping closed) source flags ∧ RegexpPattern.Interrupts source flags cause) ↔
      Value.field? kindField (Value.openEntries closed) = some (.text regexpKind) ∧
        regexpOfFields (Value.openEntries closed) = .error (.interrupted cause) := by
    constructor
    · rintro ⟨source, flags, h, hinterrupts⟩
      cases h with
      | mapping hkind hfield hsource hflags =>
        exact ⟨hkind, (regexpOfFields_eq_interrupted_iff hkind).mpr ⟨_, source, flags, hfield, hsource, hflags, hinterrupts⟩⟩
    · rintro ⟨hkind, h⟩
      obtain ⟨v, source, flags, hfield, hsource, hflags, hinterrupts⟩ := (regexpOfFields_eq_interrupted_iff hkind).mp h
      exact ⟨source, flags, .mapping hkind hfield hsource hflags, hinterrupts⟩
  rw [hasks]
  unfold ofTagged
  cases hkind : Value.field? kindField (Value.openEntries closed) with
  | none => simp [hkind]
  | some tag =>
    simp only [hkind, Option.some.injEq]
    by_cases htag : tag = .text regexpKind
    · subst htag
      have hliteral : (Value.text regexpKind).isText literalKind = false := by decide
      have hregexp : (Value.text regexpKind).isText regexpKind = true := by decide
      simp only [hliteral, hregexp, Bool.false_eq_true, if_false, if_true, true_and, mapError_eq_error_iff,
        within_eq_interrupted_iff, exists_eq_right]
    · refine iff_of_false ?_ fun h => htag h.1
      intro h
      split at h
      · obtain ⟨refusal, hrefusal, hwithin⟩ := mapError_eq_error_iff.mp h
        rw [within_eq_interrupted_iff.mp hwithin] at hrefusal
        exact literalOfFields_ne_interrupted hrefusal
      · split at h
        · rename_i hregexp
          exact htag (PatternFile.isText_iff.mp hregexp)
        · cases h

/-- A mapping without a kind is refused with an issue. -/
theorem ofTagged_of_noKind {closed : List (Value × Value)} (hkind : Value.field? kindField closed = none) :
    ofTagged (.mapping closed) = .error (.issues [⟨[], .noTag kindField⟩]) := by
  unfold ofTagged
  simp only [field?_openEntries_eq_none_iff.mpr hkind]

/-- Reading a mapping is ended while its fields are checked, or else while the message is written that refuses it. -/
theorem ofMapping_eq_interrupted_iff {closed : List (Value × Value)} :
    ofMapping closed = .error (.interrupted cause) ↔
      ofTagged (.mapping closed) = .error (.interrupted cause) ∨
        (∃ found, ofTagged (.mapping closed) = .error (.issues found)) ∧ (Value.mapping closed).interruption? = some cause := by
  unfold ofMapping
  cases hkind : Value.field? kindField closed with
  | none =>
    have hproper : (PatternFault.noKind closed).Proper := trivial
    simp [ofTagged_of_noKind hkind, refuse_eq_interrupted_iff hproper]
  | some tag =>
    cases hread : ofTagged (.mapping closed) with
    | ok p => simp
    | error refusal =>
      cases refusal with
      | issues found =>
        have hproper : (PatternFault.malformedMapping closed found).Proper := trivial
        simp [refuse_eq_interrupted_iff hproper]
      | interrupted cause' => simp

/-! ## Other values -/

/-- A value that is neither a text nor a mapping is refused, and asks for no regular expression. -/
theorem refuse_unsupported_eq_interrupted_iff {v : Value} (htext : ∀ t, v ≠ .text t) (hmapping : ∀ closed, v ≠ .mapping closed) :
    refuse v (.unsupported v) = .error (.interrupted cause) ↔ Interrupts v cause := by
  have hproper : (PatternFault.unsupported v).Proper := trivial
  have hrefused : ofTagged v = .error (.issues [⟨[], .notMapping⟩]) := by
    unfold ofTagged
    split
    · exact absurd rfl (hmapping _)
    · rfl
  rw [refuse_eq_interrupted_iff hproper]
  constructor
  · exact .showing htext hrefused
  · intro h
    cases h with
    | compiling hasks hcompiling =>
      cases hasks with
      | text => exact absurd rfl (htext _)
      | mapping => exact absurd rfl (hmapping _)
    | showing _ _ hshowing => exact hshowing

/-! ## Main statement -/

/-- What ends the check of an entry is what `Interrupts` lists, and these are the faults that do not say what is wrong with the entry. -/
theorem ofValue_eq_interrupted_iff {v : Value} : ofValue v = .error (.interrupted cause) ↔ Interrupts v cause := by
  cases v with
  | text t =>
    refine ofText_eq_interrupted_iff.trans ⟨?_, ?_⟩
    · rintro ⟨source, flags, hasks, hcompiling⟩
      exact .compiling hasks hcompiling
    · intro h
      cases h with
      | compiling hasks hcompiling => exact ⟨_, _, hasks, hcompiling⟩
      | showing htext => exact absurd rfl (htext t)
  | mapping closed =>
    refine ofMapping_eq_interrupted_iff.trans ⟨?_, ?_⟩
    · rintro (hfields | ⟨⟨found, hrefused⟩, hshowing⟩)
      · obtain ⟨source, flags, hasks, hcompiling⟩ := ofTagged_eq_interrupted_iff.mp hfields
        exact .compiling hasks hcompiling
      · exact .showing nofun hrefused hshowing
    · intro h
      cases h with
      | compiling hasks hcompiling => exact Or.inl (ofTagged_eq_interrupted_iff.mpr ⟨_, _, hasks, hcompiling⟩)
      | showing _ hrefused hshowing => exact Or.inr ⟨⟨_, hrefused⟩, hshowing⟩
  | _ => exact refuse_unsupported_eq_interrupted_iff (by exact nofun) (by exact nofun)

end Pattern

end CriticalCss

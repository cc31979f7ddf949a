import CriticalCss.Pattern.Entry
import CriticalCss.Proofs.Words

/-!
# Patterns as they are written

A text is read as a regular expression if it is a slash and a text with another slash in it, and the last slash parts the source from the
flags. No flag letter is a slash or a blank, so what a regular expression is written as is cut where it was put together, whatever its
source holds, and trimming takes nothing from it (`ofText_eq_regexp_iff`). An exact text is written as it is, and it is read back unless
reading trims it, refuses it or takes it for a regular expression (`ofText_eq_literal_iff`).
-/

namespace CriticalCss

/-! ## The last place of a code point -/

namespace Text

variable {c : Char} {t before after : Text}

theorem findIdx?_reverse_of_not_mem (h : c ∉ t) : t.reverse.findIdx? (· == c) = none := by
  rw [List.findIdx?_eq_none_iff]
  intro d hd
  rw [beq_eq_false_iff_ne]
  rintro rfl
  exact h (List.mem_reverse.mp hd)

theorem lastIndexOf_of_not_mem (h : c ∉ t) : lastIndexOf c t = none := by
  rw [lastIndexOf, findIdx?_reverse_of_not_mem h]

/-- What stands behind the last place does not move it. -/
theorem lastIndexOf_append_cons (h : c ∉ after) : lastIndexOf c (before ++ c :: after) = some before.length := by
  have hfound : (before ++ c :: after).reverse.findIdx? (· == c) = some after.length := by
    rw [List.reverse_append, List.reverse_cons, List.append_assoc, List.findIdx?_append, findIdx?_reverse_of_not_mem h]
    simp [List.findIdx?_cons]
  rw [lastIndexOf, hfound]
  simp only [List.length_append, List.length_cons, Option.some.injEq]
  omega

/-- A code point that stands in a text stands there for a last time. -/
theorem exists_last_of_mem (h : c ∈ t) : ∃ before after, t = before ++ c :: after ∧ c ∉ after := by
  obtain ⟨after, before, hsplit, hnot⟩ := List.eq_append_cons_of_mem (List.mem_reverse.mpr h)
  have hwhole : t = (after ++ c :: before).reverse := by rw [← hsplit, List.reverse_reverse]
  refine ⟨before.reverse, after.reverse, by simp [hwhole], ?_⟩
  intro hc
  exact hnot (List.mem_reverse.mp hc)

end Text

/-! ## Sound flags and sources -/

/-- Sound flags hold flag letters only. -/
theorem mem_flagLetters_of_sound {flags : Text} (h : flagFault? flags = none) : ∀ c ∈ flags, c ∈ flagLetters := by
  intro c hc
  by_contra hnot
  have hunknown : c ∈ flags.filter fun d => !flagLetters.elem d := List.mem_filter.mpr ⟨hc, by simpa using hnot⟩
  unfold flagFault? at h
  split at h
  · rename_i hnone
    rw [hnone] at hunknown
    cases hunknown
  · cases h

/-- There is one pattern for a source and flags that are sound. -/
theorem RegexpPattern.build_eq_ok_iff [Host] {source flags : Text} {p : RegexpPattern} :
    build source flags = .ok p ↔ p.source = source ∧ p.flags = flags := by
  unfold build
  constructor
  · intro h
    split at h
    · cases h
    · split at h
      · cases h
      · split at h
        · cases h
          exact ⟨rfl, rfl⟩
        · cases h
  · rintro ⟨rfl, rfl⟩
    split
    · rename_i fault hf
      rw [p.flags_sound] at hf
      cases hf
    · split
      · rename_i message hr
        rw [p.fits] at hr
        cases hr
      · split
        · exact congrArg Except.ok (ext_of rfl rfl)
        · rename_i failure hc
          rw [p.compiles] at hc
          cases hc

namespace Pattern

variable {s t source flags value : Text}

/-! ## Cutting at the slashes -/

/-- A text is a slash and a text with another slash in it. -/
def HasSlashes (t : Text) : Prop := ∃ rest, t = '/' :: rest ∧ '/' ∈ rest

/-- A text is cut where a source and flags without a slash were put together. -/
theorem splitRegexp_append (h : '/' ∉ flags) : splitRegexp ('/' :: (source ++ '/' :: flags)) = some (source, flags) := by
  simp [splitRegexp, Text.lastIndexOf_append_cons h]

/-- A text is no expression between slashes exactly if it has not the form of one. -/
theorem splitRegexp_eq_none_iff : splitRegexp t = none ↔ ¬HasSlashes t := by
  constructor
  · rintro h ⟨rest, rfl, hslash⟩
    obtain ⟨before, after, rfl, hafter⟩ := Text.exists_last_of_mem hslash
    rw [splitRegexp_append hafter] at h
    cases h
  · intro h
    unfold splitRegexp
    split
    · rename_i rest
      have hslash : '/' ∉ rest := by
        intro hslash
        exact h ⟨rest, rfl, hslash⟩
      rw [Text.lastIndexOf_of_not_mem hslash]
    · rfl

/-- An expression is what stands between the first slash and the last one, and its flags are what stands behind that. -/
theorem splitRegexp_eq_some_iff : splitRegexp t = some (source, flags) ↔ t = '/' :: (source ++ '/' :: flags) ∧ '/' ∉ flags := by
  constructor
  · intro h
    have hslashes : HasSlashes t := by
      by_contra hnot
      rw [splitRegexp_eq_none_iff.mpr hnot] at h
      cases h
    obtain ⟨rest, rfl, hslash⟩ := hslashes
    obtain ⟨before, after, rfl, hafter⟩ := Text.exists_last_of_mem hslash
    rw [splitRegexp_append hafter] at h
    cases h
    exact ⟨rfl, hafter⟩
  · rintro ⟨rfl, hslash⟩
    exact splitRegexp_append hslash

/-! ## Reading what is written -/

section

variable [Host] {p : RegexpPattern}

/-- A text that is not blank is read as itself or, between slashes, as a regular expression, if there is one. -/
theorem ofText_eq_ok_iff {q : Pattern} :
    ofText s = .ok q ↔ Text.trim s ≠ [] ∧
      (splitRegexp (Text.trim s) = none ∧ q = .literal (Text.trim s) ∨
        ∃ p : RegexpPattern, splitRegexp (Text.trim s) = some (p.source, p.flags) ∧ q = .regexp p) := by
  unfold ofText
  generalize Text.trim s = t
  match t with
  | [] => exact iff_of_false nofun fun h => h.1 rfl
  | c :: t =>
    rw [and_iff_right (List.cons_ne_nil c t)]
    cases hsplit : splitRegexp (c :: t) with
    | none =>
      simp only [hsplit, Except.ok.injEq, true_and, reduceCtorEq, false_and, exists_false, or_false]
      exact eq_comm
    | some parts =>
      obtain ⟨source, flags⟩ := parts
      simp only [hsplit, reduceCtorEq, false_and, false_or, Option.some.injEq, Prod.mk.injEq]
      constructor
      · intro h
        split at h
        · rename_i p hbuilt
          cases h
          obtain ⟨rfl, rfl⟩ := RegexpPattern.build_eq_ok_iff.mp hbuilt
          exact ⟨p, ⟨rfl, rfl⟩, rfl⟩
        · split at h <;> cases h
      · rintro ⟨p, ⟨rfl, rfl⟩, rfl⟩
        rw [RegexpPattern.build_eq_ok_iff.mpr ⟨rfl, rfl⟩]

theorem slash_not_mem_flags (p : RegexpPattern) : '/' ∉ p.flags := by
  intro hslash
  have hletter := mem_flagLetters_of_sound p.flags_sound '/' hslash
  exact absurd hletter (by decide)

/-- What a regular expression is written as begins with a slash, and ends with a slash or a flag letter. -/
theorem trim_written_regexp (p : RegexpPattern) : Text.trim (written (.regexp p)) = written (.regexp p) := by
  refine Text.trim_eq_self ?_ ?_
  · intro c hc
    cases hc
    decide
  · intro c hc
    have hlast : c ∈ '/' :: p.flags := by
      have hsplit : written (.regexp p) = ('/' :: p.source) ++ '/' :: p.flags := rfl
      rw [hsplit, List.getLast?_append_of_ne_nil _ (List.cons_ne_nil _ _)] at hc
      exact List.mem_of_getLast? hc
    have hletters : ('/' :: flagLetters).all (fun d => !Text.isBlank d) = true := by decide
    have hmem : c ∈ '/' :: flagLetters := by
      rcases List.mem_cons.mp hlast with rfl | hflag
      · exact List.mem_cons_self
      · exact List.mem_cons_of_mem _ (mem_flagLetters_of_sound p.flags_sound c hflag)
    simpa using List.all_eq_true.mp hletters c hmem

/-- A text gives a pattern of an expression exactly if it is written like this pattern, up to blanks around it. -/
theorem ofText_eq_regexp_iff : ofText s = .ok (.regexp p) ↔ Text.trim s = written (.regexp p) := by
  rw [ofText_eq_ok_iff]
  constructor
  · rintro ⟨-, ⟨-, hp⟩ | ⟨q, hsplit, hp⟩⟩
    · cases hp
    · cases hp
      exact (splitRegexp_eq_some_iff.mp hsplit).1
  · intro h
    rw [h]
    exact ⟨List.cons_ne_nil _ _, Or.inr ⟨p, splitRegexp_append (slash_not_mem_flags p), rfl⟩⟩

/-- A text gives a literal exactly if this is what stands between its blanks and it has not the form of an expression. -/
theorem ofText_eq_literal_iff : ofText s = .ok (.literal value) ↔ Text.trim s = value ∧ value ≠ [] ∧ ¬HasSlashes value := by
  rw [ofText_eq_ok_iff]
  constructor
  · rintro ⟨hne, ⟨hsplit, hvalue⟩ | ⟨p, -, hvalue⟩⟩
    · cases hvalue
      exact ⟨rfl, hne, splitRegexp_eq_none_iff.mp hsplit⟩
    · cases hvalue
  · rintro ⟨rfl, hne, hslashes⟩
    exact ⟨hne, Or.inl ⟨splitRegexp_eq_none_iff.mpr hslashes, rfl⟩⟩

/-! ## Main statement -/

/-- Patterns and the texts that they are written as, in three parts.
1. A text that is read as a pattern is, trimmed, what the pattern is written as, and this is read as the pattern again.
2. What a regular expression is written as is read as this regular expression.
3. What an exact text is written as is read as this text exactly if the text is not empty, trimming leaves it as it is, and it is not a
   slash and a text with another slash in it. -/
theorem written_read :
    (∀ s p, ofText s = .ok p → p.written = Text.trim s ∧ ofText p.written = .ok p) ∧
    (∀ p : RegexpPattern, ofText (written (.regexp p)) = .ok (.regexp p)) ∧
    ∀ value, ofText (written (.literal value)) = .ok (.literal value) ↔
      value ≠ [] ∧ Text.trim value = value ∧ ¬HasSlashes value := by
  have hregexp : ∀ p : RegexpPattern, ofText (written (.regexp p)) = .ok (.regexp p) := by
    intro p
    exact ofText_eq_regexp_iff.mpr (trim_written_regexp p)
  refine ⟨?_, hregexp, ?_⟩
  · intro s p h
    cases p with
    | literal value =>
      obtain ⟨rfl, hne, hslashes⟩ := ofText_eq_literal_iff.mp h
      exact ⟨rfl, ofText_eq_literal_iff.mpr ⟨Text.trim_trim s, hne, hslashes⟩⟩
    | regexp p => exact ⟨(ofText_eq_regexp_iff.mp h).symm, hregexp p⟩
  · intro value
    rw [written, ofText_eq_literal_iff]
    exact and_left_comm

end

open Host.Plain

/-- A regular expression for a blank, a slash and a line break, one behind the other. -/
def blankSlashBreak : RegexpPattern where
  source := [' ', '/', '\n']
  flags := ['g', 'm']
  program := ⟨.sequence (.single 32) (.sequence (.single 47) (.single 10)), { multiline := true }⟩
  flags_sound := by decide
  fits := rfl
  compiles := by decide

/-- The source begins behind the first slash and ends in front of the last one, with all the blanks and slashes between them. One slash is
an exact text, and two slashes are not. -/
theorem written_read_of_blankSlashBreak :
    ofText "\t/ /\n/gm ".toList = .ok (.regexp blankSlashBreak) ∧
    ofText (written (.regexp blankSlashBreak)) = .ok (.regexp blankSlashBreak) ∧
    ofText (written (.literal "/".toList)) = .ok (.literal "/".toList) ∧
    ofText (written (.literal "//".toList)) ≠ .ok (.literal "//".toList) := by
  have hread : ofText "\t/ /\n/gm ".toList = .ok (.regexp blankSlashBreak) := ofText_eq_regexp_iff.mpr (by decide)
  have hone : ¬HasSlashes "/".toList := by
    rintro ⟨rest, hrest, hslash⟩
    cases hrest
    cases hslash
  have htwo : HasSlashes "//".toList := ⟨['/'], rfl, List.mem_cons_self⟩
  refine ⟨hread, (written_read.1 _ _ hread).2, (written_read.2.2 _).mpr ⟨by decide, by decide, hone⟩, fun h => ?_⟩
  exact ((written_read.2.2 _).mp h).2.2 htwo

end Pattern

end CriticalCss

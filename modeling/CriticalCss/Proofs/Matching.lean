import Mathlib.Data.List.Basic
import CriticalCss.Regexp.Matcher

/-!
# What expressions accept

One statement for each kind of expression: what it takes of a text before it goes on. A part that may be missing is tried with it and then
without it (`Expr.run_optional`); a repetition at the end of an expression always succeeds (`Expr.isSome_run_many`), so that it does not
matter for whether the expression finds something. Places are told by what stands before and behind them.
-/

namespace CriticalCss.Regexp

/-! ## Repetitions -/

section Repetitions

variable (body : Continuation → Place → Option Place) (fuel : Nat)

/-- A repetition that nothing follows succeeds: it may end at once. -/
theorem isSome_greedily (left last : Option Nat) (p : Place) : (greedily body fuel left last some p).isSome = true := by
  cases fuel with
  | zero => rfl
  | succ fuel =>
    unfold greedily
    split
    · split
      · rfl
      · rfl
    · rfl

/-- A repetition with no round left goes on. -/
theorem greedily_none_left (last : Option Nat) (k : Continuation) : greedily body fuel (some 0) last k = k := by
  funext p
  cases fuel with
  | zero => rfl
  | succ fuel => simp [greedily, mayRepeat]

/-- A repetition with one round left is tried with it and then without it. -/
theorem greedily_one_left (k : Continuation) (p : Place) :
    greedily body (fuel + 1) (some 1) none k p = (body k p).or (k p) := by
  simp only [greedily, mayRepeat, greedily_none_left, Option.map_some, Nat.sub_self]
  cases body k p <;> simp

end Repetitions

/-! ## Expressions -/

namespace Expr

variable {modes : Modes} {k : Continuation} {p : Place}

/-- A code point is taken where it stands. -/
theorem isSome_run_single_iff {t : Text} {wanted : Char} :
    ((single wanted.toNat).run t.toArray {} k p).isSome = true ↔
      t[p.position]? = some wanted ∧ (k { p with position := p.position + 1 }).isSome = true := by
  show (step t.toArray (accepts {} wanted.toNat) k p).isSome = true ↔ _
  unfold step
  rw [List.getElem?_toArray]
  cases h : t[p.position]? with
  | none => simp
  | some c =>
    by_cases hc : wanted = c
    · simp [accepts, hc]
    · have hn : wanted.toNat ≠ c.toNat := mt Char.toNat_inj.mp hc
      simp [accepts, hn, Ne.symm hc]

/-- What may be missing is tried with it and then without it. -/
theorem run_optional (body : Expr) (input : Array Char) (hp : p.position ≤ input.size) :
    (loop 0 (some 1) .greedy body).run input modes k p = (body.run input modes k p).or (k p) := by
  show greedily (body.run input modes) (input.size + 1 - p.position) (some 1) none k p = _
  rw [Nat.sub_add_comm hp, greedily_one_left]

/-- What may stand there any number of times is no condition at the end of an expression. -/
theorem isSome_run_many (body : Expr) (input : Array Char) : ((loop 0 none .greedy body).run input modes some p).isSome = true :=
  isSome_greedily _ _ _ _ _

/-- Where there is room for what must not precede, an expression goes on if it is not found there. -/
theorem run_negatedBehind (body : Expr) (input : Array Char) (hp : body.width.least ≤ p.position) :
    (look true true body).run input modes k p =
      if (body.run input modes some { p with position := p.position - body.width.least }).isSome then none else k p := by
  simp only [run, if_true, if_neg (Nat.not_lt.mpr hp)]
  cases body.run input modes some { p with position := p.position - body.width.least } <;> rfl

/-- An expression goes on behind anything but a code point that must not precede it. -/
theorem run_notBehind (unwanted : Char) (before after : Text) :
    (look true true (single unwanted.toNat)).run (before ++ after).toArray {} k { position := before.length } =
      if before.getLast? = some unwanted then none else k { position := before.length } := by
  rcases List.eq_nil_or_concat before with rfl | ⟨before, c, rfl⟩
  · rfl
  · rw [List.concat_eq_append, List.getLast?_concat]
    have hfound : ((single unwanted.toNat).run (before ++ [c] ++ after).toArray {} some { position := before.length }).isSome = true ↔
        (before ++ [c] ++ after)[before.length]? = some unwanted ∧ _ := isSome_run_single_iff
    have hc : (before ++ [c] ++ after)[before.length]? = some c := by simp
    rw [hc, Option.isSome_some, and_iff_left rfl] at hfound
    have hroom : (single unwanted.toNat).width.least ≤ before.length + 1 := Nat.le_add_left 1 before.length
    rw [List.length_append, List.length_singleton, run_negatedBehind (single unwanted.toNat) _ hroom]
    by_cases h : some c = some unwanted
    · rw [if_pos h]
      exact if_pos (hfound.mpr h)
    · rw [if_neg h]
      exact if_neg (mt hfound.mp h)

/-! ## Words -/

/-- The expression for one word. -/
def word (w : Text) : Expr := .ofList (w.map fun c => .single c.toNat)

theorem run_word_cons (c : Char) (w : Text) (input : Array Char) :
    (word (c :: w)).run input modes k p = (single c.toNat).run input modes ((word w).run input modes k) p := by
  cases w with
  | nil => rfl
  | cons d w => rfl

theorem cons_prefix_drop_iff {c : Char} {w t : Text} {n : Nat} : c :: w <+: t.drop n ↔ t[n]? = some c ∧ w <+: t.drop (n + 1) := by
  rw [← List.head?_drop, ← List.drop_drop]
  cases t.drop n with
  | nil => simp
  | cons d rest => simp [List.cons_prefix_cons, eq_comm]

/-- A word is taken where it stands. -/
theorem isSome_run_word_iff {t w : Text} :
    ((word w).run t.toArray {} k p).isSome = true ↔
      w <+: t.drop p.position ∧ (k { p with position := p.position + w.length }).isSome = true := by
  induction w generalizing p with
  | nil =>
    rw [and_iff_right List.nil_prefix]
    rfl
  | cons c w ih =>
    rw [run_word_cons, isSome_run_single_iff, ih, cons_prefix_drop_iff, and_assoc, List.length_cons, Nat.add_assoc, Nat.add_comm 1]

theorem run_choice (a b : Expr) (input : Array Char) :
    (choice a b).run input modes k p = (a.run input modes k p).or (b.run input modes k p) := by
  cases h : a.run input modes k p <;> simp [Expr.run, h]

/-- The expression for what one of some expressions accepts. -/
def choices : List Expr → Expr
  | [] => .empty
  | [e] => e
  | e :: es => .choice e (choices es)

theorem isSome_run_choices_iff {es : List Expr} (hne : es ≠ []) (input : Array Char) :
    ((choices es).run input modes k p).isSome = true ↔ ∃ e ∈ es, (e.run input modes k p).isSome = true := by
  induction es with
  | nil => exact absurd rfl hne
  | cons e es ih =>
    cases es with
    | nil => simp [choices]
    | cons d es =>
      rw [List.exists_mem_cons_iff, ← ih (List.cons_ne_nil d es), choices, run_choice, Option.isSome_or, Bool.or_eq_true]
      exact List.cons_ne_nil d es

/-! ## Colons -/

/-- The expression for one or two colons, two of them first, and what follows them. -/
def colons (body : Expr) : Expr := .sequence (.loop 0 (some 1) .greedy (.single ':'.toNat)) (.sequence (.single ':'.toNat) body)

theorem isSome_run_colons_iff {t : Text} {body : Expr} (hp : p.position ≤ t.length) :
    ((colons body).run t.toArray {} k p).isSome = true ↔ t[p.position]? = some ':' ∧
      (t[p.position + 1]? = some ':' ∧ (body.run t.toArray {} k { p with position := p.position + 2 }).isSome = true ∨
        (body.run t.toArray {} k { p with position := p.position + 1 }).isSome = true) := by
  have hsize : p.position ≤ t.toArray.size := hp
  show ((Expr.loop 0 (some 1) .greedy (.single ':'.toNat)).run t.toArray {}
    ((Expr.single ':'.toNat).run t.toArray {} (body.run t.toArray {} k)) p).isSome = true ↔ _
  rw [run_optional _ _ hsize, Option.isSome_or, Bool.or_eq_true, isSome_run_single_iff, isSome_run_single_iff, isSome_run_single_iff,
    ← and_or_left]

end Expr

/-! ## Programs -/

/-- A program accepts a part of a text that begins somewhere in it. -/
theorem Program.acceptsPart_iff {program : Program} {t : Text} :
    program.acceptsPart t = true ↔ ∃ i ≤ t.length, program.acceptsAt t.toArray i = true := by
  simp only [acceptsPart, List.any_eq_true, List.mem_range, Nat.lt_succ_iff]

/-- With or without a second colon, what follows the colons is found behind a colon. -/
theorem acceptsPart_colons_iff {t : Text} {body : Expr} :
    Program.acceptsPart ⟨Expr.colons body, {}⟩ t = true ↔
      ∃ i, t[i]? = some ':' ∧ (body.run t.toArray {} some { position := i + 1 }).isSome = true := by
  rw [Program.acceptsPart_iff]
  constructor
  · rintro ⟨i, hi, h⟩
    obtain ⟨hcolon, ⟨hsecond, hbody⟩ | hbody⟩ := (Expr.isSome_run_colons_iff hi).mp h
    · exact ⟨i + 1, hsecond, hbody⟩
    · exact ⟨i, hcolon, hbody⟩
  · rintro ⟨i, hcolon, hbody⟩
    have hi : i ≤ t.length := Nat.le_of_lt (List.getElem?_eq_some_iff.mp hcolon).1
    exact ⟨i, hi, (Expr.isSome_run_colons_iff hi).mpr ⟨hcolon, Or.inr hbody⟩⟩

theorem infix_iff_exists_prefix_drop {w t : Text} : w <:+: t ↔ ∃ i, w <+: t.drop i := by
  rw [List.infix_iff_prefix_suffix]
  constructor
  · rintro ⟨rest, hbegins, before, rfl⟩
    exact ⟨before.length, by rwa [List.drop_left]⟩
  · rintro ⟨i, hbegins⟩
    exact ⟨t.drop i, hbegins, List.drop_suffix i t⟩

/-- One or two colons and a word are found where the word stands behind a colon. -/
theorem acceptsPart_colons_word_iff {t w : Text} :
    Program.acceptsPart ⟨Expr.colons (Expr.word w), {}⟩ t = true ↔ ':' :: w <:+: t := by
  rw [acceptsPart_colons_iff, infix_iff_exists_prefix_drop]
  refine exists_congr fun i => ?_
  rw [Expr.isSome_run_word_iff, Option.isSome_some, and_iff_left rfl, Expr.cons_prefix_drop_iff]

theorem acceptsPart_choices_iff {t : Text} {es : List Expr} (hne : es ≠ []) :
    Program.acceptsPart ⟨Expr.choices es, {}⟩ t = true ↔ ∃ e ∈ es, Program.acceptsPart ⟨e, {}⟩ t = true := by
  simp only [Program.acceptsPart_iff]
  constructor
  · rintro ⟨i, hi, h⟩
    obtain ⟨e, he, h⟩ := (Expr.isSome_run_choices_iff hne _).mp h
    exact ⟨e, he, i, hi, h⟩
  · rintro ⟨e, he, i, hi, h⟩
    exact ⟨i, hi, (Expr.isSome_run_choices_iff hne _).mpr ⟨e, he, h⟩⟩

end CriticalCss.Regexp

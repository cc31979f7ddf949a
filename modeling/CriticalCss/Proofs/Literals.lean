import Mathlib.Data.List.Basic
import Mathlib.Data.List.TakeWhile
import CriticalCss.Json.Printer
import CriticalCss.Json.Reader

/-!
# Numbers and quoted texts, read back

A number is written in digits and a text between quotes, and either is read back as it was, whatever it is and whatever follows it
(`readUnsigned_ofNat`, `readQuoted_quoted`). A code point of a text takes one step of the reader, however long its escape is
(`readQuoted_escapeChar`), so a text needs as many steps as it has code points and one more.
-/

namespace CriticalCss

/-! ## Digits -/

namespace Text

/-- Reading digits one after the other gives the number back, in any base and for any reader that knows its digits. -/
theorem foldl_toDigits {b : Nat} (hb : 1 < b) {value? : Char → Option Nat} (hvalue : ∀ d < b, value? (Nat.digitChar d) = some d)
    (n : Nat) : (Nat.toDigits b n).foldl (fun read c => read.bind fun m => (value? c).map (m * b + ·)) (some 0) = some n := by
  induction n using Nat.strongRecOn with
  | ind n ih =>
    rw [Nat.toDigits_eq_if hb]
    split
    · rename_i h
      simp [hvalue n h]
    · have hdiv : n / b < n := Nat.div_lt_self (by omega) hb
      have hdigit := hvalue (n % b) (Nat.mod_lt n (by omega))
      rw [List.foldl_append, ih (n / b) hdiv]
      simp [hdigit, Nat.div_add_mod']

/-- The value of a decimal digit. -/
def decimalDigit? (c : Char) : Option Nat := if c.isDigit then some (c.toNat - 0x30) else none

/-- The decimal digits of a number are read as this number. -/
theorem decimalNumber?_ofNat (n : Nat) : decimalNumber? (ofNat n) = some n := by
  have hvalue : ∀ d < 10, decimalDigit? (Nat.digitChar d) = some d := by decide
  have h := foldl_toDigits (b := 10) (by decide) hvalue n
  unfold decimalNumber? ofNat
  rw [← h]
  congr 1
  funext read c
  congr 1
  funext m
  unfold decimalDigit?
  split <;> rfl

/-- The hexadecimal digits of a number are read as this number, however many zeros stand before them. -/
theorem hexNumber?_hexadecimal (width n : Nat) : hexNumber? (hexadecimal width n) = some n := by
  have hzeros : ∀ k, hexNumber? (List.replicate k '0') = some 0 := by
    intro k
    induction k with
    | zero => rfl
    | succ k ih =>
      unfold hexNumber? at ih ⊢
      rw [List.replicate_succ, List.foldl_cons]
      exact ih
  unfold hexNumber? at hzeros ⊢
  unfold hexadecimal
  rw [List.foldl_append, hzeros]
  exact foldl_toDigits (by decide) (by decide) n

/-- Four digits are written of a number of sixteen bits. -/
theorem length_hexadecimal {n : Nat} (h : n < 0x10000) : (hexadecimal 4 n).length = 4 := by
  have hdigits : (Nat.toDigits 16 n).length ≤ 4 := (Nat.length_toDigits_le_iff (by decide) (by decide)).mpr h
  unfold hexadecimal
  rw [List.length_append, List.length_replicate]
  omega

/-- A number of sixteen bits has four hexadecimal digits. -/
theorem exists_hexadecimal_eq {n : Nat} (h : n < 0x10000) :
    ∃ a b c d, hexadecimal 4 n = [a, b, c, d] ∧ hexNumber? [a, b, c, d] = some n := by
  have hnumber := hexNumber?_hexadecimal 4 n
  obtain ⟨a, b, c, d, hdigits⟩ := List.length_eq_four.mp (length_hexadecimal h)
  rw [hdigits] at hnumber
  exact ⟨a, b, c, d, hdigits, hnumber⟩

/-- What is written of a number in any base is digits of this base. -/
theorem exists_digitChar_of_mem_toDigits {b n : Nat} (hb : 1 < b) {c : Char} (h : c ∈ Nat.toDigits b n) :
    ∃ d < b, c = Nat.digitChar d := by
  induction n using Nat.strongRecOn with
  | ind n ih =>
    rw [Nat.toDigits_eq_if hb] at h
    split at h
    · exact ⟨n, ‹_›, List.mem_singleton.mp h⟩
    · rcases List.mem_append.mp h with h | h
      · exact ih (n / b) (Nat.div_lt_self (by omega) hb) h
      · exact ⟨n % b, Nat.mod_lt n (by omega), List.mem_singleton.mp h⟩

theorem ofNat_ne_nil (n : Nat) : ofNat n ≠ [] :=
  List.ne_nil_of_length_pos Nat.length_toDigits_pos

theorem isDigit_of_mem_ofNat {n : Nat} {c : Char} (h : c ∈ ofNat n) : c.isDigit = true :=
  Nat.isDigit_of_mem_toDigits (by decide) (by decide) h

/-- No number but zero begins with a zero. -/
theorem head?_ofNat_ne_zero {n : Nat} (h : 0 < n) : (ofNat n).head? ≠ some '0' := by
  have hdigit : ∀ d < 10, 0 < d → [Nat.digitChar d].head? ≠ some '0' := by decide
  induction n using Nat.strongRecOn with
  | ind n ih =>
    unfold ofNat
    rw [Nat.toDigits_eq_if (by decide)]
    split
    · rename_i hn
      exact hdigit n hn h
    · have hdiv := ih (n / 10) (by omega) (by omega)
      have hne : Nat.toDigits 10 (n / 10) ≠ [] := ofNat_ne_nil (n / 10)
      rwa [List.head?_append_of_ne_nil _ hne]

end Text

namespace Json

/-- What may follow a value: nothing, a comma, a closing bracket or brace, or a gap. -/
def Ends (rest : Text) : Prop := ∀ c, rest.head? = some c → c = ',' ∨ c = ']' ∨ c = '}' ∨ isGap c = true

theorem Ends.nil : Ends [] := by
  intro c hc
  cases hc

theorem Ends.cons {c : Char} (h : c = ',' ∨ c = ']' ∨ c = '}' ∨ isGap c = true) (rest : Text) : Ends (c :: rest) := by
  intro c' hc'
  cases hc'
  exact h

/-- A gap is one of four code points. -/
theorem isGap_iff {c : Char} : isGap c = true ↔ c = ' ' ∨ c = '\t' ∨ c = '\n' ∨ c = '\r' := by
  unfold isGap
  simp [or_assoc]

/-- What may follow a number neither goes on with it nor gives it a fraction or an exponent. -/
theorem Ends.head_ne {c : Char} {rest : Text} (h : Ends (c :: rest)) : c.isDigit = false ∧ c ≠ '.' ∧ c ≠ 'e' ∧ c ≠ 'E' := by
  have hc := h c rfl
  rw [isGap_iff] at hc
  rcases hc with rfl | rfl | rfl | rfl | rfl | rfl | rfl <;> decide

/-! ## Numbers -/

/-- The digits of a number are taken up to what may follow it. -/
theorem takeWhile_ofNat_append (n : Nat) {rest : Text} (h : Ends rest) :
    (Text.ofNat n ++ rest).takeWhile Char.isDigit = Text.ofNat n := by
  rw [List.takeWhile_append_of_pos fun c hc => Text.isDigit_of_mem_ofNat hc]
  cases rest with
  | nil => simp
  | cons c rest =>
    have hc := h.head_ne.1
    simp [hc]

/-- Where a value may end, no fraction begins. -/
theorem readFraction_of_ends {rest : Text} (h : Ends rest) : readFraction rest = ([], rest) := by
  unfold readFraction
  split
  · exact absurd rfl h.head_ne.2.1
  · rfl

/-- Where a value may end, no exponent begins. -/
theorem readExponent_of_ends {rest : Text} (h : Ends rest) : readExponent rest = (none, rest) := by
  cases rest with
  | nil => rfl
  | cons c rest =>
    have hc := h.head_ne.2.2
    unfold readExponent
    dsimp only
    rw [if_neg (not_or.mpr hc)]

/-- The digits before the point, of which a zero in front is the only one. -/
theorem whole_ofNat_append (n : Nat) {rest : Text} (h : Ends rest) :
    (match Text.ofNat n ++ rest with
      | '0' :: _ => ['0']
      | _ => (Text.ofNat n ++ rest).takeWhile Char.isDigit) = Text.ofNat n := by
  rcases Nat.eq_zero_or_pos n with rfl | hn
  · rfl
  · have hhead := Text.head?_ofNat_ne_zero hn
    split
    · rename_i more hmore
      have happend : (Text.ofNat n ++ rest).head? = (Text.ofNat n).head? :=
        List.head?_append_of_ne_nil (Text.ofNat n) (Text.ofNat_ne_nil n)
      rw [hmore] at happend
      exact absurd happend.symm hhead
    · exact takeWhile_ofNat_append n h

/-- The digits of a number are read as an integer, with the sign that was read before them. -/
theorem readUnsigned_ofNat (negative : Bool) (n : Nat) {rest : Text} (h : Ends rest) :
    readUnsigned negative (Text.ofNat n ++ rest) = some (.int (if negative then -(n : Int) else n), rest) := by
  have hwhole := whole_ofNat_append n h
  have hnumber := Text.decimalNumber?_ofNat n
  unfold readUnsigned
  extract_lets whole
  have hw : whole = Text.ofNat n := hwhole
  clear_value whole
  subst hw
  split
  · rename_i hnil
    exact absurd hnil (Text.ofNat_ne_nil n)
  · simp only [List.drop_left, readFraction_of_ends h, readExponent_of_ends h, List.append_nil, hnumber]
    rfl

/-! ## Escapes -/

/-- The code points of ASCII that are no control characters. -/
def Printable (c : Char) : Prop := 0x20 ≤ c.toNat ∧ c.toNat ≤ 0x7E

instance : DecidablePred Printable := fun c => inferInstanceAs (Decidable (0x20 ≤ c.toNat ∧ c.toNat ≤ 0x7E))

/-- The four ways in which a code point is written inside a text. -/
inductive Escaped (c : Char) : Text → Prop
  | short {d : Char} (hread : shortEscape? d = some c) (hd : Printable d) : Escaped c ['\\', d]
  | self (hc : Printable c) (hquote : c ≠ '\x22') (hbackslash : c ≠ '\\') : Escaped c [c]
  | unit (hc : c.toNat < 0x10000) : Escaped c (escapeUnit c.toNat)
  | halves (hc : 0x10000 ≤ c.toNat) :
    Escaped c (escapeUnit (0xD800 + (c.toNat - 0x10000) / 0x400) ++ escapeUnit (0xDC00 + (c.toNat - 0x10000) % 0x400))

/-- Every code point is escaped in one of these ways. -/
theorem escaped_escapeChar (c : Char) : Escaped c (escapeChar c) := by
  have hshort : ∀ {d e}, c.toNat = e.toNat → shortEscape? d = some e → Printable d → Escaped c ['\\', d] := by
    intro d e hc hread hd
    rw [← Char.toNat_inj.mp hc] at hread
    exact .short hread hd
  have hself : ∀ {d : Char}, c.toNat ≠ d.toNat → c ≠ d := fun hne heq => hne (congrArg Char.toNat heq)
  unfold escapeChar
  simp only
  split
  · exact hshort (e := '\x22') ‹_› rfl (by decide)
  split
  · exact hshort (e := '\\') ‹_› rfl (by decide)
  split
  · exact hshort (e := '\n') ‹_› rfl (by decide)
  split
  · exact hshort (e := '\r') ‹_› rfl (by decide)
  split
  · exact hshort (e := '\t') ‹_› rfl (by decide)
  split
  · exact hshort (e := '\x0C') ‹_› rfl (by decide)
  split
  · exact hshort (e := '\x08') ‹_› rfl (by decide)
  split
  · exact .self ‹_› (hself ‹_›) (hself ‹_›)
  split
  · exact .unit ‹_›
  · exact .halves (Nat.le_of_not_lt ‹_›)

theorem escapeChar_ne_nil (c : Char) : escapeChar c ≠ [] := by
  have hescaped := escaped_escapeChar c
  generalize escapeChar c = t at hescaped
  cases hescaped with
  | short | self | unit | halves => exact List.cons_ne_nil _ _

/-- No text is longer than what is written of it. -/
theorem length_le_length_escaped (t : Text) : t.length ≤ (t.flatMap escapeChar).length := by
  induction t with
  | nil => exact Nat.le_refl 0
  | cons c t ih =>
    have hc := List.length_pos_of_ne_nil (escapeChar_ne_nil c)
    rw [List.flatMap_cons, List.length_append, List.length_cons]
    omega

/-! ## Quoted texts -/

section

variable (fuel : Nat) (rest : Text)

/-- What reading one more code point adds to what is read behind it. -/
def readBefore (c : Char) (read : Option (Text × Text)) : Option (Text × Text) := read.map fun r => (c :: r.1, r.2)

/-- What an escape stands for is one code point of the text. -/
theorem readQuoted_escape {t : Text} {c : Char} (h : readEscape t = some (c, rest)) :
    readQuoted (fuel + 1) ('\\' :: t) = readBefore c (readQuoted fuel rest) := by
  conv_lhs => unfold readQuoted
  rw [if_neg (by decide), if_pos rfl, h]
  rfl

/-- An escape of one letter stands for its code point. -/
theorem readEscape_short {d c : Char} (h : shortEscape? d = some c) : readEscape (d :: rest) = some (c, rest) := by
  unfold readEscape
  split
  · rename_i heq
    obtain ⟨rfl, -⟩ := List.cons.inj heq
    cases h
  · rename_i heq
    obtain ⟨rfl, rfl⟩ := List.cons.inj heq
    rw [h]
    rfl
  · contradiction

/-- A code point that is neither the quote, the backslash nor a control character stands for itself. -/
theorem readQuoted_self {c : Char} (hquote : c ≠ '\x22') (hbackslash : c ≠ '\\') (hcontrol : 0x20 ≤ c.toNat) :
    readQuoted (fuel + 1) (c :: rest) = readBefore c (readQuoted fuel rest) := by
  conv_lhs => unfold readQuoted
  rw [if_neg hquote, if_neg hbackslash, if_neg (by omega)]
  rfl

/-- Sixteen bits that are no half stand for their code point. -/
theorem readQuoted_escapeUnit {n : Nat} (h : n < 0xD800 ∨ 0xE000 ≤ n ∧ n < 0x10000) :
    readQuoted (fuel + 1) (escapeUnit n ++ rest) = readBefore (Char.ofNat n) (readQuoted fuel rest) := by
  obtain ⟨a, b, c, d, hdigits, hnumber⟩ := Text.exists_hexadecimal_eq (n := n) (by omega)
  unfold escapeUnit
  rw [hdigits]
  apply readQuoted_escape
  show readEscape ('u' :: a :: b :: c :: d :: rest) = _
  simp only [readEscape, hnumber]
  rw [if_neg (by omega), if_neg (by omega)]

/-- Two halves of sixteen bits make one code point. -/
theorem readQuoted_halves {n m : Nat} (hn : 0xD800 ≤ n ∧ n < 0xDC00) (hm : 0xDC00 ≤ m ∧ m < 0xE000) :
    readQuoted (fuel + 1) (escapeUnit n ++ escapeUnit m ++ rest) =
      readBefore (Char.ofNat (0x10000 + (n - 0xD800) * 0x400 + (m - 0xDC00))) (readQuoted fuel rest) := by
  obtain ⟨a, b, c, d, hdigits, hnumber⟩ := Text.exists_hexadecimal_eq (n := n) (by omega)
  obtain ⟨e, f, g, h, hdigits', hnumber'⟩ := Text.exists_hexadecimal_eq (n := m) (by omega)
  unfold escapeUnit
  rw [hdigits, hdigits']
  apply readQuoted_escape
  show readEscape ('u' :: a :: b :: c :: d :: '\\' :: 'u' :: e :: f :: g :: h :: rest) = _
  simp only [readEscape, hnumber, hnumber']
  rw [if_pos hn, if_pos hm]

/-- The reader takes one step to a code point, whatever its escape. -/
theorem readQuoted_escapeChar (c : Char) :
    readQuoted (fuel + 1) (escapeChar c ++ rest) = readBefore c (readQuoted fuel rest) := by
  have hvalid : c.toNat < 0xD800 ∨ 0xDFFF < c.toNat ∧ c.toNat < 0x110000 := c.valid
  have hback := Char.ofNat_toNat c
  have hescaped := escaped_escapeChar c
  generalize escapeChar c = t at hescaped
  cases hescaped with
  | short hread => exact readQuoted_escape fuel rest (readEscape_short rest hread)
  | self hc hquote hbackslash => exact readQuoted_self fuel rest hquote hbackslash hc.1
  | unit hc => rw [readQuoted_escapeUnit fuel rest (by omega), hback]
  | halves hc =>
    rw [readQuoted_halves fuel rest (by omega) (by omega)]
    have hsum : 0x10000 + (0xD800 + (c.toNat - 0x10000) / 0x400 - 0xD800) * 0x400 +
        (0xDC00 + (c.toNat - 0x10000) % 0x400 - 0xDC00) = c.toNat := by
      omega
    rw [hsum, hback]

end

/-- A text of which every code point is escaped is read up to the quote behind it. -/
theorem readQuoted_quoted (t : Text) (fuel : Nat) (h : t.length < fuel) (rest : Text) :
    readQuoted fuel (t.flatMap escapeChar ++ '\x22' :: rest) = some (t, rest) := by
  induction t generalizing fuel with
  | nil =>
    obtain ⟨fuel, rfl⟩ := Nat.exists_eq_add_one.mpr h
    rfl
  | cons c t ih =>
    obtain ⟨fuel, rfl⟩ : ∃ k, fuel = k + 1 := Nat.exists_eq_add_one.mpr (by omega)
    have hfuel : t.length < fuel := Nat.lt_of_succ_lt_succ h
    rw [List.flatMap_cons, List.append_assoc, readQuoted_escapeChar, ih fuel hfuel]
    rfl

/-! ## What is written -/

/-- Of a fixed text this is seen by going through it. -/
theorem printable_of_all {t : Text} (h : (t.all fun c => decide (Printable c)) = true) : ∀ c ∈ t, Printable c := by
  intro c hc
  exact of_decide_eq_true (List.all_eq_true.mp h c hc)

theorem printable_of_mem_ofNat {n : Nat} {c : Char} (h : c ∈ Text.ofNat n) : Printable c := by
  have hdigit : ∀ d < 10, Printable (Nat.digitChar d) := by decide
  obtain ⟨d, hd, rfl⟩ := Text.exists_digitChar_of_mem_toDigits (by decide) h
  exact hdigit d hd

theorem printable_of_mem_escapeUnit {n : Nat} {c : Char} (h : c ∈ escapeUnit n) : Printable c := by
  have hdigit : ∀ d < 16, Printable (Nat.digitChar d) := by decide
  unfold escapeUnit Text.hexadecimal at h
  simp only [List.mem_cons, List.mem_append] at h
  rcases h with rfl | rfl | h | h
  · decide
  · decide
  · rw [List.eq_of_mem_replicate h]
    decide
  · obtain ⟨d, hd, rfl⟩ := Text.exists_digitChar_of_mem_toDigits (by decide) h
    exact hdigit d hd

/-- Every escape is written in printable code points, whatever stands in the text. -/
theorem printable_of_mem_escapeChar {c d : Char} (h : d ∈ escapeChar c) : Printable d := by
  have hescaped := escaped_escapeChar c
  generalize escapeChar c = t at h hescaped
  cases hescaped with
  | short _ he =>
    simp only [List.mem_cons, List.not_mem_nil, or_false] at h
    rcases h with rfl | rfl
    · decide
    · exact he
  | self hc =>
    rw [List.mem_singleton.mp h]
    exact hc
  | unit => exact printable_of_mem_escapeUnit h
  | halves =>
    rcases List.mem_append.mp h with h | h
    · exact printable_of_mem_escapeUnit h
    · exact printable_of_mem_escapeUnit h

/-- Every text in quotes is written in printable code points. -/
theorem printable_of_mem_quote {t : Text} {c : Char} (h : c ∈ quote t) : Printable c := by
  unfold quote at h
  simp only [List.mem_cons, List.mem_append, List.mem_flatMap, List.not_mem_nil, or_false] at h
  rcases h with rfl | ⟨d, -, h⟩ | rfl
  · decide
  · exact printable_of_mem_escapeChar h
  · decide

end Json

end CriticalCss

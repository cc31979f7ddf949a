import CriticalCss.Proofs.Ledger
import CriticalCss.Proofs.Literals

/-!
# Spellings of values

What spells a value is read back as this value, whatever follows it (`Spells`). Numbers and texts are spelled as they are written
(`spells_int`, `spells_text`), and a list or an object is spelled by the spellings of its parts with any gaps between them (`Spells.list`,
`Spells.object`), so that one argument serves every layout.
-/

namespace CriticalCss

namespace Json

/-! ## Gaps -/

/-- A text that may stand between the parts of a value. -/
def Blank (gap : Text) : Prop := ∀ c ∈ gap, isGap c = true

theorem blank_nil : Blank [] := by
  intro c hc
  cases hc

theorem blank_blank : Blank [' '] := by
  intro c hc
  rw [List.mem_singleton.mp hc]
  rfl

/-- A gap is skipped up to what is none. -/
theorem skipGap_append {gap : Text} (hgap : Blank gap) {t : Text} (ht : ∀ c, t.head? = some c → isGap c = false) :
    skipGap (gap ++ t) = t := by
  unfold skipGap
  rw [List.dropWhile_append_of_pos hgap]
  cases t with
  | nil => rfl
  | cons c t => rw [List.dropWhile_cons_of_neg (by simp [ht c rfl])]

/-- The gap before a closing bracket or brace. -/
theorem skipGap_append_cons {gap : Text} (hgap : Blank gap) {c : Char} (hc : isGap c = false) (t : Text) :
    skipGap (gap ++ c :: t) = c :: t := by
  apply skipGap_append hgap
  rintro d ⟨⟩
  exact hc

/-- A closing bracket or brace may follow a value, and so may a gap before it. -/
theorem ends_blank_append {gap : Text} (hgap : Blank gap) {c : Char} (hc : c = ',' ∨ c = ']' ∨ c = '}') (t : Text) :
    Ends (gap ++ c :: t) := by
  cases gap with
  | nil => exact Ends.cons (hc.imp_right (Or.imp_right Or.inl)) t
  | cons d gap => exact Ends.cons (.inr (.inr (.inr (hgap d List.mem_cons_self)))) _

/-! ## Spellings -/

/-- A text that begins with neither a gap nor the end of a list. -/
def Opens (t : Text) : Prop := ∃ c, t.head? = some c ∧ isGap c = false ∧ c ≠ ']'

/-- How a text begins does not depend on what follows it. -/
theorem Opens.append {t : Text} (h : Opens t) (rest : Text) : Opens (t ++ rest) := by
  obtain ⟨c, hhead, hc⟩ := h
  refine ⟨c, ?_, hc⟩
  rw [List.head?_append, hhead]
  rfl

/-- Such a text does not end a list. -/
theorem Opens.head?_ne {t : Text} (h : Opens t) : t.head? ≠ some ']' := by
  obtain ⟨c, hhead, -, hc⟩ := h
  rw [hhead]
  rintro ⟨⟩
  exact hc rfl

/-- A gap before it is skipped. -/
theorem Opens.skipGap_append {t : Text} (h : Opens t) {gap : Text} (hgap : Blank gap) : skipGap (gap ++ t) = t := by
  obtain ⟨c, hhead, hc, -⟩ := h
  apply Json.skipGap_append hgap
  intro d hd
  rw [hhead] at hd
  cases hd
  exact hc

/-- A text of allowed code points that is read as a value, with whatever follows it left over. Of the fuel two steps are enough for each
code point. -/
structure Spells (allowed : Char → Prop) (j : Json) (t : Text) : Prop where
  opens : Opens t
  chars : ∀ c ∈ t, allowed c
  read : ∀ fuel {rest}, 2 * t.length ≤ fuel → Ends rest → readValue fuel (t ++ rest) = some (j, rest)

variable {allowed : Char → Prop}

/-- A text that spells a value is read as a whole. -/
theorem Spells.read_eq {j : Json} {t : Text} (h : Spells allowed j t) : Json.read t = some j := by
  have hskip : skipGap t = t := h.opens.skipGap_append blank_nil
  have hread := h.read (2 * t.length + 2) (by omega) Ends.nil
  rw [List.append_nil] at hread
  unfold Json.read
  rw [hskip, hread]
  rfl

section

variable (hprintable : ∀ c, Printable c → allowed c)

include hprintable

/-! ## Scalars -/

/-- A value that begins with neither quote nor bracket. -/
theorem spells_of_readScalar {j : Json} {c : Char} {more : Text} (hc : isGap c = false ∧ c ∉ ['\x22', '[', ']', '{'])
    (hchars : ∀ d ∈ c :: more, Printable d) (hread : ∀ rest, Ends rest → readScalar (c :: more ++ rest) = some (j, rest)) :
    Spells allowed j (c :: more) where
  opens := ⟨c, rfl, hc.1, fun h => hc.2 (by simp [h])⟩
  chars d hd := hprintable d (hchars d hd)
  read := by
    intro fuel rest hfuel hrest
    obtain ⟨fuel, rfl⟩ : ∃ k, fuel = k + 1 := Nat.exists_eq_add_one.mpr (by rw [List.length_cons] at hfuel; omega)
    have hscalar := hread rest hrest
    simp only [List.mem_cons, List.not_mem_nil, or_false, not_or] at hc
    obtain ⟨-, hquote, hbracket, -, hbrace⟩ := hc
    rw [List.cons_append] at hscalar ⊢
    unfold readValue
    dsimp only
    rw [if_neg hquote, if_neg hbracket, if_neg hbrace, hscalar]

omit hprintable in
/-- A text that no name of a value begins is read as a number. -/
theorem readScalar_of_unnamed (t : Text) :
    (∀ word ∈ ["null", "true", "false", "NaN", "Infinity", "-Infinity"], ∀ more : Text, word.toList ++ more ≠ t) →
      readScalar t = match t with
        | '-' :: rest => readUnsigned true rest
        | _ => readUnsigned false t := by
  intro h
  have hnone : ∀ word ∈ ["null", "true", "false", "NaN", "Infinity", "-Infinity"], after? word.toList t = none := by
    intro word hword
    unfold after?
    rw [if_neg]
    intro hbegins
    obtain ⟨more, hmore⟩ := List.isPrefixOf_iff_prefix.mp hbegins
    exact h word hword more hmore
  simp only [List.forall_mem_cons] at hnone
  obtain ⟨hnull, htrue, hfalse, hnan, hinfinity, hminus, -⟩ := hnone
  unfold readScalar
  simp only [hnull, htrue, hfalse, hnan, hinfinity, hminus, Option.map_none, Option.orElse_eq_orElse]
  rfl

omit hprintable in
/-- A text that begins with a digit is read as a number. -/
theorem readScalar_of_isDigit {c : Char} (hc : c.isDigit = true) (t : Text) : readScalar (c :: t) = readUnsigned false (c :: t) := by
  rw [readScalar_of_unnamed]
  · split
    · rename_i heq
      obtain ⟨rfl, -⟩ := List.cons.inj heq
      cases hc
    · rfl
  · intro word hword more heq
    simp only [List.mem_cons, List.not_mem_nil, or_false] at hword
    rcases hword with rfl | rfl | rfl | rfl | rfl | rfl
    all_goals
      obtain ⟨rfl, -⟩ := List.cons.inj heq
      cases hc

omit hprintable in
/-- One of the names begins with a minus, which no digit follows. -/
theorem readScalar_minus {c : Char} (hc : c.isDigit = true) (t : Text) : readScalar ('-' :: c :: t) = readUnsigned true (c :: t) := by
  refine readScalar_of_unnamed ('-' :: c :: t) ?_
  intro word hword more heq
  simp only [List.mem_cons, List.not_mem_nil, or_false] at hword
  rcases hword with rfl | rfl | rfl | rfl | rfl | rfl
  case inr.inr.inr.inr.inr =>
    obtain ⟨-, htail⟩ := List.cons.inj heq
    obtain ⟨rfl, -⟩ := List.cons.inj htail
    cases hc
  all_goals
    obtain ⟨hhead, -⟩ := List.cons.inj heq
    cases hhead

/-- An integer is spelled by its digits, with a minus before them if it is negative. -/
theorem spells_int (n : Int) : Spells allowed (.int n) (Text.ofInt n) := by
  have hfirst : ∀ {k : Nat} {c more}, Text.ofNat k = c :: more → c.isDigit = true := by
    intro k c more h
    exact Text.isDigit_of_mem_ofNat (h ▸ List.mem_cons_self)
  have hopens : ∀ {c : Char}, c.isDigit = true → isGap c = false ∧ c ∉ ['\x22', '[', ']', '{'] := by
    intro c hc
    refine ⟨?_, ?_⟩
    · rw [← Bool.not_eq_true, isGap_iff]
      rintro (rfl | rfl | rfl | rfl) <;> cases hc
    · simp only [List.mem_cons, List.not_mem_nil, or_false]
      rintro (rfl | rfl | rfl | rfl) <;> cases hc
  cases n with
  | ofNat k =>
    obtain ⟨c, more, hdigits⟩ := List.exists_cons_of_ne_nil (Text.ofNat_ne_nil k)
    rw [Text.ofInt, hdigits]
    refine spells_of_readScalar hprintable (hopens (hfirst hdigits)) ?_ ?_
    · intro d hd
      exact printable_of_mem_ofNat (hdigits ▸ hd)
    · intro rest hrest
      rw [List.cons_append, readScalar_of_isDigit (hfirst hdigits), ← List.cons_append, ← hdigits, readUnsigned_ofNat false k hrest]
      rfl
  | negSucc k =>
    obtain ⟨c, more, hdigits⟩ := List.exists_cons_of_ne_nil (Text.ofNat_ne_nil (k + 1))
    rw [Text.ofInt, hdigits]
    refine spells_of_readScalar hprintable (by decide) ?_ ?_
    · intro d hd
      rcases List.mem_cons.mp hd with rfl | hd
      · decide
      · exact printable_of_mem_ofNat (hdigits ▸ hd)
    · intro rest hrest
      rw [List.cons_append, List.cons_append, readScalar_minus (hfirst hdigits), ← List.cons_append, ← hdigits,
        readUnsigned_ofNat true (k + 1) hrest]
      rfl

theorem spells_null : Spells allowed .null (scalarText .null) :=
  spells_of_readScalar hprintable (by decide) (printable_of_all rfl) fun _ _ => rfl

theorem spells_bool (b : Bool) : Spells allowed (.bool b) (scalarText (.bool b)) := by
  cases b with
  | false => exact spells_of_readScalar hprintable (by decide) (printable_of_all rfl) fun _ _ => rfl
  | true => exact spells_of_readScalar hprintable (by decide) (printable_of_all rfl) fun _ _ => rfl

/-- A text is spelled by itself in quotes, with its code points escaped. -/
theorem spells_text (t : Text) : Spells allowed (.text t) (quote t) where
  opens := ⟨'\x22', rfl, rfl, by decide⟩
  chars c hc := hprintable c (printable_of_mem_quote hc)
  read := by
    intro fuel rest hfuel _
    have hlength := length_le_length_escaped t
    unfold quote at hfuel ⊢
    rw [List.length_cons, List.length_append] at hfuel
    obtain ⟨fuel, rfl⟩ : ∃ k, fuel = k + 1 := Nat.exists_eq_add_one.mpr (by omega)
    rw [List.cons_append, List.append_assoc]
    unfold readValue
    dsimp only
    rw [if_pos rfl, List.singleton_append, readQuoted_quoted t fuel (by omega)]
    rfl

end

/-! ## One step of the reader -/

section

variable {fuel : Nat} {t rest rest' : Text}

/-- The last item of a list, behind which the bracket closes it. -/
theorem readItems_last {item : Json} (hread : readValue fuel t = some (item, rest)) (hskip : skipGap rest = ']' :: rest') :
    readItems (fuel + 1) t = some ([item], rest') := by
  unfold readItems
  simp only [hread, hskip]

/-- An item behind which a comma stands, and the items after it. -/
theorem readItems_comma {item : Json} {items : List Json} (hread : readValue fuel t = some (item, rest))
    (hskip : skipGap rest = ',' :: rest') {rest'' : Text} (hitems : readItems fuel (skipGap rest') = some (items, rest'')) :
    readItems (fuel + 1) t = some (item :: items, rest'') := by
  conv_lhs => unfold readItems
  simp only [hread, hskip, hitems]
  rfl

/-- A list that has items is read item by item. -/
theorem readValue_list {items : List Json} (hhead : (skipGap t).head? ≠ some ']')
    (hitems : readItems fuel (skipGap t) = some (items, rest)) : readValue (fuel + 1) ('[' :: t) = some (.list items, rest) := by
  conv_lhs => unfold readValue
  dsimp only
  rw [if_neg (by decide), if_pos rfl]
  split
  · rename_i heq
    rw [heq] at hhead
    exact absurd rfl hhead
  · rw [hitems]
    rfl

/-- An object that has members is read member by member. -/
theorem readValue_object {members : List (Text × Json)} (hhead : (skipGap t).head? ≠ some '}')
    (hmembers : readMembers fuel [] (skipGap t) = some (members, rest)) :
    readValue (fuel + 1) ('{' :: t) = some (.object members, rest) := by
  conv_lhs => unfold readValue
  dsimp only
  rw [if_neg (by decide), if_neg (by decide), if_pos rfl]
  split
  · rename_i heq
    rw [heq] at hhead
    exact absurd rfl hhead
  · rw [hmembers]
    rfl

end

/-! ## Lists and objects -/

/-- The gaps inside a pair of brackets: behind the opening one, behind each comma, and before the closing one. -/
structure Gaps (allowed : Char → Prop) where
  before : Text
  between : Text
  after : Text
  blank : Blank (before ++ between ++ after)
  chars : ∀ c ∈ before ++ between ++ after, allowed c

namespace Gaps

variable (g : Gaps allowed)

theorem blank_before : Blank g.before := fun c hc => g.blank c (by simp [hc])

theorem blank_between : Blank g.between := fun c hc => g.blank c (by simp [hc])

theorem blank_after : Blank g.after := fun c hc => g.blank c (by simp [hc])

/-- The parts with a comma and a gap between each two of them. -/
def joined (parts : List Text) : Text := Text.joinWith (',' :: g.between) parts

/-- The parts between two brackets. -/
def enclosed (opening closing : Char) (parts : List Text) : Text :=
  opening :: (g.before ++ (g.joined parts ++ (g.after ++ [closing])))

/-- One part has no gaps around it. -/
theorem joined_singleton (part : Text) : g.joined [part] = part := by
  unfold joined Text.joinWith
  exact List.intercalate_singleton

/-- Between two parts stand a comma and a gap. -/
theorem joined_cons_cons (part next : Text) (parts : List Text) :
    g.joined (part :: next :: parts) = part ++ ',' :: (g.between ++ g.joined (next :: parts)) := by
  unfold joined Text.joinWith
  rw [List.intercalate_cons_cons, List.append_assoc, List.cons_append]

/-- Parts in a row begin as the first of them does. -/
theorem head?_joined {part : Text} {c : Char} (h : part.head? = some c) (parts : List Text) :
    (g.joined (part :: parts)).head? = some c := by
  cases parts with
  | nil => rw [joined_singleton, h]
  | cons next parts => rw [joined_cons_cons, List.head?_append, h, Option.some_or]

theorem opens_joined {part : Text} (h : Opens part) (parts : List Text) : Opens (g.joined (part :: parts)) := by
  obtain ⟨c, hhead, hc⟩ := h
  exact ⟨c, g.head?_joined hhead parts, hc⟩

/-- A writer of parts that sets a comma and a gap between each two of them. -/
theorem eq_joined {α : Type} (writeAll : List α → Text) {part : α → Text} (hnil : writeAll [] = [])
    (hone : ∀ a, writeAll [a] = part a)
    (hmore : ∀ a b rest, writeAll (a :: b :: rest) = part a ++ ',' :: (g.between ++ writeAll (b :: rest))) (l : List α) :
    writeAll l = g.joined (l.map part) := by
  induction l with
  | nil => exact hnil
  | cons a rest ih =>
    cases rest with
    | nil => rw [hone, List.map_singleton, joined_singleton]
    | cons b rest => rw [hmore, ih, List.map_cons, List.map_cons, List.map_cons, joined_cons_cons]

section

variable (hprintable : ∀ c, Printable c → allowed c) {parts : List Text} (hparts : ∀ part ∈ parts, ∀ c ∈ part, allowed c)

include hprintable hparts

/-- Parts of allowed code points make a row of them. -/
theorem allowed_of_mem_joined : ∀ c ∈ g.joined parts, allowed c := by
  have hseparator : ∀ c ∈ ',' :: g.between, allowed c := by
    intro c hc
    rcases List.mem_cons.mp hc with rfl | hc
    · exact hprintable ',' (by decide)
    · exact g.chars c (by simp [hc])
  induction parts with
  | nil => simp [joined, Text.joinWith]
  | cons part parts ih =>
    obtain ⟨hpart, hrest⟩ := List.forall_mem_cons.mp hparts
    cases parts with
    | nil =>
      rw [joined_singleton]
      exact hpart
    | cons next parts =>
      rw [joined_cons_cons, ← List.cons_append]
      exact List.forall_mem_append.mpr ⟨hpart, List.forall_mem_append.mpr ⟨hseparator, ih hrest⟩⟩

/-- Between brackets too there are only allowed code points. -/
theorem allowed_of_mem_enclosed {opening closing : Char} (hopening : Printable opening) (hclosing : Printable closing) :
    ∀ c ∈ g.enclosed opening closing parts, allowed c := by
  have hjoined := g.allowed_of_mem_joined hprintable hparts
  intro c hc
  simp only [enclosed, List.mem_cons, List.mem_append, List.not_mem_nil, or_false] at hc
  rcases hc with rfl | hc | hc | hc | rfl
  · exact hprintable c hopening
  · exact g.chars c (by simp [hc])
  · exact hjoined c hc
  · exact g.chars c (by simp [hc])
  · exact hprintable c hclosing

end

end Gaps

section

variable (hprintable : ∀ c, Printable c → allowed c)

include hprintable

/-- A list without items is spelled by its brackets, without a gap between them. -/
theorem spells_emptyList : Spells allowed (.list []) ['[', ']'] where
  opens := ⟨'[', rfl, rfl, by decide⟩
  chars c hc := hprintable c (printable_of_all rfl c hc)
  read := by
    intro fuel rest hfuel _
    obtain ⟨fuel, rfl⟩ : ∃ k, fuel = k + 1 := Nat.exists_eq_add_one.mpr (Nat.lt_of_lt_of_le (by decide) hfuel)
    rfl

/-- An object without members is spelled by its braces. -/
theorem spells_emptyObject : Spells allowed (.object []) ['{', '}'] where
  opens := ⟨'{', rfl, rfl, by decide⟩
  chars c hc := hprintable c (printable_of_all rfl c hc)
  read := by
    intro fuel rest hfuel _
    obtain ⟨fuel, rfl⟩ : ∃ k, fuel = k + 1 := Nat.exists_eq_add_one.mpr (Nat.lt_of_lt_of_le (by decide) hfuel)
    rfl

end

section

variable (g : Gaps allowed) {write : Json → Text}

section

variable {items : List Json} (h : ∀ item ∈ items, Spells allowed item (write item)) (hne : items ≠ [])

include h hne

/-- The items of a list, with the gaps of any layout. -/
theorem readItems_joined (fuel : Nat) (hfuel : 2 * (g.joined (items.map write)).length < fuel) (rest : Text) :
    readItems fuel (g.joined (items.map write) ++ (g.after ++ ']' :: rest)) = some (items, rest) := by
  -- of the two steps for a code point, the comma pays for the one that goes on to the next item
  induction items generalizing fuel with
  | nil => exact absurd rfl hne
  | cons item items ih =>
    obtain ⟨hitem, hitems⟩ := List.forall_mem_cons.mp h
    obtain ⟨fuel, rfl⟩ : ∃ k, fuel = k + 1 := Nat.exists_eq_add_one.mpr (by omega)
    cases items with
    | nil =>
      rw [List.map_singleton, g.joined_singleton] at hfuel ⊢
      have hread := hitem.read fuel (by omega) (ends_blank_append g.blank_after (.inr (.inl rfl)) rest)
      exact readItems_last hread (skipGap_append_cons g.blank_after rfl rest)
    | cons next items =>
      rw [List.map_cons, List.map_cons, g.joined_cons_cons, ← List.map_cons] at hfuel ⊢
      rw [List.length_append, List.length_cons, List.length_append] at hfuel
      have hopens : Opens (g.joined ((next :: items).map write) ++ (g.after ++ ']' :: rest)) :=
        (g.opens_joined (hitems next List.mem_cons_self).opens (items.map write)).append _
      have hrest := ih hitems (List.cons_ne_nil next items) fuel (by omega)
      rw [← hopens.skipGap_append g.blank_between] at hrest
      rw [List.append_assoc, List.cons_append, List.append_assoc]
      exact readItems_comma (hitem.read fuel (by omega) (Ends.cons (.inl rfl) _)) rfl hrest

/-- A list of which the items are spelled. -/
theorem Spells.list (hprintable : ∀ c, Printable c → allowed c) :
    Spells allowed (.list items) (g.enclosed '[' ']' (items.map write)) where
  opens := ⟨'[', rfl, rfl, by decide⟩
  chars := g.allowed_of_mem_enclosed hprintable (List.forall_mem_map.mpr fun item hitem => (h item hitem).chars) (by decide)
    (by decide)
  read := by
    intro fuel rest hfuel _
    simp only [Gaps.enclosed, List.length_cons, List.length_append, List.length_nil] at hfuel
    obtain ⟨fuel, rfl⟩ : ∃ k, fuel = k + 1 := Nat.exists_eq_add_one.mpr (by omega)
    have hitems := readItems_joined g h hne fuel (by omega) rest
    have hopens : Opens (g.joined (items.map write) ++ (g.after ++ ']' :: rest)) := by
      obtain ⟨item, items, rfl⟩ := List.exists_cons_of_ne_nil hne
      exact (g.opens_joined (h item List.mem_cons_self).opens (items.map write)).append _
    rw [← hopens.skipGap_append g.blank_before] at hitems hopens
    simp only [Gaps.enclosed, List.cons_append, List.append_assoc, List.nil_append]
    exact readValue_list hopens.head?_ne hitems

end

/-- A member as a layout writes it: the key in quotes, a colon and a blank, and the value. -/
def memberText (write : Json → Text) (m : Text × Json) : Text := quote m.1 ++ ':' :: ' ' :: write m.2

theorem head?_memberText (write : Json → Text) (m : Text × Json) : (memberText write m).head? = some '\x22' := rfl

/-- The reader of members takes one member, and what stands behind it decides how it goes on. -/
theorem readMembers_memberText {m : Text × Json} (h : Spells allowed m.2 (write m.2)) {fuel : Nat}
    (hfuel : 2 * (memberText write m).length ≤ fuel) {rest : Text} (hrest : Ends rest) (already : List (Text × Json)) :
    readMembers (fuel + 1) already (memberText write m ++ rest) = match skipGap rest with
      | '}' :: rest' => some (Ledger.put m.1 m.2 already, rest')
      | ',' :: rest' => readMembers fuel (Ledger.put m.1 m.2 already) (skipGap rest')
      | _ => none := by
  have hlength := length_le_length_escaped m.1
  simp only [memberText, quote, List.length_append, List.length_cons] at hfuel
  have hquoted := readQuoted_quoted m.1 fuel (by omega) (':' :: ' ' :: (write m.2 ++ rest))
  have hcolon : skipGap (':' :: ' ' :: (write m.2 ++ rest)) = ':' :: ' ' :: (write m.2 ++ rest) := rfl
  have hskip := (h.opens.append rest).skipGap_append blank_blank
  have hread := h.read fuel (by omega) hrest
  rw [← hskip, List.singleton_append] at hread
  simp only [memberText, quote, List.cons_append, List.append_assoc, List.nil_append]
  conv_lhs => unfold readMembers
  simp only [hquoted, hcolon, hread]
  rfl

section

variable {members : List (Text × Json)} (h : ∀ m ∈ members, Spells allowed m.2 (write m.2)) (hne : members ≠ [])

include hne

omit g h in
theorem head?_members (g : Gaps allowed) (write : Json → Text) (rest : Text) :
    (g.joined (members.map (memberText write)) ++ rest).head? = some '\x22' := by
  obtain ⟨m, members, rfl⟩ := List.exists_cons_of_ne_nil hne
  rw [List.map_cons, List.head?_append, g.head?_joined (head?_memberText write m), Option.some_or]

include h

/-- The members of an object, with the gaps of any layout, are put after those read before. -/
theorem readMembers_joined (already : List (Text × Json)) (hkeys : (Ledger.keys (already ++ members)).Nodup) (fuel : Nat)
    (hfuel : 2 * (g.joined (members.map (memberText write))).length < fuel) (rest : Text) :
    readMembers fuel already (g.joined (members.map (memberText write)) ++ (g.after ++ '}' :: rest)) =
      some (already ++ members, rest) := by
  induction members generalizing fuel already with
  | nil => exact absurd rfl hne
  | cons m members ih =>
    obtain ⟨hm, hmembers⟩ := List.forall_mem_cons.mp h
    obtain ⟨fuel, rfl⟩ : ∃ k, fuel = k + 1 := Nat.exists_eq_add_one.mpr (by omega)
    -- no member before has this key, so the member goes behind them all
    have hput : Ledger.put m.1 m.2 already = already ++ [m] := by
      apply Ledger.put_of_notMem
      rw [Ledger.keys_append, Ledger.keys_cons] at hkeys
      intro hmem
      exact (List.nodup_append.mp hkeys).2.2 _ hmem _ List.mem_cons_self rfl
    cases members with
    | nil =>
      rw [List.map_singleton, g.joined_singleton] at hfuel ⊢
      have hends : Ends (g.after ++ '}' :: rest) := ends_blank_append g.blank_after (.inr (.inr rfl)) rest
      rw [readMembers_memberText hm (by omega) hends, skipGap_append_cons g.blank_after rfl, hput]
      rfl
    | cons next members =>
      rw [List.map_cons, List.map_cons, g.joined_cons_cons, ← List.map_cons] at hfuel ⊢
      rw [List.length_append, List.length_cons, List.length_append] at hfuel
      have hopens : Opens (g.joined ((next :: members).map (memberText write)) ++ (g.after ++ '}' :: rest)) :=
        ⟨'\x22', head?_members (List.cons_ne_nil next members) g write _, rfl, by decide⟩
      rw [List.append_cons already m] at hkeys ⊢
      have hmore := ih hmembers (List.cons_ne_nil next members) _ hkeys fuel (by omega)
      rw [← hopens.skipGap_append g.blank_between] at hmore
      rw [List.append_assoc, List.cons_append, List.append_assoc,
        readMembers_memberText hm (by omega) (Ends.cons (.inl rfl) _), hput]
      exact hmore

/-- An object of which the values are spelled and no key stands twice. -/
theorem Spells.object (hkeys : (Ledger.keys members).Nodup) (hprintable : ∀ c, Printable c → allowed c) :
    Spells allowed (.object members) (g.enclosed '{' '}' (members.map (memberText write))) where
  opens := ⟨'{', rfl, rfl, by decide⟩
  chars := by
    refine g.allowed_of_mem_enclosed hprintable (List.forall_mem_map.mpr fun m hm c hc => ?_) (by decide) (by decide)
    simp only [memberText, List.mem_append, List.mem_cons] at hc
    rcases hc with hc | rfl | rfl | hc
    · exact hprintable c (printable_of_mem_quote hc)
    · exact hprintable ':' (by decide)
    · exact hprintable ' ' (by decide)
    · exact (h m hm).chars c hc
  read := by
    intro fuel rest hfuel _
    simp only [Gaps.enclosed, List.length_cons, List.length_append, List.length_nil] at hfuel
    obtain ⟨fuel, rfl⟩ : ∃ k, fuel = k + 1 := Nat.exists_eq_add_one.mpr (by omega)
    have hmembers := readMembers_joined g h hne [] hkeys fuel (by omega) rest
    have hhead := head?_members hne g write (g.after ++ '}' :: rest)
    have hopens : Opens (g.joined (members.map (memberText write)) ++ (g.after ++ '}' :: rest)) := ⟨'\x22', hhead, rfl, by decide⟩
    rw [← hopens.skipGap_append g.blank_before] at hmembers hhead
    simp only [Gaps.enclosed, List.cons_append, List.append_assoc, List.nil_append]
    exact readValue_object (by rw [hhead]; decide) hmembers

end

end

end Json

end CriticalCss

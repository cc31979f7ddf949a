import Mathlib.Data.List.Infix
import Mathlib.Data.List.TakeWhile
import CriticalCss.Console.Screen
import CriticalCss.Proofs.Documents

/-!
# The table and the document

The table on the screen filters all nodes of a rule, its list and its selectors; the document takes the list in place of the selectors.
For the profile of a stylesheet with distinct numbers both come to the judged nodes, so the rows of the table are the entries of the
document, one for one (`table_shows_entries`).

The cells of a row are marked texts: the text of a node goes into its cell with its tags escaped, and escaping the tags of a text and
taking them for plain text again undo each other (`flatten_runs_escape`). What the console makes of plain text is another matter. Tabs,
control characters and backslashes in the wrong place do not look as they stand, and neither does a name between two colons that the host
has a symbol for: a selector with `:link:` in it looks different wherever there is a symbol for links (`laidOut_of_symbol`). All other
texts look in their cells as they stand (`Literal.laidOut_escape`).
-/

namespace CriticalCss

/-! ## Escaped tags -/

namespace Markup

/-- Whether the first bracket of a text is a closing one. -/
def closes (t : Text) : Bool := (t.dropWhile fun d => d != '[' && d != ']').head? == some ']'

theorem isTag_cons (c : Char) (rest : Text) : isTag (c :: rest) = (beginsTag c && closes rest) := rfl

theorem closes_cons_of_ne {c : Char} (ho : c ≠ '[') (hc : c ≠ ']') (t : Text) : closes (c :: t) = closes t := by
  simp [closes, ho, hc]

/-- A bracket that opens a tag is closed before another one opens. -/
theorem closes_of_isTag {t : Text} (h : isTag t = true) : closes t = true := by
  cases t with
  | nil => cases h
  | cons c t =>
    rw [isTag_cons, Bool.and_eq_true] at h
    have ho : c ≠ '[' := by
      rintro rfl
      exact absurd h.1 (by decide)
    have hc : c ≠ ']' := by
      rintro rfl
      exact absurd h.1 (by decide)
    rw [closes_cons_of_ne ho hc]
    exact h.2

theorem closes_backslashes (n : Nat) (t : Text) : closes (backslashes n ++ t) = closes t := by
  induction n with
  | zero => rfl
  | succ n ih => exact (closes_cons_of_ne (by decide) (by decide) _).trans ih

/-- Escaping leaves the first bracket of a text the first one. -/
theorem closes_escapeAfter (n : Nat) (t : Text) : closes (escapeAfter n t) = closes t := by
  fun_induction escapeAfter n t with
  | case1 n => simpa using closes_backslashes n []
  | case2 n rest ih => rw [ih, closes_cons_of_ne (by decide) (by decide)]
  | case3 n c rest hslash htag ih => rw [closes_backslashes, htag.1]; rfl
  | case4 n c rest hslash htag ih =>
    rw [closes_backslashes]
    by_cases ho : c = '['
    · rw [ho]; rfl
    · by_cases hc : c = ']'
      · rw [hc]; rfl
      · rw [closes_cons_of_ne ho hc, closes_cons_of_ne ho hc, ih]

/-- After a backslash an escaped text goes on with one. -/
theorem exists_escapeAfter_succ (n : Nat) (t : Text) : ∃ rest, escapeAfter (n + 1) t = '\\' :: rest := by
  induction t generalizing n with
  | nil => exact ⟨_, rfl⟩
  | cons c t ih =>
    unfold escapeAfter
    split
    · exact ih (n + 1)
    · split
      · exact ⟨_, rfl⟩
      · exact ⟨_, rfl⟩

/-- A text goes on with a tag after escaping exactly if it did before. -/
theorem isTag_escapeAfter (t : Text) : isTag (escapeAfter 0 t) = isTag t := by
  cases t with
  | nil => rfl
  | cons c t =>
    unfold escapeAfter
    split
    · rename_i hc
      obtain ⟨rest, hrest⟩ := exists_escapeAfter_succ 0 t
      rw [hrest, hc]
      rfl
    · split
      · rename_i htag
        rw [htag.1]
        rfl
      · exact (isTag_cons c _).trans (by rw [closes_escapeAfter, isTag_cons])

/-- The plain text of a marked text, from a place on. -/
def plainFrom (place : Place) (t : Text) : Text := (runsFrom place [] t).flatten

/-- What has been read of a run stands in front of what is read from there on. -/
theorem flatten_runsFrom (run t : Text) :
    (∀ n, (runsFrom (.text n) run t).flatten = run ++ plainFrom (.text n) t) ∧
    (runsFrom .escapedTag run t).flatten = run ++ plainFrom .escapedTag t := by
  induction t generalizing run with
  | nil => simp [plainFrom, runsFrom]
  | cons c t ih =>
    refine ⟨fun n => ?_, ?_⟩
    · simp only [plainFrom, runsFrom]
      split_ifs <;> simp [(ih _).1, (ih _).2]
    · simp only [plainFrom, runsFrom]
      split_ifs <;> simp [(ih _).1, (ih _).2]

section

variable (n : Nat) {c : Char} (t : Text)

theorem plainFrom_text_nil : plainFrom (.text n) [] = backslashes n := by
  simp [plainFrom, runsFrom]

/-- An ordinary code point comes behind the backslashes before it. -/
theorem plainFrom_text_cons (hslash : c ≠ '\\') (hopen : c ≠ '[') :
    plainFrom (.text n) (c :: t) = backslashes n ++ c :: plainFrom (.text 0) t := by
  rw [plainFrom, runsFrom, if_neg hslash, if_neg hopen, (flatten_runsFrom _ _).1]
  simp

/-- A bracket that opens no tag takes a backslash away. -/
theorem plainFrom_text_bracket (h : isTag t = false) :
    plainFrom (.text n) ('[' :: t) = backslashes (n - 1) ++ '[' :: plainFrom (.text 0) t := by
  rw [plainFrom, runsFrom, if_neg (by decide), if_pos rfl, if_neg (by simp [h]), (flatten_runsFrom _ _).1]
  simp

/-- Behind an odd number of backslashes a tag is plain text, and half of them are left. -/
theorem plainFrom_text_tag (h : isTag t = true) :
    plainFrom (.text (2 * n + 1)) ('[' :: t) = backslashes n ++ '[' :: plainFrom .escapedTag t := by
  have hodd : (2 * n + 1) % 2 ≠ 0 := by omega
  have hhalf : (2 * n + 1) / 2 = n := by omega
  rw [plainFrom, runsFrom, if_neg (by decide), if_pos rfl, if_pos h, if_neg hodd, hhalf, List.flatten_cons, List.flatten_cons,
    (flatten_runsFrom _ _).2]
  rfl

/-- An escaped tag is plain text up to its closing bracket. -/
theorem plainFrom_escapedTag_cons :
    plainFrom .escapedTag (c :: t) = c :: plainFrom (if c = ']' then .text 0 else .escapedTag) t := by
  rw [plainFrom, runsFrom]
  split
  · rfl
  · rw [(flatten_runsFrom _ _).2]
    rfl

end

theorem plainFrom_text_backslashes (m n : Nat) (t : Text) : plainFrom (.text m) (backslashes n ++ t) = plainFrom (.text (m + n)) t := by
  induction n generalizing m with
  | zero => rfl
  | succ n ih =>
    have hstep : plainFrom (.text m) (backslashes (n + 1) ++ t) = plainFrom (.text (m + 1)) (backslashes n ++ t) := rfl
    rw [hstep, ih, Nat.add_assoc, Nat.add_comm 1 n]

/-- In an escaped tag backslashes stay. -/
theorem plainFrom_escapedTag_backslashes (n : Nat) (t : Text) :
    plainFrom .escapedTag (backslashes n ++ t) = backslashes n ++ plainFrom .escapedTag t := by
  induction n with
  | zero => rfl
  | succ n ih =>
    have hrun : ∀ t, backslashes (n + 1) ++ t = '\\' :: (backslashes n ++ t) := fun _ => rfl
    rw [hrun, hrun, plainFrom_escapedTag_cons, if_neg (by decide), ih]

/-- Escaped text is plain text as it was, from outside its tags and from inside one of them, unless a backslash is lost because it stands
right before a bracket that opens no tag. The induction is on the text; the number of backslashes before it is general, because a run of
them is read before it is known what follows. -/
theorem plainFrom_escapeAfter {t : Text} (ht : ∀ a b, t = a ++ '\\' :: '[' :: b → isTag b = true) (n : Nat) :
    ((n ≠ 0 → ∀ b, t = '[' :: b → isTag b = true) → plainFrom (.text 0) (escapeAfter n t) = backslashes n ++ t) ∧
    (closes t = true → plainFrom .escapedTag (escapeAfter n t) = backslashes n ++ t) := by
  induction t generalizing n with
  | nil =>
    refine ⟨fun _ => ?_, nofun⟩
    have hrun := plainFrom_text_backslashes 0 n []
    rw [List.append_nil] at hrun
    rw [escapeAfter, hrun, Nat.zero_add, plainFrom_text_nil, List.append_nil]
  | cons c t ih =>
    have htail : ∀ a b, t = a ++ '\\' :: '[' :: b → isTag b = true := fun a b h => ht (c :: a) b (by rw [h]; rfl)
    have hrest : plainFrom (.text 0) (escapeAfter 0 t) = t := (ih htail 0).1 fun h => absurd rfl h
    by_cases hslash : c = '\\'
    · subst hslash
      have hrun : backslashes (n + 1) ++ t = backslashes n ++ '\\' :: t := by
        rw [backslashes, List.replicate_succ', List.append_assoc]
        rfl
      rw [escapeAfter, if_pos rfl, ← hrun]
      refine ⟨fun _ => (ih htail (n + 1)).1 fun _ b h => ht [] b (by rw [h]; rfl), fun h => (ih htail (n + 1)).2 ?_⟩
      rwa [closes_cons_of_ne (by decide) (by decide)] at h
    · by_cases hopen : c = '['
      · subst hopen
        refine ⟨fun hn => ?_, nofun⟩
        cases htag : isTag t with
        | true =>
          rw [escapeAfter, if_neg hslash, if_pos ⟨rfl, htag⟩, plainFrom_text_backslashes, Nat.zero_add,
            plainFrom_text_tag n _ (by rw [isTag_escapeAfter, htag]), (ih htail 0).2 (closes_of_isTag htag)]
          rfl
        | false =>
          have hzero : n = 0 := by
            by_contra hne
            rw [hn hne t rfl] at htag
            cases htag
          rw [hzero, escapeAfter, if_neg hslash, if_neg fun h => by simp [htag] at h, plainFrom_text_backslashes,
            plainFrom_text_bracket _ _ (by rw [isTag_escapeAfter, htag]), hrest]
      · rw [escapeAfter, if_neg hslash, if_neg fun h => hopen h.1]
        refine ⟨fun _ => ?_, fun h => ?_⟩
        · rw [plainFrom_text_backslashes, Nat.zero_add, plainFrom_text_cons _ _ hslash hopen, hrest]
        · rw [plainFrom_escapedTag_backslashes, plainFrom_escapedTag_cons]
          split
          · rw [hrest]
          · rename_i hclose
            rw [closes_cons_of_ne hopen hclose] at h
            rw [(ih htail 0).2 h]
            rfl

/-- The last code point of an escaped text is that of the text. -/
theorem getLast?_escapeAfter (n : Nat) (t : Text) : (escapeAfter n t).getLast? = t.getLast?.or (backslashes n).getLast? := by
  fun_induction escapeAfter n t with
  | case1 n => rfl
  | case2 n rest ih =>
    have hlast : (backslashes (n + 1)).getLast? = some '\\' := by rw [backslashes, List.getLast?_replicate, if_neg n.succ_ne_zero]
    rw [ih, hlast, List.getLast?_cons]
    cases rest.getLast? <;> rfl
  | case3 n c rest hslash htag ih =>
    rw [List.getLast?_append, List.getLast?_cons, List.getLast?_cons, ih]
    cases rest.getLast? <;> rfl
  | case4 n c rest hslash htag ih =>
    rw [List.getLast?_append, List.getLast?_cons, List.getLast?_cons, ih]
    cases rest.getLast? <;> rfl

theorem escape_eq {t : Text} (h : t.getLast? ≠ some '\\') : escape t = escapeAfter 0 t := by
  have hlast : (escapeAfter 0 t).reverse.head? ≠ some '\\' := by
    rw [List.head?_reverse, getLast?_escapeAfter]
    simpa [backslashes] using h
  unfold escape
  simp only
  split
  · rfl
  · rename_i hrev
    rw [hrev] at hlast
    exact absurd rfl hlast
  · rfl

/-- A text that escaping protects: no backslash stands right before a bracket that opens no tag or at the end. -/
structure Protected (t : Text) : Prop where
  bracket : ∀ a b, t = a ++ '\\' :: '[' :: b → isTag b = true
  last : t.getLast? ≠ some '\\'

/-- The plain text of an escaped text is the text. -/
theorem flatten_runs_escape {t : Text} (h : Protected t) : (runs (escape t)).flatten = t := by
  rw [escape_eq h.last]
  exact (plainFrom_escapeAfter h.bracket 0).1 fun hne => absurd rfl hne

/-! ## Symbols -/

section

variable [Host]

/-- A text without names that the host has a symbol for, between two colons. -/
def Symbolless (t : Text) : Prop :=
  ∀ word, (∀ c ∈ word, c ≠ ':' ∧ Text.isBlank c = false) → ':' :: (word ++ [':']) <:+: t → symbolOf? word = none

theorem Symbolless.of_part {s t : Text} (h : Symbolless t) (hpart : s <:+: t) : Symbolless s :=
  fun word hword hcode => h word hword (hcode.trans hpart)

omit [Host] in
/-- A word between colons is what stands there. -/
theorem eq_of_code? {t word : Text} (h : code? t = some word) :
    (∀ c ∈ word, c ≠ ':' ∧ Text.isBlank c = false) ∧ ∃ rest, t = word ++ ':' :: rest := by
  unfold code? at h
  simp only at h
  split at h
  · rename_i hcolon
    have hword := Option.some.inj h
    rw [hword] at hcolon
    obtain ⟨rest, hrest⟩ := List.head?_eq_some_iff.mp hcolon
    have hprefix : word <+: t := hword ▸ List.takeWhile_prefix _
    obtain ⟨after, hafter⟩ := hprefix
    refine ⟨?_, rest, ?_⟩
    · intro c hc
      rw [← hword] at hc
      simpa using List.mem_takeWhile_imp hc
    · rw [← hafter, List.drop_left] at hrest
      rw [← hafter, hrest]
  · cases h

/-- Where no word stands for a symbol, each stays with its colons. -/
theorem symbolsFrom_eq_drop {t : Text} (h : Symbolless t) (skip : Nat) : symbolsFrom skip t = t.drop skip := by
  induction t generalizing skip with
  | nil => cases skip <;> rfl
  | cons c t ih =>
    have ht : Symbolless t := h.of_part (List.infix_cons List.infix_rfl)
    cases skip with
    | succ skip => exact ih ht skip
    | zero =>
      rw [symbolsFrom, List.drop_zero, ih ht 0, List.drop_zero]
      split
      · rename_i hcolon
        split
        · rename_i word hword
          obtain ⟨hplain, rest, rfl⟩ := eq_of_code? hword
          have hnone : symbolOf? word = none := by
            refine h word hplain ⟨[], rest, ?_⟩
            rw [hcolon]
            simp
          have hbehind : (word ++ ':' :: rest).drop (word.length + 1) = rest := by
            rw [List.drop_append]
            simp
          rw [hnone, ih ht, hbehind, hcolon]
          simp
        · rfl
      · rfl

/-- A text that looks on the console as it stands: escaping protects it, no symbol takes the place of a part of it, and there are no tabs
and no control characters. -/
structure Literal (t : Text) : Prop extends Protected t where
  symbolless : Symbolless t
  visible : ∀ c ∈ t, isControl c = false ∧ c ≠ '\t'

omit [Host] in
/-- A text without backslashes is protected, whatever brackets it has. -/
theorem Protected.of_not_mem {t : Text} (h : '\\' ∉ t) : Protected t where
  bracket := by
    rintro a b rfl
    exact absurd (List.mem_append_right a List.mem_cons_self) h
  last := fun hlast => h (List.mem_of_getLast? hlast)

omit [Host] in
/-- Of a fixed text this is seen by going through it. -/
theorem visible_of_all {t : Text} (h : (t.all fun c => !isControl c && c != '\t') = true) : ∀ c ∈ t, isControl c = false ∧ c ≠ '\t' := by
  intro c hc
  simpa using List.all_eq_true.mp h c hc

omit [Host] in
theorem untabFrom_eq_self {column : Nat} {t : Text} (h : '\t' ∉ t) : untabFrom column t = t := by
  induction t generalizing column with
  | nil => rfl
  | cons c t ih =>
    rw [List.mem_cons, not_or] at h
    rw [untabFrom, if_neg (Ne.symm h.1), ih h.2]

/-- A literal text looks as it stands once its tags are escaped. -/
theorem Literal.laidOut_escape {t : Text} (h : Literal t) : laidOut (escape t) = t := by
  have hruns : (runs (escape t)).flatten = t := flatten_runs_escape h.toProtected
  have hsymbols : (runs (escape t)).flatMap withSymbols = t := by
    have heach : ∀ run ∈ runs (escape t), withSymbols run = run := by
      intro run hrun
      have hpart : run <:+: t := hruns ▸ List.infix_of_mem_flatten hrun
      exact symbolsFrom_eq_drop (h.symbolless.of_part hpart) 0
    rw [List.flatMap_congr heach, List.flatMap_id', hruns]
  have hvisible : t.filter (fun c => !isControl c) = t := by
    refine List.filter_eq_self.mpr fun c hc => ?_
    rw [(h.visible c hc).1, Bool.not_false]
  rw [laidOut, shown, hsymbols, hvisible, untabFrom_eq_self fun ht => (h.visible _ ht).2 rfl]

/-- A name between two colons that the host has a symbol for gives way to the symbol, although it stands in a cell. -/
theorem laidOut_of_symbol {symbol : Text} (h : Host.symbol? "link".toList = some symbol)
    (hvisible : ∀ c ∈ symbol, isControl c = false ∧ c ≠ '\t') :
    laidOut (escape "a:link:hover".toList) = 'a' :: (symbol ++ "hover".toList) := by
  have hruns : runs (escape "a:link:hover".toList) = ["a:link:hover".toList] := by decide
  have hlower : Unicode.lower "link".toList = "link".toList := by decide +kernel
  have hword : symbolOf? "link".toList = some symbol := by
    have hplain : symbolOf? "link".toList = Host.symbol? (Unicode.lower "link".toList) := rfl
    rw [hplain, hlower, h]
  have hsymbols : withSymbols "a:link:hover".toList = 'a' :: (symbol ++ "hover".toList) := by
    have hstep : withSymbols "a:link:hover".toList = 'a' :: ((symbolOf? "link".toList).getD ":link:".toList ++ "hover".toList) := rfl
    rw [hstep, hword]
    rfl
  have hall : ∀ c ∈ 'a' :: (symbol ++ "hover".toList), isControl c = false ∧ c ≠ '\t' := by
    rw [List.forall_mem_cons, List.forall_mem_append]
    exact ⟨by decide, hvisible, visible_of_all rfl⟩
  rw [laidOut, shown, hruns, List.flatMap_singleton, hsymbols, List.filter_eq_self.mpr fun c hc => by rw [(hall c hc).1]; rfl,
    untabFrom_eq_self fun ht => (hall _ ht).2 rfl]

end

end Markup

/-! ## Rows -/

namespace Console

/-- The row of a judged node. -/
def Row.ofJudged (j : Node × Classification) : Row := ⟨j.1.line, j.1.text, j.2⟩

/-- The rows of a report are its judged nodes, one rule after the other. -/
theorem rows_eq (r : Report) : rows r = (r.stylesheet.rules.flatMap r.profile.judged).map Row.ofJudged := by
  rw [rows, List.map_flatMap]
  refine List.flatMap_congr fun rule _ => ?_
  rw [Profile.judged, List.map_filterMap]
  simp only [Option.map_map]
  rfl

section

variable [Host]

/-- The short name of a classification looks as it stands, and its colour leaves nothing behind. -/
theorem laidOut_marked (c : Classification) : Markup.laidOut c.marked = c.label := by
  cases c <;> rfl

/-- The table of a report and its document show the same, in three parts.
1. Whenever the profile is that of the stylesheet and the nodes of the rules carry distinct numbers, the rows are the entries of the
   document, in order and one for one: with the same text, the same disposition, and the text to look for that the entry names, or nothing
   where it names none.
2. The table is given, row by row, the line of the node, its text, its disposition marked with a colour, and what is looked for. The two
   texts have their tags escaped.
3. On any host, the disposition looks as it stands, and so does every literal text whose tags are escaped. -/
theorem table_shows_entries :
    (∀ (force : ForceLists) (r : Report), r.stylesheet.DistinctIndices → r.profile = Profile.ofRules force r.stylesheet.rules →
      List.Forall₂
        (fun (row : Row) (entry : Json) =>
          entry.member? "selector".toList = some (.text row.selector) ∧
          entry.member? "disposition".toList = some (.text row.classification.label) ∧
          (entry.member? "test".toList = some (.text row.testText) ∨ entry.member? "test".toList = some .null ∧ row.testText = []))
        (rows r) (Document.entriesIn r.document.toJson)) ∧
    (∀ r : Report, (table r).rows = (rows r).map fun row =>
      [Text.ofNat row.line, Markup.escape row.selector, row.classification.marked, Markup.escape row.testText]) ∧
    (∀ c : Classification, Markup.laidOut c.marked = c.label) ∧ ∀ t, Markup.Literal t → Markup.laidOut (Markup.escape t) = t := by
  refine ⟨fun force r hd hp => ?_, fun r => rfl, laidOut_marked, fun t h => h.laidOut_escape⟩
  have hentries : r.document.entries = (r.stylesheet.rules.flatMap r.profile.judged).map DocumentEntry.ofJudged := by
    refine Document.entries_ofProfile fun rule hr => ?_
    rw [hp]
    exact Profile.judgesApart_ofRules hd force hr
  rw [rows_eq, Document.entriesIn_toJson, hentries, List.map_map, List.forall₂_map_left_iff, List.forall₂_map_right_iff,
    List.forall₂_same]
  intro j _
  refine ⟨(DocumentEntry.ofJudged j).member?_selector, (DocumentEntry.ofJudged j).member?_disposition, ?_⟩
  rw [Function.comp, DocumentEntry.member?_test, DocumentEntry.ofJudged, Row.testText, Row.ofJudged]
  cases j.2.tested? with
  | none => exact Or.inr ⟨rfl, rfl⟩
  | some t => exact Or.inl rfl

end

open Host.Plain

/-- The report on the stylesheet with a rule of each kind. -/
def fourRulesReport : Report := { stylesheet := FourRules.sheet, profile := Profile.ofRules FourRules.force FourRules.sheet.rules }

/-- In a stylesheet with a rule of each kind the table has three rows, and the document has an entry for each of them: the whole list of
the grid with the same text to look for, a selector with another one, and a selector that goes, with none. A selector that looks like a
tag is shown as it stands. -/
theorem table_of_fourRules :
    FourRules.sheet.DistinctIndices ∧
    (table fourRulesReport).rows =
      [["3".toList, ".a, .b".toList, "[cyan]test[/cyan]".toList, ".a, .b".toList],
        ["4".toList, "p::before".toList, "[cyan]test[/cyan]".toList, "p".toList],
        ["4".toList, "p".toList, "[red]drop[/red]".toList, []]] ∧
    (∃ list part gone, Document.entriesIn fourRulesReport.document.toJson = [list, part, gone] ∧
      list.member? "selector".toList = some (.text ".a, .b".toList) ∧ list.member? "disposition".toList = some (.text "test".toList) ∧
      part.member? "selector".toList = some (.text "p::before".toList) ∧ part.member? "disposition".toList = some (.text "test".toList) ∧
      gone.member? "selector".toList = some (.text "p".toList) ∧ gone.member? "disposition".toList = some (.text "drop".toList) ∧
      [list, part, gone].map (·.member? "test".toList) = [some (.text ".a, .b".toList), some (.text "p".toList), some .null]) ∧
    Markup.Literal "a[href]::after".toList ∧
    Markup.laidOut (Markup.escape "a[href]::after".toList) = "a[href]::after".toList := by
  have hd : FourRules.sheet.DistinctIndices := by decide
  have hrows : rows fourRulesReport =
      [⟨3, ".a, .b".toList, .test ".a, .b".toList⟩, ⟨4, "p::before".toList, .test "p".toList⟩, ⟨4, "p".toList, .drop⟩] := by decide
  obtain ⟨hentries, hcells, -, hliterals⟩ := table_shows_entries
  have hpaired := hentries FourRules.force fourRulesReport hd rfl
  rw [hrows] at hpaired
  obtain ⟨list, _, ⟨hlist, hlistShown, -⟩, hparts, hentries⟩ := List.forall₂_cons_left_iff.mp hpaired
  obtain ⟨part, _, ⟨hpart, hpartShown, -⟩, hlast, rfl⟩ := List.forall₂_cons_left_iff.mp hparts
  obtain ⟨gone, _, ⟨hgone, hgoneShown, -⟩, hnone, rfl⟩ := List.forall₂_cons_left_iff.mp hlast
  cases hnone
  have htests : (Document.entriesIn fourRulesReport.document.toJson).map (·.member? "test".toList) =
      [some (.text ".a, .b".toList), some (.text "p".toList), some .null] := rfl
  rw [hentries] at htests
  have hsymbolless : Markup.Symbolless "a[href]::after".toList := by
    intro word _ _
    unfold Markup.symbolOf?
    split <;> rfl
  have hliteral : Markup.Literal "a[href]::after".toList := ⟨.of_not_mem (by decide +kernel), hsymbolless, Markup.visible_of_all rfl⟩
  refine ⟨hd, ?_, ⟨list, part, gone, hentries, hlist, hlistShown, hpart, hpartShown, hgone, hgoneShown, htests⟩, hliteral, ?_⟩
  · rw [hcells, hrows]
    decide
  · exact hliterals _ hliteral

end Console

end CriticalCss

import CriticalCss.Document
import CriticalCss.Proofs.Spelling

/-!
# Values read back from either layout

The two layouts differ in the gaps between the parts of a value (`Gaps.oneLine`, `Gaps.indented`). A value without floating-point numbers
whose objects name no key twice is read back from both (`Exact.spells_compact`, `Exact.spells_prettyAt`), and the JSON of a document is
such a value (`document_read_back`).
-/

namespace CriticalCss

namespace Json

variable {allowed : Char → Prop}

/-! ## The two layouts -/

/-- Without floating-point numbers, and no key twice in an object: such a value is read back as it was written. -/
inductive Exact : Json → Prop
  | null : Exact .null
  | bool (b : Bool) : Exact (.bool b)
  | int (n : Int) : Exact (.int n)
  | text (t : Text) : Exact (.text t)
  | list {items : List Json} (hitems : ∀ item ∈ items, Exact item) : Exact (.list items)
  | object {members : List (Text × Json)} (hkeys : (Ledger.keys members).Nodup) (hvalues : ∀ m ∈ members, Exact m.2) :
    Exact (.object members)

section

/-- A break with its indentation is a gap. -/
theorem blank_newLine (level : Nat) : Blank (newLine level) := by
  intro c hc
  unfold newLine at hc
  rcases List.mem_cons.mp hc with rfl | hc
  · rfl
  · rw [List.eq_of_mem_replicate hc]
    rfl

variable (hprintable : ∀ c, Printable c → allowed c)

/-- On one line a blank stands behind each comma. -/
def Gaps.oneLine : Gaps allowed where
  before := []
  between := [' ']
  after := []
  blank := blank_blank
  chars := by
    intro c hc
    rw [List.mem_singleton.mp hc]
    exact hprintable ' ' (by decide)

/-- Indented, each part begins a line, and so does the closing bracket. -/
def Gaps.indented (hline : allowed '\n') (level : Nat) : Gaps allowed where
  before := newLine (level + 1)
  between := newLine (level + 1)
  after := newLine level
  blank := List.forall_mem_append.mpr
    ⟨List.forall_mem_append.mpr ⟨blank_newLine (level + 1), blank_newLine (level + 1)⟩, blank_newLine level⟩
  chars := by
    have hnewLine : ∀ level, ∀ c ∈ newLine level, allowed c := by
      intro level c hc
      rcases List.mem_cons.mp hc with rfl | hc
      · exact hline
      · rw [List.eq_of_mem_replicate hc]
        exact hprintable ' ' (by decide)
    exact List.forall_mem_append.mpr
      ⟨List.forall_mem_append.mpr ⟨hnewLine (level + 1), hnewLine (level + 1)⟩, hnewLine level⟩

include hprintable

/-- On one line a list is its parts with the gaps of this layout. -/
theorem compact_list (items : List Json) : compact (.list items) = (Gaps.oneLine hprintable).enclosed '[' ']' (items.map compact) := by
  have hitems : compactItems items = (Gaps.oneLine hprintable).joined (items.map compact) :=
    Gaps.eq_joined _ compactItems rfl (fun _ => rfl) (fun _ _ _ => rfl) items
  rw [Gaps.enclosed, ← hitems]
  rfl

/-- On one line an object is its members with these gaps. -/
theorem compact_object (members : List (Text × Json)) :
    compact (.object members) = (Gaps.oneLine hprintable).enclosed '{' '}' (members.map (memberText compact)) := by
  have hmembers : compactMembers members = (Gaps.oneLine hprintable).joined (members.map (memberText compact)) := by
    refine Gaps.eq_joined _ compactMembers rfl (fun _ => rfl) (fun m next rest => ?_) members
    simp only [compactMembers, List.append_assoc, List.cons_append]
    rfl
  rw [Gaps.enclosed, ← hmembers]
  rfl

variable (hline : allowed '\n') (level : Nat)

/-- A list that is indented is its parts with the gaps of this layout; an empty one is written on one line. -/
theorem prettyAt_list (item : Json) (items : List Json) :
    prettyAt level (.list (item :: items)) =
      (Gaps.indented hprintable hline level).enclosed '[' ']' ((item :: items).map (prettyAt (level + 1))) := by
  have hitems : prettyItems (level + 1) (item :: items) =
      (Gaps.indented hprintable hline level).joined ((item :: items).map (prettyAt (level + 1))) :=
    Gaps.eq_joined _ (prettyItems (level + 1)) rfl (fun _ => rfl) (fun _ _ _ => rfl) _
  rw [Gaps.enclosed, ← hitems, ← List.append_assoc, ← List.append_assoc]
  rfl

/-- An object that is indented is its members with the gaps of this layout; an empty one is written on one line. -/
theorem prettyAt_object (m : Text × Json) (members : List (Text × Json)) :
    prettyAt level (.object (m :: members)) =
      (Gaps.indented hprintable hline level).enclosed '{' '}' ((m :: members).map (memberText (prettyAt (level + 1)))) := by
  have hmembers : prettyMembers (level + 1) (m :: members) =
      (Gaps.indented hprintable hline level).joined ((m :: members).map (memberText (prettyAt (level + 1)))) := by
    refine Gaps.eq_joined _ (prettyMembers (level + 1)) rfl (fun _ => rfl) (fun m next rest => ?_) _
    simp only [prettyMembers, List.append_assoc, List.cons_append]
    rfl
  rw [Gaps.enclosed, ← hmembers, ← List.append_assoc, ← List.append_assoc]
  rfl

omit hline level

/-- On one line a value is spelled, by induction on it: each part is. -/
theorem Exact.spells_compact {j : Json} (h : Exact j) : Spells allowed j (compact j) := by
  induction h with
  | null => exact spells_null hprintable
  | bool b => exact spells_bool hprintable b
  | int n => exact spells_int hprintable n
  | text t => exact spells_text hprintable t
  | @list items _ ih =>
    by_cases hne : items = []
    · subst hne
      exact spells_emptyList hprintable
    · rw [compact_list hprintable]
      exact Spells.list (Gaps.oneLine hprintable) ih hne hprintable
  | @object members hkeys _ ih =>
    by_cases hne : members = []
    · subst hne
      exact spells_emptyObject hprintable
    · rw [compact_object hprintable]
      exact Spells.object (Gaps.oneLine hprintable) ih hne hkeys hprintable

/-- Indented it is spelled as well. The level is general, because the parts are one level deeper. -/
theorem Exact.spells_prettyAt (hline : allowed '\n') {j : Json} (h : Exact j) (level : Nat) : Spells allowed j (prettyAt level j) := by
  induction h generalizing level with
  | null => exact spells_null hprintable
  | bool b => exact spells_bool hprintable b
  | int n => exact spells_int hprintable n
  | text t => exact spells_text hprintable t
  | @list items _ ih =>
    cases items with
    | nil => exact spells_emptyList hprintable
    | cons item items =>
      rw [prettyAt_list hprintable hline]
      exact Spells.list _ (fun i hi => ih i hi (level + 1)) (List.cons_ne_nil item items) hprintable
  | @object members hkeys _ ih =>
    cases members with
    | nil => exact spells_emptyObject hprintable
    | cons m members =>
      rw [prettyAt_object hprintable hline]
      exact Spells.object _ (fun i hi => ih i hi (level + 1)) (List.cons_ne_nil m members) hkeys hprintable

end

end Json

/-! ## Documents -/

namespace Json

theorem exact_ofText? (t : Option Text) : Exact (ofText? t) := by
  cases t with
  | none => exact .null
  | some t => exact .text t

end Json

theorem DocumentEntry.exact_toJson (e : DocumentEntry) : e.toJson.Exact := by
  have hkeys : ["index".toList, "selector".toList, "disposition".toList, "test".toList].Nodup := by decide
  refine .object hkeys ?_
  simp only [List.forall_mem_cons]
  exact ⟨.int _, .text _, .text _, Json.exact_ofText? e.classification.tested?, by simp⟩

theorem DocumentRule.exact_toJson (r : DocumentRule) : r.toJson.Exact := by
  have hkeys : ["line".toList, "at_rule".toList, "selectors".toList].Nodup := by decide
  have hentries : Json.Exact (.list (r.entries.map (·.toJson))) :=
    .list (List.forall_mem_map.mpr fun e _ => e.exact_toJson)
  refine .object hkeys ?_
  simp only [List.forall_mem_cons]
  exact ⟨.int _, Json.exact_ofText? r.atRule, hentries, by simp⟩

/-- The JSON of a document has the texts and counts of its profile, under keys that differ. -/
theorem Document.exact_toJson (d : Document) : d.toJson.Exact := by
  have hsummaryKeys : ["selectors".toList, "testable".toList, "force_kept".toList, "force_dropped".toList,
      "skipped_rules".toList].Nodup := by decide
  have hkeys : ["path".toList, "testable_selectors".toList, "rules".toList, "summary".toList].Nodup := by decide
  have htestable : Json.Exact (.list (d.testable.map .text)) := .list (List.forall_mem_map.mpr fun t _ => .text t)
  have hrules : Json.Exact (.list (d.rules.map (·.toJson))) := .list (List.forall_mem_map.mpr fun r _ => r.exact_toJson)
  refine .object hkeys ?_
  simp only [List.forall_mem_cons]
  refine ⟨Json.exact_ofText? d.path, htestable, hrules, .object hsummaryKeys ?_, by simp⟩
  simp only [List.forall_mem_cons]
  exact ⟨.int _, .int _, .int _, .int _, .int _, by simp⟩

/-- The indented text of a document is read as its value, and is printable ASCII with line breaks. -/
theorem Document.spells_pretty (d : Document) : Json.Spells (fun c => Json.Printable c ∨ c = '\n') d.toJson d.toJson.pretty :=
  d.exact_toJson.spells_prettyAt (fun _ h => .inl h) (.inr rfl) 0

/-- The document of any profile, whatever its texts hold, is printable ASCII on one line, and indented it is the same with line breaks
between its parts. Read back from either, it is the same value, its members and items in the same order. -/
theorem document_read_back (s : Stylesheet) (p : Profile) :
    let document := (Document.ofProfile s p).toJson
    (∀ c ∈ document.compact, Json.Printable c) ∧ (∀ c ∈ document.pretty, Json.Printable c ∨ c = '\n') ∧
      Json.read document.compact = some document ∧ Json.read document.pretty = some document := by
  intro document
  have hexact : document.Exact := Document.exact_toJson (Document.ofProfile s p)
  have hcompact : Json.Spells Json.Printable document document.compact := hexact.spells_compact fun _ h => h
  have hpretty : Json.Spells (fun c => Json.Printable c ∨ c = '\n') document document.pretty := (Document.ofProfile s p).spells_pretty
  exact ⟨hcompact.chars, hpretty.chars, hcompact.read_eq, hpretty.read_eq⟩

end CriticalCss

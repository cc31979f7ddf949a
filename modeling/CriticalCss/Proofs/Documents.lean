import Mathlib.Data.Char
import Mathlib.Data.List.Dedup
import Mathlib.Data.List.Lex
import CriticalCss.Document
import CriticalCss.Proofs.Judging

/-!
# Documents read back

A document is made from the rules and from what the profile says of their nodes, not from the profile alone. A profile of rules with
distinct numbers never judges the list of a rule together with one of its selectors (`judgesApart_ofRules`), so the entries of a document
are the judged nodes one after the other (`entries_ofProfile`), and these are all that was recorded (`map_judged_ofRules`). Read back from
its JSON, a document tells the classifications of the profile and nothing else, and its summary counts its own entries
(`document_tells_profile`).
-/

namespace CriticalCss

/-! ## The order of texts -/

namespace Text

/-- Texts are ordered by their first difference, a text before its own continuations. -/
theorem precedes_iff_lt (s t : Text) : precedes s t = true ↔ s < t := by
  induction s generalizing t with
  | nil => cases t <;> simp [precedes]
  | cons c s ih =>
    cases t with
    | nil => simp [precedes]
    | cons d t =>
      rw [precedes, List.cons_lt_cons_iff, ← ih t]
      by_cases hcd : c < d
      · have hnat : c.toNat < d.toNat := hcd
        simp [hcd, hnat]
      · have hnat : ¬c.toNat < d.toNat := hcd
        by_cases heq : c = d <;> simp [hcd, hnat, heq]

/-- Sorting distinct texts brings them into strictly increasing order. -/
theorem pairwise_lt_mergeSort {texts : List Text} (h : texts.Nodup) :
    (texts.mergeSort fun a b => !precedes b a).Pairwise (· < ·) := by
  have hle : ∀ a b : Text, (!precedes b a) = true ↔ a ≤ b := by
    intro a b
    rw [Bool.not_eq_true', ← Bool.not_eq_true, precedes_iff_lt, not_lt]
  have hsorted : (texts.mergeSort fun a b => !precedes b a).Pairwise fun a b => (!precedes b a) = true := by
    refine List.pairwise_mergeSort (fun a b c hab hbc => ?_) (fun a b => ?_) texts
    · exact (hle a c).mpr (le_trans ((hle a b).mp hab) ((hle b c).mp hbc))
    · rw [Bool.or_eq_true, hle, hle]
      exact le_total a b
  have hnodup : (texts.mergeSort fun a b => !precedes b a).Nodup := (List.mergeSort_perm texts _).nodup_iff.mpr h
  exact hsorted.imp₂ (fun a b hab hne => lt_of_le_of_ne ((hle a b).mp hab) hne) hnodup

end Text

/-! ## Judged nodes -/

namespace Profile

/-- The nodes of a rule that have a classification, with this classification. -/
def judged (p : Profile) (r : Rule) : List (Node × Classification) :=
  r.nodes.filterMap fun n => (p.classification? n.index).map (n, ·)

/-- A rule is judged by its list or by its selectors, but not by both. -/
def JudgesApart (p : Profile) (r : Rule) : Prop :=
  ∀ l, r.list = some l → p.classification? l.index ≠ none → ∀ n ∈ r.selectors, p.classification? n.index = none

variable [Host] {rules : List Rule} (hd : ((rules.flatMap Rule.nodes).map (·.index)).Nodup) (force : ForceLists)

include hd

/-- A profile of rules with distinct numbers judges each of them by its list or by its selectors. -/
theorem judgesApart_ofRules {r : Rule} (hr : r ∈ rules) : (ofRules force rules).JudgesApart r := by
  intro l hl hne
  rcases r.isSkipped_or_list with hs | ⟨_, hk, -⟩
  · exact absurd (classification?_skipped hd force hr hs (Rule.nodes_of_list hl ▸ List.mem_cons_self)) hne
  · cases hg : r.declares gridArea with
    | true => exact (classification?_whole hd force hr hk hl hg).2
    | false => exact absurd (classification?_parts hd force hr hk hl hg).2 hne

/-- With distinct numbers the judged nodes of all rules, one rule after the other, are what the profile holds. -/
theorem map_judged_ofRules :
    (rules.flatMap (ofRules force rules).judged).map (fun j => (j.1.index, j.2)) = (ofRules force rules).classifications := by
  have hkeys := keys_verdicts_sublist force rules
  rw [← classifications_ofRules hd] at hkeys
  calc (rules.flatMap (ofRules force rules).judged).map (fun j => (j.1.index, j.2))
      = (rules.flatMap Rule.nodes).filterMap fun n => ((ofRules force rules).classification? n.index).map (n.index, ·) := by
        rw [List.filterMap_flatMap, List.map_flatMap]
        simp only [judged, List.map_filterMap, Option.map_map]
        rfl
    _ = ((rules.flatMap Rule.nodes).map (·.index)).filterMap fun i => ((ofRules force rules).classifications.find? i).map (i, ·) := by
        rw [List.filterMap_map]
        rfl
    _ = (ofRules force rules).classifications := Ledger.filterMap_find? hkeys hd

end Profile

/-! ## Entries -/

/-- The entry of a judged node. -/
def DocumentEntry.ofJudged (j : Node × Classification) : DocumentEntry := ⟨j.1.index, j.1.text, j.2⟩

/-- Where a rule is judged by its list or by its selectors, its entries are those of all its judged nodes. -/
theorem DocumentRule.entriesOf_eq {p : Profile} {r : Rule} (h : p.JudgesApart r) :
    entriesOf p r = (p.judged r).map DocumentEntry.ofJudged := by
  have hmap : ∀ nodes : List Node, (nodes.filterMap fun n => (p.classification? n.index).map (n, ·)).map DocumentEntry.ofJudged =
      nodes.filterMap (DocumentEntry.ofNode? p) := by
    intro nodes
    rw [List.map_filterMap]
    simp only [Option.map_map]
    rfl
  rw [Profile.judged, hmap, entriesOf, Rule.nodes, List.filterMap_append]
  cases hl : r.list with
  | none => rfl
  | some l =>
    cases hc : p.classification? l.index with
    | none => simp [DocumentEntry.ofNode?, hc]
    | some c =>
      have hnone : r.selectors.filterMap (DocumentEntry.ofNode? p) = [] := by
        refine List.filterMap_eq_nil_iff.mpr fun n hn => ?_
        rw [DocumentEntry.ofNode?, h l hl (by simp [hc]) n hn, Option.map_none]
      simp [DocumentEntry.ofNode?, hc, hnone]

namespace Document

/-- The entries of a document, one rule after the other. -/
def entries (d : Document) : List DocumentEntry := d.rules.flatMap (·.entries)

/-- Leaving out the rules without an entry leaves out no entry. -/
theorem entries_ofProfile {s : Stylesheet} {p : Profile} (h : ∀ r ∈ s.rules, p.JudgesApart r) :
    (ofProfile s p).entries = (s.rules.flatMap p.judged).map DocumentEntry.ofJudged := by
  have hfilter : ∀ rules : List DocumentRule,
      (rules.filter fun r => !r.entries.isEmpty).flatMap (·.entries) = rules.flatMap (·.entries) := by
    intro rules
    induction rules with
    | nil => rfl
    | cons r rules ih =>
      cases he : r.entries with
      | nil => simp [he, ih]
      | cons e es => simp [he, ih]
  rw [entries, ofProfile, hfilter, List.flatMap_map, List.map_flatMap]
  exact List.flatMap_congr fun r hr => DocumentRule.entriesOf_eq (h r hr)

end Document

/-! ## Reading the JSON of a document -/

namespace Json

/-- The items of the list under a key; none if there is no list. -/
def itemsAt (key : Text) (j : Json) : List Json :=
  match j.member? key with
  | some (.list items) => items
  | _ => []

/-- The text under a key. -/
def textAt? (key : Text) (j : Json) : Option Text :=
  match j.member? key with
  | some (.text t) => some t
  | _ => none

end Json

/-- The classification with a label, if there is a text to look for where there has to be one. -/
def Classification.ofLabel? (label : Text) (test : Option Text) : Option Classification :=
  if label = "keep".toList then some .keep
  else if label = "drop".toList then some .drop
  else if label = "test".toList then test.map .test
  else none

theorem Classification.tested?_eq_some_iff {c : Classification} {t : Text} : c.tested? = some t ↔ c = .test t := by
  cases c <;> simp [tested?]

theorem Classification.ofLabel?_label (c : Classification) : ofLabel? c.label c.tested? = some c := by
  cases c <;> rfl

namespace DocumentEntry

/-- The number and the classification that the JSON of an entry tells. -/
def told? (entry : Json) : Option (Nat × Classification) :=
  match entry.member? "index".toList, entry.textAt? "disposition".toList with
  | some (.int (.ofNat i)), some label => (Classification.ofLabel? label (entry.textAt? "test".toList)).map (i, ·)
  | _, _ => none

theorem member?_selector (e : DocumentEntry) : e.toJson.member? "selector".toList = some (.text e.selector) := rfl

theorem member?_disposition (e : DocumentEntry) :
    e.toJson.member? "disposition".toList = some (.text e.classification.label) := rfl

theorem member?_test (e : DocumentEntry) : e.toJson.member? "test".toList = some (Json.ofText? e.classification.tested?) := by
  obtain ⟨index, selector, c⟩ := e
  cases c <;> rfl

theorem textAt?_test (e : DocumentEntry) : e.toJson.textAt? "test".toList = e.classification.tested? := by
  rw [Json.textAt?, member?_test]
  cases e.classification.tested? <;> rfl

theorem textAt?_disposition (e : DocumentEntry) : e.toJson.textAt? "disposition".toList = some e.classification.label := by
  rw [Json.textAt?, member?_disposition]

/-- An entry names no text to look for exactly if it keeps or drops its node. -/
theorem member?_test_eq_null_iff (e : DocumentEntry) :
    e.toJson.member? "test".toList = some .null ↔
      e.toJson.textAt? "disposition".toList = some "keep".toList ∨ e.toJson.textAt? "disposition".toList = some "drop".toList := by
  rw [member?_test, textAt?_disposition]
  cases e.classification with
  | keep => simp [Classification.label, Classification.tested?, Json.ofText?]
  | drop => simp [Classification.label, Classification.tested?, Json.ofText?]
  | test t => simp [Classification.label, Classification.tested?, Json.ofText?]

/-- What is written of an entry can be read back. -/
theorem told?_toJson (e : DocumentEntry) : told? e.toJson = some (e.index, e.classification) := by
  have hindex : e.toJson.member? "index".toList = some (.int (.ofNat e.index)) := rfl
  rw [told?, hindex, textAt?_disposition, textAt?_test]
  simp only [Classification.ofLabel?_label, Option.map_some]

end DocumentEntry

namespace Document

/-- The entries in the JSON of a document, rule by rule. -/
def entriesIn (document : Json) : List Json := (document.itemsAt "rules".toList).flatMap (·.itemsAt "selectors".toList)

/-- The texts to look for that the entries of a document name. -/
def testsIn (document : Json) : List Text := (entriesIn document).filterMap (·.textAt? "test".toList)

theorem entriesIn_toJson (d : Document) : entriesIn d.toJson = d.entries.map (·.toJson) := by
  have hrules : d.toJson.itemsAt "rules".toList = d.rules.map (·.toJson) := rfl
  rw [entriesIn, hrules, List.flatMap_map, entries, List.map_flatMap]
  rfl

theorem testsIn_toJson (d : Document) : testsIn d.toJson = d.entries.filterMap (·.classification.tested?) := by
  rw [testsIn, entriesIn_toJson, List.filterMap_map]
  exact List.filterMap_congr fun e _ => e.textAt?_test

/-- The entries of a disposition are those whose classification has its name. -/
theorem countP_entriesIn (d : Document) (label : Text) :
    (entriesIn d.toJson).countP (fun e => e.textAt? "disposition".toList == some label) =
      d.entries.countP (·.classification.label == label) := by
  rw [entriesIn_toJson, List.countP_map]
  refine List.countP_congr fun e _ => ?_
  rw [Function.comp, DocumentEntry.textAt?_disposition, Option.some_beq_some]

end Document

/-! ## Documents of built profiles -/

theorem Classification.label_beq_label {c : Classification} (h : c.tested? = none) (d : Classification) :
    (d.label == c.label) = (d == c) := by
  cases c with
  | keep => cases d <;> rfl
  | drop => cases d <;> rfl
  | test t => cases h

namespace Profile

theorem nodup_selectors_ofRules [Host] (force : ForceLists) (rules : List Rule) : (ofRules force rules).selectors.Nodup := by
  rw [ofRules, foldl_addRule]
  exact nodup_selectors_recordAll {} List.nodup_nil _

theorem length_indicesOf (c : Classification) (p : Profile) : (p.indicesOf c).length = p.classifications.countP (·.2 == c) := by
  rw [indicesOf, List.length_map, List.countP_eq_length_filter]

end Profile

namespace Document

/-- The document of a stylesheet and its profile, as JSON. -/
def written [Host] (force : ForceLists) (s : Stylesheet) : Json := (ofProfile s (Profile.ofRules force s.rules)).toJson

/-- The testable selectors stand in increasing order, each once. -/
theorem testable_ordered [Host] (force : ForceLists) (s : Stylesheet) :
    (ofProfile s (Profile.ofRules force s.rules)).testable.Pairwise (· < ·) :=
  Text.pairwise_lt_mergeSort (Profile.nodup_selectors_ofRules force s.rules)

theorem testable_perm (s : Stylesheet) (p : Profile) : (ofProfile s p).testable.Perm p.selectors := List.mergeSort_perm _ _

variable [Host] {s : Stylesheet} (hd : s.DistinctIndices) (force : ForceLists)

include hd

/-- The entries of a document are the classifications of its profile. -/
theorem map_entries_ofProfile :
    (ofProfile s (Profile.ofRules force s.rules)).entries.map (fun e => (e.index, e.classification)) =
      (Profile.ofRules force s.rules).classifications := by
  rw [entries_ofProfile fun r hr => Profile.judgesApart_ofRules hd force hr, List.map_map, ← Profile.map_judged_ofRules hd force]
  rfl

/-- As many entries keep, or drop, as the profile has nodes that it keeps, or drops. -/
theorem length_indicesOf_eq {c : Classification} (hc : c.tested? = none) :
    ((Profile.ofRules force s.rules).indicesOf c).length =
      (entriesIn (written force s)).countP (fun e => e.textAt? "disposition".toList == some c.label) := by
  rw [Profile.length_indicesOf, ← map_entries_ofProfile hd force, List.countP_map, written, countP_entriesIn]
  exact List.countP_congr fun e _ => by rw [Classification.label_beq_label hc]; rfl

/-- The texts that the entries name are those that the profile looks for. -/
theorem mem_testsIn_iff (t : Text) : t ∈ testsIn (written force s) ↔ t ∈ (Profile.ofRules force s.rules).selectors := by
  rw [written, testsIn_toJson, Profile.mem_selectors_ofRules, ← Profile.classifications_ofRules hd, ← map_entries_ofProfile hd force]
  simp only [List.mem_filterMap, List.mem_map, Prod.mk.injEq]
  constructor
  · rintro ⟨e, he, ht⟩
    exact ⟨e.index, e, he, rfl, Classification.tested?_eq_some_iff.mp ht⟩
  · rintro ⟨i, e, he, -, hc⟩
    exact ⟨e, he, Classification.tested?_eq_some_iff.mpr hc⟩

/-- The testable selectors are the texts that the entries name. -/
theorem mem_testable_iff (t : Text) :
    t ∈ (ofProfile s (Profile.ofRules force s.rules)).testable ↔ t ∈ testsIn (written force s) :=
  (testable_perm s _).mem_iff.trans (mem_testsIn_iff hd force t).symm

theorem length_testable :
    (ofProfile s (Profile.ofRules force s.rules)).testable.length = (testsIn (written force s)).dedup.length := by
  have hnodup := (testable_perm s _).nodup_iff.mpr (Profile.nodup_selectors_ofRules force s.rules)
  refine ((List.perm_ext_iff_of_nodup hnodup (List.nodup_dedup _)).mpr fun t => ?_).length_eq
  rw [List.mem_dedup, mem_testable_iff hd force]

end Document

open Document in
/-- What the document of a stylesheet says when the nodes of its rules carry distinct numbers, in four parts.
1. Its entries, one rule after the other, tell the classifications of the profile in their order, each number once.
2. An entry names no text to look for exactly if it keeps or drops its node.
3. The testable selectors are the texts that the entries name, each once and in increasing order.
4. The summary counts the entries, the different texts that they name, those that keep and those that drop. -/
theorem document_tells_profile [Host] (force : ForceLists) (s : Stylesheet) (hd : s.DistinctIndices) :
    ((entriesIn (written force s)).map DocumentEntry.told? = (Profile.ofRules force s.rules).classifications.map some ∧
      (Profile.ofRules force s.rules).classifications.keys.Nodup) ∧
    (∀ e ∈ entriesIn (written force s), e.member? "test".toList = some .null ↔
      e.textAt? "disposition".toList = some "keep".toList ∨ e.textAt? "disposition".toList = some "drop".toList) ∧
    (∃ texts : List Text, (written force s).member? "testable_selectors".toList = some (.list (texts.map .text)) ∧
      texts.Pairwise (· < ·) ∧ ∀ t, t ∈ texts ↔ t ∈ testsIn (written force s)) ∧
    ∃ summary, (written force s).member? "summary".toList = some summary ∧
      summary.member? "selectors".toList = some (.int (entriesIn (written force s)).length) ∧
      summary.member? "testable".toList = some (.int (testsIn (written force s)).dedup.length) ∧
      summary.member? "force_kept".toList =
        some (.int ((entriesIn (written force s)).countP fun e => e.textAt? "disposition".toList == some "keep".toList)) ∧
      summary.member? "force_dropped".toList =
        some (.int ((entriesIn (written force s)).countP fun e => e.textAt? "disposition".toList == some "drop".toList)) := by
  refine ⟨⟨?_, Profile.nodup_keys_ofRules hd force⟩, ?_, ⟨_, rfl, testable_ordered force s, mem_testable_iff hd force⟩, _, rfl,
    ?_, ?_, ?_, ?_⟩
  · rw [← map_entries_ofProfile hd force, written, entriesIn_toJson, List.map_map, List.map_map]
    exact List.map_congr_left fun e _ => e.told?_toJson
  · intro e he
    rw [written, entriesIn_toJson] at he
    obtain ⟨e, -, rfl⟩ := List.mem_map.mp he
    exact e.member?_test_eq_null_iff
  · rw [written, entriesIn_toJson, List.length_map]
    rfl
  · rw [← length_testable hd force]
    rfl
  · have hkept : (Profile.ofRules force s.rules).forceKept.length =
        (entriesIn (written force s)).countP fun e => e.textAt? "disposition".toList == some "keep".toList :=
      length_indicesOf_eq hd force (c := .keep) rfl
    rw [← hkept]
    rfl
  · have hdropped : (Profile.ofRules force s.rules).forceDropped.length =
        (entriesIn (written force s)).countP fun e => e.textAt? "disposition".toList == some "drop".toList :=
      length_indicesOf_eq hd force (c := .drop) rfl
    rw [← hdropped]
    rfl

open Host.Plain in
open Document in
/-- In a stylesheet with a rule of each kind the document has an entry for the list of the grid and one for each selector of the plain
rule. -/
theorem document_of_fourRules :
    FourRules.sheet.DistinctIndices ∧
    (entriesIn (written FourRules.force FourRules.sheet)).map DocumentEntry.told? =
      [some (2, .test ".a, .b".toList), some (6, .test ['p']), some (7, .drop)] ∧
    (∃ texts : List Text,
      (written FourRules.force FourRules.sheet).member? "testable_selectors".toList = some (.list (texts.map .text)) ∧
      texts.Pairwise (· < ·) ∧ ['p'] ∈ texts) ∧
    ∃ summary, (written FourRules.force FourRules.sheet).member? "summary".toList = some summary ∧
      summary.member? "selectors".toList = some (.int 3) ∧ summary.member? "force_dropped".toList = some (.int 1) := by
  have hd : FourRules.sheet.DistinctIndices := by decide
  obtain ⟨⟨htold, -⟩, -, ⟨texts, htexts, hsorted, hmem⟩, summary, hsummary, hselectors, -, -, hdropped⟩ :=
    document_tells_profile FourRules.force FourRules.sheet hd
  refine ⟨hd, ?_, ⟨texts, htexts, hsorted, (hmem ['p']).mpr (by decide)⟩, summary, hsummary, ?_, ?_⟩
  · rw [htold]
    decide
  · rw [hselectors]
    rfl
  · rw [hdropped]
    rfl

end CriticalCss

import CriticalCss.Profile
import CriticalCss.Proofs.Ledger

/-!
# Recording

What a run of recordings leaves in a profile. The classifications are a ledger that is written once for each recording
(`classifications_recordAll`); the texts to look for only grow, so they are all texts that were ever recorded
(`mem_selectors_recordAll`), while a classification that is recorded again is replaced. The numbers that always stay, those that always
go and those with a text to look for are all numbers with a classification, each in one of the three lists (`indices_perm`).
-/

namespace CriticalCss

namespace Profile

/-! ## Runs of recordings -/

/-- Recording several classifications writes them into the ledger, one after the other. -/
theorem classifications_recordAll (p : Profile) (calls : List (Nat × Classification)) :
    (p.recordAll calls).classifications = Ledger.putAll p.classifications calls := by
  induction calls generalizing p with
  | nil => rfl
  | cons c calls ih => exact ih (p.record c.1 c.2)

/-- Recording does not skip rules. -/
theorem recordAll_skipped (p : Profile) (n : Nat) (calls : List (Nat × Classification)) :
    recordAll { p with skippedRules := n } calls = { p.recordAll calls with skippedRules := n } := by
  induction calls generalizing p with
  | nil => rfl
  | cons c calls ih => exact ih (p.record c.1 c.2)

theorem skippedRules_recordAll (p : Profile) (calls : List (Nat × Classification)) :
    (p.recordAll calls).skippedRules = p.skippedRules := by
  induction calls generalizing p with
  | nil => rfl
  | cons c calls ih => exact ih (p.record c.1 c.2)

theorem recordAll_append (p : Profile) (calls more : List (Nat × Classification)) :
    p.recordAll (calls ++ more) = (p.recordAll calls).recordAll more := by
  rw [recordAll, List.foldl_append]
  rfl

/-- A recording adds the text to look for, if there is one. -/
theorem mem_selectors_record (p : Profile) (i : Nat) (c : Classification) (t : Text) :
    t ∈ (p.record i c).selectors ↔ t ∈ p.selectors ∨ c = .test t := by
  cases c with
  | keep => simp [record, Classification.tested?]
  | drop => simp [record, Classification.tested?]
  | test u =>
    by_cases hu : u ∈ p.selectors
    · simp only [record, Classification.tested?, List.elem_eq_mem, hu, decide_true, if_true, Classification.test.injEq]
      exact ⟨Or.inl, fun h => h.elim id fun e => e ▸ hu⟩
    · simp [record, Classification.tested?, hu, eq_comm]

/-- The texts to look for are those from before and all that are recorded. -/
theorem mem_selectors_recordAll (p : Profile) (calls : List (Nat × Classification)) (t : Text) :
    t ∈ (p.recordAll calls).selectors ↔ t ∈ p.selectors ∨ ∃ i, (i, .test t) ∈ calls := by
  induction calls generalizing p with
  | nil => simp [recordAll]
  | cons c calls ih =>
    obtain ⟨j, c⟩ := c
    have hstep : (p.recordAll ((j, c) :: calls)) = (p.record j c).recordAll calls := rfl
    rw [hstep, ih, mem_selectors_record, or_assoc]
    simp only [List.mem_cons, Prod.mk.injEq]
    constructor
    · rintro (h | rfl | ⟨i, hi⟩)
      · exact Or.inl h
      · exact Or.inr ⟨j, Or.inl ⟨rfl, rfl⟩⟩
      · exact Or.inr ⟨i, Or.inr hi⟩
    · rintro (h | ⟨i, ⟨-, rfl⟩ | hi⟩)
      · exact Or.inl h
      · exact Or.inr (Or.inl rfl)
      · exact Or.inr (Or.inr ⟨i, hi⟩)

/-- No text to look for is listed twice. -/
theorem nodup_selectors_recordAll (p : Profile) (h : p.selectors.Nodup) (calls : List (Nat × Classification)) :
    (p.recordAll calls).selectors.Nodup := by
  induction calls generalizing p with
  | nil => exact h
  | cons c calls ih =>
    refine ih (p.record c.1 c.2) ?_
    unfold record
    cases c.2.tested? with
    | none => exact h
    | some t =>
      by_cases ht : t ∈ p.selectors
      · simpa [ht] using h
      · have hnew : (p.selectors ++ [t]).Nodup := by
          rw [List.nodup_append]
          exact ⟨h, List.nodup_singleton t, fun u hu v hv e => ht (List.mem_singleton.mp hv ▸ e ▸ hu)⟩
        simpa [ht] using hnew

/-! ## Runs from the empty profile -/

/-- The classification of a number is the last one recorded for it. -/
theorem classification?_recordAll (calls : List (Nat × Classification)) (i : Nat) :
    (recordAll {} calls).classification? i = ((calls.filter fun c => c.1 = i).map (·.2)).getLast? := by
  rw [classification?, classifications_recordAll]
  exact Ledger.find?_putAll i calls

/-- A number has a classification exactly if one was recorded. -/
theorem mem_keys_recordAll (calls : List (Nat × Classification)) (i : Nat) :
    i ∈ (recordAll {} calls).classifications.keys ↔ i ∈ calls.map (·.1) := by
  rw [classifications_recordAll]
  exact Ledger.mem_keys_putAll i calls

/-- The numbers stand in the order of their first recordings. -/
theorem keys_recordAll_ordered (calls : List (Nat × Classification)) :
    (recordAll {} calls).classifications.keys.Pairwise fun i j => (calls.map (·.1)).idxOf i < (calls.map (·.1)).idxOf j := by
  rw [classifications_recordAll]
  exact Ledger.keys_putAll_ordered calls

theorem nodup_keys_recordAll (calls : List (Nat × Classification)) : (recordAll {} calls).classifications.keys.Nodup := by
  rw [classifications_recordAll]
  exact Ledger.nodup_keys_putAll calls

theorem mem_selectors_recordAll_empty (calls : List (Nat × Classification)) (t : Text) :
    t ∈ (recordAll {} calls).selectors ↔ ∃ i, (i, .test t) ∈ calls :=
  (mem_selectors_recordAll {} calls t).trans (or_iff_right List.not_mem_nil)

/-- Every text that is still a classification is among the texts to look for. -/
theorem mem_selectors_of_classification? {calls : List (Nat × Classification)} {i : Nat} {t : Text}
    (h : (recordAll {} calls).classification? i = some (.test t)) : t ∈ (recordAll {} calls).selectors := by
  rw [classification?_recordAll] at h
  obtain ⟨c, hc, hct⟩ := List.mem_map.mp (List.mem_of_getLast? h)
  rw [mem_selectors_recordAll_empty]
  exact ⟨c.1, hct ▸ (List.mem_filter.mp hc).1⟩

/-! ## The three kinds of classification -/

/-- The numbers of the nodes for which a text is looked for. -/
def tested (p : Profile) : List Nat := (p.classifications.filter (·.2.tested?.isSome)).map (·.1)

/-- Every number with a classification is in one of the three lists, and as often as it has one. -/
theorem indices_perm (p : Profile) : (p.forceKept ++ p.forceDropped ++ p.tested).Perm p.classifications.keys := by
  unfold forceKept forceDropped indicesOf tested
  induction p.classifications with
  | nil => exact List.Perm.nil
  | cons e l ih =>
    obtain ⟨i, c⟩ := e
    cases c with
    | keep => exact ih.cons i
    | drop =>
      have hmid : ((l.filter (·.2 == .keep)).map (·.1) ++ i :: (l.filter (·.2 == .drop)).map (·.1)).Perm
          (i :: ((l.filter (·.2 == .keep)).map (·.1) ++ (l.filter (·.2 == .drop)).map (·.1))) := List.perm_middle
      exact (hmid.append_right _).trans (ih.cons i)
    | test t => exact List.perm_middle.trans (ih.cons i)

/-- A number is in the list of a classification exactly if it has this classification. -/
theorem mem_indicesOf {p : Profile} (h : p.classifications.keys.Nodup) (c : Classification) (i : Nat) :
    i ∈ p.indicesOf c ↔ p.classification? i = some c := by
  rw [classification?, Ledger.find?_eq_some_iff h]
  simp [indicesOf]

theorem mem_tested {p : Profile} (h : p.classifications.keys.Nodup) (i : Nat) :
    i ∈ p.tested ↔ ∃ t, p.classification? i = some (.test t) := by
  simp only [classification?, Ledger.find?_eq_some_iff h, tested, List.mem_map, List.mem_filter, Prod.exists,
    exists_and_right, exists_eq_right]
  constructor
  · rintro ⟨c, hc, hs⟩
    cases c with
    | keep => simp [Classification.tested?] at hs
    | drop => simp [Classification.tested?] at hs
    | test t => exact ⟨t, hc⟩
  · rintro ⟨t, ht⟩
    exact ⟨.test t, ht, rfl⟩

end Profile

end CriticalCss

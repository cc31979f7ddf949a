import Mathlib.Data.List.Induction
import Mathlib.Data.List.Nodup
import CriticalCss.Ledger

/-!
# Ledgers under writing

What one write does to a ledger, and what a run of writes leaves: under each key the value written last (`find?_putAll`), and the
keys each once, in the order in which they were first written (`keys_putAll_ordered`). Where no key is written twice, the ledger is
the list of the writes (`putAll_of_nodup`).
-/

namespace CriticalCss

namespace Ledger

variable {κ α : Type}

/-! ## Reading -/

@[simp] theorem keys_nil : keys ([] : Ledger κ α) = [] := rfl

@[simp] theorem keys_cons (e : κ × α) (l : Ledger κ α) : keys (e :: l) = e.1 :: keys l := rfl

@[simp] theorem keys_append (l m : Ledger κ α) : keys (l ++ m) = keys l ++ keys m := List.map_append

variable [DecidableEq κ]

/-- A key has no value exactly if it was never written. -/
theorem find?_eq_none_iff (k : κ) (l : Ledger κ α) : find? k l = none ↔ k ∉ keys l := by
  induction l with
  | nil => simp [find?]
  | cons e l ih =>
    obtain ⟨k', v⟩ := e
    by_cases h : k' = k
    · simp [find?, h]
    · simp [find?, h, ih, Ne.symm h]

/-- The value of a key stands under the key. -/
theorem mem_of_find? {k : κ} {v : α} {l : Ledger κ α} (h : find? k l = some v) : (k, v) ∈ l := by
  induction l with
  | nil => simp [find?] at h
  | cons e l ih =>
    obtain ⟨k', w⟩ := e
    simp only [find?] at h
    split at h
    · rename_i hk
      cases h
      subst hk
      exact List.mem_cons_self
    · exact List.mem_cons_of_mem _ (ih h)

/-- In a ledger that holds each key once, what stands under a key is its value. -/
theorem find?_eq_some_iff {l : Ledger κ α} (hl : (keys l).Nodup) (k : κ) (v : α) : find? k l = some v ↔ (k, v) ∈ l := by
  refine ⟨mem_of_find?, fun hv => ?_⟩
  induction l with
  | nil => exact absurd hv List.not_mem_nil
  | cons e l ih =>
    obtain ⟨k', w⟩ := e
    rw [keys_cons, List.nodup_cons] at hl
    rcases List.mem_cons.mp hv with hv | hv
    · cases hv
      simp [find?]
    · have hne : k' ≠ k := by
        rintro rfl
        exact hl.1 (List.mem_map.mpr ⟨_, hv, rfl⟩)
      simp only [find?, hne, if_false]
      exact ih hl.2 hv

/-- A key is looked for in the first part of a ledger and then in the second. -/
theorem find?_append (k : κ) (l m : Ledger κ α) : find? k (l ++ m) = (find? k l).or (find? k m) := by
  induction l with
  | nil => rfl
  | cons e l ih =>
    by_cases h : e.1 = k
    · simp [find?, h]
    · simp [find?, h, ih]

/-- Looking up keys one after the other gives the ledger back, if they are distinct and its own keys stand among them in their order. -/
theorem filterMap_find? {l : Ledger κ α} {ks : List κ} (hs : (keys l).Sublist ks) (hk : ks.Nodup) :
    ks.filterMap (fun k => (find? k l).map (k, ·)) = l := by
  induction ks generalizing l with
  | nil =>
    rw [List.sublist_nil, keys, List.map_eq_nil_iff] at hs
    rw [hs, List.filterMap_nil]
  | cons k ks ih =>
    rw [List.nodup_cons] at hk
    rcases List.sublist_cons_iff.mp hs with hs | ⟨rest, hrest, hs⟩
    · have hnone : find? k l = none := (find?_eq_none_iff k l).mpr fun h => hk.1 (hs.subset h)
      rw [List.filterMap_cons, hnone, Option.map_none]
      exact ih hs hk.2
    · obtain ⟨⟨k', v⟩, m, rfl, rfl, rfl⟩ := List.map_eq_cons_iff.mp hrest
      have htail : ks.filterMap (fun i => (find? i ((k', v) :: m)).map (i, ·)) = ks.filterMap fun i => (find? i m).map (i, ·) := by
        refine List.filterMap_congr fun i hi => ?_
        have hne : k' ≠ i := fun h => hk.1 (h ▸ hi)
        simp [find?, hne]
      rw [List.filterMap_cons, htail, ih hs hk.2]
      simp [find?]
/-! ## One write -/

/-- A write changes the value of its key and of no other. -/
theorem find?_put (key k : κ) (value : α) (l : Ledger κ α) :
    find? k (put key value l) = if key = k then some value else find? k l := by
  induction l with
  | nil => rfl
  | cons e l ih =>
    obtain ⟨k', v⟩ := e
    by_cases h : k' = key
    · subst h
      by_cases hk : k' = k <;> simp [put, find?, hk]
    · by_cases hk : k' = k
      · subst hk
        simp [put, find?, h, Ne.symm h]
      · simp [put, find?, h, hk, ih]

/-- A key that is written again keeps its place; a new key comes last. -/
theorem keys_put (key : κ) (value : α) (l : Ledger κ α) :
    keys (put key value l) = if key ∈ keys l then keys l else keys l ++ [key] := by
  induction l with
  | nil => rfl
  | cons e l ih =>
    obtain ⟨k', v⟩ := e
    by_cases h : k' = key
    · simp [put, h]
    · have hne : key ≠ k' := Ne.symm h
      by_cases hm : key ∈ keys l <;> simp [put, h, hne, ih, hm]

/-- Writing a new key adds one entry at the end. -/
theorem put_of_notMem {key : κ} (value : α) {l : Ledger κ α} (h : key ∉ keys l) : put key value l = l ++ [(key, value)] := by
  induction l with
  | nil => rfl
  | cons e l ih =>
    obtain ⟨k', v⟩ := e
    rw [keys_cons, List.mem_cons, not_or] at h
    simp [put, Ne.symm h.1, ih h.2]

/-! ## A run of writes -/

/-- Writes several keys, one after the other. -/
def putAll (l : Ledger κ α) (writes : List (κ × α)) : Ledger κ α := writes.foldl (fun l w => put w.1 w.2 l) l

@[simp] theorem putAll_nil (l : Ledger κ α) : putAll l [] = l := rfl

theorem putAll_cons (l : Ledger κ α) (w : κ × α) (writes : List (κ × α)) :
    putAll l (w :: writes) = putAll (put w.1 w.2 l) writes := rfl

theorem putAll_concat (l : Ledger κ α) (writes : List (κ × α)) (w : κ × α) :
    putAll l (writes ++ [w]) = put w.1 w.2 (putAll l writes) := by
  simp [putAll, List.foldl_append]

/-- After a run of writes, the value of a key is the one written last. -/
theorem find?_putAll (k : κ) (writes : List (κ × α)) :
    find? k (putAll [] writes) = ((writes.filter fun w => w.1 = k).map (·.2)).getLast? := by
  induction writes using List.reverseRecOn with
  | nil => rfl
  | append_singleton writes w ih =>
    rw [putAll_concat, find?_put, ih]
    by_cases h : w.1 = k
    · simp [h]
    · simp [h]

/-- A run of writes leaves exactly the keys that it writes. -/
theorem mem_keys_putAll (k : κ) (writes : List (κ × α)) : k ∈ keys (putAll [] writes) ↔ k ∈ writes.map (·.1) := by
  induction writes using List.reverseRecOn with
  | nil => simp
  | append_singleton writes w ih =>
    rw [putAll_concat, keys_put, List.map_append, List.mem_append, ← ih]
    by_cases hw : w.1 ∈ keys (putAll [] writes)
    · rw [if_pos hw]
      refine ⟨Or.inl, fun h => h.elim id fun h => ?_⟩
      rw [List.map_singleton, List.mem_singleton] at h
      exact h ▸ hw
    · rw [if_neg hw, List.mem_append, List.map_singleton]

/-- The keys that a run of writes leaves stand in the order in which they were first written. In particular each stands there once. -/
theorem keys_putAll_ordered (writes : List (κ × α)) :
    (keys (putAll [] writes)).Pairwise fun i j => (writes.map (·.1)).idxOf i < (writes.map (·.1)).idxOf j := by
  induction writes using List.reverseRecOn with
  | nil => exact List.Pairwise.nil
  | append_singleton writes w ih =>
    -- a key that is already there was first written before the last write
    have hidx : ∀ k ∈ keys (putAll [] writes), ((writes ++ [w]).map (·.1)).idxOf k = (writes.map (·.1)).idxOf k := by
      intro k hk
      rw [List.map_append, List.idxOf_append_of_mem ((mem_keys_putAll k writes).mp hk)]
    have hold : (keys (putAll [] writes)).Pairwise fun i j =>
        ((writes ++ [w]).map (·.1)).idxOf i < ((writes ++ [w]).map (·.1)).idxOf j := by
      refine ih.imp_of_mem fun {i j} hi hj h => ?_
      rw [hidx i hi, hidx j hj]
      exact h
    rw [putAll_concat, keys_put]
    by_cases hw : w.1 ∈ keys (putAll [] writes)
    · rw [if_pos hw]
      exact hold
    · rw [if_neg hw, List.pairwise_append]
      refine ⟨hold, List.pairwise_singleton _ _, fun i hi j hj => ?_⟩
      rw [List.mem_singleton] at hj
      subst hj
      rw [hidx i hi, List.map_append, List.idxOf_append_of_notMem (mt (mem_keys_putAll _ writes).mpr hw)]
      have := List.idxOf_lt_length_iff.mpr ((mem_keys_putAll i writes).mp hi)
      omega

/-- A run of writes leaves each key once. -/
theorem nodup_keys_putAll (writes : List (κ × α)) : (keys (putAll [] writes)).Nodup :=
  (keys_putAll_ordered writes).imp fun {i j} h => by
    rintro rfl
    exact Nat.lt_irrefl _ h

/-- Writing keys that are all new, each once, adds the writes at the end. -/
theorem putAll_of_nodup (l : Ledger κ α) (writes : List (κ × α)) (h : (keys l ++ writes.map (·.1)).Nodup) :
    putAll l writes = l ++ writes := by
  induction writes generalizing l with
  | nil => simp
  | cons w writes ih =>
    have hw : w.1 ∉ keys l := by
      intro hw
      exact (List.nodup_append.mp h).2.2 _ hw _ (by simp) rfl
    rw [putAll_cons, put_of_notMem _ hw, ih]
    · simp
    · simpa using h

end Ledger

end CriticalCss

import Mathlib.Data.List.Infix
import Mathlib.Tactic.SplitIfs
import CriticalCss.Stylesheet.Tree

/-!
# Boundaries of characters

Where tolerant reading may be cut. A byte that continues a character never begins one, so bytes that begin with any other byte, or with
none, are read by themselves, whatever stands in front of them: what was pending there is defective, and a defect is one replacement
character, whether other bytes follow or the end (`decodeTolerant_append`). In written source such bytes begin at every boundary, that is,
where one character ends and the next begins (`begins_slice`).
-/

namespace CriticalCss.Utf8

/-! ## Bytes that continue a character -/

/-- A byte continues a character that other bytes began. -/
def Continues (b : UInt8) : Prop := 0x80 ≤ b ∧ b ≤ 0xBF

/-- Bytes begin a character with their first byte, or are none. -/
def Begins (bytes : List UInt8) : Prop := ∀ b, bytes.head? = some b → ¬Continues b

theorem begins_nil : Begins [] := nofun

/-- Bytes that begin a character do so with others of the kind behind them too. -/
theorem Begins.append {front back : List UInt8} (hfront : Begins front) (hback : Begins back) : Begins (front ++ back) := by
  cases front with
  | nil => exact hback
  | cons b front => exact hfront

/-- The bytes of a text begin with a character. -/
theorem begins_encode (t : Text) : Begins (encode t) := by
  cases t with
  | nil => exact begins_nil
  | cons c t =>
    rintro b hb ⟨hleast, hgreatest⟩
    rw [UInt8.le_iff_toNat_le] at hleast hgreatest
    have hvalue : c.val.toNat = c.toNat := rfl
    simp only [encode, List.flatMap_cons, String.utf8EncodeChar, hvalue] at hb
    -- the first byte of a character is below 80, or C0 at least, by the number of the bytes
    split_ifs at hb <;> simp only [List.cons_append, List.head?_cons, Option.some.injEq] at hb <;> subst hb <;>
      simp at hleast hgreatest <;> omega

/-! ## What is pending -/

namespace Pending

/-- Only bytes that continue a character continue what is pending. -/
def Bounded (p : Pending) : Prop := 0x80 ≤ p.least ∧ p.greatest ≤ 0xBF

theorem bounded_start (b : UInt8) : (start b).2.Bounded := by
  unfold start
  dsimp only
  split_ifs <;> simp [Bounded]

/-- One more byte leaves only what such bytes continue. -/
theorem bounded_feed (p : Pending) (b : UInt8) : (p.feed b).2.Bounded := by
  unfold feed
  dsimp only
  split_ifs
  · exact bounded_start b
  · simp [Bounded]
  · simp [Bounded]
  · exact bounded_start b

/-- A byte that continues no character ends what is pending, and begins something. -/
theorem feed_of_not_continues {p : Pending} {b : UInt8} (hp : p.Bounded) (hsize : p.size ≠ 0) (hb : ¬Continues b) :
    p.feed b = (.defect p.size .badContinuation :: (start b).1, (start b).2) := by
  have hrange : ¬(p.least ≤ b ∧ b ≤ p.greatest) := by
    rintro ⟨hleast, hgreatest⟩
    exact hb ⟨UInt8.le_trans hp.1 hleast, UInt8.le_trans hgreatest hp.2⟩
  rw [feed, if_neg hsize, if_neg hrange]

end Pending

/-! ## Reading in two parts -/

/-- The character that a piece is read as. -/
def Piece.shown : Piece → Char
  | .character c => c
  | .defect _ _ => replacement

/-- Decoding shows each piece by one character. -/
theorem decodeTolerant_eq (bytes : List UInt8) : decodeTolerant bytes = (pieces bytes).map Piece.shown := by
  unfold decodeTolerant
  refine List.map_congr_left ?_
  intro piece _
  cases piece <;> rfl

/-- Bytes that begin with a character are read by themselves, whatever is pending before them. The induction is on what stands before. -/
theorem map_shown_piecesFrom_append {p : Pending} (hp : p.Bounded) (before : List UInt8) {after : List UInt8} (hafter : Begins after) :
    (piecesFrom p (before ++ after)).map Piece.shown = (piecesFrom p before).map Piece.shown ++ (pieces after).map Piece.shown := by
  induction before generalizing p with
  | nil =>
    cases after with
    | nil => simp [pieces, piecesFrom]
    | cons b rest =>
      have hfresh : pieces (b :: rest) = (Pending.start b).1 ++ piecesFrom (Pending.start b).2 rest := rfl
      by_cases hsize : p.size = 0
      · have hfeed : p.feed b = Pending.start b := if_pos hsize
        simp [piecesFrom, hsize, hfeed, hfresh]
      · have hfeed := Pending.feed_of_not_continues hp hsize (hafter b rfl)
        simp [piecesFrom, hsize, hfeed, hfresh, Piece.shown]
  | cons b before ih =>
    have hnext := ih (Pending.bounded_feed p b)
    simp only [List.cons_append, piecesFrom, List.map_append, hnext, List.append_assoc]

/-- Bytes that begin a character are read by themselves. -/
theorem decodeTolerant_append (before : List UInt8) {after : List UInt8} (hafter : Begins after) :
    decodeTolerant (before ++ after) = decodeTolerant before ++ decodeTolerant after := by
  have hnothing : Pending.Bounded {} := ⟨by decide, by decide⟩
  rw [decodeTolerant_eq, decodeTolerant_eq, decodeTolerant_eq]
  exact map_shown_piecesFrom_append hnothing before hafter

/-! ## Boundaries in written source -/

/-- A position in the bytes of a text at which one character ends and the next begins, or an end of the text. -/
def IsBoundary (written : Text) (position : Nat) : Prop := ∃ front back, written = front ++ back ∧ (encode front).length = position

/-- A boundary is where a front of the written text ends. -/
theorem isBoundary_iff {written : Text} {position : Nat} :
    IsBoundary written position ↔ ∃ front ∈ written.inits, (encode front).length = position := by
  constructor
  · rintro ⟨front, back, rfl, hsize⟩
    exact ⟨front, (List.mem_inits front _).mpr (List.prefix_append front back), hsize⟩
  · rintro ⟨front, hfront, hsize⟩
    obtain ⟨back, rfl⟩ := (List.mem_inits front _).mp hfront
    exact ⟨front, back, rfl, hsize⟩

instance (written : Text) (position : Nat) : Decidable (IsBoundary written position) := decidable_of_iff _ isBoundary_iff.symm

/-- The bytes from a boundary on begin with a character. -/
theorem begins_slice {written : Text} {start : Nat} (h : IsBoundary written start) (stop : Nat) :
    Begins (SyntaxTree.slice (encode written) start stop) := by
  obtain ⟨front, back, rfl, rfl⟩ := h
  have hparts : encode (front ++ back) = encode front ++ encode back := List.flatMap_append
  have hback : (encode (front ++ back)).drop (encode front).length = encode back := by
    rw [hparts]
    exact List.drop_left
  intro b hb
  rw [SyntaxTree.slice, hback, List.head?_take] at hb
  split at hb
  · cases hb
  · exact begins_encode back b hb

end CriticalCss.Utf8

import CriticalCss.Console.Program

/-!
# Output that is sent

What becomes of output piece by piece. A piece is sent, or it is a note and left out, or it is no note and ends the run (`send_cons`). So
what is sent is part of what was to be sent, in its order (`send_sublist`), and as long as sending goes on to its end, only notes are
missing (`exists_send_eq`). Nothing is missing if every piece can be held (`send_eq_self`), and a last piece that goes past the console is
sent whatever became of the notes before it (`exists_send_notes`).
-/

namespace CriticalCss.Console

variable [Host]

/-- The standard output cannot hold some of the output, and the run ends there. -/
def Unsent (output : List Piece) (said : Text) : Prop := (send [] output).2 = some said

/-- Where a piece cannot be sent, the run ends there with its fault. -/
theorem Outcome.sent_of_unsent {o : Outcome} {said : Text} (h : Unsent o.output said) :
    o.sent = { output := (send [] o.output).1, code := 1, unexpected := some (.unsendable said) } := by
  have hpair : send [] o.output = ((send [] o.output).1, some said) := Prod.ext rfl h
  rw [Outcome.sent, hpair]

/-- Where nothing ends the run, all but some notes of its output is left. -/
theorem Outcome.sent_of_all {o : Outcome} (h : ∀ said, ¬Unsent o.output said) :
    o.sent = { o with output := (send [] o.output).1 } := by
  have hpair : send [] o.output = ((send [] o.output).1, none) := Prod.ext rfl (Option.eq_none_iff_forall_ne_some.mpr h)
  rw [Outcome.sent, hpair]

/-- One piece: it is sent, or it is a note that is left out, or nothing is sent from it on. -/
theorem send_cons (held : Text) (p : Piece) (rest : List Piece) :
    (∃ held', send held (p :: rest) = (p :: (send held' rest).1, (send held' rest).2)) ∨
    (p.isNote = true ∧ ∃ held', send held (p :: rest) = send held' rest) ∨
    (p.isNote = false ∧ ∃ said, send held (p :: rest) = ([], some said)) := by
  cases p with
  | note n =>
    cases h : Host.unsendable? (held ++ (Piece.note n).text) with
    | some said => exact Or.inr (Or.inl ⟨rfl, _, by rw [send, h]⟩)
    | none => exact Or.inl ⟨_, by rw [send, h]⟩
  | console t =>
    cases h : Host.unsendable? (held ++ t) with
    | some said => exact Or.inr (Or.inr ⟨rfl, _, by rw [send, h]⟩)
    | none => exact Or.inl ⟨_, by rw [send, h]⟩
  | plain t =>
    cases h : Host.unsendable? t with
    | some said => exact Or.inr (Or.inr ⟨rfl, _, by rw [send, h]⟩)
    | none => exact Or.inl ⟨_, by rw [send, h]⟩
  | aside t => exact Or.inl ⟨_, rfl⟩

/-- Of the pieces some are sent, in their order. -/
theorem send_sublist (held : Text) (pieces : List Piece) : (send held pieces).1.Sublist pieces := by
  induction pieces generalizing held with
  | nil => exact List.Sublist.refl []
  | cons p rest ih =>
    rcases send_cons held p rest with ⟨held', h⟩ | ⟨-, held', h⟩ | ⟨-, said, h⟩ <;> rw [h]
    · exact (ih held').cons_cons p
    · exact (ih held').cons p
    · exact List.nil_sublist _

/-- If sending goes on to its end, a piece that is no note is sent, behind pieces that stood before it. -/
theorem exists_send_eq {held : Text} {before after : List Piece} {p : Piece} (hp : p.isNote = false)
    (hend : (send held (before ++ p :: after)).2 = none) :
    ∃ sent more, (send held (before ++ p :: after)).1 = sent ++ p :: more ∧ sent.Sublist before := by
  induction before generalizing held with
  | nil =>
    rw [List.nil_append] at hend ⊢
    rcases send_cons held p after with ⟨held', h⟩ | ⟨hnote, -⟩ | ⟨-, said, h⟩
    · exact ⟨[], _, by rw [h]; rfl, List.Sublist.refl []⟩
    · rw [hp] at hnote
      cases hnote
    · rw [h] at hend
      cases hend
  | cons q before ih =>
    rw [List.cons_append] at hend ⊢
    rcases send_cons held q (before ++ p :: after) with ⟨held', h⟩ | ⟨-, held', h⟩ | ⟨-, said, h⟩ <;> rw [h] at hend ⊢
    · obtain ⟨sent, more, hsent, hsub⟩ := ih hend
      exact ⟨q :: sent, more, by rw [hsent]; rfl, hsub.cons_cons q⟩
    · obtain ⟨sent, more, hsent, hsub⟩ := ih hend
      exact ⟨sent, more, hsent, hsub.cons q⟩
    · cases hend

/-- What can be held is sent. -/
theorem send_eq_self {pieces : List Piece} (h : ∀ p ∈ pieces, Host.unsendable? p.text = none) : send [] pieces = (pieces, none) := by
  induction pieces with
  | nil => rfl
  | cons p rest ih =>
    rw [List.forall_mem_cons] at h
    have hrest := ih h.2
    cases p with
    | note n => rw [send, List.nil_append, h.1, hrest]
    | console t =>
      have ht : Host.unsendable? t = none := h.1
      rw [send, List.nil_append, ht, hrest]
    | plain t =>
      have ht : Host.unsendable? t = none := h.1
      rw [send, ht, hrest]
    | aside t => rw [send, hrest]

/-- Of notes and a last piece that goes past the console and can be held, the piece is sent, and some of the notes before it. -/
theorem exists_send_notes (held : Text) (notes : List Note) {t : Text} (ht : Host.unsendable? t = none) :
    ∃ sent : List Note, sent.Sublist notes ∧ send held (notes.map .note ++ [.plain t]) = (sent.map .note ++ [.plain t], none) := by
  induction notes generalizing held with
  | nil =>
    refine ⟨[], List.Sublist.refl [], ?_⟩
    rw [List.map_nil, List.nil_append, send, ht]
    rfl
  | cons n notes ih =>
    rw [List.map_cons, List.cons_append]
    rcases send_cons held (.note n) (notes.map .note ++ [.plain t]) with ⟨held', h⟩ | ⟨-, held', h⟩ | ⟨hnote, -⟩
    · obtain ⟨sent, hsub, hsent⟩ := ih held'
      exact ⟨n :: sent, hsub.cons_cons n, by rw [h, hsent]; rfl⟩
    · obtain ⟨sent, hsub, hsent⟩ := ih held'
      exact ⟨sent, hsub.cons n, h.trans hsent⟩
    · cases hnote

end CriticalCss.Console

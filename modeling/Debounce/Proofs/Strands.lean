import Debounce.Agenda
import Debounce.Logging
import Mathlib.Logic.Function.Basic

/-!
# Strands

A program and the works of its timers each bind context variables of their own: they are strands,
and each has its context. A timer begins with a copy of the context of the strand that sets it. What
each strand has bound in the end can be told from the changes of contexts and from who has set which
timer, in the order of time.
-/

namespace Debounce

/-- Whoever runs scripts: the program, or a timer. -/
inductive Strand where
  | program
  | timer (id : TimerId)
  deriving DecidableEq

/-- What matters for contexts. -/
inductive ContextNote where
  /-- The strand changes its context. -/
  | changed (strand : Strand) (change : Fields → Fields)
  /-- The strand sets a timer. -/
  | scheduled (id : TimerId) (strand : Strand)

/-- The strand changes its context here. -/
def ContextNote.changes (strand : Strand) : ContextNote → Bool
  | .changed other _ => other = strand
  | .scheduled _ _ => false

/-- What a note means for the contexts of all strands. -/
def ContextNote.apply (contexts : Strand → Fields) : ContextNote → Strand → Fields
  | .changed strand change => Function.update contexts strand (change (contexts strand))
  | .scheduled id strand => Function.update contexts (.timer id) (contexts strand)

/-- The contexts of all strands, if they are all the same in the beginning. -/
def contexts (initial : Fields) (notes : List ContextNote) : Strand → Fields :=
  notes.foldl ContextNote.apply fun _ => initial

/-- The strand is the timer, or it has been set by the timer's work, or by the work of a timer
that was, and so on. -/
inductive Descends (notes : List ContextNote) (id : TimerId) : Strand → Prop where
  | self : Descends notes id (.timer id)
  | set {child : TimerId} {parent : Strand} :
      .scheduled child parent ∈ notes → Descends notes id parent → Descends notes id (.timer child)

section Contexts

variable {initial : Fields} {notes : List ContextNote} {strand : Strand} {id : TimerId}

@[simp] theorem contexts_append (notes : List ContextNote) (note : ContextNote) :
    contexts initial (notes ++ [note]) = note.apply (contexts initial notes) := by
  rw [contexts, List.foldl_append]
  rfl

variable {left right : Strand → Fields} {note : ContextNote} (Apart : Strand → Prop)

/-- Contexts that agree on some strands still do after a note, if those strands are set by such
strands only. -/
theorem ContextNote.apply_agree (set : ∀ child parent, note = .scheduled child parent →
      Apart (.timer child) → Apart parent)
    (agree : ∀ strand, Apart strand → left strand = right strand) (strand : Strand)
    (apart : Apart strand) : note.apply left strand = note.apply right strand := by
  cases note with
  | changed changing change =>
      by_cases same : strand = changing
      · simp [ContextNote.apply, same, agree changing (same ▸ apart)]
      · simp [ContextNote.apply, same, agree strand apart]
  | scheduled child parent =>
      by_cases same : strand = .timer child
      · simp [ContextNote.apply, same, agree parent (set child parent rfl (same ▸ apart))]
      · simp [ContextNote.apply, same, agree strand apart]

/-- The changes of a strand make no difference to the strands that are apart from it. -/
theorem foldl_filter_agree {source : Strand} (away : ¬ Apart source) (rest : List ContextNote)
    (set : ∀ child parent, .scheduled child parent ∈ rest → Apart (.timer child) → Apart parent)
    (agree : ∀ strand, Apart strand → left strand = right strand) (strand : Strand)
    (apart : Apart strand) :
    (rest.filter fun note => !note.changes source).foldl ContextNote.apply left strand =
      rest.foldl ContextNote.apply right strand := by
  induction rest generalizing left right with
  | nil => exact agree strand apart
  | cons note rest ih =>
      have setLater : ∀ child parent, .scheduled child parent ∈ rest → Apart (.timer child) →
          Apart parent :=
        fun child parent member => set child parent (List.mem_cons_of_mem _ member)
      cases drops : note.changes source with
      | false =>
          rw [List.filter_cons_of_pos (by simp [drops])]
          apply ih setLater
          apply ContextNote.apply_agree Apart ?_ agree
          rintro child parent rfl
          exact set child parent List.mem_cons_self
      | true =>
          rw [List.filter_cons_of_neg (by simp [drops])]
          apply ih setLater
          intro other otherApart
          cases note with
          | scheduled child parent => cases drops
          | changed changing change =>
              obtain rfl : changing = source := of_decide_eq_true drops
              have different : other ≠ changing := by
                rintro rfl
                exact away otherApart
              simp [ContextNote.apply, different, agree other otherApart]

/-- What the work of a timer binds is not seen but by itself and by timers that descend from it. -/
theorem contexts_filter (apart : ¬ Descends notes id strand) :
    contexts initial (notes.filter fun note => !note.changes (.timer id)) strand =
      contexts initial notes strand := by
  apply foldl_filter_agree (fun strand => ¬ Descends notes id strand) ?_ notes ?_ ?_ strand apart
  · exact fun apart => apart .self
  · intro child parent member apart descends
    exact apart (.set member descends)
  · exact fun _ _ => rfl

end Contexts

end Debounce

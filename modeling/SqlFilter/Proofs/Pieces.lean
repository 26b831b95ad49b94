import SqlFilter.Proofs.Rendering

/-!
# Pieces of a text

The text of a tree is made of parentheses, joiners and the texts of its values.  `Tree.pieces` is
the row of these pieces, and `Piece.printAll` writes such a row, which says where in the text each
value stands: behind the text of the pieces before it.
-/

namespace SqlFilter

/-- A piece of the text of a tree. -/
inductive Piece (α : Type) where
  /-- A group begins. -/
  | enter
  /-- A group ends. -/
  | leave
  /-- Between two operands of a group. -/
  | join (joiner : Joiner)
  /-- The text of a value. -/
  | value (a : α)

namespace Piece

variable {α : Type}

/-- The value of a piece, if it has one. -/
def value? : Piece α → Option α
  | value a => some a
  | _ => none

/-- The values of pieces in a row. -/
def values (ps : List (Piece α)) : List α := ps.filterMap value?

/-- The number of placeholders of a piece. -/
def width (slots : α → Nat) : Piece α → Nat
  | value a => slots a
  | _ => 0

/-- The text of a piece whose first placeholder has the given number. -/
def print (text : Nat → α → Text) (number : Nat) : Piece α → Text
  | enter => ['(']
  | leave => [')']
  | join joiner => joiner.keyword
  | value a => text number a

/-- The number of placeholders of pieces in a row. -/
def widthAll (slots : α → Nat) : List (Piece α) → Nat
  | [] => 0
  | x :: rest => x.width slots + widthAll slots rest

/-- The text of pieces in a row, where the first placeholder has the given number. -/
def printAll (text : Nat → α → Text) (slots : α → Nat) (number : Nat) : List (Piece α) → Text
  | [] => []
  | x :: rest => x.print text number ++ printAll text slots (number + x.width slots) rest

@[simp] theorem values_nil : values ([] : List (Piece α)) = [] := rfl

@[simp] theorem values_value (a : α) (ps : List (Piece α)) :
    values (value a :: ps) = a :: values ps := rfl

@[simp] theorem values_enter (ps : List (Piece α)) : values (enter :: ps) = values ps := rfl

@[simp] theorem values_leave (ps : List (Piece α)) : values (leave :: ps) = values ps := rfl

@[simp] theorem values_join (joiner : Joiner) (ps : List (Piece α)) :
    values (join joiner :: ps) = values ps := rfl

@[simp] theorem values_append (xs ys : List (Piece α)) :
    values (xs ++ ys) = values xs ++ values ys := List.filterMap_append

variable {text text' : Nat → α → Text} {slots slots' : α → Nat}

theorem widthAll_append (xs ys : List (Piece α)) :
    widthAll slots (xs ++ ys) = widthAll slots xs + widthAll slots ys := by
  induction xs with
  | nil => rw [List.nil_append, widthAll, Nat.zero_add]
  | cons x xs ih => rw [List.cons_append, widthAll, ih, widthAll, Nat.add_assoc]

theorem printAll_append (number : Nat) (xs ys : List (Piece α)) :
    printAll text slots number (xs ++ ys) =
      printAll text slots number xs ++ printAll text slots (number + widthAll slots xs) ys := by
  induction xs generalizing number with
  | nil => rw [List.nil_append, printAll, widthAll, List.nil_append, Nat.add_zero]
  | cons x xs ih =>
      rw [List.cons_append, printAll, ih, printAll, widthAll, Nat.add_assoc, List.append_assoc]

/-- Texts of the same lengths stand at the same places. -/
theorem length_printAll_congr :
    ∀ (ps : List (Piece α)) (n : Nat), (∀ a ∈ values ps, slots a = slots' a) →
      (∀ a ∈ values ps, ∀ n, (text n a).length = (text' n a).length) →
      (printAll text slots n ps).length = (printAll text' slots' n ps).length := by
  intro ps
  induction ps with
  | nil =>
      intro n _ _
      rfl
  | cons x ps ih =>
      intro n hslots htext
      cases x with
      | value a =>
          rw [values_value] at hslots htext
          obtain ⟨hslot, hslots⟩ := List.forall_mem_cons.1 hslots
          obtain ⟨ha, htext⟩ := List.forall_mem_cons.1 htext
          have hps := ih (n + slots a) hslots htext
          simp only [printAll, print, width, List.length_append]
          rw [ha, hps, hslot]
      | _ =>
          have hps := ih n hslots htext
          simp only [printAll, print, width, List.length_append, Nat.add_zero]
          rw [hps]

/-- The placeholders of pieces are as many as what their values are mapped to. -/
theorem widthAll_eq_length {β : Type} (f : α → List β) (ps : List (Piece α)) :
    widthAll (fun a => (f a).length) ps = ((values ps).flatMap f).length := by
  induction ps with
  | nil => rfl
  | cons x ps ih =>
      rw [widthAll, ih]
      cases x with
      | value a => rw [values_value, List.flatMap_cons, List.length_append, width]
      | _ => exact Nat.zero_add _

end Piece

/-! ## The pieces of a tree -/

namespace Tree

variable {α : Type}

mutual

/-- The pieces of the text of a tree. -/
def pieces : Tree α → List (Piece α)
  | leaf a => [.value a]
  | group first rest => .enter :: pieces first ++ restPieces rest ++ [.leave]

/-- The pieces of the operands after the first, each behind its joiner. -/
def restPieces : List (Joiner × Tree α) → List (Piece α)
  | [] => []
  | (joiner, operand) :: rest => .join joiner :: pieces operand ++ restPieces rest

end

mutual

/-- The pieces have the values of the tree. -/
theorem values_pieces : ∀ t : Tree α, Piece.values t.pieces = t.leaves
  | leaf a => rfl
  | group first rest => by
      rw [pieces, Piece.values_append, Piece.values_append, Piece.values_enter,
        values_pieces first, values_restPieces rest, Piece.values_leave, Piece.values_nil,
        List.append_nil, leaves]

theorem values_restPieces :
    ∀ rest : List (Joiner × Tree α), Piece.values (restPieces rest) = restLeaves rest
  | [] => rfl
  | (joiner, operand) :: rest => by
      rw [restPieces, Piece.values_append, Piece.values_join, values_pieces operand,
        values_restPieces rest, restLeaves]

end

variable (text : Nat → α → Text) (slots : α → Nat)

mutual

/-- The pieces have the placeholders of the tree. -/
theorem widthAll_pieces : ∀ t : Tree α, Piece.widthAll slots t.pieces = t.slots slots
  | leaf a => rfl
  | group first rest => by
      simp [pieces, Piece.widthAll, Piece.widthAll_append, Piece.width, Tree.slots,
        widthAll_pieces first, widthAll_restPieces rest]

theorem widthAll_restPieces :
    ∀ rest : List (Joiner × Tree α),
      Piece.widthAll slots (restPieces rest) = restSlots slots rest
  | [] => rfl
  | (joiner, operand) :: rest => by
      simp [restPieces, Piece.widthAll, Piece.widthAll_append, Piece.width, restSlots,
        widthAll_pieces operand, widthAll_restPieces rest]

end

mutual

/-- The pieces in a row are the text of the tree. -/
theorem printAll_pieces :
    ∀ (t : Tree α) (n : Nat), Piece.printAll text slots n t.pieces = t.write text slots n
  | leaf a, n => by simp [pieces, Piece.printAll, Piece.print, write]
  | group first rest, n => by
      simp [pieces, Piece.printAll, Piece.printAll_append, Piece.print, Piece.width, write,
        widthAll_pieces, printAll_pieces first, printAll_restPieces rest]

theorem printAll_restPieces :
    ∀ (rest : List (Joiner × Tree α)) (n : Nat),
      Piece.printAll text slots n (restPieces rest) = restWrite text slots n rest
  | [], n => rfl
  | (joiner, operand) :: rest, n => by
      simp [restPieces, Piece.printAll, Piece.printAll_append, Piece.print, Piece.width, restWrite,
        widthAll_pieces, printAll_pieces operand, printAll_restPieces rest]

end

end Tree

end SqlFilter

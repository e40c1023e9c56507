import TapeMachine.Instruction

/-!
# Jump tables

For every instruction of a list the index of the loop end it pairs with, if it is a loop end and has a partner.  A
close pairs with the nearest open before it that is still free; a close that finds none is passed over.
-/

namespace TapeMachine

abbrev JumpTable := Array (Option Nat)

namespace JumpTable

/-- Enters the pairs of the instructions from `index` on, where `opens` are the free opens before them, nearest
first. -/
def fill : List Instruction → (index : Nat) → (opens : List Nat) → JumpTable → JumpTable
  | [], _, _, table => table
  | .loopOpen :: rest, index, opens, table => fill rest (index + 1) (index :: opens) table
  | .loopClose :: rest, index, mate :: opens, table =>
    fill rest (index + 1) opens ((table.setIfInBounds mate (some index)).setIfInBounds index (some mate))
  | _ :: rest, index, opens, table => fill rest (index + 1) opens table

def ofList (instructions : List Instruction) : JumpTable :=
  fill instructions 0 [] (Array.replicate instructions.length none)

/-- The partner of the loop end at an index. -/
def partner? (table : JumpTable) (index : Nat) : Option Nat := table[index]?.join

theorem size_fill (instructions : List Instruction) (index : Nat) (opens : List Nat) (table : JumpTable) :
    (fill instructions index opens table).size = table.size := by
  fun_induction fill instructions index opens table <;> simp_all

@[simp] theorem size_ofList (instructions : List Instruction) :
    (ofList instructions).size = instructions.length := by
  simp [ofList, size_fill]

end JumpTable

end TapeMachine

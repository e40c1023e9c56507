import TapeMachine.Proofs.Together
import TapeMachine.Stream.Script.Fault

/-!
# Input that is not read

A read takes its answers from the front of a script and looks at none behind the last that it takes
(`Script.read_append`).  So until a read finds the input at its end, a machine does the same if there is more input
behind it, and leaves what is more unread (`Machine.after_append_reads`).
-/

namespace TapeMachine

namespace Script

/-- The script with these bytes to read. -/
def ofInput (input : List UInt8) (writes : List WriteAnswer) (flushes : List FlushAnswer) : Script :=
  { reads := input.map .byte, writes, flushes }

/-- The script with more answers to reads behind its own. -/
def append (s : Script) (later : List ReadAnswer) : Script := { s with reads := s.reads ++ later }

variable {s : Script} {later : List ReadAnswer}

theorem ofInput_append (x y : List UInt8) (writes : List WriteAnswer) (flushes : List FlushAnswer) :
    ofInput (x ++ y) writes flushes = (ofInput x writes flushes).append (y.map .byte) := by
  unfold ofInput append
  rw [List.map_append]

theorem pull_append {answers : List ReadAnswer} {events : Array StreamEvent}
    (h : (pull answers events).1 ≠ .ok none) :
    pull (answers ++ later) events =
      ((pull answers events).1, (pull answers events).2.1 ++ later, (pull answers events).2.2) := by
  fun_induction pull answers events with
  | case1 => exact absurd rfl h -- only here would a read have come to what is behind
  | case4 rest events ih => exact ih h
  | case5 cause rest events hcause => cases cause <;> first | rfl | exact absurd rfl hcause
  | _ => rfl

theorem read_append (h : s.read.1 ≠ .ok none) : (s.append later).read = (s.read.1, s.read.2.append later) := by
  unfold read append
  rw [pull_append h]

theorem write_append (byte : UInt8) :
    (s.append later).write byte = ((s.write byte).1, (s.write byte).2.append later) := by
  unfold write append
  generalize push s.writes = answer
  obtain ⟨_ | _, writes⟩ := answer <;> rfl

theorem flush_append : (s.append later).flush = (s.flush.1, s.flush.2.append later) := by
  unfold flush append
  rcases s.flushes with _ | ⟨_ | cause, flushes⟩ <;> rfl

/-- The answers to reads that are to come are bytes, the last ones of the input. -/
def HasLeft (s : Script) (input : List UInt8) : Prop := ∃ unread, unread <:+ input ∧ s.reads = unread.map .byte

theorem hasLeft_ofInput (input : List UInt8) {writes : List WriteAnswer} {flushes : List FlushAnswer} :
    (ofInput input writes flushes).HasLeft input := ⟨input, List.suffix_refl input, rfl⟩

theorem HasLeft.read {input : List UInt8} (h : s.HasLeft input) : s.read.2.HasLeft input := by
  obtain ⟨unread, hsuffix, hreads⟩ := h
  unfold Script.read
  rw [hreads]
  cases unread with
  | nil => exact ⟨[], hsuffix, rfl⟩
  | cons byte unread => exact ⟨unread, (List.suffix_cons byte unread).trans hsuffix, rfl⟩

theorem HasLeft.write {input : List UInt8} (h : s.HasLeft input) (byte : UInt8) : (s.write byte).2.HasLeft input := by
  unfold Script.write
  generalize push s.writes = answer
  obtain ⟨_ | _, writes⟩ := answer <;> exact h

theorem HasLeft.flush {input : List UInt8} (h : s.HasLeft input) : s.flush.2.HasLeft input := by
  unfold Script.flush
  split <;> exact h

theorem HasLeft.step {input : List UInt8} {m : Machine} (h : s.HasLeft input) : (m.step s).2.2.HasLeft input :=
  Machine.keeps_step (I := fun (s : Script) => s.HasLeft input) (fun h => h.read) (fun h byte => h.write byte)
    (fun h => h.flush) (fun h _ _ => h) h

end Script

namespace Machine

/-- The next step reads, and finds the input at its end. -/
def MeetsEnd {σ : Type} [Host σ] (m : Machine) (s : σ) : Prop :=
  m.next? = some .input ∧ (Host.flush s).1 = .ok () ∧ (Host.read (Host.flush s).2).1 = .ok none

instance {σ : Type} [Host σ] (m : Machine) (s : σ) : Decidable (m.MeetsEnd s) :=
  inferInstanceAs (Decidable (_ ∧ _ ∧ _))

section Append

variable {later : List ReadAnswer} {m : Machine} {s t : Script}

theorem answerAlike_append {α : Type} {x y : α × Script} (h : y = (x.1, x.2.append later)) :
    Host.AnswerAlike (fun s t => t = s.append later) x y := by
  subst h
  exact ⟨rfl, rfl⟩

theorem coincide_append (ht : t = s.append later) (hm : ¬ m.MeetsEnd s) :
    Coincide (fun s t => t = s.append later) (m.step s) (m.step t) := by
  subst ht
  refine coincide_step rfl ?_ ?_ (fun _ _ => rfl)
  · intro _
    exact answerAlike_append (s.write_append m.tape.cell)
  · intro hi
    refine ⟨answerAlike_append s.flush_append, ?_⟩
    intro s' t' hflush ht'
    -- the flush has succeeded, so only the read can keep the step from finding the end
    have hne : s'.read.1 ≠ .ok none := by
      intro hend
      refine hm ⟨hi, ?_, ?_⟩ <;> rw [hflush]
      exact hend
    rw [ht']
    exact answerAlike_append (Script.read_append hne)

/-- Answers to reads that no read has come to make no difference. -/
theorem after_append_reads {n : ℕ} (hends : ∀ k < n, ¬ (m.after s k).1.MeetsEnd (m.after s k).2) :
    m.answers (s.append later) n = m.answers s n ∧
      m.after (s.append later) n = ((m.after s n).1, (m.after s n).2.append later) := by
  have htogether : Together (fun s t => t = s.append later) m s (s.append later) n :=
    together_of_forall coincide_append rfl fun k hk _ => hends k hk
  have hanswers : m.answers s n = m.answers (s.append later) n :=
    answers_eq_of_forall coincide_append rfl fun k hk _ => hends k hk
  exact ⟨hanswers.symm, Prod.ext htogether.machine_eq.symm htogether.related⟩

end Append

/-- As long as no read finds the input at its end, a program does the same, step by step, if there is more input behind
it, and leaves unread what it leaves of the input, and then what is more. -/
theorem after_more_input (p : Program) (x y : List UInt8) (writes : List WriteAnswer) (flushes : List FlushAnswer)
    {n : ℕ} (hends : ∀ k < n, let reached := (start p).after (Script.ofInput x writes flushes) k
      ¬ reached.1.MeetsEnd reached.2) :
    (start p).answers (Script.ofInput (x ++ y) writes flushes) n =
        (start p).answers (Script.ofInput x writes flushes) n ∧
      ∀ k ≤ n, let reached := (start p).after (Script.ofInput x writes flushes) k
        ∃ unread, unread <:+ x ∧ reached.2.reads = unread.map .byte ∧
          (start p).after (Script.ofInput (x ++ y) writes flushes) k =
            (reached.1, { reached.2 with reads := (unread ++ y).map .byte }) := by
  rw [Script.ofInput_append]
  refine ⟨(after_append_reads hends).1, ?_⟩
  intro k hk reached
  obtain ⟨unread, hsuffix, hreads⟩ : reached.2.HasLeft x :=
    keeps_after (P := fun _ (s : Script) => s.HasLeft x) (fun m _ h => h.step) k (Script.hasLeft_ofInput x)
  refine ⟨unread, hsuffix, hreads, ?_⟩
  rw [(after_append_reads fun j hj => hends j (by omega)).2, Script.append, hreads, List.map_append]

/-- A program that reads how many bytes to copy, and leaves alone what comes behind them. -/
theorem after_more_input_copy :
    let p : Program := ⟨#[.input, .loopOpen, .advance, .input, .output, .retreat, .decrement, .loopClose]⟩
    Program.parse ",[>,.<-]" = .ok p ∧
      (∀ k < 14, let reached := (start p).after (Script.ofInput [2, 7, 9] [] []) k
        ¬ reached.1.MeetsEnd reached.2) ∧
      ((start p).after (Script.ofInput [2, 7, 9] [] []) 14).1.isFinished = true ∧
      ((start p).after (Script.ofInput ([2, 7, 9] ++ [0, 5]) [] []) 14).1.isFinished = true ∧
      ((start p).after (Script.ofInput ([2, 7, 9] ++ [0, 5]) [] []) 14).2.delivered = [7, 9] ∧
      ((start p).after (Script.ofInput ([2, 7, 9] ++ [0, 5]) [] []) 14).2.reads = [.byte 0, .byte 5] := by
  intro p
  have hparse : Program.parse ",[>,.<-]" = .ok p := by rfl
  have hends : ∀ k < 14, let reached := (start p).after (Script.ofInput [2, 7, 9] [] []) k
      ¬ reached.1.MeetsEnd reached.2 := by
    decide +kernel
  have hfinished : ((start p).after (Script.ofInput [2, 7, 9] [] []) 14).1.isFinished = true := by decide +kernel
  have hreads : ((start p).after (Script.ofInput [2, 7, 9] [] []) 14).2.reads = [] := by decide +kernel
  have hdelivered : ((start p).after (Script.ofInput [2, 7, 9] [] []) 14).2.delivered = [7, 9] := by decide +kernel
  obtain ⟨-, hafter⟩ := after_more_input p [2, 7, 9] [0, 5] [] [] hends
  obtain ⟨unread, -, hunread, hreached⟩ := hafter 14 le_rfl
  obtain rfl : unread = [] := List.map_eq_nil_iff.1 (hunread.symm.trans hreads)
  rw [hreached]
  dsimp only [Script.delivered] at hdelivered ⊢
  exact ⟨hparse, hends, hfinished, hfinished, hdelivered, rfl⟩

end Machine

end TapeMachine

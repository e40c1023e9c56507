import TapeMachine.Proofs.Reachable
import TapeMachine.Proofs.Steps
import TapeMachine.Stream.Script.Fault

/-!
# Output before input

A machine never asks for input while something it has written is held back.  All that one instruction adds to the
events on a script is nothing, a byte, or a flush with the read calls that come right behind it (`emission_step`).  So
on the whole way of a machine, whatever the calls on it and the answers of the streams, the last thing before a read
call is a successful flush, or a read call that was interrupted and is now repeated (`calls_readsBehindFlush`).
-/

namespace TapeMachine

/-! ### Orders of events -/

/-- What one instruction can add to the events. -/
inductive Emission : List StreamEvent → Prop
  | nothing : Emission []
  | byte (value : UInt8) : Emission [.accepted value]
  /-- A flush, and as many read calls as it took. -/
  | input (calls : Nat) : Emission (.flushed :: List.replicate calls .readCall)

/-- Before every read call there is a flush, with nothing but read calls in between. -/
def ReadsBehindFlush (events : List StreamEvent) : Prop :=
  ∀ before later, events = before ++ .readCall :: later →
    ∃ sent tries, before = sent ++ .flushed :: List.replicate tries .readCall

theorem readsBehindFlush_nil : ReadsBehindFlush [] := by
  intro before later h
  simp at h

/-- A read call inside an emission has the flush of the same emission before it. -/
theorem Emission.exists_eq_of_readCall {added before later : List StreamEvent} (hadded : Emission added)
    (h : added = before ++ .readCall :: later) : ∃ tries, before = .flushed :: List.replicate tries .readCall := by
  cases hadded with
  | nothing => simp at h
  | byte value =>
    have hlength := congrArg List.length h
    simp only [List.length_cons, List.length_nil, List.length_append] at hlength
    have hbefore : before = [] := List.length_eq_zero_iff.1 (by omega)
    subst hbefore
    cases h
  | input calls =>
    cases before with
    | nil => cases h
    | cons e tries =>
      rw [List.cons_append, List.cons.injEq] at h
      obtain ⟨rfl, h⟩ := h
      have htries : ∀ e ∈ tries, e = StreamEvent.readCall := by
        intro e he
        have hmem : e ∈ List.replicate calls StreamEvent.readCall := by
          rw [h]
          exact List.mem_append_left _ he
        exact (List.mem_replicate.1 hmem).2
      exact ⟨tries.length, by rw [← List.eq_replicate_of_mem htries]⟩

theorem ReadsBehindFlush.append {events added : List StreamEvent} (h : ReadsBehindFlush events)
    (hadded : Emission added) : ReadsBehindFlush (events ++ added) := by
  -- a read call that is added comes behind all the events so far
  have hnew : ∀ before later, added = before ++ .readCall :: later →
      ∃ sent tries, events ++ before = sent ++ .flushed :: List.replicate tries .readCall := by
    intro before later heq
    obtain ⟨tries, rfl⟩ := hadded.exists_eq_of_readCall heq
    exact ⟨events, tries, rfl⟩
  intro before later heq
  rcases List.append_eq_append_iff.1 heq with ⟨more, rfl, hmore⟩ | ⟨more, hmore, hlater⟩
  · exact hnew more later hmore
  · cases more with
    | nil =>
      rw [List.append_nil] at hmore
      subst hmore
      have := hnew [] later hlater.symm
      rwa [List.append_nil] at this
    | cons e more =>
      rw [List.cons_append, List.cons.injEq] at hlater
      obtain ⟨rfl, -⟩ := hlater
      exact h before more hmore

/-- What was written before a read call has been flushed since. -/
theorem flushed_mem_of_accepted {before sent rest : List StreamEvent} {byte : UInt8}
    (h : ∃ sent tries, before = sent ++ .flushed :: List.replicate tries .readCall)
    (hsent : before = sent ++ .accepted byte :: rest) : .flushed ∈ rest := by
  obtain ⟨first, tries, hbefore⟩ := h
  rw [hbefore] at hsent
  rcases List.append_eq_append_iff.1 hsent with ⟨more, -, hmore⟩ | ⟨more, -, hmore⟩
  · -- the byte cannot stand behind the flush
    have hmem : StreamEvent.accepted byte ∈ StreamEvent.flushed :: List.replicate tries .readCall := by
      rw [hmore]
      exact List.mem_append_right _ List.mem_cons_self
    simp [List.mem_replicate] at hmem
  · cases more with
    | nil => cases hmore
    | cons e more =>
      rw [List.cons_append, List.cons.injEq] at hmore
      obtain ⟨-, rfl⟩ := hmore
      exact List.mem_append_right _ List.mem_cons_self

/-! ### What calls on a script add to its events -/

namespace Script

theorem events_pull (answers : List ReadAnswer) (events : Array StreamEvent) :
    ∃ calls, (pull answers events).2.2.toList = events.toList ++ List.replicate calls .readCall := by
  fun_induction pull answers events with
  | case4 rest events ih =>
    obtain ⟨calls, ih⟩ := ih
    exact ⟨calls + 1, by rw [ih, Array.toList_push, List.append_assoc, List.replicate_succ]; rfl⟩
  | _ => exact ⟨1, by rw [Array.toList_push]; rfl⟩

theorem events_read (s : Script) :
    ∃ calls, s.read.2.events.toList = s.events.toList ++ List.replicate calls .readCall :=
  events_pull s.reads s.events

theorem events_write (byte : UInt8) (s : Script) :
    ∃ added, Emission added ∧ (s.write byte).2.events.toList = s.events.toList ++ added := by
  unfold write
  split
  · exact ⟨_, .byte byte, Array.toList_push⟩
  · exact ⟨_, .nothing, (List.append_nil _).symm⟩

theorem events_flush_of_ok {s s' : Script} (h : s.flush = (.ok (), s')) :
    s'.events.toList = s.events.toList ++ [.flushed] := by
  unfold flush at h
  split at h <;> cases h <;> exact Array.toList_push

/-- A flush that fails leaves no trace. -/
theorem events_flush_of_error {s s' : Script} {cause : IoError} (h : s.flush = (.error cause, s')) :
    s'.events = s.events := by
  unfold flush at h
  split at h <;> cases h
  rfl

end Script

/-! ### What a machine adds to the events -/

namespace Machine

variable {m : Machine} {s : Script}

theorem emission_input (m : Machine) (s : Script) :
    ∃ added, Emission added ∧ (m.perform s .input).2.events.toList = s.events.toList ++ added := by
  dsimp only [perform]
  split
  · rename_i cause s₁ hflush
    exact ⟨_, .nothing, by rw [Script.events_flush_of_error hflush, List.append_nil]⟩
  · rename_i s₁ hflush
    have hflushed := Script.events_flush_of_ok hflush
    obtain ⟨calls, hread⟩ := s₁.events_read
    rw [hflushed, List.append_assoc] at hread
    refine ⟨_, .input calls, ?_⟩
    change _ = s.events.toList ++ ([.flushed] ++ List.replicate calls .readCall)
    rw [← hread]
    split <;> rename_i heq <;> exact (congrArg (fun answer => answer.2.events.toList) heq).symm

theorem events_jump (m : Machine) (s : Script) : (m.jump s).2.events = s.events := by
  unfold jump
  split <;> rfl

theorem emission_perform (m : Machine) (s : Script) (i : Instruction) :
    ∃ added, Emission added ∧ (m.perform s i).2.events.toList = s.events.toList ++ added := by
  have hjump : ∃ added, Emission added ∧ (m.jump s).2.events.toList = s.events.toList ++ added :=
    ⟨_, .nothing, by rw [m.events_jump, List.append_nil]⟩
  have hnone : ∃ added, Emission added ∧ s.events.toList = s.events.toList ++ added :=
    ⟨_, .nothing, (List.append_nil _).symm⟩
  cases i with
  | input => exact m.emission_input s
  | output =>
    dsimp only [perform]
    obtain ⟨added, hadded, hwrite⟩ := s.events_write m.tape.cell
    refine ⟨added, hadded, ?_⟩
    rw [← hwrite]
    split <;> rename_i heq <;> exact (congrArg (fun answer => answer.2.events.toList) heq).symm
  | loopOpen =>
    dsimp only [perform]
    split
    · exact hjump
    · exact hnone
  | loopClose =>
    dsimp only [perform]
    split
    · exact hnone
    · exact hjump
  | _ => exact hnone

theorem emission_step (m : Machine) (s : Script) :
    ∃ added, Emission added ∧ (m.step s).2.2.events.toList = s.events.toList ++ added := by
  unfold step
  split
  · exact ⟨_, .nothing, (List.append_nil _).symm⟩
  · rename_i i _
    have := m.emission_perform s i
    split <;> rename_i heq <;> rwa [heq] at this

theorem calls_readsBehindFlush (h : ReadsBehindFlush s.events.toList) (cs : List (Call Script)) :
    ReadsBehindFlush (m.calls s cs).2.2.events.toList := by
  refine keeps_calls (P := fun _ s => ReadsBehindFlush s.events.toList) ?_ cs h
  intro m s h
  obtain ⟨added, hadded, heq⟩ := m.emission_step s
  rw [heq]
  exact h.append hadded

/-- An input whose flush fails makes no read call. -/
theorem step_input_of_flush_error {cause : IoError} (hi : m.next? = some .input) (hflush : s.flush.1 = .error cause) :
    (m.step s).1 = .error (.io cause) ∧ (m.step s).2.2.events = s.events ∧ (m.step s).2.2.reads = s.reads := by
  have heq : s.flush = (.error cause, s.flush.2) := Prod.ext hflush rfl
  rw [step_of_flush_error hi heq]
  exact ⟨rfl, Script.events_flush_of_error heq, s.reads_flush⟩

theorem Reachable.program_eq {p : Program} {start : Script} (h : Reachable p start m s) : m.program = p :=
  Reachable.keeps (P := fun m _ => m.program = p) (fun m s hm => (m.program_step s).trans hm) h rfl

/-- Whatever is done with a machine, and whatever the streams answer: before every read call stands a successful flush
with nothing but read calls in between, so that every byte written before it has been flushed; and an input whose flush
fails makes no read call. -/
theorem calls_flushed_before_read (p : Program) (reads : List ReadAnswer) (writes : List WriteAnswer)
    (flushes : List FlushAnswer) :
    let script : Script := { reads, writes, flushes }
    (∀ (cs : List (Call Script)) (before later : List StreamEvent),
        ((start p).calls script cs).2.2.events.toList = before ++ .readCall :: later →
          (∃ sent tries, before = sent ++ .flushed :: List.replicate tries .readCall) ∧
            ∀ sent byte rest, before = sent ++ .accepted byte :: rest → .flushed ∈ rest) ∧
      ∀ (m : Machine) (s : Script) (cause : IoError), Reachable p script m s →
        p.instructions[m.ip]? = some .input → (Host.flush s).1 = .error cause →
          (m.step s).1 = .error (.io cause) ∧ (m.step s).2.2.events = s.events ∧ (m.step s).2.2.reads = s.reads := by
  intro script
  constructor
  · intro cs before later heq
    have hflush := calls_readsBehindFlush (m := start p) (s := script) readsBehindFlush_nil cs before later heq
    exact ⟨hflush, fun sent byte rest hsent => flushed_mem_of_accepted hflush hsent⟩
  · intro m s cause hreach hi hflush
    rw [← hreach.program_eq] at hi
    exact step_input_of_flush_error (show m.next? = some .input from hi) hflush

/-- The first read is interrupted and made again; the flush of the second input fails, and then its read. -/
theorem calls_flushed_before_read_retried :
    let p : Program := ⟨#[.input, .output, .input]⟩
    let script : Script :=
      { reads := [.fail .interrupted, .byte 2, .fail .wouldBlock], flushes := [.done, .fail .brokenPipe] }
    let cs : List (Call Script) := [.run 9 {}, .run 9 {}, .step]
    let before : List StreamEvent := [.flushed, .readCall, .readCall, .accepted 2, .flushed]
    ((start p).calls script cs).2.2.events.toList = before ++ .readCall :: [.flushed, .readCall] ∧
      (∃ sent tries, before = sent ++ .flushed :: List.replicate tries .readCall) ∧
        (((start p).after script 2).1.step ((start p).after script 2).2).1 = .error (.io .brokenPipe) ∧
          (((start p).after script 2).1.step ((start p).after script 2).2).2.2.reads = [.fail .wouldBlock] := by
  intro p script cs before
  obtain ⟨hcalls, hinput⟩ := calls_flushed_before_read p script.reads script.writes script.flushes
  have hevents : ((start p).calls script cs).2.2.events.toList = before ++ .readCall :: [.flushed, .readCall] := by
    decide +kernel
  obtain ⟨hflush, -⟩ := hcalls cs before _ hevents
  have hreach : Reachable p script ((start p).after script 2).1 ((start p).after script 2).2 := ⟨[.step, .step], by rfl⟩
  obtain ⟨hfail, -, hreads⟩ := hinput _ _ .brokenPipe hreach (by rfl) (by rfl)
  exact ⟨hevents, hflush, hfail, hreads.trans (by decide +kernel)⟩

end Machine

end TapeMachine

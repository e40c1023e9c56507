import TapeMachine.Proofs.FlushOrder
import TapeMachine.Proofs.Together
import TapeMachine.Session

/-!
# Interruptions

A read or a write that is interrupted is made again with the next answer, and nothing but the read calls tells of it.
So on two scripts that are the same but for interruptions and read calls (`Script.Indistinct`) every call is answered
alike, and leaves two scripts of which this is true again (`Script.Indistinct.read`, `Script.Indistinct.write`,
`Script.Indistinct.flush`).  They are not told apart by a step, by a run, whatever bounds it
(`Session.coincide_perform`), or by a session, in which only the number of read calls may differ
(`Session.answers_of_interspersed`).
-/

namespace TapeMachine

/-! ### Answers and events -/

/-- Whether a read is over with this answer.  After an interruption it is made again. -/
def ReadAnswer.isFinal : ReadAnswer → Bool
  | fail .interrupted => false
  | _ => true

/-- Whether a write is over with this answer.  After an interruption it is made again. -/
def WriteAnswer.isFinal : WriteAnswer → Bool
  | fail .interrupted => false
  | _ => true

/-- Whether something is seen where the output goes: a byte that arrives, or a flush. -/
def StreamEvent.isOutput : StreamEvent → Bool
  | readCall => false
  | _ => true

/-- The second list is the first one with an element put in, at any places and any number of times. -/
inductive Interspersed {α : Type} (x : α) : List α → List α → Prop
  | done : Interspersed x [] []
  | keep (a : α) {l l' : List α} : Interspersed x l l' → Interspersed x (a :: l) (a :: l')
  | insert {l l' : List α} : Interspersed x l l' → Interspersed x l (x :: l')

theorem Interspersed.filter_eq {α : Type} {x : α} {l l' : List α} (h : Interspersed x l l') {p : α → Bool}
    (hx : p x = false) : l'.filter p = l.filter p := by
  induction h with
  | done => rfl
  | keep a _ ih => rw [List.filter_cons, List.filter_cons, ih]
  | insert _ ih => rw [List.filter_cons_of_neg (by simp [hx]), ih]

namespace Script

/-- Two scripts are the same, but for interruptions that are to come and read calls that were made. -/
structure Indistinct (s t : Script) : Prop where
  reads_eq : s.reads.filter ReadAnswer.isFinal = t.reads.filter ReadAnswer.isFinal
  writes_eq : s.writes.filter WriteAnswer.isFinal = t.writes.filter WriteAnswer.isFinal
  flushes_eq : s.flushes = t.flushes
  events_eq : s.events.toList.filter StreamEvent.isOutput = t.events.toList.filter StreamEvent.isOutput
  accepted_eq : s.accepted = t.accepted

/-! ### Single calls -/

/-- However often a read is made again, nothing is seen of it where the output goes. -/
theorem filter_pull (answers : List ReadAnswer) (events : Array StreamEvent) :
    (pull answers events).2.2.toList.filter StreamEvent.isOutput = events.toList.filter StreamEvent.isOutput := by
  have hcall (events : Array StreamEvent) :
      (events.push .readCall).toList.filter StreamEvent.isOutput = events.toList.filter StreamEvent.isOutput := by
    simp [StreamEvent.isOutput]
  fun_induction pull answers events with
  | case4 rest events ih => rw [ih, hcall]
  | _ => exact hcall _

theorem pull_filter (answers : List ReadAnswer) (events events' : Array StreamEvent) :
    (pull (answers.filter ReadAnswer.isFinal) events').1 = (pull answers events).1 ∧
      (pull (answers.filter ReadAnswer.isFinal) events').2.1 = (pull answers events).2.1.filter ReadAnswer.isFinal := by
  fun_induction pull answers events with
  | case4 rest events ih => exact ih
  | case5 cause rest events hcause =>
    cases cause with
    | interrupted => exact absurd rfl hcause
    | _ => exact ⟨rfl, rfl⟩
  | _ => exact ⟨rfl, rfl⟩

theorem push_filter (answers : List WriteAnswer) :
    push (answers.filter WriteAnswer.isFinal) = ((push answers).1, (push answers).2.filter WriteAnswer.isFinal) := by
  fun_induction push answers with
  | case4 rest ih => exact ih
  | case5 cause rest hcause =>
    cases cause with
    | interrupted => exact absurd rfl hcause
    | _ => rfl
  | _ => rfl

open Host (AnswerAlike)

theorem answerAlike_push {answers answers' : List WriteAnswer}
    (h : answers.filter WriteAnswer.isFinal = answers'.filter WriteAnswer.isFinal) :
    AnswerAlike (·.filter WriteAnswer.isFinal = ·.filter WriteAnswer.isFinal) (push answers) (push answers') := by
  have hpush := push_filter answers
  rw [h, push_filter, Prod.mk.injEq] at hpush
  exact ⟨hpush.1.symm, hpush.2.symm⟩

namespace Indistinct

variable {s t : Script}

theorem read (h : s.Indistinct t) : AnswerAlike Indistinct s.read t.read := by
  obtain ⟨hanswer, hreads⟩ := pull_filter s.reads s.events #[]
  obtain ⟨hanswer', hreads'⟩ := pull_filter t.reads t.events #[]
  rw [h.reads_eq] at hanswer hreads
  refine ⟨hanswer.symm.trans hanswer', hreads.symm.trans hreads', h.writes_eq, h.flushes_eq, ?_, h.accepted_eq⟩
  change (pull s.reads s.events).2.2.toList.filter _ = (pull t.reads t.events).2.2.toList.filter _
  rw [filter_pull, filter_pull, h.events_eq]

theorem write (h : s.Indistinct t) (byte : UInt8) : AnswerAlike Indistinct (s.write byte) (t.write byte) := by
  obtain ⟨answer, writes, writes', hs, ht, hwrites⟩ := (answerAlike_push h.writes_eq).exists_eq
  unfold Script.write
  rw [hs, ht]
  cases answer with
  | error cause => exact ⟨rfl, h.reads_eq, hwrites, h.flushes_eq, h.events_eq, h.accepted_eq⟩
  | ok =>
    refine ⟨rfl, h.reads_eq, hwrites, h.flushes_eq, ?_, congrArg (· + 1) h.accepted_eq⟩
    simp [h.events_eq]

theorem flush (h : s.Indistinct t) : AnswerAlike Indistinct s.flush t.flush := by
  have hevents : (s.events.push .flushed).toList.filter StreamEvent.isOutput =
      (t.events.push .flushed).toList.filter StreamEvent.isOutput := by
    simp [h.events_eq]
  unfold Script.flush
  rw [h.flushes_eq]
  split
  · exact ⟨rfl, h.reads_eq, h.writes_eq, rfl, hevents, h.accepted_eq⟩
  · exact ⟨rfl, h.reads_eq, h.writes_eq, rfl, hevents, h.accepted_eq⟩
  · exact ⟨rfl, h.reads_eq, h.writes_eq, rfl, h.events_eq, h.accepted_eq⟩

end Indistinct

end Script

/-! ### Steps and requests -/

namespace Machine

variable {m : Machine} {s t : Script}

theorem coincide_of_indistinct (h : s.Indistinct t) : Coincide Script.Indistinct (m.step s) (m.step t) :=
  coincide_step h (fun _ => h.write m.tape.cell) (fun _ => ⟨h.flush, fun _ hflushed => hflushed.read⟩) (fun _ _ => h)

/-- A step adds to the events so far. -/
theorem prefix_events_step (m : Machine) (s : Script) : s.events.toList <+: (m.step s).2.2.events.toList := by
  obtain ⟨added, -, hevents⟩ := m.emission_step s
  exact ⟨added, hevents.symm⟩

end Machine

namespace Session

open Machine (Coincide LimitedAlike)

variable {m : Machine} {s t : Script}

/-- The flags of two runs count the same writes. -/
theorem limitedAlike_limits (h : s.Indistinct t) (steps : Option ℕ) (cancel : Option Bool) (cancelAfter : Option ℕ) :
    LimitedAlike Script.Indistinct (limits steps cancel cancelAfter s) (limits steps cancel cancelAfter t) := by
  refine ⟨rfl, fun s' t' h' n => ?_⟩
  unfold limits isCancelled
  rw [h.accepted_eq]
  split
  · simp only [Option.any_some]
    rw [h'.accepted_eq]
  · rfl

theorem coincide_perform (h : s.Indistinct t) (fuel : ℕ) (request : Request) :
    Coincide Script.Indistinct (perform fuel m s request) (perform fuel m t request) := by
  cases request with
  | look => exact ⟨rfl, rfl, h⟩
  | step =>
    obtain ⟨answer, m', s', t', hs, ht, h'⟩ := (Machine.coincide_of_indistinct (m := m) h).exists_eq
    unfold perform
    rw [hs, ht]
    cases answer with
    | ok => exact ⟨rfl, rfl, h'⟩
    | error => exact ⟨rfl, rfl, h'⟩
  | run steps cancel cancelAfter =>
    have hrun : Coincide Script.Indistinct (m.runFor fuel (limits steps cancel cancelAfter s) s)
        (m.runFor fuel (limits steps cancel cancelAfter t) t) :=
      Machine.coincide_runFor (Q := fun _ _ => False) (fun h _ => Machine.coincide_of_indistinct h)
        (limitedAlike_limits h steps cancel cancelAfter) h (fun _ _ _ _ _ => not_false)
    obtain ⟨ended, m', s', t', hs, ht, h'⟩ := hrun.exists_eq
    unfold perform
    dsimp only
    rw [hs, ht]
    rcases ended with _ | _ | _
    · exact ⟨rfl, rfl, h'⟩
    · exact ⟨rfl, rfl, h'⟩
    · exact ⟨rfl, rfl, h'⟩

/-! ### Sessions -/

theorem prefix_events_perform (fuel : ℕ) (m : Machine) (s : Script) (request : Request) :
    s.events.toList <+: (perform fuel m s request).2.2.events.toList := by
  have hstep (m : Machine) (s' : Script) (h : s.events.toList <+: s'.events.toList) :
      s.events.toList <+: (m.step s').2.2.events.toList := h.trans (m.prefix_events_step s')
  cases request with
  | look => exact List.prefix_refl _
  | step =>
    have hevents := hstep m s (List.prefix_refl _)
    dsimp only [perform]
    split <;> rename_i heq <;> rw [heq] at hevents <;> exact hevents
  | run steps cancel cancelAfter =>
    have hevents : s.events.toList <+: (m.runFor fuel (limits steps cancel cancelAfter s) s).2.2.events.toList :=
      Machine.keeps_runUntil (P := fun _ (s' : Script) => s.events.toList <+: s'.events.toList) hstep _ _ fuel
        (List.prefix_refl _)
    dsimp only [perform]
    split <;> rename_i heq <;> rw [heq] at hevents <;> exact hevents

/-- The answer without the read calls among its events. -/
def Answer.withoutReadCalls (a : Answer) : Answer := { a with events := a.events.filter StreamEvent.isOutput }

/-- The same output has been added to the same output. -/
theorem filter_extract_events {s' t' : Script} (h : s.Indistinct t) (h' : s'.Indistinct t')
    (hs : s.events.toList <+: s'.events.toList) (ht : t.events.toList <+: t'.events.toList) :
    (s'.events.extract s.events.size).toList.filter StreamEvent.isOutput =
      (t'.events.extract t.events.size).toList.filter StreamEvent.isOutput := by
  have hextract {s s' : Script} {added : List StreamEvent} (h : s.events.toList ++ added = s'.events.toList) :
      (s'.events.extract s.events.size).toList = added := by
    have hsize : s'.events.size = s.events.size + added.length := by
      rw [← Array.length_toList, ← h, List.length_append, Array.length_toList]
    rw [Array.toList_extract, ← h, hsize]
    simp
  obtain ⟨added, hs⟩ := hs
  obtain ⟨added', ht⟩ := ht
  have hevents := h'.events_eq
  rw [← hs, ← ht, List.filter_append, List.filter_append, h.events_eq] at hevents
  rw [hextract hs, hextract ht]
  exact List.append_cancel_left hevents

theorem answers_of_indistinct (h : s.Indistinct t) (fuel : ℕ) (requests : List Request) :
    (answers fuel m s requests).map Answer.withoutReadCalls =
      (answers fuel m t requests).map Answer.withoutReadCalls := by
  induction requests generalizing m s t with
  | nil => rfl
  | cons request requests ih =>
    obtain ⟨result, m', s', t', hs, ht, h'⟩ := (coincide_perform (m := m) h fuel request).exists_eq
    have hprefix := prefix_events_perform fuel m s request
    have hprefix' := prefix_events_perform fuel m t request
    rw [hs] at hprefix
    rw [ht] at hprefix'
    unfold answers
    rw [hs, ht]
    cases result with
    | none => rfl
    | some result =>
      dsimp only
      rw [List.map_cons, List.map_cons, ih h']
      unfold Answer.withoutReadCalls
      dsimp only
      rw [filter_extract_events h h' hprefix hprefix']

/-- Interruptions of reads and writes, wherever they are put into the answers of the streams and however many, are
never seen: to whatever is requested of a machine, the result, the machine after it and the bytes and flushes that have
reached the output are the same. -/
theorem answers_of_interspersed (p : Program) {reads reads' : List ReadAnswer} {writes writes' : List WriteAnswer}
    (hreads : Interspersed (.fail .interrupted) reads reads')
    (hwrites : Interspersed (.fail .interrupted) writes writes') (flushes : List FlushAnswer) (fuel : ℕ)
    (requests : List Request) :
    (answers fuel (.start p) { reads := reads', writes := writes', flushes } requests).map Answer.withoutReadCalls =
      (answers fuel (.start p) { reads, writes, flushes } requests).map Answer.withoutReadCalls := by
  have h : Script.Indistinct { reads := reads', writes := writes', flushes } { reads, writes, flushes } :=
    ⟨hreads.filter_eq rfl, hwrites.filter_eq rfl, rfl, rfl, rfl⟩
  exact answers_of_indistinct h fuel requests

/-- Interruptions before and behind every other answer.  That of the flush is no such interruption, and fails. -/
theorem answers_of_interspersed_echo :
    let p : Program := ⟨#[.input, .loopOpen, .output, .input, .loopClose]⟩
    let reads := [.byte 2, .fail .wouldBlock, .byte 3]
    let reads' := [.fail .interrupted, .byte 2, .fail .interrupted, .fail .wouldBlock, .fail .interrupted,
      .fail .interrupted, .byte 3, .fail .interrupted]
    let writes := [.fail .brokenPipe, .accept, .takeNothing]
    let writes' := [.fail .interrupted, .fail .brokenPipe, .fail .interrupted, .accept, .fail .interrupted,
      .takeNothing, .fail .interrupted]
    let flushes := [.fail .interrupted]
    let requests := [.step, .run (some 3) none none, .run none none (some 1), .run none none none, .run none none none,
      .run none none (some 1), .run (some 4) none none, .look]
    let seen (a : Answer) := (a.result, a.machine.steps, a.events)
    Program.parse ",[.,]" = .ok p ∧ Interspersed (.fail .interrupted) reads reads' ∧
      Interspersed (.fail .interrupted) writes writes' ∧
      ((answers 9 (.start p) { reads := reads', writes := writes', flushes } requests).map
        Answer.withoutReadCalls).map seen = [
          (.failed (.io .interrupted), 1, []), (.failed (.io .brokenPipe), 4, [.flushed]),
          (.ended ⟨.cancelled, 5⟩, 5, [.accepted 2]), (.failed (.io .wouldBlock), 6, [.flushed]),
          (.failed (.io .wroteNothing), 9, [.flushed]), (.ended ⟨.cancelled, 10⟩, 10, [.accepted 3]),
          (.ended ⟨.stepLimit, 14⟩, 14, [.flushed, .accepted 3, .flushed]), (.looked, 14, [])] := by
  intro p reads reads' writes writes' flushes requests seen
  have hparse : Program.parse ",[.,]" = .ok p := by rfl
  have hreads : Interspersed (.fail .interrupted) reads reads' :=
    .insert (.keep _ (.insert (.keep _ (.insert (.insert (.keep _ (.insert .done)))))))
  have hwrites : Interspersed (.fail .interrupted) writes writes' :=
    .insert (.keep _ (.insert (.keep _ (.insert (.keep _ (.insert .done))))))
  refine ⟨hparse, hreads, hwrites, ?_⟩
  rw [answers_of_interspersed p hreads hwrites flushes 9 requests]
  decide +kernel

end Session

end TapeMachine

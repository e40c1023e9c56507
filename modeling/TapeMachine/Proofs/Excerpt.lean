import Mathlib.Data.Nat.Count
import TapeMachine.Proofs.Pipe

/-!
# Programs with instructions left out

An `Excerpt` of a program keeps some of its instructions, in order and with their partners, and leaves out the others.
If what it leaves out never does anything in a run on a pipe but go on (`Machine.Idles`), the runs of both programs go
side by side: each step of the program is a step of the excerpt as well, or else dispatches an instruction that is left
out (`Excerpt.exists_follows`); and since no run idles for ever, the excerpt never steps to where the program does not
get (`Excerpt.exists_followed`).  So both runs end, or both go on for ever and print the same
(`Excerpt.finish_or_go_on`); and when they end, it is with the same tape and the same streams, and the step counts
differ by the number of dispatches that are left out (`Excerpt.runs_eq`).
-/

namespace TapeMachine

/-- The second program is made of the instructions of the first one that are kept; `place` is the index that the
first instruction kept from an index on has in it. -/
structure Excerpt (p q : Program) (Kept : Nat → Prop) (place : Nat → Nat) : Prop where
  balanced : Balanced p.instructions.toList
  balanced_excerpt : Balanced q.instructions.toList
  place_zero : place 0 = 0
  place_succ : ∀ {k}, Kept k → place (k + 1) = place k + 1
  kept_size : Kept p.size
  getElem? : ∀ {k}, Kept k → q.instructions[place k]? = p.instructions[k]?
  partners : ∀ {a b}, Partners p.instructions.toList a b → Kept a ∨ Kept b →
    Kept a ∧ Kept b ∧ Partners q.instructions.toList (place a) (place b)

namespace Machine

/-- One machine executes the excerpt and is at the place of the other, some steps behind. -/
structure Follows (q : Program) (place : Nat → Nat) (behind : Nat) (m m' : Machine) : Prop where
  executes : m'.Executes q
  tape : m'.tape = m.tape
  ip : m'.ip = place m.ip
  dispatched : m'.dispatched + behind = m.dispatched

/-- A step that goes on to an index with the same place, and does nothing else. -/
structure Idles (place : Nat → Nat) (m : Machine) (pipe : Pipe) : Prop where
  tape : (m.step pipe).2.1.tape = m.tape
  streams : (m.step pipe).2.2 = pipe
  ip_lt : m.ip < (m.step pipe).2.1.ip
  place : place (m.step pipe).2.1.ip = place m.ip

/-- How many of the first steps dispatch an instruction that is left out. -/
def leftOut (Kept : Nat → Prop) [DecidablePred Kept] (m : Machine) (pipe : Pipe) (n : Nat) : Nat :=
  Nat.count (fun j => ¬ Kept (m.after pipe j).1.ip) n

section LeftOut

variable {Kept : Nat → Prop} [DecidablePred Kept] {m : Machine} {pipe : Pipe} {n : Nat}

@[simp] theorem leftOut_zero : m.leftOut Kept pipe 0 = 0 := rfl

theorem leftOut_succ_of_kept (h : Kept (m.after pipe n).1.ip) :
    m.leftOut Kept pipe (n + 1) = m.leftOut Kept pipe n := by
  rw [leftOut, Nat.count_succ, if_neg (not_not_intro h)]
  rfl

theorem leftOut_succ_of_not_kept (h : ¬ Kept (m.after pipe n).1.ip) :
    m.leftOut Kept pipe (n + 1) = m.leftOut Kept pipe n + 1 := by
  rw [leftOut, Nat.count_succ, if_pos h]
  rfl

end LeftOut

end Machine

namespace Excerpt

open Machine

variable {p q : Program} {Kept : Nat → Prop} {place : Nat → Nat} (h : Excerpt p q Kept place)

include h

/-! ### One step -/

theorem size_le_iff {k : Nat} (hk : Kept k) : q.size ≤ place k ↔ p.size ≤ k := by
  rw [Program.size, Program.size, ← Array.getElem?_eq_none_iff, ← Array.getElem?_eq_none_iff, h.getElem? hk]

section Step

variable {m m' : Machine} {behind : Nat} (hm : m.Executes p) (hf : Follows q place behind m m') (hkept : Kept m.ip)

include hm hf hkept

theorem isFinished_follower_iff : m'.isFinished = true ↔ m.isFinished = true := by
  rw [isFinished_iff, isFinished_iff, hf.executes.program, hm.program, hf.ip]
  exact h.size_le_iff hkept

theorem next?_follower : m'.next? = m.next? := by
  rw [next?, next?, hm.program, hf.executes.program, hf.ip, h.getElem? hkept]

theorem follows_step_plain {i : Instruction} (hi : m.next? = some i) (hplain : i.isPlain = true) (pipe : Pipe) :
    (m'.step pipe).2.2 = (m.step pipe).2.2 ∧ Follows q place behind (m.step pipe).2.1 (m'.step pipe).2.1 := by
  have hexecutes := hf.executes.step h.balanced_excerpt pipe
  rw [step_plain ((h.next?_follower hm hf hkept).trans hi) hplain, hf.tape] at hexecutes ⊢
  rw [step_plain hi hplain]
  refine ⟨rfl, hexecutes, rfl, (congrArg (· + 1) hf.ip).trans (h.place_succ hkept).symm, ?_⟩
  rw [← hf.dispatched, Nat.add_right_comm]

/-- At the ends of a loop that is kept both go the same way. -/
theorem follows_step_end {a b : Nat} (hab : Partners p.instructions.toList a b) (hip : m.ip = a ∨ m.ip = b)
    (pipe : Pipe) :
    (m'.step pipe).2.2 = (m.step pipe).2.2 ∧ Follows q place behind (m.step pipe).2.1 (m'.step pipe).2.1 := by
  have hkeptEnd : Kept a ∨ Kept b := by
    rcases hip with hip | hip
    · exact .inl (hip ▸ hkept)
    · exact .inr (hip ▸ hkept)
  obtain ⟨ha, hb, hends⟩ := h.partners hab hkeptEnd
  have hip' : m'.ip = place a ∨ m'.ip = place b := by
    rw [hf.ip]
    exact hip.imp (congrArg place) (congrArg place)
  have hplace : (if m.tape.cell = 0 then place b else place a) + 1 = place ((if m.tape.cell = 0 then b else a) + 1) := by
    split
    · exact (h.place_succ hb).symm
    · exact (h.place_succ ha).symm
  have hexecutes := hf.executes.step h.balanced_excerpt pipe
  rw [hf.executes.step_end hends hip', hf.tape] at hexecutes ⊢
  rw [hm.step_end hab hip]
  refine ⟨rfl, hexecutes, rfl, hplace, ?_⟩
  rw [← hf.dispatched, Nat.add_right_comm]

/-- Both dispatch the same instruction, if it is kept. -/
theorem follows_step (pipe : Pipe) :
    (m'.step pipe).2.2 = (m.step pipe).2.2 ∧ Follows q place behind (m.step pipe).2.1 (m'.step pipe).2.1 := by
  cases hi : m.next? with
  | none =>
    have hend : m.isFinished = true := isFinished_iff.2 (Array.getElem?_eq_none_iff.1 hi)
    rw [step_of_isFinished hend, step_of_isFinished ((h.isFinished_follower_iff hm hf hkept).2 hend)]
    exact ⟨rfl, hf⟩
  | some i =>
    by_cases hplain : i.isPlain = true
    · exact h.follows_step_plain hm hf hkept hi hplain pipe
    · rw [next?, hm.program, ← Array.getElem?_toList] at hi
      obtain ⟨a, b, hab, hip⟩ := (h.balanced.hasPartner hi (by simpa using hplain)).exists_ends
      exact h.follows_step_end hm hf hkept hab hip pipe

end Step

/-! ### Side by side -/

variable [DecidablePred Kept] {pipe : Pipe}
  (hidles : ∀ n, ¬ Kept ((start p).after pipe n).1.ip →
    Idles place ((start p).after pipe n).1 ((start p).after pipe n).2)

include hidles

theorem exists_follows (n : Nat) : ∃ k, k + (start p).leftOut Kept pipe n = n ∧
    ((start q).after pipe k).2 = ((start p).after pipe n).2 ∧
      Follows q place ((start p).leftOut Kept pipe n) ((start p).after pipe n).1 ((start q).after pipe k).1 := by
  induction n with
  | zero => exact ⟨0, rfl, rfl, executes_start q, rfl, h.place_zero.symm, rfl⟩
  | succ n ih =>
    obtain ⟨k, hk, hstreams, hf⟩ := ih
    have hm := (executes_start p).after h.balanced pipe n
    rw [after_succ_eq_step]
    by_cases hkept : Kept ((start p).after pipe n).1.ip
    · rw [leftOut_succ_of_kept hkept]
      refine ⟨k + 1, by omega, ?_⟩
      rw [after_succ_eq_step, hstreams]
      exact h.follows_step hm hf hkept _
    · -- the excerpt waits
      obtain ⟨htape, hsame, -, hplace⟩ := hidles n hkept
      have hgo : ¬ ((start p).after pipe n).1.isFinished = true := fun hend =>
        hkept (hm.ip_eq_size hend ▸ h.kept_size)
      rw [leftOut_succ_of_not_kept hkept]
      refine ⟨k, by omega, hstreams.trans hsame.symm, hf.executes, hf.tape.trans htape.symm,
        hf.ip.trans hplace.symm, ?_⟩
      rw [dispatched_step hgo, ← hf.dispatched, Nat.add_assoc]

/-- No run idles for ever, since the index goes up and does not leave the program. -/
theorem exists_kept_from (n : Nat) : ∃ k, Kept ((start p).after pipe k).1.ip ∧
    (start p).leftOut Kept pipe k + n = (start p).leftOut Kept pipe n + k := by
  induction hleft : p.size - ((start p).after pipe n).1.ip using Nat.strongRecOn generalizing n with
  | ind left ih =>
    by_cases hkept : Kept ((start p).after pipe n).1.ip
    · exact ⟨n, hkept, rfl⟩
    · have hlt := (hidles n hkept).ip_lt
      have hle := ((executes_start p).after h.balanced pipe (n + 1)).ip_le
      rw [← after_succ_eq_step] at hlt
      obtain ⟨k, hk, hcount⟩ := ih _ (by omega) (n + 1) rfl
      rw [leftOut_succ_of_not_kept hkept] at hcount
      exact ⟨k, hk, by omega⟩

/-- However often the excerpt steps, the program comes to dispatch so many instructions that are kept. -/
theorem exists_kept (k : Nat) : ∃ n, k + (start p).leftOut Kept pipe n = n ∧ Kept ((start p).after pipe n).1.ip := by
  induction k with
  | zero =>
    obtain ⟨n, hkept, hcount⟩ := h.exists_kept_from hidles 0
    rw [leftOut_zero] at hcount
    exact ⟨n, by omega, hkept⟩
  | succ k ih =>
    obtain ⟨n, hn, hkept⟩ := ih
    obtain ⟨n', hkept', hcount⟩ := h.exists_kept_from hidles (n + 1)
    rw [leftOut_succ_of_kept hkept] at hcount
    exact ⟨n', by omega, hkept'⟩

/-- Wherever the excerpt steps to, the program gets there too. -/
theorem exists_followed (k : Nat) : ∃ n, Kept ((start p).after pipe n).1.ip ∧
    ((start q).after pipe k).2 = ((start p).after pipe n).2 ∧
      Follows q place ((start p).leftOut Kept pipe n) ((start p).after pipe n).1 ((start q).after pipe k).1 := by
  obtain ⟨n, hn, hkept⟩ := h.exists_kept hidles k
  obtain ⟨k', hk', hf⟩ := h.exists_follows hidles n
  obtain rfl : k = k' := by omega
  exact ⟨n, hkept, hf⟩

/-! ### The end -/

theorem exists_follows_of_isFinished {n : Nat} (hend : ((start p).after pipe n).1.isFinished = true) :
    ∃ k, ((start q).after pipe k).1.isFinished = true ∧ ((start q).after pipe k).2 = ((start p).after pipe n).2 ∧
      Follows q place ((start p).leftOut Kept pipe n) ((start p).after pipe n).1 ((start q).after pipe k).1 := by
  obtain ⟨k, -, hstreams, hf⟩ := h.exists_follows hidles n
  have hm := (executes_start p).after h.balanced pipe n
  have hkept : Kept ((start p).after pipe n).1.ip := hm.ip_eq_size hend ▸ h.kept_size
  exact ⟨k, (h.isFinished_follower_iff hm hf hkept).2 hend, hstreams, hf⟩

/-- Both runs end, or neither does. -/
theorem exists_isFinished_iff : (∃ n, ((start p).after pipe n).1.isFinished = true) ↔
    ∃ k, ((start q).after pipe k).1.isFinished = true := by
  constructor
  · rintro ⟨n, hend⟩
    obtain ⟨k, hend', -⟩ := h.exists_follows_of_isFinished hidles hend
    exact ⟨k, hend'⟩
  · rintro ⟨k, hend⟩
    obtain ⟨n, hkept, -, hf⟩ := h.exists_followed hidles k
    exact ⟨n, (h.isFinished_follower_iff ((executes_start p).after h.balanced pipe n) hf hkept).1 hend⟩

/-- At the end both have come to the same, and the steps that are left out make the difference. -/
theorem final_eq {n k : Nat} (hn : ((start p).after pipe n).1.isFinished = true)
    (hk : ((start q).after pipe k).1.isFinished = true) :
    ((start q).after pipe k).1.tape = ((start p).after pipe n).1.tape ∧
      ((start q).after pipe k).2 = ((start p).after pipe n).2 ∧
        ((start p).after pipe n).1.dispatched =
          ((start q).after pipe k).1.dispatched + (start p).leftOut Kept pipe n := by
  obtain ⟨k', hk', hstreams, hf⟩ := h.exists_follows_of_isFinished hidles hn
  rw [after_eq_of_isFinished hk hk']
  exact ⟨hf.tape, hstreams, hf.dispatched.symm⟩

/-- So have runs without bounds that finish, and their step counters differ by these steps, unless one of them has begun
again. -/
theorem runs_eq {n k steps steps' : Nat} {last last' : Machine × Pipe}
    (hrun : (start p).runFor n {} pipe = (some (.ok ⟨.finished, steps⟩), last))
    (hrun' : (start q).runFor k {} pipe = (some (.ok ⟨.finished, steps'⟩), last')) :
    last'.1.tape = last.1.tape ∧ last'.2 = last.2 ∧ steps = Counter.wrap (steps' + (start p).leftOut Kept pipe n) ∧
      (last.1.dispatched ≤ Counter.max → steps = steps' + (start p).leftOut Kept pipe n) := by
  obtain ⟨hlast, hn, rfl⟩ := ((executes_start p).runFor_eq_finished_iff h.balanced).1 hrun
  obtain ⟨hlast', hk, rfl⟩ := ((executes_start q).runFor_eq_finished_iff h.balanced_excerpt).1 hrun'
  obtain rfl : last = (start p).after pipe n := hlast.symm
  obtain rfl : last' = (start q).after pipe k := hlast'.symm
  obtain ⟨htape, hstreams, hdispatched⟩ := h.final_eq hidles hn hk
  exact ⟨htape, hstreams, steps_eq_wrap_add hdispatched, steps_eq_add hdispatched⟩

/-- Runs without bounds both finish, or both go on for ever and print the same. -/
theorem finish_or_go_on :
    ((∃ n steps last, (start p).runFor n {} pipe = (some (.ok ⟨.finished, steps⟩), last)) ∧
      ∃ k steps' last', (start q).runFor k {} pipe = (some (.ok ⟨.finished, steps'⟩), last')) ∨
      ((∀ n, ((start p).runFor n {} pipe).1 = none) ∧ (∀ k, ((start q).runFor k {} pipe).1 = none) ∧
        ∀ printed : List UInt8, (∃ n, printed <+: ((start p).runFor n {} pipe).2.2.written.toList) ↔
          ∃ k, printed <+: ((start q).runFor k {} pipe).2.2.written.toList) := by
  have hrun := fun n => (executes_start p).runFor_eq h.balanced pipe n
  have hrun' := fun k => (executes_start q).runFor_eq h.balanced_excerpt pipe k
  by_cases hfinishes : ∃ n, ((start p).after pipe n).1.isFinished = true
  · obtain ⟨k, hk⟩ := (h.exists_isFinished_iff hidles).1 hfinishes
    obtain ⟨n, hn⟩ := hfinishes
    exact .inl ⟨⟨n, _, _, (hrun n).trans (by rw [if_pos hn])⟩, k, _, _, (hrun' k).trans (by rw [if_pos hk])⟩
  · have hfinishes' : ¬ ∃ k, ((start q).after pipe k).1.isFinished = true := fun hk =>
      hfinishes ((h.exists_isFinished_iff hidles).2 hk)
    refine .inr ⟨fun n => ?_, fun k => ?_, fun printed => ?_⟩
    · rw [hrun, if_neg fun hn => hfinishes ⟨n, hn⟩]
    · rw [hrun', if_neg fun hk => hfinishes' ⟨k, hk⟩]
    · simp only [hrun, hrun']
      constructor
      · rintro ⟨n, hn⟩
        obtain ⟨k, -, hstreams, -⟩ := h.exists_follows hidles n
        exact ⟨k, hstreams ▸ hn⟩
      · rintro ⟨k, hk⟩
        obtain ⟨n, -, hstreams, -⟩ := h.exists_followed hidles k
        exact ⟨n, hstreams ▸ hk⟩

end Excerpt

end TapeMachine

import TapeMachine.Proofs.Pipe

/-!
# One program after another

A program may stand inside a longer one, between other instructions.  A machine in the longer program that is at the
same place of the inner one does what the machine of the inner program does, until that has finished
(`Executes.after_within`); loops pair up in the same way there, since partners in a part of a word are partners in the
word.  So two programs, one behind the other, are the first one until it ends, and the second one from then on
(`after_append`).
-/

namespace TapeMachine

/-- A program stands in another one from an index on. -/
def Program.StandsIn (p r : Program) (offset : Nat) : Prop :=
  ∃ pre post, r.instructions.toList = pre ++ p.instructions.toList ++ post ∧ pre.length = offset

namespace Program.StandsIn

variable {p r : Program} {offset : Nat}

theorem getElem? (h : p.StandsIn r offset) {k : Nat} (hk : k < p.size) :
    r.instructions[offset + k]? = p.instructions[k]? := by
  obtain ⟨pre, post, heq, rfl⟩ := h
  have hlt : k < p.instructions.toList.length := by rwa [Array.length_toList]
  rw [← Array.getElem?_toList, heq, List.append_assoc, List.getElem?_append_right (by omega), Nat.add_sub_cancel_left,
    List.getElem?_append_left hlt, Array.getElem?_toList]

theorem le_size (h : p.StandsIn r offset) : offset + p.size ≤ r.size := by
  obtain ⟨pre, post, heq, rfl⟩ := h
  have := congrArg List.length heq
  simp only [List.length_append, Array.length_toList] at this
  rw [size, size]
  omega

theorem partners (h : p.StandsIn r offset) {a b : Nat} (hab : Partners p.instructions.toList a b) :
    Partners r.instructions.toList (offset + a) (offset + b) := by
  obtain ⟨pre, post, heq, rfl⟩ := h
  rw [heq]
  exact hab.append pre post

end Program.StandsIn

/-- The pipe with something written on it before. -/
def Pipe.behind (printed : Array UInt8) (pipe : Pipe) : Pipe := { pipe with written := printed ++ pipe.written }

theorem Pipe.behind_empty (pipe : Pipe) : pipe.behind #[] = pipe := by
  simp [behind]

theorem Pipe.unread_behind_written (pipe : Pipe) : Pipe.behind pipe.written { unread := pipe.unread } = pipe := by
  simp [behind]

/-- A plain instruction takes no notice of what has been written. -/
theorem Workplace.perform_behind (tape : Tape) (pipe : Pipe) (printed : Array UInt8) (i : Instruction) :
    Workplace.perform ⟨tape, pipe.behind printed⟩ i =
      ⟨(Workplace.perform ⟨tape, pipe⟩ i).tape, (Workplace.perform ⟨tape, pipe⟩ i).pipe.behind printed⟩ := by
  cases i with
  | output => simp [perform, Pipe.write, Pipe.behind]
  | input =>
    obtain ⟨unread, written⟩ := pipe
    cases unread <;> rfl
  | _ => rfl

namespace Machine

/-- The machine of a longer program, at the same place of the program that stands in it, after some steps before. -/
def within (r : Program) (offset before : Nat) (m : Machine) : Machine :=
  { start r with tape := m.tape, ip := offset + m.ip, dispatched := before + m.dispatched }

namespace Executes

variable {m : Machine} {p r : Program} {offset : Nat}

theorem within (hm : m.Executes p) (hr : p.StandsIn r offset) (before : Nat) :
    (m.within r offset before).Executes r := by
  refine ⟨rfl, rfl, ?_⟩
  have := hm.ip_le
  have := hr.le_size
  show offset + m.ip ≤ r.size
  omega

/-- Both dispatch the same instruction with the same effect, if the inner program has not finished. -/
theorem step_within (hm : m.Executes p) (hp : Balanced p.instructions.toList) (hr : p.StandsIn r offset)
    (hend : ¬ m.isFinished = true) (before : Nat) (pipe : Pipe) (printed : Array UInt8) :
    (m.within r offset before).step (pipe.behind printed) =
      ((m.step pipe).1, (m.step pipe).2.1.within r offset before, (m.step pipe).2.2.behind printed) := by
  have hlt : m.ip < p.size := by
    rw [isFinished_iff, hm.program] at hend
    exact Nat.lt_of_not_le hend
  have hi : m.program.instructions[m.ip]? = some p.instructions[m.ip] := by
    rw [hm.program]
    exact Array.getElem?_eq_getElem hlt
  by_cases hplain : p.instructions[m.ip].isPlain = true
  · have hiw : (m.within r offset before).program.instructions[(m.within r offset before).ip]? =
        some p.instructions[m.ip] := by
      rw [← hi, hm.program]
      exact hr.getElem? hlt
    rw [step_plain hi hplain, step_plain hiw hplain]
    show (_, _, _) = _
    rw [show (m.within r offset before).tape = m.tape from rfl, Workplace.perform_behind]
    rfl
  · rw [hm.program, ← Array.getElem?_toList] at hi
    obtain ⟨a, b, hab, hip⟩ := (hp.hasPartner hi (by simpa using hplain)).exists_ends
    have hipw : offset + m.ip = offset + a ∨ offset + m.ip = offset + b := by omega
    rw [hm.step_end hab hip, (hm.within hr before).step_end (hr.partners hab) hipw]
    show (_, Machine.mk r _ m.tape ((if m.tape.cell = 0 then offset + b else offset + a) + 1) _, _) = _
    rw [← apply_ite (offset + ·)]
    rfl

/-- So they do step by step, if the longer program has not more to do when the inner one has finished. -/
theorem after_within (hm : m.Executes p) (hp : Balanced p.instructions.toList) (hr : p.StandsIn r offset) {pipe : Pipe}
    {n : Nat} (hend : ∀ k < n, (m.after pipe k).1.isFinished = true → offset + p.size = r.size) (before : Nat)
    (printed : Array UInt8) :
    (m.within r offset before).after (pipe.behind printed) n =
      ((m.after pipe n).1.within r offset before, (m.after pipe n).2.behind printed) := by
  induction n generalizing m pipe with
  | zero => rfl
  | succ n ih =>
    by_cases hfinished : m.isFinished = true
    · have hsize := hend 0 (Nat.zero_lt_succ n) hfinished
      have hfinishedw : (m.within r offset before).isFinished = true := by
        rw [isFinished_iff, hm.program] at hfinished
        rw [isFinished_iff]
        show r.size ≤ offset + m.ip
        have : p.size ≤ m.ip := hfinished
        omega
      rw [after_of_isFinished hfinished, after_of_isFinished hfinishedw]
    · rw [after_succ, after_succ, hm.step_within hp hr hfinished]
      exact ih (hm.step hp pipe) fun k hk => hend (k + 1) (Nat.succ_lt_succ hk)

end Executes

end Machine

/-! ### Two programs -/

namespace Program

/-- The instructions of one program and then those of another. -/
def append (p q : Program) : Program := ⟨p.instructions ++ q.instructions⟩

variable {p q : Program}

theorem toList_append (p q : Program) :
    (p.append q).instructions.toList = p.instructions.toList ++ q.instructions.toList := Array.toList_append

theorem size_append (p q : Program) : (p.append q).size = p.size + q.size := Array.size_append

theorem standsIn_append_left (p q : Program) : p.StandsIn (p.append q) 0 :=
  ⟨[], q.instructions.toList, toList_append p q, rfl⟩

theorem standsIn_append_right (p q : Program) : q.StandsIn (p.append q) p.size :=
  ⟨p.instructions.toList, [], by rw [toList_append, List.append_nil], Array.length_toList⟩

theorem parse_append {a b : String} (ha : parse a = .ok p) (hb : parse b = .ok q) :
    parse (a ++ b) = .ok (p.append q) := by
  obtain ⟨haforeign, hap, hane, habalanced⟩ := parse_eq_ok_iff.1 ha
  obtain ⟨hbforeign, hbq, -, hbbalanced⟩ := parse_eq_ok_iff.1 hb
  rw [parse_eq_ok_iff, String.toList_append, toList_append]
  refine ⟨?_, ?_, by simp [hane], habalanced.append hbbalanced⟩
  · intro c hc
    rcases List.mem_append.1 hc with hc | hc
    · exact haforeign c hc
    · exact hbforeign c hc
  · rw [hap, hbq, List.filterMap_append]

end Program

namespace Machine

/-- Two texts one after the other are a program that does what the first one does until it has finished, and from then
on what the second one does on the tape and the input that are left, with its output behind that of the first. -/
theorem after_append {a b : String} {p q : Program} (ha : Program.parse a = .ok p) (hb : Program.parse b = .ok q) :
    Program.parse (a ++ b) = .ok (p.append q) ∧ ∀ (input : List UInt8) (k : Nat),
      let pipe : Pipe := { unread := input }
      (start p).GoesOn pipe k →
        let first := (start p).after pipe k
        (start (p.append q)).after pipe k =
            ({ start (p.append q) with tape := first.1.tape, ip := first.1.ip, dispatched := k }, first.2) ∧
          (first.1.isFinished = true → ∀ n,
            let second := (startOn first.1.tape q).after ({ unread := first.2.unread } : Pipe) n
            (start (p.append q)).after pipe (k + n) =
              ({ start (p.append q) with
                  tape := second.1.tape
                  ip := p.size + second.1.ip
                  dispatched := k + second.1.dispatched },
                ⟨second.2.unread, first.2.written ++ second.2.written⟩)) := by
  obtain ⟨-, -, -, hp⟩ := Program.parse_eq_ok_iff.1 ha
  obtain ⟨-, -, -, hq⟩ := Program.parse_eq_ok_iff.1 hb
  refine ⟨Program.parse_append ha hb, ?_⟩
  intro input k pipe hgo first
  have hfirst : (start (p.append q)).after pipe k =
      ({ start (p.append q) with tape := first.1.tape, ip := first.1.ip, dispatched := k }, first.2) := by
    have hwithin := (executes_start p).after_within hp (p.standsIn_append_left q)
      (fun j hj hend => absurd hend (hgo j hj)) 0 #[]
    have hplace : within (p.append q) 0 0 first.1 =
        { start (p.append q) with tape := first.1.tape, ip := first.1.ip, dispatched := k } := by
      have hcount : first.1.dispatched = k := hgo.dispatched_after.trans (Nat.zero_add k)
      rw [within, Nat.zero_add, Nat.zero_add, hcount]
    rw [Pipe.behind_empty, Pipe.behind_empty, hplace] at hwithin
    exact hwithin
  refine ⟨hfirst, ?_⟩
  intro hend n second
  -- the second program begins where the first one has finished
  have hip : first.1.ip = p.size := ((executes_start p).after hp pipe k).ip_eq_size hend
  have hlast : ∀ j < n, ((startOn first.1.tape q).after ({ unread := first.2.unread } : Pipe) j).1.isFinished = true →
      p.size + q.size = (p.append q).size := fun _ _ _ => (p.size_append q).symm
  have hwithin := (executes_startOn first.1.tape q).after_within hq (p.standsIn_append_right q) hlast k first.2.written
  rw [Pipe.unread_behind_written] at hwithin
  rw [after_add, hfirst, hip]
  exact hwithin

/-- The first text moves a number up by one cell in twelve steps; the second one prints it and what else is read. -/
theorem after_append_move_then_echo :
    let p : Program := ⟨#[.input, .loopOpen, .decrement, .advance, .increment, .retreat, .loopClose]⟩
    let q : Program := ⟨#[.advance, .output, .loopOpen, .input, .output, .loopClose]⟩
    let pipe : Pipe := { unread := [2, 7, 0, 5] }
    Program.parse ",[->+<]" = .ok p ∧ Program.parse ">.[,.]" = .ok q ∧
      Program.parse (",[->+<]" ++ ">.[,.]") = .ok (p.append q) ∧ (start p).GoesOn pipe 12 ∧
      ((start p).after pipe 12).1.isFinished = true ∧
      (start (p.append q)).after pipe (12 + 9) =
        ({ start (p.append q) with tape := ⟨[0], 0, []⟩, ip := 13, dispatched := 21 }, ⟨[5], #[2, 7, 0]⟩) := by
  intro p q pipe
  have hp : Program.parse ",[->+<]" = .ok p := by rfl
  have hq : Program.parse ">.[,.]" = .ok q := by rfl
  obtain ⟨hparse, hafter⟩ := after_append hp hq
  have hgo : (start p).GoesOn pipe 12 := by
    unfold GoesOn
    decide +kernel
  have hend : ((start p).after pipe 12).1.isFinished = true := by decide +kernel
  obtain ⟨-, hsecond⟩ := hafter pipe.unread 12 hgo
  exact ⟨hp, hq, hparse, hgo, hend, (hsecond hend 9).trans (by decide +kernel)⟩

end Machine

end TapeMachine

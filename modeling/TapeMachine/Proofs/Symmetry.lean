import TapeMachine.Proofs.Canonical
import TapeMachine.Proofs.Steps
import TapeMachine.Proofs.Table
import TapeMachine.Stream.Pipe
import TapeMachine.Stream.Script.Fault

/-!
# Symmetries

A symmetry changes instructions, tapes and hosts, and no instruction tells the difference: on a changed tape and a
changed host, a changed instruction does what is the change of what the instruction does.  Loop ends are not changed,
nor is it changed which cells are zero.  So a changed program goes the way of the program, step by step
(`Symmetry.answers_start`, `Symmetry.after_start`).

There are two symmetries.  One exchanges left and right, and leaves the hosts alone (`Machine.after_mirror`); the other
one exchanges plus and minus, and with them every byte and its negative (`Machine.after_negate`).
-/

namespace TapeMachine

/-- The program with every instruction changed. -/
def Program.map (f : Instruction → Instruction) (p : Program) : Program := ⟨p.instructions.map f⟩

/-- The machine with another tape, in the program with every instruction changed. -/
def Machine.change (f : Instruction → Instruction) (g : Tape → Tape) (m : Machine) : Machine :=
  { m with program := m.program.map f, tape := g m.tape }

/-- A change of instructions, tapes and hosts that no instruction tells: it goes on changed ones as on the others, and
comes to what is the change of where it would have come to. -/
structure Symmetry (σ : Type) [Host σ] where
  instruction : Instruction → Instruction
  tape : Tape → Tape
  host : σ → σ
  loopEnd : ∀ {i : Instruction}, i.isPlain = false → instruction i = i
  isPlain : ∀ {i : Instruction}, i.isPlain = true → (instruction i).isPlain = true
  fresh : tape Tape.fresh = Tape.fresh
  cell_eq_zero_iff : ∀ {t : Tape}, (tape t).cell = 0 ↔ t.cell = 0
  jumped : ∀ (source target : Nat) (s : σ), Host.jumped source target (host s) = host (Host.jumped source target s)
  perform : ∀ (m : Machine) (s : σ) {i : Instruction}, i.isPlain = true →
    (m.change instruction tape).perform (host s) (instruction i) =
      ((m.perform s i).1.map (Prod.map tape id), host (m.perform s i).2)

namespace Symmetry

variable {σ : Type} [Host σ] (S : Symmetry σ)

def program (p : Program) : Program := p.map S.instruction

def machine (m : Machine) : Machine := m.change S.instruction S.tape

theorem toList_program (p : Program) : (S.program p).instructions.toList = p.instructions.toList.map S.instruction :=
  Array.toList_map

/-! ### Loops -/

theorem balanced_map {w : List Instruction} (hw : Balanced w) : Balanced (w.map S.instruction) := by
  induction hw with
  | nil => exact .nil
  | plain hi _ ih => exact .plain (S.isPlain hi) ih
  | loop _ _ ihb ihr =>
    rw [List.map_cons, List.map_append, List.map_cons, S.loopEnd rfl, S.loopEnd rfl]
    exact .loop ihb ihr

theorem fill_map (w : List Instruction) (index : Nat) (opens : List Nat) (table : JumpTable) :
    JumpTable.fill (w.map S.instruction) index opens table = JumpTable.fill w index opens table := by
  fun_induction JumpTable.fill w index opens table with
  | case1 => rfl
  | case2 rest index opens table ih =>
    rw [List.map_cons, S.loopEnd rfl]
    exact ih
  | case3 rest index mate opens table ih =>
    rw [List.map_cons, S.loopEnd rfl]
    exact ih
  | case4 i rest index opens table hopen hclose ih =>
    rw [List.map_cons]
    by_cases hi : i.isPlain = true
    · obtain ⟨hopen', hclose'⟩ := Instruction.isPlain_iff.1 (S.isPlain hi)
      rw [JumpTable.fill_other hopen' fun h => absurd h hclose', ih]
    · -- a close that finds no open loop
      have hnone : i = .loopClose → opens = [] := by
        intro h
        cases opens with
        | nil => rfl
        | cons mate opens => exact (hclose mate opens rfl h).elim
      rw [S.loopEnd (by simpa using hi), JumpTable.fill_other hopen hnone, ih]

theorem parse_program {source : String} {p : Program} (hsource : Program.parse source = .ok p) :
    Program.parse (S.program p).text = .ok (S.program p) := by
  obtain ⟨-, -, hne, hp⟩ := Program.parse_eq_ok_iff.1 hsource
  apply Program.parse_text
  · rw [toList_program]
    exact mt List.map_eq_nil_iff.1 hne
  · rw [toList_program]
    exact S.balanced_map hp

theorem machine_start (p : Program) : S.machine (Machine.start p) = Machine.start (S.program p) := by
  have hjumps : JumpTable.ofList (S.program p).instructions.toList = JumpTable.ofList p.instructions.toList := by
    rw [S.toList_program, JumpTable.ofList, List.length_map, S.fill_map]
    rfl
  unfold machine Machine.change Machine.start Machine.startOn
  rw [hjumps]
  exact congrArg (Machine.mk _ _ · 0 0) S.fresh

/-! ### Steps -/

variable (m : Machine) (s : σ)

theorem jump_machine : (S.machine m).jump (S.host s) =
    ((m.jump s).1.map (Prod.map S.tape id), S.host (m.jump s).2) := by
  unfold Machine.jump
  rw [show (S.machine m).jumps = m.jumps from rfl, show (S.machine m).ip = m.ip from rfl]
  cases m.jumps.partner? m.ip with
  | none => rfl
  | some target => exact Prod.ext rfl (S.jumped _ _ _)

theorem perform_machine (i : Instruction) : (S.machine m).perform (S.host s) (S.instruction i) =
    ((m.perform s i).1.map (Prod.map S.tape id), S.host (m.perform s i).2) := by
  by_cases hi : i.isPlain = true
  · exact S.perform m s hi
  · -- a loop end only looks at whether the cell is zero, and at the table, which is the same
    rw [S.loopEnd (by simpa using hi)]
    have hcell : (S.machine m).tape.cell = 0 ↔ m.tape.cell = 0 := S.cell_eq_zero_iff
    have hjump := S.jump_machine m s
    cases i with
    | loopOpen =>
      dsimp only [Machine.perform]
      by_cases h : m.tape.cell = 0
      · rwa [if_pos h, if_pos (hcell.2 h)]
      · rw [if_neg h, if_neg (mt hcell.1 h)]
        rfl
    | loopClose =>
      dsimp only [Machine.perform]
      by_cases h : m.tape.cell = 0
      · rw [if_pos h, if_pos (hcell.2 h)]
        rfl
      · rwa [if_neg h, if_neg (mt hcell.1 h)]
    | _ => exact absurd rfl hi

theorem step_machine :
    (S.machine m).step (S.host s) = ((m.step s).1, S.machine (m.step s).2.1, S.host (m.step s).2.2) := by
  have hi : (S.machine m).program.instructions[(S.machine m).ip]? =
      m.program.instructions[m.ip]?.map S.instruction := Array.getElem?_map
  unfold Machine.step
  rw [hi]
  cases m.program.instructions[m.ip]? with
  | none => rfl
  | some i =>
    have hperform := S.perform_machine m s i
    dsimp only [Option.map_some]
    rw [hperform]
    generalize m.perform s i = answer
    obtain ⟨_ | ⟨tape, ip⟩, s'⟩ := answer <;> rfl

theorem answers_machine (n : Nat) : (S.machine m).answers (S.host s) n = m.answers s n := by
  induction n generalizing m s with
  | zero => rfl
  | succ n ih => rw [Machine.answers_succ, Machine.answers_succ, step_machine, ih]

theorem after_machine (n : Nat) :
    (S.machine m).after (S.host s) n = (S.machine (m.after s n).1, S.host (m.after s n).2) := by
  induction n generalizing m s with
  | zero => rfl
  | succ n ih => rw [Machine.after_succ, Machine.after_succ, step_machine, ih]

/-- A changed program does on a changed host what the program does. -/
theorem answers_start (p : Program) (n : Nat) :
    (Machine.start (S.program p)).answers (S.host s) n = (Machine.start p).answers s n := by
  rw [← machine_start]
  exact S.answers_machine _ s n

/-- It comes to the change of what the program comes to. -/
theorem after_start (p : Program) (n : Nat) : (Machine.start (S.program p)).after (S.host s) n =
    (S.machine ((Machine.start p).after s n).1, S.host ((Machine.start p).after s n).2) := by
  rw [← machine_start]
  exact S.after_machine _ s n

end Symmetry

/-! ### Left and right -/

/-- Exchanges the two directions. -/
def Instruction.mirror : Instruction → Instruction
  | .advance => .retreat
  | .retreat => .advance
  | i => i

namespace Tape

/-- The cells in the opposite order, with the cursor on the same one. -/
def mirror (t : Tape) : Tape := ⟨t.above, t.cell, t.below⟩

variable (t : Tape)

theorem advance_mirror : t.mirror.advance = t.retreat.mirror := by
  obtain ⟨_ | _, cell, above⟩ := t <;> rfl

theorem retreat_mirror : t.mirror.retreat = t.advance.mirror := by
  obtain ⟨below, cell, _ | _⟩ := t <;> rfl

theorem cells_mirror : t.mirror.cells = t.cells.reverse := by
  simp [cells, mirror]

theorem cursor_mirror : t.mirror.cursor = t.size - 1 - t.cursor := by
  simp only [cursor, size, mirror]
  omega

end Tape

theorem Machine.perform_mirror {σ : Type} [Host σ] (m : Machine) (s : σ) {i : Instruction} (hi : i.isPlain = true) :
    (m.change Instruction.mirror Tape.mirror).perform s i.mirror =
      ((m.perform s i).1.map (Prod.map Tape.mirror id), (m.perform s i).2) := by
  cases i with
  | loopOpen => cases hi
  | loopClose => cases hi
  | advance => exact congrArg (fun t => (Except.ok (t, m.ip + 1), s)) m.tape.retreat_mirror
  | retreat => exact congrArg (fun t => (Except.ok (t, m.ip + 1), s)) m.tape.advance_mirror
  | output =>
    dsimp only [perform, Instruction.mirror, change, Tape.mirror]
    generalize Host.write m.tape.cell s = answer
    obtain ⟨_ | _, s'⟩ := answer <;> rfl
  | input =>
    dsimp only [perform, Instruction.mirror]
    generalize Host.flush s = answer
    obtain ⟨_ | _, s'⟩ := answer
    · rfl
    · dsimp only
      generalize Host.read s' = answer
      obtain ⟨_ | _ | _, s''⟩ := answer <;> rfl
  | _ => rfl

def Symmetry.leftRight (σ : Type) [Host σ] : Symmetry σ where
  instruction := Instruction.mirror
  tape := Tape.mirror
  host := id
  loopEnd {i} hi := by cases i <;> first | rfl | cases hi
  isPlain {i} hi := by cases i <;> first | rfl | cases hi
  fresh := rfl
  cell_eq_zero_iff := Iff.rfl
  jumped _ _ _ := rfl
  perform m s _ hi := m.perform_mirror s hi

namespace Machine

/-- With left and right exchanged, a program does the same on the same streams, whatever they answer, and its tape is
the other way round. -/
theorem after_mirror {source : String} {p : Program} (hsource : Program.parse source = .ok p)
    (reads : List ReadAnswer) (writes : List WriteAnswer) (flushes : List FlushAnswer) (n : Nat) :
    let script : Script := { reads, writes, flushes }
    let q := p.map Instruction.mirror
    let reached := (start p).after script n
    let reached' := (start q).after script n
    Program.parse q.text = .ok q ∧ (start q).answers script n = (start p).answers script n ∧
      reached'.1.ip = reached.1.ip ∧ reached'.1.dispatched = reached.1.dispatched ∧ reached'.2 = reached.2 ∧
      reached'.1.tape.cells = reached.1.tape.cells.reverse ∧
      reached'.1.tape.cursor = reached.1.tape.size - 1 - reached.1.tape.cursor := by
  intro script q reached reached'
  have hafter : reached' = ((Symmetry.leftRight Script).machine reached.1, reached.2) :=
    (Symmetry.leftRight Script).after_start script p n
  refine ⟨(Symmetry.leftRight Script).parse_program hsource, (Symmetry.leftRight Script).answers_start script p n, ?_⟩
  rw [hafter]
  exact ⟨rfl, rfl, rfl, reached.1.tape.cells_mirror, reached.1.tape.cursor_mirror⟩

/-- Two passes of a loop, with a write, a flush and a read that fail.  The tape has grown at either end. -/
theorem after_mirror_of_retried :
    let p : Program := ⟨#[.input, .loopOpen, .retreat, .input, .output, .advance, .advance, .increment, .retreat,
      .decrement, .loopClose]⟩
    let reads := [.byte 2, .fail .wouldBlock, .byte 7, .byte 9]
    let writes := [.fail .brokenPipe]
    let flushes := [.done, .fail .interrupted]
    let reached (p : Program) := (start p).after ({ reads, writes, flushes } : Script) 20
    Program.parse ",[<,.>>+<-]" = .ok p ∧ (p.map Instruction.mirror).text = ",[>,.<<+>-]" ∧
      Program.parse (p.map Instruction.mirror).text = .ok (p.map Instruction.mirror) ∧
      (reached p).1.tape = ⟨[1, 9], 2, []⟩ ∧ (reached (p.map Instruction.mirror)).1.tape.cells = [2, 1, 9] ∧
      (reached (p.map Instruction.mirror)).1.tape.cursor = 0 ∧
      (reached (p.map Instruction.mirror)).2.delivered = [7, 9] := by
  intro p reads writes flushes reached
  have hparse : Program.parse ",[<,.>>+<-]" = .ok p := by rfl
  have htext : (p.map Instruction.mirror).text = ",[>,.<<+>-]" := by decide +kernel
  have htape : (reached p).1.tape = ⟨[1, 9], 2, []⟩ := by decide +kernel
  have hdelivered : (reached p).2.delivered = [7, 9] := by decide +kernel
  obtain ⟨hq, -, -, -, hscript, hcells, hcursor⟩ := after_mirror hparse reads writes flushes 20
  dsimp only [reached] at htape hdelivered ⊢
  rw [htape] at hcells hcursor
  rw [hscript]
  exact ⟨hparse, htext, hq, htape, hcells, hcursor, hdelivered⟩

end Machine

/-! ### Plus and minus -/

/-- Exchanges the two changes of a cell. -/
def Instruction.negate : Instruction → Instruction
  | .increment => .decrement
  | .decrement => .increment
  | i => i

/-- The negative of every cell. -/
def Tape.negate (t : Tape) : Tape := ⟨t.below.map (- ·), -t.cell, t.above.map (- ·)⟩

/-- The negative of every byte. -/
def Pipe.negate (p : Pipe) : Pipe := ⟨p.unread.map (- ·), p.written.map (- ·)⟩

namespace Tape

variable (t : Tape)

theorem advance_negate : t.negate.advance = t.advance.negate := by
  obtain ⟨below, cell, _ | ⟨next, above⟩⟩ := t
  · simp [advance, negate]
  · rfl

theorem retreat_negate : t.negate.retreat = t.retreat.negate := by
  obtain ⟨_ | ⟨next, below⟩, cell, above⟩ := t
  · simp [retreat, negate]
  · rfl

theorem decrement_negate : t.negate.decrement = t.increment.negate := by
  have h : -t.cell - 1 = -(t.cell + 1) := by grind
  simp only [decrement, increment, negate, h]

theorem increment_negate : t.negate.increment = t.decrement.negate := by
  have h : -t.cell + 1 = -(t.cell - 1) := by grind
  simp only [decrement, increment, negate, h]

theorem cells_negate : t.negate.cells = t.cells.map (- ·) := by
  simp [cells, negate]

theorem cursor_negate : t.negate.cursor = t.cursor := List.length_map _

theorem size_negate : t.negate.size = t.size := by
  simp [size, negate]

theorem cell_negate_eq_zero_iff : t.negate.cell = 0 ↔ t.cell = 0 := by
  change -t.cell = 0 ↔ _
  constructor <;> intro h <;> grind

end Tape

theorem Pipe.negate_unread (input : List UInt8) :
    ({ unread := input } : Pipe).negate = { unread := input.map (- ·) } := by
  simp [negate]

theorem Pipe.write_negate (byte : UInt8) (p : Pipe) : p.negate.write (-byte) = (p.write byte).negate := by
  simp [write, negate]

theorem Machine.perform_negate (m : Machine) (pipe : Pipe) {i : Instruction} (hi : i.isPlain = true) :
    (m.change Instruction.negate Tape.negate).perform pipe.negate i.negate =
      ((m.perform pipe i).1.map (Prod.map Tape.negate id), (m.perform pipe i).2.negate) := by
  cases i with
  | loopOpen => cases hi
  | loopClose => cases hi
  | advance => exact congrArg (fun t => (Except.ok (t, m.ip + 1), pipe.negate)) m.tape.advance_negate
  | retreat => exact congrArg (fun t => (Except.ok (t, m.ip + 1), pipe.negate)) m.tape.retreat_negate
  | increment => exact congrArg (fun t => (Except.ok (t, m.ip + 1), pipe.negate)) m.tape.decrement_negate
  | decrement => exact congrArg (fun t => (Except.ok (t, m.ip + 1), pipe.negate)) m.tape.increment_negate
  | output => exact congrArg (Except.ok (m.tape.negate, m.ip + 1), ·) (pipe.write_negate m.tape.cell)
  | input =>
    obtain ⟨unread, written⟩ := pipe
    cases unread <;> rfl

def Symmetry.plusMinus : Symmetry Pipe where
  instruction := Instruction.negate
  tape := Tape.negate
  host := Pipe.negate
  loopEnd {i} hi := by cases i <;> first | rfl | cases hi
  isPlain {i} hi := by cases i <;> first | rfl | cases hi
  fresh := rfl
  cell_eq_zero_iff {t} := t.cell_negate_eq_zero_iff
  jumped _ _ _ := rfl
  perform m s _ hi := m.perform_negate s hi

namespace Machine

/-- With plus and minus exchanged, a program goes the same way on the negatives of the bytes that it reads; what it
has on its tape, what it prints and what it leaves unread are the negatives too. -/
theorem after_negate {source : String} {p : Program} (hsource : Program.parse source = .ok p) (input : List UInt8)
    (n : Nat) :
    let negative (b : UInt8) : UInt8 := UInt8.ofNat ((256 - b.toNat) % 256)
    let q := p.map Instruction.negate
    let reached := (start p).after ({ unread := input } : Pipe) n
    let reached' := (start q).after ({ unread := input.map negative } : Pipe) n
    Program.parse q.text = .ok q ∧
      (start q).answers ({ unread := input.map negative } : Pipe) n =
        (start p).answers ({ unread := input } : Pipe) n ∧
      reached'.1.ip = reached.1.ip ∧ reached'.1.dispatched = reached.1.dispatched ∧
      reached'.2.unread = reached.2.unread.map negative ∧ reached'.2.written = reached.2.written.map negative ∧
      reached'.1.tape.cells = reached.1.tape.cells.map negative ∧ reached'.1.tape.size = reached.1.tape.size ∧
      reached'.1.tape.cursor = reached.1.tape.cursor := by
  intro negative q reached reached'
  have hnegative : negative = (- ·) := by
    funext b
    apply UInt8.toNat_inj.1
    rw [UInt8.toNat_neg]
    exact Nat.mod_mod _ _
  have hpipe : ({ unread := input.map negative } : Pipe) = Symmetry.plusMinus.host { unread := input } := by
    rw [hnegative]
    exact (Pipe.negate_unread input).symm
  have hafter : reached' = (Symmetry.plusMinus.machine reached.1, reached.2.negate) := by
    have hstart := Symmetry.plusMinus.after_start { unread := input } p n
    rwa [← hpipe] at hstart
  have hanswers := Symmetry.plusMinus.answers_start { unread := input } p n
  rw [← hpipe] at hanswers
  refine ⟨Symmetry.plusMinus.parse_program hsource, hanswers, ?_⟩
  rw [hafter, hnegative]
  exact ⟨rfl, rfl, rfl, rfl, reached.1.tape.cells_negate, reached.1.tape.size_negate, reached.1.tape.cursor_negate⟩

/-- A cell that wraps on the way down in one program and on the way up in the other one. -/
theorem after_negate_of_wrapped :
    let p : Program := ⟨#[.input, .loopOpen, .advance, .decrement, .output, .increment, .increment, .output, .input,
      .retreat, .decrement, .loopClose]⟩
    let negative (b : UInt8) : UInt8 := UInt8.ofNat ((256 - b.toNat) % 256)
    let reached' := (start (p.map Instruction.negate)).after ({ unread := [2, 200, 128, 5].map negative } : Pipe) 22
    Program.parse ",[>-.++.,<-]" = .ok p ∧ (p.map Instruction.negate).text = ",[>+.--.,<+]" ∧
      Program.parse (p.map Instruction.negate).text = .ok (p.map Instruction.negate) ∧
      [2, 200, 128, 5].map negative = [254, 56, 128, 251] ∧ reached'.1.ip = 12 ∧ reached'.2.unread = [251] ∧
      reached'.2.written = #[1, 255, 57, 55] ∧ reached'.1.tape.cells = [0, 128] := by
  intro p negative reached'
  have hparse : Program.parse ",[>-.++.,<-]" = .ok p := by rfl
  have htext : (p.map Instruction.negate).text = ",[>+.--.,<+]" := by decide +kernel
  have hinput : [2, 200, 128, 5].map negative = [254, 56, 128, 251] := by decide
  obtain ⟨hq, -, hip, -, hunread, hwritten, hcells, -⟩ := after_negate hparse [2, 200, 128, 5] 22
  dsimp only [reached', negative] at hinput ⊢
  refine ⟨hparse, htext, hq, hinput, hip.trans ?_, hunread.trans ?_, hwritten.trans ?_, hcells.trans ?_⟩ <;>
    decide +kernel

end Machine

end TapeMachine

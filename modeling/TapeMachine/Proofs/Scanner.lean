import TapeMachine.Machine.Scanner
import TapeMachine.Proofs.Pipe
import TapeMachine.Proofs.Strip

/-!
# The machine and the scanner

A machine on a pipe and a scanner that execute the same program agree after every step: on the index, the number of
steps, the pipe, and on the tape as far as it shows the strip (`Machine.Matches`).  The scanner finds the partner that
the jump table has, since on its way it skips balanced words (`Skips`).
-/

namespace TapeMachine

/-! ### The search for a partner -/

/-- The count of open loops is the same before and behind a word, and does not run out in it. -/
def Skips (opening closing : Instruction) (v : List Instruction) : Prop :=
  ∀ opened rest, distance opening closing opened (v ++ rest) =
    (distance opening closing opened rest).map (· + v.length)

namespace Skips

variable {opening closing : Instruction} {u v : List Instruction}

theorem nil : Skips opening closing [] := by
  intro opened rest
  simp

theorem append (hu : Skips opening closing u) (hv : Skips opening closing v) : Skips opening closing (u ++ v) := by
  intro opened rest
  rw [List.append_assoc, hu, hv, Option.map_map]
  congr 1
  funext n
  rw [Function.comp_apply, List.length_append]
  omega

theorem plain {i : Instruction} (hopening : i ≠ opening) (hclosing : i ≠ closing) : Skips opening closing [i] := by
  intro opened rest
  rw [List.singleton_append, distance_other hopening hclosing]
  rfl

theorem loop (hne : opening ≠ closing) (hv : Skips opening closing v) :
    Skips opening closing (opening :: (v ++ [closing])) := by
  intro opened rest
  rw [List.cons_append, List.append_assoc, List.singleton_append, distance_opening hne, hv, distance_closing_succ,
    Option.map_map, Option.map_map]
  congr 1
  funext n
  simp only [Function.comp_apply, List.length_cons, List.length_append, List.length_nil]
  omega

/-- Behind a word that is skipped stands the partner. -/
theorem distance_eq (hv : Skips opening closing v) (rest : List Instruction) :
    distance opening closing 0 (v ++ closing :: rest) = some v.length := by
  rw [hv, distance_closing_zero, Option.map_some, Nat.zero_add]

end Skips

theorem Balanced.skips {w : List Instruction} (hw : Balanced w) : Skips .loopOpen .loopClose w := by
  induction hw with
  | nil => exact .nil
  | @plain i rest hi _ ih =>
    obtain ⟨hopen, hclose⟩ := Instruction.isPlain_iff.1 hi
    exact (Skips.plain hopen hclose).append ih
  | @loop body rest _ _ ihb ihr =>
    have := (Skips.loop (by decide) ihb).append ihr
    simpa using this

/-- From right to left a close begins a loop and an open ends it. -/
theorem Balanced.skips_reverse {w : List Instruction} (hw : Balanced w) : Skips .loopClose .loopOpen w.reverse := by
  induction hw with
  | nil => exact .nil
  | @plain i rest hi _ ih =>
    obtain ⟨hopen, hclose⟩ := Instruction.isPlain_iff.1 hi
    rw [List.reverse_cons]
    exact ih.append (.plain hclose hopen)
  | @loop body rest _ _ ihb ihr =>
    have := ihr.append (Skips.loop (by decide) ihb)
    simpa using this

namespace Scanner

variable {r : Scanner}

theorem partnerAbove?_eq {b : Nat} (h : Partners r.instructions r.ip b) : r.partnerAbove? = some b := by
  obtain ⟨pre, body, post, heq, ha, hb, hbody⟩ := h.exists_eq
  have hdrop : r.instructions.drop (r.ip + 1) = body ++ .loopClose :: post := by
    rw [heq, ← ha, List.drop_append]
    simp
  rw [partnerAbove?, hdrop, hbody.skips.distance_eq, Option.map_some, ← hb, ha]

theorem partnerBelow?_eq {a : Nat} (h : Partners r.instructions a r.ip) : r.partnerBelow? = some a := by
  obtain ⟨pre, body, post, heq, ha, hb, hbody⟩ := h.exists_eq
  have htake : (r.instructions.take r.ip).reverse = body.reverse ++ .loopOpen :: pre.reverse := by
    rw [heq, ← hb, show pre ++ .loopOpen :: (body ++ .loopClose :: post) =
      (pre ++ .loopOpen :: body) ++ .loopClose :: post by simp]
    rw [show pre.length + 1 + body.length = (pre ++ Instruction.loopOpen :: body).length by simp; omega,
      List.take_left]
    simp
  rw [partnerBelow?, htake, hbody.skips_reverse.distance_eq, Option.map_some, List.length_reverse, ← hb, ← ha]
  congr 1
  omega

/-- A plain instruction does to the strip what it does to a tape that lies on it. -/
theorem step_plain {t : Tape} (h : t.LiesOn r.strip) {i : Instruction} (hi : r.instructions[r.ip]? = some i)
    (hplain : i.isPlain = true) :
    ∃ strip, (Workplace.perform ⟨t, r.pipe⟩ i).tape.LiesOn strip ∧
      r.step = some { r with
        strip
        ip := r.ip + 1
        steps := r.steps + 1
        pipe := (Workplace.perform ⟨t, r.pipe⟩ i).pipe } := by
  unfold step
  rw [hi]
  cases i with
  | advance => exact ⟨_, h.edit .advance, rfl⟩
  | retreat => exact ⟨_, h.edit .retreat, rfl⟩
  | increment => exact ⟨_, h.edit .increment, rfl⟩
  | decrement => exact ⟨_, h.edit .decrement, rfl⟩
  | output =>
    refine ⟨r.strip, h, ?_⟩
    dsimp only [perform]
    rw [h.here_eq]
    rfl
  | input =>
    dsimp only [perform, Workplace.perform]
    generalize r.pipe.read = answer
    obtain ⟨_ | byte, pipe⟩ := answer
    · exact ⟨_, h, rfl⟩
    · exact ⟨_, h.edit (.write byte), rfl⟩
  | loopOpen => cases hplain
  | loopClose => cases hplain

/-- At either end of a loop the cell decides, as it does on a machine. -/
theorem step_end {a b : Nat} (hab : Partners r.instructions a b) (hip : r.ip = a ∨ r.ip = b) :
    r.step = some { r with ip := (if r.strip.here = 0 then b else a) + 1, steps := r.steps + 1 } := by
  unfold step
  rcases hip with rfl | rfl
  · rw [hab.isOpen]
    dsimp only [perform]
    rw [partnerAbove?_eq hab]
    by_cases hcell : r.strip.here = 0
    · simp only [if_pos hcell]
      rfl
    · simp only [if_neg hcell]
      rfl
  · rw [hab.isClose]
    dsimp only [perform]
    rw [partnerBelow?_eq hab]
    by_cases hcell : r.strip.here = 0
    · simp only [if_pos hcell]
      rfl
    · simp only [if_neg hcell]
      rfl

theorem run_of_none (h : r.step = none) (limit : Nat) : r.run limit = r := by
  cases limit with
  | zero => rfl
  | succ limit => rw [run, h]

theorem run_succ {r' : Scanner} (h : r.step = some r') (limit : Nat) : r.run (limit + 1) = r'.run limit := by
  rw [run, h]

end Scanner

/-! ### The machine beside the scanner -/

namespace Machine

structure Matches (m : Machine) (pipe : Pipe) (r : Scanner) : Prop where
  instructions_eq : r.instructions = m.program.instructions.toList
  ip_eq : r.ip = m.ip
  steps_eq : r.steps = m.dispatched
  pipe_eq : r.pipe = pipe
  liesOn : m.tape.LiesOn r.strip

theorem matches_start (p : Program) (pipe : Pipe) :
    (start p).Matches pipe (Scanner.start p.instructions.toList pipe) := ⟨rfl, rfl, rfl, rfl, Tape.liesOn_blank⟩

namespace Matches

variable {m : Machine} {p : Program} {pipe : Pipe} {r : Scanner}

theorem isFinished_eq (h : m.Matches pipe r) : r.isFinished = m.isFinished := by
  rw [Scanner.isFinished, isFinished, h.instructions_eq, h.ip_eq, Array.length_toList, Program.size]

theorem step_of_isFinished (h : m.Matches pipe r) (hend : m.isFinished = true) : r.step = none := by
  rw [← h.isFinished_eq, Scanner.isFinished, decide_eq_true_iff] at hend
  rw [Scanner.step, List.getElem?_eq_none hend]

/-- Both go on at an index, the tape as it was. -/
theorem goOn (h : m.Matches pipe r) (ip : Nat) :
    ({ m with ip, dispatched := m.dispatched + 1 } : Machine).Matches pipe { r with ip, steps := r.steps + 1 } where
  instructions_eq := h.instructions_eq
  ip_eq := rfl
  steps_eq := by rw [h.steps_eq]
  pipe_eq := h.pipe_eq
  liesOn := h.liesOn

/-- Both dispatch the next instruction, and they match again. -/
theorem step (h : m.Matches pipe r) (hm : m.Executes p) (hp : Balanced p.instructions.toList)
    (hend : ¬ m.isFinished = true) :
    ∃ m' pipe' r', m.step pipe = (.ok true, m', pipe') ∧ r.step = some r' ∧ m'.Matches pipe' r' := by
  obtain ⟨i, hi⟩ : ∃ i, m.program.instructions[m.ip]? = some i := by
    rw [isFinished_iff, Nat.not_le] at hend
    exact ⟨_, Array.getElem?_eq_getElem hend⟩
  obtain ⟨hinstructions, hip, hsteps, rfl, hlies⟩ := id h
  have hir : r.instructions[r.ip]? = some i := by rw [hinstructions, hip, Array.getElem?_toList, hi]
  by_cases hplain : i.isPlain = true
  · obtain ⟨strip, hstrip, hstep⟩ := Scanner.step_plain hlies hir hplain
    refine ⟨_, _, _, step_plain hi hplain r.pipe, hstep, hinstructions, ?_, ?_, rfl, hstrip⟩
    · rw [hip]
    · rw [hsteps]
  · -- both stand at the same end of the same loop
    rw [hm.program] at hinstructions
    rw [← hinstructions] at hp
    obtain ⟨a, b, hab, hends⟩ := (hp.hasPartner hir (by simpa using hplain)).exists_ends
    have habm : Partners p.instructions.toList a b := by rwa [← hinstructions]
    have hipm : m.ip = a ∨ m.ip = b := by rwa [← hip]
    refine ⟨_, _, _, hm.step_end habm hipm r.pipe, Scanner.step_end hab hends, ?_⟩
    rw [hlies.here_eq]
    exact h.goOn _

/-- A run with a step budget that the counter can reach ends where the scanner is after as many steps. -/
theorem run (h : m.Matches pipe r) (hm : m.Executes p) (hp : Balanced p.instructions.toList) {limit fuel : Nat}
    (hlimit : m.dispatched + limit ≤ Counter.max) (hfuel : limit ≤ fuel) :
    ∃ m', runUntil (some (m.dispatched + limit)) none fuel m pipe =
        (some (.ok (if (r.run limit).isFinished then .finished else .stepLimit)), m', (r.run limit).pipe) ∧
      m'.Matches (r.run limit).pipe (r.run limit) ∧ m'.dispatched ≤ Counter.max := by
  induction limit generalizing fuel m pipe r with
  | zero =>
    have hcounter : m.steps = m.dispatched := steps_of_le hlimit
    obtain rfl := h.pipe_eq
    refine ⟨m, runUntil_of_halt ?_ fuel, h, hlimit⟩
    -- the end of the program is looked at before the budget
    rw [halt?, Scanner.run, h.isFinished_eq]
    by_cases hend : m.isFinished = true
    · rw [if_pos hend, if_pos hend]
    · rw [if_neg hend, if_neg hend, if_pos (by simp [hcounter])]
  | succ limit ih =>
    by_cases hend : m.isFinished = true
    · obtain rfl := h.pipe_eq
      rw [Scanner.run_of_none (h.step_of_isFinished hend), h.isFinished_eq, if_pos hend]
      exact ⟨m, runUntil_of_halt (if_pos hend) fuel, h, by omega⟩
    · obtain ⟨m', pipe', r', hstep, hscan, hnext⟩ := h.step hm hp hend
      have hdispatched : m'.dispatched = m.dispatched + 1 := by rw [← dispatched_step hend pipe, hstep]
      have hm' : m'.Executes p := by
        have := hm.step hp pipe
        rwa [hstep] at this
      have hcounter : m.steps = m.dispatched := steps_of_le (by omega)
      have hhalt : halt? (some (m.dispatched + (limit + 1))) none m pipe = none := by
        rw [halt?, if_neg hend, if_neg (by simp [hcounter]), if_neg (by simp)]
      obtain ⟨fuel, rfl⟩ : ∃ k, fuel = k + 1 := ⟨fuel - 1, by omega⟩
      rw [runUntil_succ hhalt hstep, Scanner.run_succ hscan,
        show m.dispatched + (limit + 1) = m'.dispatched + limit by omega]
      exact ih hnext hm' (by omega) (by omega)

end Matches

/-- Up to any step limit, the machine reads and writes what the scanner does and ends as it does. -/
theorem runFor_eq_scan {source : String} {p : Program} (hsource : Program.parse source = .ok p) (input : List UInt8)
    {limit fuel : Nat} (hlimit : limit ≤ Counter.max) (hfuel : limit ≤ fuel) :
    let r := (Scanner.start p.instructions.toList { unread := input }).run limit
    ∃ m, (start p).runFor fuel { steps := some limit } ({ unread := input } : Pipe) =
      (some (.ok ⟨if r.isFinished then .finished else .stepLimit, r.steps⟩), m, r.pipe) := by
  intro r
  obtain ⟨-, -, -, hp⟩ := Program.parse_eq_ok_iff.1 hsource
  have hfit : (start p).dispatched + limit ≤ Counter.max := (Nat.zero_add limit).symm ▸ hlimit
  obtain ⟨m, hrun, hm, hcount⟩ := (matches_start p { unread := input }).run (executes_start p) hp hfit hfuel
  have hbudget : (start p).budget ({ steps := some limit } : Limits Pipe) = some ((start p).dispatched + limit) := by
    show some (min (0 + limit) Counter.max) = some (0 + limit)
    rw [Nat.zero_add, Nat.min_eq_left hlimit]
  refine ⟨m, ?_⟩
  rw [runFor, hbudget, hrun]
  dsimp only [Option.map_some, Except.map]
  rw [steps_of_le hcount, ← hm.steps_eq]

/-- A loop in a loop, left of the origin; the zero that ends the outer loop is not the end of the input. -/
theorem runFor_eq_scan_loop_in_loop :
    Program.parse ",[[-<+>]<.>,]" = .ok ⟨#[.input, .loopOpen, .loopOpen, .decrement, .retreat, .increment, .advance,
        .loopClose, .retreat, .output, .advance, .input, .loopClose]⟩ ∧
      ∃ m, (start ⟨#[.input, .loopOpen, .loopOpen, .decrement, .retreat, .increment, .advance, .loopClose, .retreat,
        .output, .advance, .input, .loopClose]⟩).runFor 50 { steps := some 50 } ({ unread := [2, 1, 0, 7] } : Pipe) =
          (some (.ok ⟨.finished, 29⟩), m, ⟨[7], #[2, 3]⟩) := by
  have hparse : Program.parse ",[[-<+>]<.>,]" = .ok ⟨#[.input, .loopOpen, .loopOpen, .decrement, .retreat, .increment,
      .advance, .loopClose, .retreat, .output, .advance, .input, .loopClose]⟩ := by rfl
  obtain ⟨m, hm⟩ := runFor_eq_scan hparse [2, 1, 0, 7] (by decide : 50 ≤ Counter.max) (by decide : 50 ≤ 50)
  exact ⟨hparse, m, hm⟩

end Machine

end TapeMachine

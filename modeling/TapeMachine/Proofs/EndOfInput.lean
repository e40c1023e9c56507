import TapeMachine.Proofs.Canonical
import TapeMachine.Proofs.Excerpt

/-!
# Inputs at the end of the input

Plain instructions of some kinds can be left out of a program wherever they stand, without parting any loop ends
(`Program.excerpt_of_filter`).  At the end of the input an input does nothing but go on, and the end stays where it is
(`Machine.unread_after`).  So a program without its inputs does the same there (`Machine.run_without_inputs`), even if
nothing is left of the body of a loop.
-/

namespace TapeMachine

/-! ### Leaving out some kinds of instructions -/

section Filter

variable {keep : Instruction → Bool} {w : List Instruction} {k : Nat}

/-- The instruction at an index is kept, if there is one. -/
def IsKept (keep : Instruction → Bool) (w : List Instruction) (k : Nat) : Prop := w[k]?.all keep = true

instance (keep : Instruction → Bool) (w : List Instruction) : DecidablePred (IsKept keep w) :=
  fun _ => inferInstanceAs (Decidable (_ = true))

/-- Where an index comes to stand: behind the instructions before it that are kept, and as far behind the end. -/
def keptBefore (keep : Instruction → Bool) (w : List Instruction) (k : Nat) : Nat :=
  (w.take k).countP keep + (k - w.length)

theorem keptBefore_length_append (u v : List Instruction) :
    keptBefore keep (u ++ v) u.length = (u.filter keep).length := by
  rw [keptBefore, List.take_left, List.countP_eq_length_filter, List.length_append]
  omega

theorem keptBefore_succ :
    keptBefore keep w (k + 1) = keptBefore keep w k + if IsKept keep w k then 1 else 0 := by
  rw [keptBefore, keptBefore, List.take_add_one, List.countP_append]
  cases hi : w[k]? with
  | none =>
    have hle := List.getElem?_eq_none_iff.1 hi
    simp [IsKept, hi]
    omega
  | some i =>
    have hlt := (List.getElem?_eq_some_iff.1 hi).1
    simp [IsKept, hi, List.countP_singleton]
    omega

theorem getElem?_filter (hk : IsKept keep w k) : (w.filter keep)[keptBefore keep w k]? = w[k]? := by
  cases hi : w[k]? with
  | none =>
    rw [List.getElem?_eq_none_iff] at hi ⊢
    rw [keptBefore, List.take_of_length_le hi, List.countP_eq_length_filter]
    exact Nat.le_add_right _ _
  | some i =>
    rw [IsKept, hi, Option.all_some] at hk
    obtain ⟨hlt, rfl⟩ := List.getElem?_eq_some_iff.1 hi
    have hfilter : w.filter keep = (w.take k).filter keep ++ w[k] :: (w.drop (k + 1)).filter keep := by
      conv_lhs => rw [← List.take_append_drop k w, List.filter_append, List.drop_eq_getElem_cons hlt,
        List.filter_cons_of_pos hk]
    have hplace : keptBefore keep w k = ((w.take k).filter keep).length := by
      rw [keptBefore, List.countP_eq_length_filter]
      omega
    rw [hfilter, hplace, List.getElem?_append_right (Nat.le_refl _), Nat.sub_self]
    rfl

variable (hends : ∀ i : Instruction, i.isPlain = false → keep i = true)

include hends

theorem Balanced.filter (hw : Balanced w) : Balanced (w.filter keep) := by
  induction hw with
  | nil => exact .nil
  | @plain i rest hi _ ih =>
    by_cases hkeep : keep i = true
    · rw [List.filter_cons_of_pos hkeep]
      exact .plain hi ih
    · rwa [List.filter_cons_of_neg hkeep]
  | loop _ _ ihb ihr =>
    rw [List.filter_cons_of_pos (hends _ rfl), List.filter_append, List.filter_cons_of_pos (hends _ rfl)]
    exact .loop ihb ihr

theorem Partners.filter {a b : Nat} (h : Partners w a b) :
    Partners (w.filter keep) (keptBefore keep w a) (keptBefore keep w b) := by
  obtain ⟨u, body, v, rfl, rfl, rfl, hbody⟩ := h.exists_eq
  have hclose : keptBefore keep (u ++ .loopOpen :: (body ++ .loopClose :: v)) (u.length + 1 + body.length) =
      (u.filter keep).length + 1 + (body.filter keep).length := by
    have hbefore : keptBefore keep _ _ = _ := keptBefore_length_append (u ++ .loopOpen :: body) (.loopClose :: v)
    rw [List.filter_append, List.filter_cons_of_pos (hends _ rfl)] at hbefore
    simpa [Nat.add_assoc, Nat.add_comm, Nat.add_left_comm] using hbefore
  rw [keptBefore_length_append, hclose, List.filter_append, List.filter_cons_of_pos (hends _ rfl), List.filter_append,
    List.filter_cons_of_pos (hends _ rfl)]
  exact Partners.of_balanced (hbody.filter hends) _ _

/-- Plain instructions of some kinds left out. -/
theorem Program.excerpt_of_filter {p q : Program} (hp : Balanced p.instructions.toList)
    (hq : q.instructions.toList = p.instructions.toList.filter keep) :
    Excerpt p q (IsKept keep p.instructions.toList) (keptBefore keep p.instructions.toList) where
  balanced := hp
  balanced_excerpt := hq ▸ hp.filter hends
  place_zero := by simp [keptBefore]
  place_succ hk := by rw [keptBefore_succ, if_pos hk]
  kept_size := by simp [IsKept, Program.size]
  getElem? hk := by
    rw [← Array.getElem?_toList, ← Array.getElem?_toList, hq]
    exact getElem?_filter hk
  partners := by
    intro a b hab _
    refine ⟨?_, ?_, hq ▸ hab.filter hends⟩
    · rw [IsKept, hab.isOpen]
      exact hends _ rfl
    · rw [IsKept, hab.isClose]
      exact hends _ rfl

end Filter

/-! ### Without the inputs -/

/-- Anything but an input. -/
def Instruction.isNoInput (i : Instruction) : Bool := i != .input

theorem Instruction.isNoInput_of_isPlain_eq_false (i : Instruction) (hi : i.isPlain = false) : i.isNoInput = true := by
  cases i <;> first | rfl | cases hi

/-- A comma is the symbol of an input, and of nothing else. -/
theorem Instruction.filter_ofChar? (c : Char) :
    (ofChar? c).filter isNoInput = if c ≠ ',' then ofChar? c else none := by
  by_cases hc : c = ','
  · subst hc
    rfl
  · rw [if_pos hc]
    cases hi : ofChar? c with
    | none => rfl
    | some i =>
      rw [Option.filter_some, if_pos]
      rw [isNoInput, bne_iff_ne]
      rintro rfl
      exact hc (ofChar?_eq_some_iff.1 hi)

namespace Program

def withoutInputs (p : Program) : Program := ⟨p.instructions.filter Instruction.isNoInput⟩

theorem toList_withoutInputs (p : Program) :
    p.withoutInputs.instructions.toList = p.instructions.toList.filter Instruction.isNoInput := Array.toList_filter

variable {p : Program}

theorem excerpt_withoutInputs (hp : Balanced p.instructions.toList) :
    Excerpt p p.withoutInputs (IsKept Instruction.isNoInput p.instructions.toList)
      (keptBefore Instruction.isNoInput p.instructions.toList) :=
  excerpt_of_filter Instruction.isNoInput_of_isPlain_eq_false hp p.toList_withoutInputs

theorem withoutInputs_ne_nil (hne : ∃ i ∈ p.instructions, i ≠ .input) : p.withoutInputs.instructions.toList ≠ [] := by
  obtain ⟨i, hi, hinput⟩ := hne
  rw [toList_withoutInputs]
  exact List.ne_nil_of_mem (List.mem_filter.2 ⟨Array.mem_toList_iff.2 hi, bne_iff_ne.2 hinput⟩)

/-- A text without its commas is read as the program without its inputs, if anything is left of it. -/
theorem parse_withoutInputs {source : String} (hsource : parse source = .ok p)
    (hne : ∃ i ∈ p.instructions, i ≠ .input) :
    parse (String.ofList (source.toList.filter fun c => c ≠ ',')) = .ok p.withoutInputs := by
  obtain ⟨hclean, heq, -, hp⟩ := parse_eq_ok_iff.1 hsource
  rw [parse_eq_ok_iff, String.toList_ofList]
  refine ⟨fun c hc => hclean c (List.mem_of_mem_filter hc), ?_, withoutInputs_ne_nil hne,
    (excerpt_withoutInputs hp).balanced_excerpt⟩
  rw [toList_withoutInputs, heq, List.filter_filterMap, List.filterMap_filter]
  simp only [Instruction.filter_ofChar?, decide_eq_true_eq]

end Program

namespace Machine

variable {p : Program} {m : Machine} {pipe : Pipe}

/-- Once the input is at its end, it stays there. -/
theorem unread_after (hend : pipe.unread = []) (n : Nat) : (m.after pipe n).2.unread = [] := by
  have hstep : ∀ (m : Machine) (pipe : Pipe), pipe.unread = [] → (m.step pipe).2.2.unread = [] := by
    intro m pipe hend
    refine keeps_step (I := fun pipe : Pipe => pipe.unread = []) ?_ ?_ ?_ ?_ hend
    · rintro ⟨_, _⟩ rfl
      rfl
    · intro pipe hend _
      exact hend
    · exact id
    · intro pipe hend _ _
      exact hend
  exact keeps_after (P := fun _ (pipe : Pipe) => pipe.unread = []) hstep n hend

/-- At the end of the input, all that an input does is to go on. -/
theorem step_input_of_unread (hi : m.next? = some .input) (hend : pipe.unread = []) :
    m.step pipe = (.ok true, { m with ip := m.ip + 1, dispatched := m.dispatched + 1 }, pipe) := by
  obtain ⟨unread, written⟩ := pipe
  subst hend
  rw [step_plain hi rfl]
  rfl

theorem not_isKept_iff (hm : m.Executes p) :
    ¬ IsKept Instruction.isNoInput p.instructions.toList m.ip ↔ m.next? = some .input := by
  rw [IsKept, next?, hm.program, Array.getElem?_toList]
  cases p.instructions[m.ip]? with
  | none => simp
  | some i => simp [Instruction.isNoInput]

theorem idles_input (hm : m.Executes p) (hi : m.next? = some .input) (hend : pipe.unread = []) :
    Idles (keptBefore Instruction.isNoInput p.instructions.toList) m pipe := by
  have hleft := (not_isKept_iff hm).2 hi
  refine ⟨?_, ?_, ?_, ?_⟩ <;> rw [step_input_of_unread hi hend]
  · exact Nat.lt_succ_self m.ip
  · rw [keptBefore_succ, if_neg hleft]
    rfl

theorem leftOut_withoutInputs (hp : Balanced p.instructions.toList) (n : Nat) :
    (start p).leftOut (IsKept Instruction.isNoInput p.instructions.toList) pipe n =
      Nat.count (fun j => ((start p).after pipe j).1.next? = some .input) n := by
  have hiff (j : Nat) := not_isKept_iff ((executes_start p).after hp pipe j)
  simp only [leftOut, hiff]

/-- Where there is nothing to read, a program can do without its inputs.  What is left of it is a program, if anything
is; both finish or neither does; and when they finish, their tapes and what they have printed are the same, and the one
with inputs has counted a step more for each time that it came to one of them; as long as the counter has not begun
again, this is a sum. -/
theorem run_without_inputs {source : String} (hsource : Program.parse source = .ok p)
    (hne : ∃ i ∈ p.instructions, i ≠ .input) :
    let q := p.withoutInputs
    let pipe : Pipe := {}
    Program.parse q.text = .ok q ∧
      Program.parse (String.ofList (source.toList.filter fun c => c ≠ ',')) = .ok q ∧
      ((∃ n steps last, (start p).runFor n {} pipe = (some (.ok ⟨.finished, steps⟩), last)) ↔
        ∃ k steps last, (start q).runFor k {} pipe = (some (.ok ⟨.finished, steps⟩), last)) ∧
      (∀ n k steps steps' last last', (start p).runFor n {} pipe = (some (.ok ⟨.finished, steps⟩), last) →
        (start q).runFor k {} pipe = (some (.ok ⟨.finished, steps'⟩), last') →
          let inputs := Nat.count (fun j => ((start p).after pipe j).1.next? = some .input) n
          last'.1.tape = last.1.tape ∧ last'.2 = last.2 ∧ steps = Counter.wrap (steps' + inputs) ∧
            (last.1.dispatched ≤ Counter.max → steps = steps' + inputs)) ∧
      ∀ bytes, (∃ fuel, p.execute fuel = some (.ok bytes)) ↔ ∃ fuel, q.execute fuel = some (.ok bytes) := by
  obtain ⟨-, -, -, hp⟩ := Program.parse_eq_ok_iff.1 hsource
  intro q pipe
  have hexcerpt : Excerpt p q _ _ := Program.excerpt_withoutInputs hp
  have hq := hexcerpt.balanced_excerpt
  have hidles : ∀ n, ¬ IsKept Instruction.isNoInput p.instructions.toList ((start p).after pipe n).1.ip →
      Idles (keptBefore Instruction.isNoInput p.instructions.toList) ((start p).after pipe n).1
        ((start p).after pipe n).2 := by
    intro n hleft
    have hm := (executes_start p).after hp pipe n
    exact idles_input hm ((not_isKept_iff hm).1 hleft) (unread_after rfl n)
  refine ⟨Program.parse_text (Program.withoutInputs_ne_nil hne) hq, Program.parse_withoutInputs hsource hne, ?_, ?_, ?_⟩
  · simp only [(executes_start p).exists_runFor_eq_finished_iff hp, (executes_start q).exists_runFor_eq_finished_iff hq]
    exact hexcerpt.exists_isFinished_iff hidles
  · intro n k steps steps' last last' hrun hrun' inputs
    rw [show inputs = _ from (leftOut_withoutInputs hp n).symm]
    exact hexcerpt.runs_eq hidles hrun hrun'
  · intro bytes
    have hfinal := fun n k => hexcerpt.final_eq hidles (n := n) (k := k)
    have hfinishes := hexcerpt.exists_isFinished_iff hidles
    simp only [execute_eq_some_iff hp, execute_eq_some_iff hq, Except.ok.injEq]
    constructor
    · rintro ⟨n, hn, rfl⟩
      obtain ⟨k, hk⟩ := hfinishes.1 ⟨n, hn⟩
      exact ⟨k, hk, congrArg Pipe.written (hfinal n k hn hk).2.1.symm⟩
    · rintro ⟨k, hk, rfl⟩
      obtain ⟨n, hn⟩ := hfinishes.2 ⟨k, hk⟩
      exact ⟨n, hn, congrArg Pipe.written (hfinal n k hn hk).2.1⟩

/-- Inputs in a loop, in a loop within it, and outside of both: four of seventeen steps. -/
theorem run_without_inputs_in_loops :
    let p : Program := ⟨#[.input, .increment, .loopOpen, .input, .advance, .increment, .output, .loopOpen, .decrement,
      .input, .loopClose, .retreat, .decrement, .output, .input, .loopClose, .output]⟩
    let pipe : Pipe := {}
    Program.parse ",+[,>+.[-,]<-.,]." = .ok p ∧ (∃ i ∈ p.instructions, i ≠ .input) ∧
      Program.parse "+[>+.[-]<-.]." = .ok p.withoutInputs ∧
      Nat.count (fun j => ((start p).after pipe j).1.next? = some .input) 17 = 4 ∧
      (∃ steps last, (start p).runFor 17 {} pipe = (some (.ok ⟨.finished, steps⟩), last) ∧ steps = 13 + 4) ∧
      ∃ fuel, p.execute fuel = some (.ok #[1, 0, 0]) := by
  intro p pipe
  have hparse : Program.parse ",+[,>+.[-,]<-.,]." = .ok p := by rfl
  have hne : ∃ i ∈ p.instructions, i ≠ .input := ⟨.output, Array.mem_of_getElem? (i := 6) rfl, by decide⟩
  have hcount : Nat.count (fun j => ((start p).after pipe j).1.next? = some .input) 17 = 4 := by decide +kernel
  obtain ⟨-, hsource, -, hfinal, hbytes⟩ := run_without_inputs hparse hne
  have hcommas : String.ofList (",+[,>+.[-,]<-.,].".toList.filter fun c => c ≠ ',') = "+[>+.[-]<-.]." := by decide
  rw [hcommas] at hsource
  have hrun : (start p).runFor 17 {} pipe = (some (.ok ⟨.finished, 17⟩), (start p).after pipe 17) := by decide +kernel
  have hrun' : (start p.withoutInputs).runFor 13 {} pipe =
      (some (.ok ⟨.finished, 13⟩), (start p.withoutInputs).after pipe 13) := by decide +kernel
  obtain ⟨-, -, -, hsteps⟩ := hfinal 17 13 17 13 _ _ hrun hrun'
  rw [hcount] at hsteps
  exact ⟨hparse, hne, hsource, hcount, ⟨17, _, hrun, hsteps (by decide +kernel)⟩, (hbytes _).2 ⟨13, by decide +kernel⟩⟩

end Machine

end TapeMachine

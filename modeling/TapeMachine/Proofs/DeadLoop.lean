import TapeMachine.Proofs.Canonical
import TapeMachine.Proofs.Excerpt
import TapeMachine.Proofs.Loops

/-!
# Dead loops

A balanced part of a program can be left out without parting any loop ends (`Program.excerpt_of_balanced`).  If the
part is a loop that the program begins with, or that stands behind another loop, then the cell is zero whenever its
open is dispatched (`DeadLoop.cell_eq_zero`).  So the loop is passed over each time, no other step leads into it
(`DeadLoop.passesBy_after`), and the program without it does the same (`Machine.run_without_dead_loop`).
-/

namespace TapeMachine

/-! ### Leaving out a part of a word -/

/-- Not in the part of so many instructions from an index on. -/
def Outside (first size k : Nat) : Prop := k < first ∨ first + size ≤ k

instance (first size : Nat) : DecidablePred (Outside first size) := fun _ => inferInstanceAs (Decidable (_ ∨ _))

/-- Where an index comes to stand when the part is left out. -/
def closeUp (first size k : Nat) : Nat := min k first + (k - (first + size))

theorem closeUp_of_lt {first size k : Nat} (hk : k < first) : closeUp first size k = k := by
  unfold closeUp
  omega

theorem closeUp_of_le {first size k : Nat} (hk : first + size ≤ k) : closeUp first size k = k - size := by
  unfold closeUp
  omega

section ClosedUp

variable {u w v : List Instruction} {a b k : Nat}

theorem getElem?_closeUp (hk : Outside u.length w.length k) :
    (u ++ v)[closeUp u.length w.length k]? = (u ++ w ++ v)[k]? := by
  rcases hk with hk | hk
  · rw [closeUp_of_lt hk, List.append_assoc, List.getElem?_append_left hk, List.getElem?_append_left hk]
  · rw [closeUp_of_le hk, List.getElem?_append_right (by omega),
      List.getElem?_append_right (by rwa [List.length_append]), List.length_append,
      show k - w.length - u.length = k - (u.length + w.length) by omega]

theorem extract_append_of_le (ha : a ≤ u.length) (hb : u.length ≤ b) :
    (u ++ v).extract a b = u.drop a ++ v.take (b - u.length) := by
  rw [List.extract_eq_take_drop, List.drop_append_of_le_length ha, List.take_append, List.length_drop,
    List.take_of_length_le (by rw [List.length_drop]; omega), show b - a - (u.length - a) = b - u.length by omega]

/-- A loop around a balanced part is a loop without it. -/
theorem Partners.of_around (hw : Balanced w) (h : Partners (u ++ w ++ v) a b) (ha : a < u.length)
    (hb : u.length + w.length ≤ b) : Partners (u ++ v) a (b - w.length) := by
  have hclose := h.isClose
  have hbody := h.balanced
  refine ⟨?_, ?_, by omega, ?_⟩
  · have hopen := h.isOpen
    rw [List.append_assoc, List.getElem?_append_left ha] at hopen
    rwa [List.getElem?_append_left ha]
  · rw [List.getElem?_append_right (by rw [List.length_append]; omega), List.length_append] at hclose
    rwa [List.getElem?_append_right (by omega), show b - w.length - u.length = b - (u.length + w.length) by omega]
  · rw [extract_append_of_le (by rw [List.length_append]; omega) (by rwa [List.length_append]),
      List.drop_append_of_le_length ha, List.length_append, hw.append_append_iff] at hbody
    rwa [extract_append_of_le ha (by omega), show b - w.length - u.length = b - (u.length + w.length) by omega]

/-- The loop ends of a balanced part are partners of each other, and all others stay partners. -/
theorem Partners.closeUp (hw : Balanced w) (h : Partners (u ++ w ++ v) a b)
    (hout : Outside u.length w.length a ∨ Outside u.length w.length b) :
    Outside u.length w.length a ∧ Outside u.length w.length b ∧
      Partners (u ++ v) (closeUp u.length w.length a) (closeUp u.length w.length b) := by
  have hab := h.lt
  have ha : Outside u.length w.length a := by
    by_contra hin
    simp only [Outside, not_or, Nat.not_lt, Nat.not_le] at hin
    obtain ⟨j, hj, hj', hpartners⟩ := hw.exists_partners u v h.isOpen rfl hin.1 hin.2
    obtain rfl := eq_of_partners (.inl h) hpartners
    unfold Outside at hout
    omega
  have hb : Outside u.length w.length b := by
    by_contra hin
    simp only [Outside, not_or, Nat.not_lt, Nat.not_le] at hin
    obtain ⟨j, hj, hj', hpartners⟩ := hw.exists_partners u v h.isClose rfl hin.1 hin.2
    obtain rfl := eq_of_partners (.inr h) hpartners
    unfold Outside at hout
    omega
  refine ⟨ha, hb, ?_⟩
  rcases ha with ha | ha
  · rw [closeUp_of_lt ha]
    rcases hb with hb | hb
    · rw [closeUp_of_lt hb]
      rw [List.append_assoc] at h
      simpa using (h.of_append hb).append [] v
    · rw [closeUp_of_le hb]
      exact h.of_around hw ha hb
  · rw [closeUp_of_le ha, closeUp_of_le (by omega)]
    obtain ⟨a, rfl⟩ := Nat.exists_eq_add_of_le ha
    obtain ⟨b, rfl⟩ := Nat.exists_eq_add_of_le (show u.length + w.length ≤ b by omega)
    rw [← List.length_append] at h
    have hends := h.of_append_right.append u []
    rw [List.append_nil] at hends
    rwa [show u.length + w.length + a - w.length = u.length + a by omega,
      show u.length + w.length + b - w.length = u.length + b by omega]

end ClosedUp

/-- A balanced part left out. -/
theorem Program.excerpt_of_balanced {p q : Program} {u w v : List Instruction} (hp : Balanced p.instructions.toList)
    (hw : Balanced w) (hpw : p.instructions.toList = u ++ w ++ v) (hq : q.instructions.toList = u ++ v) :
    Excerpt p q (Outside u.length w.length) (closeUp u.length w.length) where
  balanced := hp
  balanced_excerpt := by
    rw [hpw, hw.append_append_iff] at hp
    rwa [hq]
  place_zero := by simp [closeUp]
  place_succ := by
    unfold Outside closeUp
    omega
  kept_size := by
    have := congrArg List.length hpw
    simp only [Array.length_toList, List.length_append] at this
    exact .inr (by rw [Program.size]; omega)
  getElem? := by
    intro k hk
    rw [← Array.getElem?_toList, ← Array.getElem?_toList, hpw, hq]
    exact getElem?_closeUp hk
  partners := by
    rw [hpw, hq]
    exact fun hab hout => hab.closeUp hw hout

/-! ### A loop that is never entered -/

/-- A loop that a program begins with, or that stands behind another loop of it. -/
structure DeadLoop (p : Program) (before body behind : List Instruction) : Prop where
  balanced : Balanced p.instructions.toList
  toList_eq : p.instructions.toList = before ++ .loopOpen :: (body ++ .loopClose :: behind)
  balanced_body : Balanced body
  before_eq : before = [] ∨ before.getLast? = some .loopClose

open Machine

/-- The index of a machine on its way past a loop is at the open, if it is in the loop at all. -/
structure PassesBy (p : Program) (first size : Nat) (m : Machine) : Prop where
  executes : m.Executes p
  poised : Poised p m
  outside_or_eq : Outside first size m.ip ∨ m.ip = first

namespace DeadLoop

variable {p q : Program} {u b v : List Instruction} (h : DeadLoop p u b v)

include h

theorem partners : Partners p.instructions.toList u.length (u.length + 1 + b.length) := by
  rw [h.toList_eq]
  exact Partners.of_balanced h.balanced_body u v

theorem excerpt (hq : q.instructions.toList = u ++ v) :
    Excerpt p q (Outside u.length (b.length + 2)) (closeUp u.length (b.length + 2)) := by
  have hw : Balanced (.loopOpen :: (b ++ [.loopClose])) := .loop h.balanced_body .nil
  have hlength : (Instruction.loopOpen :: (b ++ [.loopClose])).length = b.length + 2 := by simp
  have hexcerpt := Program.excerpt_of_balanced h.balanced hw (by simp [h.toList_eq]) hq
  rwa [hlength] at hexcerpt

/-- The cell is zero at the beginning, and behind a close. -/
theorem cell_eq_zero {m : Machine} (hm : Poised p m) (hip : m.ip = u.length) : m.tape.cell = 0 := by
  rcases h.before_eq with rfl | hu
  · rw [hm.first hip]
    rfl
  · have hpos : 0 < u.length := List.length_pos_iff.2 (by rintro rfl; cases hu)
    refine hm.behindClose (hip ▸ hpos) ?_
    rw [← Array.getElem?_toList, h.toList_eq, hip, List.getElem?_append_left (by omega),
      ← List.getLast?_eq_getElem?, hu]

/-! #### Past the loop -/

section PassesBy

variable {m : Machine} (hm : PassesBy p u.length (b.length + 2) m)

include hm

theorem step_eq (hip : m.ip = u.length) (pipe : Pipe) :
    m.step pipe = (.ok true, { m with ip := u.length + (b.length + 2), dispatched := m.dispatched + 1 }, pipe) := by
  rw [hm.executes.step_end h.partners (.inl hip), if_pos (h.cell_eq_zero hm.poised hip),
    show u.length + 1 + b.length + 1 = u.length + (b.length + 2) by omega]

theorem passesBy_step (pipe : Pipe) : PassesBy p u.length (b.length + 2) (m.step pipe).2.1 := by
  have hmove := hm.executes.move h.balanced pipe
  refine ⟨hm.executes.step h.balanced pipe, hmove.poised hm.poised, ?_⟩
  by_cases hip : m.ip = u.length
  · rw [h.step_eq hm hip]
    exact .inl (.inr (Nat.le_refl _))
  · -- nothing but the open leads into the loop
    have hout := hm.outside_or_eq.resolve_right hip
    unfold Outside at hout ⊢
    have hnext : (m.step pipe).2.1.ip ∉ Set.Icc (u.length + 1) (u.length + 1 + b.length) := fun hin =>
      hip (hmove.enter h.partners (by rw [Set.mem_Icc]; omega) hin)
    rw [Set.mem_Icc] at hnext
    omega

theorem idles (hin : ¬ Outside u.length (b.length + 2) m.ip) (pipe : Pipe) :
    Idles (closeUp u.length (b.length + 2)) m pipe := by
  have hip := hm.outside_or_eq.resolve_left hin
  refine ⟨?_, ?_, ?_, ?_⟩ <;> rw [h.step_eq hm hip]
  · change m.ip < u.length + (b.length + 2)
    omega
  · rw [hip, closeUp_of_le (Nat.le_refl _), Nat.add_sub_cancel]
    unfold closeUp
    omega

end PassesBy

theorem passesBy_after (pipe : Pipe) (n : Nat) : PassesBy p u.length (b.length + 2) ((start p).after pipe n).1 := by
  refine keeps_after (P := fun m _ => PassesBy p u.length (b.length + 2) m) ?_ n ?_
  · intro m pipe hm
    exact h.passesBy_step hm pipe
  · refine ⟨executes_start p, poised_start p, ?_⟩
    rcases Nat.eq_zero_or_pos u.length with hu | hu
    · exact .inr hu.symm
    · exact .inl (.inl hu)

/-- Only dispatches of the open are left out. -/
theorem leftOut_eq (pipe : Pipe) (n : Nat) : (start p).leftOut (Outside u.length (b.length + 2)) pipe n =
    Nat.count (fun j => ((start p).after pipe j).1.ip = u.length) n := by
  have hiff (j : Nat) : ¬ Outside u.length (b.length + 2) ((start p).after pipe j).1.ip ↔
      ((start p).after pipe j).1.ip = u.length := by
    refine ⟨(h.passesBy_after pipe j).outside_or_eq.resolve_left, fun hip => ?_⟩
    unfold Outside
    omega
  simp only [leftOut, hiff]

end DeadLoop

/-- A loop at the beginning of a program or behind another loop can be taken out, if that leaves a program.  On any
input both programs finish, or both run for ever and print the same.  When they finish, they have come to the same tape,
output and unread input, and the one with the loop has counted a step more for each time that it came to the loop; as
long as the counter has not begun again, this is a sum. -/
theorem Machine.run_without_dead_loop {source : String} {p : Program} {u b v : List Instruction}
    (hsource : Program.parse source = .ok p)
    (hword : p.instructions.toList = u ++ .loopOpen :: (b ++ .loopClose :: v)) (hb : Balanced b)
    (hu : u = [] ∨ u.getLast? = some .loopClose) (hne : u ++ v ≠ []) :
    let q : Program := ⟨(u ++ v).toArray⟩
    Program.parse q.text = .ok q ∧ ∀ input : List UInt8,
      let pipe : Pipe := { unread := input }
      (((∃ n steps last, (start p).runFor n {} pipe = (some (.ok ⟨.finished, steps⟩), last)) ∧
          ∃ k steps' last', (start q).runFor k {} pipe = (some (.ok ⟨.finished, steps'⟩), last')) ∨
        ((∀ n, ((start p).runFor n {} pipe).1 = none) ∧ (∀ k, ((start q).runFor k {} pipe).1 = none) ∧
          ∀ printed : List UInt8, (∃ n, printed <+: ((start p).runFor n {} pipe).2.2.written.toList) ↔
            ∃ k, printed <+: ((start q).runFor k {} pipe).2.2.written.toList)) ∧
      ∀ n k steps steps' last last', (start p).runFor n {} pipe = (some (.ok ⟨.finished, steps⟩), last) →
        (start q).runFor k {} pipe = (some (.ok ⟨.finished, steps'⟩), last') →
          let met := Nat.count (fun j => ((start p).after pipe j).1.ip = u.length) n
          last'.1.tape = last.1.tape ∧ last'.2 = last.2 ∧ steps = Counter.wrap (steps' + met) ∧
            (last.1.dispatched ≤ Counter.max → steps = steps' + met) := by
  obtain ⟨-, -, -, hp⟩ := Program.parse_eq_ok_iff.1 hsource
  have h : DeadLoop p u b v := ⟨hp, hword, hb, hu⟩
  intro q
  have hexcerpt : Excerpt p q (Outside u.length (b.length + 2)) (closeUp u.length (b.length + 2)) := h.excerpt rfl
  refine ⟨Program.parse_text hne hexcerpt.balanced_excerpt, ?_⟩
  intro input pipe
  have hidles := fun n hin => h.idles (h.passesBy_after pipe n) hin ((start p).after pipe n).2
  refine ⟨hexcerpt.finish_or_go_on hidles, ?_⟩
  intro n k steps steps' last last' hrun hrun' met
  rw [show met = _ from (h.leftOut_eq pipe n).symm]
  exact hexcerpt.runs_eq hidles hrun hrun'

/-- A loop behind a loop, within a loop: it is come to twice in sixteen steps, and nothing else is different. -/
theorem Machine.run_without_dead_loop_twice :
    let u : List Instruction := [.input, .loopOpen, .advance, .loopOpen, .decrement, .loopClose]
    let b : List Instruction := [.output, .increment]
    let v : List Instruction := [.retreat, .output, .decrement, .loopClose]
    let p : Program := ⟨(u ++ .loopOpen :: (b ++ .loopClose :: v)).toArray⟩
    let q : Program := ⟨(u ++ v).toArray⟩
    let pipe : Pipe := { unread := [2, 5] }
    Program.parse ",[>[-][.+]<.-]" = .ok p ∧ Balanced b ∧ u.getLast? = some .loopClose ∧ u ++ v ≠ [] ∧
      Program.parse q.text = .ok q ∧ Nat.count (fun j => ((start p).after pipe j).1.ip = 6) 16 = 2 ∧
      ∃ steps' last last', (start p).runFor 16 {} pipe = (some (.ok ⟨.finished, 16⟩), last) ∧
        (start q).runFor 14 {} pipe = (some (.ok ⟨.finished, steps'⟩), last') ∧ 16 = steps' + 2 ∧
        last'.1.tape = ⟨[], 0, [0]⟩ ∧ last'.2 = ⟨[5], #[2, 1]⟩ := by
  intro u b v p q pipe
  have hparse : Program.parse ",[>[-][.+]<.-]" = .ok p := by rfl
  have hb : Balanced b := .plain rfl (.plain rfl .nil)
  have hcount : Nat.count (fun j => ((start p).after pipe j).1.ip = 6) 16 = 2 := by decide +kernel
  have hrun : (start p).runFor 16 {} pipe = (some (.ok ⟨.finished, 16⟩), (start p).after pipe 16) := by decide +kernel
  have hrun' : (start q).runFor 14 {} pipe = (some (.ok ⟨.finished, 14⟩), (start q).after pipe 14) := by
    decide +kernel
  obtain ⟨hq, hruns⟩ := run_without_dead_loop hparse rfl hb (.inr rfl) (List.cons_ne_nil _ _)
  obtain ⟨-, hfinal⟩ := hruns pipe.unread
  obtain ⟨htape, hstreams, -, hsteps⟩ := hfinal 16 14 16 14 _ _ hrun hrun'
  refine ⟨hparse, hb, rfl, List.cons_ne_nil _ _, hq, hcount, 14, _, _, hrun, hrun', ?_, ?_, ?_⟩
  · rw [← hcount]
    exact hsteps (by decide +kernel)
  · rw [htape]
    decide +kernel
  · rw [hstreams]
    decide +kernel

end TapeMachine

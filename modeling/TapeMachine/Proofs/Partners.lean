import Mathlib.Data.List.Induction
import TapeMachine.Program.Balanced

/-!
# Partners

Two loop ends are partners if the first is an open, the second a close, and the word between them is balanced.
Partners stay partners in a longer word (`Partners.append`), and in a balanced word every loop end has one
(`Balanced.hasPartner`).

`Opens` describes a word that is read only in part: its loops that are still open, and balanced words between them.
A word that cannot be read to its end has a close behind a balanced word (`exists_opens_or_balanced_take`).
-/

namespace TapeMachine

structure Partners (w : List Instruction) (a b : Nat) : Prop where
  isOpen : w[a]? = some .loopOpen
  isClose : w[b]? = some .loopClose
  lt : a < b
  balanced : Balanced (w.extract (a + 1) b)

namespace Partners

variable {w : List Instruction} {a b : Nat}

theorem lt_length (h : Partners w a b) : b < w.length := by
  have := h.isClose
  rw [List.getElem?_eq_some_iff] at this
  exact this.1

/-- The two ends of a loop with a balanced body. -/
theorem of_balanced {body : List Instruction} (hbody : Balanced body) (pre post : List Instruction) :
    Partners (pre ++ .loopOpen :: (body ++ .loopClose :: post)) pre.length (pre.length + 1 + body.length) := by
  refine ⟨by simp, ?_, by omega, ?_⟩
  · rw [List.getElem?_append_right (by omega),
      show pre.length + 1 + body.length - pre.length = body.length + 1 by omega]
    simp
  · have h : (pre ++ .loopOpen :: (body ++ .loopClose :: post)).drop (pre.length + 1) =
        body ++ .loopClose :: post := by
      rw [List.drop_append]
      simp
    rw [List.extract_eq_take_drop, h, show pre.length + 1 + body.length - (pre.length + 1) = body.length by omega,
      List.take_left]
    exact hbody

/-- The word around two partners. -/
theorem exists_eq (h : Partners w a b) : ∃ pre body post, w = pre ++ .loopOpen :: (body ++ .loopClose :: post) ∧
    pre.length = a ∧ pre.length + 1 + body.length = b ∧ Balanced body := by
  have hb := h.lt_length
  have hab := h.lt
  have hopen : w.drop a = .loopOpen :: w.drop (a + 1) := by
    have := h.isOpen
    rw [List.getElem?_eq_getElem (by omega), Option.some.injEq] at this
    rw [List.drop_eq_getElem_cons (by omega), this]
  have hclose : w.drop b = .loopClose :: w.drop (b + 1) := by
    have := h.isClose
    rw [List.getElem?_eq_getElem hb, Option.some.injEq] at this
    rw [List.drop_eq_getElem_cons hb, this]
  have hbody : w.drop (a + 1) = w.extract (a + 1) b ++ .loopClose :: w.drop (b + 1) := by
    have hdrop : (w.drop (a + 1)).drop (b - (a + 1)) = .loopClose :: w.drop (b + 1) := by
      rw [List.drop_drop, show a + 1 + (b - (a + 1)) = b by omega, hclose]
    rw [← hdrop, List.extract_eq_take_drop, List.take_append_drop]
  refine ⟨w.take a, w.extract (a + 1) b, w.drop (b + 1), ?_, ?_, ?_, h.balanced⟩
  · rw [← hbody, ← hopen, List.take_append_drop]
  · rw [List.length_take]
    omega
  · rw [List.length_take, List.extract_eq_take_drop, List.length_take, List.length_drop]
    omega

/-- Partners in a part of a word are partners in the word. -/
theorem append (h : Partners w a b) (pre post : List Instruction) :
    Partners (pre ++ w ++ post) (pre.length + a) (pre.length + b) := by
  obtain ⟨u, body, v, rfl, rfl, rfl, hbody⟩ := h.exists_eq
  have := of_balanced hbody (pre ++ u) (v ++ post)
  simpa [Nat.add_assoc] using this

end Partners

/-- There is a partner to the loop end at an index, before it or behind it. -/
def HasPartner (w : List Instruction) (i : Nat) : Prop := ∃ j, Partners w i j ∨ Partners w j i

namespace HasPartner

variable {w : List Instruction} {i : Nat}

theorem append (h : HasPartner w i) (pre post : List Instruction) :
    HasPartner (pre ++ w ++ post) (pre.length + i) := by
  obtain ⟨j, hj⟩ := h
  exact ⟨pre.length + j, hj.imp (fun h => h.append pre post) (fun h => h.append pre post)⟩

theorem exists_ends (h : HasPartner w i) : ∃ a b, Partners w a b ∧ (i = a ∨ i = b) := by
  obtain ⟨j, h | h⟩ := h
  · exact ⟨i, j, h, .inl rfl⟩
  · exact ⟨j, i, h, .inr rfl⟩

end HasPartner

/-- In a balanced word every loop end has a partner. -/
theorem Balanced.hasPartner {w : List Instruction} (hw : Balanced w) {i : Nat} {e : Instruction}
    (hi : w[i]? = some e) (he : e.isPlain = false) : HasPartner w i := by
  induction hw generalizing i with
  | nil => simp at hi
  | @plain x rest hx _ ih =>
    cases i with
    | zero =>
      simp only [List.getElem?_cons_zero, Option.some.injEq] at hi
      rw [hi, he] at hx
      cases hx
    | succ i =>
      rw [List.getElem?_cons_succ] at hi
      simpa [Nat.add_comm] using (ih hi).append [x] []
  | @loop body rest hbody _ ihb ihr =>
    have hends := Partners.of_balanced hbody [] rest
    rw [List.nil_append, List.length_nil, Nat.zero_add] at hends
    cases i with
    | zero => exact ⟨_, .inl hends⟩
    | succ i =>
      rw [List.getElem?_cons_succ] at hi
      -- in the body, at the close, or behind the loop
      rcases Nat.lt_trichotomy i body.length with hlt | rfl | hgt
      · rw [List.getElem?_append_left hlt] at hi
        simpa [Nat.add_comm] using (ihb hi).append [.loopOpen] (.loopClose :: rest)
      · rw [Nat.add_comm 1] at hends
        exact ⟨0, .inr hends⟩
      · obtain ⟨k, rfl⟩ : ∃ k, i = body.length + 1 + k := ⟨i - (body.length + 1), by omega⟩
        rw [List.getElem?_append_right (by omega), show body.length + 1 + k - body.length = k + 1 by omega,
          List.getElem?_cons_succ] at hi
        have h := (ihr hi).append (.loopOpen :: (body ++ [.loopClose])) []
        rw [show (Instruction.loopOpen :: (body ++ [.loopClose])).length + k = body.length + 1 + k + 1 by
          simp; omega] at h
        simpa using h

/-! ### Open loops -/

/-- The open loops of a word begin at the given places, the last one first.  Between them and behind the last there
are balanced words; before the first there is a word of which `base` holds. -/
inductive Opens (base : List Instruction → Prop) : List Instruction → List Nat → Prop
  | base {w : List Instruction} : base w → Opens base w []
  | loop {w body : List Instruction} {opens : List Nat} :
    Opens base w opens → Balanced body → Opens base (w ++ .loopOpen :: body) (w.length :: opens)

namespace Opens

variable {base : List Instruction → Prop} {w v : List Instruction} {opens : List Nat}

theorem lt_length (h : Opens base w opens) : ∀ o ∈ opens, o < w.length := by
  induction h with
  | base _ => simp
  | loop _ _ ih =>
    intro o ho
    rw [List.length_append, List.length_cons]
    rcases List.mem_cons.1 ho with rfl | ho
    · omega
    · have := ih o ho
      omega

theorem base_of_nil (h : Opens base w []) : base w := by
  cases h with
  | base h => exact h

theorem push (h : Opens base w opens) : Opens base (w ++ [.loopOpen]) (w.length :: opens) := .loop h .nil

theorem append (hbase : ∀ {u v}, base u → Balanced v → base (u ++ v)) (h : Opens base w opens) (hv : Balanced v) :
    Opens base (w ++ v) opens := by
  cases h with
  | base h => exact .base (hbase h hv)
  | loop h hbody =>
    have := Opens.loop h (hbody.append hv)
    simpa using this

/-- A close ends the last of the open loops. -/
theorem pop (hbase : ∀ {u v}, base u → Balanced v → base (u ++ v)) {mate : Nat} (h : Opens base w (mate :: opens)) :
    Opens base (w ++ [.loopClose]) opens ∧ Partners (w ++ [.loopClose]) mate w.length := by
  cases h with
  | @loop u body _ h hbody =>
    constructor
    · have := h.append hbase (.loop hbody .nil)
      simpa using this
    · have := Partners.of_balanced hbody u []
      rw [show (u ++ Instruction.loopOpen :: body).length = u.length + 1 + body.length by simp; omega]
      simpa using this

/-- Closes end the last open loops, one each. -/
theorem append_replicate (hbase : ∀ {u v}, base u → Balanced v → base (u ++ v)) (h : Opens base w opens) {m : Nat}
    (hm : m ≤ opens.length) : Opens base (w ++ List.replicate m .loopClose) (opens.drop m) := by
  induction m with
  | zero => simpa using h
  | succ m ih =>
    have hopens := ih (Nat.le_of_succ_le hm)
    rw [List.drop_eq_getElem_cons hm] at hopens
    simpa [List.replicate_succ'] using (hopens.pop hbase).1

end Opens

/-- A word can be read to its end, or up to a close that has no open before it. -/
theorem exists_opens_or_balanced_take (w : List Instruction) :
    (∃ opens, Opens Balanced w opens) ∨ ∃ i, w[i]? = some .loopClose ∧ Balanced (w.take i) := by
  induction w using List.reverseRecOn with
  | nil => exact .inl ⟨[], .base .nil⟩
  | append_singleton w e ih =>
    rcases ih with ⟨opens, h⟩ | ⟨i, hclose, hbefore⟩
    · by_cases he : e.isPlain = true
      · exact .inl ⟨opens, h.append Balanced.append (.plain he .nil)⟩
      · cases e with
        | loopOpen => exact .inl ⟨_, h.push⟩
        | loopClose =>
          cases opens with
          | nil =>
            refine .inr ⟨w.length, by simp, ?_⟩
            simpa using h.base_of_nil
          | cons mate opens => exact .inl ⟨opens, (h.pop Balanced.append).1⟩
        | _ => exact absurd rfl he
    · have hlt : i < w.length := (List.getElem?_eq_some_iff.1 hclose).1
      refine .inr ⟨i, ?_, ?_⟩
      · rwa [List.getElem?_append_left hlt]
      · rwa [List.take_append_of_le_length (Nat.le_of_lt hlt)]

end TapeMachine

import TapeMachine.JumpTable
import TapeMachine.Proofs.Partners

/-!
# The jump table holds the partners

Whether its loops pair up or not, the jump table of a word has an entry for exactly those instructions that have a
partner, and the entry is the partner (`JumpTable.partner?_ofList_iff`).

In one direction, what `JumpTable.fill` has entered so far are partners, since its stack holds the open loops of the
instructions before the index.  In the other direction, a loop with a balanced body leaves the stack as it was when
the body ends, so that the close finds its own open on top of it; afterwards neither entry is touched again.
-/

namespace TapeMachine

namespace JumpTable

/-! ### One instruction -/

/-- What is no loop end, or a close without an open loop before it, changes nothing. -/
theorem fill_other {i : Instruction} {opens : List Nat} (hopen : i ≠ .loopOpen) (hclose : i = .loopClose → opens = [])
    (rest : List Instruction) (index : Nat) (table : JumpTable) :
    fill (i :: rest) index opens table = fill rest (index + 1) opens table := by
  cases i with
  | loopOpen => exact absurd rfl hopen
  | loopClose => rw [hclose rfl]; rfl
  | _ => rfl

theorem fill_loopOpen (rest : List Instruction) (index : Nat) (opens : List Nat) (table : JumpTable) :
    fill (.loopOpen :: rest) index opens table = fill rest (index + 1) (index :: opens) table := rfl

/-- The table with two partners entered. -/
def pair (table : JumpTable) (a b : Nat) : JumpTable := (table.setIfInBounds a (some b)).setIfInBounds b (some a)

theorem fill_loopClose (rest : List Instruction) (index mate : Nat) (opens : List Nat) (table : JumpTable) :
    fill (.loopClose :: rest) index (mate :: opens) table = fill rest (index + 1) opens (table.pair mate index) := rfl

@[simp] theorem size_pair (table : JumpTable) (a b : Nat) : (table.pair a b).size = table.size := by
  simp [pair]

theorem partner?_pair {table : JumpTable} {a b : Nat} (hab : a < b) (hb : b < table.size) :
    (table.pair a b).partner? a = some b ∧ (table.pair a b).partner? b = some a := by
  unfold partner? pair
  constructor
  · rw [Array.getElem?_setIfInBounds_ne (by omega), Array.getElem?_setIfInBounds_self_of_lt (by omega)]
    rfl
  · rw [Array.getElem?_setIfInBounds_self_of_lt (by simpa using hb)]
    rfl

theorem partner?_pair_of_ne (table : JumpTable) {a b k : Nat} (ha : k ≠ a) (hb : k ≠ b) :
    (table.pair a b).partner? k = table.partner? k := by
  unfold partner? pair
  rw [Array.getElem?_setIfInBounds_ne hb.symm, Array.getElem?_setIfInBounds_ne ha.symm]

theorem eq_of_partner?_pair {table : JumpTable} {a b k j : Nat} (h : (table.pair a b).partner? k = some j) :
    (k = a ∧ j = b) ∨ (k = b ∧ j = a) ∨ table.partner? k = some j := by
  unfold partner? pair at h
  rw [Array.getElem?_setIfInBounds] at h
  split at h
  · rename_i hk
    split at h
    · cases h
      exact .inr (.inl ⟨hk.symm, rfl⟩)
    · cases h
  · rw [Array.getElem?_setIfInBounds] at h
    split at h
    · rename_i hk
      split at h
      · cases h
        exact .inl ⟨hk.symm, rfl⟩
      · cases h
    · exact .inr (.inr h)

/-! ### Every entry is a partner -/

/-- Every entry of the table is the partner of its index. -/
def Sound (table : JumpTable) (w : List Instruction) : Prop :=
  ∀ k j : Nat, table.partner? k = some j → Partners w k j ∨ Partners w j k

theorem Sound.append {table : JumpTable} {w : List Instruction} (h : table.Sound w) (v : List Instruction) :
    table.Sound (w ++ v) := by
  intro k j hk
  have extend {a b : Nat} (hab : Partners w a b) : Partners (w ++ v) a b := by
    simpa using hab.append [] v
  exact (h k j hk).imp extend extend

theorem Sound.pair {table : JumpTable} {w : List Instruction} (h : table.Sound w) {a b : Nat}
    (hab : Partners w a b) : (table.pair a b).Sound w := by
  intro k j hk
  rcases eq_of_partner?_pair hk with ⟨rfl, rfl⟩ | ⟨rfl, rfl⟩ | hk
  · exact .inl hab
  · exact .inr hab
  · exact h k j hk

/-- The stack holds the open loops of the instructions before the index.  Nothing is known of the word before the first
of them, since a stray close may stand there. -/
theorem sound_fill {rest w : List Instruction} {index : Nat} {opens : List Nat} {table : JumpTable}
    (hindex : w.length = index) (hopens : Opens (fun _ => True) w opens) (htable : table.Sound w) :
    (fill rest index opens table).Sound (w ++ rest) := by
  fun_induction fill rest index opens table generalizing w with
  | case1 => rwa [List.append_nil]
  | case2 rest index opens table ih =>
    subst hindex
    simpa using ih (by simp) hopens.push (htable.append _)
  | case3 rest index mate opens table ih =>
    subst hindex
    obtain ⟨ho, hmate⟩ := hopens.pop fun _ _ => trivial
    simpa using ih (by simp) ho ((htable.append _).pair hmate)
  | case4 i rest index opens table hopen hclose ih =>
    -- a plain instruction, or a close that finds no open loop
    have ho : Opens (fun _ => True) (w ++ [i]) opens := by
      by_cases hi : i.isPlain = true
      · exact hopens.append (fun _ _ => trivial) (.plain hi .nil)
      · cases opens with
        | nil => exact .base trivial
        | cons mate opens =>
          have hplain := Instruction.isPlain_iff.2 ⟨hopen, fun h => hclose mate opens rfl h⟩
          exact absurd hplain hi
    subst hindex
    simpa using ih (by simp) ho (htable.append _)

theorem sound_ofList (w : List Instruction) : (ofList w).Sound w := by
  have hfresh : Sound (Array.replicate w.length none) [] := by
    intro k j hk
    rw [partner?, Array.getElem?_replicate] at hk
    split at hk <;> cases hk
  exact sound_fill rfl (.base trivial) hfresh

/-! ### Every partner is entered -/

/-- The entries before the index are final, except those of the open loops. -/
theorem partner?_fill_of_lt (rest : List Instruction) {index : Nat} {opens : List Nat} (table : JumpTable) {k : Nat}
    (hk : k < index) (hopens : k ∉ opens) : (fill rest index opens table).partner? k = table.partner? k := by
  fun_induction fill rest index opens table with
  | case1 => rfl
  | case2 rest index opens table ih =>
    apply ih (by omega)
    rw [List.mem_cons, not_or]
    exact ⟨by omega, hopens⟩
  | case3 rest index mate opens table ih =>
    rw [List.mem_cons, not_or] at hopens
    rw [ih (by omega) hopens.2]
    exact partner?_pair_of_ne _ hopens.1 (by omega)
  | case4 i rest index opens table _ _ ih => exact ih (by omega) hopens

/-- Some instructions leave a stack of places before the index after them, and a table of the same size. -/
theorem exists_fill_append (v rest : List Instruction) {index : Nat} {opens : List Nat} (table : JumpTable)
    (hopens : ∀ o ∈ opens, o < index) : ∃ (opens' : List Nat) (table' : JumpTable),
      fill (v ++ rest) index opens table = fill rest (index + v.length) opens' table' ∧
        (∀ o ∈ opens', o < index + v.length) ∧ table'.size = table.size := by
  induction v generalizing index opens table with
  | nil => exact ⟨opens, table, rfl, hopens, rfl⟩
  | cons i v ih =>
    have hlt : ∀ o ∈ opens, o < index + 1 := fun o ho => Nat.lt_succ_of_lt (hopens o ho)
    rw [List.cons_append, List.length_cons, show index + (v.length + 1) = index + 1 + v.length by omega]
    by_cases hopen : i = .loopOpen
    · subst hopen
      exact ih table (List.forall_mem_cons.2 ⟨Nat.lt_succ_self _, hlt⟩)
    · -- a close without an open loop is passed over like a plain instruction
      by_cases hclose : i = .loopClose → opens = []
      · rw [fill_other hopen hclose]
        exact ih table hlt
      · rw [Classical.not_imp] at hclose
        obtain ⟨rfl, hne⟩ := hclose
        obtain ⟨mate, opens, rfl⟩ := List.exists_cons_of_ne_nil hne
        obtain ⟨opens', table', heq, hlt', hsize⟩ := ih (table.pair mate index) (List.forall_mem_cons.1 hlt).2
        exact ⟨opens', table', heq, hlt', by rw [hsize, size_pair]⟩

/-- A balanced word leaves the stack as it was. -/
theorem exists_fill_balanced {v : List Instruction} (hv : Balanced v) (rest : List Instruction) (index : Nat)
    (opens : List Nat) (table : JumpTable) : ∃ table' : JumpTable,
      fill (v ++ rest) index opens table = fill rest (index + v.length) opens table' ∧ table'.size = table.size := by
  induction hv generalizing rest index opens table with
  | nil => exact ⟨table, rfl, rfl⟩
  | @plain i v hi _ ih =>
    obtain ⟨hopen, hclose⟩ := Instruction.isPlain_iff.1 hi
    rw [List.cons_append, fill_other hopen fun h => absurd h hclose, List.length_cons,
      show index + (v.length + 1) = index + 1 + v.length by omega]
    exact ih rest (index + 1) opens table
  | @loop body v _ _ ihb ihv =>
    obtain ⟨table₁, heq₁, hsize₁⟩ := ihb (.loopClose :: (v ++ rest)) (index + 1) (index :: opens) table
    obtain ⟨table₂, heq₂, hsize₂⟩ :=
      ihv rest (index + 1 + body.length + 1) opens (table₁.pair index (index + 1 + body.length))
    refine ⟨table₂, ?_, by simpa [hsize₁] using hsize₂⟩
    have hassoc : Instruction.loopOpen :: (body ++ .loopClose :: v) ++ rest =
        .loopOpen :: (body ++ .loopClose :: (v ++ rest)) := by simp
    have hlength : index + (Instruction.loopOpen :: (body ++ .loopClose :: v)).length =
        index + 1 + body.length + 1 + v.length := by simp; omega
    rw [hassoc, hlength, fill_loopOpen, heq₁, fill_loopClose, heq₂]

theorem partner?_ofList_of_partners {w : List Instruction} {a b : Nat} (h : Partners w a b) :
    (ofList w).partner? a = some b ∧ (ofList w).partner? b = some a := by
  have hb := h.lt_length
  obtain ⟨pre, body, post, rfl, rfl, rfl, hbody⟩ := h.exists_eq
  obtain ⟨opens, table₁, heq₁, hlt, hsize₁⟩ := exists_fill_append pre (.loopOpen :: (body ++ .loopClose :: post))
    (Array.replicate (pre ++ .loopOpen :: (body ++ .loopClose :: post)).length none) (List.forall_mem_nil (· < 0))
  obtain ⟨table₂, heq₂, hsize₂⟩ :=
    exists_fill_balanced hbody (.loopClose :: post) (pre.length + 1) (pre.length :: opens) table₁
  rw [Nat.zero_add] at heq₁ hlt
  rw [ofList, heq₁, fill_loopOpen, heq₂, fill_loopClose]
  -- the loop is closed by now, so its two entries are final
  have hfinal {k : Nat} (hk : pre.length ≤ k) : k ∉ opens := fun hmem => by
    have := hlt k hmem
    omega
  rw [partner?_fill_of_lt _ _ (by omega) (hfinal (Nat.le_refl _)),
    partner?_fill_of_lt _ _ (by omega) (hfinal (by omega))]
  apply partner?_pair (by omega)
  rw [hsize₂, hsize₁, Array.size_replicate]
  exact hb

theorem partner?_ofList_iff {w : List Instruction} {i j : Nat} :
    (ofList w).partner? i = some j ↔ Partners w i j ∨ Partners w j i := by
  constructor
  · intro h
    exact sound_ofList w i j h
  · rintro (h | h)
    · exact (partner?_ofList_of_partners h).1
    · exact (partner?_ofList_of_partners h).2

end JumpTable

end TapeMachine

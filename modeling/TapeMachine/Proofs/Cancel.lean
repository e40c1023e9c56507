import TapeMachine.Proofs.Budget
import TapeMachine.Proofs.FlushOrder
import TapeMachine.Session

/-!
# Runs that are cancelled

A run without failures stops at the first reason there is, from any state that calls on a machine can reach.  If the
reason is a flag that is set by the `n`-th byte that is written, no more than `n` bytes are written, since a step
writes one byte at most (`Machine.exists_delivered_step`); and the step that writes the last of them is the last one
(`Machine.runFor_stops`).
-/

namespace TapeMachine

/-! ### Bytes that are written -/

theorem Emission.length_filterMap_le {added : List StreamEvent} (h : Emission added) :
    (added.filterMap StreamEvent.byte?).length ≤ 1 := by
  cases h with
  | nothing => exact Nat.zero_le 1
  | byte value => exact Nat.le_refl 1
  | input calls =>
    have hnone : ∀ e ∈ StreamEvent.flushed :: List.replicate calls .readCall, e.byte? = none := by
      intro e he
      rcases List.mem_cons.1 he with rfl | he
      · rfl
      · rw [List.eq_of_mem_replicate he]
        rfl
    rw [List.filterMap_eq_nil_iff.2 hnone]
    exact Nat.zero_le 1

namespace Script

/-- Between two states as many writes have been accepted as bytes delivered. -/
def Tallies (s s' : Script) : Prop := s'.accepted + s.delivered.length = s.accepted + s'.delivered.length

namespace Tallies

variable {s s' : Script}

theorem read (h : s.Tallies s') : s.Tallies s'.read.2 := by
  have hdelivered : s'.read.2.delivered = s'.delivered := filterMap_pull s'.reads s'.events
  have haccepted : s'.read.2.accepted = s'.accepted := rfl
  rwa [Tallies, hdelivered, haccepted]

theorem write (h : s.Tallies s') (byte : UInt8) : s.Tallies (s'.write byte).2 := by
  unfold Script.write
  split
  · unfold Tallies delivered at h ⊢
    simp only [Array.toList_push, List.filterMap_append, List.length_append]
    change s'.accepted + 1 + _ = _ + (_ + 1)
    omega
  · exact h

theorem flush (h : s.Tallies s') : s.Tallies s'.flush.2 := by
  have haccepted : s'.flush.2.accepted = s'.accepted := by
    unfold Script.flush
    split <;> rfl
  rwa [Tallies, delivered_flush, haccepted]

theorem after (s : Script) (m : Machine) (n : ℕ) : s.Tallies (m.after s n).2 :=
  Machine.keeps_after (P := fun _ s' => s.Tallies s')
    (fun _ _ h => Machine.keeps_step read write flush (fun h _ _ => h) h) n rfl

end Tallies

end Script

namespace Machine

/-- A step writes one byte at most. -/
theorem exists_delivered_step (m : Machine) (s : Script) :
    ∃ bytes, (m.step s).2.2.delivered = s.delivered ++ bytes ∧ bytes.length ≤ 1 := by
  obtain ⟨added, hadded, hevents⟩ := m.emission_step s
  refine ⟨added.filterMap StreamEvent.byte?, ?_, hadded.length_filterMap_le⟩
  rw [Script.delivered, hevents, List.filterMap_append]
  rfl

/-- If fewer than so many bytes were written before every step, no more were written in all. -/
theorem exists_delivered_after (m : Machine) (s : Script) {n k : ℕ}
    (hbefore : ∀ j < k, (m.after s j).2.delivered.length < s.delivered.length + n) :
    ∃ bytes, (m.after s k).2.delivered = s.delivered ++ bytes ∧ bytes.length ≤ n := by
  induction k with
  | zero => exact ⟨[], (List.append_nil _).symm, Nat.zero_le n⟩
  | succ k ih =>
    obtain ⟨bytes, heq, -⟩ := ih fun j hj => hbefore j (Nat.lt_succ_of_lt hj)
    obtain ⟨more, hmore, hone⟩ := (m.after s k).1.exists_delivered_step (m.after s k).2
    have hlt := hbefore k (Nat.lt_succ_self k)
    rw [heq, List.length_append] at hlt
    refine ⟨bytes ++ more, ?_, ?_⟩
    · rw [after_succ_eq_step, hmore, heq, List.append_assoc]
    · rw [List.length_append]
      omega

/-- As long as a flag that is set by the `n`-th byte does not stop a run, fewer than `n` bytes are written. -/
theorem length_delivered_after_lt {m : Machine} {s : Script} {limit : Option ℕ} {initially : Option Bool} {n k : ℕ}
    (hn : 1 ≤ n) (h : ¬ m.Stops s (Session.limits limit initially (some n) s) k .cancelled) :
    (m.after s k).2.delivered.length < s.delivered.length + n := by
  have hflag : (Session.limits limit initially (some n) s).cancel =
      some fun _ now => Session.isCancelled (initially.getD false) (some n) s.accepted now := by
    simp [Session.limits]
  have hset : ¬ Session.isCancelled (initially.getD false) (some n) s.accepted (m.after s k).2 = true :=
    fun hset => h ⟨_, hflag, hset⟩
  have htally : s.Tallies (m.after s k).2 := .after s m k
  unfold Script.Tallies at htally
  simp only [Session.isCancelled, Bool.or_eq_true, Option.any_some, decide_eq_true_eq, not_or] at hset
  omega

/-- A run without failures, from any state that calls on a machine can reach, under any limits and on any streams.  It
stops after the least number of steps after which the program has finished, the step limit is used up or the cancel
flag is set, and tells the first of these reasons that is there then; it goes on as long as there is none.  If writing
the `n`-th byte sets the flag, it writes no more than `n` bytes, and no step follows the one that writes the `n`-th. -/
theorem runFor_stops {source : String} {p : Program} (hsource : Program.parse source = .ok p) {σ : Type} [Host σ]
    {first s : σ} {m : Machine} (hreach : Reachable p first m s) :
    (∀ {τ : Type} [Host τ] (t : τ), Host.NeverFails t → ∀ limits : Limits τ,
        (∀ k, IsLeast {k | ∃ why, m.Stops t limits k why} k →
          m.GoesOn t k ∧ ∃ why, m.firstReason? t limits k = some why ∧ ∀ fuel, m.runFor fuel limits t =
            if k ≤ fuel then (some (.ok ⟨why, Counter.wrap (m.steps + k)⟩), m.after t k)
            else (none, m.after t fuel)) ∧
        ((∀ k why, ¬ m.Stops t limits k why) →
          ∀ fuel, m.GoesOn t fuel ∧ m.runFor fuel limits t = (none, m.after t fuel))) ∧
      ∀ (t : Script) (limit : Option ℕ) (initially : Option Bool) (n : ℕ), 1 ≤ n → ∀ fuel, ∃ k, m.GoesOn t k ∧
        (m.runFor fuel (Session.limits limit initially (some n) t) t).2 = m.after t k ∧
        (∀ j < k, (m.after t j).2.delivered.length < t.delivered.length + n) ∧
          ∃ bytes, (m.after t k).2.delivered = t.delivered ++ bytes ∧ bytes.length ≤ n := by
  obtain ⟨-, -, -, hp⟩ := Program.parse_eq_ok_iff.1 hsource
  constructor
  · intro τ _ t ht limits
    have hfailures := (hreach.executes hp).failures_of_neverFails hp ht
    constructor
    · intro k hleast
      exact runFor_of_isLeast hleast (hfailures k)
    · intro hnever fuel
      exact ⟨fun j _ => hnever j .finished, runFor_of_forall_not_stops (fun j _ => hnever j) (hfailures fuel)⟩
  · intro t limit initially n hn fuel
    obtain ⟨k, hbefore, hafter⟩ := exists_snd_runFor_eq (Session.limits limit initially (some n) t) fuel m t
    have hlt : ∀ j < k, (m.after t j).2.delivered.length < t.delivered.length + n :=
      fun j hj => length_delivered_after_lt hn (hbefore j hj .cancelled)
    exact ⟨k, fun j hj => hbefore j hj .finished, hafter, hlt, m.exists_delivered_after t hlt⟩

/-- A machine whose write has failed writes again; the flag is set by the second byte, four steps later. -/
theorem runFor_stops_second_byte :
    let p : Program := ⟨#[.input, .loopOpen, .output, .input, .loopClose]⟩
    let script : Script := { reads := [.byte 2], writes := [.fail .brokenPipe] }
    let m := ((start p).after script 3).1
    let t : Script := { reads := [.byte 1, .byte 3] }
    let limits := Session.limits none none (some 2) t
    Program.parse ",[.,]" = .ok p ∧ Reachable p script m ((start p).after script 3).2 ∧ Host.NeverFails t ∧
      IsLeast {k | ∃ why, m.Stops t limits k why} 4 ∧
        (m.runFor 9 limits t).1 = some (.ok ⟨.cancelled, 7⟩) ∧
          ∃ k, (m.runFor 9 limits t).2 = m.after t k ∧
            ∃ bytes, (m.after t k).2.delivered = t.delivered ++ bytes ∧ bytes.length ≤ 2 := by
  intro p script m t limits
  have hparse : Program.parse ",[.,]" = .ok p := by rfl
  have hreach : Reachable p script m ((start p).after script 3).2 := ⟨[.run 9 {}], by rfl⟩
  have ht : Host.NeverFails t := Script.IsFaultless.neverFails ⟨by decide, by decide, by decide⟩
  obtain ⟨hstops, hwritten⟩ := runFor_stops hparse hreach
  have hbefore : ∀ j < 4, m.firstReason? t limits j = none := by decide +kernel
  have hleast : IsLeast {k | ∃ why, m.Stops t limits k why} 4 := by
    refine ⟨⟨.cancelled, by decide +kernel⟩, ?_⟩
    rintro j ⟨why, hwhy⟩
    by_contra hlt
    exact firstReason?_eq_none_iff.1 (hbefore j (by omega)) why hwhy
  obtain ⟨-, why, hwhy, hrun⟩ := (hstops t ht limits).1 4 hleast
  have hcancelled : m.firstReason? t limits 4 = some .cancelled := by decide +kernel
  obtain rfl : Halt.cancelled = why := Option.some_inj.1 (hcancelled.symm.trans hwhy)
  obtain ⟨k, -, hafter, -, hbytes⟩ := hwritten t none none 2 (by decide) 9
  refine ⟨hparse, hreach, ht, hleast, ?_, k, hafter, hbytes⟩
  rw [hrun 9]
  rfl

end Machine

end TapeMachine

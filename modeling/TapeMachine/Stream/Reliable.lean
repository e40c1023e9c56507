import TapeMachine.Stream.Pipe
import TapeMachine.Stream.Script.Fault

/-!
# Hosts that do not fail

A host is reliable in a state if no call fails from there on, whatever calls are made.  Pipes always are, and scripts
are as long as no faults are to come.
-/

namespace TapeMachine.Host

variable {σ : Type} [Host σ]

/-- A condition on a host under which no call fails, and which every call keeps. -/
structure Sustained (I : σ → Prop) : Prop where
  read : ∀ {s}, I s → ∃ byte? s', Host.read s = (.ok byte?, s') ∧ I s'
  write : ∀ {s}, I s → ∀ byte, ∃ s', Host.write byte s = (.ok (), s') ∧ I s'
  flush : ∀ {s}, I s → ∃ s', Host.flush s = (.ok (), s') ∧ I s'
  jumped : ∀ {s}, I s → ∀ source target, I (Host.jumped source target s)

/-- From this state on no call fails, whatever calls are made. -/
def NeverFails (s : σ) : Prop := ∃ I : σ → Prop, Sustained I ∧ I s

/-- The weakest of these conditions is that no call fails. -/
theorem sustained_neverFails : Sustained (NeverFails (σ := σ)) where
  read := by
    rintro s ⟨I, hI, hs⟩
    obtain ⟨byte?, s', heq, hs'⟩ := hI.read hs
    exact ⟨byte?, s', heq, I, hI, hs'⟩
  write := by
    rintro s ⟨I, hI, hs⟩ byte
    obtain ⟨s', heq, hs'⟩ := hI.write hs byte
    exact ⟨s', heq, I, hI, hs'⟩
  flush := by
    rintro s ⟨I, hI, hs⟩
    obtain ⟨s', heq, hs'⟩ := hI.flush hs
    exact ⟨s', heq, I, hI, hs'⟩
  jumped := by
    rintro s ⟨I, hI, hs⟩ source target
    exact ⟨I, hI, hI.jumped hs source target⟩

end TapeMachine.Host

namespace TapeMachine

theorem Pipe.neverFails (p : Pipe) : Host.NeverFails p :=
  ⟨fun _ => True,
    ⟨fun _ => ⟨_, _, rfl, trivial⟩, fun _ _ => ⟨_, rfl, trivial⟩, fun _ => ⟨_, rfl, trivial⟩, fun _ _ _ => trivial⟩,
    trivial⟩

namespace Script

theorem pull_of_forall {answers : List ReadAnswer} (h : ∀ a ∈ answers, a.isData = true)
    (events : Array StreamEvent) : ∃ byte?, pull answers events = (.ok byte?, answers.tail, events.push .readCall) := by
  cases answers with
  | nil => exact ⟨none, rfl⟩
  | cons a answers =>
    have ha := h a List.mem_cons_self
    cases a with
    | byte value => exact ⟨some value, rfl⟩
    | endOfInput => exact ⟨none, rfl⟩
    | fail cause => cases ha

theorem sustained_isFaultless : Host.Sustained IsFaultless where
  read := by
    intro s hs
    obtain ⟨byte?, hpull⟩ := pull_of_forall hs.reads s.events
    refine ⟨byte?, { s with reads := s.reads.tail, events := s.events.push .readCall }, ?_, ?_⟩
    · change s.read = _
      unfold read
      rw [hpull]
    · exact ⟨fun a ha => hs.reads a (List.mem_of_mem_tail ha), hs.writes, hs.flushes⟩
  write := by
    intro s hs byte
    refine ⟨{ s with
      writes := s.writes.tail
      events := s.events.push (.accepted byte)
      accepted := s.accepted + 1 }, ?_, ?_⟩
    · change s.write byte = _
      unfold write
      rw [push_of_forall hs.writes]
    · exact ⟨hs.reads, fun a ha => hs.writes a (List.mem_of_mem_tail ha), hs.flushes⟩
  flush := fun hs => hs.flush
  jumped := fun hs _ _ => hs

theorem IsFaultless.neverFails {s : Script} (h : s.IsFaultless) : Host.NeverFails s :=
  ⟨IsFaultless, sustained_isFaultless, h⟩

end Script

end TapeMachine

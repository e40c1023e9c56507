import TapeMachine.Proofs.Together
import TapeMachine.Stream.Console

/-!
# Machines on a console

On a console whose device takes everything, a machine does what it does on a pipe, whatever is kept back when
(`Console.Carries`).  What standard input holds makes no difference to a step that reads no byte
(`Console.SameOutput`), the log makes no difference at all (`Console.SameStreams`), and whether the device takes
anything makes none before a byte is written (`Console.Unprinted`).  On a device that takes nothing, a byte that is
written stays kept back (`Console.Stuck`), and a step does the same as where the device takes everything unless it
fails (`Console.Backs`).
-/

namespace TapeMachine

open Host (AnswerAlike)
open Machine (Coincide)

namespace Console

variable {c c' : Console} {p : Pipe} {m : Machine} {fault : Fault}

/-- A log and a further line, if it is shown. -/
def extend (shows : Log.Line → Bool) (log : Array Log.Line) (line : Log.Line) : Array Log.Line :=
  if shows line then log.push line else log

theorem note_eq (line : Log.Line) (c : Console) : c.note line = { c with log := extend c.shows c.log line } := by
  unfold note extend
  split <;> rfl

/-- All that was printed, whether it is kept back or not. -/
def printed (c : Console) : Array UInt8 := c.stdout ++ c.kept

theorem flush_of_empty (h : c.kept = #[]) : c.flush = (.ok (), c) := by
  rw [flush, if_pos (Array.isEmpty_iff.2 h)]

theorem write_of_lt (h : c.kept.size < capacity) (byte : UInt8) :
    c.write byte = (.ok (), { c with kept := c.kept.push byte }) := by
  rw [write, if_pos h]

/-! ### A device that takes everything -/

theorem flush_of_takes (h : c.refusal = none) :
    c.flush = (.ok (), { c with kept := #[], stdout := c.printed }) := by
  by_cases hkept : c.kept = #[]
  · rw [flush_of_empty hkept, printed, hkept, Array.append_empty, ← hkept]
  · rw [flush, if_neg (mt Array.isEmpty_iff.1 hkept), h, printed]

theorem write_of_takes (h : c.refusal = none) (byte : UInt8) :
    ∃ kept stdout, c.write byte = (.ok (), { c with kept, stdout }) ∧ stdout ++ kept = c.printed.push byte := by
  rcases lt_or_ge c.kept.size capacity with hroom | hfull
  · refine ⟨_, c.stdout, write_of_lt hroom byte, ?_⟩
    rw [printed, Array.append_push]
  · refine ⟨#[byte], c.printed, ?_, rfl⟩
    rw [write, if_neg (by omega), flush_of_takes h]
    rfl

/-- What was printed is what was written on the pipe, and standard input is to what is left on the pipe as `S` says. -/
structure Carries (S : Except Fault (List UInt8) → List UInt8 → Prop) (c : Console) (p : Pipe) : Prop where
  takes : c.refusal = none
  printed_eq : c.printed = p.written
  stdin : S c.stdin p.unread

namespace Carries

variable {S : Except Fault (List UInt8) → List UInt8 → Prop}

theorem flush (h : Carries S c p) : AnswerAlike (Carries S) (Host.flush c) (Host.flush p) := by
  change AnswerAlike (Carries S) c.flush (.ok (), p)
  rw [flush_of_takes h.takes]
  refine ⟨rfl, h.takes, ?_, h.stdin⟩
  rw [← h.printed_eq]
  exact Array.append_empty

theorem write (h : Carries S c p) (byte : UInt8) :
    AnswerAlike (Carries S) (Host.write byte c) (Host.write byte p) := by
  obtain ⟨kept, stdout, heq, hprinted⟩ := write_of_takes h.takes byte
  change AnswerAlike (Carries S) (c.write byte) (.ok (), p.write byte)
  rw [heq]
  refine ⟨rfl, h.takes, ?_, h.stdin⟩
  rw [h.printed_eq] at hprinted
  exact hprinted

/-- A step does the same on the pipe if the bytes that it reads are the same. -/
theorem coincide (h : Carries S c p) (hread : m.next? = some .input → ∀ {c : Console} {p : Pipe}, Carries S c p →
    AnswerAlike (Carries S) (Host.read c) (Host.read p)) : Coincide (Carries S) (m.step c) (m.step p) := by
  refine Machine.coincide_step h (fun _ => h.write _) (fun hi => ⟨h.flush, fun _ => hread hi⟩) ?_
  intro source target
  change Carries S (c.note _) p
  rw [note_eq]
  exact ⟨h.takes, h.printed_eq, h.stdin⟩

end Carries

theorem read_of_carries (h : Carries (fun stdin unread => stdin = .ok unread) c p) :
    AnswerAlike (Carries fun stdin unread => stdin = .ok unread) (Host.read c) (Host.read p) := by
  obtain ⟨htakes, hprinted, hstdin⟩ := h
  obtain ⟨unread, written⟩ := p
  change AnswerAlike _ c.read _
  unfold read
  rw [hstdin]
  cases unread with
  | nil => exact ⟨rfl, htakes, hprinted, hstdin⟩
  | cons byte rest => exact ⟨rfl, htakes, hprinted, rfl⟩

/-! ### What a call does not look at -/

/-- A flush neither looks at standard input and the log nor changes them. -/
theorem exists_flush_eq (refusal : Option Fault) (kept stdout : Array UInt8) :
    ∃ answer kept' stdout', ∀ stdin shows log, flush { stdin, refusal, kept, stdout, shows, log } =
      (answer, { stdin, refusal, kept := kept', stdout := stdout', shows, log }) := by
  by_cases hkept : kept = #[]
  · exact ⟨.ok (), kept, stdout, fun _ _ _ => flush_of_empty hkept⟩
  · have hkept : ¬ kept.isEmpty := mt Array.isEmpty_iff.1 hkept
    cases refusal with
    | none => exact ⟨.ok (), #[], stdout ++ kept, fun _ _ _ => if_neg hkept⟩
    | some fault => exact ⟨.error fault.cause, kept, stdout, fun _ _ _ => if_neg hkept⟩

/-- Nor does a write. -/
theorem exists_write_eq (byte : UInt8) (refusal : Option Fault) (kept stdout : Array UInt8) :
    ∃ answer kept' stdout', ∀ stdin shows log, write byte { stdin, refusal, kept, stdout, shows, log } =
      (answer, { stdin, refusal, kept := kept', stdout := stdout', shows, log }) := by
  by_cases hroom : kept.size < capacity
  · exact ⟨.ok (), kept.push byte, stdout, fun _ _ _ => write_of_lt hroom byte⟩
  · obtain ⟨answer, kept', stdout', hflush⟩ := exists_flush_eq refusal kept stdout
    cases answer with
    | error cause =>
      refine ⟨.error cause, kept', stdout', fun stdin shows log => ?_⟩
      rw [write, if_neg hroom, hflush]
    | ok =>
      refine ⟨.ok (), kept'.push byte, stdout', fun stdin shows log => ?_⟩
      rw [write, if_neg hroom, hflush]

/-- A read looks at standard input alone, and changes nothing else. -/
theorem exists_read_eq (stdin : Except Fault (List UInt8)) :
    ∃ answer stdin', ∀ refusal kept stdout shows log, read { stdin, refusal, kept, stdout, shows, log } =
      (answer, { stdin := stdin', refusal, kept, stdout, shows, log }) := by
  rcases stdin with fault | (_ | ⟨byte, rest⟩)
  · exact ⟨.error fault.cause, .error fault, fun _ _ _ _ _ => rfl⟩
  · exact ⟨.ok none, .ok [], fun _ _ _ _ _ => rfl⟩
  · exact ⟨.ok (some byte), .ok rest, fun _ _ _ _ _ => rfl⟩

theorem read_of_error (h : c.stdin = .error fault) : c.read = (.error fault.cause, c) := by
  unfold read
  rw [h]

/-- Nothing but standard input is different. -/
def SameOutput (stdin : Except Fault (List UInt8)) (c c' : Console) : Prop := c' = { c with stdin }

namespace SameOutput

variable {stdin : Except Fault (List UInt8)}

theorem note (h : SameOutput stdin c c') (line : Log.Line) : SameOutput stdin (c.note line) (c'.note line) := by
  obtain rfl := h
  rw [note_eq, note_eq]
  exact rfl

theorem flush (h : SameOutput stdin c c') : AnswerAlike (SameOutput stdin) c.flush c'.flush := by
  obtain rfl := h
  obtain ⟨answer, kept, stdout, hflush⟩ := exists_flush_eq c.refusal c.kept c.stdout
  rw [hflush c.stdin, hflush stdin]
  exact ⟨rfl, rfl⟩

theorem write (h : SameOutput stdin c c') (byte : UInt8) :
    AnswerAlike (SameOutput stdin) (c.write byte) (c'.write byte) := by
  obtain rfl := h
  obtain ⟨answer, kept, stdout, hwrite⟩ := exists_write_eq byte c.refusal c.kept c.stdout
  rw [hwrite c.stdin, hwrite stdin]
  exact ⟨rfl, rfl⟩

/-- What standard input holds makes no difference to a step that reads no byte. -/
theorem coincide (hi : m.next? ≠ some .input) (h : SameOutput stdin c c') :
    Coincide (SameOutput stdin) (m.step c) (m.step c') :=
  Machine.coincide_step h (fun _ => h.write _) (fun h => absurd h hi) (fun _ _ => h.note _)

end SameOutput

/-- Nothing but the log is different. -/
def SameStreams (c c' : Console) : Prop := ∃ shows log, c' = { c with shows, log }

namespace SameStreams

theorem note (h : SameStreams c c') (line : Log.Line) : SameStreams (c.note line) (c'.note line) := by
  obtain ⟨shows, log, rfl⟩ := h
  rw [note_eq, note_eq]
  exact ⟨shows, _, rfl⟩

theorem flush (h : SameStreams c c') : AnswerAlike SameStreams c.flush c'.flush := by
  obtain ⟨shows, log, rfl⟩ := h
  obtain ⟨answer, kept, stdout, hflush⟩ := exists_flush_eq c.refusal c.kept c.stdout
  rw [hflush c.stdin c.shows c.log, hflush c.stdin shows log]
  exact ⟨rfl, shows, log, rfl⟩

theorem read (h : SameStreams c c') : AnswerAlike SameStreams c.read c'.read := by
  obtain ⟨shows, log, rfl⟩ := h
  obtain ⟨answer, stdin, hread⟩ := exists_read_eq c.stdin
  rw [hread c.refusal c.kept c.stdout c.shows c.log, hread c.refusal c.kept c.stdout shows log]
  exact ⟨rfl, shows, log, rfl⟩

theorem write (h : SameStreams c c') (byte : UInt8) : AnswerAlike SameStreams (c.write byte) (c'.write byte) := by
  obtain ⟨shows, log, rfl⟩ := h
  obtain ⟨answer, kept, stdout, hwrite⟩ := exists_write_eq byte c.refusal c.kept c.stdout
  rw [hwrite c.stdin c.shows c.log, hwrite c.stdin shows log]
  exact ⟨rfl, shows, log, rfl⟩

/-- The log makes no difference to a step. -/
theorem coincide (h : SameStreams c c') : Coincide SameStreams (m.step c) (m.step c') :=
  Machine.coincide_step h (fun _ => h.write _) (fun _ => ⟨h.flush, fun _ h => h.read⟩) (fun _ _ => h.note _)

end SameStreams

/-! ### The device before anything is written -/

/-- Nothing is kept back, and nothing but the device is different. -/
structure Unprinted (refusal : Option Fault) (c c' : Console) : Prop where
  kept_eq : c.kept = #[]
  eq_with : c' = { c with refusal }

namespace Unprinted

variable {refusal : Option Fault}

theorem note (h : Unprinted refusal c c') (line : Log.Line) : Unprinted refusal (c.note line) (c'.note line) := by
  obtain ⟨hkept, rfl⟩ := h
  rw [note_eq, note_eq]
  exact ⟨hkept, rfl⟩

theorem flush (h : Unprinted refusal c c') : AnswerAlike (Unprinted refusal) c.flush c'.flush := by
  obtain ⟨hkept, rfl⟩ := h
  rw [flush_of_empty hkept, flush_of_empty (by exact hkept)]
  exact ⟨rfl, hkept, rfl⟩

theorem read (h : Unprinted refusal c c') : AnswerAlike (Unprinted refusal) c.read c'.read := by
  obtain ⟨hkept, rfl⟩ := h
  obtain ⟨answer, stdin, hread⟩ := exists_read_eq c.stdin
  rw [show c.read = _ from hread c.refusal c.kept c.stdout c.shows c.log, hread refusal]
  exact ⟨rfl, hkept, rfl⟩

/-- Whether the device takes anything makes no difference to a step that writes no byte. -/
theorem coincide (hi : m.next? ≠ some .output) (h : Unprinted refusal c c') :
    Coincide (Unprinted refusal) (m.step c) (m.step c') :=
  Machine.coincide_step h (fun h => absurd h hi) (fun _ => ⟨h.flush, fun _ h => h.read⟩) (fun _ _ => h.note _)

end Unprinted

/-! ### A device that takes nothing -/

theorem flush_of_refuses (h : c.refusal = some fault) (hkept : c.kept ≠ #[]) : c.flush = (.error fault.cause, c) := by
  rw [flush, if_neg (mt Array.isEmpty_iff.1 hkept), h]

theorem kept_ne_of_le (hfull : capacity ≤ c.kept.size) : c.kept ≠ #[] := by
  intro hempty
  rw [hempty] at hfull
  exact absurd hfull (by decide)

theorem write_of_refuses (h : c.refusal = some fault) (hfull : capacity ≤ c.kept.size) (byte : UInt8) :
    c.write byte = (.error fault.cause, c) := by
  rw [write, if_neg (by omega), flush_of_refuses h (kept_ne_of_le hfull)]

/-- The device takes nothing, and nothing has gone out. -/
structure Blocked (fault : Fault) (c : Console) : Prop where
  refuses : c.refusal = some fault
  stdout_eq : c.stdout = #[]

/-- Besides, something is kept back. -/
structure Stuck (fault : Fault) (c : Console) : Prop extends Blocked fault c where
  kept_ne : c.kept ≠ #[]

namespace Blocked

theorem flush_eq (h : Blocked fault c) : c.flush.2 = c := by
  by_cases hkept : c.kept = #[]
  · rw [flush_of_empty hkept]
  · rw [flush_of_refuses h.refuses hkept]

theorem write (h : Blocked fault c) (byte : UInt8) : Stuck fault (c.write byte).2 := by
  rcases lt_or_ge c.kept.size capacity with hroom | hfull
  · rw [write_of_lt hroom]
    exact ⟨⟨h.refuses, h.stdout_eq⟩, Array.push_ne_empty⟩
  · rw [write_of_refuses h.refuses hfull]
    exact ⟨h, kept_ne_of_le hfull⟩

theorem read (h : Blocked fault c) : Blocked fault c.read.2 ∧ c.read.2.kept = c.kept := by
  obtain ⟨answer, stdin, hread⟩ := exists_read_eq c.stdin
  rw [show c.read = _ from hread c.refusal c.kept c.stdout c.shows c.log]
  exact ⟨⟨h.refuses, h.stdout_eq⟩, rfl⟩

theorem note (h : Blocked fault c) (line : Log.Line) : Blocked fault (c.note line) ∧ (c.note line).kept = c.kept := by
  rw [note_eq]
  exact ⟨⟨h.refuses, h.stdout_eq⟩, rfl⟩

theorem step (h : Blocked fault c) : Blocked fault (m.step c).2.2 := by
  refine Machine.keeps_step (fun h => h.read.1) (fun h byte => (h.write byte).toBlocked) ?_ ?_ h
  · intro c h
    rwa [show (Host.flush c).2 = c from h.flush_eq]
  · exact fun h _ _ => (h.note _).1

/-- What is printed gets stuck. -/
theorem step_output (h : Blocked fault c) (hi : m.next? = some .output) : Stuck fault (m.step c).2.2 := by
  rw [Machine.step_output hi]
  exact h.write _

end Blocked

theorem Stuck.step (h : Stuck fault c) : Stuck fault (m.step c).2.2 := by
  refine Machine.keeps_step ?_ (fun h byte => h.toBlocked.write byte) ?_ ?_ h
  · intro c h
    exact ⟨h.toBlocked.read.1, h.toBlocked.read.2 ▸ h.kept_ne⟩
  · intro c h
    rwa [show (Host.flush c).2 = c from h.flush_eq]
  · intro c h source target
    exact ⟨(h.toBlocked.note _).1, (h.toBlocked.note _).2 ▸ h.kept_ne⟩

/-- The device of the one takes nothing, that of the other everything, and what was printed there is kept back here. -/
structure Backs (fault : Fault) (c c' : Console) : Prop where
  refuses : c.refusal = some fault
  takes : c'.refusal = none
  kept_eq : c.kept = c'.printed
  stdin_eq : c.stdin = c'.stdin

namespace Backs

theorem read (h : Backs fault c c') : AnswerAlike (Backs fault) (Host.read c) (Host.read c') := by
  obtain ⟨hrefuses, htakes, hkept, hstdin⟩ := h
  obtain ⟨answer, stdin, hread⟩ := exists_read_eq c.stdin
  have hread' : c.read = _ := hread c.refusal c.kept c.stdout c.shows c.log
  rw [hstdin] at hread
  change AnswerAlike _ c.read c'.read
  rw [hread', show c'.read = _ from hread c'.refusal c'.kept c'.stdout c'.shows c'.log]
  exact ⟨rfl, hrefuses, htakes, hkept, rfl⟩

theorem note (h : Backs fault c c') (line : Log.Line) : Backs fault (c.note line) (c'.note line) := by
  rw [note_eq, note_eq]
  exact ⟨h.refuses, h.takes, h.kept_eq, h.stdin_eq⟩

theorem write (h : Backs fault c c') (hroom : c.kept.size < capacity) (byte : UInt8) :
    AnswerAlike (Backs fault) (c.write byte) (c'.write byte) := by
  obtain ⟨kept, stdout, heq, hprinted⟩ := write_of_takes h.takes byte
  rw [write_of_lt hroom, heq]
  refine ⟨rfl, h.refuses, h.takes, ?_, h.stdin_eq⟩
  rw [show printed { c' with kept, stdout } = _ from hprinted, ← h.kept_eq]

theorem flush (h : Backs fault c c') (hkept : c.kept = #[]) : AnswerAlike (Backs fault) c.flush c'.flush := by
  rw [flush_of_empty hkept, flush_of_takes h.takes]
  refine ⟨rfl, h.refuses, h.takes, ?_, h.stdin_eq⟩
  rw [h.kept_eq]
  exact Array.append_empty.symm

/-- A step that does not fail for want of the device does the same where the device takes everything. -/
theorem coincide (h : Backs fault c c') (hok : (m.step c).1 ≠ .error (.io fault.cause)) :
    Coincide (Backs fault) (m.step c) (m.step c') := by
  refine Machine.coincide_step h ?_ ?_ (fun _ _ => h.note _)
  · intro hi
    -- a write without room and a flush of anything would have made the step fail
    rcases lt_or_ge c.kept.size capacity with hroom | hfull
    · exact h.write hroom _
    · have hwrite := write_of_refuses h.refuses hfull m.tape.cell
      exact absurd (congrArg Prod.fst (Machine.step_of_write_error hi hwrite)) hok
  · intro hi
    refine ⟨?_, fun _ h => h.read⟩
    by_cases hkept : c.kept = #[]
    · exact h.flush hkept
    · have hflush := flush_of_refuses h.refuses hkept
      exact absurd (congrArg Prod.fst (Machine.step_of_flush_error hi hflush)) hok

end Backs

end Console

end TapeMachine

import TapeMachine.Stream.Script

/-!
# Faults of a script

An answer is a fault if its call fails, or if it is a write that takes no byte.  All other answers to reads are data:
bytes, and reports that the input is at its end.  A call that fails leaves the data to come and the bytes delivered as
they were and uses up a fault (`Script.read_of_error`, `Script.write_of_error`, `Script.flush_of_error`).  A call that
succeeds does so on a faultless script with the same data as well, and brings the same (`FaultlessTwin.read_of_ok`,
`FaultlessTwin.write_of_ok`, `FaultlessTwin.flush_of_ok`).
-/

namespace TapeMachine

def ReadAnswer.isData : ReadAnswer → Bool
  | fail _ => false
  | _ => true

def WriteAnswer.isAccept : WriteAnswer → Bool
  | accept => true
  | _ => false

def FlushAnswer.isDone : FlushAnswer → Bool
  | done => true
  | fail _ => false

def StreamEvent.byte? : StreamEvent → Option UInt8
  | accepted byte => some byte
  | _ => none

namespace Script

/-- The data to come. -/
def data (s : Script) : List ReadAnswer := s.reads.filter ReadAnswer.isData

/-- The bytes written so far, in order. -/
def delivered (s : Script) : List UInt8 := s.events.toList.filterMap StreamEvent.byte?

/-- How many faults are to come. -/
def faults (s : Script) : Nat :=
  s.reads.countP (!·.isData) + s.writes.countP (!·.isAccept) + s.flushes.countP (!·.isDone)

structure IsFaultless (s : Script) : Prop where
  reads : ∀ a ∈ s.reads, a.isData = true
  writes : ∀ a ∈ s.writes, a.isAccept = true
  flushes : ∀ a ∈ s.flushes, a.isDone = true

def withoutFaults (s : Script) : Script :=
  { s with
    reads := s.data
    writes := s.writes.filter WriteAnswer.isAccept
    flushes := s.flushes.filter FlushAnswer.isDone }

theorem isFaultless_withoutFaults (s : Script) : s.withoutFaults.IsFaultless where
  reads _ ha := (List.mem_filter.1 ha).2
  writes _ ha := (List.mem_filter.1 ha).2
  flushes _ ha := (List.mem_filter.1 ha).2

@[simp] theorem jumped_eq (source target : Nat) (s : Script) : Host.jumped source target s = s := rfl

/-! ### Calls that fail -/

/-- Between two states no data is used up and no byte delivered. -/
structure Untouched (s s' : Script) : Prop where
  data_eq : s'.data = s.data
  delivered_eq : s'.delivered = s.delivered

theorem Untouched.trans {s s' s'' : Script} (h : s.Untouched s') (h' : s'.Untouched s'') : s.Untouched s'' :=
  ⟨h'.data_eq.trans h.data_eq, h'.delivered_eq.trans h.delivered_eq⟩

/-- Read calls deliver no byte. -/
theorem filterMap_pull (answers : List ReadAnswer) (events : Array StreamEvent) :
    (pull answers events).2.2.toList.filterMap StreamEvent.byte? = events.toList.filterMap StreamEvent.byte? := by
  fun_induction pull answers events with
  | case4 rest events ih =>
    rw [ih]
    simp [StreamEvent.byte?]
  | _ => simp [StreamEvent.byte?]

theorem pull_of_error {answers rest : List ReadAnswer} {events events' : Array StreamEvent} {cause : IoError}
    (h : pull answers events = (.error cause, rest, events')) :
    rest.filter ReadAnswer.isData = answers.filter ReadAnswer.isData ∧
      rest.countP (!·.isData) < answers.countP (!·.isData) := by
  fun_induction pull answers events with
  | case4 rest events ih =>
    obtain ⟨hdata, hfaults⟩ := ih h
    rw [List.countP_cons_of_pos rfl]
    exact ⟨hdata, Nat.lt_succ_of_lt hfaults⟩
  | case5 cause rest events _ =>
    cases h
    rw [List.countP_cons_of_pos rfl]
    exact ⟨rfl, Nat.lt_succ_self _⟩
  | _ => cases h

theorem push_of_error {answers rest : List WriteAnswer} {cause : IoError} (h : push answers = (.error cause, rest)) :
    rest.countP (!·.isAccept) < answers.countP (!·.isAccept) := by
  fun_induction push answers with
  | case1 => cases h
  | case2 => cases h
  | case4 answers ih =>
    rw [List.countP_cons_of_pos rfl]
    exact Nat.lt_succ_of_lt (ih h)
  | _ =>
    cases h
    rw [List.countP_cons_of_pos rfl]
    exact Nat.lt_succ_self _

variable {s s' : Script} {cause : IoError}

theorem read_of_error (h : s.read = (.error cause, s')) : s.Untouched s' ∧ s'.faults < s.faults := by
  have hdelivered := filterMap_pull s.reads s.events
  unfold read at h
  generalize hpull : pull s.reads s.events = answer at h hdelivered
  obtain ⟨result, rest, events⟩ := answer
  cases h
  obtain ⟨hdata, hfaults⟩ := pull_of_error hpull
  refine ⟨⟨hdata, hdelivered⟩, ?_⟩
  unfold faults
  dsimp only
  omega

theorem write_of_error {byte : UInt8} (h : s.write byte = (.error cause, s')) :
    s.Untouched s' ∧ s'.faults < s.faults := by
  unfold write at h
  generalize hpush : push s.writes = answer at h
  obtain ⟨_ | _, rest⟩ := answer
  · cases h
    have hfaults := push_of_error hpush
    refine ⟨⟨rfl, rfl⟩, ?_⟩
    unfold faults
    dsimp only
    omega
  · cases h

theorem reads_flush (s : Script) : s.flush.2.reads = s.reads := by
  unfold flush
  split <;> rfl

theorem delivered_flush (s : Script) : s.flush.2.delivered = s.delivered := by
  unfold flush
  split
  · simp [delivered, StreamEvent.byte?]
  · simp [delivered, StreamEvent.byte?]
  · rfl

/-- A flush, whether it fails or not, is no read and no write. -/
theorem untouched_flush (s : Script) : s.Untouched s.flush.2 where
  data_eq := by rw [data, reads_flush, data]
  delivered_eq := s.delivered_flush

theorem flush_of_error (h : s.flush = (.error cause, s')) : s.Untouched s' ∧ s'.faults < s.faults := by
  have huntouched := s.untouched_flush
  rw [h] at huntouched
  refine ⟨huntouched, ?_⟩
  unfold flush at h
  split at h
  · cases h
  · cases h
  · rename_i heq
    cases h
    unfold faults
    rw [heq, List.countP_cons_of_pos rfl]
    exact Nat.lt_succ_self _

/-! ### Calls that succeed -/

/-- A faultless script with the same data to come and the same bytes delivered. -/
structure FaultlessTwin (s t : Script) : Prop where
  faultless : t.IsFaultless
  data_eq : t.reads = s.data
  delivered_eq : t.delivered = s.delivered

theorem pull_of_ok {answers rest : List ReadAnswer} {events events' : Array StreamEvent} {byte? : Option UInt8}
    (h : pull answers events = (.ok byte?, rest, events')) :
    rest.countP (!·.isData) ≤ answers.countP (!·.isData) ∧
      ∀ events, ∃ events', pull (answers.filter ReadAnswer.isData) events =
        (.ok byte?, rest.filter ReadAnswer.isData, events') := by
  fun_induction pull answers events with
  | case4 rest events ih =>
    obtain ⟨hfaults, htwin⟩ := ih h
    rw [List.countP_cons_of_pos rfl]
    exact ⟨Nat.le_succ_of_le hfaults, htwin⟩
  | case5 => cases h
  | _ =>
    cases h
    exact ⟨List.Sublist.countP_le (by simp), fun events => ⟨_, rfl⟩⟩

theorem push_of_ok {answers rest : List WriteAnswer} (h : push answers = (.ok (), rest)) :
    rest.countP (!·.isAccept) ≤ answers.countP (!·.isAccept) := by
  fun_induction push answers with
  | case3 => cases h
  | case4 answers ih =>
    rw [List.countP_cons_of_pos rfl]
    exact Nat.le_succ_of_le (ih h)
  | case5 => cases h
  | _ =>
    cases h
    exact List.Sublist.countP_le (by simp)

theorem push_of_forall {answers : List WriteAnswer} (h : ∀ a ∈ answers, a.isAccept = true) :
    push answers = (.ok (), answers.tail) := by
  cases answers with
  | nil => rfl
  | cons a answers =>
    have := h a List.mem_cons_self
    cases a with
    | accept => rfl
    | _ => cases this

theorem IsFaultless.flush {t : Script} (h : t.IsFaultless) : ∃ t', t.flush = (.ok (), t') ∧ t'.IsFaultless := by
  unfold Script.flush
  split
  · exact ⟨_, rfl, h.reads, h.writes, h.flushes⟩
  · rename_i flushes heq
    exact ⟨_, rfl, h.reads, h.writes, fun a ha => h.flushes a (heq ▸ List.mem_cons_of_mem _ ha)⟩
  · rename_i cause flushes heq
    have := h.flushes (.fail cause) (heq ▸ List.mem_cons_self)
    cases this

theorem flush_of_ok (h : s.flush = (.ok (), s')) : s'.faults ≤ s.faults := by
  unfold flush at h
  split at h
  · cases h
    exact Nat.le_refl _
  · rename_i flushes heq
    cases h
    have hcount : s.flushes.countP (!·.isDone) = flushes.countP (!·.isDone) := by
      rw [heq, List.countP_cons_of_neg (by decide)]
    unfold faults
    dsimp only
    omega
  · cases h

theorem IsFaultless.faults_eq_zero (h : s.IsFaultless) : s.faults = 0 := by
  unfold faults
  simp only [Nat.add_eq_zero_iff, List.countP_eq_zero, Bool.not_eq_true', Bool.not_eq_false]
  exact ⟨⟨h.reads, h.writes⟩, h.flushes⟩

theorem IsFaultless.faultlessTwin_self (h : s.IsFaultless) : s.FaultlessTwin s :=
  ⟨h, (List.filter_eq_self.2 h.reads).symm, rfl⟩

theorem faultlessTwin_withoutFaults (s : Script) : s.FaultlessTwin s.withoutFaults :=
  ⟨s.isFaultless_withoutFaults, rfl, rfl⟩

namespace FaultlessTwin

variable {s s' t : Script}

/-- All that is to be read from the twin is data. -/
theorem data_eq_data (h : s.FaultlessTwin t) : t.data = s.data := by
  rw [data, List.filter_eq_self.2 h.faultless.reads, h.data_eq]

theorem of_untouched (h : s.FaultlessTwin t) (huntouched : s.Untouched s') : s'.FaultlessTwin t where
  faultless := h.faultless
  data_eq := h.data_eq.trans huntouched.data_eq.symm
  delivered_eq := h.delivered_eq.trans huntouched.delivered_eq.symm

theorem read_of_ok (h : s.FaultlessTwin t) {byte? : Option UInt8} (hread : s.read = (.ok byte?, s')) :
    s'.faults ≤ s.faults ∧ ∃ t', t.read = (.ok byte?, t') ∧ s'.FaultlessTwin t' := by
  have hdelivered := filterMap_pull s.reads s.events
  unfold read at hread
  generalize hpull : pull s.reads s.events = answer at hread hdelivered
  obtain ⟨result, rest, events⟩ := answer
  cases hread
  obtain ⟨hfaults, htwin⟩ := pull_of_ok hpull
  constructor
  · unfold faults
    dsimp only
    omega
  · obtain ⟨events', heq⟩ := htwin t.events
    have htdelivered := filterMap_pull t.reads t.events
    have hreads : t.reads = s.reads.filter ReadAnswer.isData := h.data_eq
    rw [hreads, heq] at htdelivered
    refine ⟨{ t with reads := rest.filter ReadAnswer.isData, events := events' }, ?_, ?_⟩
    · unfold read
      rw [hreads, heq]
    · refine ⟨⟨fun a ha => (List.mem_filter.1 ha).2, h.faultless.writes, h.faultless.flushes⟩, rfl, ?_⟩
      exact htdelivered.trans (h.delivered_eq.trans hdelivered.symm)

theorem write_of_ok (h : s.FaultlessTwin t) {byte : UInt8} (hwrite : s.write byte = (.ok (), s')) :
    s'.faults ≤ s.faults ∧ ∃ t', t.write byte = (.ok (), t') ∧ s'.FaultlessTwin t' := by
  unfold write at hwrite
  generalize hpush : push s.writes = answer at hwrite
  obtain ⟨_ | _, rest⟩ := answer
  · cases hwrite
  · cases hwrite
    have hfaults := push_of_ok hpush
    constructor
    · unfold faults
      dsimp only
      omega
    · refine ⟨{ t with
        writes := t.writes.tail
        events := t.events.push (.accepted byte)
        accepted := t.accepted + 1 }, ?_, ?_⟩
      · unfold write
        rw [push_of_forall h.faultless.writes]
      · refine ⟨⟨h.faultless.reads, fun a ha => h.faultless.writes a (List.mem_of_mem_tail ha), h.faultless.flushes⟩,
          h.data_eq, ?_⟩
        have := h.delivered_eq
        unfold delivered at this ⊢
        simp [this]

theorem flush_of_ok (h : s.FaultlessTwin t) (hflush : s.flush = (.ok (), s')) :
    s'.faults ≤ s.faults ∧ ∃ t', t.flush = (.ok (), t') ∧ s'.FaultlessTwin t' := by
  refine ⟨Script.flush_of_ok hflush, ?_⟩
  obtain ⟨t', heq, hfaultless⟩ := h.faultless.flush
  have hs := s.untouched_flush
  rw [hflush] at hs
  have hreads := t.reads_flush
  have hdelivered := t.delivered_flush
  rw [heq] at hreads hdelivered
  refine ⟨t', heq, hfaultless, ?_, ?_⟩
  · rw [hreads, h.data_eq, hs.data_eq]
  · rw [hdelivered, h.delivered_eq, hs.delivered_eq]

end FaultlessTwin

end Script

end TapeMachine

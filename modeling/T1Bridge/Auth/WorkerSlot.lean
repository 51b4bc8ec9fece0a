import T1Bridge.Auth.Scheduler

/-! # The worker slot along a run

The calls of the scheduler come in any order and with any clock values.  A caller sees which
workers start, complete and are cancelled, and when the slot is poisoned.  No lease is handed out
twice, so the state is what was seen (`Tracks`), and every decision follows from what was seen
before it. -/

namespace T1Bridge.BrokerScheduler

/-- What an observer sees of the slot. -/
inductive Seen where
  | started (lease : WorkerLease) (deadline : Duration)
  | completed (lease : WorkerLease) (now : Duration)
  | cancelled (lease : WorkerLease)
  | poisoned

def Seen.lease : Seen → Option WorkerLease
  | started lease _ | completed lease _ | cancelled lease => lease
  | poisoned => none

def admitted : WorkerAdmission → List Seen
  | .start lease deadline => [.started lease deadline]
  | .terminate => [.poisoned]
  | .busy => []

def decided : LifecycleDecision → List Seen
  | .cancel lease => [.cancelled lease]
  | _ => []

variable (start idleTimeout : Duration)

/-- What is seen of the calls on a scheduler that was created at `start`, and its state. -/
inductive Slot : List Seen → BrokerScheduler → Prop
  | created {s} : new start idleTimeout = .ok s → Slot [] s
  | admits {past s} (now timeout : Duration) : Slot past s →
      Slot (past ++ admitted (s.admitWithTimeout now timeout).1) (s.admitWithTimeout now timeout).2
  | complete {past s} (lease : WorkerLease) (now : Duration) :
      Slot past s → Slot (past ++ if (s.complete lease now).1 then [.completed lease now] else [])
        (s.complete lease now).2
  | workerLost {past s} (lease : WorkerLease) : Slot past s →
      Slot (past ++ if (s.workerLost lease).1 then [.poisoned] else []) (s.workerLost lease).2
  | decide {past s} (now : Duration) (listenerReady : Bool) :
      Slot past s → Slot (past ++ decided (s.decide now listenerReady).1)
        (s.decide now listenerReady).2

/-- The time of the last completion. -/
def idleFrom (past : List Seen) : Duration :=
  past.foldl (fun since x => if let .completed _ now := x then now else since) start

/-- The state is what was seen. -/
structure Tracks (past : List Seen) (s : BrokerScheduler) : Prop where
  timeout : s.idleTimeout = idleTimeout
  idle : s.idleSince = idleFrom start past
  poisoned : s.poisoned = true ↔ .poisoned ∈ past
  active : ∀ lease deadline sent, s.active = some ⟨lease, deadline, sent⟩ ↔
    .started lease deadline ∈ past ∧ (∀ now, .completed lease now ∉ past) ∧
      (sent = true ↔ .cancelled lease ∈ past)
  spent : ∀ x ∈ past, ∀ lease ∈ x.lease, Ticket.Spent s.nextLease lease.value

variable {start idleTimeout} {past : List Seen} {s : BrokerScheduler}

section

variable (h : Tracks start idleTimeout past s)

include h

lemma Tracks.poison :
    Tracks start idleTimeout (past ++ [.poisoned]) { s with poisoned := true } where
  timeout := h.timeout
  idle := by simp [idleFrom, h.idle]
  poisoned := by simp
  active := by simpa using h.active
  spent := by simpa [or_imp, forall_and, Seen.lease] using h.spent

lemma Tracks.admits (hfree : s.active = none) (hlease : s.nextLease ≠ 0) (deadline : Duration) :
    Tracks start idleTimeout (past ++ [.started ⟨s.nextLease⟩ deadline]) { s with
      nextLease := Ticket.advance s.nextLease
      active := some ⟨⟨s.nextLease⟩, deadline, false⟩ } where
  timeout := h.timeout
  idle := by simp [idleFrom, h.idle]
  poisoned := by simp [h.poisoned]
  active lease d sent := by
    by_cases hl : lease = ⟨s.nextLease⟩
    · subst hl
      have hnew : ∀ x : Seen, x.lease = some ⟨s.nextLease⟩ → x ∉ past := fun x hx hmem =>
        Ticket.not_spent_self hlease (h.spent x hmem _ hx)
      simp [hnew (.started _ d) rfl, hnew (.cancelled _) rfl, fun t => hnew (.completed _ t) rfl,
        eq_comm]
    · simpa [hl, Ne.symm hl, hfree] using h.active lease d sent
  spent x hx lease hl := by
    rcases List.mem_append.mp hx with hx | hx
    · exact (h.spent x hx lease hl).advance hlease
    · cases List.mem_singleton.mp hx
      cases hl
      exact Ticket.spent_self hlease

variable {lease : WorkerLease} {deadline : Duration} {sent : Bool}
  (hactive : s.active = some ⟨lease, deadline, sent⟩)

include hactive

lemma Tracks.spent_active {x : Seen} (hx : x.lease = some lease) :
    ∀ y ∈ past ++ [x], ∀ l ∈ y.lease, Ticket.Spent s.nextLease l.value := by
  refine List.forall_mem_append.mpr ⟨h.spent, List.forall_mem_singleton.mpr ?_⟩
  rw [hx]
  exact h.spent _ ((h.active _ _ _).mp hactive).1

lemma Tracks.complete (now : Duration) : Tracks start idleTimeout (past ++ [.completed lease now])
    { s with active := none, idleSince := now } where
  timeout := h.timeout
  idle := by simp [idleFrom]
  poisoned := by simp [h.poisoned]
  active l d sent' := by
    by_cases hl : l = lease
    · exact iff_of_false (by simp) fun hnot => hnot.2.1 now (by simp [hl])
    · simpa [hl, Ne.symm hl, hactive] using h.active l d sent'
  spent := h.spent_active hactive rfl

lemma Tracks.cancel (hsent : sent = false) : Tracks start idleTimeout (past ++ [.cancelled lease])
    { s with active := some ⟨lease, deadline, true⟩ } where
  timeout := h.timeout
  idle := by simp [idleFrom, h.idle]
  poisoned := by simp [h.poisoned]
  active l d sent' := by
    by_cases hl : l = lease
    · have hold := h.active lease d false
      obtain ⟨-, hnot, hcancelled⟩ := (h.active _ _ _).mp hactive
      simp_all [eq_comm]
    · simpa [hl, Ne.symm hl, hactive] using h.active l d sent'
  spent := h.spent_active hactive rfl

end

/-- **Run lemma.** -/
lemma Slot.tracks (h : Slot start idleTimeout past s) : Tracks start idleTimeout past s := by
  induction h with
  | created hnew =>
    unfold new at hnew
    split_ifs at hnew
    cases hnew
    exact ⟨rfl, rfl, by simp, by simp, by simp⟩
  | @admits past s now timeout _ ih =>
    unfold admitWithTimeout
    split
    · next hp =>
      have hs : { s with poisoned := true } = s := by rw [← hp]
      exact hs ▸ ih.poison
    split
    · simpa [admitted] using ih
    next hactive =>
    split
    · exact ih.poison
    split
    · exact ih.poison
    · next hlease => exact ih.admits (by simpa using hactive) hlease _
  | @complete past s lease now _ ih =>
    unfold BrokerScheduler.complete
    split
    · simpa using ih
    · next howns =>
      obtain ⟨a, hactive, rfl⟩ : ∃ a, s.active = some a ∧ a.lease = lease := by
        simpa [owns, Option.any_eq_true] using howns
      exact ih.complete hactive now
  | workerLost lease _ ih =>
    unfold BrokerScheduler.workerLost
    split
    · simpa using ih
    · exact ih.poison
  | @decide past s now listenerReady _ ih =>
    unfold BrokerScheduler.decide
    split
    · simpa [decided] using ih
    split
    · next a hactive =>
      split
      · next hlate => exact ih.cancel hactive (by simpa using hlate.2)
      · simpa [decided] using ih
    · split <;> simpa [decided] using ih

lemma Tracks.free_iff (h : Tracks start idleTimeout past s) : s.active = none ↔
    ∀ lease deadline, .started lease deadline ∈ past → ∃ at', .completed lease at' ∈ past := by
  constructor
  · intro hfree lease deadline hstarted
    by_contra hnot
    classical
    have hactive := h.active lease deadline (Decidable.decide (.cancelled lease ∈ past))
    simp_all
  · intro hall
    cases hactive : s.active with
    | none => rfl
    | some a =>
      obtain ⟨hstarted, hnot, -⟩ := (h.active a.lease a.deadline a.cancellationSent).mp hactive
      obtain ⟨at', hcompleted⟩ := hall _ _ hstarted
      exact absurd hcompleted (hnot at')

/-- **Decisions.**  Whatever was called before, a poisoned scheduler terminates and no other does; a
lease is cancelled by the first decision at or after its deadline, unless its worker completed or
was lost; and the process exits only without a worker and a ready listener when it was idle long
enough. -/
theorem decisions_follow_the_past (h : Slot start idleTimeout past s) (now : Duration)
    (listenerReady : Bool) : ((s.decide now listenerReady).1 = .terminate ↔ .poisoned ∈ past) ∧
    (∀ lease, (s.decide now listenerReady).1 = .cancel lease ↔ .poisoned ∉ past ∧
      ∃ deadline ≤ now, .started lease deadline ∈ past ∧ (∀ at', .completed lease at' ∉ past) ∧
        .cancelled lease ∉ past) ∧
    ((s.decide now listenerReady).1 = .exitIdle ↔ .poisoned ∉ past ∧ listenerReady = false ∧
      (∀ lease deadline, .started lease deadline ∈ past → ∃ at', .completed lease at' ∈ past) ∧
      idleTimeout ≤ now.saturatingSub (idleFrom start past)) := by
  have ht := h.tracks
  have hcancel : ∀ lease, (∃ deadline ≤ now, s.active = some ⟨lease, deadline, false⟩) ↔
      ∃ deadline ≤ now, .started lease deadline ∈ past ∧ (∀ at', .completed lease at' ∉ past) ∧
        .cancelled lease ∉ past := by simp [ht.active]
  simp only [← ht.poisoned, ← ht.idle, ← ht.timeout, ← ht.free_iff, ← hcancel]
  clear hcancel
  unfold BrokerScheduler.decide
  split
  · next hp => simp [hp]
  next hp =>
  split
  · next a hactive =>
    obtain ⟨lease, deadline, sent⟩ := a
    split <;> simp_all
  · split <;> simp_all

/-- A worker whose minute is over. -/
theorem decisions_follow_the_past_late : ∃ s, Slot (.ofSecs 0) (.ofSecs 30)
      [.started ⟨1⟩ (.ofSecs 60)] s ∧ (s.decide (.ofSecs 60) false).1 = .cancel ⟨1⟩ :=
  have h0 : Slot (.ofSecs 0) (.ofSecs 30) [] ⟨.ofSecs 30, .ofSecs 0, none, 1, false⟩ := .created rfl
  have h : Slot (.ofSecs 0) (.ofSecs 30) [.started ⟨1⟩ (.ofSecs 60)] _ :=
    h0.admits (.ofSecs 0) (.ofSecs 60)
  ⟨_, h, ((decisions_follow_the_past h _ _).2.1 _).mpr ⟨by simp, .ofSecs 60, by decide, by simp⟩⟩

end T1Bridge.BrokerScheduler

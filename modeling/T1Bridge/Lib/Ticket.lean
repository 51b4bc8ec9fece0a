import T1Bridge.Lib.Machine
import Mathlib.Data.UInt
import Mathlib.Tactic.Common

/-! # Tickets from a 64-bit counter

A counter that starts at one, hands out its value and advances by
`checked_add(1).unwrap_or(0)`; zero is never handed out and stands for "exhausted".
`Spent n t` describes the tickets a counter standing at `n` can have handed out.  A ticket
stays spent when the counter advances (`Spent.advance`), the ticket handed out becomes
spent (`spent_self`) and was not spent before (`not_spent_self`): no ticket is ever handed
out twice, also when the counter reaches its maximum.  Along a run of a machine whose steps
make the counter stand still or advance (`Steps`), two events never hand out the same ticket,
and none is handed out once the counter is exhausted. -/

namespace Ticket

/-- The counter after handing out `n`: `n.checked_add(1).unwrap_or(0)`. -/
def advance (n : UInt64) : UInt64 := if n.toNat + 1 < 2 ^ 64 then n + 1 else 0

/-- The tickets a counter standing at `n` may have handed out. -/
def Spent (n t : UInt64) : Prop := t ≠ 0 ∧ (n = 0 ∨ t < n)

lemma advance_eq_zero_or_lt (n : UInt64) : advance n = 0 ∨ n < advance n := by
  unfold advance
  split_ifs with h
  · rw [UInt64.lt_iff_toNat_lt, UInt64.toNat_add, UInt64.toNat_one]
    omega
  · exact .inl rfl

lemma Spent.advance {n t : UInt64} (h : Spent n t) (hn : n ≠ 0) : Spent (Ticket.advance n) t := by
  obtain ⟨h0, hlt⟩ := h
  refine ⟨h0, ?_⟩
  have hlt : t < n := hlt.resolve_left hn
  rcases advance_eq_zero_or_lt n with he | he
  · exact .inl he
  · exact .inr (UInt64.lt_trans hlt he)

variable {n n' t : UInt64}

lemma spent_self (hn : n ≠ 0) : Spent (advance n) n :=
  ⟨hn, advance_eq_zero_or_lt n⟩

lemma not_spent_self (hn : n ≠ 0) : ¬ Spent n n := by
  rintro ⟨_, h | h⟩
  · exact hn h
  · exact absurd h (UInt64.lt_irrefl n)

/-! ### Items named by tickets -/

section Issue

variable {α : Type} (name : α → UInt64) {issued : List α} {a : α}

/-- The item that gets the ticket joins the items with spent ones. -/
lemma spent_issue (hn : n ≠ 0) (ha : name a = n) (hspent : ∀ x ∈ issued, Spent n (name x)) :
    ∀ x ∈ issued ++ [a], Spent (advance n) (name x) := by
  refine List.forall_mem_append.mpr ⟨fun x hx => (hspent x hx).advance hn, ?_⟩
  rw [List.forall_mem_singleton, ha]
  exact spent_self hn

/-- Items with distinct tickets stay so when one more is handed out. -/
lemma inj_issue (hn : n ≠ 0) (ha : name a = n) (hspent : ∀ x ∈ issued, Spent n (name x))
    (hinj : ∀ x ∈ issued, ∀ y ∈ issued, name x = name y → x = y) :
    ∀ x ∈ issued ++ [a], ∀ y ∈ issued ++ [a], name x = name y → x = y := by
  have hne : ∀ x ∈ issued, name x ≠ name a := by
    intro x hx heq
    have hx := hspent x hx
    rw [heq, ha] at hx
    exact not_spent_self hn hx
  intro x hx y hy heq
  rw [List.mem_append, List.mem_singleton] at hx hy
  rcases hx with hx | rfl
  · rcases hy with hy | rfl
    · exact hinj x hx y hy heq
    · exact absurd heq (hne x hx)
  · rcases hy with hy | rfl
    · exact absurd heq.symm (hne y hy)
    · rfl

end Issue

/-! ### A counter of a machine -/

/-- The counter stands still or hands out its value. -/
def Steps (n n' : UInt64) : Prop := n' = n ∨ n ≠ 0 ∧ n' = advance n

/-- The ticket handed out when the counter goes from `n` to `n'`. -/
def taken (n n' : UInt64) : Option UInt64 := if n' = n then none else some n

lemma taken_advance (hn : n ≠ 0) : taken n (advance n) = some n := by
  have hne : advance n ≠ n := by
    intro h
    have hs := spent_self hn
    rw [h] at hs
    exact not_spent_self hn hs
  exact if_neg hne

lemma Steps.of_taken (h : Steps n n') (ht : taken n n' = some t) :
    t = n ∧ n ≠ 0 ∧ n' = advance n := by
  rcases h with rfl | ⟨hn, rfl⟩
  · simp [taken] at ht
  · rw [taken_advance hn] at ht
    exact ⟨(Option.some.inj ht).symm, hn, rfl⟩

/-- Handing out the largest ticket exhausts the counter. -/
lemma Steps.of_taken_max (h : Steps n n') (ht : taken n n' = some t)
    (hmax : t.toNat = 2 ^ 64 - 1) : n' = 0 := by
  obtain ⟨rfl, -, rfl⟩ := h.of_taken ht
  exact if_neg (by omega)

variable {σ ι ο : Type} {M : Machine σ ι ο} (counter : σ → UInt64) {s s' : σ} {x : UInt64}
  {a b : Machine.Event σ ι ο} {tr tr1 tr2 tr3 : List (Machine.Event σ ι ο)}

/-- The ticket that an event hands out. -/
def issued (e : Machine.Event σ ι ο) : Option UInt64 := taken (counter e.before) (counter e.after)

/-- Every event of the trace is a step of the counter. -/
def Counts (tr : List (Machine.Event σ ι ο)) : Prop :=
  ∀ e ∈ tr, Steps (counter e.before) (counter e.after)

variable {counter}

lemma spent_of_run (h : M.Run s tr s') (hc : Counts counter tr) (hx : Spent (counter s) x) :
    Spent (counter s') x := by
  refine (h.kept (P := fun s => Spent (counter s) x) (fun e he hs => ?_) hx).1
  rcases hc e he with heq | ⟨hn, heq⟩
  · rwa [heq]
  · rw [heq]
    exact hs.advance hn

/-- A ticket handed out is not handed out by a later event. -/
lemma issued_ne_of_run (h : M.Run s (tr1 ++ a :: tr2 ++ b :: tr3) s')
    (hc : Counts counter (tr1 ++ a :: tr2 ++ b :: tr3)) (ha : issued counter a = some x) :
    issued counter b ≠ some x := by
  intro hb
  obtain ⟨-, -, hr⟩ := (Machine.Run.split h).1.split
  obtain ⟨rfl, hn, hadvance⟩ := (hc a (by simp)).of_taken ha
  obtain ⟨heq, hnb, -⟩ := (hc b (by simp)).of_taken hb
  have hspent := spent_of_run hr (fun e he => hc e (by simp [he])) (hadvance ▸ spent_self hn)
  rw [heq] at hspent
  exact not_spent_self hnb hspent

lemma issued_of_zero (h : M.Run s tr s') (hc : Counts counter tr) (hs : counter s = 0) :
    ∀ e ∈ tr, issued counter e = none := by
  have hstands : ∀ e ∈ tr, counter e.before = 0 → counter e.after = counter e.before :=
    fun e he hz => (hc e he).resolve_right fun h => h.1 hz
  intro e he
  have hz := (h.kept (P := fun s => counter s = 0) (fun f hf h => (hstands f hf h).trans h) hs).2 e he
  exact if_pos (hstands e he hz)

end Ticket

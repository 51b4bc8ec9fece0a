import Mathlib.Data.List.Perm.Lattice
import T1Bridge.Device.Mesa

/-! # The checks around the removal of an identity

Before the sensor is told to remove an identity, the list it returned is compared with the
catalog (`verifyPreMutationSet`); afterwards the new list is compared with the old one
(`verifyIdentityDelta`).  Both compare lists whose order means nothing.  The second crosses the
expected identities out of a copy of the list one by one, and the invariant of that loop is that
crossing out keeps the rest of the comparison: what is left has to be a permutation of what is
still expected (`crossOut_eq_iff`). -/

namespace T1Bridge.Device

/-- `Vec::swap_remove`: the last element takes the place of the one that is removed. -/
def swapRemove {α : Type} (l : List α) (index : ℕ) : List α :=
  (l.getLast?.elim l (l.set index)).dropLast

lemma perm_swapRemove {α : Type} {l : List α} {index : ℕ} (h : index < l.length) :
    l.Perm (l[index] :: swapRemove l index) := by
  induction l using List.reverseRecOn with
  | nil => cases h
  | append_singleton init last =>
    unfold swapRemove
    rw [List.getLast?_concat, Option.elim_some]
    by_cases hlt : index < init.length
    · rw [List.getElem_append_left hlt, List.set_append_left _ _ hlt, List.dropLast_concat]
      calc (init ++ [last]).Perm (last :: init) := List.perm_append_singleton last init
        _ |>.Perm (last :: init[index] :: init.eraseIdx index) :=
          ((List.getElem_cons_eraseIdx_perm hlt).symm).cons last
        _ |>.Perm (init[index] :: last :: init.eraseIdx index) := .swap _ _ _
        _ |>.Perm (init[index] :: init.set index last) :=
          (List.set_perm_cons_eraseIdx hlt last).symm.cons _
    · obtain rfl : index = init.length := by
        rw [List.length_append, List.length_singleton] at h
        omega
      simp

inductive IdentityRemovalError where
  | preMutationIdentityChange (missing unexpected : ℕ)
  | targetStillPresent
  | collateralIdentityChange (missing unexpected : ℕ)

/-- The catalog lists identifiers, the sensor identities. -/
def verifyPreMutationSet (actual : List Identity) (expected : List Packet) :
    Except IdentityRemovalError Unit :=
  let missing := expected.countP fun identifier =>
    !actual.any fun identity => identity.identifier = identifier
  let unexpected := actual.countP fun identity => !expected.contains identity.identifier
  if missing ≠ 0 ∨ unexpected ≠ 0 ∨ expected.length ≠ actual.length then
    .error (.preMutationIdentityChange missing unexpected)
  else .ok ()

/-- The loop over the expected identities: each is crossed out of `unmatched` or counted. -/
def crossOut : List Identity → List Identity → ℕ → List Identity × ℕ
  | [], unmatched, missing => (unmatched, missing)
  | expected :: rest, unmatched, missing =>
    match unmatched.findIdx? (· = expected) with
    | some index => crossOut rest (swapRemove unmatched index) missing
    | none => crossOut rest unmatched (missing + 1)

def verifyIdentityDelta (before after : List Identity) (targetIdentifier : Packet) :
    Except IdentityRemovalError Unit :=
  if after.any fun identity => identity.identifier = targetIdentifier then
    .error .targetStillPresent
  else
    let (unmatched, missing) :=
      crossOut (before.filter fun identity => identity.identifier ≠ targetIdentifier) after 0
    let unexpected := unmatched.length
    if missing ≠ 0 ∨ unexpected ≠ 0 then .error (.collateralIdentityChange missing unexpected)
    else .ok ()

lemma le_crossOut (expected unmatched : List Identity) (missing : ℕ) :
    missing ≤ (crossOut expected unmatched missing).2 := by
  induction expected generalizing unmatched missing with
  | nil => exact Nat.le_refl _
  | cons expected rest ih =>
    unfold crossOut
    split
    · exact ih _ _
    · exact Nat.le_of_succ_le (ih _ _)

/-- Everything is crossed out exactly if the lists agree up to their order. -/
lemma crossOut_eq_iff (expected unmatched : List Identity) :
    crossOut expected unmatched 0 = ([], 0) ↔ unmatched.Perm expected := by
  induction expected generalizing unmatched with
  | nil => simp [crossOut]
  | cons expected rest ih =>
    unfold crossOut
    split
    · next index hindex =>
      obtain ⟨hlt, heq, -⟩ := List.findIdx?_eq_some_iff_getElem.mp hindex
      have hperm := perm_swapRemove hlt
      rw [of_decide_eq_true heq] at hperm
      rw [ih]
      exact ⟨fun h => hperm.trans (h.cons expected), fun h => (hperm.symm.trans h).cons_inv⟩
    · next hnone =>
      constructor
      · intro h
        have hle := le_crossOut rest unmatched 1
        rw [h] at hle
        cases hle
      · intro h
        have hmem : expected ∈ unmatched := h.mem_iff.mpr List.mem_cons_self
        simpa using List.findIdx?_eq_none_iff.mp hnone expected hmem

lemma verifyIdentityDelta_ok_iff (before after : List Identity) (target : Packet) :
    verifyIdentityDelta before after target = .ok () ↔
      after.Perm (before.filter fun identity => identity.identifier ≠ target) := by
  rw [← crossOut_eq_iff]
  unfold verifyIdentityDelta
  split_ifs with htarget
  · -- what is still there cannot be crossed out
    refine ⟨nofun, fun h => ?_⟩
    obtain ⟨identity, hmem, hid⟩ := List.any_eq_true.mp htarget
    have hkept := ((crossOut_eq_iff _ _).mp h).mem_iff.mp hmem
    simp [of_decide_eq_true hid] at hkept
  · rcases crossOut (before.filter fun identity => identity.identifier ≠ target) after 0 with
      ⟨unmatched, missing⟩
    simp [and_comm]

lemma verifyPreMutationSet_ok_iff (actual : List Identity) {expected : List Packet}
    (hnodup : expected.Nodup) : verifyPreMutationSet actual expected = .ok () ↔
      (actual.map Identity.identifier).Perm expected := by
  have hok : verifyPreMutationSet actual expected = .ok () ↔
      (∀ identifier ∈ expected, identifier ∈ actual.map Identity.identifier) ∧
        (∀ identifier ∈ actual.map Identity.identifier, identifier ∈ expected) ∧
        expected.length = actual.length := by
    simp [verifyPreMutationSet, List.countP_eq_zero]
  rw [hok]
  constructor
  · rintro ⟨hmissing, -, hlength⟩
    have hsub : expected.Subperm (actual.map Identity.identifier) := hnodup.subperm hmissing
    exact (hsub.perm_of_length_le (by rw [List.length_map, hlength])).symm
  · intro h
    refine ⟨fun _ => h.mem_iff.mpr, fun _ => h.mem_iff.mp, ?_⟩
    rw [← h.length_eq, List.length_map]

/-- **The two checks compare multisets.**  The check after a removal accepts exactly the list
that has lost the identities with the target's identifier and nothing else, and the check
before it accepts exactly the identifiers of the catalog, each once. -/
theorem identity_checks_compare_multisets : (∀ (before after : List Identity) (target : Packet),
      verifyIdentityDelta before after target = .ok () ↔
        after.Perm (before.filter fun identity => identity.identifier ≠ target)) ∧
    ∀ (actual : List Identity) (expected : List Packet), expected.Nodup →
      (verifyPreMutationSet actual expected = .ok () ↔
        (actual.map Identity.identifier).Perm expected) :=
  ⟨verifyIdentityDelta_ok_iff, fun actual _ hnodup => verifyPreMutationSet_ok_iff actual hnodup⟩

end T1Bridge.Device

import Reattempt.Proofs.Runs

/-!
What the use of a handle leaves behind. Asking for an outcome, awaiting it and waiting for it write
the record of one call and nothing else, and what they write is decided by that record alone: each
is an equation for the whole state.
-/
namespace Reattempt.Engine

variable {Room : Type} {s : State Room} {id : Nat} {f g : Call → Call}

/-- The record of a call after its outcome was asked for. -/
def Call.queried (c : Call) : Call :=
  if c.handle = .live ∧ (c.delivered ≠ [] ∨ c.waiting = none) then { c with handle := .spent }
  else c

/-- The record of a call after somebody waited for its outcome. -/
def Call.collected (c : Call) : Call :=
  if c.handle = .gone then c else { c with cancelled := true, handle := .gone }

/-- What a modification does is decided by what it makes of the one call. -/
theorem State.modifyCall_congr (h : f (s.call id) = g (s.call id)) :
    s.modifyCall id f = s.modifyCall id g := by
  have hcalls : s.calls.modify id f = s.calls.modify id g := by
    apply List.ext_getElem?
    intro j
    rw [List.getElem?_modify, List.getElem?_modify]
    by_cases hid : id < s.calls.length
    · by_cases hj : id = j
      · subst hj
        rw [State.call_eq_getElem hid] at h
        simp only [↓reduceIte, List.getElem?_eq_getElem hid, Option.map_eq_map, Option.map_some, h]
      · simp only [hj, ↓reduceIte]
    · -- There is no such call, so that nothing is modified.
      by_cases hj : id = j
      · subst hj
        rw [List.getElem?_eq_none (by omega)]
        rfl
      · simp only [hj, ↓reduceIte]
  simp only [modifyCall, hcalls]

theorem State.modifyCall_self {j : Nat} (h : f (s.call j) = s.call j) : s.modifyCall j f = s := by
  rw [modifyCall_congr (g := id) h]
  simp only [modifyCall, List.modify_id]

theorem State.modifyCall_modifyCall (s : State Room) (id : Nat) (f g : Call → Call) :
    (s.modifyCall id f).modifyCall id g = s.modifyCall id (g ∘ f) := by
  simp only [modifyCall, List.modify_modify_eq]

/-- There is an outcome to be taken as soon as one was handed over or nothing waits any more. -/
theorem State.isSome_outcome? (s : State Room) (id : Nat) : (s.outcome? id).isSome = true ↔
    (s.call id).delivered ≠ [] ∨ (s.call id).waiting = none := by
  unfold outcome?
  cases hd : (s.call id).delivered <;> cases hw : (s.call id).waiting <;> simp

theorem State.take_eq (hl : (s.call id).handle = .live) :
    (s.take id).1 = s.modifyCall id Call.queried := by
  have hiff := s.isSome_outcome? id
  cases ho : s.outcome? id with
  | none =>
    have hn : ¬ ((s.call id).delivered ≠ [] ∨ (s.call id).waiting = none) := by
      intro h
      rw [ho] at hiff
      cases hiff.mpr h
    have hsame : (s.call id).queried = s.call id := if_neg fun h => hn h.2
    rw [modifyCall_self hsame]
    simp only [take, ho]
  | some result =>
    have hready := hiff.mp (by rw [ho]; rfl)
    simp only [take, ho]
    apply modifyCall_congr
    exact (if_pos ⟨hl, hready⟩).symm

theorem State.queried_of_not_live (h : (s.call id).handle ≠ .live) :
    s.modifyCall id Call.queried = s := by
  apply modifyCall_self
  exact if_neg fun hn => h hn.1

theorem State.poll_eq (s : State Room) (id : Nat) :
    (s.poll id).1 = s.modifyCall id Call.queried := by
  cases h : (s.call id).handle with
  | live =>
    simp only [poll, h]
    exact take_eq h
  | spent =>
    rw [queried_of_not_live (by rw [h]; exact Handle.noConfusion)]
    simp only [poll, h]
  | gone =>
    rw [queried_of_not_live (by rw [h]; exact Handle.noConfusion)]
    simp only [poll, h]

theorem State.await_eq (s : State Room) (id : Nat) :
    (s.await id).1 = s.modifyCall id Call.queried := by
  cases h : (s.call id).handle with
  | live =>
    simp only [await, h]
    exact take_eq h
  | spent =>
    rw [queried_of_not_live (by rw [h]; exact Handle.noConfusion)]
    simp only [await, h]
  | gone =>
    rw [queried_of_not_live (by rw [h]; exact Handle.noConfusion)]
    simp only [await, h]

theorem State.collect_eq (s : State Room) (id : Nat) :
    (s.wait (fun s => s) id).1 = s.modifyCall id Call.collected := by
  cases h : (s.call id).handle with
  | live =>
    have hcollected : (s.call id).collected = { (s.call id).queried with
        cancelled := true, handle := .gone } := by
      have hne : (s.call id).handle ≠ .gone := by
        rw [h]
        exact Handle.noConfusion
      rw [Call.collected, if_neg hne, Call.queried]
      split <;> rfl
    have htake := take_eq h
    simp only [wait, h, htake, dropHandle, modifyCall_modifyCall]
    exact modifyCall_congr hcollected.symm
  | spent =>
    simp only [wait, h, dropHandle]
    apply modifyCall_congr
    simp only [Call.collected, h]
    rfl
  | gone =>
    have hsame : (s.call id).collected = s.call id := if_pos h
    rw [modifyCall_self hsame]
    simp only [wait, h]

end Reattempt.Engine

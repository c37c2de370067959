import LevelFormat.Proofs.Wire.Candor

/-!
Calls on a reader, one after another.

A session goes on after a fault, from wherever the failing call left the reader. Calls that leave it
where it was can be taken out of a session without a trace (`session_filter`). If every single call
moves forward, so does the session (`pairwise_session`).
-/

namespace LevelFormat.Wire

namespace Cursor.Moves

variable {least : Nat} {cursor next : Cursor}

theorem position_le (moves : Moves least cursor next) : cursor.position ≤ next.position := by
  obtain ⟨count, -, -, rfl⟩ := moves
  exact Nat.le_add_right _ _

theorem finish_eq (moves : Moves least cursor next) : next.finish = cursor.finish := by
  obtain ⟨count, -, inside, rfl⟩ := moves
  exact finish_advance inside

end Cursor.Moves

universe u

structure Exchange (κ : Type u) (α : Type) where
  call : κ
  before : Cursor
  result : EStateM.Result Fault Cursor α

namespace Exchange

variable {κ : Type u} {α : Type}

def after (exchange : Exchange κ α) : Cursor :=
  match exchange.result with
  | .ok _ next => next
  | .error _ next => next

def failed (exchange : Exchange κ α) : Bool :=
  match exchange.result with
  | .ok _ _ => false
  | .error _ _ => true

end Exchange

variable {κ : Type u} {α : Type}

def session (perform : κ → Decoder α) : List κ → Cursor → List (Exchange κ α)
  | [], _ => []
  | call :: calls, cursor =>
    let exchange : Exchange κ α := ⟨call, cursor, perform call cursor⟩
    exchange :: session perform calls exchange.after

variable {perform : κ → Decoder α}

theorem session_filter {keep : Exchange κ α → Bool}
    (idle : ∀ call cursor, keep ⟨call, cursor, perform call cursor⟩ = false →
      Exchange.after ⟨call, cursor, perform call cursor⟩ = cursor)
    (calls : List κ) (cursor : Cursor) :
    session perform (((session perform calls cursor).filter keep).map Exchange.call) cursor =
      (session perform calls cursor).filter keep := by
  induction calls generalizing cursor with
  | nil => rfl
  | cons call calls ih =>
      rw [session, List.filter_cons]
      by_cases kept : keep ⟨call, cursor, perform call cursor⟩ = true
      · rw [if_pos kept, List.map_cons, session, ih]
      · rw [if_neg kept, idle call cursor (by simpa using kept), ih]

theorem Decoder.Candid.moves_after {decoder : Decoder α} (candid : decoder.Candid) (call : κ)
    (cursor : Cursor) : cursor.Moves 0 (Exchange.after ⟨call, cursor, decoder cursor⟩) := by
  unfold Exchange.after
  dsimp only
  split
  next value next delivered => exact candid.takes cursor value next delivered
  next fault next failed => exact (candid.error failed).1

theorem map_call_session (calls : List κ) (cursor : Cursor) :
    (session perform calls cursor).map Exchange.call = calls := by
  induction calls generalizing cursor with
  | nil => rfl
  | cons call calls ih => rw [session, List.map_cons, ih]

theorem moves_of_mem_session (candid : ∀ call, (perform call).Candid) {calls : List κ}
    {cursor : Cursor} {exchange : Exchange κ α} (member : exchange ∈ session perform calls cursor) :
    exchange.result = perform exchange.call exchange.before ∧
      cursor.Moves 0 exchange.before ∧ exchange.before.Moves 0 exchange.after := by
  induction calls generalizing cursor with
  | nil => cases member
  | cons call calls ih =>
      have here := (candid call).moves_after call cursor
      rw [session, List.mem_cons] at member
      rcases member with rfl | later
      · exact ⟨rfl, .refl cursor, here⟩
      · obtain ⟨result, moves, step⟩ := ih later
        exact ⟨result, here.trans moves, step⟩

theorem pairwise_session (candid : ∀ call, (perform call).Candid) (calls : List κ)
    (cursor : Cursor) :
    (session perform calls cursor).Pairwise fun earlier later =>
      earlier.after.Moves 0 later.after := by
  induction calls generalizing cursor with
  | nil => exact .nil
  | cons call calls ih =>
      rw [session, List.pairwise_cons]
      refine ⟨fun later member => ?_, ih _⟩
      obtain ⟨-, moves, step⟩ := moves_of_mem_session candid member
      exact moves.trans step

end LevelFormat.Wire

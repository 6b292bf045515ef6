import DuckGlue.Lib.BatchedRequests
import Mathlib.Tactic

/-! # Draining a list of keys

A service answers for some of the keys it is asked for and leaves the others unprocessed.
It is asked again for those. Only calls in a row that process nothing are counted, so what
bounds the calls is the number of keys left, and then the number of attempts left.
-/

namespace DuckGlue.Draining

open BatchedRequests

variable {Key State ε : Type}

structure Source (Key State ε : Type) where
  /-- The number of the batch, that of the attempt, and the keys; what is left of them. -/
  ask : ℕ → ℕ → List Key → State → State × Except ε (List Key)
  giveUp : List Key → ε

namespace Source

variable (source : Source Key State ε) (attempts : ℕ)

/-- The calls for a batch; without a result where the fuel runs out. -/
def drain (batch : ℕ) : ℕ → ℕ → List Key → State → Option (State × Except ε Unit)
  | 0, _, _, _ => none
  | fuel + 1, attempt, keys, s =>
      if keys.isEmpty then some (s, .ok ())
      else if attempt = attempts then some (s, .error (source.giveUp keys))
      else
        match source.ask batch attempt keys s with
        | (s, .error e) => some (s, .error e)
        | (s, .ok unprocessed) =>
            drain batch fuel (if unprocessed.length < keys.length then 0 else attempt + 1) unprocessed s

def drainAll (fuel : ℕ) : ℕ → List (List Key) → State → Option (State × Except ε Unit)
  | _, [], s => some (s, .ok ())
  | batch, keys :: rest, s =>
      match source.drain attempts batch fuel 0 keys s with
      | none => none
      | some (s, .error e) => some (s, .error e)
      | some (s, .ok ()) => drainAll fuel (batch + 1) rest s

/-- An invariant of the calls, which leave no more keys than they were asked for. -/
structure Keeps (Inv : ℕ → ℕ → List Key → State → Prop) (Stopped : State → ε → Prop) : Prop where
  shrinks : ∀ {batch attempt keys s s' unprocessed}, Inv batch attempt keys s →
    source.ask batch attempt keys s = (s', .ok unprocessed) → unprocessed.length ≤ keys.length
  progress : ∀ {batch attempt keys s s' unprocessed}, attempt < attempts → Inv batch attempt keys s →
    source.ask batch attempt keys s = (s', .ok unprocessed) → unprocessed.length < keys.length →
    Inv batch 0 unprocessed s'
  stuck : ∀ {batch attempt keys s s' unprocessed}, keys ≠ [] → attempt < attempts → Inv batch attempt keys s →
    source.ask batch attempt keys s = (s', .ok unprocessed) → unprocessed.length = keys.length →
    Inv batch (attempt + 1) unprocessed s'
  failed : ∀ {batch attempt keys s s' e}, keys ≠ [] → attempt < attempts → Inv batch attempt keys s →
    source.ask batch attempt keys s = (s', .error e) → Stopped s' e
  givesUp : ∀ {batch keys s}, keys ≠ [] → Inv batch attempts keys s → Stopped s (source.giveUp keys)

variable {source attempts} {Inv : ℕ → ℕ → List Key → State → Prop} {Stopped : State → ε → Prop}
  {batch attempt fuel : ℕ} {keys : List Key} {s : State}

/-- The calls for a batch end. -/
theorem drain_ends (keeps : source.Keeps attempts Inv Stopped) (bound : attempt ≤ attempts)
    (enough : attempts * keys.length - attempt < fuel) (holds : Inv batch attempt keys s) :
    ∃ s' result, source.drain attempts batch fuel attempt keys s = some (s', result) ∧
      ((result = .ok () ∧ ∃ last, Inv batch last [] s') ∨ ∃ e, result = .error e ∧ Stopped s' e) := by
  induction fuel generalizing attempt keys s with
  | zero => omega
  | succ fuel ih =>
      unfold drain
      split_ifs with none exhausted
      · rw [List.isEmpty_iff.mp none] at holds
        exact ⟨s, _, rfl, .inl ⟨rfl, attempt, holds⟩⟩
      · rw [List.isEmpty_iff] at none
        rw [exhausted] at holds
        exact ⟨s, _, rfl, .inr ⟨_, rfl, keeps.givesUp none holds⟩⟩
      · rw [List.isEmpty_iff] at none
        have some := List.length_pos_of_ne_nil none
        have left : attempt < attempts := by omega
        -- a call that processes nothing uses up an attempt, another a key and with it all of them
        cases answered : source.ask batch attempt keys s with
        | mk s' answer =>
            cases answer with
            | error e => exact ⟨s', _, rfl, .inr ⟨e, rfl, keeps.failed none left holds answered⟩⟩
            | ok unprocessed =>
                have shrinks := keeps.shrinks holds answered
                dsimp only
                split_ifs with fewer
                · have measure : attempts * unprocessed.length + attempts ≤ attempts * keys.length := by
                    rw [← Nat.mul_succ]
                    exact Nat.mul_le_mul_left _ fewer
                  apply ih
                  · omega
                  · omega
                  · exact keeps.progress left holds answered fewer
                · have same : unprocessed.length = keys.length := by omega
                  have measure : attempts ≤ attempts * keys.length := Nat.le_mul_of_pos_right _ some
                  apply ih
                  · omega
                  · rw [same]
                    omega
                  · exact keeps.stuck none left holds answered same

/-- The calls for the batches end. -/
theorem drainAll_ends (keeps : source.Keeps attempts Inv Stopped) {Between : ℕ → State → Prop} {items : List (List Key)}
    (enough : ∀ keys ∈ items, attempts * keys.length < fuel)
    (enter : ∀ {n keys s}, items[n]? = some keys → Between n s → Inv n 0 keys s)
    (leave : ∀ {n last s}, Inv n last [] s → Between (n + 1) s) (holds : Between 0 s) :
    ∃ s' result, source.drainAll attempts fuel 0 items s = some (s', result) ∧
      ((result = .ok () ∧ Between items.length s') ∨ ∃ e, result = .error e ∧ Stopped s' e) := by
  have from_ : ∀ (rest : List (List Key)) (n : ℕ) (s : State), items.drop n = rest → n ≤ items.length → Between n s →
      ∃ s' result, source.drainAll attempts fuel n rest s = some (s', result) ∧
        ((result = .ok () ∧ Between items.length s') ∨ ∃ e, result = .error e ∧ Stopped s' e) := by
    intro rest
    induction rest with
    | nil =>
        intro n s here bound holds
        rw [← length_of_drop_eq_nil here bound]
        exact ⟨s, _, rfl, .inl ⟨rfl, holds⟩⟩
    | cons keys rest ih =>
        intro n s here bound holds
        obtain ⟨first, later, inside⟩ := drop_eq_cons here
        have room := enough keys (List.mem_of_getElem? first)
        obtain ⟨s', result, drained, outcome⟩ := drain_ends keeps (Nat.zero_le _) (by omega) (enter first holds)
        unfold drainAll
        rw [drained]
        rcases outcome with ⟨rfl, last, inv⟩ | ⟨e, rfl, stopped⟩
        · exact ih (n + 1) s' later inside (leave inv)
        · exact ⟨s', _, rfl, .inr ⟨e, rfl, stopped⟩⟩
  exact from_ items 0 s rfl (Nat.zero_le _) holds

end Source

end DuckGlue.Draining

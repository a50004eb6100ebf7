import Mathlib.Data.List.Induction
import TransportStack.Proofs.Rotation.Law
import TransportStack.Scenario.DialRun

/-!
How many streams one connection carries. The counter of a demultiplexed dialer counts calls and goes
on when a dial fails, so a connection whose turn is over stays in use until a dial succeeds. Each dial
that fails at the end of a turn gives the connection at hand another turn but for one call.
-/

namespace TransportStack.Rotation

variable {ω κ σ : Type}

def Event.isFailedDial : Event ω κ σ → Bool
  | dialed _ (.error _) => true
  | dialed _ (.ok _) | looked _ | opened .. | returned _ => false

def Turn.failsToDial (t : Turn ω κ σ) : Bool := t.events.any Event.isFailedDial

section

variable [DecidableEq κ]

def Event.isStreamOn (c : κ) : Event ω κ σ → Bool
  | opened _ c' stream => c' = c ∧ stream.isOk
  | looked _ | dialed .. | returned _ => false

/-- The number of streams that were opened on a connection. -/
def carried (c : κ) (turns : List (Turn ω κ σ)) : Nat :=
  (turns.flatMap Turn.events).countP (Event.isStreamOn c)

/-- How often a connection was dialed: once, unless the dialer yields it again. -/
def dialings (c : κ) (turns : List (Turn ω κ σ)) : Nat :=
  ((turns.flatMap Turn.events).filterMap Event.connection?).count c

/-- The number of calls whose place is a multiple of the limit and that failed to dial while a
connection was at hand. -/
def overruns (limit : Nat) (c : κ) (turns : List (Turn ω κ σ)) : Nat :=
  (List.range turns.length).countP fun i =>
    i % limit = 0 ∧ latest (turns.take i) = some c ∧ turns[i]?.any Turn.failsToDial

/-- How many calls are left before the next one whose place is a multiple of the limit. -/
def callsLeft (limit i : Nat) : Nat := (limit - i % limit) % limit

/-- How many more streams a connection can get before the next turn. -/
def allowance (limit : Nat) (c : κ) (turns : List (Turn ω κ σ)) : Nat :=
  if latest turns = some c then callsLeft limit turns.length else 0

theorem callsLeft_of_mod_eq_zero {limit i : Nat} (h : i % limit = 0) : callsLeft limit i = 0 := by
  rw [callsLeft, h, Nat.sub_zero, Nat.mod_self]

theorem callsLeft_succ_lt {limit : Nat} (positive : 0 < limit) (i : Nat) :
    callsLeft limit (i + 1) < limit :=
  Nat.mod_lt _ positive

theorem callsLeft_succ {limit i : Nat} (positive : 0 < limit) (h : i % limit ≠ 0) :
    callsLeft limit (i + 1) + 1 = callsLeft limit i := by
  have less : i % limit < limit := Nat.mod_lt i positive
  have before : callsLeft limit i = limit - i % limit := Nat.mod_eq_of_lt (by omega)
  have next : (i + 1) % limit = (i % limit + 1) % limit := (Nat.mod_add_mod i limit 1).symm
  obtain inside | last := Nat.lt_or_eq_of_le (Nat.succ_le_of_lt less)
  · rw [Nat.mod_eq_of_lt inside] at next
    rw [before, callsLeft, next, Nat.mod_eq_of_lt (by omega)]
    omega
  · rw [show i % limit + 1 = limit from last, Nat.mod_self] at next
    rw [before, callsLeft_of_mod_eq_zero next]
    omega

variable (c : κ) (turns : List (Turn ω κ σ)) (t : Turn ω κ σ)

theorem carried_concat :
    carried c (turns ++ [t]) = carried c turns + t.events.countP (Event.isStreamOn c) := by
  simp only [carried, List.flatMap_append, List.flatMap_singleton, List.countP_append]

theorem dialings_concat :
    dialings c (turns ++ [t]) =
      dialings c turns + (t.events.filterMap Event.connection?).count c := by
  simp only [dialings, List.flatMap_append, List.flatMap_singleton, List.filterMap_append,
    List.count_append]

theorem overruns_concat (limit : Nat) :
    overruns limit c (turns ++ [t]) = overruns limit c turns +
      if turns.length % limit = 0 ∧ latest turns = some c ∧ t.failsToDial then 1 else 0 := by
  simp only [overruns, List.length_append, List.length_singleton, List.range_succ,
    List.countP_append, List.countP_singleton]
  congr 1
  · apply List.countP_congr
    intro i hi
    have less := List.mem_range.1 hi
    rw [List.take_append_of_le_length (Nat.le_of_lt less), List.getElem?_append_left less]
  · simp

end

variable {d : Dialer ω κ σ} {limit : Nat}

/-- The streams on a connection and those that it can still get before the next turn. -/
theorem carried_add_allowance_le [DecidableEq κ] (positive : 0 < limit) (c : κ)
    (turns : List (Turn ω κ σ))
    (lawful : ∀ i t, turns[i]? = some t → Course d limit i (latest (turns.take i)) t.events) :
    carried c turns + allowance limit c turns ≤
      limit * dialings c turns + (limit - 1) * overruns limit c turns := by
  induction turns using List.reverseRecOn with
  | nil => simp [carried, allowance, latest]
  | append_singleton turns t ih =>
      have before := ih fun i t' found => by
        have less := (List.getElem?_eq_some_iff.1 found).1
        have course := lawful i t' (by rw [List.getElem?_append_left less, found])
        rwa [List.take_append_of_le_length (Nat.le_of_lt less)] at course
      have course : Course d limit turns.length (latest turns) t.events := by
        have last := lawful turns.length t (by simp)
        rwa [List.take_left] at last
      rw [carried_concat, dialings_concat, overruns_concat]
      simp only [allowance, latest_concat, List.length_append, List.length_singleton] at before ⊢
      have next := callsLeft_succ_lt positive turns.length
      obtain ⟨caller, events⟩ := t
      simp only [Turn.failsToDial] at course ⊢
      cases course with
      | failed w w' e due =>
          simp only [List.countP_cons, List.countP_nil, Event.isStreamOn, List.filterMap_cons,
            List.filterMap_nil, Event.connection?, List.count_nil, List.getLast?_nil,
            Option.none_or, List.any_cons, Event.isFailedDial]
          by_cases held : latest turns = some c
          · by_cases first : turns.length % limit = 0
            · simp [held, first, Nat.mul_add] at before ⊢
              omega
            · have left := callsLeft_succ positive first
              simp [held, first] at before ⊢
              omega
          · simp [held] at before ⊢
            omega
      | fresh w w' w'' c' stream due =>
          simp only [List.countP_cons, List.countP_nil, Event.isStreamOn, List.filterMap_cons,
            List.filterMap_nil, Event.connection?, List.count_singleton, List.getLast?_singleton,
            Option.some_or, List.any_cons, List.any_nil, Event.isFailedDial]
          by_cases same : c' = c
          · by_cases good : stream.isOk = true <;> simp [same, good, Nat.mul_add] at before ⊢ <;> omega
          · simp [same] at before ⊢
            omega
      | reused w w' c' stream current found =>
          have first : turns.length % limit ≠ 0 := fun h => current (.inl h)
          have left := callsLeft_succ positive first
          simp only [List.countP_cons, List.countP_nil, Event.isStreamOn, List.filterMap_cons,
            List.filterMap_nil, Event.connection?, List.count_nil, List.getLast?_nil,
            Option.none_or, List.any_cons, List.any_nil, Event.isFailedDial]
          by_cases same : c' = c
          · by_cases good : stream.isOk = true <;>
              simp [same, good, found, first] at before ⊢ <;> omega
          · simpa [same, found, first] using before

/-- However dials, opened streams and connections fail, a connection carries at most `limit` streams
for each time it is dialed, and at most one less for each dial that fails at the end of a turn while
it is at hand. -/
theorem carried_le (d : Dialer ω κ σ) [DecidableEq κ] (p : Parameters) (w : ω)
    (moves : List (Move ω)) (c : κ) :
    let limit := max 1 (p.count limitKey 1)
    let turns := ((Callers.start p w).run d moves).turns
    carried c turns ≤ limit * dialings c turns + (limit - 1) * overruns limit c turns := by
  intro limit turns
  have positive : 0 < limit := Nat.le_max_left 1 _
  have sound := (Callers.sound_start d p w).run positive moves
  have bound := carried_add_allowance_le positive c turns sound.lawful
  omega

end TransportStack.Rotation

namespace TransportStack.Scenario.DialWorld

open Rotation

/-- A call from its beginning to its end. -/
def wholeCall : List (Move DialWorld) := [.call 0, .lock 0, .proceed, .proceed, .proceed]

/-- Two streams to a connection, and the second dial is refused: the third stream is opened on the
first connection. -/
theorem refused_dial_overruns :
    ¬∀ (p : Parameters) (w : DialWorld) (moves : List (Move DialWorld)) (c : Nat),
      let turns := ((Callers.start p w).run dialer moves).turns
      dialings c turns = 1 → carried c turns ≤ max 1 (p.count limitKey 1) := by
  intro capped
  have few := capped (Dict.ofList [("streamsperconn", "2")])
    ⟨[.connected, .failed (.io (.ofKind .connectionRefused))], [], 0, 0, false⟩
    (wholeCall ++ wholeCall ++ wholeCall ++ wholeCall) 0
  revert few
  decide

end TransportStack.Scenario.DialWorld

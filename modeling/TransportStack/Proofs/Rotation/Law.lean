import TransportStack.Proofs.Rotation.Turns

/-!
The law of rotation. Among all calls, in the order in which they get the lock, those dial whose
place is a multiple of the limit, those before the first dial that succeeds, and those that find the
connection at hand closed. All others open their stream on the connection that was dialed last.
-/

namespace TransportStack

namespace Text

theorem Width.readNat?_lt {s : String} {n : Nat} (h : Width.count.readNat? s = some n) :
    n < UInt64.size := by
  obtain ⟨m, read, rfl⟩ := Option.map_eq_some_iff.1 h
  have held : Width.count.holds m = true := (Option.filter_eq_some_iff.1 read).2
  simp only [Width.holds, Width.low, Width.high, Width.count, Bool.false_eq_true, if_false,
    Bool.and_eq_true, decide_eq_true_eq] at held
  have size : Nat.pow 2 64 = UInt64.size := rfl
  omega

end Text

theorem Parameters.count_lt (p : Parameters) (key : String) {fallback : Nat}
    (small : fallback < UInt64.size) : p.count key fallback < UInt64.size := by
  rw [count]
  cases read : (p.get? key).bind Text.Width.count.readNat? with
  | none => exact small
  | some n =>
      obtain ⟨text, -, read⟩ := Option.bind_eq_some_iff.1 read
      exact Text.Width.readNat?_lt read

namespace Rotation

variable {ω κ σ : Type}

/-- The law of rotation. Each call that has returned has taken the course that its place and the
connection dialed last before it allow, and the one that has the lock is on such a course. -/
structure Callers.Obeys (d : Dialer ω κ σ) (limit : Nat) (s : Callers ω κ σ) : Prop where
  course : ∀ i t, s.turns[i]? = some t → Course d limit i (latest (s.turns.take i)) t.events
  underWay : ∀ t stage, s.current = some (t, stage) →
    UnderWay d limit s.turns.length (latest s.turns) stage t.events
  connection : s.rotation.connection = latest (s.turns ++ (s.current.map Prod.fst).toList)
  counter : s.rotation.calls ≤ limit
  returns : ∀ t stage, s.current = some (t, stage) → ∀ moves,
    3 ≤ moves.countP Move.isProceed → ∃ events,
      (s.run d moves).turns[s.turns.length]? = some { t with events := t.events ++ events }
  /-- A caller that waits and gets the lock makes its call. -/
  calls : s.current = none → ∀ caller ∈ s.waiting,
    MakesCall d caller s (s.run d [.lock caller, .proceed, .proceed, .proceed])

/-- The law holds after any moves of any number of callers. The limit fits in 64 bits, and so does
the counter. -/
theorem rotation_law (d : Dialer ω κ σ) (p : Parameters) (w : ω) (moves : List (Move ω)) :
    let limit := max 1 (p.count limitKey 1)
    ((Callers.start p w).run d moves).Obeys d limit ∧ limit < UInt64.size := by
  intro limit
  have positive : 0 < limit := Nat.le_max_left 1 _
  have sound := (Callers.sound_start d p w).run positive moves
  refine ⟨⟨sound.lawful, fun t stage current => (sound.busy t stage current).2, sound.held,
    sound.within, fun t stage current more enough => ?_, fun free caller waits =>
    Callers.makesCall free waits⟩, Nat.max_lt.2 ⟨by decide, p.count_lt limitKey (by decide)⟩⟩
  exact Callers.returns current (Nat.le_trans stage.left_le enough)

end Rotation

end TransportStack

import Mathlib.Data.List.Induction
import Mathlib.Data.List.Nodup
import TransportStack.Proofs.Guarding.Operations

/-!
Tasks that use a guarded stream. A task starts an operation, and as long as the operation has to
wait it may be looked at again, at any time and for any reason; between such steps anything may
happen to the stream inside and to the signal, but that the signal is taken back. Until the signal
fires the tasks see what they would see without the guard. After that they do not touch the stream
inside, and each operation ends when it is looked at. The guard itself sees to that only for the task
that moved bytes through it last: it calls on this one when the signal fires, and on no other.
-/

namespace TransportStack

open Scenario (ByteOp ByteResult)

/-- A guard whose signal has fired once it was fired. -/
structure Guarding (ω : Type) extends ByteStream.Guard ω where
  isFired_fire : ∀ w, isFired (fire w) = true

namespace Guarding

variable {ω : Type}

/-- Something else that happens. It does not take the signal back. -/
structure Change (g : Guarding ω) where
  act : ω → ω
  keeps : ∀ w, g.isFired w = true → g.isFired (act w) = true

/-- Closing, by whoever has the signal. -/
def closing (g : Guarding ω) : g.Change := ⟨g.fire, fun w _ => g.isFired_fire w⟩

inductive Move (g : Guarding ω)
  /-- A task that does not wait starts an operation. -/
  | start (task : Nat) (op : ByteOp)
  /-- The operation that a task waits for is looked at again. -/
  | look (task : Nat)
  | change (c : g.Change)

/-- What a look at the operation of a task has shown; without a result it has to wait. -/
structure Look where
  task : Nat
  op : ByteOp
  /-- Whether the signal had fired by then. -/
  late : Bool
  result : Option ByteResult

structure Usage (ω : Type) where
  world : ω
  /-- The tasks that wait, each with its operation. -/
  waiting : List (Nat × ByteOp)
  seen : List Look

namespace Usage

def start (w : ω) : Usage ω := ⟨w, [], []⟩

def attempt (g : Guarding ω) (b : ByteStream ω) (task : Nat) (op : ByteOp) (u : Usage ω) :
    Usage ω :=
  let r := op.perform b u.world
  { world := r.2
    waiting := if r.1.isNone then u.waiting ++ [(task, op)] else u.waiting
    seen := u.seen ++ [⟨task, op, g.isFired u.world, r.1⟩] }

def leave (task : Nat) (u : Usage ω) : Usage ω :=
  { u with waiting := u.waiting.filter (·.1 != task) }

/-- One step of tasks that use a stream `b`. -/
def move (g : Guarding ω) (b : ByteStream ω) (u : Usage ω) : g.Move → Usage ω
  | .start task op =>
      match u.waiting.lookup task with
      | some _ => u
      | none => u.attempt g b task op
  | .look task =>
      match u.waiting.lookup task with
      | some op => (u.leave task).attempt g b task op
      | none => u
  | .change c => { u with world := c.act u.world }

def run (g : Guarding ω) (b : ByteStream ω) (u : Usage ω) (moves : List g.Move) : Usage ω :=
  moves.foldl (move g b) u

/-- The task that moved bytes last before the signal fired. A guard keeps one task in mind. -/
def minded (u : Usage ω) : Option Nat :=
  (u.seen.filter fun l => l.op.movesBytes && !l.late).getLast?.map Look.task

/-- When the signal fires, the guard calls on the task that it has in mind. -/
def calls (g : Guarding ω) (u : Usage ω) : List g.Move := (u.minded.map .look).toList

def HasFailed (u : Usage ω) : Prop := ∃ l ∈ u.seen, l.op.Fails l.result

instance (u : Usage ω) : Decidable u.HasFailed :=
  inferInstanceAs (Decidable (∃ l ∈ u.seen, l.op.Fails l.result))

/-- The same with the signal fired, if an operation has failed. -/
def watched (g : Guarding ω) (u : Usage ω) : Usage ω :=
  if u.HasFailed then { u with world := g.fire u.world } else u

end Usage

namespace Move

variable {g : Guarding ω}

/-- What a move does when no operation touches the stream. -/
def around (w : ω) : g.Move → ω
  | start .. | look _ => w
  | change c => c.act w

def looksAt (task : Nat) : g.Move → Bool
  | look t => t == task
  | start .. | change _ => false

theorem isFired_around {w : ω} (moves : List g.Move) (fired : g.isFired w = true) :
    g.isFired (moves.foldl around w) = true := by
  induction moves generalizing w with
  | nil => exact fired
  | cons m moves ih =>
      refine ih ?_
      cases m with
      | start | look => exact fired
      | change c => exact c.keeps w fired

end Move

namespace Usage

variable {g : Guarding ω} {b : ByteStream ω} {u : Usage ω} {task : Nat} {op : ByteOp}

theorem run_append (moves more : List g.Move) :
    u.run g b (moves ++ more) = (u.run g b moves).run g b more :=
  List.foldl_append

theorem run_concat (moves : List g.Move) (m : g.Move) :
    u.run g b (moves ++ [m]) = (u.run g b moves).move g b m :=
  run_append moves [m]

theorem minded_of_seen {v : Usage ω} {l : Look} (seen : v.seen = u.seen ++ [l]) :
    v.minded = if l.op.movesBytes && !l.late then some l.task else u.minded := by
  rw [minded, seen, List.filter_append, List.filter_singleton]
  cases l.op.movesBytes && !l.late with
  | true => rw [cond_true, List.getLast?_concat]; rfl
  | false => rw [cond_false, List.append_nil]; rfl

theorem exists_of_minded (minded : u.minded = some task) :
    ∃ l ∈ u.seen, l.task = task ∧ l.op.movesBytes = true := by
  obtain ⟨l, last, own⟩ := Option.map_eq_some_iff.1 minded
  obtain ⟨there, moved⟩ := List.mem_filter.1 (List.mem_of_getLast? last)
  exact ⟨l, there, own, (Bool.and_eq_true_iff.1 moved).1⟩

/-! ### Before the signal fires -/

theorem hasFailed_attempt :
    (u.attempt g b task op).HasFailed ↔ u.HasFailed ∨ op.Fails (op.perform b u.world).1 := by
  simp only [HasFailed, attempt, List.mem_append, List.mem_singleton, or_and_right, exists_or,
    exists_eq_left]

theorem attempt_guarded (unfired : g.isFired u.world = false) (unfailed : ¬u.HasFailed) :
    u.attempt g (b.guarded g.toGuard) task op = (u.attempt g b task op).watched g := by
  have performed := ByteStream.perform_guarded_of_unfired g.toGuard b op unfired
  by_cases fails : op.Fails (op.perform b u.world).1
  · rw [watched, if_pos (hasFailed_attempt.2 (.inr fails))]
    simp only [attempt, performed, if_pos fails]
  · rw [watched, if_neg fun failed => (hasFailed_attempt.1 failed).elim unfailed fails]
    simp only [attempt, performed, if_neg fails]

theorem watched_of_unfailed (unfailed : ¬u.HasFailed) : u.watched g = u := if_neg unfailed

/-- A move that begins before the signal has fired is the move on the stream inside, and the signal
fires if this has failed. -/
theorem move_guarded (unfired : g.isFired u.world = false) (unfailed : ¬u.HasFailed) (m : g.Move) :
    u.move g (b.guarded g.toGuard) m = (u.move g b m).watched g := by
  have same : u = u.watched g := (watched_of_unfailed unfailed).symm
  cases m with
  | start task op =>
      simp only [move]
      cases u.waiting.lookup task with
      | some _ => exact same
      | none => exact attempt_guarded unfired unfailed
  | look task =>
      simp only [move]
      cases u.waiting.lookup task with
      | some op => exact attempt_guarded (u := u.leave task) unfired unfailed
      | none => exact same
  | change c => exact (watched_of_unfailed (u := { u with world := c.act u.world }) unfailed).symm

/-! ### After the signal has fired -/

theorem attempt_of_fired (fired : g.isFired u.world = true) :
    u.attempt g (b.guarded g.toGuard) task op =
      { u with seen := u.seen ++ [⟨task, op, true, some op.afterClose⟩] } := by
  simp only [attempt, ByteStream.perform_guarded_of_fired g.toGuard b op fired, fired,
    Option.isNone_some, Bool.false_eq_true, if_false]

/-- What the looks of moves show that begin after the signal has fired. -/
structure Answered (g : Guarding ω) (u : Usage ω) (more : List g.Move) (looks : List Look) :
    Prop where
  late : ∀ l ∈ looks, l.late = true ∧ l.result = some l.op.afterClose
  resumed : ∀ e ∈ u.waiting, more.any (·.looksAt e.1) = true →
    ⟨e.1, e.2, true, some e.2.afterClose⟩ ∈ looks
  started : ∀ task op, .start task op ∈ more → u.waiting.lookup task = none →
    ⟨task, op, true, some op.afterClose⟩ ∈ looks

/-- What moves come to that begin after the signal has fired: the stream inside is left alone, and
an operation waits as long as it is not looked at. -/
structure Absorbed (g : Guarding ω) (u v : Usage ω) (more : List g.Move) : Prop where
  world : v.world = more.foldl Move.around u.world
  waiting : v.waiting = u.waiting.filter fun e => !more.any (·.looksAt e.1)
  seen : ∃ looks, v.seen = u.seen ++ looks ∧ Answered g u more looks

/-- Each task waits for one operation at most. -/
def Distinct (u : Usage ω) : Prop := (u.waiting.map (·.1)).Nodup

theorem lookup_of_mem (distinct : u.Distinct) {e : Nat × ByteOp} (among : e ∈ u.waiting) :
    u.waiting.lookup e.1 = some e.2 := by
  cases found : u.waiting.lookup e.1 with
  | none =>
      have absent := List.lookup_eq_none_iff.1 found e among
      simp at absent
  | some op =>
      obtain ⟨before, after, split, -⟩ := List.lookup_eq_some_iff.1 found
      have there : (e.1, op) ∈ u.waiting := by simp [split]
      exact congrArg (some ∘ Prod.snd) (List.inj_on_of_nodup_map distinct there among rfl)

theorem distinct_leave (distinct : u.Distinct) : (u.leave task).Distinct :=
  distinct.sublist (List.filter_sublist.map _)

theorem distinct_attempt (distinct : u.Distinct) (free : u.waiting.lookup task = none) :
    (u.attempt g b task op).Distinct := by
  have apart (t : Nat) (ht : t ∈ u.waiting.map (·.1)) : t ≠ task := by
    obtain ⟨e, among, rfl⟩ := List.mem_map.1 ht
    exact fun same => by simpa [same] using List.lookup_eq_none_iff.1 free e among
  simp only [Distinct, attempt]
  split
  · rw [List.map_append]
    refine List.nodup_append.2 ⟨distinct, List.nodup_singleton _, fun t ht t' ht' => ?_⟩
    exact List.mem_singleton.1 ht' ▸ apart t ht
  · exact distinct

theorem lookup_leave : (u.leave task).waiting.lookup task = none := by
  rw [List.lookup_eq_none_iff]
  intro e among
  simpa [bne_comm] using (List.mem_filter.1 among).2

theorem Distinct.move (distinct : u.Distinct) (m : g.Move) : (u.move g b m).Distinct := by
  cases m with
  | start task op =>
      simp only [Usage.move]
      cases free : u.waiting.lookup task with
      | some _ => exact distinct
      | none => exact distinct_attempt distinct free
  | look task =>
      simp only [Usage.move]
      cases u.waiting.lookup task with
      | some op => exact distinct_attempt (distinct_leave distinct) lookup_leave
      | none => exact distinct
  | change c => exact distinct

theorem Distinct.run (distinct : u.Distinct) (moves : List g.Move) :
    (u.run g b moves).Distinct := by
  induction moves using List.reverseRecOn with
  | nil => exact distinct
  | append_singleton moves m ih =>
      rw [run_concat]
      exact ih.move m

theorem distinct_run (w : ω) (moves : List g.Move) : ((start w).run g b moves).Distinct :=
  Distinct.run (u := start w) List.nodup_nil moves

/-- A move that looks at no operation that waits. -/
theorem absorbed_of_unseen {v : Usage ω} {m : g.Move} {looks : List Look}
    (world : v.world = m.around u.world) (waiting : v.waiting = u.waiting)
    (seen : v.seen = u.seen ++ looks)
    (late : ∀ l ∈ looks, l.late = true ∧ l.result = some l.op.afterClose)
    (started : ∀ task op, .start task op = m → u.waiting.lookup task = none →
      ⟨task, op, true, some op.afterClose⟩ ∈ looks)
    (unseen : ∀ e ∈ u.waiting, m.looksAt e.1 = false) : Absorbed g u v [m] where
  world := world
  waiting := by
    rw [waiting, List.filter_eq_self.2]
    intro e among
    simp [unseen e among]
  seen := by
    refine ⟨looks, seen, late, fun e among looked => ?_, fun task op there => ?_⟩
    · simp [unseen e among] at looked
    · exact started task op (List.mem_singleton.1 there)

/-- A move after the signal has fired. -/
theorem absorbed_move (fired : g.isFired u.world = true) (distinct : u.Distinct) (m : g.Move) :
    Absorbed g u (u.move g (b.guarded g.toGuard) m) [m] := by
  have nothing : u.seen = u.seen ++ [] := (List.append_nil _).symm
  cases m with
  | start task op =>
      cases found : u.waiting.lookup task with
      | some _ =>
          simp only [move, found]
          refine absorbed_of_unseen rfl rfl nothing (by simp) ?_ fun _ _ => rfl
          rintro _ _ ⟨⟩ free
          cases found.symm.trans free
      | none =>
          simp only [move, found, attempt_of_fired fired]
          refine absorbed_of_unseen rfl rfl rfl (by simp) ?_ fun _ _ => rfl
          rintro _ _ ⟨⟩ -
          exact List.mem_singleton.2 rfl
  | look task =>
      cases found : u.waiting.lookup task with
      | none =>
          simp only [move, found]
          refine absorbed_of_unseen rfl rfl nothing (by simp) (by simp) fun e among => ?_
          simpa [Move.looksAt, bne_comm] using List.lookup_eq_none_iff.1 found e among
      | some op =>
          have away : g.isFired (u.leave task).world = true := fired
          simp only [move, found, attempt_of_fired away]
          refine ⟨rfl, ?_, _, rfl, by simp, fun e among looked => ?_, by simp⟩
          · simp only [leave, List.any_cons, List.any_nil, Bool.or_false, Move.looksAt, bne,
              BEq.comm]
          · have own : task = e.1 := by simpa [Move.looksAt] using looked
            have same : some op = some e.2 := by rw [← found, own, lookup_of_mem distinct among]
            rw [own, Option.some.inj same]
            exact List.mem_singleton.2 rfl
  | change c => exact absorbed_of_unseen rfl rfl nothing (by simp) (by simp) fun _ _ => rfl

theorem Absorbed.trans {v x : Usage ω} {more last : List g.Move} (before : Absorbed g u v more)
    (after : Absorbed g v x last) : Absorbed g u x (more ++ last) where
  world := by rw [after.world, before.world, List.foldl_append]
  waiting := by
    rw [after.waiting, before.waiting, List.filter_filter]
    congr! 2 with e
    rw [List.any_append, Bool.not_or, Bool.and_comm]
  seen := by
    obtain ⟨looks, seen, first⟩ := before.seen
    obtain ⟨looks', seen', next⟩ := after.seen
    refine ⟨looks ++ looks', by rw [seen', seen, List.append_assoc], ?_, ?_, ?_⟩
    · exact List.forall_mem_append.2 ⟨first.late, next.late⟩
    · intro e among looked
      cases early : more.any (·.looksAt e.1) with
      | true => exact List.mem_append_left _ (first.resumed e among early)
      | false =>
          have waits : e ∈ v.waiting := by
            rw [before.waiting]
            exact List.mem_filter.2 ⟨among, by rw [early]; rfl⟩
          rw [List.any_append, early, Bool.false_or] at looked
          exact List.mem_append_right _ (next.resumed e waits looked)
    · intro task op there free
      obtain early | later := List.mem_append.1 there
      · exact List.mem_append_left _ (first.started task op early free)
      · refine List.mem_append_right _ (next.started task op later ?_)
        rw [before.waiting, List.lookup_eq_none_iff]
        exact fun e among => List.lookup_eq_none_iff.1 free e (List.mem_filter.1 among).1

theorem Absorbed.isFired {v : Usage ω} {more : List g.Move} (h : Absorbed g u v more)
    (fired : g.isFired u.world = true) : g.isFired v.world = true := by
  rw [h.world]
  exact Move.isFired_around more fired

theorem absorbed_run (fired : g.isFired u.world = true) (distinct : u.Distinct)
    (more : List g.Move) : Absorbed g u (u.run g (b.guarded g.toGuard) more) more := by
  induction more using List.reverseRecOn with
  | nil => exact ⟨rfl, by simp [run], [], by simp [run], by simp, by simp, by simp⟩
  | append_singleton more m ih =>
      rw [run_concat]
      exact ih.trans (absorbed_move (ih.isFired fired) (distinct.run more) m)

/-- Until the signal fires, the guard makes no difference. -/
theorem run_guarded {w : ω} {moves : List g.Move}
    (unfired : g.isFired ((start w).run g (b.guarded g.toGuard) moves).world = false) :
    (start w).run g (b.guarded g.toGuard) moves = (start w).run g b moves ∧
      ¬((start w).run g b moves).HasFailed := by
  induction moves using List.reverseRecOn with
  | nil => exact ⟨rfl, by simp [HasFailed, run, start]⟩
  | append_singleton moves m ih =>
      rw [run_concat] at unfired
      have before : g.isFired ((start w).run g (b.guarded g.toGuard) moves).world = false := by
        refine Bool.eq_false_iff.2 fun fired => ?_
        have after := (absorbed_move (b := b) fired (distinct_run w moves) m).isFired fired
        exact Bool.false_ne_true (unfired.symm.trans after)
      obtain ⟨same, unfailed⟩ := ih before
      rw [same] at before unfired
      rw [run_concat, run_concat, same]
      rw [move_guarded before unfailed] at unfired ⊢
      have passed : ¬(((start w).run g b moves).move g b m).HasFailed := by
        intro failed
        rw [watched, if_pos failed, g.isFired_fire] at unfired
        cases unfired
      exact ⟨watched_of_unfailed passed, passed⟩

/-- What the call by the guard leaves is what waits for other tasks. -/
theorem waiting_calls (fired : g.isFired u.world = true) (distinct : u.Distinct) :
    (u.run g (b.guarded g.toGuard) (u.calls g)).waiting =
      u.waiting.filter fun e => u.minded != some e.1 := by
  rw [(absorbed_run fired distinct _).waiting]
  unfold calls
  cases u.minded with
  | none => rfl
  | some task => simp [Move.looksAt, bne]

end Usage

end Guarding

end TransportStack

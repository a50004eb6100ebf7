import TransportStack.Proofs.Paired.Closing

/-!
The bytes of streams. In each direction a pipe holds what was written and not yet read, which is no
more than fits. A direction ends when its writing end was shut down, or the program has lost one of
the ends.
-/

namespace TransportStack

open Scenario (ByteOp ByteResult)

namespace Pipe

variable (p : Pipe) (h side : Half)

theorem get_modify (f : Lane → Lane) : (p.modify h f).lanes.get side =
    if side = h then f (p.lanes.get side) else p.lanes.get side :=
  p.lanes.get_modify h side f

theorem get_empty (capacity : Nat) : (empty capacity).lanes.get side = .empty capacity := by
  cases side <;> rfl

theorem get_release : p.release.lanes.get side = (p.lanes.get side).finish := by
  cases side <;> rfl

end Pipe

namespace Paired

/-- What an operation on an end of a stream does to the pipe beneath it. -/
structure Conveys (e : Happening) (k : Nat) (p p' : Pipe) : Prop where
  bytes : ∀ side, (p.lanes.get side).held ++ e.writes k side =
    e.reads k side.other ++ (p'.lanes.get side).held
  capacity : ∀ side, (p'.lanes.get side).capacity = (p.lanes.get side).capacity
  within : ∀ side, (p.lanes.get side).held.length ≤ (p.lanes.get side).capacity →
    (p'.lanes.get side).held.length ≤ (p.lanes.get side).capacity
  ended : ∀ side, (p'.lanes.get side).ended = true →
    (p.lanes.get side).ended = true ∨ e.shuts k side = true
  released : p'.released = p.released

section

variable {x : Stream} {k : Nat} {h : Half} {p p' : Pipe} {answer : Option ByteResult}

theorem Conveys.refl {e : Happening} (p : Pipe)
    (silent : ∀ side, e.writes k side = [] ∧ e.reads k side = []) : Conveys e k p p where
  bytes side := by rw [(silent side).1, (silent side.other).2, List.append_nil, List.nil_append]
  capacity _ := rfl
  within _ := id
  ended _ := .inl
  released := rfl

/-- An operation that works on one direction. -/
theorem Conveys.on {e : Happening} {side : Half} {lane : Lane}
    (bytes : (p.lanes.get side).held ++ e.writes k side = e.reads k side.other ++ lane.held)
    (silent : ∀ other ≠ side, e.writes k other = [] ∧ e.reads k other.other = [])
    (capacity : lane.capacity = (p.lanes.get side).capacity)
    (within : (p.lanes.get side).held.length ≤ (p.lanes.get side).capacity →
      lane.held.length ≤ (p.lanes.get side).capacity)
    (ended : lane.ended = true → (p.lanes.get side).ended = true ∨ e.shuts k side = true) :
    Conveys e k p (p.modify side fun _ => lane) := by
  refine ⟨fun other => ?_, fun other => ?_, fun other => ?_, fun other => ?_, rfl⟩
  all_goals
    rw [Pipe.get_modify]
    by_cases same : other = side
  · rw [if_pos same, same, bytes]
  · rw [if_neg same, (silent other same).1, (silent other same).2, List.append_nil, List.nil_append]
  · rw [if_pos same, same, capacity]
  · rw [if_neg same]
  · rw [if_pos same, same]
    exact within
  · rw [if_neg same]
    exact id
  · rw [if_pos same, same]
    exact ended
  · rw [if_neg same]
    exact .inl

theorem conveys_read (own : x.end? = some (k, h)) (count : Nat)
    (done : (ByteOp.read count).perform (Pipe.stream h) p = (answer, p')) :
    Conveys (.used x (.read count) answer) k p p' := by
  have nothing (side : Half) :
      (Happening.used x (.read count) (some (.data []))).reads k side = [] := ite_self []
  obtain ⟨-, same⟩ | ⟨-, -, -, same⟩ | ⟨-, -, -, same⟩ | ⟨-, -, same⟩ :=
    p.perform_read_cases h count <;>
    cases same.symm.trans done
  · exact .refl p fun side => ⟨rfl, nothing side⟩
  · exact .refl p fun side => ⟨rfl, nothing side⟩
  · exact .refl p fun side => ⟨rfl, rfl⟩
  · refine .on ?_ (fun other apart => ⟨rfl, ?_⟩) rfl (fun within => ?_) .inl
    · simp [Happening.writes, Happening.reads, own]
    · have elsewhere : h ≠ other.other := fun same => apart (by rw [same, Half.other_other])
      simp [Happening.reads, own, elsewhere]
    · exact Nat.le_trans (List.length_drop ▸ Nat.sub_le _ _) within

theorem conveys_write (own : x.end? = some (k, h)) (payload : List UInt8)
    (done : (ByteOp.write payload).perform (Pipe.stream h) p = (answer, p'))
    (sane : ∀ e, answer ≠ some (.failed e)) :
    Conveys (.used x (.write payload) answer) k p p' := by
  obtain ⟨-, same⟩ | ⟨-, -, -, same⟩ | ⟨-, same⟩ := p.perform_write_cases h payload <;>
    cases same.symm.trans done
  · exact absurd rfl (sane _)
  · exact .refl p fun side => ⟨rfl, rfl⟩
  · refine .on ?_ (fun other apart => ⟨?_, rfl⟩) rfl (fun within => ?_) .inl
    · simp [Happening.writes, Happening.reads, own]
    · simp [Happening.writes, own, Ne.symm apart]
    · rw [List.length_append, List.length_take]
      omega

theorem conveys_shutdown (own : x.end? = some (k, h))
    (done : ByteOp.shutdown.perform (Pipe.stream h) p = (answer, p')) :
    Conveys (.used x .shutdown answer) k p p' := by
  have performed : ByteOp.shutdown.perform (Pipe.stream h) p =
      (some .done, p.modify h fun _ => (p.lanes.get h).finish) := by cases h <;> rfl
  rw [performed] at done
  cases done
  refine .on (List.append_nil _) (fun _ _ => ⟨rfl, rfl⟩) rfl id fun _ => .inr ?_
  simp [Happening.shuts, own]

/-- Any operation that does not fail. -/
theorem conveys_used {op : ByteOp} (own : x.end? = some (k, h))
    (done : op.perform (Pipe.stream h) p = (answer, p')) (sane : ∀ e, answer ≠ some (.failed e)) :
    Conveys (.used x op answer) k p p' := by
  cases op with
  | read count => exact conveys_read own count done
  | write payload => exact conveys_write own payload done sane
  | flush =>
      cases done
      exact .refl p fun side => ⟨rfl, rfl⟩
  | shutdown => exact conveys_shutdown own done

theorem Happening.silent_of_apart {e : Happening} (apart : e.pipe? ≠ some k) (side : Half) :
    e.writes k side = [] ∧ e.reads k side = [] := by
  obtain ⟨writes, reads, -⟩ := apart_pipe apart side
  exact ⟨writes, reads⟩

/-- No bytes pass once the signal of a stream has fired. -/
theorem Happening.silent_late (x : Stream) (op : ByteOp) (k : Nat) (side : Half) :
    (used x op (some op.afterClose)).writes k side = [] ∧
      (used x op (some op.afterClose)).reads k side = [] := by
  cases op with
  | read count => exact ⟨rfl, ite_self []⟩
  | write | flush | shutdown => exact ⟨rfl, rfl⟩

end

section

variable {n n' : Network} {l : List Happening} {e : Happening} {a : Act}

/-- What can become of a pipe: it is used, it ends since one of its ends is lost, or it is new. -/
theorem Stocked.pipe_cases (h : Stocked n l) (effect : Effect (roots l) n a e n') {k : Nat}
    {p' : Pipe} (there' : n'.pipes[k]? = some p') :
    (∃ p, n.pipes[k]? = some p ∧ Conveys e k p p') ∨
      (∃ p, n.pipes[k]? = some p ∧ e = .released ∧ p' = p.release ∧ ∃ side, ¬HasEnd n l k side) ∨
      k = n.pipes.length ∧ ∃ capacity, p' = .empty capacity := by
  have made {capacity : Nat} (apart : e.pipe? = none)
      (there' : (n.pipes ++ [.empty capacity])[k]? = some p') :
      (∃ p, n.pipes[k]? = some p ∧ Conveys e k p p') ∨
        k = n.pipes.length ∧ p' = .empty capacity := by
    have apart : e.pipe? ≠ some k := by
      rw [apart]
      exact (Option.some_ne_none k).symm
    rw [List.getElem?_append] at there'
    split at there'
    · exact .inl ⟨p', there', .refl p' (Happening.silent_of_apart apart)⟩
    · rw [List.getElem?_singleton] at there'
      split at there'
      · exact .inr ⟨by omega, (Option.some.inj there').symm⟩
      · cases there'
  cases effect with
  | pairedStreams capacity number first second =>
      exact (made rfl there').imp_right fun born => .inr ⟨born.1, capacity, born.2⟩
  | @opened i side s there unfired accompanied =>
      exact (made rfl there').imp_right fun born => .inr ⟨born.1, s.capacity, born.2⟩
  | usedLate op fired =>
      exact .inl ⟨p', there', .refl p' fun side => Happening.silent_late _ op k side⟩
  | @used q op p p₁ answer there unfired done sane =>
      change (n.pipes.set q.pipe p₁)[k]? = some p' at there'
      refine .inl ?_
      by_cases own : q.pipe = k
      · subst own
        rw [List.getElem?_set_self (List.getElem?_eq_some_iff.1 there).1] at there'
        cases there'
        exact ⟨p, there, conveys_used rfl done sane⟩
      · rw [List.getElem?_set_ne own] at there'
        have apart : (Happening.used (.piped q) op answer).pipe? ≠ some k :=
          fun on => own (Option.some.inj on)
        exact ⟨p', there', .refl p' (Happening.silent_of_apart apart)⟩
  | released =>
      rw [h.plain.pipes_release, List.getElem?_mapIdx] at there'
      obtain ⟨p, there, rfl⟩ := Option.map_eq_some_iff.1 there'
      split
      · rename_i lost
        exact .inr (.inl ⟨p, there, rfl, rfl, lost.2⟩)
      · exact .inl ⟨p, there, .refl p fun _ => ⟨rfl, rfl⟩⟩
  | _ => exact .inl ⟨p', there', .refl p' fun _ => ⟨rfl, rfl⟩⟩

/-- In each direction, what was written is what was read and what the pipe holds. -/
structure Carries (n : Network) (l : List Happening) (k : Nat) (p : Pipe) : Prop where
  bytes : ∀ side, written k side l = read k side.other l ++ (p.lanes.get side).held
  within : ∀ side, (p.lanes.get side).held.length ≤ (p.lanes.get side).capacity
  ended : ∀ side, (p.lanes.get side).ended = true → p.released = true ∨ wasShut k side l = true
  released : p.released = true → ∃ side, ¬HasEnd n l k side

def Carried (n : Network) (l : List Happening) : Prop :=
  ∀ k p, n.pipes[k]? = some p → Carries n l k p

/-- An end that the program lost does not come back. -/
theorem Stocked.lost (h : Stocked n l) (allowed : State.allows ⟨n, l⟩ a = true)
    (effect : Effect (roots l) n a e n') {k : Nat} (within : k < n.pipes.length) {side : Half}
    (lost : ¬HasEnd n l k side) : ¬HasEnd n' (l ++ [e]) k side := by
  rintro ⟨x, has, own⟩
  obtain has | place := h.has_of_effect allowed effect has
  · exact lost ⟨x, has, own⟩
  · rw [Stream.pipe?_of_end? own] at place
    exact Nat.ne_of_lt within (Option.some.inj place)

/-- Nothing was written to, or read from, a pipe that is not there yet. -/
theorem Stocked.silent_beyond (h : Stocked n l) {k : Nat} (beyond : n.pipes.length ≤ k)
    (side : Half) : written k side l = [] ∧ read k side l = [] := by
  have apart (e : Happening) (he : e ∈ l) : e.pipe? ≠ some k :=
    fun on => Nat.not_lt.2 beyond (h.pipes e he k on)
  simp only [written, read, List.flatMap_eq_nil_iff]
  exact ⟨fun e he => (Happening.silent_of_apart (apart e he) side).1,
    fun e he => (Happening.silent_of_apart (apart e he) side).2⟩

theorem Carried.step (h : Carried n l) (stocked : Stocked n l)
    (allowed : State.allows ⟨n, l⟩ a = true) (effect : Effect (roots l) n a e n') :
    Carried n' (l ++ [e]) := by
  intro k p' there'
  obtain ⟨p, there, conveys⟩ | ⟨p, there, rfl, rfl, lost⟩ | ⟨rfl, capacity, rfl⟩ :=
    stocked.pipe_cases effect there'
  · have c := h k p there
    have within := (List.getElem?_eq_some_iff.1 there).1
    refine ⟨fun side => ?_, fun side => ?_, fun side ended => ?_, fun released => ?_⟩
    · rw [written_concat, read_concat, c.bytes, List.append_assoc, List.append_assoc,
        conveys.bytes]
    · rw [conveys.capacity]
      exact conveys.within side (c.within side)
    · rw [conveys.released, wasShut_concat, Bool.or_eq_true, ← or_assoc]
      exact (conveys.ended side ended).imp_left (c.ended side)
    · rw [conveys.released] at released
      obtain ⟨side, lost⟩ := c.released released
      exact ⟨side, stocked.lost allowed effect within lost⟩
  · have c := h k p there
    have within := (List.getElem?_eq_some_iff.1 there).1
    refine ⟨fun side => ?_, fun side => ?_, fun _ _ => .inl rfl, fun _ => ?_⟩
    · rw [written_concat, read_concat, p.get_release, c.bytes]
      exact (List.append_nil _).trans (congrArg (· ++ _) (List.append_nil _).symm)
    · rw [p.get_release]
      exact c.within side
    · obtain ⟨side, lost⟩ := lost
      exact ⟨side, stocked.lost allowed effect within lost⟩
  · have apart : e.pipe? ≠ some n.pipes.length := by
      rw [effect.pipe?_eq]
      exact fun on => Nat.lt_irrefl _ ((stocked.finds allowed).pipe_lt on)
    refine ⟨fun side => ?_, fun side => ?_, fun side => ?_, nofun⟩
    · rw [written_concat, (stocked.silent_beyond (Nat.le_refl _) side).1,
        (Happening.silent_of_apart apart side).1, read_concat,
        (stocked.silent_beyond (Nat.le_refl _) side.other).2,
        (Happening.silent_of_apart apart side.other).2, Pipe.get_empty]
      rfl
    · rw [Pipe.get_empty]
      exact Nat.zero_le _
    · rw [Pipe.get_empty]
      nofun

theorem carried_run (acts : List Act) :
    Carried (start.run acts).network (start.run acts).history :=
  run_induct (P := Carried) (fun _ _ there => nomatch there)
    (fun stocked h allowed effect => h.step stocked allowed effect) acts

end

end Paired

end TransportStack

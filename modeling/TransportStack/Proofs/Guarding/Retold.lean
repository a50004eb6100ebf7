import TransportStack.Proofs.Guarding.Trial

/-!
The steps of a trial of a guarded stream, told as moves of tasks that use it. What is done at the
other half of the pipe, past the guard or by its maker is a change of the world for them. The task
that the guard has in mind is the one that the watch of the trial has for the place of the guard.
-/

namespace TransportStack.Scenario

namespace GuardRun

open Guarding (Usage Look)

variable {u : Usage World} {s s' : GuardRun} {task : Nat} {op : ByteOp} {onPeer : Bool}

/-- A use of a guarded stream tells the state of a trial. -/
structure Tells (u : Usage World) (s : GuardRun) : Prop where
  world : u.world = s.world
  waiting : u.waiting = s.own
  numbered : ∀ w ∈ s.waiting, w.1 ≤ s.count
  once : (s.waiting.map (·.1)).Nodup
  earlier : ∀ l ∈ u.seen, l.task ≤ s.count
  /-- A task has one operation. -/
  steady : ∀ l ∈ u.seen, ∀ w ∈ s.waiting, w.1 = l.task → w.2 = (false, l.op)
  ended : ∀ e ∈ s.finished, e.1 ≤ s.count ∧ ∀ w ∈ s.waiting, w.1 ≠ e.1
  /-- What is kept for a task that uses the guarded stream is what a look has shown. -/
  shown : ∀ e ∈ s.finished, ∀ l ∈ u.seen, l.task = e.1 →
    ∃ l' ∈ u.seen, l'.task = e.1 ∧ l'.result = some e.2
  /-- The guard has nobody in mind but the task that moved bytes last, and has this one in mind as
  long as it waits. -/
  watched : ∀ t, (s.guardPlace, t) ∈ s.watch → u.minded = some t
  heeded : ∀ e ∈ u.waiting, u.minded = some e.1 → (s.guardPlace, e.1) ∈ s.watch

/-- A task that may start or resume an operation. -/
structure Free (u : Usage World) (s : GuardRun) (task : Nat) (onPeer : Bool) (op : ByteOp) :
    Prop where
  numbered : task ≤ s.count
  absent : ∀ w ∈ s.waiting, w.1 ≠ task
  unended : ∀ e ∈ s.finished, e.1 ≠ task
  steady : ∀ l ∈ u.seen, l.task = task → (onPeer, op) = (false, l.op)

theorem Tells.mem_waiting (h : Tells u s) {e : Nat × ByteOp} :
    e ∈ u.waiting ↔ (e.1, false, e.2) ∈ s.waiting := by
  rw [h.waiting, mem_own]

/-- What has ended is kept. -/
theorem Tells.keeps (h : Tells u s) (free : Free u s task onPeer op) {r : ByteResult}
    (shown : ∀ l ∈ u.seen, l.task = task → ∃ l' ∈ u.seen, l'.task = task ∧ l'.result = some r) :
    Tells u { s with finished := s.finished ++ [(task, r)] } :=
  { h with
    ended := List.forall_mem_append.2
      ⟨h.ended, List.forall_mem_singleton.2 ⟨free.numbered, free.absent⟩⟩
    shown := List.forall_mem_append.2 ⟨h.shown, List.forall_mem_singleton.2 shown⟩ }

/-- What has to wait is queued. -/
theorem Tells.queues (h : Tells u s) (free : Free u s task onPeer op) {ws : List (Nat × ByteOp)}
    (waiting : ws = own { s with waiting := s.waiting ++ [(task, onPeer, op)] })
    (heeded : onPeer = false → u.minded = some task → (s.guardPlace, task) ∈ s.watch) :
    Tells { u with waiting := ws } { s with waiting := s.waiting ++ [(task, onPeer, op)] } where
  world := h.world
  waiting := waiting
  numbered := List.forall_mem_append.2 ⟨h.numbered, List.forall_mem_singleton.2 free.numbered⟩
  once := by
    rw [List.map_append]
    refine List.nodup_append.2 ⟨h.once, List.nodup_singleton _, fun t among t' new => ?_⟩
    obtain ⟨e, waits, rfl⟩ := List.mem_map.1 among
    exact List.mem_singleton.1 new ▸ free.absent e waits
  earlier := h.earlier
  steady l there := List.forall_mem_append.2 ⟨h.steady l there,
    List.forall_mem_singleton.2 fun same => free.steady l there same.symm⟩
  ended e kept := ⟨(h.ended e kept).1, List.forall_mem_append.2 ⟨(h.ended e kept).2,
    List.forall_mem_singleton.2 (free.unended e kept).symm⟩⟩
  shown := h.shown
  watched := h.watched
  heeded e among keeps := by
    rw [waiting, mem_own] at among
    obtain among | new := List.mem_append.1 among
    · exact h.heeded e (h.mem_waiting.2 among) keeps
    · obtain ⟨rfl, rfl, -⟩ : e.1 = task ∧ false = onPeer ∧ e.2 = op := by simpa using new
      exact heeded rfl keeps

/-- A look at an operation on the guarded stream is noticed by the guard, if bytes are moved and the
signal has not fired. -/
theorem Tells.notices (h : Tells u s) (free : Free u s task false op) (r : Option ByteResult)
    (w : World) {watch : Watch Nat}
    (moving : (op.movesBytes && !s.isFired) = true → ∀ t, (s.guardPlace, t) ∈ watch → t = task)
    (still : (op.movesBytes && !s.isFired) = false →
      ∀ t, (s.guardPlace, t) ∈ watch ↔ (s.guardPlace, t) ∈ s.watch) :
    Tells ⟨w, u.waiting, u.seen ++ [⟨task, op, s.isFired, r⟩]⟩
      { s with inner := w.1, signals := w.2, watch := watch } := by
  have minded := Usage.minded_of_seen (u := u) (l := ⟨task, op, s.isFired, r⟩)
    (v := ⟨w, u.waiting, u.seen ++ [⟨task, op, s.isFired, r⟩]⟩) rfl
  refine { h with
    world := rfl, earlier := ?_, steady := ?_, shown := ?_, watched := ?_, heeded := ?_ }
  · exact List.forall_mem_append.2 ⟨h.earlier, List.forall_mem_singleton.2 free.numbered⟩
  · refine List.forall_mem_append.2 ⟨h.steady, List.forall_mem_singleton.2 fun e among same => ?_⟩
    exact absurd same (free.absent e among)
  · intro e kept
    refine List.forall_mem_append.2
      ⟨fun l there same => ?_, List.forall_mem_singleton.2 fun same => ?_⟩
    · obtain ⟨l', there, shown⟩ := h.shown e kept l there same
      exact ⟨l', List.mem_append_left _ there, shown⟩
    · exact absurd same.symm (free.unended e kept)
  · intro t noticed
    rw [minded]
    split
    · rename_i moves
      exact congrArg some (moving moves t noticed).symm
    · rename_i unmoved
      exact h.watched t ((still (Bool.eq_false_iff.2 unmoved) t).1 noticed)
  · intro e among keeps
    rw [minded] at keeps
    split at keeps
    · exact absurd (Option.some.inj keeps).symm (free.absent _ (h.mem_waiting.1 among))
    · rename_i unmoved
      exact (still (Bool.eq_false_iff.2 unmoved) e.1).2 (h.heeded e among keeps)

/-- An operation on the guarded stream is looked at. -/
theorem Tells.look (h : Tells u s) (free : Free u s task false op) :
    Tells (u.attempt (guarding s.token) s.guardedInside task op) (s.look task false op) := by
  have late : (guarding s.token).isFired u.world = s.isFired := by
    rw [h.world]
    rfl
  rw [Usage.attempt, late]
  rcases result : op.perform s.guardedInside u.world with ⟨r, w⟩
  have performed := perform_own s op (h.world ▸ result)
  have steady (l : Look) (there : l ∈ u.seen ++ [⟨task, op, s.isFired, r⟩]) (own : l.task = task) :
      (false, op) = (false, l.op) := by
    obtain old | new := List.mem_append.1 there
    · exact free.steady l old own
    · rw [List.mem_singleton.1 new]
  cases r with
  | some r =>
      rw [look_ended performed]
      have noticed : Tells ⟨w, u.waiting, u.seen ++ [⟨task, op, s.isFired, some r⟩]⟩
          { s with
            inner := w.1, signals := w.2
            watch := s.watch.clear (op.passed s.signals.isFired (s.way false)) } := by
        refine h.notices free (some r) w (fun moves t there => ?_) fun unmoved t => ?_
        · exact absurd (mem_passed_iff.2 (by simpa using moves)) (Watch.mem_clear.1 there).2
        · rw [Watch.mem_clear, mem_passed_iff]
          simpa using fun _ => unmoved
      exact noticed.keeps ⟨free.numbered, free.absent, free.unended, steady⟩ fun _ _ _ =>
        ⟨_, List.mem_append_right _ (List.mem_singleton.2 rfl), rfl, rfl⟩
  | none =>
      have unfired : s.isFired = false := by
        refine Bool.eq_false_iff.2 fun fired => ?_
        have ended := ByteStream.perform_guarded_of_fired (guarding s.token).toGuard inside op
          (late.trans fired)
        cases result.symm.trans ended
      rw [look_waiting performed]
      let way := { s with inner := w.1, signals := w.2 }.way false
      have place : s.guardPlace ∈ op.places way ↔ op.movesBytes = true := mem_places_iff
      have noticed : Tells ⟨w, u.waiting, u.seen ++ [⟨task, op, s.isFired, none⟩]⟩
          { s with inner := w.1, signals := w.2, watch := s.watch.come (op.places way) task } := by
        refine h.notices free none w (fun moves t there => ?_) fun unmoved t => ?_
        · have moved : op.movesBytes = true := (Bool.and_eq_true_iff.1 moves).1
          exact (Watch.mem_come.1 there).elim And.right fun old => absurd (place.2 moved) old.2
        · rw [unfired, Bool.not_false, Bool.and_true] at unmoved
          simp [Watch.mem_come, place, unmoved]
      refine noticed.queues ⟨free.numbered, free.absent, free.unended, steady⟩ ?_ fun _ keeps => ?_
      · simp [own, h.waiting]
      · obtain ⟨l, there, own, moves⟩ := Usage.exists_of_minded keeps
        rw [← (Prod.mk.inj (steady l there own)).2] at moves
        exact Watch.mem_come.2 (.inl ⟨place.2 moves, rfl⟩)

/-- An operation on the other half of the pipe is looked at. -/
theorem Tells.look_peer (h : Tells u s) (free : Free u s task true op) :
    ∃ i, Tells { u with world := (i, s.signals) } (s.look task true op) := by
  obtain ⟨r, i, performed⟩ := perform_peer s op
  have unused (l : Look) (there : l ∈ u.seen) (own : l.task = task) : False :=
    Bool.false_ne_true (Prod.mk.inj (free.steady l there own)).1.symm
  have rewatched (watch : Watch Nat)
      (same : ∀ t, (s.guardPlace, t) ∈ watch ↔ (s.guardPlace, t) ∈ s.watch) :
      Tells { u with world := (i, s.signals) } { s with inner := i, watch := watch } :=
    { h with
      world := rfl
      watched := fun t there => h.watched t ((same t).1 there)
      heeded := fun e among keeps => (same e.1).2 (h.heeded e among keeps) }
  refine ⟨i, ?_⟩
  cases r with
  | some r =>
      have kept := rewatched (s.watch.clear (op.passed s.signals.isFired (s.way true)))
        fun t => by cases op <;> simp [Watch.mem_clear, ByteOp.passed, way]
      rw [look_ended performed]
      exact kept.keeps ⟨free.numbered, free.absent, free.unended, free.steady⟩
        fun l there own => (unused l there own).elim
  | none =>
      let way := { s with inner := i }.way true
      have away : s.guardPlace ∉ op.places way := notMem_places_peer
      have kept := rewatched (s.watch.come (op.places way) task)
        fun t => by simp [Watch.mem_come, away]
      rw [look_waiting performed]
      refine kept.queues ⟨free.numbered, free.absent, free.unended, free.steady⟩ ?_
        fun same => Bool.noConfusion same
      simp [own, h.waiting]

/-- Something happens past the guard. -/
theorem Tells.elsewhere (h : Tells u s) (c : (guarding s.token).Change) :
    Tells (u.move (guarding s.token) s.guardedInside (.change c))
      { s with inner := (c.act s.world).1, signals := (c.act s.world).2 } :=
  { h with world := congrArg c.act h.world }

/-- A task that starts an operation has a new number. -/
theorem Tells.fresh (h : Tells u s) (onPeer : Bool) (op : ByteOp) :
    Tells u { s with count := s.count + 1 } ∧
      Free u { s with count := s.count + 1 } (s.count + 1) onPeer op := by
  refine ⟨{ h with
    numbered := fun w among => Nat.le_succ_of_le (h.numbered w among)
    earlier := fun l there => Nat.le_succ_of_le (h.earlier l there)
    ended := fun e kept => (h.ended e kept).imp_left Nat.le_succ_of_le }, Nat.le_refl _, ?_, ?_, ?_⟩
  · exact fun w among => Nat.ne_of_lt (Nat.lt_succ_of_le (h.numbered w among))
  · exact fun e kept => Nat.ne_of_lt (Nat.lt_succ_of_le (h.ended e kept).1)
  · exact fun l there own => absurd own (Nat.ne_of_lt (Nat.lt_succ_of_le (h.earlier l there)))

theorem Tells.roused (h : Tells u s) {w : Nat × Bool × ByteOp} (among : w ∈ s.waiting) :
    Tells (u.leave w.1) (s.roused w.1) ∧ Free (u.leave w.1) (s.roused w.1) w.1 w.2.1 w.2.2 := by
  have others {v : Nat × Bool × ByteOp} (hv : v ∈ (s.roused w.1).waiting) :
      v ∈ s.waiting ∧ v.1 ≠ w.1 := by
    simpa [GuardRun.roused] using hv
  refine ⟨{
    world := h.world
    waiting := ?_
    numbered := fun v hv => h.numbered v (others hv).1
    once := h.once.sublist (List.filter_sublist.map _)
    earlier := h.earlier
    steady := fun l there v hv => h.steady l there v (others hv).1
    ended := fun e kept => ⟨(h.ended e kept).1, fun v hv => (h.ended e kept).2 v (others hv).1⟩
    shown := h.shown
    watched := fun t there => h.watched t (Watch.mem_clear.1 there).1
    heeded := ?_ }, h.numbered w among, fun v hv => (others hv).2, ?_, ?_⟩
  · simp only [Usage.leave, h.waiting, own, GuardRun.roused, List.filter_filterMap,
      List.filterMap_filter]
    refine List.filterMap_congr fun v _ => ?_
    by_cases same : v.1 = w.1 <;> cases v.2.1 <;> simp [same]
  · intro e stays keeps
    obtain ⟨old, other⟩ := List.mem_filter.1 stays
    refine Watch.mem_clear.2 ⟨h.heeded e old keeps, fun news => ?_⟩
    have own := (h.watched w.1 (Watch.mem_news.1 news).1).symm.trans keeps
    simp [Option.some.inj own] at other
  · exact fun e kept => ((h.ended e kept).2 w among).symm
  · exact fun l there own => h.steady l there w among own.symm

/-- A state that the moves of tasks can lead to. -/
def Told (w : World) (token : Signal) (s : GuardRun) : Prop :=
  s.token = token ∧ ∃ moves, let g := guarding token
    Tells ((Usage.start w).run g (inside.guarded g.toGuard) moves) s

variable {w₀ : World} {token : Signal}

theorem Told.move (told : Told w₀ token s) (same : s'.token = s.token)
    (h : ∀ u : Usage World, Tells u s → u.Distinct →
      ∃ m, Tells (u.move (guarding s.token) s.guardedInside m) s') : Told w₀ token s' := by
  obtain ⟨rfl, moves, tells⟩ := told
  obtain ⟨m, next⟩ := h _ tells (Usage.distinct_run w₀ moves)
  refine ⟨same, moves ++ [m], ?_⟩
  simp only [Usage.run_concat]
  exact next

theorem Told.closed (told : Told w₀ token s) : Told w₀ token s.fire :=
  told.move rfl fun _ h _ => ⟨_, h.elsewhere (Guarding.closing _)⟩

/-- Something happens to the stream inside. -/
def withInner (f : GuardInner → GuardInner) (token : Signal) : (guarding token).Change where
  act w := (f w.1, w.2)
  keeps _ := id

theorem Told.withInner (told : Told w₀ token s) (f : GuardInner → GuardInner) :
    Told w₀ token { s with inner := f s.inner } :=
  told.move rfl fun _ h _ => ⟨_, h.elsewhere (GuardRun.withInner f _)⟩

theorem look_peer_move (h : Tells u s) (free : Free u s task true op) :
    ∃ m, Tells (u.move (guarding s.token) s.guardedInside m) (s.look task true op) := by
  obtain ⟨i, next⟩ := h.look_peer free
  refine ⟨.change (GuardRun.withInner (fun _ => i) s.token), ?_⟩
  have there : s.signals = u.world.2 := by rw [h.world]; rfl
  rwa [there] at next

/-- A task starts an operation. -/
theorem Told.starts (told : Told w₀ token s) (onPeer : Bool) (op : ByteOp) :
    Told w₀ token (look { s with count := s.count + 1 } (s.count + 1) onPeer op) := by
  refine told.move (token_look _ _ _ _) fun u h _ => ?_
  obtain ⟨h, free⟩ := h.fresh onPeer op
  cases onPeer with
  | true => exact look_peer_move h free
  | false =>
      refine ⟨.start (s.count + 1) op, ?_⟩
      have unknown : u.waiting.lookup (s.count + 1) = none := by
        rw [List.lookup_eq_none_iff]
        exact fun e among => bne_iff_ne.2 (free.absent _ (h.mem_waiting.1 among)).symm
      simp only [Usage.move, unknown]
      exact h.look free

theorem Tells.leave_peer (h : Tells u s) (among : (task, true, op) ∈ s.waiting) :
    u.leave task = u := by
  have apart : ∀ e ∈ u.waiting, (e.1 != task) = true := by
    refine fun e waits => bne_iff_ne.2 fun own => ?_
    have same := List.inj_on_of_nodup_map h.once (h.mem_waiting.1 waits) among own
    exact nomatch (Prod.mk.inj same).2
  rw [Usage.leave, List.filter_eq_self.2 apart]

theorem Told.retry (told : Told w₀ token s) {w : Nat × Bool × ByteOp} (among : w ∈ s.waiting) :
    Told w₀ token (s.retry w) := by
  obtain ⟨-, same⟩ | again := s.retry_cases w
  · rwa [same]
  · rw [again]
    refine told.move (token_look _ _ _ _) fun u h distinct => ?_
    obtain ⟨away, free⟩ := h.roused among
    obtain ⟨task, onPeer, op⟩ := w
    cases onPeer with
    | false =>
        refine ⟨.look task, ?_⟩
        have known : u.waiting.lookup task = some op :=
          Usage.lookup_of_mem distinct (e := (task, op)) (h.mem_waiting.2 among)
        simp only [Usage.move, known]
        exact away.look free
    | true =>
        rw [h.leave_peer among] at away free
        exact look_peer_move away free

theorem Told.foldl_retry (told : Told w₀ token s) {ws : List (Nat × Bool × ByteOp)}
    (waits : ∀ w ∈ ws, w ∈ s.waiting) (once : (ws.map (·.1)).Nodup) :
    Told w₀ token (ws.foldl GuardRun.retry s) := by
  induction ws generalizing s with
  | nil => exact told
  | cons w ws ih =>
      obtain ⟨apart, once⟩ := List.nodup_cons.1 once
      refine ih (told.retry (waits w List.mem_cons_self)) (fun v hv => ?_) once
      refine mem_retry (waits v (List.mem_cons_of_mem _ hv)) fun same => ?_
      exact apart (List.mem_map.2 ⟨v, hv, same⟩)

theorem Told.go (told : Told w₀ token s) (k : Nat) : Told w₀ token (settle.go k s) := by
  induction k generalizing s with
  | zero => exact told
  | succ k ih =>
      have ⟨_, _, tells⟩ := told
      exact ih (told.foldl_retry (fun _ => id) tells.once)

theorem Told.settle (told : Told w₀ token s) : Told w₀ token s.settle := told.go _

/-- A result has been asked for. -/
theorem Told.taken (told : Told w₀ token s) (p : Nat × ByteResult → Bool) :
    Told w₀ token { s with finished := s.finished.filter p } := by
  obtain ⟨same, moves, h⟩ := told
  exact ⟨same, moves, { h with
    ended := fun e kept => h.ended e (List.mem_filter.1 kept).1
    shown := fun e kept => h.shown e (List.mem_filter.1 kept).1 }⟩

theorem Told.step (told : Told w₀ token s) (step : GuardStep) :
    Told w₀ token (s.step step).2 := by
  cases step with
  | perform onPeer op =>
      have after := (told.starts onPeer op).settle
      simp only [GuardRun.step]
      split
      · rename_i taken
        rw [← (Prod.mk.inj taken).2]
        exact after.taken _
      · exact after
  | join task =>
      simp only [GuardRun.step]
      split
      · rename_i taken
        rw [← (Prod.mk.inj taken).2]
        exact told.taken _
      · exact told
  | close | cancel => exact told.closed.settle
  | innerWrite payload =>
      have after := (told.withInner fun i => ((GuardInner.bytes .first).write payload i).2).settle
      simp only [GuardRun.step]
      split <;> exact after
  | isPipe => exact told
  | dropPeer => exact (told.withInner GuardInner.dropPeer).settle

theorem told_start (inner : GuardInner) (closed : Bool) :
    let s := start inner closed
    Told s.world s.token s := by
  refine ⟨rfl, [], ?_⟩
  cases closed <;> constructor <;> simp [start, GuardRun.fire, own, Usage.start, Usage.run, world]

theorem told_after (inner : GuardInner) (closed : Bool) (steps : List GuardStep) :
    let s := start inner closed
    Told s.world s.token (s.after steps) := by
  intro s
  induction steps using List.reverseRecOn with
  | nil => exact told_start inner closed
  | append_singleton steps step ih =>
      rw [after, List.foldl_append]
      exact ih.step step

/-- In a trial, those who still wait on the guarded stream after its signal has fired are not the
one that the guard has in mind. -/
theorem told_and_called (inner : GuardInner) (closed : Bool) (steps : List GuardStep) :
    let s₀ := start inner closed
    let s := s₀.after steps
    let g := guarding s₀.token
    ∃ moves, let u := (Usage.start s₀.world).run g (GuardRun.inside.guarded g.toGuard) moves
      Tells u s ∧ (s.isFired = true → ∀ e ∈ u.waiting, u.minded ≠ some e.1) := by
  intro s₀ s g
  obtain ⟨-, moves, tells⟩ := told_after inner closed steps
  refine ⟨moves, tells, fun fired e waits minded => ?_⟩
  exact not_overdue_after inner closed steps (e.1, false, e.2)
    ⟨fired, tells.mem_waiting.1 waits, rfl, tells.heeded e waits minded⟩

end GuardRun

end TransportStack.Scenario

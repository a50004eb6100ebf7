import TransportStack.Proofs.Guarding.Usage
import TransportStack.Proofs.Signals
import TransportStack.Scenario.GuardRun

/-!
A trial of a guarded stream. What an operation changes, who is watched for after it, and that nobody
is overdue once all has settled: an operation that the guard has in mind when the signal has fired is
looked at again.
-/

namespace TransportStack.Scenario

namespace Watch

variable {τ : Type} {w : Watch τ} {ps : List Place} {task : τ} {e : Place × τ}

theorem mem_clear : e ∈ w.clear ps ↔ e ∈ w ∧ e.1 ∉ ps := by
  simp [clear]

theorem mem_come : e ∈ w.come ps task ↔ e.1 ∈ ps ∧ e.2 = task ∨ e ∈ w ∧ e.1 ∉ ps := by
  obtain ⟨p, t⟩ := e
  simp [come, mem_clear, eq_comm (a := task)]

theorem mem_news [BEq τ] [LawfulBEq τ] {hasNews : Place → Bool} {p : Place} :
    p ∈ w.news hasNews task ↔ (p, task) ∈ w ∧ hasNews p = true := by
  simp [news, and_assoc]

end Watch

namespace GuardRun

variable {s : GuardRun} {task : Nat} {op : ByteOp} {onPeer : Bool}

/-! ### Single operations -/

/-- The stream inside and the signals, which is all that operations on the guarded stream change. -/
abbrev World := GuardInner × Signals

def inside : ByteStream World := (GuardInner.bytes .first).within Prod.fst fun w i => (i, w.2)

def guarding (token : Signal) : Guarding World where
  isFired w := w.2.isFired token
  fire w := (w.1, w.2.fire token)
  isFired_fire _ := Signals.isFired_fire_self token

def world (s : GuardRun) : World := (s.inner, s.signals)

abbrev guardPlace (s : GuardRun) : Place := .guard s.token none

/-- The operations on the guarded stream that wait. -/
def own (s : GuardRun) : List (Nat × ByteOp) :=
  s.waiting.filterMap fun w => if w.2.1 then none else some (w.1, w.2.2)

theorem mem_own {e : Nat × ByteOp} : e ∈ s.own ↔ (e.1, false, e.2) ∈ s.waiting := by
  simp only [own, List.mem_filterMap, Option.ite_none_left_eq_some, Option.some.injEq]
  constructor
  · rintro ⟨⟨t, onPeer, op⟩, among, own, rfl⟩
    cases onPeer with
    | true => exact absurd rfl own
    | false => exact among
  · exact fun among => ⟨_, among, Bool.false_ne_true, rfl⟩

def guardedInside (s : GuardRun) : ByteStream World := inside.guarded (guarding s.token).toGuard

theorem perform_own (s : GuardRun) (op : ByteOp) {r : Option ByteResult} {w : World}
    (performed : op.perform s.guardedInside s.world = (r, w)) :
    perform false op s = (r, { s with inner := w.1, signals := w.2 }) := by
  cases fired : s.signals.isFired s.token with
  | true =>
      have outer := ByteStream.perform_guarded_of_fired (guarding s.token).toGuard inside op
        (s := s.world) fired
      obtain ⟨rfl, rfl⟩ := Prod.mk.inj (outer.symm.trans performed)
      exact ByteStream.perform_guarded_of_fired _ _ op fired
  | false =>
      have outer := ByteStream.perform_guarded_of_unfired (guarding s.token).toGuard inside op
        (s := s.world) fired
      obtain ⟨rfl, rfl⟩ := Prod.mk.inj (outer.symm.trans performed)
      refine (ByteStream.perform_guarded_of_unfired _ _ op fired).trans ?_
      simp only [inside, ByteStream.perform_within, world]
      by_cases fails : op.Fails (op.perform (GuardInner.bytes .first) s.inner).1
      · simp only [if_pos fails, guarding]
      · simp only [if_neg fails]

theorem perform_peer (s : GuardRun) (op : ByteOp) :
    ∃ r i, perform true op s = (r, { s with inner := i }) := by
  cases op <;> exact ⟨_, _, rfl⟩

theorem look_ended {r : ByteResult} {s' : GuardRun}
    (performed : perform onPeer op s = (some r, s')) :
    s.look task onPeer op =
      { s' with
        watch := s'.watch.clear (op.passed s.signals.isFired (s.way onPeer))
        finished := s'.finished ++ [(task, r)] } := by
  rw [look, performed]

theorem look_waiting {s' : GuardRun}
    (performed : perform onPeer op s = (none, s')) :
    s.look task onPeer op =
      { s' with
        watch := s'.watch.come (op.places (s'.way onPeer)) task
        waiting := s'.waiting ++ [(task, onPeer, op)] } := by
  rw [look, performed]

theorem signals_look {r : Option ByteResult} {s' : GuardRun}
    (performed : perform onPeer op s = (r, s')) : (s.look task onPeer op).signals = s'.signals := by
  cases r with
  | none => rw [look_waiting performed]
  | some r => rw [look_ended performed]

/-- An operation changes the stream inside and the signals, and nothing else. -/
theorem exists_perform (s : GuardRun) (onPeer : Bool) (op : ByteOp) :
    ∃ (r : Option ByteResult) (w : World),
      perform onPeer op s = (r, { s with inner := w.1, signals := w.2 }) := by
  cases onPeer with
  | false => exact ⟨_, _, perform_own s op rfl⟩
  | true =>
      obtain ⟨r, i, performed⟩ := perform_peer s op
      exact ⟨r, (i, s.signals), performed⟩

theorem token_look (s : GuardRun) (task : Nat) (onPeer : Bool) (op : ByteOp) :
    (s.look task onPeer op).token = s.token := by
  obtain ⟨_ | r, w, performed⟩ := s.exists_perform onPeer op
  · rw [look_waiting performed]
  · rw [look_ended performed]

theorem waiting_look (s : GuardRun) (task : Nat) (onPeer : Bool) (op : ByteOp) :
    s.waiting ⊆ (s.look task onPeer op).waiting := by
  obtain ⟨_ | r, w, performed⟩ := s.exists_perform onPeer op
  · rw [look_waiting performed]
    exact List.subset_append_left _ _
  · rw [look_ended performed]
    exact List.Subset.refl _

theorem mem_passed_iff : s.guardPlace ∈ op.passed s.signals.isFired (s.way false) ↔
    op.movesBytes = true ∧ s.isFired = false := by
  cases op <;> simp [ByteOp.passed, way, ByteOp.movesBytes, Place.hasNews, isFired,
    List.takeWhile_cons]

theorem mem_places_iff : s.guardPlace ∈ op.places (s.way false) ↔ op.movesBytes = true := by
  cases op <;> simp [ByteOp.places, way, ByteOp.movesBytes]

theorem notMem_places_peer : s.guardPlace ∉ op.places (s.way true) := by
  cases op <;> simp [ByteOp.places, way]

theorem guardPlace_look (s : GuardRun) (task : Nat) (onPeer : Bool) (op : ByteOp) :
    (s.look task onPeer op).guardPlace = s.guardPlace := by
  rw [guardPlace, token_look]

/-- The state in which an operation that waits is looked at again. -/
def roused (s : GuardRun) (task : Nat) : GuardRun :=
  { s with
    watch := s.watch.clear (s.watch.news s.hasNews task)
    waiting := s.waiting.filter fun v => v.1 != task }

/-- A task is only looked at again if there is news for it. -/
theorem retry_cases (s : GuardRun) (w : Nat × Bool × ByteOp) :
    s.watch.news s.hasNews w.1 = [] ∧ s.retry w = s ∨
      s.retry w = (s.roused w.1).look w.1 w.2.1 w.2.2 := by
  unfold GuardRun.retry
  split
  · rename_i quiet
    exact .inl ⟨quiet, rfl⟩
  · exact .inr rfl

theorem mem_retry {v w : Nat × Bool × ByteOp} (waits : v ∈ s.waiting) (other : v.1 ≠ w.1) :
    v ∈ (s.retry w).waiting := by
  obtain ⟨-, same⟩ | again := s.retry_cases w
  · rwa [same]
  · rw [again]
    exact waiting_look _ _ _ _ (List.mem_filter.2 ⟨waits, bne_iff_ne.2 other⟩)

/-- The state of a trial after some steps. -/
def after (s : GuardRun) (steps : List GuardStep) : GuardRun :=
  steps.foldl (fun s step => (s.step step).2) s

/-! ### Nobody is overdue -/

variable {v : Nat × Bool × ByteOp}

/-- An operation that the guard has to call now that the signal has fired. -/
structure Overdue (s : GuardRun) (v : Nat × Bool × ByteOp) : Prop where
  fired : s.isFired = true
  waits : v ∈ s.waiting
  own : v.2.1 = false
  minded : (s.guardPlace, v.1) ∈ s.watch

theorem overdue_of_look_peer (overdue : (s.look task true op).Overdue v) : s.Overdue v := by
  obtain ⟨fired, waits, own, minded⟩ := overdue
  rw [guardPlace_look] at minded
  obtain ⟨_ | r, i, performed⟩ := perform_peer s op
  · rw [look_waiting performed] at fired waits minded
    refine ⟨fired, ?_, own, ?_⟩
    · obtain old | new := List.mem_append.1 waits
      · exact old
      · rw [List.mem_singleton.1 new] at own
        cases own
    · obtain ⟨place, -⟩ | ⟨old, -⟩ := Watch.mem_come.1 minded
      · exact absurd place notMem_places_peer
      · exact old
  · rw [look_ended performed] at fired waits minded
    exact ⟨fired, waits, own, (Watch.mem_clear.1 minded).1⟩

/-- An operation on the guarded stream ends if the signal has fired. If it fires the signal itself,
it has failed and is the one that the guard has in mind. -/
theorem overdue_of_look_own (overdue : (s.look task false op).Overdue v) : s.Overdue v := by
  obtain ⟨fired, waits, own, minded⟩ := overdue
  rw [guardPlace_look] at minded
  rcases result : op.perform s.guardedInside s.world with ⟨r, w⟩
  have performed := perform_own s op result
  by_cases before : s.isFired = true
  · have ended := ByteStream.perform_guarded_of_fired (guarding s.token).toGuard inside op
      (s := s.world) before
    obtain ⟨rfl, rfl⟩ := Prod.mk.inj (result.symm.trans ended)
    rw [look_ended performed] at waits minded
    exact ⟨before, waits, own, (Watch.mem_clear.1 minded).1⟩
  · have unfired : s.isFired = false := Bool.eq_false_iff.2 before
    have outer := ByteStream.perform_guarded_of_unfired (guarding s.token).toGuard inside op
      (s := s.world) unfired
    obtain ⟨rfl, rfl⟩ := Prod.mk.inj (result.symm.trans outer)
    by_cases fails : op.Fails (op.perform inside s.world).1
    · obtain ⟨e, failed⟩ := ByteOp.exists_of_fails fails
      rw [failed] at performed
      rw [look_ended performed] at minded
      have passed := mem_passed_iff.2 ⟨ByteOp.movesBytes_of_fails fails, unfired⟩
      exact absurd passed (Watch.mem_clear.1 minded).2
    · rw [if_neg fails, inside, ByteStream.perform_within] at performed
      rw [isFired, signals_look performed, token_look] at fired
      exact absurd fired before

theorem overdue_of_look (overdue : (s.look task onPeer op).Overdue v) : s.Overdue v := by
  cases onPeer with
  | true => exact overdue_of_look_peer overdue
  | false => exact overdue_of_look_own overdue

theorem overdue_of_roused (overdue : (s.roused task).Overdue v) :
    s.Overdue v ∧ v.1 ≠ task := by
  obtain ⟨fired, waits, own, minded⟩ := overdue
  obtain ⟨waits, other⟩ := List.mem_filter.1 waits
  exact ⟨⟨fired, waits, own, (Watch.mem_clear.1 minded).1⟩, bne_iff_ne.1 other⟩

theorem overdue_of_retry {w : Nat × Bool × ByteOp} (overdue : (s.retry w).Overdue v) :
    s.Overdue v ∧ v ≠ w := by
  obtain ⟨quiet, same⟩ | again := s.retry_cases w
  · rw [same] at overdue
    refine ⟨overdue, ?_⟩
    rintro rfl
    have news : s.guardPlace ∈ s.watch.news s.hasNews v.1 :=
      Watch.mem_news.2 ⟨overdue.minded, overdue.fired⟩
    rw [quiet] at news
    cases news
  · rw [again] at overdue
    obtain ⟨overdue, other⟩ := overdue_of_roused (overdue_of_look overdue)
    exact ⟨overdue, fun same => other (congrArg Prod.fst same)⟩

theorem overdue_of_foldl (ws : List (Nat × Bool × ByteOp))
    (overdue : (ws.foldl retry s).Overdue v) : s.Overdue v ∧ v ∉ ws := by
  induction ws generalizing s with
  | nil => exact ⟨overdue, List.not_mem_nil⟩
  | cons w ws ih =>
      obtain ⟨overdue, later⟩ := ih overdue
      obtain ⟨overdue, other⟩ := overdue_of_retry overdue
      exact ⟨overdue, List.not_mem_cons_of_ne_of_not_mem other later⟩

theorem overdue_of_go (k : Nat) (overdue : (settle.go k s).Overdue v) :
    s.Overdue v := by
  induction k generalizing s with
  | zero => exact overdue
  | succ k ih => exact (overdue_of_foldl _ (ih overdue)).1

/-- When nothing more happens by itself, the guard has called whom it had to call. -/
theorem not_overdue_settle (s : GuardRun) (v : Nat × Bool × ByteOp) : ¬s.settle.Overdue v :=
  fun overdue =>
    have ⟨before, others⟩ := overdue_of_foldl _ (overdue_of_go _ overdue)
    others before.waits

theorem overdue_of_step (step : GuardStep)
    (overdue : (s.step step).2.Overdue v) : s.Overdue v := by
  have never {s : GuardRun} (h : s.settle.Overdue v) {p : Prop} : p :=
    (not_overdue_settle s v h).elim
  cases step with
  | perform onPeer op =>
      simp only [GuardRun.step] at overdue
      split at overdue
      · rename_i taken
        exact never ⟨overdue.fired, overdue.waits, overdue.own, overdue.minded⟩
      · exact never overdue
  | join task =>
      simp only [GuardRun.step] at overdue
      split at overdue
      · exact ⟨overdue.fired, overdue.waits, overdue.own, overdue.minded⟩
      · exact overdue
  | close | cancel | dropPeer => exact never overdue
  | innerWrite payload =>
      simp only [GuardRun.step] at overdue
      split at overdue <;> exact never overdue
  | isPipe => exact overdue

theorem not_overdue_after (inner : GuardInner) (closed : Bool) (steps : List GuardStep)
    (v : Nat × Bool × ByteOp) : ¬((start inner closed).after steps).Overdue v := by
  induction steps using List.reverseRecOn with
  | nil =>
      rintro ⟨-, waits, -, -⟩
      cases closed <;> cases waits
  | append_singleton steps step ih =>
      rw [after, List.foldl_append]
      exact fun overdue => ih (overdue_of_step step overdue)

end GuardRun

end TransportStack.Scenario

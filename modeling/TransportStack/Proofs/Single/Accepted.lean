import TransportStack.Proofs.Single.Causes
import TransportStack.Proofs.Single.Dialing

/-!
The life of a socket for the one stream of an accepted connection. One call takes the stream, unless
the socket is closed before that; every other call waits until the socket is closed, and then fails.
The socket closes with its stream and with the connection. If it still has the connection when it is
closed, it closes the connection.
-/

namespace TransportStack

open Network

namespace Single

variable {past : List Happening} {n n' : Network}

/-- The life of an accepted socket, with its signal and its connection. -/
structure AcceptedLife (past : List Happening) (n : Network) (i : Nat) (g : Signal) (x : Stream) :
    Prop where
  /-- At most one call has ever returned a stream. -/
  once : returned i past = [] ∨ returned i past = [.single x g none]
  /-- A look of a call at an open socket whose stream nobody has got. -/
  first : n.isFired g = false → returned i past = [] →
    openStream (.accepted i) n = (.done (.ok (.single x g none)), afterHandOut n i g x)
  /-- All other looks at an open socket. -/
  waits : n.isFired g = false → returned i past ≠ [] → openStream (.accepted i) n = (.pending, n)
  /-- A look at a closed socket, be it the first one of a call or that of a call that has waited. -/
  refuses : n.isFired g = true → openStream (.accepted i) n = (.failed .closed, n)
  accepts : acceptStream (.accepted i) n = openStream (.accepted i) n
  closed_iff : n.isFired g = true ↔ .closed (.accepted i) g ∈ past ∨
    (∃ t ∈ returned i past, ∃ e ∈ past, e.Ends t) ∨ n.isFired x.signal = true
  /-- After the socket was closed no stream is handed out, and if none was before, then the
  connection is closed. -/
  closing : ∀ later earlier, past = later ++ .closed (.accepted i) g :: earlier →
    returned i later = [] ∧ (returned i earlier = [] → ∀ s ∈ x.signals, n.isFired s = true)

theorem returned_cons (i : Nat) (e : Happening) (past : List Happening) :
    returned i (e :: past) = (e.returned? i).toList ++ returned i past := by
  rw [returned, List.filterMap_cons]
  cases e.returned? i <;> rfl

theorem Happening.takes_of_returned {i : Nat} {e : Happening} {t : Stream}
    (returns : e.returned? i = some t) : e.takes i = true := by
  cases e with
  | looked j answer =>
      obtain _ | (_ | t') := answer
      · cases returns
      · cases returns
      · simp only [returned?, Option.ite_none_right_eq_some] at returns
        exact beq_iff_eq.2 returns.1
  | _ => cases returns

theorem returned_of_untaken {i : Nat} (untaken : past.any (Happening.takes i) = false) :
    returned i past = [] := by
  rw [returned, List.filterMap_eq_nil_iff]
  intro e he
  rw [Option.eq_none_iff_forall_ne_some]
  intro t returns
  have none_takes := List.any_eq_false.1 untaken e he
  exact none_takes (Happening.takes_of_returned returns)

namespace Sound

variable (sound : Sound past n) {i : Nat} {g : Signal} {x : Stream}
  (presented : .presented i g x ∈ past)

include sound

theorem untaken_of_step {e : Happening} {t : Stream} (step : Step past n e n')
    (returns : e.returned? i = some t) : past.any (Happening.takes i) = false := by
  cases step with
  | @look j g x answer _ presented looked =>
      obtain _ | (_ | t') := answer
      · cases returns
      · cases returns
      · obtain ⟨rfl, -⟩ := Option.ite_none_right_eq_some.1 returns
        cases fired : n.isFired g with
        | true => cases (sound.openStream_closed presented fired).symm.trans looked
        | false =>
            cases taken : past.any (Happening.takes j) with
            | true => cases (sound.openStream_spent presented fired taken).symm.trans looked
            | false => rfl
  | _ => cases returns

include presented

theorem taken_iff : past.any (Happening.takes i) = true ↔
    returned i past ≠ [] ∨ .closed (.accepted i) g ∈ past := by
  rw [List.any_eq_true]
  constructor
  · rintro ⟨e, he, takes⟩
    cases e with
    | looked j answer =>
        obtain _ | (_ | t) := answer
        · cases takes
        · cases takes
        · obtain rfl := beq_iff_eq.1 takes
          exact .inl (List.ne_nil_of_mem (mem_returned.2 he))
    | closed s h =>
        obtain rfl := beq_iff_eq.1 takes
        obtain ⟨j, q, same, -⟩ | ⟨j, y, same, presented'⟩ := sound.told.grounded _ he
        · cases same
        · cases same
          obtain ⟨rfl, -⟩ := sound.presented_unique presented presented'
          exact .inr he
    | _ => cases takes
  · rintro (some_returned | closed)
    · obtain ⟨t, ht⟩ := List.exists_mem_of_ne_nil _ some_returned
      exact ⟨_, mem_returned.1 ht, beq_self_eq_true i⟩
    · exact ⟨_, closed, beq_self_eq_true _⟩

end Sound

theorem Reached.single_use (reached : Reached past n) (i : Nat) :
    past.Pairwise fun e e' => (e.returned? i).isSome = true → e'.takes i = false := by
  induction reached with
  | start => exact .nil
  | @step past n n' e reached step ih =>
      refine .cons (fun e' he' returns => ?_) ih
      obtain ⟨t, ht⟩ := Option.isSome_iff_exists.1 returns
      exact Bool.eq_false_iff.2
        (List.any_eq_false.1 (reached.sound.untaken_of_step step ht) e' he')

theorem Reached.length_returned (reached : Reached past n) (i : Nat) :
    (returned i past).length ≤ 1 := by
  induction reached with
  | start => exact Nat.zero_le _
  | @step past n n' e reached step ih =>
      rw [returned_cons]
      cases returns : e.returned? i with
      | none => exact ih
      | some t =>
          rw [returned_of_untaken (reached.sound.untaken_of_step step returns)]
          exact Nat.le_refl _

/-- A socket that is closed before anybody got its stream has closed its connection. -/
theorem Reached.closes_connection (reached : Reached past n) {i : Nat} {g : Signal} {x : Stream}
    (presented : .presented i g x ∈ past) (closed : .closed (.accepted i) g ∈ past)
    (none_returned : returned i past = []) : ∀ s ∈ x.signals, n.isFired s = true := by
  induction reached with
  | start => cases closed
  | @step past n n' e reached step ih =>
      have sound := reached.sound
      obtain ⟨sound', more⟩ := sound.step step
      rw [returned_cons, List.append_eq_nil_iff] at none_returned
      by_cases before : .closed (.accepted i) g ∈ past
      · obtain ⟨j, q, same, -⟩ | ⟨j, y, same, presented'⟩ := sound.told.grounded _ before
        · cases same
        · cases same
          obtain ⟨-, rfl⟩ :=
            sound'.presented_unique presented (List.mem_cons_of_mem _ presented')
          have fired := ih presented' before none_returned.2
          exact fun s hs => isFired_mono more (fired s hs)
      · obtain rfl := ((List.mem_cons.1 closed).resolve_right before).symm
        cases step with
        | closeAccepted presented' =>
            obtain ⟨-, rfl⟩ :=
              sound'.presented_unique presented (List.mem_cons_of_mem _ presented')
            obtain ⟨m, eq, -, -, all⟩ := sound.closeSocket_accepted presented'
            have untaken : ¬past.any (Happening.takes i) = true := fun taken =>
              ((sound.taken_iff presented').1 taken).elim (fun h => h none_returned.2) before
            rw [if_neg untaken] at all
            rw [eq]
            exact all

/-- A socket for the one stream of an accepted connection, after any history. -/
theorem accepted_socket_life (reached : Reached past n) {i : Nat} {g : Signal} {x : Stream}
    (presented : .presented i g x ∈ past) : AcceptedLife past n i g x := by
  have sound := reached.sound
  have returns {t : Stream} (ht : t ∈ returned i past) : t = .single x g none := by
    obtain ⟨g', y, presented', rfl⟩ := sound.told.grounded _ (mem_returned.1 ht)
    obtain ⟨rfl, rfl⟩ := sound.presented_unique presented presented'
    rfl
  have closed_iff := sound.isFired_presented presented
  exact {
    once := by
      have short := reached.length_returned i
      cases got : returned i past with
      | nil => exact .inl rfl
      | cons t ts =>
          rw [got] at short
          obtain rfl := List.eq_nil_of_length_eq_zero (Nat.le_zero.1 (Nat.le_of_succ_le_succ short))
          have there : t ∈ returned i past := by
            rw [got]
            exact List.mem_singleton_self t
          rw [returns there]
          exact .inr rfl
    first := fun unfired none_returned => by
      refine sound.openStream_first presented unfired (Bool.eq_false_iff.2 fun taken => ?_)
      obtain some_returned | closed := (sound.taken_iff presented).1 taken
      · exact some_returned none_returned
      · rw [closed_iff.2 (.inl closed)] at unfired
        cases unfired
    waits := fun unfired some_returned =>
      sound.openStream_spent presented unfired
        ((sound.taken_iff presented).2 (.inl some_returned))
    refuses := sound.openStream_closed presented
    accepts := rfl
    closed_iff := closed_iff
    closing := by
      rintro later earlier rfl
      have apart := (List.pairwise_append.1 (reached.single_use i)).2.2
      have none_later : returned i later = [] := by
        rw [returned, List.filterMap_eq_nil_iff]
        intro e he
        rw [← Option.not_isSome_iff_eq_none]
        intro returns
        have kept := apart e he _ List.mem_cons_self returns
        simp [Happening.takes] at kept
      refine ⟨none_later, fun none_earlier => ?_⟩
      refine reached.closes_connection presented ?_ ?_
      · exact List.mem_append_right _ List.mem_cons_self
      · rw [returned, List.filterMap_append, List.append_eq_nil_iff]
        exact ⟨none_later, none_earlier⟩ }

/-- The accepting end of a connection within the program. One call gets its stream and another one
waits; then the stream is closed, and the call that has waited fails. -/
theorem accepted_socket_life_ended :
    let g : Signal := ⟨2, incoming.signal.lineage⟩
    let t : Stream := .single incoming g none
    ∃ n₀, acceptOnStreamListener (.memory 0) (dial toHere reachable).2 = (.ready incoming, n₀) ∧
      ∃ n, Reached [.closedStream t, .looked 0 .pending, .looked 0 (.ready t),
          .presented 0 g incoming] n ∧ openStream (.accepted 0) n = (.failed .closed, n) := by
  intro g t
  let n₀ : Network := (acceptOnStreamListener (.memory 0) (dial toHere reachable).2).2
  refine ⟨n₀, rfl, ?_⟩
  have start : Reached [] n₀ := by
    refine .start ⟨?_, ?_, ?_⟩ <;> exact fun _ h => absurd h List.not_mem_nil
  have outside : incoming.IsOutside (own []) n₀ := by
    intro s hs k hk
    rw [List.mem_singleton.1 hs] at hk
    rw [List.mem_singleton.1 hk]
    exact ⟨Nat.lt_succ_self 1, List.not_mem_nil⟩
  have presented : Reached [.presented 0 g incoming] (present incoming n₀).2 :=
    .step start (.presented outside)
  have first := (accepted_socket_life presented List.mem_cons_self).first rfl rfl
  have taken := Reached.step presented (.look List.mem_cons_self first)
  have there : .presented 0 g incoming ∈
      [Happening.looked 0 (.ready t), .presented 0 g incoming] :=
    List.mem_cons_of_mem _ List.mem_cons_self
  have waits := (accepted_socket_life taken there).waits rfl (List.cons_ne_nil _ _)
  have waited := Reached.step taken (.look there waits)
  have ended := Reached.step waited (.closeStream List.mem_cons_self)
  have life := accepted_socket_life ended
    (List.mem_cons_of_mem _ (List.mem_cons_of_mem _ there))
  refine ⟨_, ended, life.refuses (life.closed_iff.2 (.inr (.inl ⟨t, mem_returned.2 ?_,
    _, List.mem_cons_self, rfl⟩)))⟩
  exact List.mem_cons_of_mem _ (List.mem_cons_of_mem _ List.mem_cons_self)

end Single

end TransportStack

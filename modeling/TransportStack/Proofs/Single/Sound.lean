import TransportStack.Proofs.Single.Tally

/-!
Every step of sockets without multiplexing keeps the cells and the signals as the history tells, and
takes no firing back.
-/

namespace TransportStack

open Network
open Scenario (ByteOp ByteResult)

namespace Single

variable {past : List Happening} {n n' : Network} {e : Happening}

/-- The connection that an accepted socket still has. -/
def left? (i : Nat) (x : Stream) (past : List Happening) : Option Stream :=
  if past.any (Happening.takes i) then none else some x

theorem closeStream_withAccepted (x : Stream) (n : Network) (sockets : List AcceptedSocket) :
    closeStream x { n with accepted := sockets } =
      { closeStream x n with accepted := sockets } := by
  induction x generalizing n with
  | piped _ | recorded _ _ _ => rfl
  | single inner signal socket? ih => exact ih (n.fire signal)

/-- A network in which the sockets and streams are as a history tells. -/
structure Sound (past : List Happening) (n : Network) : Prop where
  told : Told past
  tallied : Tallied past n
  dialed : ∀ i g q, .made i g q ∈ past → n.dialed[i]? = some ⟨q, g, remote? i past⟩
  accepted : ∀ i g x, .presented i g x ∈ past →
    n.accepted[i]? = some ⟨left? i x past, g, x.localAddress, x.remoteAddress⟩
  followed : ∀ t, .followed t ∈ past → n.isFired t.connection.signal = true

theorem remote?_cons (i : Nat) (e : Happening) (past : List Happening) :
    remote? i (e :: past) = (e.remote? i).or (remote? i past) := by
  rw [remote?, List.findSome?_cons]
  cases e.remote? i <;> rfl

theorem left?_cons (i : Nat) (x : Stream) (e : Happening) (past : List Happening) :
    left? i x (e :: past) = if e.takes i then none else left? i x past := by
  rw [left?, left?, List.any_cons]
  cases e.takes i <;> rfl

theorem withSocket_cell (n : Network) (q : Producer) :
    (n.withSocket q).dialed[n.dialed.length]? = some ⟨q, n.nextSignal [], none⟩ :=
  List.getElem?_concat_length

theorem present_cell (x : Stream) (n : Network) :
    (present x n).2.accepted[n.accepted.length]? =
      some ⟨some x, n.nextSignal x.signal.lineage, x.localAddress, x.remoteAddress⟩ :=
  List.getElem?_concat_length

theorem own_made {i : Nat} {g : Signal} {q : Producer} (made : .made i g q ∈ past) :
    g.number ∈ own past :=
  mem_own.2 ⟨_, made, List.mem_singleton_self _⟩

theorem own_presented {i : Nat} {g : Signal} {x : Stream} (presented : .presented i g x ∈ past) :
    g.number ∈ own past :=
  mem_own.2 ⟨_, presented, List.mem_singleton_self _⟩

/-- The signal that is made next has the only number that is given out. -/
theorem number_next (ancestors : List Nat) : ∀ k ∈ [(n.nextSignal ancestors).number],
    n.signals.count ≤ k ∧ k < n.signals.count + 1 := by
  intro k hk
  rw [List.mem_singleton.1 hk]
  exact ⟨Nat.le_refl _, Nat.lt_succ_self _⟩

namespace Sound

variable (sound : Sound past n)

include sound

theorem keeps_refl {cause : Signal → Prop} : Keeps (own past) cause n n where
  numbered := sound.tallied.numbered
  count := Nat.le_refl _
  fired := List.Subset.refl _
  causes _ hf _ := .inl hf
  dialed _ _ hs _ := hs
  accepted _ _ hs _ := hs
  links _ _ := Iff.rfl
  demuxers := sound.tallied.demuxers

/-- What fires only signals that were made keeps the rest. -/
theorem keeps_of_fires {cause cause' : Signal → Prop} (fires : Network.Fires cause n n')
    (made : ∀ f, cause f → f.number < n.signals.count)
    (causes : ∀ f, cause f → f.number ∈ own past → cause' f) : Keeps (own past) cause' n n' where
  numbered := {
    fired := fun f hf => by
      rw [fires.count]
      obtain old | cause := fires.causes f hf
      · exact sound.tallied.numbered.fired f old
      · exact made f cause
    links := by
      rw [fires.count, fires.links]
      exact sound.tallied.numbered.links
    demuxers := by
      rw [fires.count, fires.demuxers]
      exact sound.tallied.numbered.demuxers }
  count := Nat.le_of_eq fires.count.symm
  fired := fires.fired
  causes f hf owned := (fires.causes f hf).imp_right fun cause => causes f cause owned
  dialed i s hs _ := by rwa [fires.dialed]
  accepted i s hs _ := by rwa [fires.accepted]
  links l _ := by rw [fires.links]
  demuxers := by
    rw [fires.demuxers]
    exact sound.tallied.demuxers

/-- Something that makes nothing, hands nothing out and leaves the sockets where they are. -/
theorem keeps (grounded : e.IsGrounded past) (keeps : Keeps (own past) e.Fires n n')
    (fires : ∀ g, e.Fires g → n'.isFired g = true) (silent : e.IsSilent)
    (takes : ∀ i, e.takes i = false)
    (following : ∀ t, e = .followed t → n'.isFired t.connection.signal = true) :
    Sound (e :: past) n' where
  told := sound.told.cons grounded (by rw [silent.owns]; exact fun _ h => absurd h List.not_mem_nil)
  tallied := sound.tallied.keeps keeps fires silent
  dialed i g q made := by
    obtain rfl | old := List.mem_cons.1 made
    · cases silent.owns
    · rw [remote?_cons, silent.remote, Option.none_or]
      exact keeps.dialed i _ (sound.dialed i g q old) (own_made old)
  accepted i g x presented := by
    obtain rfl | old := List.mem_cons.1 presented
    · cases silent.owns
    · rw [left?_cons, takes, if_neg Bool.false_ne_true]
      exact keeps.accepted i _ (sound.accepted i g x old) (own_presented old)
  followed t ht := by
    obtain rfl | old := List.mem_cons.1 ht
    · exact following t rfl
    · exact isFired_mono keeps.fired (sound.followed t old)

theorem made_unique {i : Nat} {g g' : Signal} {q q' : Producer} (made : .made i g q ∈ past)
    (made' : .made i g' q' ∈ past) : g = g' ∧ q = q' := by
  have same := (sound.dialed i g q made).symm.trans (sound.dialed i g' q' made')
  simp only [Option.some.injEq, DialedSocket.mk.injEq] at same
  exact ⟨same.2.1, same.1⟩

theorem presented_unique {i : Nat} {g g' : Signal} {x y : Stream}
    (presented : .presented i g x ∈ past) (presented' : .presented i g' y ∈ past) :
    g = g' ∧ x = y := by
  have same := (sound.accepted i g x presented).symm.trans (sound.accepted i g' y presented')
  simp only [Option.some.injEq, AcceptedSocket.mk.injEq] at same
  obtain ⟨-, rfl, -⟩ := same
  cases sound.told.owner _ presented _ presented' g.number (List.mem_singleton_self _)
    (List.mem_singleton_self _)
  exact ⟨rfl, rfl⟩

/-- Something that leaves the network as it is. -/
theorem idle (grounded : e.IsGrounded past) (silent : e.IsSilent) (takes : ∀ i, e.takes i = false)
    (quiet : e.canFire = false) : Sound (e :: past) n := by
  refine sound.keeps grounded sound.keeps_refl (fun g h => ?_) silent takes ?_
  · exact absurd h (Happening.not_fires quiet g)
  · rintro t rfl
    cases quiet

/-- The signal that is made next has a number of its own. -/
theorem fresh_next (ancestors : List Nat) :
    ∀ k ∈ [(n.nextSignal ancestors).number], k ∉ own past := by
  intro k hk owned
  rw [List.mem_singleton.1 hk] at owned
  exact Nat.lt_irrefl _ (sound.tallied.made _ owned)

/-- No stream has arrived at a place where no socket was made. -/
theorem remote?_length : remote? n.dialed.length past = none := by
  rw [remote?, List.findSome?_eq_none_iff]
  intro a ha
  have grounded := sound.told.grounded a ha
  cases a with
  | arrived i result =>
      cases result with
      | error _ => rfl
      | ok t =>
          obtain ⟨⟨g, q, made, -⟩, -⟩ := grounded
          have less := (List.getElem?_eq_some_iff.1 (sound.dialed i g q made)).1
          exact if_neg (Nat.ne_of_lt less)
  | _ => rfl

/-- Nothing was taken from a place where no connection was presented. -/
theorem left?_length (x : Stream) : left? n.accepted.length x past = some x := by
  have place_lt {i : Nat} {g : Signal} {x : Stream} (presented : .presented i g x ∈ past) :
      i ≠ n.accepted.length :=
    Nat.ne_of_lt (List.getElem?_eq_some_iff.1 (sound.accepted i g x presented)).1
  rw [left?, if_neg]
  rw [Bool.not_eq_true, List.any_eq_false]
  intro a ha
  rw [Bool.not_eq_true]
  have grounded := sound.told.grounded a ha
  cases a with
  | looked i answer =>
      obtain _ | (_ | t) := answer
      · rfl
      · rfl
      · obtain ⟨g, x, presented, -⟩ := grounded
        exact beq_false_of_ne (place_lt presented)
  | closed s g =>
      obtain ⟨i, q, rfl, -⟩ | ⟨i, x, rfl, presented⟩ := grounded
      · rfl
      · exact beq_false_of_ne fun same => place_lt presented (Socket.accepted.inj same)
  | _ => rfl

theorem made (q : Producer) :
    Sound (.made n.dialed.length (n.nextSignal []) q :: past) (n.withSocket q) where
  told := sound.told.cons rfl (sound.fresh_next [])
  tallied := sound.tallied.adds sound.told (Nat.le_succ _) rfl rfl (List.append_nil _).symm
    (number_next []) nofun nofun (Happening.not_fires rfl)
  dialed i g q' made := by
    rw [remote?_cons]
    change (n.dialed ++ _)[i]? = some ⟨q', g, remote? i past⟩
    obtain new | old := List.mem_cons.1 made
    · cases new
      rw [sound.remote?_length]
      exact withSocket_cell n q
    · have there := sound.dialed i g q' old
      rw [List.getElem?_append_left (List.getElem?_eq_some_iff.1 there).1, there]
  accepted i g x presented := sound.accepted i g x ((List.mem_cons.1 presented).resolve_left nofun)
  followed t ht := sound.followed t ((List.mem_cons.1 ht).resolve_left nofun)

theorem presented {x : Stream} (outside : x.IsOutside (own past) n) :
    Sound (.presented n.accepted.length (n.nextSignal x.signal.lineage) x :: past)
      (present x n).2 where
  told := sound.told.cons rfl (sound.fresh_next _)
  tallied := by
    refine sound.tallied.adds sound.told (Nat.le_succ _) rfl rfl (List.append_nil _).symm
      (number_next _) ?_ nofun (Happening.not_fires rfl)
    rintro _ ⟨⟩
    exact outside
  dialed i g q made := sound.dialed i g q ((List.mem_cons.1 made).resolve_left nofun)
  accepted i g y presented := by
    rw [left?_cons]
    change (n.accepted ++ _)[i]? = some ⟨left? i y past, g, y.localAddress, y.remoteAddress⟩
    obtain new | old := List.mem_cons.1 presented
    · cases new
      rw [sound.left?_length]
      exact present_cell x n
    · have there := sound.accepted i g y old
      rw [List.getElem?_append_left (List.getElem?_eq_some_iff.1 there).1, there]
  followed t ht := sound.followed t ((List.mem_cons.1 ht).resolve_left nofun)

theorem arrived {i : Nat} {g : Signal} {q : Producer} {x : Stream} (made : .made i g q ∈ past)
    (outside : x.IsOutside (own past) n) :
    Sound (.arrived i (.ok (dialedStream n i g x)) :: past) (afterArrival n i g x) where
  told := sound.told.cons ⟨⟨g, q, made, rfl⟩, rfl⟩ (sound.fresh_next _)
  tallied := by
    refine sound.tallied.adds sound.told (Nat.le_succ _) rfl rfl rfl (number_next _) ?_ ?_
      (Happening.not_fires rfl)
    · rintro _ ⟨⟩
      exact outside
    · rintro _ ⟨⟩
      exact List.mem_cons_self
  dialed j g' q' made' := by
    have old := (List.mem_cons.1 made').resolve_left nofun
    change (n.dialed.modify i _)[j]? = _
    rw [remote?_cons, List.getElem?_modify, sound.dialed j g' q' old]
    by_cases same : i = j
    · simp [Happening.remote?, same, dialedStream, Stream.remoteAddress]
    · simp [Happening.remote?, same]
  accepted j g' y presented :=
    sound.accepted j g' y ((List.mem_cons.1 presented).resolve_left nofun)
  followed t ht := sound.followed t ((List.mem_cons.1 ht).resolve_left nofun)

section

variable {i : Nat} {g : Signal} {x : Stream} (presented : .presented i g x ∈ past)

include presented

theorem openStream_closed (fired : n.isFired g = true) :
    openStream (.accepted i) n = (.failed .closed, n) := by
  have reduced : openStream (.accepted i) n = takeAccepted i n := rfl
  simp only [reduced, takeAccepted, sound.accepted i g x presented, fired, if_true]

theorem openStream_spent (unfired : n.isFired g = false)
    (taken : past.any (Happening.takes i) = true) :
    openStream (.accepted i) n = (.pending, n) := by
  have reduced : openStream (.accepted i) n = takeAccepted i n := rfl
  simp [reduced, takeAccepted, sound.accepted i g x presented, left?, taken, unfired]

theorem openStream_first (unfired : n.isFired g = false)
    (there : past.any (Happening.takes i) = false) :
    openStream (.accepted i) n = (.done (.ok (.single x g none)), afterHandOut n i g x) := by
  have reduced : openStream (.accepted i) n = takeAccepted i n := rfl
  simp [reduced, takeAccepted, sound.accepted i g x presented, left?, there, unfired]
  rfl

/-- Taking the connection out of an accepted socket leaves the others as they are. -/
theorem accepted_emptied (takes : e.takes i = true) (others : ∀ j, j ≠ i → e.takes j = false)
    {j : Nat} {g' : Signal} {y : Stream} (presented' : .presented j g' y ∈ past) :
    (emptied n i g x)[j]? = some ⟨left? j y (e :: past), g', y.localAddress, y.remoteAddress⟩ := by
  have there := sound.accepted j g' y presented'
  rw [left?_cons, emptied]
  by_cases same : i = j
  · subst same
    obtain ⟨rfl, rfl⟩ := sound.presented_unique presented presented'
    rw [takes, List.getElem?_set_self (List.getElem?_eq_some_iff.1 there).1]
    rfl
  · rw [List.getElem?_set_ne same, others j (Ne.symm same), there]
    rfl

theorem looked : Sound (.looked i (.done (.ok (.single x g none))) :: past)
    (afterHandOut n i g x) where
  told := sound.told.cons ⟨g, x, presented, rfl⟩ fun _ h => absurd h List.not_mem_nil
  tallied := by
    refine sound.tallied.adds sound.told (Nat.le_refl _) rfl rfl rfl
      (fun _ h => absurd h List.not_mem_nil) nofun ?_ (Happening.not_fires rfl)
    rintro _ ⟨⟩
    exact own_presented (List.mem_cons_of_mem _ presented)
  dialed j g' q made := sound.dialed j g' q ((List.mem_cons.1 made).resolve_left nofun)
  accepted j g' y presented' := by
    have takes : (Happening.looked i (.done (.ok (.single x g none)))).takes i = true :=
      beq_self_eq_true i
    exact sound.accepted_emptied presented takes (fun j other => beq_false_of_ne other.symm)
      ((List.mem_cons.1 presented').resolve_left nofun)
  followed t ht := sound.followed t ((List.mem_cons.1 ht).resolve_left nofun)

/-- Closing an accepted socket fires its signal, and closes the connection if the socket still has
it. -/
theorem closeSocket_accepted :
    ∃ m, closeSocket (.accepted i) n = { m with accepted := emptied n i g x } ∧
      Network.Fires (fun f => f = g ∨ f ∈ x.signals) n m ∧ m.isFired g = true ∧
      if past.any (Happening.takes i) then m = n.fire g
      else ∀ s ∈ x.signals, m.isFired s = true := by
  have first : Network.Fires (fun f => f = g ∨ f ∈ x.signals) n (n.fire g) := .fire (.inl rfl)
  have there := sound.accepted i g x presented
  cases taken : past.any (Happening.takes i) with
  | true =>
      refine ⟨n.fire g, ?_, first, n.isFired_fire_self g, rfl⟩
      simp only [closeSocket, there, left?, taken, if_true, emptied]
  | false =>
      obtain ⟨fires, all⟩ := closeStream_firing x (n.fire g)
      refine ⟨closeStream x (n.fire g), ?_, first.trans (fires.weaken fun _ => .inr),
        fires.isFired (n.isFired_fire_self g), all⟩
      simp only [closeSocket, there, left?, taken, Bool.false_eq_true, if_false]
      exact closeStream_withAccepted x (n.fire g) _

theorem closedAccepted :
    Sound (.closed (.accepted i) g :: past) (closeSocket (.accepted i) n) := by
  obtain ⟨m, eq, fires, fired, -⟩ := sound.closeSocket_accepted presented
  have outside : x.IsOutside (own past) n := sound.tallied.outside _ presented x rfl
  have keeps : Keeps (own past) (Happening.closed (.accepted i) g).Fires n m := by
    refine sound.keeps_of_fires fires ?_ ?_
    · rintro f (rfl | hf)
      · exact sound.tallied.made _ (own_presented presented)
      · exact (outside f hf f.number List.mem_cons_self).1
    · rintro f (rfl | hf) owned
      · exact .inl ⟨_, rfl⟩
      · exact absurd owned (outside f hf f.number List.mem_cons_self).2
  have tallied : Tallied (.closed (.accepted i) g :: past) m := by
    refine sound.tallied.keeps keeps ?_ ⟨rfl, rfl⟩
    rintro g' (⟨s, same⟩ | ⟨t, (ends | same), -⟩)
    · cases same
      exact fired
    · exact ends.elim
    · cases same
  rw [eq]
  exact {
    told := sound.told.cons (.inr ⟨i, x, rfl, presented⟩) fun _ h => absurd h List.not_mem_nil
    tallied := { tallied with numbered := { tallied.numbered with } }
    dialed := fun j g' q made => by
      change m.dialed[j]? = _
      rw [fires.dialed]
      exact sound.dialed j g' q ((List.mem_cons.1 made).resolve_left nofun)
    accepted := fun j g' y presented' => by
      refine sound.accepted_emptied presented (beq_self_eq_true _) (fun j other => ?_)
        ((List.mem_cons.1 presented').resolve_left nofun)
      exact beq_false_of_ne fun same => other (Socket.accepted.inj same).symm
    followed := fun t ht =>
      fires.isFired (sound.followed t ((List.mem_cons.1 ht).resolve_left nofun)) }

end

theorem closeSocket_dialed {i : Nat} {g : Signal} {q : Producer} (made : .made i g q ∈ past) :
    closeSocket (.dialed i) n = n.fire g := by
  simp only [closeSocket, sound.dialed i g q made]

theorem closedDialed {i : Nat} {g : Signal} {q : Producer} (made : .made i g q ∈ past) :
    Sound (.closed (.dialed i) g :: past) (closeSocket (.dialed i) n) := by
  have fires : Network.Fires (· = g) n (n.fire g) := .fire rfl
  rw [sound.closeSocket_dialed made]
  refine sound.keeps (.inl ⟨i, q, rfl, made⟩) (sound.keeps_of_fires fires ?_ ?_) ?_ ⟨rfl, rfl⟩
    (fun j => rfl) nofun
  · rintro f rfl
    exact sound.tallied.made _ (own_made made)
  · rintro f rfl -
    exact .inl ⟨_, rfl⟩
  · rintro g' (⟨s, same⟩ | ⟨t, (ends | same), -⟩)
    · cases same
      exact n.isFired_fire_self g
    · exact ends.elim
    · cases same

section

variable {t : Stream} (has : t ∈ handed past)

include has

theorem number_lt : t.signal.number < n.signals.count :=
  sound.tallied.made _ (sound.told.number_of_handed has)

/-- The connection of a stream that was handed out is not one of the sockets and streams. -/
theorem outside_of_handed : t.connection.IsOutside (own past) n := by
  obtain ⟨-, e, he, connection, -⟩ := sound.told.of_handed has
  exact sound.tallied.outside e he _ connection

/-- What fires signals of a stream, and its own only for a cause. -/
theorem keeps_of_handed {cause : Signal → Prop} {P : Prop}
    (fires : Network.Fires (fun f => f ∈ t.connection.signals ∨ f = t.signal ∧ P) n n')
    (causes : P → cause t.signal) : Keeps (own past) cause n n' := by
  have outside := sound.outside_of_handed has
  refine sound.keeps_of_fires fires ?_ ?_
  · rintro f (hf | ⟨rfl, -⟩)
    · exact (outside f hf f.number List.mem_cons_self).1
    · exact sound.number_lt has
  · rintro f (hf | ⟨rfl, p⟩) owned
    · exact absurd owned (outside f hf f.number List.mem_cons_self).2
    · exact causes p

theorem used (op : ByteOp) :
    let r := op.perform (bytes t) n
    Sound (.used t op r.1 :: past) r.2 := by
  obtain ⟨⟨socket?, form⟩, -⟩ := sound.told.of_handed has
  have guarded : bytes t = (bytes t.connection).guarded (guard t.signal) := by rw [form]; rfl
  obtain ⟨fires, failing⟩ := guarded_firing (perform_firing t.connection op n) t.signal
  rw [← guarded] at fires failing
  intro r
  refine sound.keeps has (sound.keeps_of_handed has fires fun fails => ?_) ?_ ⟨rfl, rfl⟩
    (fun j => rfl) nofun
  · exact .inr ⟨t, .inl ⟨rfl, fails⟩, rfl⟩
  · rintro g (⟨s, same⟩ | ⟨t', (⟨rfl, fails⟩ | same), rfl⟩)
    · cases same
    · exact failing fails
    · cases same

theorem closedStream : Sound (.closedStream t :: past) (closeStream t n) := by
  obtain ⟨⟨socket?, form⟩, -⟩ := sound.told.of_handed has
  have signals : t.signals = t.signal :: t.connection.signals := by rw [form]; rfl
  obtain ⟨fires, all⟩ := closeStream_firing t n
  rw [signals] at fires all
  have same_fires : Network.Fires (fun f => f ∈ t.connection.signals ∨ f = t.signal ∧ True) n
      (closeStream t n) := by
    refine fires.weaken fun f hf => ?_
    obtain rfl | inside := List.mem_cons.1 hf
    · exact .inr ⟨rfl, trivial⟩
    · exact .inl inside
  refine sound.keeps has (sound.keeps_of_handed has same_fires fun _ => ?_) ?_ ⟨rfl, rfl⟩
    (fun j => rfl) nofun
  · exact .inr ⟨t, .inl rfl, rfl⟩
  · rintro g (⟨s, same⟩ | ⟨t', (ends | same), rfl⟩)
    · cases same
    · cases (show t = t' from ends)
      exact all _ List.mem_cons_self
    · cases same

theorem follows (closed : n.isFired t.connection.signal = true) :
    Sound (.followed t :: past) (n.fire t.signal) := by
  have fires : Network.Fires (fun f => f ∈ t.connection.signals ∨ f = t.signal ∧ True) n
      (n.fire t.signal) := .fire (.inr ⟨rfl, trivial⟩)
  refine sound.keeps has (sound.keeps_of_handed has fires fun _ => ?_) ?_ ⟨rfl, rfl⟩
    (fun j => rfl) ?_
  · exact .inr ⟨t, .inr rfl, rfl⟩
  · rintro g (⟨s, same⟩ | ⟨t', (ends | same), rfl⟩)
    · cases same
    · exact ends.elim
    · cases same
      exact n.isFired_fire_self t.signal
  · rintro _ ⟨⟩
    exact fires.isFired closed

end

theorem beyond (beyond : Beyond (own past) n n') : Sound (.elsewhere :: past) n' := by
  refine sound.keeps trivial { beyond with causes := fun f hf owned => ?_ } ?_ ⟨rfl, rfl⟩
    (fun _ => rfl) nofun
  · exact (beyond.causes f hf owned).imp_right False.elim
  · exact fun g h => absurd h (Happening.not_fires rfl g)

theorem released {roots : List Holding} (released : n.release? roots = some n') :
    Sound (.released ((handed past).filter fun t => !(n.held roots).contains (.single t.signal)) ::
      past) n' := by
  obtain ⟨fires, all⟩ := release_firing released
  have gone_iff (t : Stream) :
      t ∈ (handed past).filter (fun t => !(n.held roots).contains (.single t.signal)) ↔
        t ∈ handed past ∧ .single t.signal ∉ n.held roots := by
    rw [List.mem_filter, Bool.not_eq_true', List.contains_eq_mem, decide_eq_false_iff_not]
  refine sound.keeps (fun t ht => (List.mem_filter.1 ht).1) (sound.keeps_of_fires fires ?_ ?_) ?_
    ⟨rfl, rfl⟩ (fun j => rfl) nofun
  · rintro f (⟨l, hl, rfl, -⟩ | ⟨d, hd, rfl⟩)
    · exact sound.tallied.numbered.links l hl
    · exact sound.tallied.numbered.demuxers d hd
  · rintro f (⟨l, hl, rfl, unheld⟩ | ⟨d, hd, rfl⟩) owned
    · obtain ⟨t, ht, rfl⟩ := (sound.tallied.links l owned).1 hl
      exact .inr ⟨t, .inl ((gone_iff t).2 ⟨ht, unheld⟩), rfl⟩
    · exact absurd owned (sound.tallied.demuxers d hd)
  · rintro g (⟨s, same⟩ | ⟨t, (gone | same), rfl⟩)
    · cases same
    · obtain ⟨ht, unheld⟩ := (gone_iff t).1 gone
      have linked : (t.signal, t.connection.signal) ∈ n.links :=
        (sound.tallied.links _ (sound.told.number_of_handed ht)).2 ⟨t, ht, rfl⟩
      exact all _ linked unheld
    · cases same

end Sound

end Single

end TransportStack

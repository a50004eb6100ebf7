import TransportStack.Proofs.Single.Causes
import TransportStack.Proofs.Single.Dialing

/-!
The life of a socket that dials a connection for every stream. Streams come and go without the socket
or each other noticing; closing the socket closes them all, also those that are still being dialed.
What becomes of other sockets, of one that was made by redialing this one for example, cannot be seen
on it.
-/

namespace TransportStack

open Network

namespace Single

variable {past : List Happening} {n n' : Network}

structure Asks (i : Nat) (n : Network) (r : Except TransportError Stream × Network) : Prop where
  opened : openStream (.dialed i) n = (.done r.1, r.2)
  accepted : acceptStream (.dialed i) n = (.done r.1, r.2)
  redialed : ∀ t : Stream, t.socket? = some i → redialStream t n = r

def Happening.Concerns (i : Nat) : Happening → Prop
  | .arrived j (.ok _) => j = i
  | .closed s _ => s = .dialed i
  | .used t _ _ | .closedStream t | .followed t => t.socket? = some i
  | .released gone => ∃ t ∈ gone, t.socket? = some i
  | _ => False

/-- The life of a socket that dials, with a signal and a dialer. -/
structure DialedLife (past : List Happening) (n : Network) (i : Nat) (g : Signal) (q : Producer) :
    Prop where
  /-- As long as the socket is open, a call runs the dialer once and makes a stream of what it
  yields. -/
  dials : n.isFired g = false → Asks i n ((Network.dial q >>= arrive i g) n)
  /-- On a closed socket nothing is dialed. -/
  refuses : n.isFired g = true → Asks i n (.error .closed, n)
  uncalled : ∀ later earlier, past = later ++ .closed (.dialed i) g :: earlier → .called i ∉ later
  arrivals_le : arrivals i past ≤ calls i past
  /-- The socket closes when it is closed, whatever its streams do. -/
  closed_iff : n.isFired g = true ↔ .closed (.dialed i) g ∈ past
  /-- A stream, whether it arrived before the socket was closed or after that, closes with the
  socket, when it ends or with its own connection. -/
  stream_closed_iff : ∀ t, .arrived i (.ok t) ∈ past → (n.isFired t.signal = true ↔
    .closed (.dialed i) g ∈ past ∨ ∃ e ∈ past, e.Ends t ∨ e = .followed t)
  followed : ∀ t, .followed t ∈ past → n.isFired t.connection.signal = true
  /-- Once the links have settled, a stream has followed its connection. -/
  settled : n.linkStep? = none → ∀ t, .arrived i (.ok t) ∈ past →
    n.isFired t.connection.signal = true → n.isFired t.signal = true
  /-- The remote address is that of the last stream dialed. -/
  remote : n.remoteAddress (.dialed i) = (remote? i past).getD (.empty Implementation.nomuxName)
  /-- Redialing makes a new socket for the same dialer, open and without a remote address, and
  changes nothing else. -/
  redials : ∃ j g', redialSocket (.dialed i) n = (.ok (.dialed j), n.withSocket q) ∧
    (∀ h p, .made j h p ∉ past) ∧ (n.withSocket q).dialed[j]? = some ⟨q, g', none⟩ ∧
      (n.withSocket q).isFired g' = false ∧
      (n.withSocket q).dialed[i]? = n.dialed[i]? ∧
      (∀ s, (n.withSocket q).isFired s = n.isFired s) ∧
      Step past n (.made j g' q) (n.withSocket q)
  /-- What does not concern the socket changes neither the socket nor its streams. -/
  apart : ∀ e n', Step past n e n' → ¬e.Concerns i →
    n'.dialed[i]? = n.dialed[i]? ∧ n'.isFired g = n.isFired g ∧
      ∀ t, .arrived i (.ok t) ∈ past → n'.isFired t.signal = n.isFired t.signal

/-- Opening a stream on an open socket has two parts, and anything may happen between them. -/
theorem openOnDialed_arrive (run : Net Product) {i : Nat} {s : DialedSocket}
    (there : n.dialed[i]? = some s) (unfired : n.isFired s.signal = false) :
    openOnDialed run i n = (run >>= arrive i s.signal) n := by
  rw [openOnDialed_eq there unfired]
  rfl

theorem Reached.uncalled (reached : Reached past n) (i : Nat) (g : Signal) :
    past.Pairwise fun e e' => e = .called i → e' ≠ .closed (.dialed i) g := by
  induction reached with
  | start => exact .nil
  | @step past n n' e reached step ih =>
      refine .cons ?_ ih
      rintro _ closed rfl rfl
      have sound := reached.sound
      cases step with
      | call made unfired =>
          obtain ⟨j, q, same, made'⟩ | ⟨j, x, same, -⟩ := sound.told.grounded _ closed
          · cases same
            obtain ⟨rfl, -⟩ := sound.made_unique made made'
            rw [(sound.isFired_made made).2 closed] at unfired
            cases unfired
          · cases same

namespace Sound

variable (sound : Sound past n) {i : Nat} {g : Signal} {q : Producer}
  (made : .made i g q ∈ past)

include sound made

theorem openStream_dialed (r : Except TransportError Stream × Network)
    (h : openOnDialed (Network.dial q) i n = r) : Asks i n r := by
  have again : dialAgain i n = r := (dialAgain_eq (sound.dialed i g q made)).trans h
  refine ⟨?_, ?_, fun t ht => ?_⟩
  · rw [← again]
    rfl
  · rw [← again]
    rfl
  · cases t with
    | single inner signal socket? =>
        cases (show socket? = some i from ht)
        exact again
    | piped _ | recorded _ _ _ => cases ht

theorem dials (unfired : n.isFired g = false) :
    Asks i n ((Network.dial q >>= arrive i g) n) := by
  have opened := openOnDialed_arrive (Network.dial q) (sound.dialed i g q made) unfired
  exact sound.openStream_dialed made _ opened

theorem refuses (fired : n.isFired g = true) : Asks i n (.error .closed, n) := by
  have closed : openOnDialed (Network.dial q) i n = (.error .closed, n) :=
    openOnDialed_closed (sound.dialed i g q made) fired
  exact sound.openStream_dialed made _ closed

theorem redials : ∃ j g', redialSocket (.dialed i) n = (.ok (.dialed j), n.withSocket q) ∧
    (∀ h p, .made j h p ∉ past) ∧ (n.withSocket q).dialed[j]? = some ⟨q, g', none⟩ ∧
      (n.withSocket q).isFired g' = false ∧
      (n.withSocket q).dialed[i]? = n.dialed[i]? ∧
      (∀ s, (n.withSocket q).isFired s = n.isFired s) ∧
      Step past n (.made j g' q) (n.withSocket q) := by
  have there := sound.dialed i g q made
  have new := withSocket_cell n q
  refine ⟨n.dialed.length, n.nextSignal [], redialSocket_eq there, fun h p made' => ?_, new, ?_, ?_,
    fun s => rfl, .redial (redialSocket_eq there) new⟩
  · have less := (List.getElem?_eq_some_iff.1 (sound.dialed _ h p made')).1
    exact Nat.lt_irrefl _ less
  · rw [Bool.eq_false_iff]
    exact fun fired => Nat.lt_irrefl _
      (sound.tallied.numbered.fired _ ((Signals.isFired_root_iff _).1 fired))
  · exact List.getElem?_append_left (List.getElem?_eq_some_iff.1 there).1

theorem apart {e : Happening} (step : Step past n e n') (other : ¬e.Concerns i) :
    n'.dialed[i]? = n.dialed[i]? ∧ n'.isFired g = n.isFired g ∧
      ∀ t, .arrived i (.ok t) ∈ past → n'.isFired t.signal = n.isFired t.signal := by
  have sound' := (sound.step step).1
  have made' : .made i g q ∈ e :: past := List.mem_cons_of_mem _ made
  have unclosed : .closed (.dialed i) g ∈ e :: past ↔ .closed (.dialed i) g ∈ past := by
    refine ⟨fun closed => ?_, List.mem_cons_of_mem _⟩
    obtain rfl | old := List.mem_cons.1 closed
    · exact absurd rfl other
    · exact old
  refine ⟨?_, ?_, fun t arrived => ?_⟩
  · have remote : e.remote? i = none := by
      cases e with
      | arrived j result =>
          cases result with
          | error _ => rfl
          | ok t => exact if_neg other
      | _ => rfl
    rw [sound'.dialed i g q made', sound.dialed i g q made, remote?_cons, remote, Option.none_or]
  · rw [Bool.eq_iff_iff, sound'.isFired_made made', sound.isFired_made made, unclosed]
  · have mine : t.socket? = some i := by
      obtain ⟨-, form⟩ := sound.told.grounded _ arrived
      rw [form]
      rfl
    have unended : ¬(e.Ends t ∨ e = .followed t) := by
      rintro (ends | rfl)
      · cases e with
        | closedStream s =>
            obtain rfl : s = t := ends
            exact other mine
        | used s op answer =>
            obtain ⟨rfl, -⟩ := ends
            exact other mine
        | released gone => exact other ⟨t, ends, mine⟩
        | _ => exact ends
      · exact other mine
    rw [Bool.eq_iff_iff, sound'.isFired_arrived made' (List.mem_cons_of_mem _ arrived),
      sound.isFired_arrived made arrived, unclosed]
    simp [unended]

end Sound

/-- A socket that dials, after any history. -/
theorem dialed_socket_life (reached : Reached past n) {i : Nat} {g : Signal} {q : Producer}
    (made : .made i g q ∈ past) : DialedLife past n i g q := by
  have sound := reached.sound
  exact {
    dials := sound.dials made
    refuses := sound.refuses made
    uncalled := by
      rintro later earlier rfl called
      have apart := List.pairwise_append.1 (reached.uncalled i g)
      exact apart.2.2 _ called _ List.mem_cons_self rfl rfl
    arrivals_le := reached.arrivals_le i
    closed_iff := sound.isFired_made made
    stream_closed_iff := fun t => sound.isFired_arrived made
    followed := sound.followed
    settled := fun quiet t arrived => sound.settled quiet (mem_handed.2 ⟨_, arrived, rfl⟩)
    remote := by
      rw [remoteAddress, sound.dialed i g q made]
      rfl
    redials := sound.redials made
    apart := fun e n' => sound.apart made }

/-- A socket is closed during its first dial. The stream arrives closed, and the socket refuses the
next call. -/
theorem dialed_socket_life_in_flight :
    let g : Signal := ⟨1, []⟩
    ∃ t n, Reached [.arrived 0 (.ok t), .closed (.dialed 0) g, .elsewhere, .called 0,
        .made 0 g toHere] n ∧ n.isFired t.signal = true ∧
      openStream (.dialed 0) n = (.done (.error .closed), n) := by
  intro g
  let listed : List Happening := [.elsewhere, .called 0, .made 0 g toHere]
  have made : .made 0 g toHere ∈ listed := by simp [listed]
  have socket : Reached [.made 0 g toHere] (reachable.withSocket toHere) :=
    .step reached_reachable (.made [] reachable toHere)
  have called : Reached [.called 0, .made 0 g toHere] (reachable.withSocket toHere) :=
    .step socket (.call List.mem_cons_self rfl)
  obtain ⟨makes, isNew⟩ := makesNew_dial toHere rfl (reachable.withSocket toHere)
  have dialing : Reached listed (dial toHere (reachable.withSocket toHere)).2 :=
    .step called (.elsewhere (called.sound.beyond_of_makes makes))
  have closed := Reached.step dialing (.closeDialed made)
  let n := closeSocket (.dialed 0) (dial toHere (reachable.withSocket toHere)).2
  let x : Stream := .piped ((reachable.withSocket toHere).nextDialed
    ⟨"here", Implementation.bufferOf .empty⟩)
  have outside : x.IsOutside (own listed) n := called.sound.outside_of_isNew (isNew (.stream x) rfl)
  have ended : (Network.ofExcept (.ok (Product.stream x)) >>= arrive 0 g) n =
      (.ok (dialedStream n 0 g x), afterArrival n 0 g x) := rfl
  have arrived := Reached.step closed (.arrive (List.mem_cons_of_mem _ made) (by decide)
    (by rintro _ ⟨⟩; exact outside) ended)
  have life := dialed_socket_life arrived
    (List.mem_cons_of_mem _ (List.mem_cons_of_mem _ made))
  have fired := life.closed_iff.2 (List.mem_cons_of_mem _ List.mem_cons_self)
  exact ⟨_, _, arrived, (life.stream_closed_iff _ List.mem_cons_self).2
    (.inl (List.mem_cons_of_mem _ List.mem_cons_self)), (life.refuses fired).opened⟩

end Single

end TransportStack

import TransportStack.Proofs.Paired.Carrying

/-!
The bytes of streams, over whole runs: no bytes pass once a stream is closed, its buffers have the
size that it was made with, and reading and writing come to what its history says.
-/

namespace TransportStack

open Scenario (ByteOp ByteResult)

namespace Paired

section

variable {n n' : Network} {l : List Happening} {e : Happening} {a : Act}

/-- Once the signal of a stream has fired no bytes pass. -/
theorem Stocked.silent_of_fired (stocked : Stocked n l) (allowed : State.allows ⟨n, l⟩ a = true)
    (effect : Effect (roots l) n a e n') {b : Option Nat × PipedStream}
    (hb : b ∈ Paired.births l) (fired : n.isFired b.2.signal = true) (side : Half) :
    e.writes b.2.pipe side = [] ∧ e.reads b.2.pipe side = [] := by
  cases effect with
  | usedLate op late => exact Happening.silent_late _ op _ side
  | @used q op p p' answer there unfired done sane =>
      have other : q.pipe ≠ b.2.pipe := by
        intro own
        obtain ⟨b', hb', place, signal⟩ :=
          (stocked.known_of_mem_streams (of_decide_eq_true allowed)).birth
        rw [stocked.birth_unique hb hb' (place.trans own).symm, signal, unfired] at fired
        cases fired
      have apart : (Happening.used (.piped q) op answer).pipe? ≠ some b.2.pipe :=
        fun on => other (Option.some.inj on)
      exact Happening.silent_of_apart apart side
  | _ => exact ⟨rfl, rfl⟩

theorem Signaled.stays_fired (h : Signaled n l) (h' : Signaled n' (l ++ [e]))
    {b : Option Nat × PipedStream} (hb : b ∈ births l) (hb' : b ∈ births (l ++ [e]))
    (fired : n.isFired b.2.signal = true) : n'.isFired b.2.signal = true := by
  refine (h'.ended b hb').2 (((h.ended b hb).1 fired).imp ?_ ?_)
  · rintro ⟨i, session, closed⟩
    exact ⟨i, session, by rw [wasClosed_concat, closed, Bool.true_or]⟩
  · intro hurt
    rw [wasHurt_concat, hurt, Bool.true_or]

theorem silent_since (acts more : List Act) {b : Option Nat × PipedStream}
    (hb : b ∈ births (start.run acts).history)
    (fired : (start.run acts).network.isFired b.2.signal = true) :
    let s := (start.run acts).run more
    b ∈ births s.history ∧ s.network.isFired b.2.signal = true ∧ ∀ side,
      written b.2.pipe side s.history = written b.2.pipe side (start.run acts).history ∧
        read b.2.pipe side s.history = read b.2.pipe side (start.run acts).history := by
  induction more using List.reverseRecOn with
  | nil => exact ⟨hb, fired, fun _ => ⟨rfl, rfl⟩⟩
  | append_singleton more a ih =>
      obtain ⟨hb, fired, same⟩ := ih
      have stocked := stocked_run (acts ++ more)
      have signaled := signaled_run (acts ++ more)
      rw [State.run_append] at stocked signaled
      intro s
      obtain none | ⟨e, n', allowed, effect, act⟩ := stocked.act_cases a
      · have none : s = (start.run acts).run more := (State.run_concat _ _ _).trans none
        rw [none]
        exact ⟨hb, fired, same⟩
      · have act : s = ⟨n', _ ++ [e]⟩ := (State.run_concat _ _ _).trans act
        have hb' : b ∈ births (((start.run acts).run more).history ++ [e]) := by
          rw [births_concat]
          exact List.mem_append_left _ hb
        rw [act]
        refine ⟨hb', signaled.stays_fired (signaled.step stocked allowed effect) hb hb' fired, ?_⟩
        intro side
        obtain ⟨writes, reads⟩ := stocked.silent_of_fired allowed effect hb fired side
        rw [written_concat, read_concat, writes, reads, List.append_nil, List.append_nil]
        exact same side

/-- The stream on a pipe was made with buffers of that size, alone or on a session. -/
inductive MadeWith (l : List Happening) : Nat → Nat → Prop
  | alone {capacity : Nat} {q : PipedStream} {y : Stream}
      (made : .pairedStreams capacity (.piped q) y ∈ l) : MadeWith l q.pipe capacity
  | on {i capacity : Nat} {q : PipedStream} (session : .pairedSockets capacity i ∈ l)
      (born : (some i, q) ∈ births l) : MadeWith l q.pipe capacity

/-- Both directions of a pipe have room for so many bytes. -/
def HasRoom (n : Network) (k capacity : Nat) : Prop :=
  ∃ p, n.pipes[k]? = some p ∧ ∀ side, (p.lanes.get side).capacity = capacity

def sessionCapacity? (n : Network) (i : Nat) : Option Nat := n.sessions[i]?.map (·.capacity)

theorem sessionCapacity?_eq {i : Nat} {s : Session Stream} (there : n.sessions[i]? = some s) :
    sessionCapacity? n i = some s.capacity := by
  rw [sessionCapacity?, there]
  rfl

theorem sessionCapacity?_setSession {i j : Nat} {s s' : Session Stream}
    (there : n.sessions[i]? = some s) (same : s'.capacity = s.capacity) :
    sessionCapacity? (n.setSession i s') j = sessionCapacity? n j :=
  Network.map_setSession (·.capacity) there same j

/-- Sessions and pipes have the sizes that they were made with. -/
structure Sized (n : Network) (l : List Happening) : Prop where
  sessions : ∀ i capacity, .pairedSockets capacity i ∈ l ↔ sessionCapacity? n i = some capacity
  pipes : ∀ k capacity, MadeWith l k capacity → HasRoom n k capacity

theorem hasRoom_empty {k capacity : Nat} (there : n.pipes[k]? = some (.empty capacity)) :
    HasRoom n k capacity :=
  ⟨_, there, fun side => congrArg Lane.capacity (Pipe.get_empty side capacity)⟩

theorem hasRoom_of_effect (stocked : Stocked n l) (effect : Effect (roots l) n a e n')
    {k capacity : Nat} (room : HasRoom n k capacity) : HasRoom n' k capacity := by
  obtain ⟨p, there, room⟩ := room
  have less := (List.getElem?_eq_some_iff.1 there).1
  have within : k < n'.pipes.length := by
    obtain ⟨-, same⟩ | ⟨-, -, -, -, more⟩ := stocked.births_cases effect
    · exact same ▸ less
    · exact more ▸ Nat.lt_succ_of_lt less
  refine ⟨_, List.getElem?_eq_getElem within, fun side => ?_⟩
  obtain ⟨p', there', conveys⟩ | ⟨p', there', -, released, -⟩ | ⟨last, -⟩ :=
    stocked.pipe_cases effect (List.getElem?_eq_getElem within)
  · cases there.symm.trans there'
    rw [conveys.capacity, room]
  · cases there.symm.trans there'
    rw [released, p.get_release, ← room side]
    rfl
  · exact absurd last (Nat.ne_of_lt less)

/-- A session that is there keeps its size, and new ones have the one that they are made with. -/
theorem sessionCapacity?_of_effect (stocked : Stocked n l) (effect : Effect (roots l) n a e n')
    (i : Nat) :
    sessionCapacity? n' i = sessionCapacity? n i ∧ (∀ c, e ≠ .pairedSockets c i) ∨
      sessionCapacity? n i = none ∧
        ∃ c, e = .pairedSockets c i ∧ sessionCapacity? n' i = some c := by
  cases effect with
  | pairedSockets capacity dialing accepting dial? =>
      have map := Network.map_withSession (·.capacity) n capacity dialing accepting dial? i
      by_cases last : i = n.sessions.length
      · subst last
        rw [if_pos rfl] at map
        refine .inr ⟨?_, capacity, rfl, map⟩
        rw [sessionCapacity?, List.getElem?_eq_none (Nat.le_refl _)]
        rfl
      · rw [if_neg last] at map
        refine .inl ⟨map, fun c same => last ?_⟩
        cases same
        rfl
  | opened there => exact .inl ⟨sessionCapacity?_setSession there rfl, nofun⟩
  | accepted there => exact .inl ⟨sessionCapacity?_setSession there rfl, nofun⟩
  | sent _ there => exact .inl ⟨sessionCapacity?_setSession there rfl, nofun⟩
  | received there => exact .inl ⟨sessionCapacity?_setSession there rfl, nofun⟩
  | released =>
      refine .inl ⟨?_, nofun⟩
      rw [sessionCapacity?, stocked.plain.sessions_release, List.getElem?_mapIdx, Option.map_map]
      rfl
  | _ => exact .inl ⟨rfl, nofun⟩

theorem Sized.step (h : Sized n l) (stocked : Stocked n l) (effect : Effect (roots l) n a e n') :
    Sized n' (l ++ [e]) := by
  have sessions (i capacity : Nat) : .pairedSockets capacity i ∈ l ++ [e] ↔
      sessionCapacity? n' i = some capacity := by
    rw [List.mem_append, List.mem_singleton, h.sessions]
    obtain ⟨same, other⟩ | ⟨none, c, rfl, new⟩ := sessionCapacity?_of_effect stocked effect i
    · rw [same]
      exact or_iff_left fun paired => other capacity paired.symm
    · rw [none, new]
      simp [eq_comm]
  refine ⟨sessions, fun k capacity made => ?_⟩
  cases made with
  | alone made =>
      obtain old | new := List.mem_append.1 made
      · exact hasRoom_of_effect stocked effect (h.pipes _ _ (.alone old))
      · cases List.mem_singleton.1 new
        cases effect
        exact hasRoom_empty List.getElem?_concat_length
  | @on i _ q session born =>
      rw [births_concat] at born
      obtain old | new := List.mem_append.1 born
      · refine hasRoom_of_effect stocked effect (h.pipes _ _ (.on ((h.sessions _ _).2 ?_) old))
        obtain ⟨same, -⟩ | ⟨none, -⟩ := sessionCapacity?_of_effect stocked effect i
        · exact same ▸ (sessions i capacity).1 session
        · have there := List.getElem?_eq_getElem (stocked.birth_session_lt old)
          exact nomatch none.symm.trans (sessionCapacity?_eq there)
      · cases effect with
        | @opened j side s there unfired accompanied =>
            cases List.mem_singleton.1 new
            have size : some s.capacity = some capacity := by
              have same : sessionCapacity? (n.afterOpen i s side) i = sessionCapacity? n i :=
                sessionCapacity?_setSession there rfl
              rw [← (sessions i capacity).1 session, same, sessionCapacity?_eq there]
            obtain rfl := Option.some.inj size
            exact hasRoom_empty List.getElem?_concat_length
        | pairedStreams => cases List.mem_singleton.1 new
        | _ => cases new

theorem sized_run (acts : List Act) : Sized (start.run acts).network (start.run acts).history := by
  refine run_induct (P := Sized) ⟨fun i capacity => ?_, fun k capacity made => ?_⟩
    (fun stocked h _ effect => h.step stocked effect) acts
  · exact iff_of_false List.not_mem_nil nofun
  · cases made with
    | alone made => cases made
    | on session born => cases born

/-- Every stream was made with buffers of some size. -/
theorem Sized.madeWith (h : Sized n l) (stocked : Stocked n l) {b : Option Nat × PipedStream}
    (hb : b ∈ births l) : ∃ capacity, MadeWith l b.2.pipe capacity := by
  obtain ⟨_ | i, q⟩ := b
  · obtain ⟨e, he, born⟩ := List.mem_flatMap.1 hb
    unfold Happening.births at born
    split at born
    · cases List.mem_singleton.1 born
      exact ⟨_, .alone he⟩
    · cases List.mem_singleton.1 born
    · cases born
  · have size := sessionCapacity?_eq (List.getElem?_eq_getElem (stocked.birth_session_lt hb))
    exact ⟨_, .on ((h.sessions i _).2 size) hb⟩

section

variable {s : State} {x : Stream} {k : Nat} {h : Half}

/-- A stream that the program has, with the pipe beneath it. -/
theorem pipe_of_stream (stocked : Stocked s.network s.history) (has : x ∈ streams s.history)
    (own : x.end? = some (k, h)) : ∃ q p, x = .piped q ∧ q.pipe = k ∧ q.half = h ∧
      s.network.pipes[q.pipe]? = some p := by
  obtain ⟨q, rfl, less⟩ := stocked.pipe_lt (stocked.known_of_mem_streams has)
  simp only [Stream.end?, Option.some.injEq, Prod.mk.injEq] at own
  exact ⟨q, _, rfl, own.1, own.2, List.getElem?_eq_getElem less⟩

variable (stocked : Stocked s.network s.history) (carried : Carried s.network s.history)
  (has : x ∈ streams s.history) (unfired : s.network.isFired x.signal = false)
include stocked carried has unfired

/-- While bytes are on their way, a read gets the next of them. -/
theorem reads_next (own : x.end? = some (k, h.other)) {count : Nat} (positive : 0 < count)
    (more : read k h.other s.history ≠ written k h s.history) :
    (s.act (.use x (.read count))).history = s.history ++ [.used x (.read count) (some (.data
      (((written k h s.history).drop (read k h.other s.history).length).take count)))] := by
  obtain ⟨q, p, rfl, rfl, half, there⟩ := pipe_of_stream stocked has own
  have bytes := (carried q.pipe p there).bytes h
  have held : (p.lanes.get q.half.other).held =
      (written q.pipe h s.history).drop (read q.pipe h.other s.history).length := by
    rw [bytes, List.drop_left, half, Half.other_other]
  obtain ⟨zero, -⟩ | ⟨-, nothing, -⟩ | ⟨-, nothing, -⟩ | ⟨-, -, done⟩ :=
    p.perform_read_cases q.half count
  · exact absurd zero (Nat.ne_of_gt positive)
  · rw [half, Half.other_other] at nothing
    exact absurd (by rw [bytes, nothing, List.append_nil]) more
  · rw [half, Half.other_other] at nothing
    exact absurd (by rw [bytes, nothing, List.append_nil]) more
  · rw [← held]
    exact State.history_act (.used there unfired done nofun) (decide_eq_true has)

/-- While there is room in the buffer, a write puts in as much as fits. -/
theorem writes_what_fits (own : x.end? = some (k, h)) {capacity : Nat}
    (room : HasRoom s.network k capacity) (unshut : wasShut k h s.history = false)
    (whole : ∀ side, HasEnd s.network s.history k side) (payload : List UInt8)
    (free : (written k h s.history).length < (read k h.other s.history).length + capacity) :
    (s.act (.use x (.write payload))).history = s.history ++ [.used x (.write payload) (some
      (.written (min payload.length
        ((read k h.other s.history).length + capacity - (written k h s.history).length))))] := by
  obtain ⟨q, p, rfl, rfl, rfl, there⟩ := pipe_of_stream stocked has own
  have c := carried q.pipe p there
  have bytes := congrArg List.length (c.bytes q.half)
  rw [List.length_append] at bytes
  have size : (p.lanes.get q.half).capacity = capacity := by
    obtain ⟨p', there', size⟩ := room
    cases there.symm.trans there'
    exact size q.half
  obtain ⟨ended, -⟩ | ⟨-, more, full, -⟩ | ⟨-, done⟩ := p.perform_write_cases q.half payload
  · obtain released | shut := c.ended q.half ended
    · obtain ⟨side, lost⟩ := c.released released
      exact absurd (whole side) lost
    · exact nomatch unshut.symm.trans shut
  · obtain full | empty := List.take_eq_nil_iff.1 full
    · omega
    · exact absurd empty more
  · have fits : (payload.take ((p.lanes.get q.half).capacity -
        (p.lanes.get q.half).held.length)).length = min payload.length
          ((read q.pipe q.half.other s.history).length + capacity -
            (written q.pipe q.half s.history).length) := by
      rw [List.length_take]
      omega
    rw [← fits]
    exact State.history_act (.used there unfired done nofun) (decide_eq_true has)

/-- A read tells of the end only when all was read, and the other end was shut down or lost. -/
theorem end_of_read (own : x.end? = some (k, h.other)) {count : Nat} (positive : 0 < count)
    (ends : (s.act (.use x (.read count))).history =
      s.history ++ [.used x (.read count) (some (.data []))]) :
    read k h.other s.history = written k h s.history ∧
      (wasShut k h s.history = true ∨ ¬HasEnd s.network s.history k h) := by
  obtain ⟨q, p, rfl, rfl, half, there⟩ := pipe_of_stream stocked has own
  have c := carried q.pipe p there
  have answered {answer : Option ByteResult} {p' : Pipe}
      (done : (ByteOp.read count).perform (Pipe.stream q.half) p = (answer, p'))
      (sane : ∀ e, answer ≠ some (.failed e)) : answer = some (.data []) := by
    have act := State.history_act (.used there unfired done sane) (decide_eq_true has)
    simpa using act.symm.trans ends
  obtain ⟨zero, -⟩ | ⟨-, nothing, ended, -⟩ | ⟨-, -, -, done⟩ | ⟨-, something, done⟩ :=
    p.perform_read_cases q.half count
  · exact absurd zero (Nat.ne_of_gt positive)
  · rw [half, Half.other_other] at nothing ended
    refine ⟨by rw [c.bytes, nothing, List.append_nil], (c.ended h ended).symm.imp_right ?_⟩
    intro released
    obtain ⟨side, lost⟩ := c.released released
    by_cases same : side = h
    · exact same ▸ lost
    · -- the program has the end that reads, so that is not the one it lost
      refine absurd ⟨_, .inl has, ?_⟩ lost
      rw [Stream.end?, half, Half.eq_other_of_ne same]
  · exact nomatch answered done nofun
  · have nothing := answered done nofun
    simp only [Option.some.injEq, ByteResult.data.injEq, List.take_eq_nil_iff] at nothing
    exact absurd nothing (not_or.2 ⟨Nat.ne_of_gt positive, something⟩)

end

/-- In each direction of a stream the bytes that were read are the first of those that were written,
and no more are on their way than fit into the buffer. Until the stream is closed a read gets the
next of them, and a write puts in as much as fits; a read tells of the end only when all was read,
and the other end was shut down or lost. Once the stream is closed no bytes pass. The buffers of
what is dialed have the size that the parameters ask for, and room for one byte at least. -/
theorem bytes_arrive_intact (acts : List Act) (k : Nat) (h : Half) :
    let s := start.run acts
    let l := s.history
    read k h.other l <+: written k h l ∧
      (∀ b ∈ births l, b.2.pipe = k → ∃ capacity, MadeWith l k capacity) ∧
      (∀ capacity, MadeWith l k capacity →
        (written k h l).length ≤ (read k h.other l).length + capacity) ∧
      (∀ b ∈ births l, b.2.pipe = k → s.network.isFired b.2.signal = true → ∀ more : List Act,
        written k h (s.run more).history = written k h l ∧
          read k h (s.run more).history = read k h l) ∧
      (∀ x ∈ streams l, x.end? = some (k, h.other) → s.network.isFired x.signal = false →
        ∀ count, 0 < count →
          (read k h.other l ≠ written k h l → (s.act (.use x (.read count))).history =
            l ++ [.used x (.read count) (some (.data
              (((written k h l).drop (read k h.other l).length).take count)))]) ∧
          ((s.act (.use x (.read count))).history = l ++ [.used x (.read count) (some (.data []))] →
            read k h.other l = written k h l ∧
              (wasShut k h l = true ∨ ¬HasEnd s.network l k h))) ∧
      (∀ x ∈ streams l, x.end? = some (k, h) → s.network.isFired x.signal = false →
        wasShut k h l = false → (∀ side, HasEnd s.network l k side) →
        ∀ capacity, MadeWith l k capacity →
          (written k h l).length < (read k h.other l).length + capacity → ∀ payload,
          (s.act (.use x (.write payload))).history = l ++ [.used x (.write payload) (some
            (.written (min payload.length
              ((read k h.other l).length + capacity - (written k h l).length))))]) ∧
      ∀ (n : Network) (c : Category) (address : String) (p : Parameters) (i : Nat),
        let size := max (p.count Implementation.bufferKey Implementation.standardBuffer) 1
        (n.streams.reach address = .ok i → ∃ (q : PipedStream) (n' : Network),
          Network.dial (.bound c .memory address p) n = (.ok (.stream (.piped q)), n') ∧
            n'.pipes[q.pipe]? = some (.empty size)) ∧
          (n.sockets.reach address = .ok i → ∃ (j : Nat) (n' : Network),
            Network.dial (.bound c .memoryMux address p) n =
                (.ok (.muxed (.session j .first)), n') ∧
              sessionCapacity? n' j = some size) := by
  intro s l
  have stocked := stocked_run acts
  have carried := carried_run acts
  have sized := sized_run acts
  refine ⟨?_, ?_, ?_, ?_, ?_, ?_, ?_⟩
  · cases there : s.network.pipes[k]? with
    | some p => exact ⟨_, ((carried k p there).bytes h).symm⟩
    | none =>
        have nothing := stocked.silent_beyond (List.getElem?_eq_none_iff.1 there) h.other
        exact nothing.2 ▸ List.nil_prefix
  · rintro b hb rfl
    exact sized.madeWith stocked hb
  · intro capacity made
    obtain ⟨p, there, room⟩ := sized.pipes k capacity made
    have c := carried k p there
    rw [c.bytes, List.length_append]
    exact Nat.add_le_add_left (room h ▸ c.within h) _
  · rintro b hb rfl fired more
    exact (silent_since acts more hb fired).2.2 h
  · intro x has own unfired count positive
    exact ⟨reads_next stocked carried has unfired own positive,
      end_of_read stocked carried has unfired own positive⟩
  · intro x has own unfired unshut whole capacity made free payload
    exact writes_what_fits stocked carried has unfired own (sized.pipes k capacity made) unshut
      whole payload free
  · intro n c address p i size
    refine ⟨fun reached => ?_, fun reached => ?_⟩
    · rw [Network.dial_streams, reached]
      exact ⟨_, _, rfl, List.getElem?_concat_length⟩
    · rw [Network.dial_sockets, reached]
      have there : (n.afterDial ⟨address, size⟩ i).sessions[n.sessions.length]? =
          some (n.nextSession ⟨address, size⟩) := List.getElem?_concat_length
      exact ⟨_, _, rfl, sessionCapacity?_eq there⟩

end

end Paired

end TransportStack

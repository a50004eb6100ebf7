import TransportStack.Demux.Rotation

/-!
Callers of a demultiplexed dialer who take turns. Any number of them may wait for the lock, in any
order they get it, and anything may happen to the connections between two moves. A call is known by
its place among those that had the lock, and there is a record of what it did. It takes one of three
courses, and which one depends on its place and on the connection that was dialed last.
-/

namespace TransportStack.Rotation

/-- Something that a call does while it has the lock, with the world in which it does so. -/
inductive Event (ω κ σ : Type)
  /-- It looks at the connection at hand. -/
  | looked (world : ω)
  | dialed (world : ω) (result : Except TransportError κ)
  | opened (world : ω) (connection : κ) (result : Except TransportError σ)
  | returned (result : Except TransportError σ)

structure Turn (ω κ σ : Type) where
  caller : Nat
  events : List (Event ω κ σ)

/-- What the caller that has the lock does next. -/
inductive Stage (κ : Type)
  | looking
  | dialing
  | opening (connection : κ)

/-- How often the caller goes on until it returns, at most. -/
def Stage.left {κ : Type} : Stage κ → Nat
  | looking => 3
  | dialing => 2
  | opening _ => 1

theorem Stage.left_le {κ : Type} (stage : Stage κ) : stage.left ≤ 3 := by
  cases stage <;> simp [left]

/-- The state between two moves. The calls that have returned are in the order in which they got the
lock. -/
structure Callers (ω κ σ : Type) where
  rotation : Rotation κ
  world : ω
  waiting : List Nat
  current : Option (Turn ω κ σ × Stage κ)
  turns : List (Turn ω κ σ)

inductive Move (ω : Type)
  /-- Something else changes what lies beneath. -/
  | elsewhere (world : ω)
  | call (caller : Nat)
  | lock (caller : Nat)
  /-- The caller that has the lock goes on. -/
  | proceed

def Move.isProceed {ω : Type} : Move ω → Bool
  | proceed => true
  | elsewhere _ | call _ | lock _ => false

namespace Callers

variable {ω κ σ : Type}

def start (p : Parameters) (w : ω) : Callers ω κ σ := ⟨.ofParameters p, w, [], none, []⟩

def lock (caller : Nat) (s : Callers ω κ σ) : Callers ω κ σ :=
  match s.current with
  | some _ => s
  | none =>
      if caller ∈ s.waiting then
        { s with
          rotation := s.rotation.begin
          waiting := s.waiting.erase caller
          current := some (⟨caller, []⟩, .looking) }
      else s

variable (d : Dialer ω κ σ)

/-- The call that has the lock returns. -/
def finish (s : Callers ω κ σ) (t : Turn ω κ σ) (events : List (Event ω κ σ)) (w : ω) :
    Callers ω κ σ :=
  { s with
    rotation := s.rotation.finish
    world := w
    current := none
    turns := s.turns ++ [{ t with events := t.events ++ events }] }

def goOn (s : Callers ω κ σ) (t : Turn ω κ σ) (event : Event ω κ σ) (stage : Stage κ) :
    Callers ω κ σ :=
  { s with current := some ({ t with events := t.events ++ [event] }, stage) }

def proceed (s : Callers ω κ σ) : Callers ω κ σ :=
  match s.current with
  | none => s
  | some (t, .looking) =>
      match s.rotation.reusable? (d.isClosed · s.world) with
      | some c => s.goOn t (.looked s.world) (.opening c)
      | none => s.goOn t (.looked s.world) .dialing
  | some (t, .dialing) =>
      match d.dial s.world with
      | (.error e, w) => s.finish t [.dialed s.world (.error e), .returned (.error e)] w
      | (.ok c, w) =>
          { s with rotation := s.rotation.hold c, world := w }.goOn t (.dialed s.world (.ok c))
            (.opening c)
  | some (t, .opening c) =>
      let (stream, w) := d.openStream c s.world
      s.finish t [.opened s.world c stream, .returned stream] w

/-- Makes a move; one that cannot be made changes nothing. -/
def move (s : Callers ω κ σ) : Move ω → Callers ω κ σ
  | .elsewhere w => { s with world := w }
  | .call caller => { s with waiting := s.waiting ++ [caller] }
  | .lock caller => s.lock caller
  | .proceed => s.proceed d

def run (s : Callers ω κ σ) (moves : List (Move ω)) : Callers ω κ σ := moves.foldl (move d) s

end Callers

section

variable {ω κ σ : Type}

def Event.connection? : Event ω κ σ → Option κ
  | dialed _ (.ok c) => some c
  | dialed _ (.error _) | looked _ | opened .. | returned _ => none

/-- The connection that was dialed last. -/
def latest (turns : List (Turn ω κ σ)) : Option κ :=
  ((turns.flatMap Turn.events).filterMap Event.connection?).getLast?

/-- Whether call number `i` has to dial, after `last` was dialed. -/
def Due (d : Dialer ω κ σ) (limit i : Nat) (last : Option κ) (w : ω) : Prop :=
  i % limit = 0 ∨ last = none ∨ ∃ c, last = some c ∧ d.isClosed c w = true

/-- The courses of a call that returns. A dial that fails is all that it does, and its failure is
what the call returns. Otherwise it opens one stream, on the connection that it has dialed or on the
last one that was, and returns what came of that. -/
inductive Course (d : Dialer ω κ σ) (limit i : Nat) (last : Option κ) : List (Event ω κ σ) → Prop
  | failed (w w' : ω) (e : TransportError) (due : Due d limit i last w)
      (refused : (d.dial w').1 = .error e) :
      Course d limit i last [.looked w, .dialed w' (.error e), .returned (.error e)]
  | fresh (w w' w'' : ω) (c : κ) (stream : Except TransportError σ) (due : Due d limit i last w)
      (made : (d.dial w').1 = .ok c) (answered : (d.openStream c w'').1 = stream) :
      Course d limit i last
        [.looked w, .dialed w' (.ok c), .opened w'' c stream, .returned stream]
  | reused (w w' : ω) (c : κ) (stream : Except TransportError σ) (current : ¬Due d limit i last w)
      (found : last = some c) (answered : (d.openStream c w').1 = stream) :
      Course d limit i last [.looked w, .opened w' c stream, .returned stream]

/-- What a call has done before it does what is next. -/
inductive UnderWay (d : Dialer ω κ σ) (limit i : Nat) (last : Option κ) :
    Stage κ → List (Event ω κ σ) → Prop
  | looking : UnderWay d limit i last .looking []
  | dialing (w : ω) (due : Due d limit i last w) : UnderWay d limit i last .dialing [.looked w]
  | fresh (w w' : ω) (c : κ) (due : Due d limit i last w) (made : (d.dial w').1 = .ok c) :
      UnderWay d limit i last (.opening c) [.looked w, .dialed w' (.ok c)]
  | reused (w : ω) (c : κ) (current : ¬Due d limit i last w) (found : last = some c) :
      UnderWay d limit i last (.opening c) [.looked w]

theorem latest_concat (turns : List (Turn ω κ σ)) (t : Turn ω κ σ) :
    latest (turns ++ [t]) = (t.events.filterMap Event.connection?).getLast?.or (latest turns) := by
  simp only [latest, List.flatMap_append, List.flatMap_singleton, List.filterMap_append,
    List.getLast?_append]

variable {d : Dialer ω κ σ} {limit i : Nat} {r : Rotation κ} {w : ω}

theorem reusable?_eq_none_iff (counted : r.calls = i % limit) :
    r.reusable? (d.isClosed · w) = none ↔ Due d limit i r.connection w := by
  rw [reusable?, Due, counted]
  by_cases first : i % limit = 0
  · simp [first]
  · cases r.connection <;> simp [first]

theorem reusable?_eq_some_iff (counted : r.calls = i % limit) {c : κ} :
    r.reusable? (d.isClosed · w) = some c ↔
      ¬Due d limit i r.connection w ∧ r.connection = some c := by
  rw [← reusable?_eq_none_iff counted]
  constructor
  · intro found
    refine ⟨by simp [found], ?_⟩
    rw [reusable?] at found
    split at found
    · cases found
    · exact (Option.filter_eq_some_iff.1 found).1
  · rintro ⟨usable, held⟩
    obtain ⟨c', found⟩ := Option.ne_none_iff_exists'.1 usable
    rw [found]
    rw [reusable?] at found
    split at found
    · cases found
    · exact held ▸ (Option.filter_eq_some_iff.1 found).1.symm

end

/-- What holds between two moves. The counter tells the place of the next call, and while a call has
the lock that of the call. -/
structure Callers.Sound {ω κ σ : Type} (d : Dialer ω κ σ) (limit : Nat) (s : Callers ω κ σ) :
    Prop where
  fixed : s.rotation.limit = limit
  within : s.rotation.calls ≤ limit
  held : s.rotation.connection = latest (s.turns ++ (s.current.map Prod.fst).toList)
  lawful : ∀ i t, s.turns[i]? = some t → Course d limit i (latest (s.turns.take i)) t.events
  idle : s.current = none → s.rotation.calls % limit = s.turns.length % limit
  busy : ∀ t stage, s.current = some (t, stage) → s.rotation.calls = s.turns.length % limit ∧
    UnderWay d limit s.turns.length (latest s.turns) stage t.events

namespace Callers

variable {ω κ σ : Type} {d : Dialer ω κ σ} {limit : Nat} {s : Callers ω κ σ}

theorem sound_start (d : Dialer ω κ σ) (p : Parameters) (w : ω) :
    (start p w).Sound d (max 1 (p.count limitKey 1)) where
  fixed := by
    simp only [start, ofParameters, Rotation.start, Parameters.positiveCount]
    omega
  within := Nat.zero_le _
  held := rfl
  lawful _ _ h := nomatch h
  idle _ := rfl
  busy _ _ h := nomatch h

/-- Nothing but the counter, the connection and the calls matters. -/
theorem Sound.congr (h : s.Sound d limit) {s' : Callers ω κ σ} (rotation : s'.rotation = s.rotation)
    (current : s'.current = s.current) (turns : s'.turns = s.turns) : s'.Sound d limit := by
  obtain ⟨rotation', world', waiting', current', turns'⟩ := s'
  cases rotation
  cases current
  cases turns
  exact ⟨h.fixed, h.within, h.held, h.lawful, h.idle, h.busy⟩

theorem Sound.lock (h : s.Sound d limit) (positive : 0 < limit) (caller : Nat) :
    (s.lock caller).Sound d limit := by
  unfold Callers.lock
  split
  · exact h
  · rename_i free
    split
    · refine ⟨h.fixed, ?_, ?_, h.lawful, fun h => (nomatch h), ?_⟩
      · simp only [begin, h.fixed]
        exact Nat.le_of_lt (Nat.mod_lt _ positive)
      · have held := h.held
        rw [free, Option.map_none, Option.toList_none, List.append_nil] at held
        rw [Option.map_some, Option.toList_some, latest_concat]
        exact held
      · rintro t stage current
        cases current
        refine ⟨?_, .looking⟩
        simp only [begin, h.fixed]
        exact h.idle free
    · exact h

theorem Sound.connection_eq (h : s.Sound d limit) {t : Turn ω κ σ} {stage : Stage κ}
    (current : s.current = some (t, stage)) :
    s.rotation.connection =
      (t.events.filterMap Event.connection?).getLast?.or (latest s.turns) := by
  rw [h.held, current, ← latest_concat]
  rfl

theorem Sound.goOn (h : s.Sound d limit) {t : Turn ω κ σ} {stage stage' : Stage κ}
    (current : s.current = some (t, stage)) {event : Event ω κ σ}
    (quiet : event.connection? = none)
    (underWay : UnderWay d limit s.turns.length (latest s.turns) stage' (t.events ++ [event])) :
    (s.goOn t event stage').Sound d limit := by
  refine ⟨h.fixed, h.within, ?_, h.lawful, fun h => (nomatch h), ?_⟩
  · change s.rotation.connection = latest (s.turns ++ [_])
    rw [h.connection_eq current, latest_concat]
    simp [quiet]
  · rintro _ _ same
    cases same
    exact ⟨(h.busy t stage current).1, underWay⟩

theorem Sound.finish (h : s.Sound d limit) (positive : 0 < limit) {t : Turn ω κ σ}
    {stage : Stage κ} (current : s.current = some (t, stage)) {events : List (Event ω κ σ)}
    (quiet : events.filterMap Event.connection? = []) (w : ω)
    (course : Course d limit s.turns.length (latest s.turns) (t.events ++ events)) :
    (s.finish t events w).Sound d limit := by
  have counted := (h.busy t stage current).1
  refine ⟨h.fixed, ?_, ?_, ?_, fun _ => ?_, fun _ _ h => (nomatch h)⟩
  · have less := Nat.mod_lt s.turns.length positive
    rw [← counted] at less
    exact less
  · change s.rotation.connection = latest (s.turns ++ [_] ++ [])
    rw [h.connection_eq current, List.append_nil, latest_concat]
    simp [quiet]
  · intro i t' found
    change (s.turns ++ [_])[i]? = some t' at found
    change Course d limit i (latest ((s.turns ++ [_]).take i)) t'.events
    obtain less | last := Nat.lt_or_ge i s.turns.length
    · rw [List.getElem?_append_left less] at found
      rw [List.take_append_of_le_length (Nat.le_of_lt less)]
      exact h.lawful i t' found
    · rw [List.getElem?_append_right last, List.getElem?_singleton] at found
      split at found
      · rename_i here
        cases found
        obtain rfl : i = s.turns.length := by omega
        rw [List.take_left]
        exact course
      · cases found
  · simp only [Callers.finish, Rotation.finish, counted, List.length_append, List.length_singleton,
      Nat.mod_add_mod]

theorem Sound.proceed (h : s.Sound d limit) (positive : 0 < limit) :
    (s.proceed d).Sound d limit := by
  cases current : s.current with
  | none =>
      simp only [Callers.proceed, current]
      exact h
  | some had =>
      obtain ⟨t, stage⟩ := had
      obtain ⟨counted, underWay⟩ := h.busy t stage current
      have held := h.connection_eq current
      simp only [Callers.proceed, current]
      generalize events : t.events = events at underWay held
      cases underWay with
      | looking =>
          have held : s.rotation.connection = latest s.turns := held
          dsimp only
          split
          · rename_i c found
            obtain ⟨undue, found⟩ := (reusable?_eq_some_iff counted).1 found
            rw [held] at undue found
            refine h.goOn current rfl ?_
            rw [events]
            exact .reused _ c undue found
          · rename_i none_found
            have due := (reusable?_eq_none_iff counted).1 none_found
            rw [held] at due
            refine h.goOn current rfl ?_
            rw [events]
            exact .dialing _ due
      | dialing w due =>
          dsimp only
          split
          · rename_i e w' failed
            refine h.finish positive current rfl w' ?_
            rw [events]
            exact .failed w s.world e due (congrArg Prod.fst failed)
          · rename_i c w' made
            refine ⟨h.fixed, h.within, ?_, h.lawful, fun h => (nomatch h), ?_⟩
            · change some c = latest (s.turns ++ [_])
              rw [latest_concat, events]
              rfl
            · rintro _ _ same
              cases same
              refine ⟨counted, ?_⟩
              rw [events]
              exact .fresh w s.world c due (congrArg Prod.fst made)
      | fresh w w' c due made =>
          refine h.finish positive current rfl _ ?_
          rw [events]
          exact .fresh w w' s.world c _ due made rfl
      | reused w c undue found =>
          refine h.finish positive current rfl _ ?_
          rw [events]
          exact .reused w s.world c _ undue found rfl

theorem Sound.move (h : s.Sound d limit) (positive : 0 < limit) (m : Move ω) :
    (s.move d m).Sound d limit := by
  cases m with
  | elsewhere w => exact h.congr rfl rfl rfl
  | call caller => exact h.congr rfl rfl rfl
  | lock caller => exact h.lock positive caller
  | proceed => exact h.proceed positive

theorem Sound.run (h : s.Sound d limit) (positive : 0 < limit) (moves : List (Move ω)) :
    (s.run d moves).Sound d limit := by
  induction moves generalizing s with
  | nil => exact h
  | cons m ms ih => exact ih (h.move positive m)

/-- The call that has the lock comes closer to its end, or returns. -/
theorem proceed_cases {t : Turn ω κ σ} {stage : Stage κ} (current : s.current = some (t, stage)) :
    (∃ events, (s.proceed d).turns = s.turns ++ [{ t with events := t.events ++ events }]) ∨
      ∃ event stage', stage'.left < stage.left ∧ (s.proceed d).turns = s.turns ∧
        (s.proceed d).current = some ({ t with events := t.events ++ [event] }, stage') := by
  simp only [Callers.proceed, current]
  cases stage with
  | looking =>
      dsimp only
      split
      · rename_i c _
        exact .inr ⟨_, .opening c, by simp [Stage.left], rfl, rfl⟩
      · exact .inr ⟨_, .dialing, by simp [Stage.left], rfl, rfl⟩
  | dialing =>
      dsimp only
      split
      · exact .inl ⟨_, rfl⟩
      · rename_i c _ _
        exact .inr ⟨_, .opening c, by simp [Stage.left], rfl, rfl⟩
  | opening c => exact .inl ⟨_, rfl⟩

theorem turns_move (s : Callers ω κ σ) (m : Move ω) : s.turns <+: (s.move d m).turns := by
  cases m with
  | elsewhere w => exact List.prefix_rfl
  | call caller => exact List.prefix_rfl
  | lock caller =>
      simp only [Callers.move, Callers.lock]
      split
      · exact List.prefix_rfl
      · split <;> exact List.prefix_rfl
  | proceed =>
      simp only [Callers.move]
      cases current : s.current with
      | none => simp [Callers.proceed, current]
      | some had =>
          obtain ⟨events, turns⟩ | ⟨event, stage, -, turns, -⟩ := proceed_cases (d := d) current
          · exact turns ▸ List.prefix_append _ _
          · exact turns ▸ List.prefix_rfl

theorem turns_run (s : Callers ω κ σ) (moves : List (Move ω)) :
    s.turns <+: (s.run d moves).turns := by
  induction moves generalizing s with
  | nil => exact List.prefix_rfl
  | cons m ms ih => exact (turns_move s m).trans (ih (s.move d m))

/-- The call that has the lock returns once it has gone on often enough, whatever else happens. -/
theorem returns {t : Turn ω κ σ} {stage : Stage κ} (current : s.current = some (t, stage))
    {moves : List (Move ω)} (enough : stage.left ≤ moves.countP Move.isProceed) :
    ∃ events, (s.run d moves).turns[s.turns.length]? =
      some { t with events := t.events ++ events } := by
  induction moves generalizing s t stage with
  | nil => cases stage <;> cases enough
  | cons m ms ih =>
      cases m with
      | elsewhere w => exact ih (s := s.move d (.elsewhere w)) current enough
      | call caller => exact ih (s := s.move d (.call caller)) current enough
      | lock caller =>
          have busy : s.move d (.lock caller) = s := by
            simp only [Callers.move, Callers.lock, current]
          rw [Callers.run, List.foldl_cons, busy]
          exact ih current enough
      | proceed =>
          have counted : (Move.proceed :: ms).countP Move.isProceed = ms.countP Move.isProceed + 1 :=
            List.countP_cons_of_pos rfl
          rw [counted] at enough
          obtain ⟨events, turns⟩ | ⟨event, stage', less, turns, current'⟩ :=
            proceed_cases (d := d) current
          · obtain ⟨more, later⟩ := turns_run (d := d) (s.proceed d) ms
            refine ⟨events, ?_⟩
            change ((s.proceed d).run d ms).turns[s.turns.length]? = _
            rw [← later, turns, List.append_assoc, List.getElem?_append_right (Nat.le_refl _),
              Nat.sub_self]
            rfl
          · obtain ⟨events, returned⟩ := ih current' (by omega)
            refine ⟨event :: events, ?_⟩
            rw [turns, List.append_assoc, List.singleton_append] at returned
            exact returned

/-- What has become of a caller that made its call without being interrupted. -/
structure MakesCall (d : Dialer ω κ σ) (caller : Nat) (s s' : Callers ω κ σ) : Prop where
  rotation : s'.rotation = (s.rotation.call d s.world).2.1
  world : s'.world = (s.rotation.call d s.world).2.2
  free : s'.current = none
  waiting : s'.waiting = s.waiting.erase caller
  turns : ∃ events,
    s'.turns = s.turns ++ [⟨caller, events ++ [.returned (s.rotation.call d s.world).1]⟩]

/-- Whoever takes the lock and goes on until it returns makes one call. -/
theorem makesCall (free : s.current = none) {caller : Nat} (waits : caller ∈ s.waiting) :
    MakesCall d caller s (s.run d [.lock caller, .proceed, .proceed, .proceed]) := by
  obtain ⟨r, w, waiting, current, turns⟩ := s
  cases free
  have begun : Callers.lock caller ⟨r, w, waiting, none, turns⟩ =
      (⟨r.begin, w, waiting.erase caller, some (⟨caller, []⟩, .looking), turns⟩ :
        Callers ω κ σ) := if_pos waits
  simp only [Callers.run, List.foldl_cons, List.foldl_nil, Callers.move, begun]
  cases found : r.begin.reusable? (d.isClosed · w) with
  | some c =>
      have called : r.call d w =
          ((d.openStream c w).1, r.begin.finish, (d.openStream c w).2) := by simp only [call, found]
      simp only [Callers.proceed, found, Callers.goOn, Callers.finish]
      constructor <;> simp only [called]
      exact ⟨[.looked w, .opened w c _], rfl⟩
  | none =>
      rcases dialed : d.dial w with ⟨e | c, w'⟩
      · have called : r.call d w = (.error e, r.begin.finish, w') := by
          simp only [call, found, dialed]
        simp only [Callers.proceed, found, Callers.goOn, Callers.finish, dialed]
        constructor <;> simp only [called]
        exact ⟨[.looked w, .dialed w (.error e)], rfl⟩
      · have called : r.call d w = ((d.openStream c w').1, (r.begin.hold c).finish,
            (d.openStream c w').2) := by simp only [call, found, dialed]
        simp only [Callers.proceed, found, Callers.goOn, Callers.finish, dialed]
        constructor <;> simp only [called]
        exact ⟨[.looked w, .dialed w (.ok c), .opened w' c _], rfl⟩

end Callers

end TransportStack.Rotation

import TransportStack.Proofs.Network.Held
import TransportStack.Proofs.Paired.Effects

/-!
Who holds what when there are only sessions and streams. The program holds what it has, and an end
of a session holds the streams that wait on the session. A release takes the rest: it ends pipes one
of whose ends nobody holds, and marks the halves of sessions that the program has left.
-/

namespace TransportStack

theorem Half.exists_iff {P : Half → Prop} : (∃ h, P h) ↔ P .first ∨ P .second := by
  constructor
  · rintro ⟨_ | _, h⟩
    · exact .inl h
    · exact .inr h
  · rintro (h | h)
    · exact ⟨.first, h⟩
    · exact ⟨.second, h⟩

/-- A session some halves of which nobody holds any more. -/
def Session.relinquish {τ : Type} (s : Session τ) (gone : Half → Bool) : Session τ :=
  { s with
    halves :=
      ⟨{ s.halves.first with released := s.halves.first.released || gone .first },
        { s.halves.second with released := s.halves.second.released || gone .second }⟩ }

theorem Session.relinquish_none {τ : Type} (s : Session τ) : (s.relinquish fun _ => false) = s := by
  simp only [relinquish, Bool.or_false]

theorem Session.relinquish_relinquish {τ : Type} (s : Session τ) (f g : Half → Bool) :
    (s.relinquish f).relinquish g = s.relinquish fun h => f h || g h := by
  simp only [relinquish, Bool.or_assoc]

theorem Session.release_eq {τ : Type} (s : Session τ) (h : Half) :
    s.release h = s.relinquish fun side => side = h := by
  cases h <;> simp [release, modify, Halves.modify, relinquish]

@[simp] theorem Pipe.release_release (p : Pipe) : p.release.release = p.release := rfl

/-- Whether something is a half of a pipe or of a session. -/
def Holding.isHalf : Holding → Bool
  | pipeHalf .. | sessionHalf .. => true
  | _ => false

namespace Network

variable (n : Network)

/-- The network has pipes, sessions and signals, and nothing else. -/
structure Bare : Prop where
  demuxers : n.demuxers = []
  links : n.links = []
  streams : n.streams.bindings = []
  sockets : n.sockets.bindings = []

/-- The streams that wait on a session, for either half. -/
def queued (i : Nat) : List Stream :=
  (n.sessions[i]?.map fun s => s.halves.first.incoming ++ s.halves.second.incoming).getD []

variable {n}

theorem queued_eq {i : Nat} {s : Session Stream} (there : n.sessions[i]? = some s) :
    n.queued i = s.halves.first.incoming ++ s.halves.second.incoming := by
  rw [queued, there]
  rfl

theorem mem_queued_iff {i : Nat} {s : Session Stream} (there : n.sessions[i]? = some s)
    {x : Stream} : x ∈ n.queued i ↔ ∃ h, x ∈ (s.halves.get h).incoming := by
  rw [queued_eq there, List.mem_append, Half.exists_iff]
  rfl

theorem heldBy_sessionHalf (n : Network) (i : Nat) (h : Half) :
    n.heldBy (.sessionHalf i h) = (n.queued i).flatMap Stream.holdings := by
  rw [heldBy, queued]
  cases n.sessions[i]? <;> rfl

theorem mem_unreleased_pipeHalf {k : Nat} {p : Pipe} (there : n.pipes[k]? = some p)
    (whole : p.released = false) (h : Half) : .pipeHalf k h ∈ n.unreleased := by
  simp only [unreleased, List.mem_append, List.mem_flatMap, unreleased.withPlaces]
  refine .inl (.inl (.inl (.inl (.inl ⟨(p, k), List.mk_mem_zipIdx_iff_getElem?.2 there, ?_⟩))))
  cases h <;> simp [whole]

section

variable {loose : List Holding} (halves : ∀ x ∈ loose, x.isHalf = true)
include halves

theorem pipes_releaseAll (n : Network) (k : Nat) :
    (loose.foldl releaseOne n).pipes[k]? = n.pipes[k]?.map fun p =>
      if .pipeHalf k .first ∈ loose ∨ .pipeHalf k .second ∈ loose then p.release else p := by
  induction loose generalizing n with
  | nil => simp
  | cons x xs ih =>
      rw [List.foldl_cons, ih fun y hy => halves y (List.mem_cons_of_mem _ hy)]
      cases x with
      | pipeHalf j side =>
          change ((n.pipes.modify j Pipe.release)[k]?).map _ = _
          rw [List.getElem?_modify]
          by_cases same : j = k
          · subst same
            cases n.pipes[j]? with
            | none => rfl
            | some p => cases side <;> simp
          · simp [same, Ne.symm same]
      | sessionHalf j side =>
          change n.pipes[k]?.map _ = _
          simp
      | _ => cases halves _ List.mem_cons_self

theorem sessions_releaseAll (n : Network) (i : Nat) :
    (loose.foldl releaseOne n).sessions[i]? =
      n.sessions[i]?.map (·.relinquish fun h => .sessionHalf i h ∈ loose) := by
  induction loose generalizing n with
  | nil => simp [Session.relinquish_none]
  | cons x xs ih =>
      rw [List.foldl_cons, ih fun y hy => halves y (List.mem_cons_of_mem _ hy)]
      cases x with
      | pipeHalf j side =>
          change n.sessions[i]?.map _ = _
          simp
      | sessionHalf j side =>
          change ((n.sessions.modify j fun s => s.release side)[i]?).map _ = _
          rw [List.getElem?_modify]
          by_cases same : j = i
          · subst same
            cases n.sessions[j]? with
            | none => rfl
            | some s =>
                simp only [if_true, Option.map_eq_map, Option.map_some, Session.release_eq,
                  Session.relinquish_relinquish, List.mem_cons, Holding.sessionHalf.injEq,
                  true_and, Bool.decide_or]
          · simp [same, Ne.symm same]
      | _ => cases halves _ List.mem_cons_self

theorem rest_releaseAll (n : Network) :
    (loose.foldl releaseOne n).signals = n.signals ∧
      (n.Bare → (loose.foldl releaseOne n).Bare) := by
  induction loose generalizing n with
  | nil => exact ⟨rfl, id⟩
  | cons x xs ih =>
      obtain ⟨signals, bare⟩ :=
        ih (fun y hy => halves y (List.mem_cons_of_mem _ hy)) (n.releaseOne x)
      cases x with
      | pipeHalf j side =>
          exact ⟨signals, fun b => bare ⟨b.demuxers, b.links, b.streams, b.sockets⟩⟩
      | sessionHalf j side =>
          exact ⟨signals, fun b => bare ⟨b.demuxers, b.links, b.streams, b.sockets⟩⟩
      | _ => cases halves _ List.mem_cons_self

end

theorem Bare.isHalf (bare : n.Bare) {x : Holding} (unreleased : x ∈ n.unreleased) :
    x.isHalf = true := by
  have there := unreleased_of_mem unreleased
  cases x with
  | pipeHalf k side => rfl
  | sessionHalf i side => rfl
  | single signal =>
      obtain ⟨l, hl, -⟩ := there
      rw [bare.links] at hl
      cases hl
  | streamBinding i =>
      rw [Unreleased, Exchange.isLive, bare.streams] at there
      cases there
  | socketBinding i =>
      rw [Unreleased, Exchange.isLive, bare.sockets] at there
      cases there
  | demuxer i =>
      obtain ⟨d, hd⟩ := there
      rw [bare.demuxers] at hd
      cases hd
  | dialed _ | accepted _ | rotation _ => exact there.elim

end Network

namespace Paired

/-- Whether the program has an end of a stream, or can still accept it. -/
def Has (n : Network) (l : List Happening) (x : Stream) : Prop :=
  x ∈ streams l ∨ ∃ i h, .session i h ∈ sockets l ∧ x ∈ n.queued i

/-- Whether the program has, or can still accept, such an end of the stream on a pipe. -/
def HasEnd (n : Network) (l : List Happening) (k : Nat) (h : Half) : Prop :=
  ∃ x, Has n l x ∧ x.end? = some (k, h)

/-- What the program holds, by itself or on a session that it has an end of. -/
def Keeps (n : Network) (l : List Happening) : Holding → Prop
  | .sessionHalf i h => .session i h ∈ sockets l
  | .pipeHalf k h => HasEnd n l k h
  | _ => False

/-- What the next release releases. -/
def loose (n : Network) (l : List Happening) : List Holding :=
  n.unreleased.filter fun x => !(n.held (roots l)).contains x

/-- All that there is, is the program's, and all streams have two ends. -/
structure Plain (n : Network) (l : List Happening) : Prop where
  bare : n.Bare
  sessions : ∀ x ∈ sockets l, ∃ i h, x = .session i h
  streams : ∀ x ∈ streams l, ∃ q, x = .piped q
  queued : ∀ i, ∀ x ∈ n.queued i, ∃ q, x = .piped q

namespace Plain

variable {n : Network} {l : List Happening}

theorem keeps_of_mem_roots (plain : Plain n l) {y : Holding} (root : y ∈ roots l) :
    Keeps n l y := by
  obtain hy | hy := List.mem_append.1 root
  · obtain ⟨x, hx, hy⟩ := List.mem_flatMap.1 hy
    obtain ⟨i, h, rfl⟩ := plain.sessions x hx
    obtain rfl := List.mem_singleton.1 hy
    exact hx
  · obtain ⟨x, hx, hy⟩ := List.mem_flatMap.1 hy
    obtain ⟨q, rfl⟩ := plain.streams x hx
    obtain rfl := List.mem_singleton.1 hy
    exact ⟨_, .inl hx, rfl⟩

theorem keeps_of_mem_heldBy (plain : Plain n l) {x y : Holding} (keeps : Keeps n l x)
    (hy : y ∈ n.heldBy x) : Keeps n l y := by
  cases x with
  | sessionHalf i h =>
      rw [n.heldBy_sessionHalf] at hy
      obtain ⟨z, waits, hy⟩ := List.mem_flatMap.1 hy
      obtain ⟨q, rfl⟩ := plain.queued i z waits
      obtain rfl := List.mem_singleton.1 hy
      exact ⟨_, .inr ⟨i, h, keeps, waits⟩, rfl⟩
  | pipeHalf k h => cases hy
  | _ => exact keeps.elim

/-- What is held is what the program has, and the ends of streams that it can still accept. -/
theorem mem_held_iff (plain : Plain n l) {y : Holding} : y ∈ n.held (roots l) ↔ Keeps n l y := by
  have session {i : Nat} {h : Half} (has : .session i h ∈ sockets l) :
      .sessionHalf i h ∈ n.held (roots l) := by
    apply Network.held_of_grasps
    exact .inl (List.mem_append_left _ (List.mem_flatMap.2 ⟨_, has, List.mem_singleton_self _⟩))
  constructor
  · refine Network.held_within ?_ (fun x keeps y hy => plain.keeps_of_mem_heldBy keeps hy) y
    rintro x (root | ⟨d, hd, -⟩)
    · exact plain.keeps_of_mem_roots root
    · rw [plain.bare.demuxers] at hd
      cases hd
  · intro keeps
    cases y with
    | sessionHalf i h => exact session keeps
    | pipeHalf k h =>
        obtain ⟨x, has | ⟨i, side, has, waits⟩, own⟩ := keeps
        · obtain ⟨q, rfl⟩ := plain.streams x has
          cases own
          apply Network.held_of_grasps
          refine .inl (List.mem_append_right _ (List.mem_flatMap.2 ⟨_, has, ?_⟩))
          exact List.mem_singleton_self _
        · obtain ⟨q, rfl⟩ := plain.queued i x waits
          cases own
          refine Network.held_closed (session has) ?_
          rw [n.heldBy_sessionHalf]
          exact List.mem_flatMap.2 ⟨_, waits, List.mem_singleton_self _⟩
    | _ => exact keeps.elim

theorem mem_loose_iff (plain : Plain n l) {x : Holding} :
    x ∈ loose n l ↔ x ∈ n.unreleased ∧ ¬Keeps n l x := by
  rw [loose, List.mem_filter, ← plain.mem_held_iff]
  simp

theorem isHalf_of_mem_loose (plain : Plain n l) {x : Holding} (h : x ∈ loose n l) :
    x.isHalf = true :=
  plain.bare.isHalf (List.mem_filter.1 h).1

theorem release_eq (n : Network) (l : List Happening) :
    (n.release? (roots l)).getD n = (loose n l).foldl Network.releaseOne n :=
  n.release?_getD (roots l)

theorem release_rest (plain : Plain n l) :
    ((n.release? (roots l)).getD n).signals = n.signals ∧
      ((n.release? (roots l)).getD n).Bare := by
  rw [release_eq]
  obtain ⟨signals, bare⟩ := Network.rest_releaseAll (fun x => plain.isHalf_of_mem_loose) n
  exact ⟨signals, bare plain.bare⟩

/-- The halves of sessions that the program does not have any more are released. -/
theorem sessions_release (plain : Plain n l) :
    ((n.release? (roots l)).getD n).sessions =
      n.sessions.mapIdx fun i s => s.relinquish fun h => .session i h ∉ sockets l := by
  refine List.ext_getElem? fun i => ?_
  rw [release_eq, Network.sessions_releaseAll (fun x => plain.isHalf_of_mem_loose),
    List.getElem?_mapIdx]
  cases there : n.sessions[i]? with
  | none => rfl
  | some s =>
      have gone (h : Half) : ((s.halves.get h).released || decide (.sessionHalf i h ∈ loose n l)) =
          ((s.halves.get h).released || decide (.session i h ∉ sockets l)) := by
        cases released : (s.halves.get h).released with
        | true => rfl
        | false =>
            have unreleased := Network.mem_unreleased_sessionHalf there released
            simp [plain.mem_loose_iff, unreleased, Keeps]
      have first := gone .first
      have second := gone .second
      simp only [Halves.get] at first second
      simp only [Option.map_some, Session.relinquish, first, second]

open Classical in
/-- A pipe ends when the program does not have one of its ends any more. -/
theorem pipes_release (plain : Plain n l) :
    ((n.release? (roots l)).getD n).pipes = n.pipes.mapIdx fun k p =>
      if p.released = false ∧ ∃ h, ¬HasEnd n l k h then p.release else p := by
  refine List.ext_getElem? fun k => ?_
  rw [release_eq, Network.pipes_releaseAll (fun x => plain.isHalf_of_mem_loose),
    List.getElem?_mapIdx]
  cases there : n.pipes[k]? with
  | none => rfl
  | some p =>
      have gone (h : Half) :
          .pipeHalf k h ∈ loose n l ↔ p.released = false ∧ ¬HasEnd n l k h := by
        rw [plain.mem_loose_iff]
        refine and_congr_left fun _ => ⟨fun unreleased => ?_, fun released => ?_⟩
        · obtain ⟨p', same, released⟩ := Network.unreleased_of_mem unreleased
          cases there.symm.trans same
          exact released
        · exact Network.mem_unreleased_pipeHalf there released h
      simp only [Option.map_some, gone, Half.exists_iff, ← and_or_left]

end Plain

end Paired

end TransportStack

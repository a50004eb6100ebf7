import TransportStack.Proofs.Shutdown.Steps

/-!
What a shutdown leaves alone. Closing a demultiplexed listener, giving it up, a failure to accept,
the last steps of its tasks and the release of what they held neither close a stream that the program
has nor change its pipe.
-/

namespace TransportStack

open Network

namespace Program

/-- What the program holds at a place is a demultiplexed listener, or has it inside. -/
def Encloses (p : Program) (place i : Nat) : Prop :=
  ∃ x, p.products[place]? = some x ∧ .demuxer i ∈ x.holdings

/-- The program has got a stream from a listener, as it is or as the only one of a socket. -/
def Has (p : Program) (s : Stream) : Prop :=
  .stream s ∈ p.products ∨ ∃ cell x, .muxed (.accepted cell) ∈ p.products ∧
    p.network.accepted[cell]? = some x ∧ x.stream? = some s

end Program

/-- What belongs to a shutdown: what may fire the signal, what the tasks do after that, and releasing
what nobody holds any more. -/
def Act.IsPartOf (p : Program) (i : Nat) : Act → Prop
  | .use place .close => p.Encloses place i
  | .release _ => True
  | .acceptor j _ => j = i
  | .worker j _ _ => j = i ∧ p.network.isShut i = true
  | _ => False

theorem Stream.demuxer_notMem_holdings (s : Stream) (i : Nat) : .demuxer i ∉ s.holdings := by
  induction s with
  | piped s => simp [holdings]
  | single inner signal socket? ih => simp [holdings, ih]
  | recorded remote number signal => simp [holdings]

theorem Socket.demuxer_notMem_holdings (s : Socket) (i : Nat) : .demuxer i ∉ s.holdings := by
  cases s <;> simp [holdings]

namespace Program

variable {ρ : List Role} {p : Program} {s : Stream}

theorem Sound.has_fits (h : p.Sound ρ) (has : p.Has s) : s.Fits ρ := by
  obtain there | ⟨cell, x, -, hx, waiting⟩ := has
  · exact h.products _ there
  · exact ((h.fits.accepted x (List.mem_of_getElem? hx)).2 s waiting).1

/-- What a stream that the program has consists of is held, whatever else is. -/
theorem Has.held (has : p.Has s) (others : List Holding) {x : Holding} (hx : x ∈ s.holdings) :
    x ∈ p.network.held (p.roots ++ others) := by
  have root {y : Product} (hy : y ∈ p.products) {z : Holding} (hz : z ∈ y.holdings) :
      z ∈ p.network.held (p.roots ++ others) := by
    refine held_of_grasps (.inl (List.mem_append_left _ (List.mem_append_left _ ?_)))
    exact List.mem_flatMap.2 ⟨y, hy, hz⟩
  obtain there | ⟨cell, c, there, hc, waiting⟩ := has
  · exact root there hx
  · have socket : .accepted cell ∈ p.network.held (p.roots ++ others) :=
      root there (List.mem_singleton_self _)
    refine held_closed socket ?_
    simpa [heldBy, hc, waiting] using hx

end Program

section

variable {ρ : List Role} {p : Program} {a : Act} {i : Nat} {s : Stream}

/-- What belongs to a shutdown fires no signal that closes a stream the program has. -/
theorem Act.IsPartOf.spares (part : a.IsPartOf p i) (fits : s.Fits ρ) (has : p.Has s) {f : Signal}
    (cause : a.Causes ρ p f) {g : Signal} (hg : g ∈ s.signals) : ¬f.lineage <:+ g.lineage := by
  have spared {x : List Holding} (cause : ClosesWith ρ x f) : ¬f.lineage <:+ g.lineage :=
    fits.spared hg (cause.imp_right fun ⟨j, role, _⟩ => ⟨j, role⟩)
  cases a with
  | use place u =>
      cases u with
      | close =>
          obtain ⟨x, hx, inside⟩ := part
          obtain ⟨y, hy, cause⟩ := cause
          cases hx.symm.trans hy
          cases x with
          | streamListener l => exact spared cause
          | muxListener l => exact spared cause
          | packet _ => exact absurd inside List.not_mem_nil
          | stream t => exact absurd inside (t.demuxer_notMem_holdings i)
          | muxed t => exact absurd inside (t.demuxer_notMem_holdings i)
      | _ => exact part.elim
  | release others =>
      obtain ⟨role, unheld⟩ | ⟨j, role, -⟩ := cause
      · exact fun above => unheld (has.held others (fits.single_held hg role above))
      · exact fits.spared hg (.inr ⟨j, role⟩)
  | acceptor j fault? => exact fits.spared hg (.inr ⟨j, cause.1⟩)
  | worker j k fault? =>
      obtain ⟨rfl, shut⟩ := part
      exact Bool.noConfusion (cause.2.symm.trans shut)
  | _ => exact part.elim

theorem Program.Sound.spares (h : p.Sound ρ) (part : a.IsPartOf p i) (has : p.Has s) {g : Signal}
    (hg : g ∈ s.signals) : (p.act a).network.isFired g = p.network.isFired g := by
  obtain ⟨ρ', more, follows⟩ := h.act a
  rw [Bool.eq_iff_iff]
  refine ⟨fun fired => ?_, isFired_mono follows.fired⟩
  obtain ⟨f, hf, above⟩ := Signals.isFired_iff.1 fired
  obtain old | cause := follows.causes f hf
  · exact Signals.isFired_iff.2 ⟨f, old, above⟩
  · exact absurd above (part.spares ((h.has_fits has).mono more) has cause hg)

end

namespace Network

theorem pipes_acceptOnStreamListener (l : StreamListener) (n : Network) :
    (acceptOnStreamListener l n).2.pipes = n.pipes := by
  cases l with
  | gathered i shutdown inner =>
      rw [acceptOnStreamListener]
      cases n.demuxers[i]? <;> rfl
  | memory i => rfl
  | idle signal => rfl

theorem pipes_acceptOnMuxListener (l : MuxListener) (n : Network) :
    (acceptOnMuxListener l n).2.pipes = n.pipes := by
  cases l with
  | single inner =>
      have kept := pipes_acceptOnStreamListener inner n
      rw [acceptOnMuxListener]
      rcases hr : acceptOnStreamListener inner n with ⟨_ | _ | s, n'⟩
      all_goals
        rw [hr] at kept
        exact kept
  | memory i => rfl
  | idle signal => rfl

theorem pipes_acceptorStep {n n' : Network} {i : Nat} {fault? : Option TransportError}
    (step : n.taskStepWith? i none fault? = some n') : n'.pipes = n.pipes := by
  simp only [taskStepWith?, Option.bind_eq_bind, Option.bind_eq_some_iff, Prod.exists] at step
  obtain ⟨d, -, fan, n₁, step, same⟩ := step
  cases same
  have accepted : ((d.supply fault?).acceptConnection n).2.pipes = n.pipes := by
    cases fault? with
    | none => exact pipes_acceptOnMuxListener d.listener n
    | some e => rfl
  obtain ⟨-, ⟨-, -, rfl⟩ | ⟨-, ⟨c, found, -⟩ | ⟨e, n₂, failed, -, rfl⟩⟩⟩ :=
    FanIn.acceptorStep?_cases step
  · rfl
  · rw [found] at accepted
    exact accepted
  · rw [failed] at accepted
    cases fault? <;> exact accepted

/-- A worker of a listener that has shut down only ends. -/
theorem pipes_lastStep {n n' : Network} {i k : Nat} {fault? : Option TransportError}
    (shut : n.isShut i = true) (step : n.taskStepWith? i (some k) fault? = some n') :
    n'.pipes = n.pipes := by
  simp only [taskStepWith?, Option.bind_eq_bind, Option.bind_eq_some_iff, Prod.exists] at step
  obtain ⟨d, hd, c, -, fan, n₁, step, same⟩ := step
  cases same
  have fired : n.isFired d.shutdown = true := by simpa [isShut, hd] using shut
  obtain ⟨-, -, rfl⟩ | ⟨unshut, -⟩ := FanIn.workerStep?_cases step
  · rfl
  · rw [Program.supply_isShut] at unshut
    exact Bool.noConfusion (unshut.symm.trans fired)

end Network

theorem Program.pipes_work {p : Program} {i : Nat} (shut : p.network.isShut i = true) (k : Nat)
    (fault? : Option TransportError) : (p.work i k fault?).network.pipes = p.network.pipes := by
  have step (fault? : Option TransportError) :
      ((p.network.taskStepWith? i (some k) fault?).getD p.network).pipes = p.network.pipes := by
    cases moved : p.network.taskStepWith? i (some k) fault? with
    | none => rfl
    | some n' => exact pipes_lastStep shut moved
  have nothing : p.network.receive? i k = none := by
    refine Option.eq_none_iff_forall_ne_some.2 fun r received => ?_
    obtain ⟨d, -, hd, -, unshut, -⟩ := receive?_eq_some received
    simp [isShut, hd, unshut] at shut
  unfold work
  simp only [nothing, shut, if_true]
  split
  · exact step none
  · rename_i received
    cases received
  · exact step _

/-- What belongs to a shutdown leaves the pipe of a stream that the program has as it is, when
somebody holds its other half. -/
theorem Act.IsPartOf.pipe {p : Program} {a : Act} {i : Nat} {s : Stream} (part : a.IsPartOf p i)
    (has : p.Has s) {j : Nat} {side : Half} (own : .pipeHalf j side ∈ s.holdings)
    (other : ∀ others, a = .release others →
      .pipeHalf j side.other ∈ p.network.held (p.roots ++ others)) :
    (p.act a).network.pipes[j]? = p.network.pipes[j]? := by
  cases a with
  | use place u =>
      cases u with
      | close =>
          obtain ⟨x, hx, inside⟩ := part
          have used : p.act (.use place .close) = p.gains (Use.close.run x p.network) := by
            simp [Program.act, hx]
          rw [used]
          cases x with
          | streamListener l => exact congrArg (·[j]?) (pipes_closeStreamListener l p.network)
          | muxListener l => exact congrArg (·[j]?) (pipes_closeMuxListener l p.network)
          | packet _ => exact absurd inside List.not_mem_nil
          | stream t => exact absurd inside (t.demuxer_notMem_holdings i)
          | muxed t => exact absurd inside (t.demuxer_notMem_holdings i)
      | _ => exact part.elim
  | release others =>
      cases step : p.network.release? (p.roots ++ others) with
      | none => simp [Program.act, step]
      | some n' =>
          have moved : (p.act (.release others)).network = n' := by simp [Program.act, step]
          rw [moved]
          have mine := has.held others own
          refine pipe_release step fun half => ?_
          have both : half = side ∨ half = side.other := by
            cases half <;> cases side <;> simp [Half.other]
          obtain rfl | rfl := both
          · exact mine
          · exact other others rfl
  | acceptor k fault? =>
      cases step : p.network.taskStepWith? k none fault? with
      | none => simp [Program.act, step]
      | some n' =>
          have moved : (p.act (.acceptor k fault?)).network = n' := by simp [Program.act, step]
          rw [moved, pipes_acceptorStep step]
  | worker k worker fault? =>
      obtain ⟨rfl, shut⟩ := part
      exact congrArg (·[j]?) (Program.pipes_work shut worker fault?)
  | _ => exact part.elim

end TransportStack

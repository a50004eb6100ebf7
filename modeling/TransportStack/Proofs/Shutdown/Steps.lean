import Mathlib.Data.List.Induction
import TransportStack.Proofs.Shutdown.Causes

/-!
What a program and its tasks preserve. Everything that they hold fits the roles of the signals, and a
signal fires for one reason only. Once a demultiplexed listener has shut down, nothing happens to its
queue any more, and each step of a task is its last.
-/

namespace TransportStack

open Network

namespace Program

/-- What holds after all acts. -/
structure Sound (ρ : List Role) (p : Program) : Prop where
  fits : p.network.Fits ρ
  products : ∀ x ∈ p.products, x.Fits ρ p.network.outline
  inHand : ∀ q ∈ p.inHand, q.stream.Fits ρ ∧
    ∃ d, p.network.demuxers[q.demuxer]? = some d ∧ d.fan.AtWork q.worker
  rooted : ∀ d ∈ p.network.demuxers, d.Rooted p.network
  accepting : ∀ d ∈ p.network.demuxers, d.fan.accepting = false →
    p.network.isFired d.shutdown = true
  parked : ∀ d ∈ p.network.demuxers, ∀ q ∈ d.fan.parked, d.fan.AtWork q.1

/-- What is to be said of an act. -/
structure Follows (ρ : List Role) (p : Program) (a : Act) (p' : Program) : Prop where
  sound : p'.Sound ρ
  fired : p.network.signals.fired ⊆ p'.network.signals.fired
  causes : ∀ f ∈ p'.network.signals.fired, f ∈ p.network.signals.fired ∨ a.Causes ρ p f
  demuxers : ∀ (i : Nat) (d : Demuxer), p.network.demuxers[i]? = some d →
    ∃ fan : FanIn Socket Stream, p'.network.demuxers[i]? = some { d with fan := fan } ∧
      (p.network.isFired d.shutdown = true → fan = a.stops i d.fan)

section

variable {ρ ρ' : List Role} {p : Program} {P : Signal → Prop} (h : p.Sound ρ)

include h

/-- Operations that are no steps of tasks. -/
theorem Sound.proceeds (more : ρ <+: ρ') {n' : Network} (fits : n'.Fits ρ')
    (proceeds : p.network.Proceeds P n') {xs : List Product}
    (gained : ∀ x ∈ xs, x ∈ p.products ∨ x.Fits ρ' n'.outline) {inHand : List InHand}
    (held : ∀ q ∈ inHand, q ∈ p.inHand ∨ q.stream.Fits ρ' ∧
      ∃ d, p.network.demuxers[q.demuxer]? = some d ∧ d.fan.AtWork q.worker) :
    Sound ρ' ⟨n', xs, inHand⟩ where
  fits := fits
  products x hx := by
    obtain old | new := gained x hx
    · exact (h.products x old).mono more proceeds.outline
    · exact new
  inHand q hq := by
    have known : q.stream.Fits ρ' ∧
        ∃ d, p.network.demuxers[q.demuxer]? = some d ∧ d.fan.AtWork q.worker := by
      obtain old | new := held q hq
      · exact (h.inHand q old).imp_left fun fits => fits.mono more
      · exact new
    obtain ⟨fits, d, hd, working⟩ := known
    obtain ⟨fan, hd', workers, -⟩ := proceeds.demuxers _ d hd
    exact ⟨fits, _, hd', (FanIn.atWork_congr workers q.worker).2 working⟩
  rooted d hd := by
    obtain ⟨i, hi⟩ := List.mem_iff_getElem?.1 hd
    obtain old | ⟨-, -, rooted⟩ := proceeds.gathered i d hi
    · obtain ⟨fan, hd', -⟩ := proceeds.demuxers i _ (List.getElem?_eq_getElem old)
      cases hi.symm.trans hd'
      have rooted := h.rooted _ (List.getElem_mem old)
      exact proceeds.listeners.rooted rooted
    · exact rooted
  accepting d hd ended := by
    obtain ⟨i, hi⟩ := List.mem_iff_getElem?.1 hd
    obtain old | ⟨going, -⟩ := proceeds.gathered i d hi
    · obtain ⟨fan, hd', -, accepting, -⟩ := proceeds.demuxers i _ (List.getElem?_eq_getElem old)
      cases hi.symm.trans hd'
      have shut := h.accepting _ (List.getElem_mem old) (accepting.symm.trans ended)
      exact isFired_mono proceeds.fired shut
    · exact Bool.noConfusion (going.symm.trans ended)
  parked d hd q hq := by
    obtain ⟨i, hi⟩ := List.mem_iff_getElem?.1 hd
    obtain old | ⟨-, none_waits, -⟩ := proceeds.gathered i d hi
    · obtain ⟨fan, hd', workers, -, parked, -⟩ :=
        proceeds.demuxers i _ (List.getElem?_eq_getElem old)
      cases hi.symm.trans hd'
      exact (FanIn.atWork_congr workers q.1).2 (h.parked _ (List.getElem_mem old) q (parked hq))
    · rw [none_waits] at hq
      exact absurd hq List.not_mem_nil

/-- The end of a step of a task, which updates the queue and the tasks. -/
theorem Sound.withFan {i : Nat} {d : Demuxer} (hd : p.network.demuxers[i]? = some d)
    {fan : FanIn Socket Stream} (line : ∀ x ∈ fan.line, x.Fits ρ)
    (atWork : ∀ q ∈ p.inHand, q.demuxer = i → fan.AtWork q.worker)
    (accepting : fan.accepting = false → p.network.isFired d.shutdown = true)
    (parked : ∀ q ∈ fan.parked, fan.AtWork q.1) :
    Sound ρ { p with network := p.network.withFan i d fan } where
  fits := .withFan hd h.fits line
  products x hx := by
    rw [outline_withFan hd]
    exact h.products x hx
  inHand q hq := by
    obtain ⟨fits, e, he, working⟩ := h.inHand q hq
    refine ⟨fits, ?_⟩
    by_cases here : i = q.demuxer
    · refine ⟨{ d with fan := fan }, ?_, atWork q hq here.symm⟩
      rw [← here]
      exact List.getElem?_set_self (List.getElem?_eq_some_iff.1 hd).1
    · exact ⟨e, (List.getElem?_set_ne here).trans he, working⟩
  rooted e he := by
    have kept : p.network.KeepsListeners (p.network.withFan i d fan) :=
      ⟨fun _ _ hs => hs, fun _ _ hs => hs⟩
    obtain old | rfl := List.mem_or_eq_of_mem_set he
    · exact kept.rooted (h.rooted e old)
    · have rooted := h.rooted d (List.mem_of_getElem? hd)
      exact kept.rooted rooted
  accepting e he := by
    obtain old | rfl := List.mem_or_eq_of_mem_set he
    · exact h.accepting e old
    · exact accepting
  parked e he := by
    obtain old | rfl := List.mem_or_eq_of_mem_set he
    · exact h.parked e old
    · exact parked

end

variable {ρ : List Role} {p : Program}

/-- Each act but the steps of the tasks. -/
theorem Sound.follows {ρ' : List Role} (h : p.Sound ρ) {a : Act} (more : ρ <+: ρ') {n' : Network}
    (fits : n'.Fits ρ') (proceeds : p.network.Proceeds (fun f => a.Causes ρ p f) n')
    {xs : List Product} (gained : ∀ x ∈ xs, x ∈ p.products ∨ x.Fits ρ' n'.outline)
    (stops : ∀ i f, a.stops i f = f) : Follows ρ' p a ⟨n', xs, p.inHand⟩ where
  sound := h.proceeds more fits proceeds gained fun _ hq => .inl hq
  fired := proceeds.fired
  causes f hf := (proceeds.causes f hf).imp_right (Act.Causes.mono more)
  demuxers i d hd := by
    obtain ⟨fan, hd', -, -, -, same⟩ := proceeds.demuxers i d hd
    exact ⟨fan, hd', fun fired => (same fired).trans (stops i d.fan).symm⟩

theorem Sound.gains (h : p.Sound ρ) {a : Act} {r : List Product × Network}
    (ends : Ends (fun f => a.Causes ρ p f) ρ p.network r FittingProducts)
    (stops : ∀ i f, a.stops i f = f) : ∃ ρ', ρ <+: ρ' ∧ Follows ρ' p a (p.gains r) := by
  obtain ⟨ρ', more, proceeds, fits, gained⟩ := ends
  refine ⟨ρ', more, h.follows more fits proceeds (fun x hx => ?_) stops⟩
  exact (List.mem_append.1 hx).imp_right (gained x)

theorem Sound.fires (h : p.Sound ρ) {a : Act} {n' : Network}
    (fires : FiresOnly (fun f => a.Causes ρ p f) ρ p.network n')
    (stops : ∀ i f, a.stops i f = f) :
    ∃ ρ', ρ <+: ρ' ∧ Follows ρ' p a { p with network := n' } :=
  ⟨ρ, List.prefix_rfl,
    h.follows List.prefix_rfl fires.1 fires.2 (fun _ hx => .inl hx) stops⟩

/-- A step of a task: an operation on the network, after which the queue and the tasks are
updated. -/
theorem Sound.task {ρ' : List Role} (h : p.Sound ρ) {a : Act} {i : Nat} {d : Demuxer}
    (hd : p.network.demuxers[i]? = some d) (more : ρ <+: ρ') {n' : Network} (fits : n'.Fits ρ')
    (proceeds : p.network.Proceeds (fun f => a.Causes ρ' p f) n') (fan : FanIn Socket Stream)
    (line : ∀ x ∈ fan.line, x.Fits ρ') {inHand : List InHand} (fewer : inHand ⊆ p.inHand)
    (atWork : ∀ q ∈ inHand, q.demuxer = i → fan.AtWork q.worker)
    (accepting : fan.accepting = false → n'.isFired d.shutdown = true)
    (parked : ∀ q ∈ fan.parked, fan.AtWork q.1)
    (stops : p.network.isFired d.shutdown = true → fan = a.stops i d.fan)
    (others : ∀ j f, j ≠ i → a.stops j f = f) :
    Follows ρ' p a ⟨{ n' with demuxers := n'.demuxers.modify i fun d => { d with fan := fan } },
      p.products, inHand⟩ := by
  obtain ⟨fan', hd', -⟩ := proceeds.demuxers i d hd
  have replaced : { n' with demuxers := n'.demuxers.modify i fun d => { d with fan := fan } } =
      n'.withFan i { d with fan := fan' } fan := by
    simp [Network.withFan, List.modify_eq_set_getElem?, hd']
  have between : Program.Sound ρ' ⟨n', p.products, inHand⟩ :=
    h.proceeds more fits proceeds (fun _ hx => .inl hx) fun _ hq => .inl (fewer hq)
  rw [replaced]
  refine ⟨between.withFan hd' line atWork accepting parked, proceeds.fired, proceeds.causes,
    fun j e he => ?_⟩
  by_cases here : i = j
  · subst here
    cases hd.symm.trans he
    exact ⟨fan, List.getElem?_set_self (List.getElem?_eq_some_iff.1 hd').1, stops⟩
  · obtain ⟨fan, he', -, -, -, same⟩ := proceeds.demuxers j e he
    refine ⟨fan, (List.getElem?_set_ne here).trans he', fun fired => ?_⟩
    exact (same fired).trans (others j e.fan (Ne.symm here)).symm

section

variable {ρ' : List Role} (h : p.Sound ρ) {i : Nat} {d : Demuxer}
  (hd : p.network.demuxers[i]? = some d)

include h hd

theorem Sound.inHand_atWork {q : InHand} (hq : q ∈ p.inHand) (here : q.demuxer = i) :
    d.fan.AtWork q.worker := by
  obtain ⟨-, e, he, working⟩ := h.inHand q hq
  rw [here] at he
  cases hd.symm.trans he
  exact working

variable (more : ρ <+: ρ') {n' : Network} (fits : n'.Fits ρ')

include more fits

theorem Sound.stopsAccepting {fault? : Option TransportError}
    (proceeds : p.network.Proceeds (fun f => (Act.acceptor i fault?).Causes ρ' p f) n')
    (shut : n'.isFired d.shutdown = true) :
    Follows ρ' p (.acceptor i fault?) ⟨{ n' with
      demuxers := n'.demuxers.modify i fun e => { e with fan := d.fan.stopAccepting } },
      p.products, p.inHand⟩ :=
  h.task hd more fits proceeds d.fan.stopAccepting
    (fun x hx => (h.fits.line d (List.mem_of_getElem? hd) x hx).mono more) (List.Subset.refl _)
    (fun _ hq here => h.inHand_atWork hd hq here) (fun _ => shut)
    (h.parked d (List.mem_of_getElem? hd)) (fun _ => (if_pos rfl).symm)
    fun _ _ other => if_neg (Ne.symm other)

theorem Sound.assigns {fault? : Option TransportError}
    (proceeds : p.network.Proceeds (fun f => (Act.acceptor i fault?).Causes ρ' p f) n')
    (unshut : p.network.isFired d.shutdown = false) (c : Socket) :
    Follows ρ' p (.acceptor i fault?) ⟨{ n' with
      demuxers := n'.demuxers.modify i fun e => { e with fan := d.fan.assign c } },
      p.products, p.inHand⟩ := by
  have still {k : Nat} (working : d.fan.AtWork k) : (d.fan.assign c).AtWork k :=
    (FanIn.atWork_assign_iff d.fan c k).2 (.inl working)
  refine h.task hd more fits proceeds (d.fan.assign c)
    (fun x hx => (h.fits.line d (List.mem_of_getElem? hd) x hx).mono more) (List.Subset.refl _)
    (fun _ hq here => still (h.inHand_atWork hd hq here)) (fun ended => ?_)
    (fun q hq => still (h.parked d (List.mem_of_getElem? hd) q hq)) (fun fired => ?_)
    fun _ _ other => if_neg (Ne.symm other)
  · exact isFired_mono proceeds.fired (h.accepting d (List.mem_of_getElem? hd) ended)
  · exact Bool.noConfusion (unshut.symm.trans fired)

variable {k : Nat} {fault? : Option TransportError} {inHand : List InHand}
  (fewer : inHand ⊆ p.inHand)
  (proceeds : p.network.Proceeds (fun f => (Act.worker i k fault?).Causes ρ' p f) n')

include fewer proceeds

theorem Sound.leaves (without : ∀ q ∈ inHand, q.demuxer = i → q.worker ≠ k) :
    Follows ρ' p (.worker i k fault?) ⟨{ n' with
      demuxers := n'.demuxers.modify i fun e => { e with fan := d.fan.leave k } },
      p.products, inHand⟩ := by
  refine h.task hd more fits proceeds (d.fan.leave k) (fun x hx => ?_) fewer
    (fun q hq here => ?_) (fun ended => ?_) (fun q hq => ?_) (fun _ => (if_pos rfl).symm)
    fun _ _ other => if_neg (Ne.symm other)
  · have old := d.fan.line_leave_subset k hx
    exact (h.fits.line d (List.mem_of_getElem? hd) x old).mono more
  · exact (FanIn.atWork_leave_iff d.fan k q.worker).2
      ⟨h.inHand_atWork hd (fewer hq) here, without q hq here⟩
  · exact isFired_mono proceeds.fired (h.accepting d (List.mem_of_getElem? hd) ended)
  · obtain ⟨old, other⟩ := List.mem_filter.1 hq
    exact (FanIn.atWork_leave_iff d.fan k q.1).2
      ⟨h.parked d (List.mem_of_getElem? hd) q old, by simpa using other⟩

theorem Sound.offers (unshut : p.network.isFired d.shutdown = false) (working : d.fan.AtWork k)
    {s : Stream} (fits' : s.Fits ρ') :
    Follows ρ' p (.worker i k fault?) ⟨{ n' with
      demuxers := n'.demuxers.modify i fun e => { e with fan := d.fan.offer k s } },
      p.products, inHand⟩ := by
  obtain ⟨workers, -, accepting⟩ := d.fan.workers_of_offer k s
  have still {j : Nat} : d.fan.AtWork j → (d.fan.offer k s).AtWork j :=
    (FanIn.atWork_congr workers j).2
  refine h.task hd more fits proceeds (d.fan.offer k s) (fun x hx => ?_) fewer
    (fun q hq here => still (h.inHand_atWork hd (fewer hq) here)) (fun ended => ?_)
    (fun q hq => still ?_) (fun fired => ?_) fun _ _ other => if_neg (Ne.symm other)
  · obtain old | rfl := FanIn.mem_line_offer hx
    · exact (h.fits.line d (List.mem_of_getElem? hd) x old).mono more
    · exact fits'
  · rw [accepting] at ended
    exact isFired_mono proceeds.fired (h.accepting d (List.mem_of_getElem? hd) ended)
  · obtain old | new := List.mem_append.1 ((d.fan.parked_offer_sublist k s).subset hq)
    · exact h.parked d (List.mem_of_getElem? hd) q old
    · rw [List.mem_singleton.1 new]
      exact working
  · exact Bool.noConfusion (unshut.symm.trans fired)

end

theorem Sound.acceptConnection (h : p.Sound ρ) {i : Nat} {d : Demuxer}
    (hd : p.network.demuxers[i]? = some d) (fault? : Option TransportError) :
    Ends (fun _ => False) ρ p.network ((d.supply fault?).acceptConnection p.network)
      (OnReady fun _ _ _ => True) := by
  have known : p.network.outline[i]? = some (d.shutdown, d.listener) := by simp [outline, hd]
  cases fault? with
  | none => exact keeps_acceptOnMuxListener h.fits (h.fits.outline i _ known).2
  | some e => exact .of_failed h.fits

theorem Sound.acceptStream (h : p.Sound ρ) (d : Demuxer) (c : Socket)
    (fault? : Option TransportError) :
    Ends (fun _ => False) ρ p.network ((d.supply fault?).acceptStream c p.network)
      (OnReady FittingStream) := by
  cases fault? with
  | none => exact keeps_acceptStream c h.fits
  | some e => exact .of_failed h.fits

theorem supply_isShut (d : Demuxer) (fault? : Option TransportError) (n : Network) :
    (d.supply fault?).isShut n = n.isFired d.shutdown := by
  cases fault? <;> rfl

/-- A look of a task that has to wait, or is not there. -/
theorem Sound.unmoved (h : p.Sound ρ) {a : Act} {i : Nat}
    (others : ∀ j f, j ≠ i → a.stops j f = f)
    (stops : ∀ d, p.network.demuxers[i]? = some d → p.network.isFired d.shutdown = true →
      d.fan = a.stops i d.fan) {inHand : List InHand} (fewer : inHand ⊆ p.inHand) :
    ∃ ρ', ρ <+: ρ' ∧ Follows ρ' p a { p with inHand := inHand } := by
  have same : p.network.Proceeds (fun _ => False) p.network := .refl _
  have sound : Program.Sound ρ { p with inHand := inHand } :=
    h.proceeds List.prefix_rfl h.fits same (fun _ hx => .inl hx) fun _ hq => .inl (fewer hq)
  refine ⟨ρ, List.prefix_rfl, sound, List.Subset.refl _, fun _ hf => .inl hf,
    fun j e he => ⟨e.fan, he, fun fired => ?_⟩⟩
  by_cases here : j = i
  · subst here
    exact stops e he fired
  · exact (others j e.fan here).symm

/-- The task that accepts connections fails to, shuts the listener down and ends. -/
theorem Sound.acceptorFails (h : p.Sound ρ) {i : Nat} {d : Demuxer}
    (hd : p.network.demuxers[i]? = some d) {fault? : Option TransportError} {e : TransportError}
    {n₁ : Network} (failed : (d.supply fault?).acceptConnection p.network = (.failed e, n₁)) :
    ∃ ρ', ρ <+: ρ' ∧ Follows ρ' p (.acceptor i fault?) ⟨{ (d.supply fault?).shut n₁ with
      demuxers := ((d.supply fault?).shut n₁).demuxers.modify i fun e =>
        { e with fan := d.fan.stopAccepting } }, p.products, p.inHand⟩ := by
  have ends := h.acceptConnection hd fault?
  rw [failed] at ends
  obtain ⟨ρ', more, proceeds, fits, -⟩ := ends
  have known : p.network.outline[i]? = some (d.shutdown, d.listener) := by simp [outline, hd]
  have role := Role.mono more (h.fits.outline i _ known).1
  have shut : (d.supply fault?).shut n₁ = n₁.fire d.shutdown := by cases fault? <;> rfl
  obtain ⟨fits, fired⟩ :=
    FiresOnly.fire (P := fun f => (Act.acceptor i fault?).Causes ρ' p f) fits
      ⟨role, d, e, n₁, hd, failed⟩
  rw [shut]
  exact ⟨ρ', more, h.stopsAccepting hd more fits (proceeds.of_silent.trans fired)
    (Signals.isFired_fire_self _)⟩

theorem Sound.acceptor (h : p.Sound ρ) (i : Nat) (fault? : Option TransportError) :
    ∃ ρ', ρ <+: ρ' ∧ Follows ρ' p (.acceptor i fault?) (p.act (.acceptor i fault?)) := by
  have others (j : Nat) (f : FanIn Socket Stream) (other : j ≠ i) :
      (Act.acceptor i fault?).stops j f = f := if_neg (Ne.symm other)
  cases hd : p.network.demuxers[i]? with
  | none =>
      have same : p.act (.acceptor i fault?) = p := by simp [act, taskStepWith?, hd]
      rw [same]
      exact h.unmoved others (fun e he => nomatch hd.symm.trans he) (List.Subset.refl _)
  | some d =>
      cases step : d.fan.acceptorStep? (d.supply fault?) p.network with
      | none =>
          have same : p.act (.acceptor i fault?) = p := by simp [act, taskStepWith?, hd, step]
          rw [same]
          refine h.unmoved others (fun e he fired => ?_) (List.Subset.refl _)
          cases hd.symm.trans he
          -- After the signal has fired only a task that has ended does not move.
          have ended : d.fan.accepting = false := by
            simpa [FanIn.acceptorStep?, supply_isShut, fired] using step
          have own : (Act.acceptor i fault?).stops i d.fan = d.fan.stopAccepting := if_pos rfl
          rw [own, FanIn.stopAccepting, ← ended]
      | some r =>
          have moved : p.act (.acceptor i fault?) = ⟨{ r.2 with
              demuxers := r.2.demuxers.modify i fun d => { d with fan := r.1 } },
                p.products, p.inHand⟩ := by
            simp [act, taskStepWith?, hd, step]
          obtain ⟨fan, n'⟩ := r
          rw [moved]
          obtain ⟨-, ⟨shut, rfl, rfl⟩ | ⟨unshut, ⟨c, found, rfl⟩ | ⟨e, n₁, failed, rfl, rfl⟩⟩⟩ :=
            FanIn.acceptorStep?_cases step
          · rw [supply_isShut] at shut
            exact ⟨ρ, List.prefix_rfl,
              h.stopsAccepting hd List.prefix_rfl h.fits (.refl _) shut⟩
          · have ends := h.acceptConnection hd fault?
            rw [found] at ends
            rw [supply_isShut] at unshut
            obtain ⟨ρ', more, proceeds, fits, -⟩ := ends
            exact ⟨ρ', more, h.assigns hd more fits proceeds.of_silent unshut c⟩
          · exact h.acceptorFails hd failed

/-- A worker fails to accept a stream, closes its connection unless that is closed, and ends. -/
theorem Sound.workerFails (h : p.Sound ρ) {i k : Nat} {d : Demuxer}
    (hd : p.network.demuxers[i]? = some d) (unshut : p.network.isFired d.shutdown = false)
    {fault? : Option TransportError} (given? : Option TransportError) {c : Socket}
    {e : TransportError} {n₁ : Network}
    (failed : (d.supply fault?).acceptStream c p.network = (.failed e, n₁))
    {inHand : List InHand} (fewer : inHand ⊆ p.inHand)
    (without : ∀ q ∈ inHand, q.demuxer = i → q.worker ≠ k) {n' : Network}
    (closed : n' = if (d.supply fault?).isClosed c n₁ then n₁ else (d.supply fault?).close c n₁) :
    ∃ ρ', ρ <+: ρ' ∧ Follows ρ' p (.worker i k given?) ⟨{ n' with
      demuxers := n'.demuxers.modify i fun e => { e with fan := d.fan.leave k } },
      p.products, inHand⟩ := by
  have ends := h.acceptStream d c fault?
  rw [failed] at ends
  obtain ⟨ρ', more, proceeds, fits, -⟩ := ends
  have ordinary (f : Signal) (hf : f.IsOrdinary ρ') : (Act.worker i k given?).Causes ρ' p f :=
    ⟨hf, by simp [isShut, hd, unshut]⟩
  have fires : FiresOnly (fun f => (Act.worker i k given?).Causes ρ' p f) ρ' n₁ n' := by
    rw [closed]
    split
    · exact .refl fits
    · have close : (d.supply fault?).close c n₁ = closeSocket c n₁ := by cases fault? <;> rfl
      rw [close]
      exact (fires_closeSocket fits c).weaken ordinary
  exact ⟨ρ', more,
    h.leaves hd more fires.1 fewer (proceeds.of_silent.trans fires.2) without⟩

/-- A step of a worker without a stream in hand. -/
theorem Sound.workerStep (h : p.Sound ρ) (i k : Nat) (fault? given? : Option TransportError)
    {inHand : List InHand} (fewer : inHand ⊆ p.inHand)
    (without : ∀ q ∈ inHand, q.demuxer = i → q.worker ≠ k) :
    ∃ ρ', ρ <+: ρ' ∧ Follows ρ' p (.worker i k given?) { p with
      network := (p.network.taskStepWith? i (some k) fault?).getD p.network
      inHand := inHand } := by
  have others (j : Nat) (f : FanIn Socket Stream) (other : j ≠ i) :
      (Act.worker i k given?).stops j f = f := if_neg (Ne.symm other)
  cases hd : p.network.demuxers[i]? with
  | none =>
      have still : p.network.taskStepWith? i (some k) fault? = none := by
        simp [taskStepWith?, hd]
      rw [still]
      exact h.unmoved others (fun e he => nomatch hd.symm.trans he) fewer
  | some d =>
      cases hc : d.fan.connection? k with
      | none =>
          have still : p.network.taskStepWith? i (some k) fault? = none := by
            simp [taskStepWith?, hd, hc]
          rw [still]
          refine h.unmoved others (fun e he _ => ?_) fewer
          cases hd.symm.trans he
          have own : (Act.worker i k given?).stops i d.fan = d.fan.leave k := if_pos rfl
          rw [own, FanIn.leave_eq_self (h.parked d (List.mem_of_getElem? hd))
            (FanIn.connection?_eq_none_iff.1 hc)]
      | some c =>
          cases step : d.fan.workerStep? (d.supply fault?) k c p.network with
          | none =>
              have still : p.network.taskStepWith? i (some k) fault? = none := by
                simp [taskStepWith?, hd, hc, step]
              rw [still]
              refine h.unmoved others (fun e he fired => ?_) fewer
              cases hd.symm.trans he
              simp [FanIn.workerStep?, supply_isShut, fired] at step
          | some r =>
              have moved : p.network.taskStepWith? i (some k) fault? = some { r.2 with
                  demuxers := r.2.demuxers.modify i fun d => { d with fan := r.1 } } := by
                simp [taskStepWith?, hd, hc, step]
              obtain ⟨fan, n'⟩ := r
              rw [moved]
              obtain ⟨-, rfl, rfl⟩ |
                  ⟨unshut, -, ⟨s, accepted, rfl⟩ | ⟨e, n₁, failed, rfl, closed⟩⟩ :=
                FanIn.workerStep?_cases step
              · exact ⟨ρ, List.prefix_rfl,
                  h.leaves hd List.prefix_rfl h.fits fewer (.refl _) without⟩
              · have ends := h.acceptStream d c fault?
                rw [accepted] at ends
                rw [supply_isShut] at unshut
                obtain ⟨ρ', more, proceeds, fits, good⟩ := ends
                exact ⟨ρ', more, h.offers hd more fits fewer proceeds.of_silent unshut
                  (FanIn.atWork_of_connection? hc) (good s rfl)⟩
              · rw [supply_isShut] at unshut
                exact h.workerFails hd unshut given? failed fewer without closed

/-- A worker accepts a stream and has it in hand. -/
theorem Sound.receives (h : p.Sound ρ) {i k : Nat} {r : Stream × Network}
    (received : p.network.receive? i k = some r) (fault? : Option TransportError) :
    ∃ ρ', ρ <+: ρ' ∧ Follows ρ' p (.worker i k fault?)
      { p with network := r.2, inHand := p.inHand ++ [⟨i, k, r.1⟩] } := by
  obtain ⟨d, c, hd, hc, unshut, accepted⟩ := receive?_eq_some received
  have ends : Ends (fun _ => False) ρ p.network _ _ := keeps_acceptStream c h.fits
  rw [accepted] at ends
  obtain ⟨ρ', more, proceeds, fits, good⟩ := ends
  refine ⟨ρ', more, ?_, proceeds.fired, proceeds.of_silent.causes, fun j e he => ?_⟩
  · refine h.proceeds more fits proceeds (fun _ hx => .inl hx) fun q hq => ?_
    refine (List.mem_append.1 hq).imp_right fun new => ?_
    rw [List.mem_singleton.1 new]
    exact ⟨good r.1 rfl, d, hd, FanIn.atWork_of_connection? hc⟩
  · obtain ⟨fan, he', -, -, -, same⟩ := proceeds.demuxers j e he
    refine ⟨fan, he', fun fired => ?_⟩
    have other : i ≠ j := by
      rintro rfl
      cases hd.symm.trans he
      exact Bool.noConfusion (unshut.symm.trans fired)
    have own : (Act.worker i k fault?).stops j e.fan = e.fan := if_neg other
    rw [own, same fired]

theorem Sound.worker (h : p.Sound ρ) (i k : Nat) (fault? : Option TransportError) :
    ∃ ρ', ρ <+: ρ' ∧ Follows ρ' p (.worker i k fault?) (p.act (.worker i k fault?)) := by
  change ∃ ρ', ρ <+: ρ' ∧ Follows ρ' p (.worker i k fault?) (p.work i k fault?)
  unfold work
  simp only
  cases hq : p.inHand.find? fun q => q.demuxer == i && q.worker == k with
  | none =>
      -- The worker has no stream in hand, so that none is left over should it end.
      have without : ∀ q ∈ p.inHand, q.demuxer = i → q.worker ≠ k := by
        intro q hq' here same
        have other := List.find?_eq_none.1 hq q hq'
        simp [here, same] at other
      have step (given? : Option TransportError) :=
        h.workerStep i k given? fault? (List.Subset.refl p.inHand) without
      cases fault? with
      | some e => exact step (some e)
      | none =>
          cases received : p.network.receive? i k with
          | none => exact step none
          | some r =>
              exact h.receives received none
  | some q =>
      have hq' := List.mem_of_find?_eq_some hq
      obtain ⟨rfl, rfl⟩ : q.demuxer = i ∧ q.worker = k := by simpa using List.find?_some hq
      obtain ⟨fits, d, hd, working⟩ := h.inHand q hq'
      have fewer : (p.inHand.filter fun q' =>
          !(q'.demuxer == q.demuxer && q'.worker == q.worker)) ⊆ p.inHand :=
        List.filter_subset_self _
      cases shut : p.network.isShut q.demuxer with
      | true =>
          refine h.workerStep q.demuxer q.worker none fault? fewer ?_
          intro q' hq' here same
          have other := (List.mem_filter.1 hq').2
          simp [here, same] at other
      | false =>
          have unshut : p.network.isFired d.shutdown = false := by simpa [isShut, hd] using shut
          have offered : p.network.offer q.demuxer q.worker q.stream = { p.network with
              demuxers := p.network.demuxers.modify q.demuxer fun e =>
                { e with fan := d.fan.offer q.worker q.stream } } := by
            simp [Network.offer, List.modify_eq_set_getElem?, hd]
          simp only [Bool.false_eq_true, if_false, offered]
          exact ⟨ρ, List.prefix_rfl,
            h.offers hd List.prefix_rfl h.fits fewer (.refl _) unshut working fits⟩

theorem Sound.act (h : p.Sound ρ) (a : Act) :
    ∃ ρ', ρ <+: ρ' ∧ Follows ρ' p a (p.act a) := by
  have aside {a : Act} {n' : Network} (fits : n'.Fits ρ)
      (proceeds : p.network.Proceeds (fun f => a.Causes ρ p f) n')
      (stops : ∀ i f, a.stops i f = f) :
      ∃ ρ', ρ <+: ρ' ∧ Follows ρ' p a { p with network := n' } :=
    h.fires ⟨fits, proceeds⟩ stops
  cases a with
  | produce side r =>
      exact aside { h.fits with } (.of_same rfl rfl rfl rfl) fun _ _ => rfl
  | follow side q => exact h.gains (keeps_follow h.fits side q) fun _ _ => rfl
  | pairSockets capacity =>
      obtain ⟨ρ', more, proceeds, fits, -⟩ :=
        keeps_newSession h.fits capacity (.empty "client") (.empty "server")
      refine h.gains ⟨ρ', more, proceeds, fits, fun x hx => ?_⟩ fun _ _ => rfl
      obtain rfl | rfl := List.mem_pair.1 hx <;> trivial
  | pairStreams capacity number =>
      have base := h.fits.withSignal .plain
      refine h.gains ⟨_, List.prefix_append ρ [.plain], .of_same rfl rfl rfl rfl,
        { base with }, fun x hx => ?_⟩ fun _ _ => rfl
      have plain : (p.network.nextSignal []).IsPlain (ρ ++ [.plain]) := h.fits.isPlain_next nofun
      obtain rfl | rfl := List.mem_pair.1 hx <;> exact plain
  | use place u =>
      cases hx : p.products[place]? with
      | none =>
          have same : p.act (.use place u) = p := by simp [Program.act, hx]
          rw [same]
          exact aside h.fits (.refl _) fun _ _ => rfl
      | some x =>
          have used : p.act (.use place u) = p.gains (u.run x p.network) := by
            simp [Program.act, hx]
          rw [used]
          have fits := h.products x (List.mem_of_getElem? hx)
          exact h.gains ((keeps_use h.fits fits u).weaken fun f cause => ⟨x, hx, cause⟩)
            fun _ _ => rfl
  | drop place =>
      exact ⟨ρ, List.prefix_rfl, h.follows List.prefix_rfl h.fits (.refl _)
        (fun x hx => .inl (List.mem_of_mem_eraseIdx hx)) fun _ _ => rfl⟩
  | clear => exact aside { h.fits with } (.of_same rfl rfl rfl rfl) fun _ _ => rfl
  | link =>
      cases step : p.network.linkStep? with
      | none =>
          have same : p.act .link = p := by simp [Program.act, step]
          rw [same]
          exact aside h.fits (.refl _) fun _ _ => rfl
      | some n' =>
          have moved : p.act .link = { p with network := n' } := by simp [Program.act, step]
          rw [moved]
          exact h.fires (fires_linkStep h.fits step) fun _ _ => rfl
  | release others =>
      cases step : p.network.release? (p.roots ++ others) with
      | none =>
          have same : p.act (.release others) = p := by simp [Program.act, step]
          rw [same]
          exact aside h.fits (.refl _) fun _ _ => rfl
      | some n' =>
          have moved : p.act (.release others) = { p with network := n' } := by
            simp [Program.act, step]
          rw [moved]
          exact h.fires (fires_release h.fits step) fun _ _ => rfl
  | acceptor i fault? => exact h.acceptor i fault?
  | worker i k fault? => exact h.worker i k fault?

theorem Sound.run (h : p.Sound ρ) (acts : List Act) : ∃ ρ', (p.run acts).Sound ρ' := by
  induction acts generalizing p ρ with
  | nil => exact ⟨ρ, h⟩
  | cons a acts ih =>
      obtain ⟨ρ', -, follows⟩ := h.act a
      exact ih follows.sound

theorem sound_start (r : Rehearsal) : Program.Sound [] (start r) where
  fits := {
    count := rfl
    session := nofun
    dialed := nofun
    recorded := nofun
    accepted := nofun
    streamBinding := nofun
    socketBinding := nofun
    link := nofun
    outline := nofun
    line := nofun }
  products := nofun
  inHand := nofun
  rooted := nofun
  accepting := nofun
  parked := nofun

theorem run_concat (p : Program) (acts : List Act) (a : Act) :
    p.run (acts ++ [a]) = (p.run acts).act a := by
  simp only [run, List.foldl_append, List.foldl_cons, List.foldl_nil]

/-- A signal fires at one of the acts, which is a cause for it. -/
def FiredBy (p : Program) (acts : List Act) (f : Signal) (cause : Act → Program → Prop) : Prop :=
  ∃ before a after, acts = before ++ a :: after ∧ f ∉ (p.run before).network.signals.fired ∧
    f ∈ ((p.run before).act a).network.signals.fired ∧ cause a (p.run before)

/-- Each signal that has fired was fired by one of the acts. -/
theorem sound_run (r : Rehearsal) (acts : List Act) :
    ∃ ρ, ((start r).run acts).Sound ρ ∧ ∀ f ∈ ((start r).run acts).network.signals.fired,
      (start r).FiredBy acts f fun a p => a.Causes ρ p f := by
  induction acts using List.reverseRecOn with
  | nil => exact ⟨[], sound_start r, nofun⟩
  | append_singleton acts a ih =>
      obtain ⟨ρ, sound, caused⟩ := ih
      obtain ⟨ρ', more, follows⟩ := sound.act a
      rw [run_concat]
      refine ⟨ρ', follows.sound, fun f hf => ?_⟩
      by_cases old : f ∈ ((start r).run acts).network.signals.fired
      · obtain ⟨before, b, after, rfl, unfired, fired, cause⟩ := caused f old
        exact ⟨before, b, after ++ [a], by simp, unfired, fired, cause.mono more⟩
      · exact ⟨acts, a, [], rfl, old, hf, (follows.causes f hf).resolve_left old⟩

end Program

end TransportStack

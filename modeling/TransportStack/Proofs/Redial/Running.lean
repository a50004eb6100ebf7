import TransportStack.Proofs.Redial.Accepting
import TransportStack.Proofs.Redial.Again
import TransportStack.Proofs.Shutdown.Steps

/-!
What a program can dial again. Whether a thing can be dialed again depends on the act by which the
program got it, and stays as it is whatever happens afterwards.
-/

namespace TransportStack

/-- Whether what a use of a thing yields can be dialed again. -/
def Use.redialable (u : Use) (x : Product) : Bool :=
  match x, u with
  | _, .redial => true
  | .muxed s, .openStream | .muxed s, .accept => s.dials
  | _, _ => false

/-- Whether what an act yields can be dialed again, given the network after it. -/
def Act.redialable (p : Program) (n : Network) : Act → Bool
  | .follow .dial q => q.redialable n
  | .use place u => (p.products[place]?.map u.redialable).getD false
  | _ => false

namespace Redial

open Network

/-- Things that can all be dialed again, or that all cannot. -/
def Gained (b : Network → Bool) (xs : List Product) (n : Network) : Prop :=
  ∀ x ∈ xs, x.Flagged (b n) n

section

variable {n : Network} {α : Type} {good : Network → α → Prop} {f : α → Product}
  {b : Network → Bool} (flagged : ∀ a n, good n a → (f a).Flagged (b n) n)

include flagged

theorem Ends.made {r : Except TransportError α × Network} (h : Ends n r (OnOk good)) :
    Ends n (Use.made f r) (Gained b) := by
  obtain ⟨retains, oneWay, post⟩ := h
  obtain ⟨e | a, n'⟩ := r
  · exact ⟨retains, oneWay, fun _ hx => absurd hx List.not_mem_nil⟩
  · refine ⟨retains, oneWay, fun x hx => ?_⟩
    rw [List.mem_singleton.1 hx]
    exact flagged a n' (post.ok a rfl)

theorem Ends.looked {r : Poll TransportError α × Network} (h : Ends n r (Yields good)) :
    Ends n (Use.looked f r) (Gained b) := by
  obtain ⟨retains, oneWay, post⟩ := h
  obtain ⟨_ | _ | a, n'⟩ := r
  · exact ⟨retains, oneWay, fun _ hx => absurd hx List.not_mem_nil⟩
  · exact ⟨retains, oneWay, fun _ hx => absurd hx List.not_mem_nil⟩
  · refine ⟨retains, oneWay, fun x hx => ?_⟩
    rw [List.mem_singleton.1 hx]
    exact flagged a n' (post a rfl)

end

variable {n : Network}

theorem Orderly.ends {n' : Network} (h : Orderly n n') (oneWay : n.OneWay) (b : Network → Bool) :
    Ends n (([], n') : List Product × Network) (Gained b) :=
  ⟨h.retains, h.oneWay oneWay, fun _ hx => absurd hx List.not_mem_nil⟩

/-- What a program gets by using what it holds. -/
theorem keeps_use (h : n.OneWay) (x : Product) (u : Use) :
    Ends n (u.run x n) (Gained fun _ => u.redialable x) := by
  have unmoved (b : Network → Bool) : Ends n (([], n) : List Product × Network) (Gained b) :=
    (Orderly.refl n).ends h b
  cases x with
  | packet s =>
      cases u with
      | close => exact (Orderly.fire n s.signal).ends h _
      | _ => exact unmoved _
  | stream s =>
      cases u with
      | redial =>
          cases flag : s.canRedial with
          | true => exact (ends_redialStream flag h).made fun _ _ flagged => flagged
          | false =>
              rw [Use.run, redialStream_final flag]
              exact unmoved _
      | perform op => exact (Orderly.perform s op n).ends h _
      | close => exact (Orderly.closeStream s n).ends h _
      | _ => exact unmoved _
  | muxed s =>
      cases u with
      | openStream =>
          have opens := (keeps_openStream s h).weaken fun _ _ ended => ended.ready
          exact opens.looked fun _ _ flagged => flagged
      | accept => exact (keeps_acceptStream h s).looked fun _ _ flagged => flagged
      | redial =>
          cases flag : n.canRedial s with
          | true => exact (ends_redialSocket flag h).made fun _ _ flagged => flagged
          | false =>
              rw [Use.run, redialSocket_final flag]
              exact unmoved _
      | send payload =>
          obtain ⟨retains, oneWay, -⟩ := keeps_sendDatagram s payload n h
          exact ⟨retains, oneWay, fun _ hx => absurd hx List.not_mem_nil⟩
      | receive =>
          obtain ⟨retains, oneWay, -⟩ := keeps_receiveDatagram h s
          exact ⟨retains, oneWay, fun _ hx => absurd hx List.not_mem_nil⟩
      | close => exact (Orderly.closeSocket s n).ends h _
      | perform op => exact unmoved _
  | streamListener l =>
      cases u with
      | accept =>
          have accepts : Ends n (acceptOnStreamListener l n) (Yields (FlaggedStream false)) :=
            (keeps_acceptOnStreamListener h l).weaken fun _ n ready s hs =>
              flagged_of_isFinal (ready s hs) n
          exact accepts.looked fun _ _ flagged => flagged
      | close => exact (Orderly.closeStreamListener l n).ends h _
      | _ => exact unmoved _
  | muxListener l =>
      cases u with
      | accept =>
          have accepts : Ends n (acceptOnMuxListener l n) (Yields (FlaggedSocket false)) :=
            (keeps_acceptOnMuxListener h l).weaken fun _ n ready s hs =>
              flagged_of_isServed (ready s hs) n
          exact accepts.looked fun _ _ flagged => flagged
      | close => exact (Orderly.closeMuxListener l n).ends h _
      | _ => exact unmoved _

end Redial

namespace Program

open Network Redial

/-- What a program gets by an act. -/
def got (p : Program) (a : Act) : List Product := (p.act a).products.drop p.products.length

theorem drop_gains (p : Program) (r : List Product × Network) :
    (p.gains r).products.drop p.products.length = r.1 :=
  List.drop_left

/-- What a program holds is there, and what a worker has in hand cannot be dialed again. -/
structure InOrder (p : Program) : Prop where
  network : p.network.OneWay
  products : ∀ x ∈ p.products, x.Stands p.network
  inHand : ∀ q ∈ p.inHand, q.stream.IsFinal

/-- What is to be said of an act. -/
structure Advances (p : Program) (a : Act) (p' : Program) : Prop where
  retains : p.network.Retains p'.network
  inOrder : p'.InOrder
  gained : Gained (fun n => a.redialable p n) (p'.products.drop p.products.length) p'.network

namespace InOrder

variable {p : Program} (h : p.InOrder)

include h

theorem gains {a : Act} {r : List Product × Network}
    (ends : Ends p.network r (Gained fun n => a.redialable p n)) : p.Advances a (p.gains r) := by
  refine ⟨ends.retains, ⟨ends.oneWay, fun x hx => ?_, h.inHand⟩, ?_⟩
  · obtain old | new := List.mem_append.1 hx
    · exact (h.products x old).mono ends.retains
    · exact (ends.post x new).stands
  · rw [drop_gains]
    exact ends.post

/-- An act by which the program gets nothing. -/
theorem aside {a : Act} {n' : Network} {xs : List Product} {inHand : List InHand}
    (retains : p.network.Retains n') (oneWay : n'.OneWay) (fewer : xs ⊆ p.products)
    (short : xs.length ≤ p.products.length) (final : ∀ q ∈ inHand, q.stream.IsFinal) :
    p.Advances a ⟨n', xs, inHand⟩ := by
  refine ⟨retains, ⟨oneWay, fun x hx => (h.products x (fewer hx)).mono retains, final⟩, ?_⟩
  have nothing : xs.drop p.products.length = [] := List.drop_eq_nil_of_le short
  rw [nothing]
  exact fun _ hx => absurd hx List.not_mem_nil

theorem moves {a : Act} {n' : Network} (orderly : Orderly p.network n') :
    p.Advances a { p with network := n' } :=
  h.aside orderly.retains (orderly.oneWay h.network) (List.Subset.refl _) (Nat.le_refl _) h.inHand

/-- A step of a task, unless it has to wait. -/
theorem task {a : Act} (i : Nat) (worker? : Option Nat) (fault? : Option TransportError)
    {inHand : List InHand} (fewer : inHand ⊆ p.inHand) :
    p.Advances a { p with
      network := (p.network.taskStepWith? i worker? fault?).getD p.network
      inHand := inHand } := by
  have final : ∀ q ∈ inHand, q.stream.IsFinal := fun q hq => h.inHand q (fewer hq)
  cases step : p.network.taskStepWith? i worker? fault? with
  | none => exact h.aside (.refl _) h.network (List.Subset.refl _) (Nat.le_refl _) final
  | some n' =>
      obtain ⟨retains, oneWay⟩ := ends_taskStepWith? h.network step
      exact h.aside retains oneWay (List.Subset.refl _) (Nat.le_refl _) final

theorem work (i k : Nat) (fault? : Option TransportError) :
    p.Advances (.worker i k fault?) (p.work i k fault?) := by
  unfold Program.work
  simp only
  cases hq : p.inHand.find? fun q => q.demuxer == i && q.worker == k with
  | none =>
      have step (given? : Option TransportError) : p.Advances (.worker i k fault?) _ :=
        h.task i (some k) given? (List.Subset.refl p.inHand)
      cases fault? with
      | some e => exact step (some e)
      | none =>
          cases received : p.network.receive? i k with
          | none => exact step none
          | some r =>
              obtain ⟨retains, oneWay, final⟩ := ends_receive? h.network received
              refine h.aside retains oneWay (List.Subset.refl _) (Nat.le_refl _) fun q hq => ?_
              obtain old | new := List.mem_append.1 hq
              · exact h.inHand q old
              · rw [List.mem_singleton.1 new]
                exact final
  | some q =>
      have fewer : (p.inHand.filter fun q' => !(q'.demuxer == i && q'.worker == k)) ⊆ p.inHand :=
        List.filter_subset_self _
      -- The stream in hand is given up or offered; either way it is not in hand any more.
      cases p.network.isShut i with
      | true => exact h.task i (some k) none fewer
      | false =>
          obtain ⟨retains, oneWay⟩ :=
            ends_offer h.network i k (h.inHand q (List.mem_of_find?_eq_some hq))
          exact h.aside retains oneWay (List.Subset.refl _) (Nat.le_refl _)
            fun q hq => h.inHand q (fewer hq)

theorem act (a : Act) : p.Advances a (p.act a) := by
  have unmoved (a : Act) : p.Advances a p := h.moves (.refl p.network)
  cases a with
  | produce side r => exact h.moves (.newProducer p.network side r)
  | follow side q =>
      cases side with
      | dial => exact h.gains ((keeps_dial q p.network h.network).made fun _ _ flagged => flagged)
      | listen =>
          exact h.gains ((keeps_listen q p.network h.network).made fun _ _ flagged => flagged)
  | pairSockets capacity =>
      obtain ⟨retains, oneWay, first⟩ :=
        keeps_newSession h.network capacity (.empty "client") (.empty "server")
      refine h.gains ⟨retains, oneWay, fun x hx => ?_⟩
      obtain rfl | rfl := List.mem_pair.1 hx
      · exact first
      · exact ⟨trivial, rfl⟩
  | pairStreams capacity number =>
      refine h.gains ⟨.of_same rfl rfl rfl, { h.network with }, fun x hx => ?_⟩
      obtain rfl | rfl := List.mem_pair.1 hx <;> exact ⟨trivial, rfl⟩
  | use place u =>
      cases hx : p.products[place]? with
      | none =>
          have same : p.act (.use place u) = p := by simp [Program.act, hx]
          rw [same]
          exact unmoved _
      | some x =>
          have used : p.act (.use place u) = p.gains (u.run x p.network) := by
            simp [Program.act, hx]
          have flag (n : Network) : (Act.use place u).redialable p n = u.redialable x := by
            simp [Act.redialable, hx]
          rw [used]
          refine h.gains ((keeps_use h.network x u).weaken fun xs n gained y hy => ?_)
          change y.Flagged ((Act.use place u).redialable p n) n
          rw [flag]
          exact gained y hy
  | drop place =>
      exact h.aside (.refl _) h.network (fun x hx => List.mem_of_mem_eraseIdx hx)
        (List.length_eraseIdx_le _ _) h.inHand
  | clear => exact h.moves (.clearListeners p.network)
  | link =>
      cases step : p.network.linkStep? with
      | none =>
          have same : p.act .link = p := by simp [Program.act, step]
          rw [same]
          exact unmoved _
      | some n' =>
          have moved : p.act .link = { p with network := n' } := by simp [Program.act, step]
          rw [moved]
          exact h.moves (.linkStep step)
  | release others =>
      cases step : p.network.release? (p.roots ++ others) with
      | none =>
          have same : p.act (.release others) = p := by simp [Program.act, step]
          rw [same]
          exact unmoved _
      | some n' =>
          have moved : p.act (.release others) = { p with network := n' } := by
            simp [Program.act, step]
          rw [moved]
          exact h.moves (.release step)
  | acceptor i fault? => exact h.task i none fault? (List.Subset.refl p.inHand)
  | worker i k fault? => exact h.work i k fault?

/-- Whatever happens, all stays in order. -/
theorem run (acts : List Act) :
    p.network.Retains (p.run acts).network ∧ (p.run acts).InOrder := by
  induction acts generalizing p with
  | nil => exact ⟨.refl _, h⟩
  | cons a acts ih =>
      obtain ⟨retains, inOrder, -⟩ := h.act a
      obtain ⟨further, after⟩ := ih inOrder
      exact ⟨retains.trans further, after⟩

end InOrder

theorem inOrder_start (r : Rehearsal) : (start r).InOrder where
  network := {
    sessions := nofun
    streams := ⟨nofun, nofun⟩
    sockets := ⟨nofun, nofun⟩
    demuxers := nofun }
  products := nofun
  inHand := nofun

section

variable {p : Program}

theorem got_follow {side : Side} {q : Producer} {x : Product}
    (hx : x ∈ p.got (.follow side q)) :
    follow side q p.network = (.ok x, (p.act (.follow side q)).network) := by
  have new : p.got (.follow side q) = (Use.made id (follow side q p.network)).1 := p.drop_gains _
  rw [new] at hx
  change _ = (_, (Use.made id (follow side q p.network)).2)
  rcases followed : follow side q p.network with ⟨e | y, n'⟩
  · rw [followed] at hx
    exact absurd hx List.not_mem_nil
  · rw [followed] at hx
    rw [List.mem_singleton.1 hx]
    rfl

theorem got_dialed_stream {c : Category} {address : String} {q : Parameters} {x : Product}
    (hx : x ∈ p.got (.follow .dial (.bound c .memory address q))) :
    ∃ s, x = .stream (.piped s) ∧ s.dial? = some ⟨address, Implementation.bufferOf q⟩ := by
  have dialed := got_follow hx
  rw [follow, dial_streams] at dialed
  obtain ⟨i, reached⟩ | refused := Redial.reach_cases p.network.streams address
  · rw [reached] at dialed
    obtain ⟨same, -⟩ := Prod.mk.inj dialed
    cases same
    exact ⟨_, rfl, rfl⟩
  · rw [refused] at dialed
    cases dialed

section

variable (h : p.InOrder)

include h

theorem InOrder.got_flagged {a : Act} {x : Product} (hx : x ∈ p.got a) (more : List Act) :
    x.canRedial ((p.act a).run more).network = a.redialable p (p.act a).network := by
  obtain ⟨-, inOrder, gained⟩ := h.act a
  exact ((gained x hx).mono (inOrder.run more).1).flag

theorem InOrder.got_dialed_session {c : Category} {address : String} {q : Parameters} {x : Product}
    (hx : x ∈ p.got (.follow .dial (.bound c .memoryMux address q))) :
    ∃ i, x = .muxed (.session i .first) ∧ ∀ more,
      ((p.act (.follow .dial (.bound c .memoryMux address q))).run more).network.memoryDial?
        (.session i .first) = some ⟨address, Implementation.bufferOf q⟩ := by
  have dialed := got_follow hx
  have kept := (h.act (.follow .dial (.bound c .memoryMux address q))).inOrder.run
  rw [follow, dial_sockets] at dialed
  obtain ⟨i, reached⟩ | refused := Redial.reach_cases p.network.sockets address
  · rw [reached] at dialed
    obtain ⟨same, after⟩ := Prod.mk.inj dialed
    cases same
    refine ⟨_, rfl, fun more => ?_⟩
    obtain ⟨-, there⟩ :=
      Redial.retains_afterDial p.network ⟨address, Implementation.bufferOf q⟩ i
    rw [after] at there
    rw [memoryDial?_first, (kept more).1.origin there]
    rfl
  · rw [refused] at dialed
    cases dialed

theorem InOrder.got_dialed_socket {c : Category} {q : Parameters} {input : Producer} {x : Product}
    (hx : x ∈ p.got (.follow .dial (.onTop c .nomux q input))) :
    ∃ i g, x = .muxed (.dialed i) ∧ ∀ more,
      ((p.act (.follow .dial (.onTop c .nomux q input))).run more).network.outlets[i]? =
        some (input, g) := by
  have kept := (h.act (.follow .dial (.onTop c .nomux q input))).inOrder.run
  have dialed : (.ok (.muxed (.dialed p.network.dialed.length)), p.network.withSocket input) =
      ((.ok x, (p.act (.follow .dial (.onTop c .nomux q input))).network) :
        Except TransportError Product × Network) := got_follow hx
  obtain ⟨same, after⟩ := Prod.mk.inj dialed
  cases same
  refine ⟨_, p.network.nextSignal [], rfl, fun more => (kept more).1.outlet ?_⟩
  rw [← after]
  exact Redial.outlet_withSocket p.network input

end

theorem got_handed_out {place i : Nat} {u : Use}
    (held : p.products[place]? = some (.muxed (.dialed i))) (asks : u = .openStream ∨ u = .accept)
    {x : Product} (hx : x ∈ p.got (.use place u)) :
    ∃ inner g, x = .stream (.single inner g (some i)) := by
  have used : p.act (.use place u) = p.gains (Use.looked .stream (.done (dialAgain i p.network).1,
      (dialAgain i p.network).2)) := by
    obtain rfl | rfl := asks <;> simp only [act, held] <;> rfl
  rw [got, used, drop_gains] at hx
  rcases opened : dialAgain i p.network with ⟨e | s, n'⟩
  · rw [opened] at hx
    exact absurd hx List.not_mem_nil
  · rw [opened] at hx
    obtain ⟨inner, g, rfl⟩ := dialAgain_ok opened
    exact ⟨inner, g, List.mem_singleton.1 hx⟩

end

end Program

end TransportStack

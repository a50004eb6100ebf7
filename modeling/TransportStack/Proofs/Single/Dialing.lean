import TransportStack.Proofs.Memory.Boards
import TransportStack.Proofs.Single.Runs

/-!
Following a producer without demultiplexers. It makes signals and things, whose streams have new
signals, and leaves alone what is there. So it goes on beside the sockets without multiplexing, and
opening a stream on one of them is a call, the dial and its arrival.
-/

namespace TransportStack

open Network

/-- An operation that makes things, and leaves alone what is there. -/
structure Network.Makes (n n' : Network) : Prop where
  count : n.signals.count ≤ n'.signals.count
  fired : n'.signals.fired = n.signals.fired
  dialed : n.dialed <+: n'.dialed
  accepted : n'.accepted = n.accepted
  demuxers : n'.demuxers = n.demuxers
  links : n'.links = n.links

/-- A product that is not a stream, or a stream whose signals are all new. -/
def Product.IsNew (n n' : Network) : Product → Prop
  | .stream x => ∀ s ∈ x.signals, ∀ k ∈ s.lineage, n.signals.count ≤ k ∧ k < n'.signals.count
  | _ => True

namespace Network

variable {n n₁ n' : Network}

namespace Makes

theorem of_same (count : n.signals.count ≤ n'.signals.count)
    (fired : n'.signals.fired = n.signals.fired) (dialed : n'.dialed = n.dialed)
    (accepted : n'.accepted = n.accepted) (demuxers : n'.demuxers = n.demuxers)
    (links : n'.links = n.links) : Makes n n' :=
  ⟨count, fired, dialed ▸ List.prefix_refl _, accepted, demuxers, links⟩

theorem refl (n : Network) : Makes n n := .of_same (Nat.le_refl _) rfl rfl rfl rfl rfl

theorem trans (h : Makes n n₁) (h' : Makes n₁ n') : Makes n n' where
  count := Nat.le_trans h.count h'.count
  fired := h'.fired.trans h.fired
  dialed := h.dialed.trans h'.dialed
  accepted := h'.accepted.trans h.accepted
  demuxers := h'.demuxers.trans h.demuxers
  links := h'.links.trans h.links

end Makes

/-- How following a producer ends: with a new product, or without one. -/
structure MakesNew (n : Network) (r : Except TransportError Product × Network) : Prop where
  makes : Makes n r.2
  isNew : ∀ product, r.1 = .ok product → product.IsNew n r.2

namespace MakesNew

theorem of_error {e : TransportError} (makes : Makes n n') : MakesNew n (.error e, n') :=
  ⟨makes, nofun⟩

theorem of_ok {product : Product} (makes : Makes n n') (isNew : product.IsNew n n') :
    MakesNew n (.ok product, n') :=
  ⟨makes, by rintro _ ⟨⟩; exact isNew⟩

theorem after {r : Except TransportError Product × Network} (first : Makes n n₁)
    (next : MakesNew n₁ r) : MakesNew n r := by
  refine ⟨first.trans next.makes, fun product hp => ?_⟩
  have isNew := next.isNew product hp
  cases product with
  | stream x =>
      exact fun s hs k hk =>
        ⟨Nat.le_trans first.count (isNew s hs k hk).1, (isNew s hs k hk).2⟩
  | _ => trivial

end MakesNew

/-- A stream with one signal, which was made just now. -/
theorem isNew_next {x : Stream} (signals : x.signals = [n.nextSignal []])
    (made : n.signals.count < n'.signals.count) : (Product.stream x).IsNew n n' := by
  intro s hs k hk
  rw [signals, List.mem_singleton] at hs
  subst hs
  rw [List.mem_singleton.1 hk]
  exact ⟨Nat.le_refl _, made⟩

theorem makesNew_recordedDial (name : String) (c : Category) {input : Option Product}
    (makes : Makes n n₁) (isNew : ∀ x ∈ input, x.IsNew n n₁) :
    MakesNew n (recordedDial name c input n₁) := by
  have more : Makes n₁ n₁.withSignal := .of_same (Nat.le_succ _) rfl rfl rfl rfl rfl
  have packet : MakesNew n ((Product.packet <$> newPacketSocket : Net Product) n₁) :=
    .of_ok (makes.trans more) trivial
  have muxed : MakesNew n ((Product.muxed <$> newRecordedSocket name : Net Product) n₁) :=
    .of_ok (makes.trans (.of_same (Nat.le_succ _) rfl rfl rfl rfl rfl)) trivial
  have stream : MakesNew n (recordedDial.newStream name n₁) :=
    .after makes (.of_ok more (isNew_next rfl (Nat.lt_succ_self _)))
  have given {x : Product} (hx : x ∈ input) : MakesNew n ((pure x : Net Product) n₁) :=
    .of_ok makes (isNew x hx)
  unfold recordedDial
  cases c.gives with
  | packet =>
      cases input with
      | none => exact packet
      | some x => by_cases obfuscates : c = .packetObfuscator <;> simp [obfuscates, packet, given]
  | muxed => exact muxed
  | stream | address =>
      cases input with
      | none => exact stream
      | some x => by_cases obfuscates : c = .streamObfuscator <;> simp [obfuscates, stream, given]

/-- Rehearsing only writes something down. -/
theorem makesNew_rehearse (name : String) (c : Category) {f : Net Product}
    (next : ∀ n₁, Makes n n₁ → MakesNew n (f n₁)) :
    MakesNew n ((rehearse name c .dial >>= fun _ => f) n) := by
  have makes : Makes n (rehearse name c .dial n).2 := .of_same (Nat.le_refl _) rfl rfl rfl rfl rfl
  rcases hr : rehearse name c .dial n with ⟨e | _, n₁⟩
  · rw [bind_of_error hr]
    rw [hr] at makes
    exact .of_error makes
  · rw [bind_of_ok hr]
    rw [hr] at makes
    exact next n₁ makes

theorem makesNew_dial (q : Producer) (plain : q.cells = []) (n : Network) :
    MakesNew n (dial q n) := by
  induction q generalizing n with
  | bound c i address p =>
      cases i with
      | tcp | udp =>
          change MakesNew n (systemSocket address n)
          rw [systemSocket]
          cases SocketAddress.read? address <;> exact .of_error (.refl n)
      | nomux => exact .of_error (.refl n)
      | memory =>
          change MakesNew n ((Product.stream <$> dialStream _ : Net Product) n)
          rw [map_eq_pure_bind]
          cases reached : n.streams.reach address with
          | error e =>
              rw [bind_of_error (dialStream_refused reached)]
              exact .of_error (.refl n)
          | ok binding =>
              rw [bind_of_ok (dialStream_eq (d := ⟨address, _⟩) reached)]
              exact .of_ok (.of_same (Nat.le_succ _) rfl rfl rfl rfl rfl)
                (isNew_next rfl (Nat.lt_succ_self _))
      | memoryMux =>
          change MakesNew n ((Product.muxed <$> dialSession _ : Net Product) n)
          rw [map_eq_pure_bind]
          cases reached : n.sockets.reach address with
          | error e =>
              rw [bind_of_error (dialSession_refused reached)]
              exact .of_error (.refl n)
          | ok binding =>
              rw [bind_of_ok (dialSession_eq (d := ⟨address, _⟩) reached)]
              exact .of_ok (.of_same (Nat.le_succ _) rfl rfl rfl rfl rfl) trivial
      | recorded name =>
          exact makesNew_rehearse name c fun n₁ makes =>
            makesNew_recordedDial name c makes (fun _ h => by cases h)
  | onTop c i p input ih =>
      cases i with
      | nomux =>
          exact .of_ok ⟨Nat.le_succ _, rfl, List.prefix_append _ _, rfl, rfl, rfl⟩ trivial
      | recorded name =>
          refine makesNew_rehearse name c fun n₁ makes => ?_
          have inner := MakesNew.after makes (ih plain n₁)
          rcases hr : dial input n₁ with ⟨e | x, n₂⟩
          · rw [bind_of_error hr]
            rw [hr] at inner
            exact .of_error inner.makes
          · rw [bind_of_ok hr]
            rw [hr] at inner
            refine makesNew_recordedDial name c inner.makes fun y hy => ?_
            cases hy
            exact inner.isNew x rfl
      | tcp | udp | memory | memoryMux => exact .of_error (.refl n)
  | rotating cell input ih => cases plain
  | gathering capacity input ih => exact .of_error (.refl n)

end Network

namespace Single

variable {past : List Happening} {n n' : Network}

theorem Sound.beyond_of_makes (sound : Sound past n) (makes : Makes n n') :
    Beyond (own past) n n' where
  numbered := {
    fired := fun f hf => by
      rw [makes.fired] at hf
      exact Nat.lt_of_lt_of_le (sound.tallied.numbered.fired f hf) makes.count
    links := fun l hl => by
      rw [makes.links] at hl
      exact Nat.lt_of_lt_of_le (sound.tallied.numbered.links l hl) makes.count
    demuxers := fun d hd => by
      rw [makes.demuxers] at hd
      exact Nat.lt_of_lt_of_le (sound.tallied.numbered.demuxers d hd) makes.count }
  count := makes.count
  fired := by
    rw [makes.fired]
    exact List.Subset.refl _
  causes f hf _ := by
    rw [makes.fired] at hf
    exact .inl hf
  dialed i s hs _ := by
    obtain ⟨others, eq⟩ := makes.dialed
    rw [← eq, List.getElem?_append_left (List.getElem?_eq_some_iff.1 hs).1, hs]
  accepted i s hs _ := by rwa [makes.accepted]
  links l _ := by rw [makes.links]
  demuxers := by
    rw [makes.demuxers]
    exact sound.tallied.demuxers

theorem Sound.outside_of_isNew (sound : Sound past n) {x : Stream}
    (isNew : (Product.stream x).IsNew n n') : x.IsOutside (own past) n' := by
  intro s hs k hk
  obtain ⟨more, less⟩ := isNew s hs k hk
  exact ⟨less, fun owned => Nat.not_lt_of_le more (sound.tallied.made k owned)⟩

/-- Opening a stream on an open socket over a dialer without demultiplexers is a call, a dial and its
arrival. -/
theorem Reached.dialed (reached : Reached past n) {i : Nat} {g : Signal} {q : Producer}
    (made : .made i g q ∈ past) (unfired : n.isFired g = false) (plain : q.cells = []) :
    let r := (dial q >>= arrive i g) n
    Reached (.arrived i r.1 :: .elsewhere :: .called i :: past) r.2 := by
  intro r
  have called : Reached (.called i :: past) n := .step reached (.call made unfired)
  obtain ⟨makes, isNew⟩ := makesNew_dial q plain n
  have dialing : Reached (.elsewhere :: .called i :: past) (dial q n).2 :=
    .step called (.elsewhere (called.sound.beyond_of_makes makes))
  have same : (ofExcept (dial q n).1 >>= arrive i g) (dial q n).2 = (r.1, r.2) := by
    change _ = (dial q >>= arrive i g) n
    rcases hr : dial q n with ⟨e | product, n₁⟩
    · rw [bind_of_error hr]
      rfl
    · rw [bind_of_ok hr]
      rfl
  have underway : arrivals i (.elsewhere :: .called i :: past) <
      calls i (.elsewhere :: .called i :: past) := by
    have before : arrivals i past ≤ calls i past := reached.arrivals_le i
    rw [arrivals, calls] at before ⊢
    simpa [Happening.isCall, Happening.isArrival] using Nat.lt_succ_of_le before
  have outside : ∀ x, (dial q n).1 = .ok (.stream x) →
      x.IsOutside (own (.elsewhere :: .called i :: past)) (dial q n).2 :=
    fun x hx => called.sound.outside_of_isNew (isNew _ hx)
  exact .step dialing (.arrive (List.mem_cons_of_mem _ (List.mem_cons_of_mem _ made)) underway
    outside same)

/-- A dialer within the program, and a network in which it reaches a listener. -/
def toHere : Producer := .bound .streamConn .memory "here" .empty

def reachable : Network := Network.empty.listening .streams "here"

/-- The accepting end of the first connection to the listener. -/
def incoming : Stream :=
  .piped ⟨0, .second, ⟨1, []⟩, 0, serverAddress Implementation.memoryName "here",
    (reachable.newClient Implementation.memoryName).1, none⟩

theorem reached_reachable : Reached [] reachable := by
  refine .start ⟨?_, ?_, ?_⟩ <;> exact fun _ h => absurd h List.not_mem_nil

end Single

end TransportStack

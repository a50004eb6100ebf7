import TransportStack.Proofs.Dictionary
import TransportStack.Proofs.Memory.Boards
import TransportStack.Proofs.Signals

/-!
The listeners within the program as one routing machine. Its history tells which listener is
registered at an address, which dials were routed to a listener, and what was accepted from it; the
exchanges do what the history demands.
-/

namespace TransportStack

/-- The listener within the program that a product is. -/
def Product.binding? : Product → Option (Board × Nat)
  | streamListener (.memory i) => some (.streams, i)
  | muxListener (.memory i) => some (.sockets, i)
  | _ => none

namespace Routing

inductive Happening
  | listened (board : Board) (address : String) (result : Except TransportError Product)
  | closed (board : Board) (listener : Nat)
  | dropped (board : Board) (listener : Nat)
  | cleared
  | dialed (board : Board) (address : String) (result : Except TransportError Product)
  | accepted (board : Board) (listener : Nat) (answer : Poll TransportError Product)

namespace Happening

/-- Whether a listener comes to be. -/
def begins (b : Board) (i : Nat) : Happening → Bool
  | listened _ _ (.ok l) => l.binding? = some (b, i)
  | listened _ _ (.error _) | closed .. | dropped .. | cleared | dialed .. | accepted .. => false

def registers (b : Board) (address : String) (i : Nat) : Happening → Bool
  | listened _ a (.ok l) => a = address ∧ l.binding? = some (b, i)
  | listened _ _ (.error _) | closed .. | dropped .. | cleared | dialed .. | accepted .. => false

def unregisters (b : Board) (i : Nat) : Happening → Bool
  | closed b' j | dropped b' j => b' = b ∧ j = i
  | cleared => true
  | listened .. | dialed .. | accepted .. => false

def closes (b : Board) (i : Nat) : Happening → Bool
  | closed b' j => b' = b ∧ j = i
  | listened .. | dropped .. | cleared | dialed .. | accepted .. => false

def drops (b : Board) (i : Nat) : Happening → Bool
  | dropped b' j => b' = b ∧ j = i
  | listened .. | closed .. | cleared | dialed .. | accepted .. => false

end Happening

section

variable (b : Board)

/-- Whether a listener is registered: it was bound, and since then it was neither closed nor dropped,
and the table was not cleared. -/
def registered (address : String) (i : Nat) : List Happening → Bool
  | [] => false
  | e :: earlier =>
      e.registers b address i || (registered address i earlier && !e.unregisters b i)

/-- Whether the program has a listener: it was bound and not dropped. -/
def holds (i : Nat) (h : List Happening) : Bool :=
  h.any (·.begins b i) && !h.any (·.drops b i)

def isClosed (i : Nat) (h : List Happening) : Bool := h.any (·.closes b i)

/-- What the dials have yielded that were made while a listener was registered at their address, in
their order. -/
def routed (i : Nat) : List Happening → List Product
  | [] => []
  | .dialed b' address (.ok client) :: earlier =>
      routed i earlier ++ if b' = b ∧ registered b address i earlier then [client] else []
  | _ :: earlier => routed i earlier

/-- What was accepted at a listener, in its order. -/
def taken (i : Nat) : List Happening → List Product
  | [] => []
  | .accepted b' j (.done (.ok product)) :: earlier =>
      taken i earlier ++ if b' = b ∧ j = i then [product] else []
  | _ :: earlier => taken i earlier

end

/-- Something that the program does. It closes, drops and accepts at listeners that it has. -/
inductive Act
  | listen (board : Board) (category : Category) (address : String) (parameters : Parameters)
  | close (board : Board) (listener : Nat)
  | drop (board : Board) (listener : Nat)
  | clear
  | dial (board : Board) (category : Category) (address : String) (parameters : Parameters)
  | accept (board : Board) (listener : Nat)

def Act.listener? : Act → Option (Board × Nat)
  | close b i | drop b i | accept b i => some (b, i)
  | listen .. | clear | dial .. => none

/-- What an act does to the network, and how it is remembered. -/
def Act.perform (n : Network) : Act → Happening × Network
  | listen b c address p =>
      let (r, n) := Network.listen (.bound c b.implementation address p) n
      (.listened b address r, n)
  | close b i => (.closed b i, n.closeListener b i)
  | drop b i => (.dropped b i, n.releaseOne (b.holding i))
  | clear => (.cleared, n.clearListeners)
  | dial b c address p =>
      let (r, n) := Network.dial (.bound c b.implementation address p) n
      (.dialed b address r, n)
  | accept b i =>
      let (r, n) := n.acceptOn b i
      (.accepted b i r, n)

/-- The network and what the program has done so far, the latest first. -/
structure State where
  network : Network
  history : List Happening

def start : State := ⟨.empty, []⟩

/-- Whether the program can do something. -/
def State.allows (s : State) (act : Act) : Bool :=
  act.listener?.all fun l => holds l.1 l.2 s.history

def State.act (s : State) (act : Act) : State :=
  if s.allows act then
    let (e, n) := act.perform s.network
    ⟨n, e :: s.history⟩
  else s

def State.run (s : State) (acts : List Act) : State := acts.foldl State.act s

/-- What has to come of something that happens, after a history. -/
def Lawful (n : Network) (h : List Happening) (n' : Network) : Happening → Prop
  | .listened b address (.ok l) =>
      (∀ j, registered b address j h = false) ∧
        ∃ i, l = b.listener i ∧ h.any (·.begins b i) = false
  | .listened b address (.error e) =>
      e = Exchange.occupied address ∧ (∃ j, registered b address j h = true) ∧
        n'.exchange = n.exchange
  | .dialed b address (.ok client) =>
      (∃ i, registered b address i h = true ∧
        n'.exchange = Function.update n.exchange b ((n.exchange b).deliver i client.serverHalf)) ∧
        ∀ b' address' client', .dialed b' address' (.ok client') ∈ h → client' ≠ client
  | .dialed b address (.error e) =>
      e = Exchange.refused address ∧ (∀ j, registered b address j h = false) ∧
        n'.exchange = n.exchange
  | .accepted b i answer =>
      answer =
        if isClosed b i h then .failed .closed
        else
          match (routed b i h)[(taken b i h).length]? with
          | some client => .ready client.serverHalf
          | none => .pending
  | .closed .. | .dropped .. | .cleared => True

/-- What the exchanges have is what the history tells. -/
structure Told (n : Network) (h : List Happening) : Prop where
  table : ∀ b address i,
    (n.exchange b).table.get? address = some i ↔ registered b address i h = true
  bound : ∀ b i, ((n.exchange b).signal? i).isSome = h.any (·.begins b i)
  conveyed : ∀ b i,
    (routed b i h).map Product.serverHalf = taken b i h ++ (n.exchange b).inbox i

/-- Each listener has a signal of its own, which has fired if it was closed. -/
structure Signaled (n : Network) (h : List Happening) : Prop where
  rooted : ∀ b i s, (n.exchange b).signal? i = some s →
    s.ancestors = [] ∧ s.number < n.signals.count
  apart : ∀ b i b' i' s, (n.exchange b).signal? i = some s →
    (n.exchange b').signal? i' = some s → b' = b ∧ i' = i
  fired : ∀ b i s, (n.exchange b).signal? i = some s → n.isFired s = isClosed b i h
  made : ∀ f ∈ n.signals.fired, f.number < n.signals.count
  closed : ∀ b i, isClosed b i h = true → ((n.exchange b).signal? i).isSome = true

/-- What dials have yielded is there. -/
def Placed (n : Network) (h : List Happening) : Prop :=
  ∀ b address client, .dialed b address (.ok client) ∈ h →
    ∃ b' k, client.place? = some (b', k) ∧ k < n.made b'

structure Sound (s : State) : Prop where
  told : Told s.network s.history
  signaled : Signaled s.network s.history
  placed : Placed s.network s.history

section

variable {n n' : Network} {h : List Happening} {e : Happening} {b : Board} {i : Nat}

theorem begins_of_registered {address : String} (r : registered b address i h = true) :
    h.any (·.begins b i) = true := by
  induction h with
  | nil => cases r
  | cons e earlier ih =>
      simp only [registered, Bool.or_eq_true, Bool.and_eq_true] at r
      rw [List.any_cons, Bool.or_eq_true]
      obtain now | ⟨before, -⟩ := r
      · left
        cases e with
        | listened b' a r =>
            cases r with
            | error => cases now
            | ok l =>
                simp only [Happening.registers, decide_eq_true_eq] at now
                simpa [Happening.begins] using now.2
        | _ => cases now
      · exact .inr (ih before)

theorem Signaled.frame (signaled : Signaled n h)
    (same : ∀ b, (n'.exchange b).signal? = (n.exchange b).signal?)
    (fired : n'.signals.fired = n.signals.fired) (more : n.signals.count ≤ n'.signals.count)
    (unclosed : ∀ b i, e.closes b i = false) : Signaled n' (e :: h) where
  rooted b i s found := by
    rw [same] at found
    have root := signaled.rooted b i s found
    exact ⟨root.1, Nat.lt_of_lt_of_le root.2 more⟩
  apart b i b' i' s found found' := by
    rw [same] at found found'
    exact signaled.apart b i b' i' s found found'
  fired b i s found := by
    rw [same] at found
    have before := signaled.fired b i s found
    simpa [Network.isFired, Signals.isFired, fired, isClosed, unclosed] using before
  made f hf := by
    rw [fired] at hf
    exact Nat.lt_of_lt_of_le (signaled.made f hf) more
  closed b i closed := by
    rw [same]
    exact signaled.closed b i (by simpa [isClosed, unclosed] using closed)

theorem registered_cons {address : String} :
    registered b address i (e :: h) = true ↔ e.registers b address i = true ∨
      (registered b address i h = true ∧ e.unregisters b i = false) := by
  simp [registered]

/-- Something that registers nothing, ends nothing and moves nothing leaves what is told. -/
theorem Told.frame (told : Told n h) (same : n'.exchange = n.exchange)
    (begins : ∀ b i, e.begins b i = false) (registers : ∀ b a i, e.registers b a i = false)
    (unregisters : ∀ b i, e.unregisters b i = false)
    (moved : ∀ b i, routed b i (e :: h) = routed b i h ∧ taken b i (e :: h) = taken b i h) :
    Told n' (e :: h) where
  table b a i := by
    rw [same, told.table, registered_cons]
    simp [registers, unregisters]
  bound b i := by
    rw [same, told.bound, List.any_cons, begins, Bool.false_or]
  conveyed b i := by
    rw [same, (moved b i).1, (moved b i).2, told.conveyed]

/-- Where only one exchange changes, and only it is spoken of, the other one is not looked at. -/
theorem Told.update (told : Told n h) {x : Exchange Product}
    (changed : n'.exchange = Function.update n.exchange b x)
    (table : ∀ a i, x.table.get? a = some i ↔ registered b a i (e :: h) = true)
    (bound : ∀ i, (x.signal? i).isSome = (e :: h).any (·.begins b i))
    (conveyed : ∀ i, (routed b i (e :: h)).map Product.serverHalf = taken b i (e :: h) ++ x.inbox i)
    (others : ∀ b', b' ≠ b →
      (∀ a i, registered b' a i (e :: h) = registered b' a i h) ∧
      (∀ i, e.begins b' i = false) ∧
      ∀ i, routed b' i (e :: h) = routed b' i h ∧ taken b' i (e :: h) = taken b' i h) :
    Told n' (e :: h) := by
  have own : n'.exchange b = x := by rw [changed, Function.update_self]
  have other (b' : Board) (ne : b' ≠ b) : n'.exchange b' = n.exchange b' := by
    rw [changed, Function.update_of_ne ne]
  refine ⟨fun b' a i => ?_, fun b' i => ?_, fun b' i => ?_⟩
  · by_cases same : b' = b
    · rw [same, own]
      exact table a i
    · rw [other b' same, (others b' same).1, told.table]
  · by_cases same : b' = b
    · rw [same, own]
      exact bound i
    · rw [other b' same, List.any_cons, (others b' same).2.1, Bool.false_or, told.bound]
  · by_cases same : b' = b
    · rw [same, own]
      exact conveyed i
    · rw [other b' same, ((others b' same).2.2 i).1, ((others b' same).2.2 i).2, told.conveyed]

theorem told_listening (told : Told n h) {address : String}
    (vacant : (n.exchange b).table.get? address = none) :
    Told (n.listening b address)
      (.listened b address (.ok (b.listener (n.exchange b).bindings.length)) :: h) := by
  have number : (b.listener (n.exchange b).bindings.length).binding? =
      some (b, (n.exchange b).bindings.length) := by cases b <;> rfl
  apply told.update (n.exchange_listening address)
  · intro a j
    rw [registered_cons, ← told.table, Exchange.listening, Dict.get?_insert]
    by_cases here : a = address
    · subst here
      simp [Happening.registers, number, vacant]
    · simp [Happening.registers, Happening.unregisters, here, Ne.symm here]
  · intro j
    rw [List.any_cons, ← told.bound, Exchange.signal?_listening]
    by_cases last : j = (n.exchange b).bindings.length
    · simp [Happening.begins, number, last]
    · simp [Happening.begins, number, last, Ne.symm last]
  · intro j
    rw [Exchange.inbox_listening]
    exact told.conveyed b j
  · intro b' other
    refine ⟨fun a j => ?_, fun j => ?_, fun j => ⟨rfl, rfl⟩⟩
    · simp [registered, Happening.registers, Happening.unregisters, number, Ne.symm other]
    · simp [Happening.begins, number, Ne.symm other]

theorem told_unbind (told : Told n h) (he : e = .closed b i ∨ e = .dropped b i)
    {x : Exchange Product} (unbound : n'.exchange = Function.update n.exchange b x)
    (table : x.table = ((n.exchange b).unbind i).table)
    (signals : x.signal? = (n.exchange b).signal?) (inboxes : x.inbox = (n.exchange b).inbox) :
    Told n' (e :: h) := by
  have registers : ∀ b' a j, e.registers b' a j = false := by
    obtain rfl | rfl := he <;> exact fun _ _ _ => rfl
  have begins : ∀ b' j, e.begins b' j = false := by
    obtain rfl | rfl := he <;> exact fun _ _ => rfl
  have unregisters : ∀ b' j, e.unregisters b' j = decide (b = b' ∧ i = j) := by
    obtain rfl | rfl := he <;> exact fun _ _ => rfl
  have moved : ∀ b' j, routed b' j (e :: h) = routed b' j h ∧ taken b' j (e :: h) = taken b' j h := by
    obtain rfl | rfl := he <;> exact fun _ _ => ⟨rfl, rfl⟩
  apply told.update unbound
  · intro a j
    rw [registered_cons, ← told.table, registers, unregisters, table, Exchange.unbind,
      Dict.get?_filter, Option.filter_eq_some_iff]
    simp [@eq_comm Nat i j]
  · intro j
    rw [List.any_cons, begins, Bool.false_or, ← told.bound, signals]
  · intro j
    rw [(moved b j).1, (moved b j).2, inboxes]
    exact told.conveyed b j
  · intro b' other
    refine ⟨fun a j => ?_, begins b', moved b'⟩
    simp [registered, registers, unregisters, Ne.symm other]

theorem told_cleared (told : Told n h) : Told n.clearListeners (.cleared :: h) := by
  have empty (b : Board) (a : String) : (n.clearListeners.exchange b).table.get? a = none := by
    cases b <;> rfl
  refine ⟨fun b a j => ?_, fun b j => ?_, fun b j => ?_⟩
  · rw [empty, registered_cons]
    simp [Happening.registers, Happening.unregisters]
  · cases b
    · exact told.bound .streams j
    · exact told.bound .sockets j
  · cases b
    · exact told.conveyed .streams j
    · exact told.conveyed .sockets j

theorem told_dialed (told : Told n h) {address : String} {client : Product}
    (found : (n.exchange b).table.get? address = some i)
    (delivered : n'.exchange =
      Function.update n.exchange b ((n.exchange b).deliver i client.serverHalf)) :
    Told n' (.dialed b address (.ok client) :: h) := by
  have bound : ((n.exchange b).signal? i).isSome = true := by
    rw [told.bound]
    exact begins_of_registered ((told.table b address i).1 found)
  have there := (n.exchange b).signal?_isSome_iff.1 bound
  have same (b' : Board) (a : String) (j : Nat) :
      registered b' a j (.dialed b address (.ok client) :: h) = registered b' a j h :=
    Bool.and_true _
  apply told.update delivered
  · intro a j
    rw [same]
    exact told.table b a j
  · intro j
    rw [Exchange.deliver, Exchange.signal?_modifyInbox]
    exact told.bound b j
  · intro j
    rw [routed, List.map_append, told.conveyed, Exchange.deliver,
      Exchange.inbox_modifyInbox _ there]
    change _ = taken b j h ++ _
    by_cases here : j = i
    · subst here
      simp [(told.table b address j).1 found]
    · have elsewhere : registered b address j h = false := by
        rw [Bool.eq_false_iff, ne_eq, ← told.table, found, Option.some.injEq]
        exact Ne.symm here
      simp [here, elsewhere]
  · intro b' other
    refine ⟨same b', fun _ => rfl, fun j => ⟨?_, rfl⟩⟩
    rw [routed, if_neg fun h => other h.1.symm, List.append_nil]

theorem told_accepted (told : Told n h) {item : Product} {rest : List Product}
    {x : Exchange Product} (waiting : (n.exchange b).inbox i = item :: rest)
    (table : x.table = (n.exchange b).table) (signals : x.signal? = (n.exchange b).signal?)
    (left : ∀ j, x.inbox j = if j = i then rest else (n.exchange b).inbox j)
    (accepted : n'.exchange = Function.update n.exchange b x) :
    Told n' (.accepted b i (.ready item) :: h) := by
  have same (b' : Board) (a : String) (j : Nat) :
      registered b' a j (.accepted b i (.ready item) :: h) = registered b' a j h :=
    Bool.and_true _
  have more (b' : Board) (j : Nat) : taken b' j (.accepted b i (.ready item) :: h) =
      taken b' j h ++ if b = b' ∧ i = j then [item] else [] := rfl
  apply told.update accepted
  · intro a j
    rw [same, table]
    exact told.table b a j
  · intro j
    rw [signals]
    exact told.bound b j
  · intro j
    rw [more, left]
    refine (told.conveyed b j).trans ?_
    by_cases here : j = i
    · subst here
      simp [waiting]
    · simp [here, Ne.symm here]
  · intro b' other
    refine ⟨same b', fun _ => rfl, fun j => ⟨rfl, ?_⟩⟩
    rw [more, if_neg fun h => other h.1.symm, List.append_nil]

theorem signaled_listening (signaled : Signaled n h) (address : String)
    (r : Except TransportError Product) :
    Signaled (n.listening b address) (.listened b address r :: h) := by
  have signals : (n.listening b address).signals = n.withSignal.signals := by cases b <;> rfl
  have unfired : n.isFired (n.nextSignal []) = false := by
    rw [Bool.eq_false_iff]
    exact fun fired =>
      Nat.lt_irrefl _ (signaled.made _ ((Signals.isFired_root_iff n.signals.count).1 fired))
  have found_iff (b' : Board) (i : Nat) (s : Signal) :
      ((n.listening b address).exchange b').signal? i = some s ↔
        (b' = b ∧ i = (n.exchange b).bindings.length ∧ s = n.nextSignal []) ∨
          (n.exchange b').signal? i = some s := by
    rw [n.exchange_listening, Function.update_apply]
    by_cases own : b' = b
    · subst own
      rw [if_pos rfl, Exchange.signal?_listening]
      by_cases last : i = (n.exchange b').bindings.length
      · have beyond : (n.exchange b').signal? i = none := by
          rw [← Option.not_isSome_iff_eq_none, Exchange.signal?_isSome_iff]
          omega
        rw [if_pos last, beyond]
        simp [last, eq_comm]
      · simp [last]
    · simp [own]
  have old (b' : Board) (i : Nat) (found : (n.exchange b').signal? i = some (n.nextSignal [])) :
      False := Nat.lt_irrefl _ (signaled.rooted b' i _ found).2
  refine ⟨fun b' i s found => ?_, fun b₁ i₁ b₂ i₂ s found₁ found₂ => ?_, fun b' i s found => ?_,
    fun f hf => ?_, fun b' i closed => ?_⟩
  · rw [signals]
    obtain ⟨-, -, rfl⟩ | found := (found_iff b' i s).1 found
    · exact ⟨rfl, Nat.lt_succ_self _⟩
    · have root := signaled.rooted b' i s found
      exact ⟨root.1, Nat.lt_succ_of_lt root.2⟩
  · obtain ⟨rfl, rfl, rfl⟩ | found₁ := (found_iff b₁ i₁ s).1 found₁
    · obtain ⟨rfl, rfl, -⟩ | found₂ := (found_iff b₂ i₂ _).1 found₂
      · exact ⟨rfl, rfl⟩
      · exact (old b₂ i₂ found₂).elim
    · obtain ⟨-, -, rfl⟩ | found₂ := (found_iff b₂ i₂ s).1 found₂
      · exact (old b₁ i₁ found₁).elim
      · exact signaled.apart b₁ i₁ b₂ i₂ s found₁ found₂
  · have same : (n.listening b address).isFired s = n.isFired s := by
      rw [Network.isFired, signals]
      rfl
    rw [same]
    obtain ⟨rfl, rfl, rfl⟩ | found := (found_iff b' i s).1 found
    · rw [unfired, eq_comm, Bool.eq_false_iff]
      intro closed
      have there := signaled.closed b' _ closed
      rw [Exchange.signal?_isSome_iff] at there
      exact Nat.lt_irrefl _ there
    · exact signaled.fired b' i s found
  · rw [signals] at hf ⊢
    exact Nat.lt_succ_of_lt (signaled.made f hf)
  · obtain ⟨s, found⟩ := Option.isSome_iff_exists.1 (signaled.closed b' i closed)
    exact Option.isSome_iff_exists.2 ⟨s, (found_iff b' i s).2 (.inr found)⟩

theorem signaled_closed (signaled : Signaled n h) {s : Signal}
    (found : (n.exchange b).signal? i = some s) :
    Signaled (n.closeListener b i) (.closed b i :: h) := by
  have same (b' : Board) :
      ((n.closeListener b i).exchange b').signal? = (n.exchange b').signal? := by
    rw [n.exchange_closeListener, Function.update_apply]
    by_cases own : b' = b
    · rw [if_pos own, own]
      rfl
    · rw [if_neg own]
  have signals := n.signals_closeListener b found
  have root := signaled.rooted b i s found
  obtain ⟨number, ancestors⟩ := s
  obtain rfl : ancestors = [] := root.1
  refine ⟨fun b' j s' found' => ?_, fun b₁ i₁ b₂ i₂ s' found₁ found₂ => ?_,
    fun b' j s' found' => ?_, fun f hf => ?_, fun b' j closed => ?_⟩
  · rw [same] at found'
    rw [signals, Signals.count_fire]
    exact signaled.rooted b' j s' found'
  · rw [same] at found₁ found₂
    exact signaled.apart b₁ i₁ b₂ i₂ s' found₁ found₂
  · rw [same] at found'
    have root' := signaled.rooted b' j s' found'
    have before := signaled.fired b' j s' found'
    have this_one : s' = ⟨number, []⟩ ↔ b = b' ∧ i = j := by
      constructor
      · rintro rfl
        exact signaled.apart b' j b i _ found' found
      · rintro ⟨rfl, rfl⟩
        exact Option.some.inj (found'.symm.trans found)
    obtain ⟨number', ancestors⟩ := s'
    obtain rfl : ancestors = [] := root'.1
    have now : isClosed b' j (.closed b i :: h) = (decide (b = b' ∧ i = j) || isClosed b' j h) :=
      rfl
    rw [now, ← before, Bool.eq_iff_iff, Bool.or_eq_true, decide_eq_true_eq, ← this_one]
    simp only [Network.isFired, signals, Signals.isFired_root_iff,
      Signals.mem_fired_fire_root_iff, or_comm]
  · rw [signals, Signals.count_fire]
    rw [signals] at hf
    obtain rfl | hf := Signals.mem_fired_fire hf
    · exact root.2
    · exact signaled.made f hf
  · rw [same]
    have now : isClosed b' j (.closed b i :: h) = (decide (b = b' ∧ i = j) || isClosed b' j h) :=
      rfl
    rw [now, Bool.or_eq_true, decide_eq_true_eq] at closed
    obtain ⟨rfl, rfl⟩ | closed := closed
    · rw [found]
      rfl
    · exact signaled.closed b' j closed

theorem Placed.frame (placed : Placed n h) (more : ∀ b, n.made b ≤ n'.made b)
    (other : ∀ b address client, e ≠ .dialed b address (.ok client)) : Placed n' (e :: h) := by
  intro b address client he
  obtain rfl | he := List.mem_cons.1 he
  · exact absurd rfl (other b address client)
  · obtain ⟨b', k, place, less⟩ := placed b address client he
    exact ⟨b', k, place, Nat.lt_of_lt_of_le less (more b')⟩

theorem Told.vacant_iff (told : Told n h) {address : String} :
    (n.exchange b).table.get? address = none ↔ ∀ i, registered b address i h = false := by
  simp only [Option.eq_none_iff_forall_ne_some, ne_eq, told.table, Bool.not_eq_true]

theorem Told.signal_of_holds (told : Told n h) (has : holds b i h = true) :
    ∃ s, (n.exchange b).signal? i = some s := by
  rw [holds, Bool.and_eq_true, ← told.bound] at has
  exact Option.isSome_iff_exists.1 has.1

/-- What an act has to leave, and what has to come of it. -/
def Sound.Goes (s : State) (r : Happening × Network) : Prop :=
  Sound ⟨r.2, r.1 :: s.history⟩ ∧ Lawful s.network s.history r.2 r.1

variable {s : State}

theorem Sound.listen (sound : Sound s) (b : Board) (c : Category) (address : String)
    (p : Parameters) : Sound.Goes s ((Act.listen b c address p).perform s.network) := by
  rw [Act.perform]
  cases found : (s.network.exchange b).table.get? address with
  | some i =>
      have there : (s.network.exchange b).table.contains address = true := by
        rw [Dict.contains, found]
        rfl
      have same : s.network.withSignal.exchange = s.network.exchange := by
        funext b
        cases b <;> rfl
      rw [Network.listen_occupied c p there]
      refine ⟨⟨?_, ?_, ?_⟩, rfl, ⟨i, (sound.told.table b address i).1 found⟩, same⟩
      · exact sound.told.frame same (fun _ _ => rfl) (fun _ _ _ => rfl) (fun _ _ => rfl)
          fun _ _ => ⟨rfl, rfl⟩
      · exact sound.signaled.frame (fun b => by rw [same]) rfl (Nat.le_succ _) fun _ _ => rfl
      · exact sound.placed.frame (fun b => by cases b <;> exact Nat.le_refl _) nofun
  | none =>
      have missing : (s.network.exchange b).table.contains address = false := by
        rw [Dict.contains, found]
        rfl
      have made : (s.network.listening b address).made = s.network.made := by
        funext b'
        cases b <;> cases b' <;> rfl
      rw [Network.listen_vacant c p missing]
      refine ⟨⟨told_listening sound.told found, signaled_listening sound.signaled address _, ?_⟩,
        sound.told.vacant_iff.1 found, _, rfl, ?_⟩
      · exact sound.placed.frame (fun b => by rw [made]) nofun
      · rw [← sound.told.bound, Bool.eq_false_iff, ne_eq, Exchange.signal?_isSome_iff]
        exact Nat.lt_irrefl _

theorem Sound.close (sound : Sound s) {b : Board} {i : Nat} (has : holds b i s.history = true) :
    Sound.Goes s ((Act.close b i).perform s.network) := by
  obtain ⟨signal, found⟩ := sound.told.signal_of_holds has
  refine ⟨⟨?_, signaled_closed sound.signaled found, ?_⟩, trivial⟩
  · exact told_unbind sound.told (.inl rfl) (s.network.exchange_closeListener b i) rfl rfl rfl
  · exact sound.placed.frame (fun b' => by rw [Act.perform, Network.made_closeListener]) nofun

theorem Sound.drop (sound : Sound s) (b : Board) (i : Nat) :
    Sound.Goes s ((Act.drop b i).perform s.network) := by
  have unbound := s.network.exchange_releaseOne b i
  have signals := (s.network.exchange b).signal?_drop i
  have inboxes := (s.network.exchange b).inbox_drop i
  refine ⟨⟨told_unbind sound.told (.inr rfl) unbound rfl signals inboxes, ?_, ?_⟩, trivial⟩
  · refine sound.signaled.frame (fun b' => ?_) ?_ ?_ fun _ _ => rfl
    · rw [Act.perform, unbound, Function.update_apply]
      by_cases own : b' = b
      · rw [if_pos own, own, signals]
      · rw [if_neg own]
    · cases b <;> rfl
    · cases b <;> exact Nat.le_refl _
  · exact sound.placed.frame (fun b' => by cases b <;> cases b' <;> exact Nat.le_refl _) nofun

theorem Sound.clear (sound : Sound s) : Sound.Goes s (Act.clear.perform s.network) := by
  refine ⟨⟨told_cleared sound.told, ?_, ?_⟩, trivial⟩
  · exact sound.signaled.frame (fun b => by cases b <;> rfl) rfl (Nat.le_refl _) fun _ _ => rfl
  · exact sound.placed.frame (fun b => by cases b <;> exact Nat.le_refl _) nofun

theorem Sound.dial (sound : Sound s) (b : Board) (c : Category) (address : String)
    (p : Parameters) : Sound.Goes s ((Act.dial b c address p).perform s.network) := by
  rw [Act.perform]
  cases found : (s.network.exchange b).table.get? address with
  | none =>
      rw [Network.dial_refused c p found]
      refine ⟨⟨?_, ?_, ?_⟩, rfl, sound.told.vacant_iff.1 found, rfl⟩
      · exact sound.told.frame rfl (fun _ _ => rfl) (fun _ _ _ => rfl) (fun _ _ => rfl)
          fun _ _ => ⟨rfl, rfl⟩
      · exact sound.signaled.frame (fun _ => rfl) rfl (Nat.le_refl _) fun _ _ => rfl
      · exact sound.placed.frame (fun _ => Nat.le_refl _) nofun
  | some i =>
      obtain ⟨client, n', dialed, delivered, signals, place, made⟩ :=
        Network.dial_reached c p found
      rw [dialed]
      refine ⟨⟨told_dialed sound.told found delivered, ?_, ?_⟩,
        ⟨i, (sound.told.table b address i).1 found, delivered⟩, ?_⟩
      · refine sound.signaled.frame (fun b' => ?_) ?_ ?_ fun _ _ => rfl
        · change (n'.exchange b').signal? = _
          rw [delivered, Function.update_apply]
          by_cases own : b' = b
          · rw [if_pos own, own, Exchange.deliver, Exchange.signal?_modifyInbox]
          · rw [if_neg own]
        · change n'.signals.fired = _
          rw [signals]
          rfl
        · change _ ≤ n'.signals.count
          rw [signals]
          exact Nat.le_succ _
      · intro b' address' client' he
        change ∃ b k, client'.place? = some (b, k) ∧ k < n'.made b
        rw [made]
        obtain same | he := List.mem_cons.1 he
        · cases same
          exact ⟨b, _, place, by rw [Function.update_self]; exact Nat.lt_succ_self _⟩
        · obtain ⟨b', k, place', less⟩ := sound.placed b' address' client' he
          refine ⟨b', k, place', ?_⟩
          rw [Function.update_apply]
          split
          · rename_i own
            exact Nat.lt_succ_of_lt (own ▸ less)
          · exact less
      · rintro b' address' client' he rfl
        obtain ⟨b', k, place', less⟩ := sound.placed b' address' client' he
        obtain ⟨rfl, rfl⟩ := Prod.mk.inj (Option.some.inj (place'.symm.trans place))
        exact Nat.lt_irrefl _ less

theorem Sound.accept (sound : Sound s) {b : Board} {i : Nat} (has : holds b i s.history = true) :
    Sound.Goes s ((Act.accept b i).perform s.network) := by
  obtain ⟨signal, found⟩ := sound.told.signal_of_holds has
  have closed := sound.signaled.fired b i signal found
  have next : (routed b i s.history)[(taken b i s.history).length]?.map Product.serverHalf =
      ((s.network.exchange b).inbox i).head? := by
    rw [← List.getElem?_map, sound.told.conveyed, List.getElem?_append_right (Nat.le_refl _),
      Nat.sub_self, List.head?_eq_getElem?]
  obtain ⟨answered, changed, signals, made⟩ := s.network.acceptOn_eq b i
  have placed (answer : Poll TransportError Product) :
      Placed (s.network.acceptOn b i).2 (.accepted b i answer :: s.history) :=
    sound.placed.frame (fun b => by rw [made]) nofun
  have signaled (answer : Poll TransportError Product)
      (same : (((s.network.exchange b).accept s.network.signals i).2).signal? =
        (s.network.exchange b).signal?) :
      Signaled (s.network.acceptOn b i).2 (.accepted b i answer :: s.history) := by
    refine sound.signaled.frame (fun b' => ?_) (by rw [signals]) (by rw [signals]) fun _ _ => rfl
    rw [changed, Function.update_apply]
    by_cases own : b' = b
    · rw [if_pos own, own, same]
    · rw [if_neg own]
  change Sound.Goes s (.accepted b i (s.network.acceptOn b i).1, (s.network.acceptOn b i).2)
  rw [answered]
  obtain ⟨fired, accepted⟩ | ⟨unfired, empty, accepted⟩ |
      ⟨unfired, item, rest, x, waiting, accepted, table, same, left⟩ :=
    (s.network.exchange b).accept_cases s.network.signals found
  · rw [accepted] at changed signaled ⊢
    rw [Function.update_eq_self] at changed
    refine ⟨⟨?_, signaled _ rfl, placed _⟩, ?_⟩
    · exact sound.told.frame changed (fun _ _ => rfl) (fun _ _ _ => rfl) (fun _ _ => rfl)
        fun _ _ => ⟨rfl, rfl⟩
    · rw [Lawful, ← closed]
      exact (if_pos fired).symm
  · rw [accepted] at changed signaled ⊢
    rw [Function.update_eq_self] at changed
    refine ⟨⟨?_, signaled _ rfl, placed _⟩, ?_⟩
    · exact sound.told.frame changed (fun _ _ => rfl) (fun _ _ _ => rfl) (fun _ _ => rfl)
        fun _ _ => ⟨rfl, rfl⟩
    · rw [empty, List.head?_nil, Option.map_eq_none_iff] at next
      rw [Lawful, ← closed, next]
      exact (if_neg (Bool.eq_false_iff.1 unfired)).symm
  · rw [accepted] at changed signaled ⊢
    refine ⟨⟨told_accepted sound.told waiting table same left changed, signaled _ same, placed _⟩, ?_⟩
    rw [waiting, List.head?_cons, Option.map_eq_some_iff] at next
    obtain ⟨client, next, rfl⟩ := next
    rw [Lawful, ← closed, next]
    exact (if_neg (Bool.eq_false_iff.1 unfired)).symm

theorem Sound.goes (sound : Sound s) {act : Act} (allowed : s.allows act = true) :
    Sound.Goes s (act.perform s.network) := by
  cases act with
  | listen b c address p => exact sound.listen b c address p
  | close b i => exact sound.close allowed
  | drop b i => exact sound.drop b i
  | clear => exact sound.clear
  | dial b c address p => exact sound.dial b c address p
  | accept b i => exact sound.accept allowed

theorem sound_start : Sound start where
  told := by
    refine ⟨fun b a i => ?_, fun b i => ?_, fun b i => ?_⟩
    · cases b <;> exact iff_of_false nofun nofun
    · cases b <;> rfl
    · cases b <;> rfl
  signaled := by
    refine ⟨fun b _ _ found => ?_, fun b _ _ _ _ found => ?_, fun b _ _ found => ?_, nofun, nofun⟩
    all_goals cases b <;> cases found
  placed := nofun

theorem Sound.act (sound : Sound s) (act : Act) : Sound (s.act act) := by
  rw [State.act]
  split
  · rename_i allowed
    exact (sound.goes allowed).1
  · exact sound

theorem Sound.run (sound : Sound s) (acts : List Act) : Sound (s.run acts) := by
  induction acts generalizing s with
  | nil => exact sound
  | cons act acts ih => exact ih (sound.act act)

/-- After any acts, a listener is in the table exactly when it is registered, and whatever the program
can do next comes out as the history demands. -/
theorem routes_as_told (acts : List Act) :
    let s := start.run acts
    (∀ b address i, (s.network.exchange b).table.get? address = some i ↔
      registered b address i s.history = true) ∧
      ∀ act, s.allows act = true →
        let r := act.perform s.network
        Lawful s.network s.history r.2 r.1 := by
  intro s
  have sound : Sound s := sound_start.run acts
  exact ⟨sound.told.table, fun act allowed => (sound.goes allowed).2⟩

end

end Routing

end TransportStack

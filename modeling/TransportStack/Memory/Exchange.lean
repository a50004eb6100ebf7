import TransportStack.Dict
import TransportStack.Error
import TransportStack.Poll
import TransportStack.Signal

/-!
The exchange routes connections between listeners and dialers within the program. At most one
listener is bound to an address at a time. A listener that is no longer in the table keeps what has
been routed to it, until it is dropped.
-/

namespace TransportStack

/-- What a listener has: its address, what was routed to it and not yet accepted, its close signal,
and whether it is still there. -/
structure Binding (τ : Type) where
  address : String
  inbox : List τ
  signal : Signal
  live : Bool
  deriving Repr

/-- All bindings so far, by their number, and the table of those that can be reached. A listener
that is dropped leaves the table at once. -/
@[ext]
structure Exchange (τ : Type) where
  bindings : List (Binding τ)
  table : Dict Nat
  live : ∀ e ∈ table.entries, ∃ b, bindings[e.2]? = some b ∧ b.live = true

namespace Exchange

variable {τ : Type}

def empty : Exchange τ := ⟨[], .empty, fun _ h => absurd h List.not_mem_nil⟩

def occupied (address : String) : TransportError :=
  .io ⟨.addrInUse, some ("memory address " ++ address ++ " already has a listener")⟩

def refused (address : String) : TransportError :=
  .io ⟨.connectionRefused, some ("no memory listener at " ++ address)⟩

def gone (address : String) : TransportError :=
  .io ⟨.connectionRefused, some ("memory listener at " ++ address ++ " is gone")⟩

/-- The exchange with one listener more. -/
def listening (x : Exchange τ) (address : String) (signal : Signal) : Exchange τ where
  bindings := x.bindings ++ [⟨address, [], signal, true⟩]
  table := x.table.insert address x.bindings.length
  live e he := by
    obtain rfl | old := Dict.mem_insertEntry he
    · exact ⟨_, List.getElem?_concat_length, rfl⟩
    · obtain ⟨b, hb, live⟩ := x.live e old
      exact ⟨b, (List.getElem?_append_left (List.getElem?_eq_some_iff.1 hb).1).trans hb, live⟩

def bind (x : Exchange τ) (address : String) (signal : Signal) :
    Except TransportError (Nat × Exchange τ) :=
  if x.table.contains address then .error (occupied address)
  else .ok (x.bindings.length, x.listening address signal)

def reach (x : Exchange τ) (address : String) : Except TransportError Nat :=
  match x.table.get? address with
  | some n => .ok n
  | none => .error (refused address)

/-- The exchange after something happened to the inbox of a listener. -/
def modifyInbox (x : Exchange τ) (n : Nat) (f : List τ → List τ) : Exchange τ where
  bindings := x.bindings.modify n fun b => { b with inbox := f b.inbox }
  table := x.table
  live e he := by
    obtain ⟨b, hb, live⟩ := x.live e he
    by_cases here : n = e.2
    · subst here
      refine ⟨{ b with inbox := f b.inbox }, ?_, live⟩
      rw [List.getElem?_modify_eq, hb]
      rfl
    · exact ⟨b, (List.getElem?_modify_ne _ _ here).trans hb, live⟩

def deliver (x : Exchange τ) (n : Nat) (item : τ) : Exchange τ :=
  x.modifyInbox n (· ++ [item])

def isLive (x : Exchange τ) (n : Nat) : Bool := x.bindings[n]?.any (·.live)

/-- The listeners that have not been dropped. -/
def present (x : Exchange τ) : List Nat := (List.range x.bindings.length).filter x.isLive

/-- Sends to the listener that was found at an address. -/
def send (x : Exchange τ) (address : String) (n : Nat) (item : τ) :
    Except TransportError (Exchange τ) :=
  if x.isLive n then .ok (x.deliver n item) else .error (gone address)

/-- What can be reached has not been dropped. -/
theorem isLive_of_reach {x : Exchange τ} {address : String} {n : Nat}
    (reached : x.reach address = .ok n) : x.isLive n = true := by
  unfold reach at reached
  split at reached
  · rename_i found
    cases reached
    obtain ⟨before, after, split, -⟩ := List.lookup_eq_some_iff.1 found
    obtain ⟨b, hb, live⟩ := x.live (address, n) (split ▸ List.mem_append_right _ List.mem_cons_self)
    rw [isLive, hb]
    exact live
  · cases reached

/-- A dialer that found a listener never finds it gone. -/
theorem send_of_reach {x : Exchange τ} {address : String} {n : Nat}
    (reached : x.reach address = .ok n) (item : τ) :
    x.send address n item = .ok (x.deliver n item) :=
  if_pos (isLive_of_reach reached)

/-- Takes a listener out of the table, and leaves a newer one at the same address alone. -/
def unbind (x : Exchange τ) (n : Nat) : Exchange τ where
  bindings := x.bindings
  table := x.table.filter fun _ m => m != n
  live e he := x.live e (List.mem_filter.1 he).1

/-- Drops a listener, which is unbound by that. -/
def drop (x : Exchange τ) (n : Nat) : Exchange τ where
  bindings := x.bindings.modify n fun b => { b with live := false }
  table := (x.unbind n).table
  live e he := by
    obtain ⟨he, other⟩ := List.mem_filter.1 he
    rw [List.getElem?_modify_ne _ _ (bne_iff_ne.1 other).symm]
    exact x.live e he

def clear (x : Exchange τ) : Exchange τ where
  bindings := x.bindings
  table := .empty
  live _ h := absurd h List.not_mem_nil

def accept (x : Exchange τ) (g : Signals) (n : Nat) : Poll TransportError τ × Exchange τ :=
  match x.bindings[n]? with
  | none => (.failed .closed, x)
  | some b =>
      if g.isFired b.signal then (.failed .closed, x)
      else
        match b.inbox with
        | [] => (.pending, x)
        | item :: rest => (.ready item, x.modifyInbox n fun _ => rest)

end Exchange

end TransportStack

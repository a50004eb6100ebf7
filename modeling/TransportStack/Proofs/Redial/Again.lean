import TransportStack.Proofs.Redial.Dialing
import TransportStack.Proofs.Single.Dialed

/-!
Dialing again. It fails for lack of a way to do so just for the things that say that they cannot be
dialed again; any other failure is one of dialing, and what it yields can be dialed again.
-/

namespace TransportStack

namespace Network

section

variable {n : Network} {i : Nat} {cell : DialedSocket} (there : n.dialed[i]? = some cell)

include there

theorem dialAgain_closed (fired : n.isFired cell.signal = true) :
    dialAgain i n = (.error .closed, n) :=
  (dialAgain_eq there).trans (openOnDialed_closed there fired)

theorem dialAgain_open (unfired : n.isFired cell.signal = false) :
    dialAgain i n = (dial cell.dialer >>= Single.arrive i cell.signal) n :=
  (dialAgain_eq there).trans (Single.openOnDialed_arrive _ there unfired)

end

/-- What a socket that dials hands out is a stream of that socket. -/
theorem dialAgain_ok {n n' : Network} {i : Nat} {s : Stream}
    (opened : dialAgain i n = (.ok s, n')) : ∃ x g, s = .single x g (some i) := by
  cases there : n.dialed[i]? with
  | none =>
      rw [dialAgain, get_bind] at opened
      simp only [there] at opened
      cases opened
  | some cell =>
      cases fired : n.isFired cell.signal with
      | true => cases (dialAgain_closed there fired).symm.trans opened
      | false =>
          rw [dialAgain_open there fired] at opened
          rcases dialed : dial cell.dialer n with ⟨e | x, n₁⟩
          · cases (bind_of_error dialed _).symm.trans opened
          · rw [bind_of_ok dialed] at opened
            cases x with
            | stream x =>
                cases (Single.arrive_stream n₁ i cell.signal x).symm.trans opened
                exact ⟨x, _, rfl⟩
            | packet _ | muxed _ | streamListener _ | muxListener _ => cases opened

end Network

namespace Redial

open Network

section

variable {n : Network}

theorem redialStream_final {s : Stream} (final : s.canRedial = false) :
    redialStream s n = (.error .redialNotSupported, n) := by
  cases s with
  | piped s =>
      rw [redialStream, Option.isNone_iff_eq_none.1 (Option.isSome_eq_false_iff.1 final)]
      rfl
  | single inner signal socket? =>
      cases socket? with
      | none => rfl
      | some i => cases final
  | recorded => rfl

theorem redialSocket_final {s : Socket} (final : n.canRedial s = false) :
    redialSocket s n = (.error .redialNotSupported, n) := by
  rw [redialSocket, get_bind]
  cases s with
  | dialed i => cases final
  | session i side =>
      have none : n.memoryDial? (.session i side) = none :=
        Option.isNone_iff_eq_none.1 (Option.isSome_eq_false_iff.1 final)
      simp only [none]
      rfl
  | accepted | recorded => rfl

/-- A session that was dialed is dialed again in the same way. -/
theorem redialSocket_memory {s : Socket} {d : MemoryDial} (dialed : n.memoryDial? s = some d) :
    redialSocket s n = dialSession d n := by
  rw [redialSocket, get_bind]
  cases s with
  | session i side => simp only [dialed]
  | dialed | accepted | recorded => cases dialed

theorem ends_redialStream {s : Stream} (redialable : s.canRedial = true) (h : n.OneWay) :
    Ends n (redialStream s n) (OnOk (FlaggedStream true)) := by
  cases s with
  | piped s =>
      obtain ⟨d, hd⟩ := Option.isSome_iff_exists.1 redialable
      rw [redialStream, hd]
      exact keeps_dialStream d n h
  | single inner signal socket? =>
      cases socket? with
      | none => cases redialable
      | some i => exact keeps_dialAgain i n h
  | recorded => cases redialable

theorem ends_redialSocket {s : Socket} (redialable : n.canRedial s = true) (h : n.OneWay) :
    Ends n (redialSocket s n) (OnOk (FlaggedSocket true)) := by
  cases s with
  | dialed i =>
      rw [redialSocket]
      refine .of_get ?_
      cases hs : n.dialed[i]? with
      | none =>
          simp only [hs]
          exact .of_closed h
      | some s =>
          obtain ⟨retains, flagged⟩ := flagged_withSocket n s.dialer
          simp only [hs]
          exact .of_ok retains { h with } flagged
  | session i side =>
      obtain ⟨d, hd⟩ := Option.isSome_iff_exists.1 redialable
      rw [redialSocket_memory hd]
      exact keeps_dialSession d n h
  | accepted | recorded => exact absurd redialable Bool.false_ne_true

/-- A stream that can be dialed again says so, and no other one does. -/
theorem redialStream_supported_iff (h : n.OneWay) (s : Stream) :
    (redialStream s n).1 = .error .redialNotSupported ↔ s.canRedial = false := by
  cases flag : s.canRedial with
  | false => simp [redialStream_final flag]
  | true => simpa using (ends_redialStream flag h).post.supported

theorem redialSocket_supported_iff (h : n.OneWay) (s : Socket) :
    (redialSocket s n).1 = .error .redialNotSupported ↔ n.canRedial s = false := by
  cases flag : n.canRedial s with
  | false => simp [redialSocket_final flag]
  | true => simpa using (ends_redialSocket flag h).post.supported

end

end Redial

end TransportStack

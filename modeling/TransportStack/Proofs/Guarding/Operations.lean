import TransportStack.Scenario.ByteOp

/-!
One operation on a guarded stream. Until the signal of the guard fires it is the operation on the
stream inside, and a failure to read or to write fires the signal. After that it ends at once and
does not touch the stream inside. Guards around guards are one guard in this.
-/

namespace TransportStack

namespace Scenario.ByteOp

/-- Whether an operation on the bytes of a stream has failed to read or to write. -/
def Fails : ByteOp → Option ByteResult → Prop
  | read _, some (.failed _) | write _, some (.failed _) => True
  | _, _ => False

instance (op : ByteOp) (r : Option ByteResult) : Decidable (op.Fails r) :=
  match op, r with
  | read _, some (.failed _) | write _, some (.failed _) => isTrue trivial
  | read _, some (.data _) | read _, some (.written _) | read _, some .done | read _, none
  | write _, some (.data _) | write _, some (.written _) | write _, some .done | write _, none
  | flush, _ | shutdown, _ => isFalse id

/-- Whether an operation moves bytes. -/
def movesBytes : ByteOp → Bool
  | read _ | write _ => true
  | flush | shutdown => false

theorem movesBytes_of_fails {op : ByteOp} {r : Option ByteResult} (fails : op.Fails r) :
    op.movesBytes = true := by
  cases op with
  | flush | shutdown => exact fails.elim
  | read _ | write _ => rfl

theorem exists_of_fails {op : ByteOp} {r : Option ByteResult} (fails : op.Fails r) :
    ∃ e, r = some (.failed e) := by
  revert fails
  fun_cases Fails op r <;> simp

/-- What an operation gives on a stream that was closed: nothing is read any more, nothing can be
written, and nothing is left to do. -/
def afterClose : ByteOp → ByteResult
  | read _ => .data []
  | write _ => .failed (.ofKind .brokenPipe)
  | flush | shutdown => .done

end Scenario.ByteOp

open Scenario (ByteOp ByteResult)

namespace ByteStream

theorem perform_within {σ τ : Type} (part : σ → τ) (replace : σ → τ → σ) (b : ByteStream τ)
    (op : ByteOp) (s : σ) :
    op.perform (b.within part replace) s =
      ((op.perform b (part s)).1, replace s (op.perform b (part s)).2) := by
  cases op <;> rfl

variable {σ : Type} (g : Guard σ) (b : ByteStream σ) (op : ByteOp) {s : σ}

theorem perform_guarded_of_fired (fired : g.isFired s = true) :
    op.perform (b.guarded g) s = (some op.afterClose, s) := by
  cases op <;> simp only [ByteOp.perform, guarded, fired, if_true] <;> rfl

theorem perform_guarded_of_unfired (unfired : g.isFired s = false) :
    let r := op.perform b s
    op.perform (b.guarded g) s = (r.1, if op.Fails r.1 then g.fire r.2 else r.2) := by
  have watched {α : Type} (f : α → ByteResult) (r : Poll IoError α × σ)
      (failing : ∀ e, op.Fails (some (.failed e))) (waiting : ¬op.Fails none)
      (going : ∀ a, ¬op.Fails (some (f a))) :
      let q := ByteOp.perform.result f r
      ByteOp.perform.result f (g.watch r) = (q.1, if op.Fails q.1 then g.fire q.2 else q.2) := by
    obtain ⟨_ | (e | a), s⟩ := r
    · exact Prod.ext rfl (if_neg waiting).symm
    · exact Prod.ext rfl (if_pos (failing e)).symm
    · exact Prod.ext rfl (if_neg (going a)).symm
  cases op with
  | read n =>
      simp only [ByteOp.perform, guarded, unfired]
      exact watched .data (b.read n s) (fun _ => trivial) id fun _ => id
  | write payload =>
      simp only [ByteOp.perform, guarded, unfired]
      exact watched .written (b.write payload s) (fun _ => trivial) id fun _ => id
  | flush | shutdown =>
      simp [ByteOp.perform, guarded, unfired, ByteOp.Fails]

/-- A stream with guards around it, the outermost one first. -/
def nested (b : ByteStream σ) (gs : List (Guard σ)) : ByteStream σ :=
  gs.foldr (fun g b => b.guarded g) b

variable {gs : List (Guard σ)}

/-- If one of several guards has fired, it does not matter what is inside. -/
theorem perform_nested_of_fired (fired : ∃ g ∈ gs, g.isFired s = true) :
    (op.perform (b.nested gs) s).1 = some op.afterClose ∧
      ∀ b' : ByteStream σ, op.perform (b'.nested gs) s = op.perform (b.nested gs) s := by
  induction gs with
  | nil => obtain ⟨g, none, -⟩ := fired; cases none
  | cons g gs ih =>
      cases first : g.isFired s with
      | true =>
          rw [nested, List.foldr_cons, perform_guarded_of_fired _ _ _ first]
          exact ⟨rfl, fun b' => perform_guarded_of_fired g (b'.nested gs) op first⟩
      | false =>
          have further : ∃ g ∈ gs, g.isFired s = true := by
            obtain ⟨g', among, fired⟩ := fired
            obtain rfl | later := List.mem_cons.1 among
            · rw [first] at fired
              cases fired
            · exact ⟨g', later, fired⟩
          obtain ⟨result, same⟩ := ih further
          have outer (b' : ByteStream σ) := perform_guarded_of_unfired g (b'.nested gs) op first
          refine ⟨(congrArg Prod.fst (outer b)).trans result, fun b' => ?_⟩
          rw [nested, List.foldr_cons]
          exact (outer b').trans ((by rw [same b']) : _ = _) |>.trans (outer b).symm

/-- If none of several guards has fired, they all fire when the stream inside fails to read or to
write. -/
theorem perform_nested_of_unfired (unfired : ∀ g ∈ gs, g.isFired s = false) :
    let r := op.perform b s
    op.perform (b.nested gs) s =
      (r.1, if op.Fails r.1 then gs.foldr (fun g s => g.fire s) r.2 else r.2) := by
  induction gs with
  | nil => exact Prod.ext rfl (ite_self _).symm
  | cons g gs ih =>
      have inside := ih fun g' hg' => unfired g' (List.mem_cons_of_mem g hg')
      have outer := perform_guarded_of_unfired g (b.nested gs) op (unfired g List.mem_cons_self)
      simp only [inside] at outer
      refine outer.trans (Prod.ext rfl ?_)
      by_cases fails : op.Fails (op.perform b s).1
      · simp only [if_pos fails, List.foldr_cons]
      · simp only [if_neg fails]

end ByteStream

end TransportStack

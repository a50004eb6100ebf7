import TransportStack.Proofs.Chain.Sides

/-!
Builds as a monad, and two views of the record that a build keeps: the defaults that were looked up
in it, and the build without these look-ups. Both are read off a sequence of builds piece by piece.
Whether a call is made on an address or on a producer, it is asked and answered in the same way.
-/

namespace TransportStack

def BuildStep.lookup? {ι : Type} : BuildStep ι → Option DefaultSlot
  | lookup slot => some slot
  | demultiplex _ | construct _ => none

namespace Build

variable {ι α β : Type}

def lookups (b : Build ι α) : List DefaultSlot := b.steps.filterMap BuildStep.lookup?

/-- A build without the look-ups in its record. -/
def quiet (b : Build ι α) : Build ι α :=
  ⟨b.steps.filter fun s => s.lookup?.isNone, b.result⟩

theorem bind_of_ok {b : Build ι α} {a : α} (h : b.result = .ok a) (f : α → Build ι β) :
    b >>= f = ⟨b.steps ++ (f a).steps, (f a).result⟩ := by
  change b.bind f = _
  simp only [Build.bind, h]

theorem bind_of_error {b : Build ι α} {e : TransportError} (h : b.result = .error e)
    (f : α → Build ι β) : b >>= f = ⟨b.steps, .error e⟩ := by
  change b.bind f = _
  simp only [Build.bind, h]

private theorem bind_pure_self (b : Build ι α) : b.bind Build.pure = b := by
  obtain ⟨steps, result⟩ := b
  cases result <;> simp [Build.bind, Build.pure]

private theorem pure_bind_eq (a : α) (f : α → Build ι β) : (Build.pure a).bind f = f a := by
  simp [Build.bind, Build.pure]

private theorem bind_bind_eq {γ : Type} (b : Build ι α) (f : α → Build ι β) (g : β → Build ι γ) :
    (b.bind f).bind g = b.bind fun a => (f a).bind g := by
  obtain ⟨steps, result⟩ := b
  cases result with
  | error e => rfl
  | ok a =>
      simp only [Build.bind]
      cases (f a).result <;> simp

instance : LawfulMonad (Build ι) :=
  LawfulMonad.mk' (Build ι) bind_pure_self pure_bind_eq bind_bind_eq

theorem steps_prefix_bind (b : Build ι α) (f : α → Build ι β) : b.steps <+: (b >>= f).steps := by
  cases hb : b.result with
  | error e => exact ⟨[], by rw [bind_of_error hb, List.append_nil]⟩
  | ok a => rw [bind_of_ok hb]; exact List.prefix_append _ _

/-- What follows a build matters only at the result of the build. -/
theorem bind_congr {b : Build ι α} {f g : α → Build ι β}
    (h : ∀ a, b.result = .ok a → f a = g a) : b >>= f = b >>= g := by
  cases hb : b.result with
  | error e => rw [bind_of_error hb, bind_of_error hb]
  | ok a => rw [bind_of_ok hb, bind_of_ok hb, h a hb]

theorem bind_result_ok {b : Build ι α} {f : α → Build ι β} {c : β}
    (h : (b >>= f).result = .ok c) : ∃ a, b.result = .ok a ∧ (f a).result = .ok c := by
  cases hb : b.result with
  | error e => rw [bind_of_error hb] at h; cases h
  | ok a => rw [bind_of_ok hb] at h; exact ⟨a, rfl, h⟩

theorem bind_result_error {b : Build ι α} {f : α → Build ι β} {e : TransportError}
    (h : (b >>= f).result = .error e) :
    b.result = .error e ∨ ∃ a, b.result = .ok a ∧ (f a).result = .error e := by
  cases hb : b.result with
  | error e' => rw [bind_of_error hb] at h; cases h; exact .inl rfl
  | ok a => rw [bind_of_ok hb] at h; exact .inr ⟨a, rfl, h⟩

theorem lookups_bind_of_ok {b : Build ι α} {a : α} (h : b.result = .ok a) (f : α → Build ι β) :
    (b >>= f).lookups = b.lookups ++ (f a).lookups := by
  simp only [lookups, bind_of_ok h, List.filterMap_append]

theorem lookups_bind_of_error {b : Build ι α} {e : TransportError} (h : b.result = .error e)
    (f : α → Build ι β) : (b >>= f).lookups = b.lookups := by
  simp only [lookups, bind_of_error h]

theorem mem_lookups_bind {b : Build ι α} {f : α → Build ι β} {slot : DefaultSlot}
    (h : slot ∈ b.lookups) : slot ∈ (b >>= f).lookups := by
  cases hb : b.result with
  | error e => rw [lookups_bind_of_error hb]; exact h
  | ok a => rw [lookups_bind_of_ok hb]; exact List.mem_append_left _ h

theorem lookups_bind_of_nil {b : Build ι α} {f : α → Build ι β}
    (h : ∀ a, b.result = .ok a → (f a).lookups = []) : (b >>= f).lookups = b.lookups := by
  cases hb : b.result with
  | error e => exact lookups_bind_of_error hb f
  | ok a => rw [lookups_bind_of_ok hb, h a hb, List.append_nil]

theorem calls_bind_of_ok {b : Build ι α} {a : α} (h : b.result = .ok a) (f : α → Build ι β) :
    (b >>= f).calls = b.calls ++ (f a).calls := by
  simp only [calls, bind_of_ok h, List.filterMap_append]

theorem calls_bind_of_error {b : Build ι α} {e : TransportError} (h : b.result = .error e)
    (f : α → Build ι β) : (b >>= f).calls = b.calls := by
  simp only [calls, bind_of_error h]

theorem mem_calls_iff {b : Build ι α} {call : Call ι} :
    call ∈ b.calls ↔ .construct call ∈ b.steps := by
  simp only [calls, List.mem_filterMap]
  constructor
  · rintro ⟨step, hs, found⟩
    split at found
    · cases found
      exact hs
    · cases found
  · exact fun hs => ⟨_, hs, rfl⟩

theorem quiet_bind (b : Build ι α) (f : α → Build ι β) :
    (b >>= f).quiet = b.quiet >>= fun a => (f a).quiet := by
  cases hb : b.result with
  | error e =>
      rw [bind_of_error hb, bind_of_error (b := b.quiet) hb]
      rfl
  | ok a =>
      rw [bind_of_ok hb, bind_of_ok (b := b.quiet) hb]
      simp only [quiet, List.filter_append]

theorem calls_quiet (b : Build ι α) : b.quiet.calls = b.calls := by
  simp only [calls, quiet, List.filterMap_filter]
  congr 1
  funext s
  cases s <;> rfl

theorem quiet_eq_self {b : Build ι α} (h : b.lookups = []) : b.quiet = b := by
  obtain ⟨steps, result⟩ := b
  simp only [quiet, mk.injEq, and_true, List.filter_eq_self]
  intro s hs
  rw [lookups, List.filterMap_eq_nil_iff] at h
  simp only [h s hs, Option.isNone_none]

end Build

/-- What a call makes unless it is refused. -/
def Call.recipe {ι : Type} (c : Call ι) : Recipe ι :=
  match c.input with
  | none => .bound c.category c.implementation (c.address.getD "") c.parameters
  | some r => .onTop c.category c.implementation c.parameters r

namespace BuildSite

variable {ι : Type} (s : BuildSite ι)

def construct (call : Call ι) : Build ι (Recipe ι) := s.ask call call.recipe

theorem bound_eq (c : Category) (i : ι) (address : String) (p : Parameters) :
    s.bound c i address p = s.construct ⟨s.side, c, i, some address, p, none⟩ := rfl

theorem onTop_eq (c : Category) (i : ι) (p : Parameters) (r : Recipe ι) :
    s.onTop c i p r = s.construct ⟨s.side, c, i, none, p, some r⟩ := rfl

end BuildSite

end TransportStack

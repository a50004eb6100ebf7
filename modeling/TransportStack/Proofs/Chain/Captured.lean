import TransportStack.Network.Construct
import TransportStack.Proofs.Chain.Changes
import TransportStack.Proofs.Chain.Lookups
import TransportStack.Proofs.Chain.Resolved
import TransportStack.Proofs.Chain.Stopping
import TransportStack.Proofs.Shutdown.Program

/-!
A chain has its layers from when it was resolved, but looks its defaults up when it is built. So
what is done to the catalogue in between matters to a build only at the names of the defaults that
it needs, and a producer, which has all that it asks, is out of reach of the catalogue.
-/

namespace TransportStack

variable {ι : Type}

namespace Defaults

variable {d : Defaults ι} {slot : DefaultSlot}

theorem find_eq_ok_iff {i : ι} :
    d.find slot = .ok i ↔ d.catalogue.find? slot.category (d.names.name slot) = some i := by
  unfold find
  split <;> simp_all

theorem find_eq_error (missing : d.catalogue.find? slot.category (d.names.name slot) = none) :
    d.find slot = .error (.schemeNotSupported (d.names.name slot)) := by
  rw [find, missing]

theorem find_congr {k k' : Catalogue ι} {names : DefaultNames}
    (same : k.find? slot.category (names.name slot) = k'.find? slot.category (names.name slot)) :
    (Defaults.mk k names).find slot = (Defaults.mk k' names).find slot := by
  rw [find, find, same]

end Defaults

/-- What a step for an item of a plan asks, if it asks an implementation: a layer has its own, and
that of a default has been found. -/
inductive Planned.Asks (found : DefaultSlot → Option ι) : Planned ι → BuildStep ι → Prop
  | lookup (slot : DefaultSlot) : Asks found (.lookup slot) (.lookup slot)
  | demultiplex (p : Parameters) : Asks found .demultiplex (.demultiplex p)
  | default (slot : DefaultSlot) (call : Call ι) (category : call.category = slot.category)
      (implementation : found slot = some call.implementation) :
      Asks found (.default slot) (.construct call)
  | layer (l : Layer ι) (call : Call ι) (category : call.category = l.category)
      (implementation : call.implementation = l.implementation) :
      Asks found (.layer l) (.construct call)

theorem Planned.Meets.asks {s : BuildSite ι} {p : Parameters} {found : DefaultSlot → Option ι}
    (finds : ∀ slot i, s.defaults.find slot = .ok i → found slot = some i) {item : Planned ι}
    {step : BuildStep ι} (h : item.Meets s p step) : item.Asks found step := by
  cases h with
  | lookup slot => exact .lookup slot
  | demultiplex => exact .demultiplex _
  | default slot call side category at_hand parameters =>
      exact .default slot call category (finds slot _ at_hand)
  | layer l call side category implementation parameters =>
      exact .layer l call category implementation

namespace Build

variable {α : Type} {s : BuildSite ι} {p : Parameters} {b : Build ι α} {plan : List (Planned ι)}

/-- What ends a build before the step of a place: a step that fails, or that nothing leads to what
is needed. -/
def EndsBefore (s : BuildSite ι) (b : Build ι α) (i : Nat) : Prop :=
  b.steps.length ≤ i ∧ ∃ e, b.result = .error e ∧
    (b.steps.getLast?.bind s.failure? = some e ∨
      (∃ need available, e = .invalidChainingResult need available) ∧
        ∀ step ∈ b.steps, s.failure? step = none)

theorem Keeps.length_eq_of_ok (keeps : s.Keeps p b plan) {a : α} (well : b.result = .ok a) :
    b.steps.length = plan.length := by
  obtain ⟨done, -, kept, all⟩ := keeps
  rw [← all a well, kept.length_eq]

/-- A step that is due is taken, unless the build ends before. -/
theorem Keeps.taken_or_ends {address : String} {before : Option (Recipe ι)}
    {good : α → Option (Recipe ι) → Prop} (keeps : s.Keeps p b plan)
    (goes : b.Goes s address before good) {i : Nat} {item : Planned ι}
    (due : plan[i]? = some item) :
    (∃ step, b.steps[i]? = some step ∧ item.Meets s p step) ∨ b.EndsBefore s i := by
  obtain within | beyond := Nat.lt_or_ge i b.steps.length
  · have taken := List.getElem?_eq_getElem within
    obtain ⟨item', due', meets⟩ := keeps.meets_of_getElem? taken
    obtain rfl : item = item' := Option.some.inj (due.symm.trans due')
    exact .inl ⟨_, taken, meets⟩
  · refine .inr ⟨beyond, ?_⟩
    cases ended : b.result with
    | error e => exact ⟨e, rfl, goes.cause e ended⟩
    | ok a =>
        have inside := (List.getElem?_eq_some_iff.1 due).1
        exact absurd inside (Nat.not_lt.2 (keeps.length_eq_of_ok ended ▸ beyond))

end Build

namespace Chain

theorem ofNames_eq_ok {k : Catalogue ι} {names : List String} {o : ChainOptions} {c : Chain ι}
    (built : ofNames k names o = .ok c) :
    List.Forall₂ (Layer.IsFor k o.enableSolutions) names c.layers ∧ c.defaults = o.defaults := by
  rw [ofNames] at built
  cases found : Layer.resolve k o.enableSolutions o.enforceCompatibility names with
  | error e =>
      rw [found] at built
      cases built
  | ok layers =>
      rw [found] at built
      cases built
      exact ⟨Layer.isFor_of_resolveNames (Layer.resolve_eq_ok_iff.1 found).2.2.1, rfl⟩

variable (c : Chain ι) (kind : ChainKind) (k : Catalogue ι)
  (refuse : Call ι → Option TransportError) (side : Side) (address : String) (p : Parameters)

/-- A look-up that is due and finds nothing is the last step, unless the build ends before. -/
theorem missing_default {i : Nat} {slot : DefaultSlot}
    (due : (c.plan kind)[i]? = some (.lookup slot))
    (missing : k.find? slot.category (c.defaults.name slot) = none) :
    let b := c.buildFor kind k refuse side address p
    i + 1 = b.steps.length ∧ b.result = .error (.schemeNotSupported (c.defaults.name slot)) ∨
      b.EndsBefore (c.site k refuse side p) i := by
  intro b
  have goes := c.goes_buildFor kind k refuse side address p
  obtain ⟨step, taken, meets⟩ | ends :=
    (c.keeps_buildFor p kind k refuse side address).taken_or_ends goes due
  · cases meets
    refine .inl (goes.last i _ _ taken ?_)
    have unfound : (Defaults.mk k c.defaults).find slot = _ := Defaults.find_eq_error missing
    rw [BuildSite.failure?, show (c.site k refuse side p).defaults.find slot = _ from unfound]
  · exact .inr ends

/-- Changes that leave alone what a build looks up leave the build alone. -/
theorem buildFor_after {changes : List (Catalogue.Change ι)}
    (spared : ∀ slot ∈ (c.buildFor kind k refuse side address p).lookups, ∀ change ∈ changes,
      ¬change.Concerns slot.category (c.defaults.name slot)) :
    c.buildFor kind (k.after changes) refuse side address p =
      c.buildFor kind k refuse side address p := by
  apply buildFor_congr
  intro slot needed
  exact Defaults.find_congr (k.find?_after_of_unconcerned (spared slot needed)).symm

end Chain

/-- A program with its workshop, and with the chains and the producers that it has made. -/
structure Plant where
  workshop : Workshop
  chains : List (Chain Implementation)
  producers : List (Side × Producer)
  program : Program

namespace Plant

/-- What happens. Chains and producers are known by their places among those that there are. -/
inductive Event
  | change (change : Catalogue.Change Implementation)
  | resolve (names : List String) (o : ChainOptions)
  | construct (chain : Nat) (kind : ChainKind) (side : Side) (address : String) (p : Parameters)
  | follow (producer : Nat)
  | act (a : Act)

namespace Event

def isChange : Event → Bool
  | change _ => true
  | resolve .. | construct .. | follow _ | act _ => false

def isConstruct : Event → Bool
  | construct .. => true
  | change _ | resolve .. | follow _ | act _ => false

end Event

def step (t : Plant) : Event → Plant
  | .change change =>
      { t with workshop := { t.workshop with catalogue := change.make t.workshop.catalogue } }
  | .resolve names o =>
      { t with chains :=
          t.chains ++ (Chain.ofNames t.workshop.catalogue names o).toOption.toList }
  | .construct chain kind side address p =>
      match t.chains[chain]? with
      | none => t
      | some c =>
          let making := Network.construct t.workshop c kind side address p >>= Network.producer side
          let (r, n) := making t.program.network
          { t with
            producers := t.producers ++ (r.toOption.map fun q => (side, q)).toList
            program := { t.program with network := n } }
  | .follow producer =>
      { t with program :=
          match t.producers[producer]? with
          | none => t.program
          | some q => t.program.act (.follow q.1 q.2) }
  | .act a => { t with program := t.program.act a }

def run (t : Plant) (events : List Event) : Plant := events.foldl step t

/-- Equal but for the workshop and the chains. -/
structure Alike (t t' : Plant) : Prop where
  producers : t.producers = t'.producers
  program : t.program = t'.program

theorem producers_prefix_step (t : Plant) (e : Event) : t.producers <+: (t.step e).producers := by
  unfold step
  split
  · exact List.prefix_rfl
  · exact List.prefix_rfl
  · split
    · exact List.prefix_rfl
    · exact List.prefix_append _ _
  · exact List.prefix_rfl
  · exact List.prefix_rfl

theorem producers_prefix_run (t : Plant) (events : List Event) :
    t.producers <+: (t.run events).producers := by
  induction events generalizing t with
  | nil => exact List.prefix_rfl
  | cons e events ih => exact (t.producers_prefix_step e).trans (ih (t.step e))

theorem alike_of_change (t : Plant) {e : Event} (h : e.isChange = true) : (t.step e).Alike t := by
  cases e with
  | change change => exact ⟨rfl, rfl⟩
  | resolve | construct | follow | act => cases h

theorem Alike.step {t t' : Plant} (alike : t.Alike t') {e : Event} (h : e.isConstruct = false) :
    (t.step e).Alike (t'.step e) := by
  cases e with
  | construct => cases h
  | change change => exact ⟨alike.producers, alike.program⟩
  | resolve names o => exact ⟨alike.producers, alike.program⟩
  | act a => exact ⟨alike.producers, congrArg (Program.act · a) alike.program⟩
  | follow producer =>
      refine ⟨alike.producers, ?_⟩
      simp only [Plant.step, alike.producers, alike.program]

/-- Where nothing is constructed, what goes on is the same as without the changes. -/
theorem Alike.run {t t' : Plant} (alike : t.Alike t') {events : List Event}
    (h : ∀ e ∈ events, e.isConstruct = false) :
    (t.run events).Alike (t'.run (events.filter fun e => !e.isChange)) := by
  induction events generalizing t t' with
  | nil => exact alike
  | cons e events ih =>
      have rest : ∀ e ∈ events, e.isConstruct = false := fun e he =>
        h e (List.mem_cons_of_mem _ he)
      by_cases changes : e.isChange = true
      · rw [List.filter_cons_of_neg (by simp [changes])]
        have kept := t.alike_of_change changes
        exact ih ⟨kept.producers.trans alike.producers, kept.program.trans alike.program⟩ rest
      · rw [List.filter_cons_of_pos (by simp [changes])]
        exact ih (alike.step (h e List.mem_cons_self)) rest

theorem producers_of_run {t : Plant} {events : List Event}
    (h : ∀ e ∈ events, e.isConstruct = false) : (t.run events).producers = t.producers := by
  induction events generalizing t with
  | nil => rfl
  | cons e events ih =>
      refine (ih fun e he => h e (List.mem_cons_of_mem _ he)).trans ?_
      have own := h e List.mem_cons_self
      cases e with
      | construct => cases own
      | change | resolve | follow | act => rfl

end Plant

namespace Chain

/-- A chain builds with the layers it was resolved to and with the defaults that their names stand
for when it is built, as the last change of each one tells. It fails for the first default that is
missing, unless it has failed before. Changes that concern no default that was looked up do not
matter to a build, and none matters to a producer. -/
theorem layers_kept_defaults_late {k : Catalogue ι} {names : List String} {o : ChainOptions}
    {c : Chain ι} (resolved : ofNames k names o = .ok c) :
    List.Forall₂ (Layer.IsFor k o.enableSolutions) names c.layers ∧
      (∀ (changes : List (Catalogue.Change ι)) (kind : ChainKind)
        (refuse : Call ι → Option TransportError) (side : Side) (address : String)
        (p : Parameters),
        let found slot := k.standing changes slot.category (o.defaults.name slot)
        let build (k : Catalogue ι) := c.buildFor kind k refuse side address p
        let b := build (k.after changes)
        (c.plan kind).filterMap Planned.layer? = c.layers ∧
        (∀ (i : Nat) (step : BuildStep ι), b.steps[i]? = some step →
          ∃ item : Planned ι, (c.plan kind)[i]? = some item ∧ item.Asks found step) ∧
        (∀ r, b.result = .ok r → b.steps.length = (c.plan kind).length) ∧
        (∀ (i : Nat) (slot : DefaultSlot),
          (c.plan kind)[i]? = some (.lookup slot) → found slot = none →
          i + 1 = b.steps.length ∧
              b.result = .error (.schemeNotSupported (o.defaults.name slot)) ∨
            b.EndsBefore (c.site (k.after changes) refuse side p) i) ∧
        ∀ more : List (Catalogue.Change ι),
          (∀ slot ∈ b.lookups, ∀ change ∈ more,
            ¬change.Concerns slot.category (o.defaults.name slot)) →
          build (k.after (changes ++ more)) = b) ∧
      ∀ (t : Plant) (events : List Plant.Event),
        t.producers <+: (t.run events).producers ∧
          ((∀ e ∈ events, e.isConstruct = false) →
            (t.run events).producers = t.producers ∧
              (t.run events).Alike (t.run (events.filter fun e => !e.isChange))) := by
  obtain ⟨layers, defaults⟩ := ofNames_eq_ok resolved
  refine ⟨layers, ?_, fun t events => ⟨t.producers_prefix_run events, fun still => ?_⟩⟩
  · intro changes kind refuse side address p found build b
    have told (slot : DefaultSlot) :
        (k.after changes).find? slot.category (c.defaults.name slot) = found slot := by
      rw [defaults]
      exact k.find?_after changes _ _
    have keeps := c.keeps_buildFor p kind (k.after changes) refuse side address
    refine ⟨layers_planFrom _ _ _, fun i step taken => ?_, fun r => keeps.length_eq_of_ok,
      fun i slot due missing => ?_, fun more spared => ?_⟩
    · obtain ⟨item, due, meets⟩ := keeps.meets_of_getElem? taken
      refine ⟨item, due, meets.asks fun slot i at_hand => ?_⟩
      rw [← told slot]
      exact Defaults.find_eq_ok_iff.1 at_hand
    · rw [← defaults]
      exact c.missing_default kind _ refuse side address p due ((told slot).trans missing)
    · rw [← defaults] at spared
      rw [Catalogue.after_append]
      exact c.buildFor_after kind _ refuse side address p spared
  · exact ⟨Plant.producers_of_run still, Plant.Alike.run ⟨rfl, rfl⟩ still⟩

/-- The layer is replaced and the default beneath it too: only the default is another one. Without
it the chain cannot be built. -/
theorem layers_kept_defaults_late_tls :
    let k : Catalogue Nat :=
      (Catalogue.new.register .streamConn "tcp" 0).register .streamObfuscator "tls" 1
    let changes : List (Catalogue.Change Nat) :=
      [.unregister .streamConn "tcp", .register .streamObfuscator "tls" 2]
    ∃ c, ofNames k ["tls"] .standard = .ok c ∧
      let build (k : Catalogue Nat) := c.buildFor .stream k (fun _ => none) .dial "here" .empty
      (build (k.after changes)).result.toOption.isNone ∧
        (build (k.after (changes ++ [.register .streamConn "tcp" 3]))).calls.map
          Call.implementation = [3, 1] ∧
        build (k.after (changes ++ [.unregister .streamObfuscator "tls"])) =
          build (k.after changes) := by
  intro k changes
  have resolved : ofNames k ["tls"] .standard =
      .ok ⟨[⟨"tls", .streamObfuscator, 1, 0⟩], .standard⟩ := by rfl
  refine ⟨_, resolved, ?_⟩
  intro build
  obtain ⟨-, builds, -⟩ := layers_kept_defaults_late resolved
  obtain ⟨-, -, -, missing, spared⟩ := builds changes .stream (fun _ => none) .dial "here" .empty
  refine ⟨?_, by rfl, ?_⟩
  · obtain ⟨-, failed⟩ | ⟨before, -⟩ := missing 0 .streamConn rfl (by decide)
    · rw [show (build (k.after changes)).result = _ from failed]
      rfl
    · cases before
  · exact spared [.unregister .streamObfuscator "tls"] (by decide)

end Chain

end TransportStack

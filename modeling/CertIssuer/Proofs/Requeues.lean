import CertIssuer.Proofs.Delays
import CertIssuer.Proofs.Serving

/-!
When objects come back. Whatever happens to the objects of a controller, and in whichever order, an
object is requeued as if it were alone: after a retryable error with the delay that a fresh backoff
gives next after as many others as there were in a row, and otherwise not at all.

The registry is shared, so the invariant speaks of all objects at once: the entry of each of them is
the fresh backoff after its own failures. One event changes one entry at most, since no two objects
have the same key.
-/

namespace CertIssuer.Controller

/-! ### Objects and events -/

/-- An object of a watched kind, as a watch hands it out. -/
inductive WatchedObject where
  | request (r : CertificateRequest)
  | issuer (kind : IssuerKind) (i : Issuer)

namespace WatchedObject

def kind : WatchedObject → WatchedKind
  | .request _ => .request
  | .issuer kind _ => .issuer kind

def metadata : WatchedObject → Metadata
  | .request r => r.metadata
  | .issuer _ i => i.metadata

/-- The reference to an object, under whichever name it goes. -/
def ref (o : WatchedObject) : ObjectRef := ⟨o.kind, o.metadata.ns, o.metadata.anyName⟩

/-- Which object it is, provided that it has a name. -/
def identity? (o : WatchedObject) : Option ObjectRef :=
  o.metadata.name.map fun name => ⟨o.kind, o.metadata.ns, name⟩

theorem ref_of_identity? {o : WatchedObject} {id : ObjectRef} (h : o.identity? = some id) :
    o.ref = id := by
  obtain ⟨name, hname, rfl⟩ := Option.map_eq_some_iff.mp h
  rw [ref, Metadata.anyName, hname]
  rfl

end WatchedObject

/-- What a controller is told. -/
inductive Event where
  /-- A reconcile of an object ended at an instant. -/
  | attended (object : WatchedObject) (result : Except ReconcileError Unit) (instant : Instant)
  /-- The stream of a watch reported an item. -/
  | streamed (item : StreamItem)

/-- What an event is to the delays of its object. -/
inductive Effect where
  | failed
  | settled
  deriving DecidableEq

/-- Only a retryable error is a failure: anything else starts the delays over. -/
def Effect.ofResult : Except ReconcileError Unit → Effect
  | .ok () => .settled
  | .error e =>
    match e.errorClass with
    | .retryable => .failed
    | .terminal => .settled

/-- What an event is to the delays of an object. -/
def Event.effect? (id : ObjectRef) : Event → Option Effect
  | .attended object result _ =>
    if object.identity? = some id then some (.ofResult result) else none
  | .streamed (.vanished object) => if object = id then some .settled else none
  | .streamed _ => none

/-- How many failures of an object in a row came last. -/
def failures (id : ObjectRef) (events : List Event) : Nat :=
  ((events.filterMap (Event.effect? id)).reverse.takeWhile (· = .failed)).length

variable {id : ObjectRef} {events : List Event} {event : Event}

theorem failures_append_of_none (h : event.effect? id = none) :
    failures id (events ++ [event]) = failures id events := by
  simp [failures, List.filterMap_append, h]

theorem failures_append_failed (h : event.effect? id = some .failed) :
    failures id (events ++ [event]) = failures id events + 1 := by
  simp [failures, List.filterMap_append, h]

theorem failures_append_settled (h : event.effect? id = some .settled) :
    failures id (events ++ [event]) = 0 := by
  simp [failures, List.filterMap_append, h]

/-- What happens to an object. -/
def Event.concerns (id : ObjectRef) (event : Event) : Bool := (event.effect? id).isSome

/-- What happens to others does not count. -/
theorem failures_filter (id : ObjectRef) (events : List Event) :
    failures id (events.filter (Event.concerns id)) = failures id events := by
  have hfilter : (events.filter (Event.concerns id)).filterMap (Event.effect? id)
      = events.filterMap (Event.effect? id) := by
    induction events with
    | nil => rfl
    | cons e events ih => cases he : e.effect? id <;> simp [Event.concerns, he, ih]
  rw [failures, hfilter, failures]

/-! ### Reactions -/

/-- The registry after an event; none if a date is passed. -/
def react (registry : BackoffRegistry) : Event → Option BackoffRegistry
  | .attended object result instant =>
    (onResult registry instant object.ref result).map Reaction.registry
  | .streamed item => some (onItem registry item)

/-- The registry after events. -/
def registryAfter? (registry : BackoffRegistry) (events : List Event) : Option BackoffRegistry :=
  events.foldlM react registry

/-- The longest delay, in seconds. -/
def longest : UInt64 := 1000000000000

/-- Objects have names, there is no slash in these or in their namespaces, and dates as far away as
the longest delay can be written. -/
def Event.Sound : Event → Prop
  | .attended object _ instant =>
    (object.identity?.isSome = true ∧ object.ref.Plain)
      ∧ (instant.add? (longest.toNat * 1000)).isSome = true
  | .streamed (.vanished object) => object.Plain
  | .streamed _ => True

instance : (event : Event) → Decidable event.Sound
  | .attended object _ instant => inferInstanceAs (Decidable ((object.identity?.isSome = true
      ∧ object.ref.Plain) ∧ (instant.add? (longest.toNat * 1000)).isSome = true))
  | .streamed (.vanished object) => inferInstanceAs (Decidable object.Plain)
  | .streamed (.reconciled _ _) | .streamed (.failed _ _) | .streamed (.interrupted _) =>
    .isTrue trivial

/-- The action for a result, where this delay is next. -/
def actionFor (delay : UInt64) : Except ReconcileError Unit → Action
  | .ok () => .awaitChange
  | .error e =>
    match e.errorClass with
    | .retryable => .requeue delay
    | .terminal => .awaitChange

/-- No delay up to the longest one passes the last date. -/
theorem exists_date {instant : Instant} {delay : UInt64}
    (dated : (instant.add? (longest.toNat * 1000)).isSome = true) (h : delay ≤ longest) :
    ∃ date, instant.add? (announced delay) = some date := by
  have hhorizon : delay ≤ secondsHorizon := UInt64.le_trans h (by decide)
  have hlongest : longest.toNat = 1000000000000 := rfl
  have hdelay : delay.toNat ≤ 1000000000000 := UInt64.le_iff_toNat_le.mp h
  rw [announced, if_pos hhorizon]
  unfold Instant.add? at dated ⊢
  rw [hlongest] at dated
  split at dated
  · next hlatest =>
    have hearlier : instant + (delay.toNat * 1000 : Int) ≤ Instant.latest := by
      have : (delay.toNat * 1000 : Int) ≤ 1000000000000 * 1000 := by omega
      exact Int.le_trans (Int.add_le_add_left this instant) hlatest
    exact ⟨_, if_pos hearlier⟩
  · cases dated

/-- The registry has for each object a fresh backoff after its failures. -/
structure Tracks (least greatest : UInt64) (events : List Event) (registry : BackoffRegistry) :
    Prop where
  least_eq : registry.least = least
  greatest_eq : registry.greatest = greatest
  state_eq : ∀ id : ObjectRef, id.Plain → registry.state id.backoffKey
    = (Backoff.new least greatest).after (failures id events)

variable {least greatest : UInt64} {registry : BackoffRegistry}

theorem tracks_new (least greatest : UInt64) : Tracks least greatest [] (.new least greatest) :=
  ⟨rfl, rfl, fun _ _ => rfl⟩

namespace Tracks

/-- An event that is nothing to any object changes nothing. -/
theorem skip (h : Tracks least greatest events registry) (none : ∀ id, event.effect? id = none) :
    Tracks least greatest (events ++ [event]) registry := by
  refine ⟨h.least_eq, h.greatest_eq, fun id plain => ?_⟩
  rw [failures_append_of_none (none id)]
  exact h.state_eq id plain

/-- Changing the entry of an object is right where it alone was concerned, and only its own entry
needs to be looked at. -/
theorem update {object : ObjectRef} {after : BackoffRegistry}
    (h : Tracks least greatest events registry) (plain : object.Plain)
    (bounds : after.least = registry.least ∧ after.greatest = registry.greatest)
    (others : ∀ k, k ≠ object.backoffKey → after.state k = registry.state k)
    (alone : ∀ id, id ≠ object → event.effect? id = none)
    (own : after.state object.backoffKey
      = (Backoff.new least greatest).after (failures object (events ++ [event]))) :
    Tracks least greatest (events ++ [event]) after := by
  refine ⟨bounds.1.trans h.least_eq, bounds.2.trans h.greatest_eq, fun id plain' => ?_⟩
  by_cases same : id = object
  · rw [same, own]
  · have hkey : id.backoffKey ≠ object.backoffKey := fun e =>
      same ((ObjectRef.backoffKey_inj plain' plain).mp e)
    rw [others _ hkey, failures_append_of_none (alone id same)]
    exact h.state_eq id plain'

/-- Forgetting the delays of an object is right where something else than a failure happened to it
alone. -/
theorem reset {object : ObjectRef} (h : Tracks least greatest events registry)
    (plain : object.Plain) (settled : event.effect? object = some .settled)
    (alone : ∀ id, id ≠ object → event.effect? id = none) :
    Tracks least greatest (events ++ [event]) (registry.reset object.backoffKey) := by
  refine h.update plain ⟨rfl, rfl⟩ (fun _ => BackoffRegistry.state_reset_of_ne) alone ?_
  rw [BackoffRegistry.state_reset_self, h.least_eq, h.greatest_eq, failures_append_settled settled]
  rfl

/-- Taking a delay of an object is right where it alone failed. -/
theorem next {object : ObjectRef} (h : Tracks least greatest events registry)
    (plain : object.Plain) (failed : event.effect? object = some .failed)
    (alone : ∀ id, id ≠ object → event.effect? id = none) :
    Tracks least greatest (events ++ [event]) (registry.next object.backoffKey).2 := by
  refine h.update plain ⟨rfl, rfl⟩ (fun _ => BackoffRegistry.state_next_of_ne) alone ?_
  rw [BackoffRegistry.state_next_self, failures_append_failed failed, h.state_eq object plain]
  rfl

/-- The reaction to a result is the action for it, and the registry is right afterwards. -/
theorem reaction {object : WatchedObject} {instant : Instant}
    (h : Tracks least greatest events registry) (hleast : least ≤ longest)
    (hgreatest : greatest ≤ longest) (named : object.identity? = some id) (plain : id.Plain)
    (dated : (instant.add? (longest.toNat * 1000)).isSome = true)
    (result : Except ReconcileError Unit) :
    ∃ reaction, onResult registry instant object.ref result = some reaction
      ∧ reaction.action
        = actionFor ((Backoff.new least greatest).delay (failures id events)) result
      ∧ Tracks least greatest (events ++ [.attended object result instant]) reaction.registry := by
  have href : object.ref = id := WatchedObject.ref_of_identity? named
  have own : (Event.attended object result instant).effect? id = some (.ofResult result) :=
    if_pos named
  have alone : ∀ other, other ≠ id →
      (Event.attended object result instant).effect? other = none := fun other hne =>
    if_neg fun e => hne (Option.some.inj (e.symm.trans named))
  rw [href]
  cases result with
  | ok u => exact ⟨_, rfl, rfl, h.reset plain own alone⟩
  | error e =>
    rw [onResult, onError, actionFor]
    rw [Effect.ofResult] at own
    cases hclass : e.errorClass with
    | terminal =>
      rw [hclass] at own
      exact ⟨_, rfl, rfl, h.reset plain own alone⟩
    | retryable =>
      rw [hclass] at own
      have hdelay : (registry.next id.backoffKey).1
          = (Backoff.new least greatest).delay (failures id events) := by
        change (registry.state id.backoffKey).next.1 = _
        rw [h.state_eq id plain]
        rfl
      obtain ⟨date, hdate⟩ := exists_date dated
        (Backoff.delay_le (b := .new least greatest) hleast hgreatest (failures id events))
      rw [← hdelay] at hdate
      refine ⟨⟨.requeue (registry.next id.backoffKey).1, (registry.next id.backoffKey).2,
        [retrying id.backoffKey (registry.next id.backoffKey).1 date]⟩, ?_, ?_,
        h.next plain own alone⟩
      · simp only [hdate, Option.map_some]
      · rw [hdelay]

/-- Every event leaves a registry, and it is right. -/
theorem react (h : Tracks least greatest events registry) (hleast : least ≤ longest)
    (hgreatest : greatest ≤ longest) (sound : event.Sound) :
    ∃ after, Controller.react registry event = some after
      ∧ Tracks least greatest (events ++ [event]) after := by
  cases event with
  | attended object result instant =>
    obtain ⟨⟨named, plain⟩, dated⟩ := sound
    obtain ⟨id, named⟩ := Option.isSome_iff_exists.mp named
    rw [WatchedObject.ref_of_identity? named] at plain
    obtain ⟨reaction, hreaction, -, tracks⟩ :=
      h.reaction hleast hgreatest named plain dated result
    exact ⟨reaction.registry, by rw [Controller.react, hreaction, Option.map_some], tracks⟩
  | streamed item =>
    cases item with
    | vanished object =>
      exact ⟨_, rfl, h.reset sound (if_pos rfl) fun id hne => if_neg fun e => hne e.symm⟩
    | reconciled _ _ | failed _ _ | interrupted _ => exact ⟨_, rfl, h.skip fun _ => rfl⟩

/-- Whatever happens next, there is a registry, and it is right. -/
theorem run {before : List Event} (h : Tracks least greatest before registry)
    (hleast : least ≤ longest) (hgreatest : greatest ≤ longest) (sound : ∀ e ∈ events, e.Sound) :
    ∃ after, registryAfter? registry events = some after
      ∧ Tracks least greatest (before ++ events) after := by
  induction events generalizing before registry with
  | nil => exact ⟨registry, rfl, by rwa [List.append_nil]⟩
  | cons event events ih =>
    obtain ⟨hevent, hevents⟩ := List.forall_mem_cons.mp sound
    obtain ⟨next, hnext, tracks⟩ := h.react hleast hgreatest hevent
    obtain ⟨after, hafter, tracks⟩ := ih tracks hevents
    rw [List.append_assoc, List.singleton_append] at tracks
    refine ⟨after, ?_, tracks⟩
    rw [registryAfter?, List.foldlM_cons, hnext]
    exact hafter

end Tracks

/-- After these events, this is the action that follows from a reconcile of the object. -/
def Follows (least greatest : UInt64) (events : List Event) (object : WatchedObject)
    (result : Except ReconcileError Unit) (instant : Instant) (action : Action) : Prop :=
  ∃ registry reaction, registryAfter? (.new least greatest) events = some registry
    ∧ onResult registry instant object.ref result = some reaction ∧ reaction.action = action

/-- The requeue policy, over whatever happens to any objects. After success and after a terminal
error an object waits for its next change. After a retryable error it is requeued with the delay
that a fresh backoff gives after as many others as there were retryable errors of the same object
since it last succeeded, failed for good or vanished. So it is if nothing had happened but what
happened to the object itself. -/
theorem requeued_by_own_failures (hleast : least ≤ longest) (hgreatest : greatest ≤ longest)
    (sound : ∀ e ∈ events, e.Sound) {object : WatchedObject} {result : Except ReconcileError Unit}
    {instant : Instant} (last : (Event.attended object result instant).Sound)
    (named : object.identity? = some id) :
    let action := actionFor ((Backoff.new least greatest).delay (failures id events)) result
    Follows least greatest events object result instant action
      ∧ Follows least greatest (events.filter (Event.concerns id)) object result instant
        action := by
  obtain ⟨⟨-, plain⟩, dated⟩ := last
  rw [WatchedObject.ref_of_identity? named] at plain
  have follows : ∀ events : List Event, (∀ e ∈ events, e.Sound) →
      Follows least greatest events object result instant
        (actionFor ((Backoff.new least greatest).delay (failures id events)) result) := by
    intro events sound
    obtain ⟨registry, hregistry, tracks⟩ :=
      (tracks_new least greatest).run hleast hgreatest sound
    obtain ⟨reaction, hreaction, haction, -⟩ :=
      tracks.reaction hleast hgreatest named plain dated result
    exact ⟨registry, reaction, hregistry, hreaction, haction⟩
  refine ⟨follows events sound, ?_⟩
  have own := follows (events.filter (Event.concerns id)) fun e he =>
    sound e (List.mem_filter.mp he).1
  rwa [failures_filter] at own

/-- A request and an issuer of the same name and namespace, each of which fails and one of which
vanishes. -/
def sampleEvents : List Event :=
  let web : WatchedObject := .request (Sample.request [] [] none)
  let issuer : WatchedObject :=
    .issuer .origin { Sample.issuer with metadata := (Sample.request [] [] none).metadata }
  [.attended web (.error (.store (.unavailable "down"))) 0,
    .attended issuer (.error (.store (.unavailable "down"))) 0,
    .attended web (.error (.store (.unavailable "down"))) 5000,
    .streamed (.vanished issuer.ref)]

theorem requeued_by_own_failures_among_others :
    Follows 5 300 sampleEvents (.request (Sample.request [] [] none))
      (.error (.store (.unavailable "down"))) 10000 (.requeue 10) := by
  have sound : ∀ e ∈ sampleEvents, e.Sound := by decide +kernel
  have last : (Event.attended (.request (Sample.request [] [] none))
      (.error (.store (.unavailable "down"))) 10000).Sound := by decide +kernel
  have named : (WatchedObject.request (Sample.request [] [] none)).identity?
      = some ⟨.request, some "default", "web"⟩ := rfl
  have hfailures : failures ⟨.request, some "default", "web"⟩ sampleEvents = 2 := by
    decide +kernel
  have hleast : (5 : UInt64) ≤ longest := by decide
  have hgreatest : (300 : UInt64) ≤ longest := by decide
  have follows := (requeued_by_own_failures hleast hgreatest sound last named).1
  rw [hfailures] at follows
  exact follows

end CertIssuer.Controller

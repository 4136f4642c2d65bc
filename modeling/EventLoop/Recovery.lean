import EventLoop.Faults
import EventLoop.UnwindSafety

/-!
# The endpoint protocol over a manager that panics

The protocol with panics was developed for any service and for whatever a panic
leaves of it. Here the service is the manager whose callbacks and closures panic, and
what a panic leaves is what the manager leaves: the subscriber whose `init` panicked
is registered, the operations of the callback are done.

The tables of the manager survive every interleaving of the callers with it. In every
state of every run they are where a valid history leads, and so they were at every
moment before, inside callbacks and closures too. A request of a running closure is
answered, or panics for a reason that is not the manager's.
-/

namespace EventLoop

open Transition Replay

/-- A step of the protocol leaves the manager, lets it act, or has it serve a request. -/
theorem Step.serves {types : ResultTypes} {service : Service}
    {system next : System types service} {action : Action types service}
    (stepped : Step system action next) :
    next.manager = system.manager ∨ service.Acts system.manager next.manager ∨
      ∃ request response,
        service.serve request system.manager = some (response, next.manager) := by
  cases stepped with
  | act _ acted => exact Or.inr (Or.inl acted)
  | request _ served => exact Or.inr (Or.inr ⟨_, _, served⟩)
  | _ => exact Or.inl rfl

/-- The second manager is where a valid history leads the first. -/
def EventManager.Leads {kernel : Kernel} {T : Type} (manager next : EventManager kernel T) : Prop :=
  ∃ observations, manager.Valid observations ∧ next = manager.after observations

/-- The empty history leads nowhere. -/
theorem EventManager.Leads.refl {kernel : Kernel} {T : Type} (manager : EventManager kernel T) :
    manager.Leads manager :=
  ⟨[], trivial, rfl⟩

/-- Valid histories are continued by valid histories. -/
theorem EventManager.Leads.trans {kernel : Kernel} {T : Type}
    {manager middle next : EventManager kernel T} (first : manager.Leads middle)
    (second : middle.Leads next) : manager.Leads next := by
  obtain ⟨past, valid, rfl⟩ := first
  obtain ⟨later, checked, rfl⟩ := second
  exact ⟨past ++ later, (along_append _ _ _).mpr ⟨valid, checked⟩,
    (replay_append _ manager past later).symm⟩

namespace World

variable {kernel : Kernel} {H T : Type}

/-- What the manager's thread does between two drains of the endpoint queue. -/
inductive Deed (T : Type) where
  | serve (request : Request T)
  | poll (milliseconds : Int) (response : Except Errno (List EpollEvent))
  | dispatch (eventCount : Nat)
  /-- The endpoint's event is looked at. -/
  | inspect (event : EpollEvent)

variable [SharedSubscriber H T]

/-- What doing it does to the world. -/
def Deed.run : Deed T → Manage kernel H T Unit
  | .serve request => do
      let _response ← World.serve request
      pure ()
  | .poll milliseconds response => do
      let _polled ← within (EventManager.poll milliseconds response)
      pure ()
  | .dispatch eventCount => do
      let _endpointEvent ← dispatchLoop 0 eventCount none
      pure ()
  | .inspect event => dispatchEndpointEvent (some event) []

/-- The manager as closures see it. -/
def service (kernel : Kernel) (H T : Type) [SharedSubscriber H T] : Service where
  State := World kernel H T
  Req := Request T
  Res := Response
  serve request world := (World.serve request world).result.toOption.map
    (fun response => (response, (World.serve request world).state))
  Acts world next := ∃ deed : Deed T,
    (deed.run world).result = .ok () ∧ next = (deed.run world).state

/-- What it leaves when it panics. -/
def remains (kernel : Kernel) (H T : Type) [SharedSubscriber H T] : Remains (service kernel H T)
    where
  served request world next := ∃ reason,
    (World.serve request world).result = .error reason ∧ next = (World.serve request world).state
  acted world next := ∃ (deed : Deed T) (reason : Fault),
    (deed.run world).result = .error reason ∧ next = (deed.run world).state

/-- The deed logs a valid history, however it ends. By cases on the deed, each a part of a
call that logs one. -/
theorem Deed.run_traced (deed : Deed T) :
    Traced EventManager.Enabled (fun _ => True) (deed.run : Manage kernel H T Unit)
      (fun _ _ => True) Loose := by
  have done : ∀ {post : World kernel H T → Prop}, Traced EventManager.Enabled post
      (pure () : Manage kernel H T Unit) (fun _ _ => True) Loose :=
    Attempt.Traced.ret () (fun _ _ => trivial)
  cases deed with
  | serve request =>
    exact ((serve_traced request).consequence (fun _ _ held => held) (fun _ held => held)
      (fun _ _ held => held) (fun _ _ held => held.loose)).bind (fun _ => done)
  | poll milliseconds response =>
    have waited : EventManager.Manage.Traced (fun _ => True)
        (EventManager.poll milliseconds response : EventManager.Manage kernel T (Except Error Nat))
        (fun _ _ => True) (fun _ _ => False) := EventManager.poll_traced milliseconds response
    exact (within_total waited).bind (fun _ => done)
  | dispatch eventCount =>
    have looped := @dispatchLoop_traced kernel H T _ eventCount _ _ _ (loose_excuses eventCount) 0
      eventCount (Nat.zero_add _) none (fun _ missing => by cases missing)
    exact (looped.consequence (fun _ _ held => held.1) (fun _ held => held)
      (fun _ _ held => held) (fun _ _ held => held)).bind (fun _ => done)
  | inspect event =>
    rw [Deed.run, dispatchEndpointEvent]
    split
    · exact Attempt.Traced.abort _ (fun _ _ => trivial)
    · exact done

variable {types : ResultTypes}

/-- The manager's part of the system. -/
def tables (system : System types (service kernel H T)) : EventManager kernel T :=
  (system.manager : World kernel H T).manager

/-- A step or a panic of the protocol moves the manager along a valid history. A step
leaves the manager, acts, or serves a request; a panic leaves what a request or a deed had
made of it by then. -/
theorem faulty_leads {system next : System types (service kernel H T)}
    {incident : Incident types (service kernel H T)}
    (faulty : Faulty (remains kernel H T) system incident next) :
    (tables system).Leads (tables next) := by
  have deed : ∀ (deed : Deed T) (world : World kernel H T),
      world.manager.Leads (deed.run world).state.manager :=
    fun deed world => ⟨_, (deed.run_traced world trivial).1, (deed.run_traced world trivial).2.1⟩
  have request : ∀ (request : Request T) (world : World kernel H T),
      world.manager.Leads (World.serve request world).state.manager :=
    fun request world =>
      ⟨_, (serve_traced request world trivial).1, (serve_traced request world trivial).2.1⟩
  cases faulty with
  | step stepped =>
    rcases stepped.serves with same | ⟨done, _, left⟩ | ⟨asked, response, served⟩
    · rw [tables, tables, same]
      exact .refl _
    · rw [tables, tables, left]
      exact deed done _
    · obtain ⟨_, _, left⟩ := Option.map_eq_some_iff.mp served
      have state : (World.serve asked (system.manager : World kernel H T)).state = next.manager :=
        congrArg Prod.snd left
      rw [tables, tables, ← state]
      exact request asked _
  | unwind running => exact .refl _
  | @served message asked _ _ running left =>
    obtain ⟨reason, _, rfl⟩ := left
    exact request asked _
  | acted idle left =>
    obtain ⟨done, reason, _, rfl⟩ := left
    exact deed done _

/-- In every state of every run, with panics caught, the manager is where a valid
history leads. -/
theorem manager_led {start : World kernel H T} {history : List (Incident types (service kernel H T))}
    {system : System types (service kernel H T)}
    (run : Run (Faulty (remains kernel H T)) (System.initial start) history system) :
    start.manager.Leads (tables system) := by
  refine run.invariant (fun _ state => start.manager.Leads (tables state)) (.refl _) ?_
  intro _ state incident next led faulty
  exact led.trans (faulty_leads faulty)

/-- What the running closure asks next is answered, or panics without fault of the
manager; either way the protocol goes on. -/
def Proceeds (system : System types (service kernel H T)) : Prop :=
  ∀ (message : FnMsg types (service kernel H T)) (request : Request T)
    (next : Response request → Task types (service kernel H T) message.code),
    system.control = .running message (.request request next) →
    (∃ after, Step system .request after) ∨
      ∃ reason after, Faulty (remains kernel H T) system (.unwind message) after ∧
        after.control = .outside ∧ (World.serve request (system.manager : World kernel H T)).result =
          .error reason ∧ Blamed reason (after.manager : World kernel H T)

/-- In every state of the protocol what the running closure asks is answered, or panics in
a callback or for want of an id. -/
theorem proceeds (system : System types (service kernel H T)) : Proceeds system := by
  intro message request next running
  have ended := (serve_traced request (system.manager : World kernel H T) trivial).2.2
  rcases result : (World.serve request (system.manager : World kernel H T)).result with
    reason | response
  · rw [result] at ended
    exact Or.inr ⟨reason, _, .served running ⟨reason, result, rfl⟩, rfl, rfl, ended⟩
  · have served : (service kernel H T).serve request system.manager =
        some (response, (World.serve request (system.manager : World kernel H T)).state) := by
      change Option.map _ (Except.toOption _) = _
      rw [result]
      rfl
    exact Or.inl ⟨_, .request running served⟩

/-- In every state of every interleaving of callers with a manager whose callbacks and
closures panic, the panics being caught, the tables are consistent and cover what the
kernel has registered; and what the running closure asks of the manager is answered
or panics without fault of the manager.

Proof: in every state of the protocol the manager is where a valid history leads, since a
call that panics logs a valid history too; consistency and cover are kept along those. -/
theorem tables_survive {start : World kernel H T} (started : start.manager.Started)
    (deletes : kernel.DeletesPresent) {history : List (Incident types (service kernel H T))}
    {system : System types (service kernel H T)}
    (run : Run (Faulty (remains kernel H T)) (System.initial start) history system) :
    (tables system).Consistent ∧ (tables system).Covered ∧ Proceeds system := by
  obtain ⟨observations, valid, led⟩ := manager_led run
  rw [led]
  exact ⟨started.consistent_after valid,
    started.covered_after (EventManager.deletes_of_deletesPresent deletes _ observations),
    proceeds system⟩

/-- A closure adds a subscriber whose `init` cannot register its descriptor, which is the
endpoint's. The caller is told that nothing will come, and the subscriber stays. -/
theorem tables_survive_init :
    ∃ (history : List (Incident RemoteResult.types
        (service Kernel.reference Unit CounterSubscriber)))
      (system : System RemoteResult.types (service Kernel.reference Unit CounterSubscriber)),
      Run (Faulty (remains _ _ _)) (System.initial (fresh ())) history system ∧
        unwound history ≠ [] ∧
        system.callers 0 = some ⟨.id, true, .returned (.failed .channelRecv)⟩ ∧
        (tables system).Live ⟨1⟩ ∧ (tables system).Consistent ∧ (tables system).Covered := by
  let register : Task RemoteResult.types (service Kernel.reference Unit CounterSubscriber)
      RemoteResult.id :=
    .request (Request.addSubscriber ⟨⟨3, 0⟩⟩ : Request CounterSubscriber) (fun id => .ret id)
  have begun : Run (Faulty (remains Kernel.reference Unit CounterSubscriber))
    (System.initial (fresh ())) [] (System.initial (fresh ()) : System RemoteResult.types _) :=
    Run.nil
  have sent := (begun.snoc (.step (.send (.callBlocking 0 register) rfl nofun))).snoc
    (.step (@Step.write _ _ _ 0 _ rfl rfl))
  have crashed := (((sent.snoc (.step (.wait rfl (by decide)))).snoc (.step (.read rfl))).snoc
    (.step (.take rfl rfl))).snoc (.served rfl ⟨_, rfl, rfl⟩)
  have told := crashed.snoc (.step (@Step.disconnected _ _ _ 0 _ rfl rfl rfl))
  obtain ⟨consistent, covered, _⟩ := tables_survive (fresh_started ())
    Kernel.reference_deletesPresent told
  exact ⟨_, _, told, List.cons_ne_nil _ _, rfl, rfl, consistent, covered⟩

end World

end EventLoop

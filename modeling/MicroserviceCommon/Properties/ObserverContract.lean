import MicroserviceCommon.Communication.NetworkProvider

/-!
# The observer contract

A message should be delivered once to every observer whose latest call was `addObserver`, and not at
all after `removeObserver`. An observer that is added twice is called twice, and most providers
inherit a `removeObserver` that does nothing.

* `delivered_once_iff` — right exactly while nobody is added again, and nobody is removed who is
  there, unless the calls end up at a shell
* `delivered_after_remove` — an observer of an AMQP controller
-/

namespace MicroserviceCommon

open Infra

inductive ObserverCall where
  | addObserver (observer : Nat)
  | removeObserver (observer : Nat)
  deriving DecidableEq, Repr

def ObserverCall.observer : ObserverCall → Nat
  | addObserver o | removeObserver o => o

/-- A provider and the latest call for each observer. -/
structure ObservedProvider where
  provider : NetworkProvider
  latest : UnorderedMap Nat ObserverCall := UnorderedMap.empty

namespace ObservedProvider

/-- Both calls return always. -/
def step (s : ObservedProvider) (call : ObserverCall) : Option ObservedProvider :=
  some
    { provider :=
        match call with
        | .addObserver o => s.provider.addObserver o
        | .removeObserver o => s.provider.removeObserver o
      latest := s.latest.assign call.observer call }

/-- The observer should be called. -/
def Registered (s : ObservedProvider) (o : Nat) : Prop :=
  s.latest o = some (.addObserver o)

instance (s : ObservedProvider) (o : Nat) : Decidable (s.Registered o) :=
  inferInstanceAs (Decidable (_ = _))

/-- The message is delivered once to each observer whose latest call was `addObserver`, and to none
whose latest call was `removeObserver`. -/
structure DeliveredOnce (arrival : Arrival) (r : GatewayRequest) (s : ObservedProvider) : Prop where
  added : ∀ o, s.Registered o →
    (s.provider.callbacks arrival).filter (·.1 = o) = [(o, r)]
  removed : ∀ o, s.latest o = some (.removeObserver o) →
    (s.provider.callbacks arrival).filter (·.1 = o) = []

/-- An observer is added that is not registered, or removed that is not registered, unless the
provider removes. -/
def Respected (s : ObservedProvider) : ObserverCall → Prop
  | .addObserver o => ¬ s.Registered o
  | .removeObserver o => s.provider.Removes ∨ ¬ s.Registered o

instance (s : ObservedProvider) : ∀ call, Decidable (s.Respected call)
  | .addObserver o => inferInstanceAs (Decidable (¬ s.Registered o))
  | .removeObserver o => inferInstanceAs (Decidable (s.provider.Removes ∨ ¬ s.Registered o))

/-! ## The invariant -/

/-- The provider makes a request of the message, and lists the registered observers once. -/
structure ListedOnce (arrival : Arrival) (r : GatewayRequest) (s : ObservedProvider) : Prop where
  request : s.provider.request? arrival = some r
  count : ∀ o, s.provider.observers.count o = if s.Registered o then 1 else 0

variable {arrival : Arrival} {r : GatewayRequest} {s s' : ObservedProvider} {call : ObserverCall}

/-- **An observer gets as many requests as it has entries.** -/
theorem filter_callbacks (h : s.provider.request? arrival = some r) (o : Nat) :
    (s.provider.callbacks arrival).filter (·.1 = o) =
      List.replicate (s.provider.observers.count o) (o, r) := by
  rw [NetworkProvider.callbacks_of_request h, List.filter_map]
  show (s.provider.observers.filter (· = o)).map _ = _
  rw [List.filter_eq, List.map_replicate]

theorem ListedOnce.deliveredOnce (h : ListedOnce arrival r s) : DeliveredOnce arrival r s where
  added := fun o ho => by
    rw [filter_callbacks h.request, h.count, if_pos ho]
    rfl
  removed := fun o ho => by
    have hnot : ¬ s.Registered o := fun hr => by
      rw [Registered, ho] at hr
      cases hr
    rw [filter_callbacks h.request, h.count, if_neg hnot]
    rfl

/-! ## Steps -/

theorem request?_step (hs : s.step call = some s') :
    s'.provider.request? arrival = s.provider.request? arrival := by
  cases hs
  cases call with
  | addObserver o =>
    show (s.provider.addObserver o).request? arrival = _
    rw [NetworkProvider.addObserver_eq, NetworkProvider.request?_withObservers]
  | removeObserver o =>
    show (s.provider.removeObserver o).request? arrival = _
    rw [NetworkProvider.removeObserver_eq, NetworkProvider.request?_withObservers]

/-- The list after a call. -/
theorem observers_step (hs : s.step call = some s') :
    s'.provider.observers =
      match call with
      | .addObserver o => s.provider.observers ++ [o]
      | .removeObserver o =>
        if s.provider.Removes then s.provider.observers.erase o else s.provider.observers := by
  cases hs
  cases call with
  | addObserver o =>
    show (s.provider.addObserver o).observers = _
    rw [NetworkProvider.addObserver_eq, NetworkProvider.observers_withObservers]
  | removeObserver o =>
    show (s.provider.removeObserver o).observers = _
    rw [NetworkProvider.removeObserver_eq, NetworkProvider.observers_withObservers]

/-- A call is about one observer. -/
theorem registered_step (hs : s.step call = some s') (o : Nat) :
    s'.Registered o ↔ if o = call.observer then call = .addObserver o else s.Registered o := by
  cases hs
  show UnorderedMap.assign s.latest call.observer call o = some (.addObserver o) ↔ _
  unfold UnorderedMap.assign
  split
  · rw [Option.some.injEq]
  · rfl

theorem registered_step_self (hs : s.step call = some s') :
    s'.Registered call.observer ↔ call = .addObserver call.observer := by
  rw [registered_step hs, if_pos rfl]

theorem registered_step_of_ne (hs : s.step call = some s') {o : Nat} (h : o ≠ call.observer) :
    s'.Registered o ↔ s.Registered o := by
  rw [registered_step hs, if_neg h]

/-- The entries of the other observers stay. -/
theorem count_step_of_ne (hs : s.step call = some s') {o : Nat} (h : o ≠ call.observer) :
    s'.provider.observers.count o = s.provider.observers.count o := by
  rw [observers_step hs]
  cases call with
  | addObserver o' =>
    show (s.provider.observers ++ [o']).count o = _
    have hzero : [o'].count o = 0 := List.count_eq_zero.mpr fun hm => h (List.mem_singleton.mp hm)
    rw [List.count_append, hzero, Nat.add_zero]
  | removeObserver o' =>
    show (if _ then _ else _ : List Nat).count o = _
    split
    · exact List.count_erase_of_ne h
    · rfl

theorem count_addObserver {o : Nat} (hs : s.step (.addObserver o) = some s') :
    s'.provider.observers.count o = s.provider.observers.count o + 1 := by
  rw [observers_step hs, List.count_append, List.count_singleton_self]

theorem count_removeObserver {o : Nat} (hs : s.step (.removeObserver o) = some s') :
    s'.provider.observers.count o =
      if s.provider.Removes then s.provider.observers.count o - 1
      else s.provider.observers.count o := by
  rw [observers_step hs]
  show (if _ then _ else _ : List Nat).count o = _
  split
  · exact List.count_erase_self
  · rfl

/-- **Respected calls keep the list.** -/
theorem ListedOnce.step (h : ListedOnce arrival r s) (hc : s.Respected call)
    (hs : s.step call = some s') : ListedOnce arrival r s' := by
  refine ⟨(request?_step hs).trans h.request, fun o' => ?_⟩
  by_cases ho : o' = call.observer
  · subst ho
    have hregistered := registered_step_self hs
    cases call with
    | addObserver o =>
      show s'.provider.observers.count o = _
      rw [if_pos (hregistered.mpr rfl), count_addObserver hs, h.count, if_neg hc]
    | removeObserver o =>
      show s'.provider.observers.count o = _
      rw [if_neg fun hr => ObserverCall.noConfusion (hregistered.mp hr), count_removeObserver hs,
        h.count]
      split
      · split <;> rfl
      · next hremoves => exact if_neg (hc.resolve_left hremoves)
  · rw [count_step_of_ne hs ho, h.count]
    exact if_congr (registered_step_of_ne hs ho).symm rfl rfl

/-- **A call that is not respected is seen with the next message.** -/
theorem ListedOnce.respected (h : ListedOnce arrival r s) (hs : s.step call = some s')
    (h' : DeliveredOnce arrival r s') : s.Respected call := by
  have hrequest := (request?_step hs).trans h.request
  have hregistered := registered_step_self hs
  cases call with
  | addObserver o =>
    intro hr
    have honce := h'.added o (hregistered.mpr rfl)
    rw [filter_callbacks hrequest, count_addObserver hs, h.count, if_pos hr] at honce
    cases honce
  | removeObserver o =>
    by_contra hnot
    obtain ⟨hremoves, hr⟩ := not_or.mp hnot
    have hlatest : s'.latest o = some (.removeObserver o) := by
      cases hs
      exact UnorderedMap.assign_self ..
    have hnone := h'.removed o hlatest
    rw [filter_callbacks hrequest, count_removeObserver hs, if_neg hremoves, h.count,
      if_pos (not_not.mp hr)] at hnone
    cases hnone

/--
**When observers get what they registered for.**

For a message that the provider makes a request of: after every call of a history, exactly when
every call is respected.
-/
theorem delivered_once_iff (provider : NetworkProvider) (arrival : Arrival) (r : GatewayRequest)
    (calls : List ObserverCall) (hnew : provider.observers = [])
    (hrequest : provider.request? arrival = some r) :
    AlwaysState step (DeliveredOnce arrival r) { provider := provider } calls ↔
      AlwaysStep step Respected { provider := provider } calls := by
  refine alwaysState_iff_of_inv step (ListedOnce arrival r) (fun _ h => h.deliveredOnce)
    (fun _ _ _ h hc hs => h.step hc hs) (fun _ _ _ h hs h' => h.respected hs h') calls _
    ⟨hrequest, fun o => ?_⟩
  rw [hnew]
  rfl

/-- A message from the other side, through a splitter over a controller. -/
theorem delivered_once_through_splitter :
    AlwaysState step
      (DeliveredOnce (.amqp ⟨"id", "exchange%key", "{}"⟩)
        (.amqp { toAmqpRequest := AmqpClient.incomingRequest {} ⟨"id", "exchange%key", "{}"⟩ }))
      { provider := .networkSplitter (.amqpController {}) }
      [.addObserver 1, .removeObserver 2, .addObserver 2] :=
  (delivered_once_iff (.networkSplitter (.amqpController {})) _ _ _ rfl rfl).mpr (by decide)

/-- The observer is gone, and it is called all the same. -/
theorem delivered_after_remove :
    ∃ s r, runAll step { provider := .amqpController {} } [.addObserver 1, .removeObserver 1] =
        some s ∧
      s.latest 1 = some (.removeObserver 1) ∧
      s.provider.callbacks (.amqp ⟨"id", "exchange%key", "{}"⟩) = [(1, r)] ∧
      ¬ AlwaysState step (DeliveredOnce (.amqp ⟨"id", "exchange%key", "{}"⟩) r)
        { provider := .amqpController {} } [.addObserver 1, .removeObserver 1] := by
  refine ⟨_, _, rfl, rfl, rfl, fun h => ?_⟩
  have hnone := (h.last rfl).removed 1 rfl
  cases hnone

end ObservedProvider

end MicroserviceCommon

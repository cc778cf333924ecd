import MicroserviceCommon.Communication.ShellRequest

/-!
# A request that is used again keeps what was in its base

The pool takes an object that nobody holds, and clears it. `ShellRequest` clears its own fields
only.

* `getInstance_cases` — the pool gives out an object that nobody else holds, cleared or new
* `recycled_requests_iff` — every request that is given out is as a new one exactly when all that
  are used again were left with the base of a new one
* `message_carried_over` — the next request has the message and the connection of the one before
-/

namespace MicroserviceCommon

open Infra

/-! ## The pool -/

namespace ObjectPool

variable {T : Type*} {construct : T} {clear : T → T} {pool : ObjectPool T}

/-- **The object given out** was held by nobody, or is new. -/
theorem getInstance_cases (construct : T) (clear : T → T) (pool : ObjectPool T) :
    (∃ i x, pool.reusable = some i ∧ pool.objects[i]? = some x ∧ x.holders = 0 ∧
      (pool.getInstance construct clear).1 = i ∧
      (pool.getInstance construct clear).2.objects[i]? =
        some { object := clear x.object, holders := 1 }) ∨
    pool.reusable = none ∧ (pool.getInstance construct clear).1 = pool.objects.length ∧
      (pool.getInstance construct clear).2.objects[pool.objects.length]? =
        some { object := construct, holders := 1 } := by
  unfold getInstance
  cases hreusable : pool.reusable with
  | none =>
    refine Or.inr ⟨rfl, rfl, ?_⟩
    exact List.getElem?_concat_length
  | some i =>
    obtain ⟨hi, hunique, _⟩ := List.findIdx?_eq_some_iff_getElem.mp hreusable
    have hget : pool.objects[i]? = some pool.objects[i] := List.getElem?_eq_getElem hi
    refine Or.inl ⟨i, pool.objects[i], rfl, hget, beq_iff_eq.mp hunique, rfl, ?_⟩
    show (pool.objects.modify i _)[i]? = _
    rw [List.getElem?_modify_eq, hget]
    rfl

/-- The object that is given out has no other holder, and is as a new one. -/
def GivesOutNew (construct : T) (clear : T → T) (pool : ObjectPool T) : ObjectPoolAction T → Prop
  | .getInstance =>
    (pool.getInstance construct clear).2.objects[(pool.getInstance construct clear).1]? =
      some { object := construct, holders := 1 }
  | _ => True

/-- **All depends on what `clear` makes of the object that is used again.** -/
theorem givesOutNew_iff : pool.GivesOutNew construct clear .getInstance ↔
    ∀ i x, pool.reusable = some i → pool.objects[i]? = some x → clear x.object = construct := by
  unfold GivesOutNew
  simp only
  rcases getInstance_cases construct clear pool with
    ⟨i, x, hreusable, hx, _, hpointer, hgiven⟩ | ⟨hreusable, hpointer, hgiven⟩
  · rw [hpointer, hgiven, Option.some.injEq, Pooled.mk.injEq, and_iff_left rfl]
    constructor
    · intro hclear j y hj hy
      rw [hreusable, Option.some.injEq] at hj
      rw [← hj, hx, Option.some.injEq] at hy
      rw [← hy, hclear]
    · exact fun hclear => hclear i x hreusable hx
  · rw [hpointer, hgiven]
    refine iff_of_true rfl fun i x hi => ?_
    rw [hreusable] at hi
    cases hi

end ObjectPool

/-! ## The requests of a shell -/

namespace PooledShellRequest

/-- What `clear` leaves is the base. -/
theorem clear_eq_construct_iff (r : PooledShellRequest) :
    r.clear = construct ↔ r.toAEnvironmentRequest = {} := by
  obtain ⟨⟨base, clientSocketDscr, clientModeInitiative⟩, interface⟩ := r
  unfold clear construct
  rw [PooledShellRequest.mk.injEq, ShellRequest.mk.injEq, and_iff_left rfl]
  exact and_iff_left ⟨rfl, rfl⟩

/-- A request that is used again was left with the base of a new one. -/
def ReusesNewBase (pool : Pool) : ObjectPoolAction PooledShellRequest → Prop
  | .getInstance => ∀ i x, pool.reusable = some i → pool.objects[i]? = some x →
      x.object.toAEnvironmentRequest = {}
  | _ => True

/--
**When nothing is carried over from one request to the next.**

Every request that is given out is held by nobody else and is as a new one exactly when each one
that is used again had the fields of its base back at their values from the constructor.
-/
theorem recycled_requests_iff (as : List (ObjectPoolAction PooledShellRequest)) :
    AlwaysStep poolStep (ObjectPool.GivesOutNew construct clear) {} as ↔
      AlwaysStep poolStep ReusesNewBase {} as := by
  have hinv : ∀ pool a pool', True → poolStep pool a = some pool' → True :=
    fun _ _ _ _ _ => trivial
  refine alwaysStep_congr hinv ?_ as ({} : Pool) trivial
  intro pool a pool' _ _
  cases a with
  | getInstance =>
    rw [ObjectPool.givesOutNew_iff]
    simp only [clear_eq_construct_iff]
    exact Iff.rfl
  | _ => exact Iff.rfl

/-- Somebody fills the first request and drops it. -/
theorem message_carried_over :
    ¬ AlwaysStep poolStep (ObjectPool.GivesOutNew construct clear) {}
      [.getInstance, .modify 0 fun r => { r with incomingMessage := "secret", connectionId := 7 },
        .release 0, .getInstance] := by
  intro h
  have hsecond := ((((h _ rfl).2 _ rfl).2 _ rfl).2 _ rfl).1
  have hmessage := congrArg (Option.map fun x => x.object.connectionId) hsecond
  exact absurd hmessage (by decide)

end PooledShellRequest

end MicroserviceCommon

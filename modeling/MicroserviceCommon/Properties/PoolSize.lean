import MicroserviceCommon.System.ObjectPool

/-!
# How large a pool grows

An object that nobody holds stays in the pool and is given out again before a new one is made.

* `length_objects_eq_peak` — there are as many objects as were held at one time
-/

namespace MicroserviceCommon.ObjectPool

open Infra

variable {T : Type*} {construct : T} {clear : T → T} {pool pool' : ObjectPool T}

/-- The number of the objects somebody holds. -/
def held (pool : ObjectPool T) : Nat := pool.objects.countP fun x => !x.unique

theorem held_le_length (pool : ObjectPool T) : pool.held ≤ pool.objects.length :=
  List.countP_le_length

/-- A new object is made when all are held. -/
theorem held_of_reusable_eq_none (h : pool.reusable = none) : pool.held = pool.objects.length := by
  rw [held, List.countP_eq_length]
  intro x hx
  rw [List.findIdx?_eq_none_iff.mp h x hx]
  rfl

theorem size_getInstance (construct : T) (clear : T → T) (pool : ObjectPool T) :
    (pool.getInstance construct clear).2.objects.length =
      max pool.objects.length (pool.getInstance construct clear).2.held := by
  have hle := held_le_length (pool.getInstance construct clear).2
  cases hreusable : pool.reusable with
  | some i =>
    have hlength : (pool.getInstance construct clear).2.objects.length = pool.objects.length := by
      simp [getInstance, hreusable]
    omega
  | none =>
    have hall := held_of_reusable_eq_none hreusable
    have hlength : (pool.getInstance construct clear).2.objects.length =
        pool.objects.length + 1 := by
      simp [getInstance, hreusable]
    have hheld : (pool.getInstance construct clear).2.held = pool.held + 1 := by
      simp [getInstance, hreusable, held, List.countP_append, Pooled.unique]
    omega

theorem size_change (pool : ObjectPool T) (pointer : Nat) (f : Pooled T → Pooled T) :
    (pool.change pointer f).objects.length =
      max pool.objects.length (pool.change pointer f).held := by
  have hle := held_le_length (pool.change pointer f)
  have hlength : (pool.change pointer f).objects.length = pool.objects.length :=
    List.length_modify ..
  omega

theorem size_step {a : ObjectPoolAction T} (hs : pool.step construct clear a = some pool') :
    pool'.objects.length = max pool.objects.length pool'.held := by
  cases a with
  | getInstance =>
    obtain rfl := Option.some.inj hs
    exact size_getInstance construct clear pool
  | modify | copy | release =>
    obtain ⟨_, hs⟩ := Option.ite_none_right_eq_some.mp hs
    obtain rfl := Option.some.inj hs
    exact size_change pool _ _

/--
**A pool makes no object too many.**

After any run of its users the pool has exactly as many objects as were held at one time.
-/
theorem length_objects_eq_peak (construct : T) (clear : T → T) (as : List (ObjectPoolAction T))
    (h : runAll (step construct clear) {} as = some pool) :
    pool.objects.length = peak (step construct clear) held {} as := by
  rw [size_eq_peak (fun pool => pool.objects.length) held (fun _ _ _ hs => size_step hs)
    (Nat.le_refl 0) h]
  exact Nat.max_eq_right (Nat.zero_le _)

/-- Three requests, two at one time. -/
theorem length_objects_eq_peak_two :
    peak (step 0 id) held ({} : ObjectPool Nat)
      [.getInstance, .getInstance, .release 0, .getInstance] = 2 :=
  (length_objects_eq_peak 0 id _ rfl).symm.trans rfl

end MicroserviceCommon.ObjectPool

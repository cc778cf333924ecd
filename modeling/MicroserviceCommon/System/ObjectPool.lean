import MicroserviceCommon.Infra.Run

/-!
# `ObjectPool`

The pool keeps one `shared_ptr` to every object it has made, and the users hold others. An object
whose only pointer is the one of the pool is cleared and given out again. `clear` and the
constructor are those of the type.
-/

namespace MicroserviceCommon

variable {T : Type*}

/-- `holders` is the number of pointers outside of the pool. -/
structure Pooled (T : Type*) where
  object : T
  holders : Nat := 0
  deriving DecidableEq, Repr

def Pooled.unique (instance' : Pooled T) : Bool := instance'.holders == 0

/-- A pointer is the place of its object. -/
structure ObjectPool (T : Type*) where
  objects : List (Pooled T) := []
  deriving DecidableEq, Repr

/-- What the users of a pool do. A user who has no pointer cannot do anything else. -/
inductive ObjectPoolAction (T : Type*) where
  | getInstance
  | modify (pointer : Nat) (change : T → T)
  | copy (pointer : Nat)
  | release (pointer : Nat)

namespace ObjectPool

/-- The place of the object that is used again. -/
def reusable (pool : ObjectPool T) : Option Nat := pool.objects.findIdx? Pooled.unique

/-- The pointer, and the pool after the call. -/
def getInstance (construct : T) (clear : T → T) (pool : ObjectPool T) : Nat × ObjectPool T :=
  match pool.reusable with
  | some i =>
    (i, { objects := pool.objects.modify i fun x => { object := clear x.object, holders := 1 } })
  | none =>
    (pool.objects.length, { objects := pool.objects ++ [{ object := construct, holders := 1 }] })

/-- Somebody has the pointer. -/
def IsHeld (pool : ObjectPool T) (pointer : Nat) : Prop :=
  ∃ x, pool.objects[pointer]? = some x ∧ 0 < x.holders

instance (pool : ObjectPool T) (pointer : Nat) : Decidable (pool.IsHeld pointer) :=
  match h : pool.objects[pointer]? with
  | none => isFalse fun ⟨_, hx, _⟩ => by rw [h] at hx; cases hx
  | some x =>
    decidable_of_iff (0 < x.holders)
      ⟨fun hpos => ⟨x, h, hpos⟩, fun ⟨_, hx, hpos⟩ => by rw [h] at hx; cases hx; exact hpos⟩

def change (pool : ObjectPool T) (pointer : Nat) (f : Pooled T → Pooled T) : ObjectPool T where
  objects := pool.objects.modify pointer f

def step (construct : T) (clear : T → T) (pool : ObjectPool T) :
    ObjectPoolAction T → Option (ObjectPool T)
  | .getInstance => some (pool.getInstance construct clear).2
  | .modify pointer change =>
    if pool.IsHeld pointer then
      some (pool.change pointer fun x => { x with object := change x.object })
    else none
  | .copy pointer =>
    if pool.IsHeld pointer then
      some (pool.change pointer fun x => { x with holders := x.holders + 1 })
    else none
  | .release pointer =>
    if pool.IsHeld pointer then
      some (pool.change pointer fun x => { x with holders := x.holders - 1 })
    else none

end ObjectPool

end MicroserviceCommon

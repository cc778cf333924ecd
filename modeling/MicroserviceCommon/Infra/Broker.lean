import Mathlib.Data.Finset.Dedup
import Mathlib.Data.Finset.Insert
import Mathlib.Data.Multiset.AddSub
import Mathlib.Data.Set.Insert

/-!
# Message brokers

A broker is a parameter: its states and what its clients may ask of it. A queue is bound to an
exchange with a routing key, and a message that is published with this key goes to the bound queues.

* `Broker.Lawful` — what a broker with direct exchanges promises, one law for each call
* `Broker.direct` — a broker that keeps all messages in the order they came
-/

namespace Infra

structure Binding (ν : Type*) where
  exchange : ν
  routingKey : ν
  queue : ν
  deriving DecidableEq, Repr

/-- `bindings` and `stored` are what a state stands for, the messages with their queues. `expire`
stands for what the broker does on its own. -/
structure Broker (ν μ : Type*) where
  State : Type*
  start : State
  bindings : State → Set (Binding ν)
  stored : State → Multiset (ν × μ)
  bind : State → Binding ν → State
  publish : State → ν → ν → μ → State
  get : State → ν → Option (μ × State)
  expire : State → Nat → State

namespace Broker

variable {ν μ : Type*}

/--
The promises of direct exchanges to consumers that acknowledge nothing.

Every bound queue gets a published message once at most, and a message that a consumer got is in its
queue no more. Messages and bindings may get lost.
-/
class Lawful (B : Broker ν μ) : Prop where
  bindings_start : B.bindings B.start = ∅
  stored_start : B.stored B.start = 0
  bindings_bind : ∀ b x, B.bindings (B.bind b x) ⊆ insert x (B.bindings b)
  stored_bind : ∀ b x, B.stored (B.bind b x) ≤ B.stored b
  bindings_publish : ∀ b exchange routingKey m,
    B.bindings (B.publish b exchange routingKey m) ⊆ B.bindings b
  stored_publish : ∀ b exchange routingKey m, ∃ queues : Finset ν,
    (∀ q ∈ queues, ⟨exchange, routingKey, q⟩ ∈ B.bindings b) ∧
      B.stored (B.publish b exchange routingKey m) ≤
        B.stored b + queues.val.map fun q => (q, m)
  bindings_get : ∀ b queue m b', B.get b queue = some (m, b') → B.bindings b' ⊆ B.bindings b
  stored_get : ∀ b queue m b', B.get b queue = some (m, b') →
    (queue, m) ::ₘ B.stored b' ≤ B.stored b
  bindings_expire : ∀ b i, B.bindings (B.expire b i) ⊆ B.bindings b
  stored_expire : ∀ b i, B.stored (B.expire b i) ≤ B.stored b

section Lawful

variable {B : Broker ν μ} [B.Lawful] {b b' : B.State} {exchange routingKey queue q : ν}
  {message m : μ}

/-- **A message that was not stored before is in a queue that is bound with its key.** -/
theorem mem_publish (h : (q, m) ∈ B.stored (B.publish b exchange routingKey message)) :
    (q, m) ∈ B.stored b ∨ ⟨exchange, routingKey, q⟩ ∈ B.bindings b ∧ m = message := by
  obtain ⟨queues, hbound, hle⟩ := Lawful.stored_publish b exchange routingKey message
  rcases Multiset.mem_add.mp (Multiset.mem_of_le hle h) with h | h
  · exact Or.inl h
  · obtain ⟨q', hq', heq⟩ := Multiset.mem_map.mp h
    cases heq
    exact Or.inr ⟨hbound q hq', rfl⟩

/-- **One copy at most**, when only one queue is bound with the key. -/
theorem publish_stored_of_unique (message : μ)
    (h : ∀ q q', ⟨exchange, routingKey, q⟩ ∈ B.bindings b →
      ⟨exchange, routingKey, q'⟩ ∈ B.bindings b → q = q') :
    B.stored (B.publish b exchange routingKey message) ≤ B.stored b ∨
      ∃ q, B.stored (B.publish b exchange routingKey message) ≤ (q, message) ::ₘ B.stored b := by
  obtain ⟨queues, hbound, hle⟩ := Lawful.stored_publish b exchange routingKey message
  rcases queues.eq_empty_or_nonempty with rfl | ⟨q, hq⟩
  · exact Or.inl (by simpa using hle)
  · have hsingleton : queues = {q} := Finset.eq_singleton_iff_unique_mem.mpr
      ⟨hq, fun q' hq' => h q' q (hbound q' hq') (hbound q hq)⟩
    rw [hsingleton, Finset.singleton_val, Multiset.map_singleton, Multiset.add_comm,
      Multiset.singleton_add] at hle
    exact Or.inr ⟨q, hle⟩

theorem mem_of_get (h : B.get b queue = some (m, b')) : (queue, m) ∈ B.stored b :=
  Multiset.mem_of_le (Lawful.stored_get b queue m b' h) (Multiset.mem_cons_self _ _)

theorem stored_le_of_get (h : B.get b queue = some (m, b')) : B.stored b' ≤ B.stored b :=
  (Multiset.le_cons_self _ _).trans (Lawful.stored_get b queue m b' h)

end Lawful

/-! ## A broker that loses nothing -/

/-- `stored` is in the order the messages came. -/
structure Direct (ν μ : Type*) where
  bindings : List (Binding ν) := []
  stored : List (ν × μ) := []

variable [DecidableEq ν]

/-- The queues that are bound to the exchange with the key. -/
def Direct.queuesOf (b : Direct ν μ) (exchange routingKey : ν) : List ν :=
  ((b.bindings.filter fun x => x.exchange = exchange ∧ x.routingKey = routingKey).map
    (·.queue)).dedup

/-- A consumer gets the oldest message of its queue. -/
def direct (ν μ : Type*) [DecidableEq ν] : Broker ν μ where
  State := Direct ν μ
  start := {}
  bindings b := { x | x ∈ b.bindings }
  stored b := b.stored
  bind b x := { b with bindings := b.bindings ++ [x] }
  publish b exchange routingKey m :=
    { b with stored := b.stored ++ (b.queuesOf exchange routingKey).map fun q => (q, m) }
  get b queue := (b.stored.find? fun entry => entry.1 = queue).map fun entry =>
    (entry.2, { b with stored := b.stored.eraseP fun entry => entry.1 = queue })
  expire b i := { b with stored := b.stored.eraseIdx i }

theorem Direct.mem_queuesOf {b : Direct ν μ} {exchange routingKey q : ν} :
    q ∈ b.queuesOf exchange routingKey ↔ ⟨exchange, routingKey, q⟩ ∈ b.bindings := by
  simp only [queuesOf, List.mem_dedup, List.mem_map, List.mem_filter, decide_eq_true_eq]
  constructor
  · rintro ⟨x, ⟨hx, rfl, rfl⟩, rfl⟩
    exact hx
  · intro h
    exact ⟨_, ⟨h, rfl, rfl⟩, rfl⟩

instance : (direct ν μ).Lawful where
  bindings_start := Set.eq_empty_of_forall_notMem fun _ h => List.not_mem_nil h
  stored_start := rfl
  bindings_bind b x y hy := by
    rcases List.mem_append.mp hy with hy | hy
    · exact Or.inr hy
    · exact Or.inl (List.mem_singleton.mp hy)
  stored_bind b x := le_rfl
  bindings_publish b exchange routingKey m := subset_rfl
  stored_publish b exchange routingKey m :=
    ⟨⟨b.queuesOf exchange routingKey, List.nodup_dedup _⟩, fun q hq => Direct.mem_queuesOf.mp hq,
      le_rfl⟩
  bindings_get b queue m b' h := by
    obtain ⟨entry, _, he⟩ := Option.map_eq_some_iff.mp h
    cases he
    exact subset_rfl
  stored_get b queue m b' h := by
    obtain ⟨⟨q, m'⟩, hfind, he⟩ := Option.map_eq_some_iff.mp h
    cases he
    obtain ⟨hq, before, after, hstored, hbefore⟩ := List.find?_eq_some_iff_append.mp hfind
    obtain rfl : q = queue := by simpa using hq
    have herase : b.stored.eraseP (fun entry => entry.1 = q) = before ++ after := by
      rw [hstored, List.eraseP_append_right _ (by simpa using hbefore),
        List.eraseP_cons_of_pos (by simp)]
    have hperm : b.stored.Perm ((q, m') :: (before ++ after)) := hstored ▸ List.perm_middle
    change ((q, m') ::ₘ (b.stored.eraseP fun entry => entry.1 = q : Multiset (ν × μ))) ≤ b.stored
    rw [herase, Multiset.cons_coe]
    exact (Multiset.coe_eq_coe.mpr hperm).ge
  bindings_expire b i := subset_rfl
  stored_expire b i := Multiset.coe_le.mpr (List.eraseIdx_sublist ..).subperm

end Broker

end Infra

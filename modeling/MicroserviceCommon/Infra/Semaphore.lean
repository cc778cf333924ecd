import Mathlib.Logic.Function.Basic

/-!
# A semaphore used as a mutex

The processes share one token: either it is in the semaphore, or one process has it.

* `Token.take`, `Token.give` — waiting and posting move the token
* `Token.exclusive` — two processes never have it
* `Token.not_enter`, `Token.not_post` — whoever enters without waiting, or posts without holding,
  makes a second token
-/

namespace Infra

variable {π : Type*}

def Exclusive (holds : π → Bool) : Prop := ∀ p q, holds p = true → holds q = true → p = q

/-- The value of the semaphore and the number of holders are 1 together. -/
def Token (value : Nat) (holds : π → Bool) : Prop :=
  (value = 1 ∧ ∀ p, holds p = false) ∨ (value = 0 ∧ ∃ p, ∀ q, holds q = true ↔ q = p)

namespace Token

variable {value : Nat} {holds : π → Bool} {p : π}

theorem init : Token 1 fun _ : π => false := Or.inl ⟨rfl, fun _ => rfl⟩

theorem exclusive (h : Token value holds) : Exclusive holds := by
  intro p q hp hq
  rcases h with ⟨_, hfree⟩ | ⟨_, r, honly⟩
  · rw [hfree p] at hp
    cases hp
  · rw [(honly p).mp hp, (honly q).mp hq]

/-- There is no room for a second token. -/
theorem le_one (h : Token value holds) : value ≤ 1 := by
  rcases h with ⟨hvalue, _⟩ | ⟨hvalue, _⟩
  · exact Nat.le_of_eq hvalue
  · rw [hvalue]
    exact Nat.zero_le 1

/-- Who holds the token has left nothing in the semaphore. -/
theorem value_of_holds (h : Token value holds) (hp : holds p = true) : value = 0 := by
  rcases h with ⟨_, hfree⟩ | ⟨hvalue, _⟩
  · rw [hfree p] at hp
    cases hp
  · exact hvalue

/-- Posting without holding. -/
theorem not_post (h : Token value holds) : ¬Token (value + 1) holds := by
  intro h'
  rcases h with ⟨hvalue, _⟩ | ⟨_, q, honly⟩
  · have hle := h'.le_one
    omega
  · have hzero := h'.value_of_holds ((honly q).mpr rfl)
    exact absurd hzero (Nat.succ_ne_zero value)

variable [DecidableEq π]

theorem take (h : Token (value + 1) holds) (p : π) :
    Token value (Function.update holds p true) := by
  rcases h with ⟨hvalue, hfree⟩ | ⟨hvalue, _⟩
  · refine Or.inr ⟨Nat.succ.inj hvalue, p, fun q => ?_⟩
    by_cases hq : q = p
    · rw [hq, Function.update_self, eq_self, eq_self]
    · rw [Function.update_of_ne hq, hfree q]
      exact ⟨fun hc => absurd hc (by decide), fun hc => absurd hc hq⟩
  · exact absurd hvalue (Nat.succ_ne_zero value)

theorem give (h : Token value holds) (hp : holds p = true) :
    Token (value + 1) (Function.update holds p false) := by
  have hzero := h.value_of_holds hp
  refine Or.inl ⟨by rw [hzero], fun q => ?_⟩
  by_cases hq : q = p
  · rw [hq, Function.update_self]
  · rw [Function.update_of_ne hq, ← Bool.not_eq_true]
    exact fun hq' => hq (h.exclusive q p hq' hp)

/-- Entering without waiting. -/
theorem not_enter (h : Token value holds) (hp : holds p = false) :
    ¬Token value (Function.update holds p true) := by
  intro h'
  have hp' : Function.update holds p true p = true := Function.update_self ..
  have hzero := h'.value_of_holds hp'
  rcases h with ⟨hvalue, _⟩ | ⟨_, q, honly⟩
  · rw [hvalue] at hzero
    cases hzero
  · have hne : q ≠ p := by
      rintro rfl
      rw [(honly q).mpr rfl] at hp
      cases hp
    have hq' : Function.update holds p true q = true := by
      rw [Function.update_of_ne hne]
      exact (honly q).mpr rfl
    exact hne (h'.exclusive q p hq' hp')

end Token

end Infra

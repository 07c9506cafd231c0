import Mathlib.Data.Option.Basic
import Mathlib.Order.Lattice

/-! A key that a holder sets for a time, that others set only after that time, and that only its holder deletes. -/

namespace Leases

variable {τ α : Type} [LinearOrder α]

structure Lease (τ α : Type) where
  holder : τ
  expires : α

variable (key : Option (Lease τ α)) (holder : τ) (now expires : α)

def current : Option (Lease τ α) := key.filter (now < ·.expires)

/-- `SET` with `NX` and an expiry -/
def acquire : Option (Lease τ α) := if (current key now).isSome then key else some { holder, expires }

/-- The compare-and-delete -/
def release [DecidableEq τ] : Option (Lease τ α) := if (current key now).any (·.holder = holder) then none else key

variable {key holder now expires} {lease : Lease τ α}

theorem current_eq_some : current key now = some lease ↔ key = some lease ∧ now < lease.expires := by
  simp [current, Option.filter_eq_some_iff]

theorem expires_le (free : current key now = none) (held : key = some lease) : lease.expires ≤ now := by
  by_contra ahead
  rw [current_eq_some.mpr ⟨held, not_le.mp ahead⟩] at free
  contradiction

theorem acquire_free (free : current key now = none) : acquire key holder now expires = some { holder, expires } := by
  simp [acquire, free]

theorem acquire_cases (key : Option (Lease τ α)) (holder : τ) (now expires : α) :
    acquire key holder now expires = key ∨
      current key now = none ∧ acquire key holder now expires = some { holder, expires } := by
  cases free : current key now with
  | some lease => exact .inl (by simp [acquire, free])
  | none => exact .inr ⟨rfl, acquire_free free⟩

theorem release_other [DecidableEq τ] (held : key = some lease) (other : lease.holder ≠ holder) :
    release key holder now = key := by
  cases live : current key now with
  | none => simp [release, live]
  | some found =>
      obtain ⟨same, -⟩ := current_eq_some.mp live
      obtain rfl : lease = found := Option.some.inj (held.symm.trans same)
      simp [release, live, other]

theorem release_cases [DecidableEq τ] (key : Option (Lease τ α)) (holder : τ) (now : α) :
    release key holder now = key ∨ release key holder now = none := by
  rw [release]
  split
  · exact .inr rfl
  · exact .inl rfl

end Leases

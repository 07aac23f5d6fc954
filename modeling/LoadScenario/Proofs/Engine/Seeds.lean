import LoadScenario.Engine.Run

/-!
# The seeds of the users' generators

A seeded run gives each user a generator of its own, seeded with the run's seed
xored with the user's id times the odd constant `0x9E3779B97F4A7C15`, in 64-bit
words with the product wrapping. Both steps are bijections of the words: a
xor with a fixed word undoes itself, and an odd word has an inverse modulo
`2^64` (`seedMultiplier_mul_inverse`), so the product can be divided again.

So a user's seed determines its id modulo `2^64` (`userSeed_eq_iff`), and no
two users with 64-bit ids seed their generators alike (`userSeed_inj`).
-/

namespace LoadScenario.Engine

/-- The seed multiplier is a unit of the 64-bit words. -/
theorem seedMultiplier_mul_inverse : (0x9E3779B97F4A7C15 : UInt64) * 0xF1DE83E19937733D = 1 := by
  decide

/-- Multiplying by the seed multiplier loses nothing: multiplying again by its
inverse gives the word back. -/
theorem eq_of_mul_seedMultiplier {a b : UInt64}
    (h : a * 0x9E3779B97F4A7C15 = b * 0x9E3779B97F4A7C15) : a = b :=
  calc a = a * 0x9E3779B97F4A7C15 * 0xF1DE83E19937733D := by
        rw [UInt64.mul_assoc, seedMultiplier_mul_inverse, UInt64.mul_one]
    _ = b * 0x9E3779B97F4A7C15 * 0xF1DE83E19937733D := by rw [h]
    _ = b := by rw [UInt64.mul_assoc, seedMultiplier_mul_inverse, UInt64.mul_one]

/-- Two ids give one seed exactly when they agree modulo `2^64`, whatever the
run's seed. -/
theorem userSeed_eq_iff (seed : UInt64) (u v : Nat) :
    userSeed seed u = userSeed seed v ↔ u % UInt64.size = v % UInt64.size := by
  have hid : UInt64.ofNat u = UInt64.ofNat v ↔ u % UInt64.size = v % UInt64.size := by
    rw [← UInt64.toNat_inj, UInt64.toNat_ofNat', UInt64.toNat_ofNat']
  rw [userSeed, userSeed, UInt64.xor_right_inj, ← hid]
  exact ⟨eq_of_mul_seedMultiplier, fun h => h ▸ rfl⟩

/-- Users of a seeded run share no seed: two 64-bit ids give one seed only when
they are the same id. -/
theorem userSeed_inj (seed u v : UInt64) : userSeed seed u.toNat = userSeed seed v.toNat ↔ u = v := by
  rw [userSeed_eq_iff, Nat.mod_eq_of_lt u.toNat_lt_size, Nat.mod_eq_of_lt v.toNat_lt_size]
  exact UInt64.toNat_inj

end LoadScenario.Engine

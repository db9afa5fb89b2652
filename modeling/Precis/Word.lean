/-!
# Words

Token counts and delays are machine words. Limits are compared with sums that stop at the largest
word instead of wrapping; other sums have no value when they are too large for a word. Each
operation is pinned by its value in the natural numbers.
-/

namespace Precis.Word

/-- The number of 64-bit words. -/
def size64 : Nat := 18446744073709551616

/-- The word nearest to `n`: `n` itself, or the largest word when `n` does not fit. -/
def clamp64 (n : Nat) : UInt64 :=
  if n < size64 then UInt64.ofNat n else UInt64.ofNat (size64 - 1)

/-- The 32-bit word nearest to `n`. -/
def clamp32 (n : Nat) : UInt32 :=
  if n < 4294967296 then UInt32.ofNat n else UInt32.ofNat 4294967295

/-- The sum, if it is a word. -/
def add? (a b : UInt64) : Option UInt64 :=
  if a.toNat + b.toNat < size64 then some (a + b) else none

/-- The sum, stopping at the largest word. -/
def addSat (a b : UInt64) : UInt64 := clamp64 (a.toNat + b.toNat)

/-- The product, stopping at the largest word. -/
def mulSat (a b : UInt64) : UInt64 := clamp64 (a.toNat * b.toNat)

/-- The difference, stopping at zero. -/
def subSat (a b : UInt64) : UInt64 := UInt64.ofNat (a.toNat - b.toNat)

theorem toNat_clamp64 (n : Nat) : (clamp64 n).toNat = min n (size64 - 1) := by
  unfold clamp64
  split
  · rename_i h
    rw [UInt64.toNat_ofNat_of_lt' (by simpa [size64] using h)]
    simp only [size64] at h ⊢
    omega
  · rename_i h
    simp only [size64] at h ⊢
    rw [UInt64.toNat_ofNat_of_lt' (by decide)]
    omega

theorem toNat_clamp32 (n : Nat) : (clamp32 n).toNat = min n 4294967295 := by
  unfold clamp32
  split
  · rename_i h
    rw [UInt32.toNat_ofNat_of_lt' (by simpa using h)]
    omega
  · rw [UInt32.toNat_ofNat_of_lt' (by decide)]
    omega

theorem add?_eq_some {a b c : UInt64} (h : add? a b = some c) :
    c = a + b ∧ c.toNat = a.toNat + b.toNat := by
  unfold add? at h
  split at h
  · rename_i hlt
    cases h
    rw [UInt64.toNat_add]
    exact ⟨rfl, Nat.mod_eq_of_lt hlt⟩
  · cases h

theorem isSome_add? (a b : UInt64) : (add? a b).isSome = true ↔ a.toNat + b.toNat < size64 := by
  unfold add?
  split <;> simp_all

@[simp] theorem toNat_addSat (a b : UInt64) :
    (addSat a b).toNat = min (a.toNat + b.toNat) (size64 - 1) := toNat_clamp64 _

@[simp] theorem toNat_mulSat (a b : UInt64) :
    (mulSat a b).toNat = min (a.toNat * b.toNat) (size64 - 1) := toNat_clamp64 _

@[simp] theorem toNat_subSat (a b : UInt64) : (subSat a b).toNat = a.toNat - b.toNat := by
  have h := a.toNat_lt
  exact UInt64.toNat_ofNat_of_lt' (by simpa using Nat.lt_of_le_of_lt (Nat.sub_le _ _) h)

end Precis.Word

import DaemonChoir.Kernel.Hashes
set_option autoImplicit false

/-!
# Kernel: what the hashes keep apart

FNV-1a promises no collision resistance in general.  It does keep apart all user ids, and
all names that differ in one byte.
-/

namespace DaemonChoir.Kernel

open DaemonChoir.Common DaemonChoir.Foundation

/-! ## User ids -/

theorem toUInt64_lt (b : UInt8) : b.toUInt64 < 256 := by
  rw [UInt64.lt_iff_toNat_lt, UInt8.toNat_toUInt64]
  exact b.toNat_lt

theorem toNat_eq_leBytes (u : UInt32) :
    u.toNat = u.toUInt8.toNat + (u >>> 8).toUInt8.toNat * 2 ^ 8 +
      (u >>> 16).toUInt8.toNat * 2 ^ 16 + (u >>> 24).toUInt8.toNat * 2 ^ 24 := by
  have hu := u.toNat_lt
  have hbyte : ∀ v : UInt32, v.toUInt8.toNat = v.toNat % 2 ^ 8 := UInt32.toNat_toUInt8
  have hshift : ∀ s : UInt32, (u >>> s).toNat = u.toNat / 2 ^ (s.toNat % 32) := by
    intro s
    rw [UInt32.toNat_shiftRight, Nat.shiftRight_eq_div_pow]
  simp only [hbyte, hshift, UInt32.reduceToNat, Nat.reduceMod]
  omega

theorem eq_of_fnv1a64_leBytes {u v : UInt32}
    (h : fnv1a64 (leBytes u) = fnv1a64 (leBytes v)) : u = v := by
  rw [fnv1a64_eq_digest, fnv1a64_eq_digest] at h
  simp only [leBytes, List.map_cons, List.map_nil] at h
  obtain ⟨h₁, h₂, h₃, h₄⟩ :=
    Fnv.digest_four_inj ⟨toUInt64_lt _, toUInt64_lt _, toUInt64_lt _, toUInt64_lt _⟩
      ⟨toUInt64_lt _, toUInt64_lt _, toUInt64_lt _, toUInt64_lt _⟩ h
  apply UInt32.toNat_inj.mp
  rw [toNat_eq_leBytes u, toNat_eq_leBytes v, UInt8.toUInt64_inj.mp h₁,
    UInt8.toUInt64_inj.mp h₂, UInt8.toUInt64_inj.mp h₃, UInt8.toUInt64_inj.mp h₄]

/-- Two user ids never hash alike. -/
theorem fnv1a64HashU32_eq_iff (a b : UInt32) :
    ProcLifecycle.fnv1a64HashU32 a = ProcLifecycle.fnv1a64HashU32 b ↔ a = b := by
  rw [fnv1a64HashU32_eq, fnv1a64HashU32_eq]
  constructor
  · exact eq_of_fnv1a64_leBytes
  · intro h
    rw [h]

theorem handleProcessExec_uidHash {comm₁ comm₂ : Comm} {uidGid₁ uidGid₂ : UInt64}
    {event₁ event₂ : ProcLifecycle.ProcLifecycleEvent}
    (h₁ : ProcLifecycle.handleProcessExec true comm₁ uidGid₁ = some event₁)
    (h₂ : ProcLifecycle.handleProcessExec true comm₂ uidGid₂ = some event₂)
    (hhash : event₁.uidHash = event₂.uidHash) : uidGid₁.toUInt32 = uidGid₂.toUInt32 := by
  cases h₁
  cases h₂
  have hlow : ∀ v : UInt64, (v &&& 0xFFFFFFFF).toUInt32 = v.toUInt32 := by
    intro v
    apply UInt32.toNat_inj.mp
    have hmask : (0xFFFFFFFF : UInt64).toNat = 2 ^ 32 - 1 := rfl
    rw [UInt64.toNat_toUInt32, UInt64.toNat_and, hmask, Nat.and_two_pow_sub_one_eq_mod,
      Nat.mod_mod, UInt64.toNat_toUInt32]
  simp only [fnv1a64HashU32_eq, hlow] at hhash
  exact eq_of_fnv1a64_leBytes hhash

/-! ## Names -/

theorem fnv1a64_append_eq_iff (p₁ p₂ q : List UInt8) :
    fnv1a64 (p₁ ++ q) = fnv1a64 (p₂ ++ q) ↔ fnv1a64 p₁ = fnv1a64 p₂ := by
  simp only [fnv1a64_eq_digest, Fnv.digest, List.map_append, List.foldl_append]
  exact Fnv.foldl_absorb_inj _

theorem fnv1a64_replace_eq_iff (p q : List UInt8) (b c : UInt8) :
    fnv1a64 (p ++ [b] ++ q) = fnv1a64 (p ++ [c] ++ q) ↔ b = c := by
  simp only [fnv1a64_eq_digest, List.append_assoc, List.map_append, List.map_cons,
    List.cons_append, List.nil_append]
  rw [Fnv.digest_replace, UInt8.toUInt64_inj]

/-- `fnv1a_64` separates near-identical names, and equal digests survive a common suffix
only when they were equal before it. -/
theorem fnv1a64_separates :
    (∀ (p q : List UInt8) (b c : UInt8), b ≠ c →
      fnv1a64 (p ++ [b] ++ q) ≠ fnv1a64 (p ++ [c] ++ q)) ∧
      ∀ p₁ p₂ q : List UInt8, fnv1a64 (p₁ ++ q) = fnv1a64 (p₂ ++ q) →
        fnv1a64 p₁ = fnv1a64 p₂ := by
  constructor
  · intro p q b c hne heq
    exact hne ((fnv1a64_replace_eq_iff p q b c).mp heq)
  · intro p₁ p₂ q heq
    exact (fnv1a64_append_eq_iff p₁ p₂ q).mp heq

end DaemonChoir.Kernel

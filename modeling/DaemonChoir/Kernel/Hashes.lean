import DaemonChoir.Common.Events
import DaemonChoir.Foundation.Fnv
import DaemonChoir.Kernel.ProcLifecycle
set_option autoImplicit false

/-!
# Kernel: hashes on both sides of the ring buffer

Kernel and user space fold the same rounds over a name.  They differ in the word that
they make of a character: `char` is signed, so the kernel extends the sign of every byte
from 0x80 on where user space extends with zeros.
-/

namespace DaemonChoir.Kernel

open DaemonChoir.Common DaemonChoir.Foundation

/-! ## The two words of a byte -/

/-- `(u64)(str[i])` for the byte that is stored in `str[i]`. -/
def charWord (b : UInt8) : UInt64 := b.toInt8.toInt64.toUInt64

theorem charWord_eq_iff (b : UInt8) : charWord b = b.toUInt64 ↔ b < 0x80 := by
  have hall : ∀ n : Fin 256, charWord (UInt8.ofFin n) = (UInt8.ofFin n).toUInt64 ↔
      UInt8.ofFin n < 0x80 := by
    decide +kernel
  exact hall b.toFin

theorem toInt8_eq_zero_iff (b : UInt8) : b.toInt8 = 0 ↔ b = 0 := by
  have hall : ∀ n : Fin 256, (UInt8.ofFin n).toInt8 = 0 ↔ UInt8.ofFin n = 0 := by
    decide +kernel
  exact hall b.toFin

/-! ## Both hashes as one fold -/

/-- The 16-byte buffer that holds a string followed by NULs. -/
def commOf (s : List UInt8) : Comm := Vector.ofFn fun index => (s.getD index.val 0).toInt8

theorem fnv1a64_eq_digest (data : List UInt8) :
    fnv1a64 data = Fnv.digest (data.map UInt8.toUInt64) := by
  rw [Fnv.digest, List.foldl_map]
  rfl

theorem fnv1a64HashLoop_eq (hash : UInt64) {s : List UInt8} (h : 0 ∉ s)
    (rest : List Int8) :
    fnv1a64HashLoop hash (s.map UInt8.toInt8 ++ 0 :: rest) =
      (s.map charWord).foldl Fnv.absorb hash := by
  induction s generalizing hash with
  | nil => rfl
  | cons b s ih =>
      rw [List.mem_cons, not_or] at h
      obtain ⟨hb, hs⟩ := h
      have hchar : b.toInt8 ≠ 0 := by
        intro hzero
        exact hb ((toInt8_eq_zero_iff b).mp hzero).symm
      rw [List.map_cons, List.cons_append, fnv1a64HashLoop, if_neg hchar, ih _ hs]
      rfl

/-- The buffer of a short string is the string and a NUL, whatever follows. -/
theorem commOf_toList {s : List UInt8} (h : s.length ≤ 15) :
    ∃ rest, (commOf s).toList = s.map UInt8.toInt8 ++ 0 :: rest := by
  refine ⟨List.replicate (15 - s.length) 0, ?_⟩
  apply List.ext_getElem
  · simp
    omega
  · intro i hi _
    rcases Nat.lt_trichotomy i s.length with hlt | heq | hgt
    · simp [commOf, hlt]
    · simp [commOf, heq]
    · obtain ⟨k, rfl⟩ := Nat.exists_eq_add_of_lt hgt
      have hnot : ¬ s.length + k + 1 < s.length := by omega
      have hindex : s.length + k + 1 - s.length = k + 1 := by omega
      simp [commOf, List.getElem_append, hnot, hindex]

theorem fnv1a64Hash_commOf {s : List UInt8} (hlength : s.length ≤ 15) (hnul : 0 ∉ s) :
    fnv1a64Hash (commOf s) = Fnv.digest (s.map charWord) := by
  obtain ⟨rest, hlist⟩ := commOf_toList hlength
  rw [fnv1a64Hash, hlist, fnv1a64HashLoop_eq _ hnul]
  rfl

/-! ## Agreement -/

/-- The hashes of a name on both sides: the two kernel programs and user space. -/
def HashesAgree (s : List UInt8) : Prop :=
  fnv1a64Hash (commOf s) = fnv1a64 s ∧ ProcLifecycle.fnv1a64Hash (commOf s) = fnv1a64 s

/-- The two kernel programs hash alike, so one comparison is enough. -/
theorem hashesAgree_iff_digest {s : List UInt8} (hlength : s.length ≤ 15) (hnul : 0 ∉ s) :
    HashesAgree s ↔ Fnv.digest (s.map charWord) = Fnv.digest (s.map UInt8.toUInt64) := by
  have hsame : ProcLifecycle.fnv1a64Hash (commOf s) = fnv1a64Hash (commOf s) := rfl
  rw [HashesAgree, hsame, and_self, fnv1a64Hash_commOf hlength hnul, fnv1a64_eq_digest]

theorem hashesAgree_of_ascii {s : List UInt8} (hlength : s.length ≤ 15) (hnul : 0 ∉ s)
    (hascii : ∀ b ∈ s, b < 0x80) : HashesAgree s := by
  rw [hashesAgree_iff_digest hlength hnul]
  have hwords : s.map charWord = s.map UInt8.toUInt64 := by
    apply List.map_congr_left
    intro b hmem
    exact (charWord_eq_iff b).mpr (hascii b hmem)
  rw [hwords]

/-- A single byte from 0x80 on is the only difference between the two folds, and no later
round can undo it. -/
theorem not_hashesAgree_of_one {s : List UInt8} (hlength : s.length ≤ 15) (hnul : 0 ∉ s)
    (hone : s.countP (fun b => 0x80 ≤ b) = 1) : ¬ HashesAgree s := by
  rw [hashesAgree_iff_digest hlength hnul]
  rw [List.countP_eq_length_filter, List.length_eq_one_iff] at hone
  obtain ⟨b, hfilter⟩ := hone
  obtain ⟨front, back, rfl, hfront, hb, hback⟩ := List.filter_eq_cons_iff.mp hfilter
  have hsame : ∀ bytes : List UInt8, (∀ c ∈ bytes, ¬ (0x80 : UInt8) ≤ c) →
      bytes.map charWord = bytes.map UInt8.toUInt64 := by
    intro bytes hbytes
    apply List.map_congr_left
    intro c hmem
    exact (charWord_eq_iff c).mpr (UInt8.not_le.mp (hbytes c hmem))
  have hfrontWords := hsame front fun c hmem => by simpa using hfront c hmem
  have hbackWords := hsame back fun c hmem => by
    simpa using List.filter_eq_nil_iff.mp hback c hmem
  rw [List.map_append, List.map_cons, List.map_append, List.map_cons, hfrontWords,
    hbackWords, Fnv.digest_replace, charWord_eq_iff]
  exact UInt8.not_lt.mpr (by simpa using hb)

/-! ## User ids -/

/-- The bytes of a `u32`, least significant first. -/
def leBytes (u : UInt32) : List UInt8 :=
  [u.toUInt8, (u >>> 8).toUInt8, (u >>> 16).toUInt8, (u >>> 24).toUInt8]

theorem and_ff (v : UInt32) : (v &&& 0xFF).toUInt64 = v.toUInt8.toUInt64 := by
  apply UInt64.toNat_inj.mp
  have hmask : (0xFF : UInt32).toNat = 2 ^ 8 - 1 := rfl
  rw [UInt32.toNat_toUInt64, UInt32.toNat_and, hmask, Nat.and_two_pow_sub_one_eq_mod,
    UInt8.toNat_toUInt64, UInt32.toNat_toUInt8]

theorem fnv1a64HashU32_eq (u : UInt32) :
    ProcLifecycle.fnv1a64HashU32 u = fnv1a64 (leBytes u) := by
  simp only [ProcLifecycle.fnv1a64HashU32, and_ff, fnv1a64, leBytes, List.foldl_cons,
    List.foldl_nil]

/-- Names below 0x80 and all user ids hash alike in kernel and user space; names with
exactly one byte from 0x80 on never do. -/
theorem hashes_agree {s : List UInt8} (hlength : s.length ≤ 15) (hnul : 0 ∉ s) (u : UInt32) :
    ((∀ b ∈ s, b < 0x80) → HashesAgree s) ∧
      (s.countP (fun b => 0x80 ≤ b) = 1 → ¬ HashesAgree s) ∧
        ProcLifecycle.fnv1a64HashU32 u = fnv1a64 (leBytes u) :=
  ⟨hashesAgree_of_ascii hlength hnul, not_hashesAgree_of_one hlength hnul,
    fnv1a64HashU32_eq u⟩

/-- `systemd`. -/
def systemdName : List UInt8 := [0x73, 0x79, 0x73, 0x74, 0x65, 0x6d, 0x64]

/-- `café` in Latin-1. -/
def cafeName : List UInt8 := [0x63, 0x61, 0x66, 0xe9]

/-- A name in each of the two cases, and a user id. -/
theorem hashes_agree_systemd :
    HashesAgree systemdName ∧ ¬ HashesAgree cafeName ∧
      ProcLifecycle.fnv1a64HashU32 1000 = fnv1a64 (leBytes 1000) := by
  obtain ⟨hsystemd, _, hid⟩ := hashes_agree (s := systemdName) (by decide) (by decide) 1000
  obtain ⟨_, hcafe, _⟩ := hashes_agree (s := cafeName) (by decide) (by decide) 1000
  exact ⟨hsystemd (by simp [systemdName]), hcafe (by decide), hid⟩

/-- Kernel and user space hash `café` differently. -/
theorem hashes_not_always_agree :
    ¬ ((∀ s : List UInt8, s.length ≤ 15 → 0 ∉ s → HashesAgree s) ∧
      ∀ u : UInt32, ProcLifecycle.fnv1a64HashU32 u = fnv1a64 (leBytes u)) := by
  intro hclaim
  have hagree := (hclaim.1 cafeName (by decide) (by decide)).1
  exact absurd hagree (by decide +kernel)

-- two sign extensions in a row can cancel, here because 0xa5 turns the low byte of the
-- offset basis into 0x80
example : HashesAgree [0xa5, 0x80] := ⟨by decide +kernel, by decide +kernel⟩

end DaemonChoir.Kernel

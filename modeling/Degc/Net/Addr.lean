import Degc.Text.Numeral

/-!
# Internet addresses

Addresses of both families with their order, and the blocks of addresses that
share their leading bits.

An IPv4 address is the number of its four octets, an IPv6 address the number of
its eight segments; `ofOctets_octets` and `ofSegments_segments` say that nothing
is lost by cutting an address into these pieces.
-/

namespace Net

/-- An address of either family. -/
inductive IpAddr
  | v4 (a : BitVec 32)
  | v6 (a : BitVec 128)
  deriving DecidableEq, Repr

namespace IpAddr

def isIpv4 : IpAddr → Bool
  | v4 _ => true
  | v6 _ => false

def isIpv6 : IpAddr → Bool
  | v4 _ => false
  | v6 _ => true

/-- The number of bits of an address. -/
def width : IpAddr → ℕ
  | v4 _ => 32
  | v6 _ => 128

/-- The address as a number. -/
def toNat : IpAddr → ℕ
  | v4 a => a.toNat
  | v6 a => a.toNat

/-- The position of an address in the order of all addresses: every IPv4 address comes
before every IPv6 address. -/
def rank : IpAddr → ℕ
  | v4 a => a.toNat
  | v6 a => 2 ^ 32 + a.toNat

lemma rank_injective : Function.Injective rank := by
  rintro (a | a) (b | b) h
  · exact congrArg v4 (BitVec.eq_of_toNat_eq h)
  · have ha := a.isLt
    simp only [rank] at h
    omega
  · have hb := b.isLt
    simp only [rank] at h
    omega
  · simp only [rank, Nat.add_left_cancel_iff] at h
    exact congrArg v6 (BitVec.eq_of_toNat_eq h)

instance : Ord IpAddr := ⟨fun a b => compare a.rank b.rank⟩

lemma compare_def (a b : IpAddr) : compare a b = compare a.rank b.rank := rfl

instance : Std.TransOrd IpAddr where
  eq_swap {a b} := by simpa only [compare_def] using Std.OrientedCmp.eq_swap
  isLE_trans {a b c} := by simpa only [compare_def] using Std.TransCmp.isLE_trans

instance : Std.LawfulEqOrd IpAddr where
  compare_self {a} := by simp only [Std.ReflCmp.compare_self]
  eq_of_compare {a b} h := rank_injective (by simpa only [compare_def, Nat.compare_eq_eq] using h)

@[simp] lemma isIpv6_eq_not (a : IpAddr) : a.isIpv6 = !a.isIpv4 := by cases a <;> rfl

end IpAddr

/-! ### Octets and segments -/

/-- The four octets of an IPv4 address. -/
def octets (a : BitVec 32) : List ℕ :=
  [a.toNat / 2 ^ 24 % 256, a.toNat / 2 ^ 16 % 256, a.toNat / 2 ^ 8 % 256, a.toNat % 256]

/-- The IPv4 address of four octets. -/
def ofOctets (w x y z : ℕ) : BitVec 32 := BitVec.ofNat 32 (((w * 256 + x) * 256 + y) * 256 + z)

/-- The segment of an IPv6 address above its low `16 * i` bits. -/
def segment (a : BitVec 128) (i : ℕ) : ℕ := a.toNat / 2 ^ (16 * i) % 65536

/-- The eight segments of an IPv6 address. -/
def segments (a : BitVec 128) : List ℕ :=
  [segment a 7, segment a 6, segment a 5, segment a 4, segment a 3, segment a 2, segment a 1,
    segment a 0]

/-- The IPv6 address of a list of segments. -/
def ofSegments (ss : List ℕ) : BitVec 128 :=
  BitVec.ofNat 128 (ss.foldl (fun n s => n * 65536 + s) 0)

lemma segments_lt (a : BitVec 128) : ∀ s ∈ segments a, s < 65536 := by
  simp only [segments, List.mem_cons, List.not_mem_nil, or_false]
  rintro s (rfl | rfl | rfl | rfl | rfl | rfl | rfl | rfl) <;> exact Nat.mod_lt _ (by decide)

@[simp] lemma length_segments (a : BitVec 128) : (segments a).length = 8 := rfl

lemma ofOctets_octets (a : BitVec 32) :
    ofOctets (a.toNat / 2 ^ 24 % 256) (a.toNat / 2 ^ 16 % 256) (a.toNat / 2 ^ 8 % 256)
      (a.toNat % 256) = a := by
  have ha := a.isLt
  apply BitVec.eq_of_toNat_eq
  simp only [ofOctets, BitVec.toNat_ofNat]
  omega

/-- A segment behind the number of the bits above it is the number of the bits down to its
last one. -/
lemma div_mul_add_segment (a : BitVec 128) (i : ℕ) :
    a.toNat / 2 ^ (16 * (i + 1)) * 65536 + segment a i = a.toNat / 2 ^ (16 * i) := by
  have hpow : 2 ^ (16 * (i + 1)) = 2 ^ (16 * i) * 65536 := by rw [Nat.mul_succ, Nat.pow_add]
  rw [segment, hpow, ← Nat.div_div_eq_div_mul]
  exact Nat.div_add_mod' _ _

lemma ofSegments_segments (a : BitVec 128) : ofSegments (segments a) = a := by
  have htop : a.toNat / 2 ^ (16 * (7 + 1)) = 0 := Nat.div_eq_of_lt a.isLt
  have h7 := div_mul_add_segment a 7
  rw [htop, Nat.zero_mul, Nat.zero_add] at h7
  apply BitVec.eq_of_toNat_eq
  simp only [ofSegments, segments, List.foldl_cons, List.foldl_nil, Nat.zero_mul, Nat.zero_add,
    BitVec.toNat_ofNat, h7]
  rw [div_mul_add_segment a 6, div_mul_add_segment a 5, div_mul_add_segment a 4,
    div_mul_add_segment a 3, div_mul_add_segment a 2, div_mul_add_segment a 1,
    div_mul_add_segment a 0]
  simpa using a.isLt

/-! ### Blocks of addresses -/

/-- The addresses that agree with `addr` in their first `len` bits. -/
structure Cidr where
  addr : IpAddr
  len : ℕ
  deriving DecidableEq, Repr

namespace Cidr

/-- The block of one address. -/
def single (a : IpAddr) : Cidr := ⟨a, a.width⟩

/-- The block of all IPv4 addresses. -/
def default4 : Cidr := ⟨.v4 0, 0⟩

/-- The block of all IPv6 addresses. -/
def default6 : Cidr := ⟨.v6 0, 0⟩

/-- Whether an address lies in the block. -/
def contains (c : Cidr) (a : IpAddr) : Bool :=
  c.addr.isIpv4 == a.isIpv4 &&
    c.addr.toNat / 2 ^ (c.addr.width - c.len) == a.toNat / 2 ^ (a.width - c.len)

@[simp] lemma contains_default4 (a : BitVec 32) : default4.contains (.v4 a) = true := by
  have ha : a.toNat / 2 ^ 32 = 0 := Nat.div_eq_of_lt a.isLt
  simp only [contains, default4, IpAddr.isIpv4, IpAddr.toNat, IpAddr.width, Nat.sub_zero, ha]
  rfl

/-- A block holds addresses of its own family only. -/
lemma isIpv4_of_contains {c : Cidr} {a : IpAddr} (h : c.contains a = true) :
    c.addr.isIpv4 = a.isIpv4 := by
  simp only [contains, Bool.and_eq_true, beq_iff_eq] at h
  exact h.1

@[simp] lemma contains_single (a b : IpAddr) : (single a).contains b = decide (a = b) := by
  rw [Bool.eq_iff_iff]
  rcases a with a | a <;> rcases b with b | b <;>
    simp [contains, single, IpAddr.isIpv4, IpAddr.toNat, IpAddr.width, BitVec.toNat_inj]

/-- Two blocks have no address in common. -/
def Apart (c d : Cidr) : Prop := ∀ a, c.contains a = true → d.contains a = false

lemma contains_addr (c : Cidr) : c.contains c.addr = true := by
  simp [contains]

lemma width_eq_of_isIpv4 {a b : IpAddr} (h : a.isIpv4 = b.isIpv4) : a.width = b.width := by
  cases a <;> cases b <;> simp_all [IpAddr.isIpv4, IpAddr.width]

/-- A block that has an address in common with a shorter one is inside of it. -/
lemma contains_addr_of_le {c d : Cidr} {a : IpAddr} (h : c.len ≤ d.len)
    (hc : c.contains a = true) (hd : d.contains a = true) : c.contains d.addr = true := by
  simp only [contains, Bool.and_eq_true, beq_iff_eq] at hc hd ⊢
  obtain ⟨hcf, hc⟩ := hc
  obtain ⟨hdf, hd⟩ := hd
  refine ⟨hcf.trans hdf.symm, ?_⟩
  have hwidth := width_eq_of_isIpv4 hdf
  rw [hwidth] at hd ⊢
  -- the shorter prefix is a part of the longer one
  have hexp : a.width - c.len = (a.width - d.len) + (d.len - c.len - (d.len - a.width)) := by omega
  rw [hc, hexp, pow_add, ← Nat.div_div_eq_div_mul, ← Nat.div_div_eq_div_mul, hd]

/-- Two blocks have no address in common exactly when neither contains the address of the other
one. -/
theorem apart_iff {c d : Cidr} :
    Apart c d ↔ c.contains d.addr = false ∧ d.contains c.addr = false := by
  constructor
  · intro h
    refine ⟨?_, h _ (contains_addr c)⟩
    by_contra hin
    have hout := h d.addr (by simpa using hin)
    simp [contains_addr] at hout
  · rintro ⟨hcd, hdc⟩ a hc
    by_contra hd
    rw [Bool.not_eq_false] at hd
    rcases Nat.le_total c.len d.len with hle | hle
    · simp [contains_addr_of_le hle hc hd] at hcd
    · simp [contains_addr_of_le hle hd hc] at hdc

end Cidr

end Net

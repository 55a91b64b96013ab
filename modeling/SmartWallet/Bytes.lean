/-!
# Byte strings

Keys, digests and signatures are byte strings whose length is part of the type. Numbers are
written lowest byte first.
-/

namespace SmartWallet

/-- A byte string of exactly `n` bytes. -/
structure Bytes (n : Nat) where
  toList : List UInt8
  length_toList : toList.length = n
deriving DecidableEq

/-- An account address, a public key or any other 32-byte identifier. -/
abbrev Key := Bytes 32

/-- A compressed P-256 public key. -/
abbrev CompressedKey := Bytes 33

abbrev Signature := Bytes 64

namespace Bytes

variable {n : Nat}

@[ext] theorem ext {a b : Bytes n} (h : a.toList = b.toList) : a = b := by
  cases a; cases b; simp_all

/-- The string that repeats one byte. -/
def replicate (n : Nat) (b : UInt8) : Bytes n := ⟨List.replicate n b, List.length_replicate⟩

instance : Inhabited (Bytes n) := ⟨replicate n 0⟩

/-- The whole list, if it has the right length. -/
def ofList? (n : Nat) (bs : List UInt8) : Option (Bytes n) :=
  if h : bs.length = n then some ⟨bs, h⟩ else none

/-- Splits `n` bytes off the front. -/
def split? (n : Nat) (bs : List UInt8) : Option (Bytes n × List UInt8) :=
  if h : (bs.take n).length = n then some (⟨bs.take n, h⟩, bs.drop n) else none

theorem split?_eq_some_iff {bs rest : List UInt8} {b : Bytes n} :
    split? n bs = some (b, rest) ↔ bs = b.toList ++ rest := by
  unfold split?
  constructor
  · intro h
    split at h
    · cases h
      simp
    · cases h
  · rintro rfl
    have hb := b.length_toList
    have ht : (b.toList ++ rest).take n = b.toList := List.take_left' hb
    have hd : (b.toList ++ rest).drop n = rest := List.drop_left' hb
    simp only [ht, hd, hb, dite_true]

theorem split?_append (b : Bytes n) (rest : List UInt8) :
    split? n (b.toList ++ rest) = some (b, rest) :=
  split?_eq_some_iff.2 rfl

theorem split?_eq_none_iff {bs : List UInt8} : split? n bs = none ↔ bs.length < n := by
  unfold split?
  split
  · next h => simp only [List.length_take] at h; simp; omega
  · next h => simp only [List.length_take] at h; simp; omega

theorem ofList?_toList (b : Bytes n) : ofList? n b.toList = some b := by
  simp [ofList?, b.length_toList]

/-- The order of a dictionary: the first byte that differs decides. -/
def le (a b : Bytes n) : Bool := decide (a.toList ≤ b.toList)

end Bytes

/-- Splits a number of bytes known only at run time off the front. -/
def splitBytes? (n : Nat) (bs : List UInt8) : Option (List UInt8 × List UInt8) :=
  if (bs.take n).length = n then some (bs.take n, bs.drop n) else none

theorem splitBytes?_eq_some_iff {n : Nat} {bs head rest : List UInt8} :
    splitBytes? n bs = some (head, rest) ↔ bs = head ++ rest ∧ head.length = n := by
  unfold splitBytes?
  constructor
  · intro h
    split at h
    · next hn =>
      cases h
      exact ⟨(List.take_append_drop n bs).symm, hn⟩
    · cases h
  · rintro ⟨rfl, hn⟩
    rw [List.take_left' hn, List.drop_left' hn, if_pos hn]

/-- The `k` low bytes of a number, lowest first. -/
def littleEndian : Nat → Nat → List UInt8
  | 0, _ => []
  | k + 1, n => UInt8.ofNat n :: littleEndian k (n / 256)

/-- The number whose bytes, lowest first, are the given ones. -/
def ofLittleEndian : List UInt8 → Nat
  | [] => 0
  | b :: bs => b.toNat + 256 * ofLittleEndian bs

@[simp] theorem length_littleEndian (k n : Nat) : (littleEndian k n).length = k := by
  induction k generalizing n with
  | zero => rfl
  | succ k ih => simp [littleEndian, ih]

theorem littleEndian_ofLittleEndian (bs : List UInt8) :
    littleEndian bs.length (ofLittleEndian bs) = bs := by
  induction bs with
  | nil => rfl
  | cons b bs ih =>
    have hb : b.toNat < 256 := b.toNat_lt
    have h : (b.toNat + 256 * ofLittleEndian bs) / 256 = ofLittleEndian bs := by omega
    rw [List.length_cons, littleEndian, ofLittleEndian, h, ih]
    congr 1
    apply UInt8.toNat_inj.1
    rw [UInt8.toNat_ofNat']
    omega

/-- The two bytes of a 16-bit number. -/
def bytesOfUInt16 (n : UInt16) : List UInt8 := littleEndian 2 n.toNat

/-- The four bytes of a 32-bit number. -/
def bytesOfUInt32 (n : UInt32) : List UInt8 := littleEndian 4 n.toNat

/-- The eight bytes of a 64-bit number. -/
def bytesOfUInt64 (n : UInt64) : List UInt8 := littleEndian 8 n.toNat

namespace Bytes

def toUInt16 (b : Bytes 2) : UInt16 := UInt16.ofNat (ofLittleEndian b.toList)

def toUInt32 (b : Bytes 4) : UInt32 := UInt32.ofNat (ofLittleEndian b.toList)

def toUInt64 (b : Bytes 8) : UInt64 := UInt64.ofNat (ofLittleEndian b.toList)

end Bytes

/-- The bytes of a text in UTF-8. -/
def bytesOfText (s : String) : List UInt8 := s.toUTF8.data.toList

end SmartWallet

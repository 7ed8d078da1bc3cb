import Mathlib.Data.List.Basic

/-! # Integers in memory and on the wire

A host keeps a 16-bit or a 32-bit integer in memory in its own byte order; on the wire the most
significant byte comes first. `htons`, `ntohs`, `htonl` and `ntohl` convert an integer so that
copying it from or to memory gives the wire order, whatever the host (`store16_htons`,
`ntohs_load16`).

Memory is a list of bytes. A read or a write that would leave the block is `none`, so a program over
these operations that returns a value has stayed inside.
-/

/-- The order in which a host keeps the bytes of an integer. -/
inductive ByteOrder where
  | little
  | big
deriving DecidableEq

namespace ByteOrder

/-! ## Words of two bytes -/

/-- The more significant byte. -/
def hi (x : UInt16) : UInt8 := UInt8.ofNat (x.toNat / 256)

/-- The less significant byte. -/
def lo (x : UInt16) : UInt8 := UInt8.ofNat x.toNat

/-- The integer with these two bytes. -/
def word (h l : UInt8) : UInt16 := UInt16.ofNat (h.toNat * 256 + l.toNat)

@[simp] theorem word_hi_lo (x : UInt16) : word (hi x) (lo x) = x := by
  apply UInt16.toNat_inj.mp
  have := x.toNat_lt
  simp only [word, hi, lo, UInt16.toNat_ofNat', UInt8.toNat_ofNat']
  omega

@[simp] theorem hi_word (h l : UInt8) : hi (word h l) = h := by
  apply UInt8.toNat_inj.mp
  have := h.toNat_lt
  have := l.toNat_lt
  simp only [word, hi, UInt16.toNat_ofNat', UInt8.toNat_ofNat']
  omega

@[simp] theorem lo_word (h l : UInt8) : lo (word h l) = l := by
  apply UInt8.toNat_inj.mp
  have := l.toNat_lt
  simp only [word, lo, UInt16.toNat_ofNat', UInt8.toNat_ofNat']
  omega

/-- The two bytes on the wire. -/
def be16 (x : UInt16) : List UInt8 := [hi x, lo x]

/-- The two bytes in the memory of the host. -/
def store16 : ByteOrder → UInt16 → List UInt8
  | little, x => [lo x, hi x]
  | big, x => [hi x, lo x]

/-- The integer the host reads from two bytes of memory. -/
def load16 : ByteOrder → UInt8 → UInt8 → UInt16
  | little, b₀, b₁ => word b₁ b₀
  | big, b₀, b₁ => word b₀ b₁

/-- Host to network order. -/
def htons : ByteOrder → UInt16 → UInt16
  | little, x => word (lo x) (hi x)
  | big, x => x

/-- Network to host order. -/
def ntohs (o : ByteOrder) (x : UInt16) : UInt16 := htons o x

@[simp] theorem length_be16 (x : UInt16) : (be16 x).length = 2 := rfl

@[simp] theorem length_store16 (o : ByteOrder) (x : UInt16) : (store16 o x).length = 2 := by
  cases o <;> rfl

@[simp] theorem store16_htons (o : ByteOrder) (x : UInt16) : store16 o (htons o x) = be16 x := by
  cases o <;> simp [store16, htons, be16]

@[simp] theorem ntohs_load16 (o : ByteOrder) (a b : UInt8) : ntohs o (load16 o a b) = word a b := by
  cases o <;> simp [ntohs, htons, load16]

@[simp] theorem ntohs_htons (o : ByteOrder) (x : UInt16) : ntohs o (htons o x) = x := by
  cases o <;> simp [ntohs, htons]

/-! ## Words of four bytes -/

/-- The integer with these four bytes, the most significant first. -/
def word32 (a b c d : UInt8) : UInt32 :=
  UInt32.ofNat (((a.toNat * 256 + b.toNat) * 256 + c.toNat) * 256 + d.toNat)

/-- The four bytes on the wire. -/
def be32 (x : UInt32) : List UInt8 :=
  [UInt8.ofNat (x.toNat / 16777216), UInt8.ofNat (x.toNat / 65536), UInt8.ofNat (x.toNat / 256),
    UInt8.ofNat x.toNat]

/-- The four bytes in the memory of the host. -/
def store32 : ByteOrder → UInt32 → List UInt8
  | little, x => (be32 x).reverse
  | big, x => be32 x

/-- The integer the host reads from four bytes of memory. -/
def load32 : ByteOrder → UInt8 → UInt8 → UInt8 → UInt8 → UInt32
  | little, a, b, c, d => word32 d c b a
  | big, a, b, c, d => word32 a b c d

/-- Host to network order. -/
def htonl : ByteOrder → UInt32 → UInt32
  | little, x =>
    word32 (UInt8.ofNat x.toNat) (UInt8.ofNat (x.toNat / 256)) (UInt8.ofNat (x.toNat / 65536))
      (UInt8.ofNat (x.toNat / 16777216))
  | big, x => x

/-- The half of the integer in its first two bytes of memory. -/
def firstHalf : ByteOrder → UInt32 → UInt16
  | little, x => UInt16.ofNat x.toNat
  | big, x => UInt16.ofNat (x.toNat / 65536)

/-- Network to host order. -/
def ntohl (o : ByteOrder) (x : UInt32) : UInt32 := htonl o x

theorem word32_be32 (x : UInt32) :
    word32 (UInt8.ofNat (x.toNat / 16777216)) (UInt8.ofNat (x.toNat / 65536))
      (UInt8.ofNat (x.toNat / 256)) (UInt8.ofNat x.toNat) = x := by
  apply UInt32.toNat_inj.mp
  have := x.toNat_lt
  simp only [word32, UInt32.toNat_ofNat', UInt8.toNat_ofNat']
  omega

theorem be32_word32 (a b c d : UInt8) : be32 (word32 a b c d) = [a, b, c, d] := by
  have := a.toNat_lt
  have := b.toNat_lt
  have := c.toNat_lt
  have := d.toNat_lt
  simp only [be32, word32, List.cons.injEq, and_true, ← UInt8.toNat_inj, UInt32.toNat_ofNat',
    UInt8.toNat_ofNat']
  omega

@[simp] theorem length_be32 (x : UInt32) : (be32 x).length = 4 := rfl

@[simp] theorem length_store32 (o : ByteOrder) (x : UInt32) : (store32 o x).length = 4 := by
  cases o <;> rfl

@[simp] theorem store32_htonl (o : ByteOrder) (x : UInt32) : store32 o (htonl o x) = be32 x := by
  cases o with
  | little => rw [store32, htonl, be32_word32]; rfl
  | big => rfl

@[simp] theorem ntohl_load32 (o : ByteOrder) (a b c d : UInt8) :
    ntohl o (load32 o a b c d) = word32 a b c d := by
  cases o with
  | little =>
    -- the bytes of the loaded integer are the four bytes in memory, reversed
    have h := be32_word32 d c b a
    simp only [be32, List.cons.injEq, and_true] at h
    obtain ⟨h₃, h₂, h₁, h₀⟩ := h
    simp only [ntohl, htonl, load32, h₀, h₁, h₂, h₃]
  | big => rfl

/-! ## Memory -/

/-- A block of two bytes, read as an integer. -/
def load16? (o : ByteOrder) : List UInt8 → Option UInt16
  | [a, b] => some (load16 o a b)
  | _ => none

/-- A block of four bytes, read as an integer. -/
def load32? (o : ByteOrder) : List UInt8 → Option UInt32
  | [a, b, c, d] => some (load32 o a b c d)
  | _ => none

/-- Reads `n` bytes from address `i`. -/
def readBytes (mem : List UInt8) (i n : ℕ) : Option (List UInt8) :=
  if i + n ≤ mem.length then some ((mem.drop i).take n) else none

/-- Reads a 16-bit integer from address `i`. -/
def read16 (o : ByteOrder) (mem : List UInt8) (i : ℕ) : Option UInt16 :=
  (readBytes mem i 2).bind (load16? o)

/-- Writes `bs` from address `i` on. -/
def write (mem : List UInt8) (i : ℕ) (bs : List UInt8) : Option (List UInt8) :=
  if i + bs.length ≤ mem.length then some (mem.take i ++ bs ++ mem.drop (i + bs.length)) else none

@[simp] theorem load16?_be16 (o : ByteOrder) (x : UInt16) :
    (load16? o (be16 x)).map (ntohs o) = some x := by
  simp [be16, load16?]

@[simp] theorem load16?_store16 (o : ByteOrder) (x : UInt16) :
    load16? o (store16 o x) = some x := by
  cases o <;> simp [store16, load16?, load16]

theorem store16_inj {o : ByteOrder} {x y : UInt16} : store16 o x = store16 o y ↔ x = y := by
  refine ⟨fun h => ?_, congrArg _⟩
  rw [← Option.some_inj, ← load16?_store16 o x, h, load16?_store16]

/-- An integer has the bytes of the wire in memory exactly if swapping does not change it. -/
theorem store16_eq_be16_iff {o : ByteOrder} {x : UInt16} : store16 o x = be16 x ↔
    htons o x = x := by
  rw [← store16_htons o, store16_inj, eq_comm]

@[simp] theorem load32?_be32 (o : ByteOrder) (x : UInt32) :
    (load32? o (be32 x)).map (ntohl o) = some x := by
  simp only [be32, load32?, Option.map_some, ntohl_load32, word32_be32]

section

variable (pre bs post : List UInt8)

theorem readBytes_append {i n : ℕ} (hi : i = pre.length) (hn : n = bs.length) :
    readBytes (pre ++ (bs ++ post)) i n = some bs := by
  subst hi hn
  simp [readBytes]

/-- A read inside a block does not see what is behind it. -/
theorem readBytes_append_right {mem : List UInt8} (extra : List UInt8) {i n : ℕ}
    (h : i + n ≤ mem.length) : readBytes (mem ++ extra) i n = readBytes mem i n := by
  rw [readBytes, readBytes, if_pos h, if_pos (by rw [List.length_append]; omega),
    List.drop_append_of_le_length (by omega),
    List.take_append_of_le_length (by rw [List.length_drop]; omega)]

theorem read16_append (o : ByteOrder) (a b : UInt8) {i : ℕ} (hi : i = pre.length) :
    read16 o (pre ++ a :: b :: post) i = some (load16 o a b) := by
  have hread : readBytes (pre ++ ([a, b] ++ post)) i 2 = some [a, b] :=
    readBytes_append pre [a, b] post hi rfl
  exact congrArg (Option.bind · (load16? o)) hread

/-- What a host stored it reads back. -/
theorem read16_store16 (o : ByteOrder) (x : UInt16) {i : ℕ} (hi : i = pre.length) :
    read16 o (pre ++ (store16 o x ++ post)) i = some x := by
  rw [read16, readBytes_append pre (store16 o x) post hi (by simp), Option.bind_some,
    load16?_store16]

/-- Two bytes read from where a host stored four. -/
theorem read16_store32 (o : ByteOrder) (x : UInt32) {i : ℕ} (hi : i = pre.length) :
    read16 o (pre ++ (store32 o x ++ post)) i = some (firstHalf o x) := by
  have hx := x.toNat_lt
  cases o with
  | little =>
    have hword : word (UInt8.ofNat (x.toNat / 256)) (UInt8.ofNat x.toNat) = firstHalf little x := by
      simp only [word, firstHalf, ← UInt16.toNat_inj, UInt16.toNat_ofNat', UInt8.toNat_ofNat']
      omega
    rw [← hword]
    exact read16_append pre (_ :: _ :: post) little _ _ hi
  | big =>
    have hword : word (UInt8.ofNat (x.toNat / 16777216)) (UInt8.ofNat (x.toNat / 65536)) =
        firstHalf big x := by
      simp only [word, firstHalf, ← UInt16.toNat_inj, UInt16.toNat_ofNat', UInt8.toNat_ofNat']
      omega
    rw [← hword]
    exact read16_append pre (_ :: _ :: post) big _ _ hi

/-- Bytes in wire order are read as the integer in network order. -/
theorem read16_be16 (o : ByteOrder) (x : UInt16) {i : ℕ} (hi : i = pre.length) :
    read16 o (pre ++ (be16 x ++ post)) i = some (htons o x) := by
  rw [← store16_htons o, read16_store16 pre post o (htons o x) hi]

theorem write_append (bs' : List UInt8) {i : ℕ} (hi : i = pre.length)
    (hn : bs'.length = bs.length) :
    write (pre ++ (bs ++ post)) i bs' = some (pre ++ (bs' ++ post)) := by
  subst hi
  simp [write, hn, List.drop_append]

end

end ByteOrder

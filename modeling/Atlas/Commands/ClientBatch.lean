import Atlas.Commands.Batch

/-! # The command batches of the client

`atlas_cmd_batch_t` is a block of memory and a 16-bit length. `atlas_cmd_batch_add` grows the block
and copies one command behind the others; `atlas_cmd_batch_set_raw` validates a received buffer and
copies it; `atlas_cmd_batch_get` walks the block by pointers, and swaps the header of each command
it returns to host order in place, so that the next step reads the length without a conversion. A
pointer into the block is its offset. Every access is a checked one of `Atlas.Lib.Bytes`: `none` is
a read or a write outside the block.

Reference: `atlas_client/src/commands/atlas_command.c`.
-/

namespace Atlas.Client

open ByteOrder Gateway

/-- `atlas_status_t`, the values the batch functions return. -/
inductive AtlasStatus where
  | ok
  | invalidInput
  | corruptedCommand
deriving DecidableEq

/-- `atlas_cmd_batch_t`. The empty block is the null pointer. -/
structure AtlasCmdBatch where
  length : UInt16
  buf : List UInt8
deriving DecidableEq

/-- `atlas_cmd_batch_new`. -/
def atlasCmdBatchNew : AtlasCmdBatch := ⟨0, []⟩

/-- `realloc`. The bytes of a larger block that were not there before are not specified; zero stands
for them, and the batch overwrites every one. -/
def realloc (mem : List UInt8) (size : ℕ) : List UInt8 :=
  mem.take size ++ List.replicate (size - mem.length) 0

variable (host : ByteOrder)

/-- `atlas_cmd_batch_add`. The new length is a `uint16_t`. -/
def atlasCmdBatchAdd (batch : AtlasCmdBatch) (type length : UInt16) (value : List UInt8) :
    Option AtlasCmdBatch :=
  let newLen := batch.length + 4 + length
  let p := batch.length.toNat
  (readBytes value 0 length.toNat).bind fun value =>
  (write (realloc batch.buf newLen.toNat) (p + 4) value).bind fun buf =>
  (write buf p (store16 host (htons host type))).bind fun buf =>
  (write buf (p + 2) (store16 host (htons host length))).map fun buf =>
  ⟨newLen, buf⟩

/-- A batch built by adding the commands one after the other. -/
def atlasCmdBatchAddAll (batch : AtlasCmdBatch) : List AtlasCommand → Option AtlasCmdBatch
  | [] => some batch
  | cmd :: cmds =>
    (atlasCmdBatchAdd host batch cmd.type cmd.len cmd.val).bind fun batch =>
    atlasCmdBatchAddAll batch cmds

/-- `atlas_cmd_batch_get_buf`: the bytes that are sent. -/
def atlasCmdBatchGetBuf (batch : AtlasCmdBatch) : Option (List UInt8) :=
  readBytes batch.buf 0 batch.length.toNat

/-- The validation loop of `atlas_cmd_batch_set_raw`, with `p` as an offset in the buffer. -/
def validate (buf : List UInt8) : ℕ → (p tmpLen : ℕ) → Option AtlasStatus
  | _, _, 0 => some .ok
  | 0, _, _ + 1 => none
  | fuel + 1, p, tmpLen@(_ + 1) =>
    if tmpLen < 2 then some .corruptedCommand else
    if tmpLen - 2 < 2 then some .corruptedCommand else
    (read16 host buf (p + 2)).bind fun cmdLen =>
    if tmpLen - 4 < (ntohs host cmdLen).toNat then some .corruptedCommand else
    validate buf fuel (p + 4 + (ntohs host cmdLen).toNat)
      (tmpLen - 4 - (ntohs host cmdLen).toNat)

/-- `atlas_cmd_batch_set_raw`. -/
def atlasCmdBatchSetRaw (batch : AtlasCmdBatch) (buf : List UInt8) (len : UInt16) :
    Option (AtlasStatus × AtlasCmdBatch) :=
  if buf = [] ∨ len = 0 then some (.invalidInput, batch) else
  (validate host buf len.toNat 0 len.toNat).bind fun status =>
  if status ≠ .ok then some (status, batch) else
  (readBytes buf 0 len.toNat).map fun copy => (.ok, ⟨len, copy⟩)

/-- The end of `atlas_cmd_batch_get`: the header at `p` is swapped to host order in place. -/
def toHostOrder (batch : AtlasCmdBatch) (p : ℕ) : Option AtlasCmdBatch :=
  (read16 host batch.buf p).bind fun type =>
  (write batch.buf p (store16 host (ntohs host type))).bind fun buf =>
  (read16 host buf (p + 2)).bind fun length =>
  (write buf (p + 2) (store16 host (ntohs host length))).map fun buf =>
  { batch with buf }

/-- `atlas_cmd_batch_get`: the batch afterwards and the next command, or the null pointer. -/
def atlasCmdBatchGet (batch : AtlasCmdBatch) : Option ℕ → Option (AtlasCmdBatch × Option ℕ)
  | none => (toHostOrder host batch 0).map fun batch => (batch, some 0)
  | some p =>
    (read16 host batch.buf (p + 2)).bind fun length =>
    if p + 4 + length.toNat ≥ batch.length.toNat then some (batch, none)
    else (toHostOrder host batch (p + 4 + length.toNat)).map fun batch =>
      (batch, some (p + 4 + length.toNat))

/-- The fields a caller reads from the command at `p`. -/
def readCommand (batch : AtlasCmdBatch) (p : ℕ) : Option AtlasCommand :=
  (read16 host batch.buf p).bind fun type =>
  (read16 host batch.buf (p + 2)).bind fun length =>
  (readBytes batch.buf (p + 4) length.toNat).map fun value => ⟨type, length, value⟩

/-- The callers' loop `cmd = get(batch, NULL); while (cmd) { …; cmd = get(batch, cmd); }`: what the
caller takes from the block at each command, and the batch that is left. -/
def walkFrom {β : Type} (view : AtlasCmdBatch → ℕ → Option β) :
    ℕ → AtlasCmdBatch → Option ℕ → Option (List β × AtlasCmdBatch)
  | 0, _, _ => none
  | fuel + 1, batch, current =>
    (atlasCmdBatchGet host batch current).bind fun
      | (batch, none) => some ([], batch)
      | (batch, some p) =>
        (view batch p).bind fun seen =>
        (walkFrom view fuel batch (some p)).map fun (others, batch) => (seen :: others, batch)

/-- A walk through a batch, from the start to the null pointer. -/
def walkThrough {β : Type} (view : AtlasCmdBatch → ℕ → Option β) (batch : AtlasCmdBatch) :
    Option (List β × AtlasCmdBatch) :=
  walkFrom host view (batch.length.toNat + 1) batch none

/-- What a walk through a batch takes. -/
def walkWith {β : Type} (view : AtlasCmdBatch → ℕ → Option β) (batch : AtlasCmdBatch) :
    Option (List β) :=
  (walkThrough host view batch).map Prod.fst

/-- The commands a walk through a batch sees. -/
def walk (batch : AtlasCmdBatch) : Option (List AtlasCommand) :=
  walkWith host (readCommand host) batch

/-! ## Adding commands -/

/-- A batch that holds exactly these bytes. -/
def AtlasCmdBatch.ofBytes (bs : List UInt8) : AtlasCmdBatch := ⟨UInt16.ofNat bs.length, bs⟩

theorem toNat_length_ofBytes {bs : List UInt8} (h : bs.length ≤ 65535) :
    (AtlasCmdBatch.ofBytes bs).length.toNat = bs.length := by
  simp only [AtlasCmdBatch.ofBytes, UInt16.toNat_ofNat']
  omega

theorem realloc_append (mem : List UInt8) (n : ℕ) :
    realloc mem (mem.length + n) = mem ++ List.replicate n 0 := by
  simp [realloc, List.take_of_length_le]

@[simp] theorem length_realloc (mem : List UInt8) (size : ℕ) :
    (realloc mem size).length = size := by
  simp only [realloc, List.length_append, List.length_take, List.length_replicate]
  omega

theorem getBuf_ofBytes {bs : List UInt8} (h : bs.length ≤ 65535) :
    atlasCmdBatchGetBuf (.ofBytes bs) = some bs := by
  rw [atlasCmdBatchGetBuf, toNat_length_ofBytes h]
  simpa [AtlasCmdBatch.ofBytes] using readBytes_append [] bs [] rfl rfl

/-- While the batch stays below 64 KiB, adding a command writes its record behind the others. -/
theorem atlasCmdBatchAdd_ofRecord (bs : List UInt8) (r : Tlv.Record)
    (h : (bs ++ Tlv.encode r).length ≤ 65535) :
    atlasCmdBatchAdd host (.ofBytes bs) r.tag r.len r.value =
      some (.ofBytes (bs ++ Tlv.encode r)) := by
  have hlen := h
  simp only [List.length_append, Tlv.length_encode] at hlen
  have hp : (AtlasCmdBatch.ofBytes bs).length.toNat = bs.length := toNat_length_ofBytes (by omega)
  have hnew : (AtlasCmdBatch.ofBytes bs).length + 4 + r.len =
      (AtlasCmdBatch.ofBytes (bs ++ Tlv.encode r)).length := by
    apply UInt16.toNat_inj.mp
    rw [toNat_length_ofBytes h]
    simp only [UInt16.toNat_add, hp, Tlv.Record.toNat_len, List.length_append, Tlv.length_encode,
      UInt16.reduceToNat]
    omega
  have hrealloc : realloc bs (bs ++ Tlv.encode r).length =
      (bs ++ [0, 0, 0, 0]) ++ (List.replicate r.value.length 0 ++ []) := by
    rw [List.length_append, Tlv.length_encode, realloc_append, List.replicate_add]
    simp
  -- the value goes behind the header's place, then the type and the length into it
  have hvalue : write ((bs ++ [0, 0, 0, 0]) ++ (List.replicate r.value.length 0 ++ []))
      (bs.length + 4) r.value = some (bs ++ ([0, 0] ++ ([0, 0] ++ r.value))) := by
    rw [write_append _ _ _ r.value (by simp) (by simp)]
    simp
  have htype : write (bs ++ ([0, 0] ++ ([0, 0] ++ r.value))) bs.length (be16 r.tag) =
      some ((bs ++ be16 r.tag) ++ ([0, 0] ++ r.value)) := by
    rw [write_append bs [0, 0] _ (be16 r.tag) rfl rfl, List.append_assoc]
  have hlength : write ((bs ++ be16 r.tag) ++ ([0, 0] ++ r.value)) (bs.length + 2) (be16 r.len) =
      some (bs ++ Tlv.encode r) := by
    rw [write_append (bs ++ be16 r.tag) [0, 0] _ (be16 r.len) (by simp) rfl]
    simp [Tlv.encode, Tlv.Record.header]
  have hread : readBytes r.value 0 r.len.toNat = some r.value := by
    simpa using readBytes_append [] r.value [] rfl (Tlv.Record.toNat_len r)
  simp only [atlasCmdBatchAdd, hnew, hp, toNat_length_ofBytes h, hread, Option.bind_some,
    store16_htons]
  rw [show (AtlasCmdBatch.ofBytes bs).buf = bs from rfl, hrealloc, hvalue, Option.bind_some, htype,
    Option.bind_some, hlength]
  rfl

/-- A batch built from commands below 64 KiB in total holds their records. -/
theorem atlasCmdBatchAddAll_ofRecord (bs : List UInt8) (rs : List Tlv.Record)
    (h : (bs ++ Tlv.encodeAll rs).length ≤ 65535) :
    atlasCmdBatchAddAll host (.ofBytes bs) (rs.map .ofRecord) =
      some (.ofBytes (bs ++ Tlv.encodeAll rs)) := by
  induction rs generalizing bs with
  | nil => simp [atlasCmdBatchAddAll]
  | cons r rs ih =>
    rw [Tlv.encodeAll_cons, ← List.append_assoc] at h ⊢
    have hadd := atlasCmdBatchAdd_ofRecord host bs r (by
      rw [List.length_append] at h
      omega)
    simp only [List.map_cons, atlasCmdBatchAddAll, AtlasCommand.ofRecord, hadd, Option.bind_some]
    exact ih _ h

/-- The bytes of a new batch with these commands. -/
theorem getBuf_addAll_ofRecord {rs : List Tlv.Record} (h : (Tlv.encodeAll rs).length ≤ 65535) :
    ∃ added, atlasCmdBatchAddAll host atlasCmdBatchNew (rs.map .ofRecord) = some added ∧
      added.length = UInt16.ofNat (Tlv.encodeAll rs).length ∧
      atlasCmdBatchGetBuf added = some (Tlv.encodeAll rs) := by
  exact ⟨.ofBytes (Tlv.encodeAll rs), atlasCmdBatchAddAll_ofRecord host [] rs h, rfl,
    getBuf_ofBytes h⟩

theorem bind_getBuf_addAll (rs : List Tlv.Record) (h : (Tlv.encodeAll rs).length ≤ 65535) :
    (atlasCmdBatchAddAll host atlasCmdBatchNew (rs.map .ofRecord)).bind atlasCmdBatchGetBuf =
      some (Tlv.encodeAll rs) := by
  obtain ⟨added, hadd, -, hbuf⟩ := getBuf_addAll_ofRecord host h
  rw [hadd, Option.bind_some, hbuf]

/-! ## Validating a buffer -/

/-- One iteration at a whole record. -/
theorem validate_encode (fuel : ℕ) (pre bs : List UInt8) (r : Tlv.Record) :
    validate host (pre ++ (Tlv.encode r ++ bs)) (fuel + 1) pre.length (Tlv.encode r ++ bs).length =
      validate host (pre ++ (Tlv.encode r ++ bs)) fuel (pre ++ Tlv.encode r).length bs.length := by
  have hlen := read16_append (pre ++ [hi r.tag, lo r.tag]) (r.value ++ bs) host
    (hi r.len) (lo r.len) rfl
  simp only [List.append_assoc, List.cons_append, List.nil_append, List.length_append,
    List.length_cons, List.length_nil, Nat.zero_add] at hlen
  simp only [Tlv.encode_append, List.length_cons, validate, hlen, Option.bind_some, ntohs_load16,
    word_hi_lo, Tlv.Record.toNat_len]
  rw [if_neg (by omega), if_neg (by omega), if_neg (by simp)]
  have hleft : ((r.value ++ bs).length + 3).succ - 4 - r.value.length = bs.length := by
    simp only [List.length_append]
    omega
  rw [Tlv.length_append_encode, hleft]

/-- One iteration at anything but a whole record, or the end. -/
theorem validate_of_decode?_none (fuel : ℕ) (pre : List UInt8) {bs : List UInt8}
    (h : Tlv.decode? bs = none) :
    validate host (pre ++ bs) (fuel + 1) pre.length bs.length =
      some (if bs = [] then .ok else .corruptedCommand) := by
  match bs, h with
  | [], _ => simp [validate]
  | [_], _ => simp [validate]
  | [_, _], _ => simp [validate]
  | [_, _, _], _ => simp [validate]
  | t₁ :: t₀ :: l₁ :: l₀ :: bs, h =>
    have hfit : ¬ (word l₁ l₀).toNat ≤ bs.length := fun hle => by simp [Tlv.decode?, hle] at h
    have hlen := read16_append (pre ++ [t₁, t₀]) bs host l₁ l₀ rfl
    simp only [List.append_assoc, List.cons_append, List.nil_append, List.length_append,
      List.length_cons, List.length_nil, Nat.zero_add] at hlen
    simp only [validate, List.length_cons, hlen, Option.bind_some, ntohs_load16]
    rw [if_neg (by omega), if_neg (by omega), if_pos (by omega)]
    rfl

/-- The loop ends, reads inside the buffer only, and accepts exactly when whole records are left. -/
theorem validate_append {fuel : ℕ} (pre bs : List UInt8) (h : bs.length ≤ fuel) :
    validate host (pre ++ bs) fuel pre.length bs.length =
      some (if Tlv.rest bs = [] then .ok else .corruptedCommand) := by
  induction fuel generalizing pre bs with
  | zero =>
    obtain rfl : bs = [] := List.length_eq_zero_iff.mp (Nat.le_zero.mp h)
    simp [validate, Tlv.rest]
  | succ fuel ih =>
    cases hd : Tlv.decode? bs with
    | none => rw [validate_of_decode?_none host fuel pre hd, Tlv.rest_of_decode?_none hd]
    | some p =>
      obtain ⟨r, bs'⟩ := p
      obtain rfl := Tlv.eq_encode_of_decode? hd
      simp only [List.length_append, Tlv.length_encode] at h
      rw [validate_encode, ← List.append_assoc, ih _ _ (by omega), Tlv.rest_encode_append]

/-- A buffer with bytes passes the test `!buf || !buf_len`. -/
theorem not_empty_buf {buf : List UInt8} (h₁ : 1 ≤ buf.length) (h₂ : buf.length ≤ 65535) :
    ¬ (buf = [] ∨ UInt16.ofNat buf.length = 0) := by
  rintro (hnil | hzero)
  · exact List.ne_nil_of_length_pos h₁ hnil
  · have hlen := toNat_length_ofBytes h₂
    rw [AtlasCmdBatch.ofBytes, hzero, UInt16.toNat_zero] at hlen
    omega

/-- `atlas_cmd_batch_set_raw` copies a buffer of whole records, and refuses any other without
touching the batch. -/
theorem atlasCmdBatchSetRaw_eq (batch : AtlasCmdBatch) {buf : List UInt8} (h₁ : 1 ≤ buf.length)
    (h₂ : buf.length ≤ 65535) :
    atlasCmdBatchSetRaw host batch buf (UInt16.ofNat buf.length) =
      some (if Tlv.rest buf = [] then (.ok, .ofBytes buf) else (.corruptedCommand, batch)) := by
  have hlen : (UInt16.ofNat buf.length).toNat = buf.length := toNat_length_ofBytes h₂
  have hvalid := validate_append host [] buf (Nat.le_refl _)
  have hcopy : readBytes buf 0 buf.length = some buf := by
    simpa using readBytes_append [] buf [] rfl rfl
  rw [List.nil_append, List.length_nil] at hvalid
  rw [atlasCmdBatchSetRaw, if_neg (not_empty_buf h₁ h₂), hlen, hvalid, Option.bind_some]
  by_cases hrest : Tlv.rest buf = []
  · simp [hrest, hcopy, AtlasCmdBatch.ofBytes]
  · simp [hrest]

/-! ## Walking a batch

The walk stands at a command whose header, like those before it, is in host order; the records
behind it are still in network order. -/

/-- A record with its header in host order. -/
def hostRecord (r : Tlv.Record) : List UInt8 := store16 host r.tag ++ store16 host r.len ++ r.value

@[simp] theorem length_hostRecord (r : Tlv.Record) :
    (hostRecord host r).length = 4 + r.value.length := by
  simp only [hostRecord, List.length_append, length_store16]

/-- The header of a record, swapped in place. -/
theorem toHostOrder_encode (length : UInt16) (pre post : List UInt8) (r : Tlv.Record) :
    toHostOrder host ⟨length, pre ++ (Tlv.encode r ++ post)⟩ pre.length =
      some ⟨length, pre ++ (hostRecord host r ++ post)⟩ := by
  have hbuf : pre ++ (Tlv.encode r ++ post) =
      pre ++ (be16 r.tag ++ (be16 r.len ++ (r.value ++ post))) := rfl
  have hswap : write (pre ++ (be16 r.tag ++ (be16 r.len ++ (r.value ++ post)))) pre.length
      (store16 host r.tag) =
        some ((pre ++ store16 host r.tag) ++ (be16 r.len ++ (r.value ++ post))) := by
    rw [write_append pre (be16 r.tag) _ _ rfl (by simp), List.append_assoc]
  have hlen := read16_be16 (pre ++ store16 host r.tag) (r.value ++ post) host r.len
    (i := pre.length + 2) (by simp)
  have hswap' : write ((pre ++ store16 host r.tag) ++ (be16 r.len ++ (r.value ++ post)))
      (pre.length + 2) (store16 host r.len) = some (pre ++ (hostRecord host r ++ post)) := by
    rw [write_append (pre ++ store16 host r.tag) (be16 r.len) _ _ (by simp) (by simp)]
    simp [hostRecord]
  simp only [toHostOrder, hbuf, read16_be16 pre _ host r.tag rfl, Option.bind_some, ntohs_htons,
    hswap, hlen, hswap', Option.map_some]

theorem read16_len_hostRecord (pre post : List UInt8) (r : Tlv.Record) :
    read16 host (pre ++ (hostRecord host r ++ post)) (pre.length + 2) = some r.len := by
  simpa [hostRecord] using read16_store16 (pre ++ store16 host r.tag) (r.value ++ post) host r.len
    (i := pre.length + 2) (by simp)

/-- The caller sees the command of the record. -/
theorem readCommand_hostRecord (length : UInt16) (pre post : List UInt8) (r : Tlv.Record) :
    readCommand host ⟨length, pre ++ (hostRecord host r ++ post)⟩ pre.length =
      some (.ofRecord r) := by
  have htype : read16 host (pre ++ (hostRecord host r ++ post)) pre.length = some r.tag := by
    simpa [hostRecord] using read16_store16 pre (store16 host r.len ++ (r.value ++ post)) host r.tag
      rfl
  have hvalue : readBytes (pre ++ (hostRecord host r ++ post)) (pre.length + 4) r.len.toNat =
      some r.value := by
    simpa [hostRecord] using readBytes_append (pre ++ store16 host r.tag ++ store16 host r.len)
      r.value post (i := pre.length + 4) (by simp) (Tlv.Record.toNat_len r)
  simp only [readCommand, htype, read16_len_hostRecord, hvalue, Option.bind_some, Option.map_some,
    AtlasCommand.ofRecord]

/-- The records with their headers in host order. -/
def hostRecords (rs : List Tlv.Record) : List UInt8 := rs.flatMap (hostRecord host)

@[simp] theorem hostRecords_nil : hostRecords host [] = [] := rfl

@[simp] theorem hostRecords_cons (r : Tlv.Record) (rs : List Tlv.Record) :
    hostRecords host (r :: rs) = hostRecord host r ++ hostRecords host rs := rfl

/-- The first command. -/
theorem atlasCmdBatchGet_start (length : UInt16) (r : Tlv.Record) (rs : List Tlv.Record) :
    atlasCmdBatchGet host ⟨length, Tlv.encodeAll (r :: rs)⟩ none =
      some (⟨length, [] ++ (hostRecord host r ++ Tlv.encodeAll rs)⟩,
        some ([] : List UInt8).length) :=
  congrArg (Option.map _) (toHostOrder_encode host length [] (Tlv.encodeAll rs) r)

/-- Behind the last command is the null pointer. -/
theorem atlasCmdBatchGet_last {length : UInt16} (pre : List UInt8) (r : Tlv.Record)
    (hlength : length.toNat = (pre ++ (hostRecord host r ++ Tlv.encodeAll [])).length) :
    atlasCmdBatchGet host ⟨length, pre ++ (hostRecord host r ++ Tlv.encodeAll [])⟩
        (some pre.length) =
      some (⟨length, pre ++ (hostRecord host r ++ Tlv.encodeAll [])⟩, none) := by
  simp only [List.length_append, length_hostRecord, Tlv.encodeAll_nil, List.length_nil] at hlength
  simp only [atlasCmdBatchGet, read16_len_hostRecord, Option.bind_some, Tlv.Record.toNat_len]
  rw [if_pos (by omega)]

/-- Behind any other command is the next one. -/
theorem atlasCmdBatchGet_next {length : UInt16} (pre : List UInt8) (r r' : Tlv.Record)
    (rs : List Tlv.Record)
    (hlength : length.toNat = (pre ++ (hostRecord host r ++ Tlv.encodeAll (r' :: rs))).length) :
    atlasCmdBatchGet host ⟨length, pre ++ (hostRecord host r ++ Tlv.encodeAll (r' :: rs))⟩
        (some pre.length) =
      some (⟨length, (pre ++ hostRecord host r) ++ (hostRecord host r' ++ Tlv.encodeAll rs)⟩,
        some (pre ++ hostRecord host r).length) := by
  have hnext : pre.length + 4 + r.value.length = (pre ++ hostRecord host r).length := by
    simp only [List.length_append, length_hostRecord]
    omega
  have hbuf : pre ++ (hostRecord host r ++ Tlv.encodeAll (r' :: rs)) =
      (pre ++ hostRecord host r) ++ (Tlv.encode r' ++ Tlv.encodeAll rs) := by simp
  simp only [atlasCmdBatchGet, read16_len_hostRecord, Option.bind_some, Tlv.Record.toNat_len, hnext]
  rw [if_neg, hbuf, toHostOrder_encode]
  · rfl
  · simp only [hlength, Tlv.encodeAll_cons, List.length_append, length_hostRecord,
      Tlv.length_encode]
    omega

/-- What a walk through these records sees of them, given what it sees of a record in front of the
bytes of the others. -/
def visited {β : Type} (f : Tlv.Record → List UInt8 → β) : List Tlv.Record → List β
  | [] => []
  | r :: rs => f r (Tlv.encodeAll rs) :: visited f rs

theorem visited_eq_map {β : Type} (f : Tlv.Record → β) (rs : List Tlv.Record) :
    visited (fun r _ => f r) rs = rs.map f := by
  induction rs with
  | nil => rfl
  | cons r rs ih => rw [visited, ih, List.map_cons]

section

variable {β : Type} {view : AtlasCmdBatch → ℕ → Option β} {f : Tlv.Record → List UInt8 → β}
  (hview : ∀ length pre post r, view ⟨length, pre ++ (hostRecord host r ++ post)⟩ pre.length =
    some (f r post))

include hview

/-- From a command on, the walk sees the records behind it and swaps their headers. -/
theorem walkFrom_hostRecord {length : UInt16} {fuel : ℕ} (pre : List UInt8) (r : Tlv.Record)
    (rs : List Tlv.Record) (hfuel : rs.length < fuel)
    (hlength : length.toNat = (pre ++ (hostRecord host r ++ Tlv.encodeAll rs)).length) :
    walkFrom host view fuel ⟨length, pre ++ (hostRecord host r ++ Tlv.encodeAll rs)⟩
        (some pre.length) =
      some (visited f rs, ⟨length, pre ++ hostRecords host (r :: rs)⟩) := by
  induction rs generalizing pre r fuel with
  | nil =>
    obtain ⟨fuel, rfl⟩ : ∃ n, fuel = n + 1 := ⟨fuel - 1, by omega⟩
    simp only [walkFrom, atlasCmdBatchGet_last host pre r hlength, Option.bind_some, visited]
    rfl
  | cons r' rs ih =>
    obtain ⟨fuel, rfl⟩ : ∃ n, fuel = n + 1 := ⟨fuel - 1, by omega⟩
    have hlength' : length.toNat =
        ((pre ++ hostRecord host r) ++ (hostRecord host r' ++ Tlv.encodeAll rs)).length := by
      simp only [hlength, Tlv.encodeAll_cons, List.length_append, length_hostRecord,
        Tlv.length_encode]
      omega
    simp only [walkFrom, atlasCmdBatchGet_next host pre r r' rs hlength, Option.bind_some,
      hview, ih (pre ++ hostRecord host r) r' (by simpa using hfuel) hlength', Option.map_some,
      visited]
    rw [List.append_assoc, ← hostRecords_cons]

/-- The first walk through a batch of records sees all of them, and leaves their headers in host
order. -/
theorem walkThrough_encodeAll {rs : List Tlv.Record} (hne : rs ≠ [])
    (h : (Tlv.encodeAll rs).length ≤ 65535) :
    walkThrough host view (.ofBytes (Tlv.encodeAll rs)) =
      some (visited f rs, ⟨UInt16.ofNat (Tlv.encodeAll rs).length, hostRecords host rs⟩) := by
  obtain ⟨r, rs, rfl⟩ := List.exists_cons_of_ne_nil hne
  have hlength := toNat_length_ofBytes h
  have hfuel : rs.length < (Tlv.encodeAll (r :: rs)).length := by
    have := Tlv.length_le_length_encodeAll (r :: rs)
    simp only [List.length_cons] at this
    omega
  have hrest := walkFrom_hostRecord host hview [] r rs hfuel (hlength.trans (by simp))
  rw [AtlasCmdBatch.ofBytes] at hrest
  rw [walkThrough, hlength]
  simp only [walkFrom, AtlasCmdBatch.ofBytes, atlasCmdBatchGet_start, Option.bind_some, hview,
    hrest, Option.map_some, visited]
  rfl

/-- The first walk through a batch of records sees all of them. -/
theorem walkWith_encodeAll {rs : List Tlv.Record} (hne : rs ≠ [])
    (h : (Tlv.encodeAll rs).length ≤ 65535) :
    walkWith host view (.ofBytes (Tlv.encodeAll rs)) = some (visited f rs) := by
  rw [walkWith, walkThrough_encodeAll host hview hne h, Option.map_some]

/-- The first walk through a batch with the bytes of a buffer that was accepted. -/
theorem walkWith_ofBytes {buf : List UInt8} (h₁ : 1 ≤ buf.length) (h₂ : buf.length ≤ 65535)
    (hrest : Tlv.rest buf = []) :
    walkWith host view (.ofBytes buf) = some (visited f (Tlv.parse buf)) := by
  obtain ⟨rs, rfl⟩ := Tlv.rest_eq_nil_iff.mp hrest
  have hne : rs ≠ [] := by
    rintro rfl
    exact absurd h₁ (by decide)
  rw [Tlv.parse_encodeAll, walkWith_encodeAll host hview hne h₂]

end

/-- The first walk through a batch of records sees their commands. -/
theorem walk_encodeAll {rs : List Tlv.Record} (hne : rs ≠ [])
    (h : (Tlv.encodeAll rs).length ≤ 65535) :
    walk host (.ofBytes (Tlv.encodeAll rs)) = some (rs.map .ofRecord) := by
  rw [walk, walkWith_encodeAll host
    (fun length pre post r => readCommand_hostRecord host length pre post r) hne h, visited_eq_map]

/-- The commands of a buffer that was accepted. -/
theorem walk_ofBytes {buf : List UInt8} (h₁ : 1 ≤ buf.length) (h₂ : buf.length ≤ 65535)
    (hrest : Tlv.rest buf = []) :
    walk host (.ofBytes buf) = some ((Tlv.parse buf).map .ofRecord) := by
  rw [walk, walkWith_ofBytes host
    (fun length pre post r => readCommand_hostRecord host length pre post r) h₁ h₂ hrest,
    visited_eq_map]

theorem length_encodeAll_pos {rs : List Tlv.Record} (h : rs ≠ []) :
    1 ≤ (Tlv.encodeAll rs).length := by
  have := Tlv.length_le_length_encodeAll rs
  have := List.length_pos_iff.mpr h
  omega

/-- A received buffer of whole records is accepted, and walked through record by record. -/
theorem walk_setRaw_encodeAll (batch : AtlasCmdBatch) {rs : List Tlv.Record} (hne : rs ≠ [])
    (h : (Tlv.encodeAll rs).length ≤ 65535) :
    ∃ parsed, atlasCmdBatchSetRaw host batch (Tlv.encodeAll rs)
        (UInt16.ofNat (Tlv.encodeAll rs).length) = some (.ok, parsed) ∧
      walk host parsed = some (rs.map .ofRecord) := by
  refine ⟨.ofBytes (Tlv.encodeAll rs), ?_, walk_encodeAll host hne h⟩
  rw [atlasCmdBatchSetRaw_eq host batch (length_encodeAll_pos hne) h,
    if_pos (Tlv.rest_eq_nil_iff.mpr ⟨rs, rfl⟩)]

/-- The commands of a received buffer, or the status of the parser. -/
def receivedCommands (buf : List UInt8) : Option (Except AtlasStatus (List AtlasCommand)) :=
  (atlasCmdBatchSetRaw host atlasCmdBatchNew buf (UInt16.ofNat buf.length)).bind fun
    | (status, batch) =>
      if status ≠ .ok then some (.error .corruptedCommand) else (walk host batch).map .ok

/-- A buffer of whole records is walked through; any other is corrupted. -/
theorem receivedCommands_eq {buf : List UInt8} (h₁ : 1 ≤ buf.length) (h₂ : buf.length ≤ 65535) :
    receivedCommands host buf =
      some (if Tlv.rest buf = [] then .ok ((Tlv.parse buf).map .ofRecord)
        else .error .corruptedCommand) := by
  rw [receivedCommands, atlasCmdBatchSetRaw_eq host _ h₁ h₂, Option.bind_some]
  by_cases hrest : Tlv.rest buf = []
  · simp [hrest, walk_ofBytes host h₁ h₂ hrest]
  · simp [hrest]

/-! ## The two codecs against each other -/

/-- Commands that fit in 64 KiB together survive the way from the client to the gateway and the way
back, between hosts of any byte order. -/
theorem batch_round_trip (client gateway : ByteOrder) (batch : AtlasCmdBatch)
    (batch' : AtlasCommandBatch) (rs : List Tlv.Record) (hne : rs ≠ [])
    (hsize : (Tlv.encodeAll rs).length ≤ 65535) :
    (∃ added buf, atlasCmdBatchAddAll client atlasCmdBatchNew (rs.map .ofRecord) = some added ∧
      atlasCmdBatchGetBuf added = some buf ∧
      (AtlasCommandBatch.setRawCommands gateway batch' buf).map (·.parsedCmd) =
        some (rs.map .ofRecord)) ∧
    ∃ buf parsed, AtlasCommandBatch.getSerializedAddedCommands gateway
        ((rs.map .ofRecord).foldl AtlasCommandBatch.addCommand {}) = buf ∧
      atlasCmdBatchSetRaw client batch buf (UInt16.ofNat buf.length) = some (.ok, parsed) ∧
      walk client parsed = some (rs.map .ofRecord) := by
  constructor
  · obtain ⟨added, hadd, -, hbuf⟩ := getBuf_addAll_ofRecord client hsize
    refine ⟨added, Tlv.encodeAll rs, hadd, hbuf, ?_⟩
    have hne' := List.ne_nil_of_length_pos (length_encodeAll_pos hne)
    rw [AtlasCommandBatch.setRawCommands_eq gateway batch' hne']
    simp
  · obtain ⟨parsed, hset, hwalk⟩ := walk_setRaw_encodeAll client batch hne hsize
    refine ⟨Tlv.encodeAll rs, parsed, ?_, hset, hwalk⟩
    rw [AtlasCommandBatch.foldl_addCommand, List.nil_append]
    exact AtlasCommandBatch.getSerializedAddedCommands_ofRecord gateway rs []

/-- A little-endian client and a big-endian gateway exchange an empty command and one with two
bytes. -/
theorem batch_round_trip_two :
    (∃ added buf, atlasCmdBatchAddAll .little atlasCmdBatchNew
        [⟨1000, 0, []⟩, ⟨1100, 2, [1, 0]⟩] = some added ∧
      atlasCmdBatchGetBuf added = some buf ∧
      (AtlasCommandBatch.setRawCommands .big {} buf).map (·.parsedCmd) =
        some [⟨1000, 0, []⟩, ⟨1100, 2, [1, 0]⟩]) ∧
    ∃ buf parsed, AtlasCommandBatch.getSerializedAddedCommands .big
        ([⟨1000, 0, []⟩, ⟨1100, 2, [1, 0]⟩].foldl AtlasCommandBatch.addCommand {}) = buf ∧
      atlasCmdBatchSetRaw .little atlasCmdBatchNew buf (UInt16.ofNat buf.length) =
        some (.ok, parsed) ∧
      walk .little parsed = some [⟨1000, 0, []⟩, ⟨1100, 2, [1, 0]⟩] :=
  batch_round_trip .little .big atlasCmdBatchNew {}
    [⟨1000, [], by decide⟩, ⟨1100, [1, 0], by decide⟩] (by decide) (by decide)

/-- On every buffer of at most 64 KiB the two parsers stay inside it. The client accepts exactly the
concatenations of whole records, and then walks through the commands the gateway parses; it refuses
any other buffer and keeps its batch, where the gateway parses the longest list of whole records the
buffer starts with. -/
theorem parsers_agree (client gateway : ByteOrder) (batch : AtlasCmdBatch)
    (batch' : AtlasCommandBatch) (buf : List UInt8) (hpos : 1 ≤ buf.length)
    (hsize : buf.length ≤ 65535) :
    ∃ status after parsed,
      atlasCmdBatchSetRaw client batch buf (UInt16.ofNat buf.length) = some (status, after) ∧
      AtlasCommandBatch.setRawCommands gateway batch' buf = some parsed ∧
      (status = .ok ↔ ∃ rs, buf = Tlv.encodeAll rs) ∧
      (status = .ok → walk client after = some parsed.parsedCmd) ∧
      (status ≠ .ok → status = .corruptedCommand ∧ after = batch ∧
        ∃ rs tail, buf = Tlv.encodeAll rs ++ tail ∧
          (∀ rs' tail', buf = Tlv.encodeAll rs' ++ tail' → rs' <+: rs) ∧
          parsed.parsedCmd = rs.map .ofRecord) := by
  have hgateway := AtlasCommandBatch.setRawCommands_eq gateway batch'
    (List.ne_nil_of_length_pos hpos)
  have hclient := atlasCmdBatchSetRaw_eq client batch hpos hsize
  by_cases hrest : Tlv.rest buf = []
  · obtain ⟨rs, rfl⟩ := Tlv.rest_eq_nil_iff.mp hrest
    have hne : rs ≠ [] := by
      rintro rfl
      exact absurd hpos (by simp)
    rw [if_pos hrest] at hclient
    refine ⟨_, _, _, hclient, hgateway, iff_of_true rfl ⟨rs, rfl⟩, fun _ => ?_,
      fun h => absurd rfl h⟩
    rw [walk_encodeAll client hne hsize, Tlv.parse_encodeAll]
  · rw [if_neg hrest] at hclient
    refine ⟨_, _, _, hclient, hgateway, iff_of_false (by decide) (hrest ∘ Tlv.rest_eq_nil_iff.mpr),
      fun h => absurd h (by decide), fun _ => ⟨rfl, rfl, Tlv.parse buf, Tlv.rest buf, ?_, ?_, rfl⟩⟩
    · exact (Tlv.encodeAll_parse_append_rest buf).symm
    · exact fun _ _ => Tlv.prefix_parse

/-- A buffer cut off inside its second record. -/
theorem parsers_agree_truncated :
    ∃ status after parsed,
      atlasCmdBatchSetRaw .little atlasCmdBatchNew [4, 76, 0, 1, 7, 4, 77, 0]
        (UInt16.ofNat ([4, 76, 0, 1, 7, 4, 77, 0] : List UInt8).length) = some (status, after) ∧
      AtlasCommandBatch.setRawCommands .little {} [4, 76, 0, 1, 7, 4, 77, 0] = some parsed ∧
      (status = .ok ↔ ∃ rs, [4, 76, 0, 1, 7, 4, 77, 0] = Tlv.encodeAll rs) ∧
      (status = .ok → walk .little after = some parsed.parsedCmd) ∧
      (status ≠ .ok → status = .corruptedCommand ∧ after = atlasCmdBatchNew ∧
        ∃ rs tail, [4, 76, 0, 1, 7, 4, 77, 0] = Tlv.encodeAll rs ++ tail ∧
          (∀ rs' tail', [4, 76, 0, 1, 7, 4, 77, 0] = Tlv.encodeAll rs' ++ tail' → rs' <+: rs) ∧
          parsed.parsedCmd = rs.map .ofRecord) :=
  parsers_agree .little .little atlasCmdBatchNew {} [4, 76, 0, 1, 7, 4, 77, 0] (by decide)
    (by decide)

end Atlas.Client

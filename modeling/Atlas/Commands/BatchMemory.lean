import Atlas.Commands.ClientBatch

/-! # The memory of a batch

Two facts about the block behind `atlas_cmd_batch_t`. Adding commands keeps the length field, the
size of the block and the place of every write together as long as the batch stays below 64 KiB; the
first command beyond that is written outside of the block, since the new size is computed in 16 bits
(`atlasCmdBatchAdd_beyond`). Walking through a batch leaves the headers in host order, so a second
walk starts from other bytes than the first, unless the headers read the same in both orders.

Reference: `atlas_client/src/commands/atlas_command.c`.
-/

namespace Atlas.Client

open ByteOrder Gateway

variable (host : ByteOrder)

/-! ## Lengths -/

/-- The bytes the commands take in a batch. -/
def batchSize : List AtlasCommand → ℕ
  | [] => 0
  | cmd :: cmds => 4 + cmd.len.toNat + batchSize cmds

/-- The value has the bytes that its length announces. -/
def Readable (cmd : AtlasCommand) : Prop := cmd.len.toNat ≤ cmd.val.length

instance : DecidablePred Readable := fun cmd =>
  inferInstanceAs (Decidable (cmd.len.toNat ≤ cmd.val.length))

/-- After each of the calls, all writes were inside of the block, and the length field and the size
of the block are the size of the commands so far. -/
def LengthsKept (cmds : List AtlasCommand) : Prop :=
  ∀ front, front <+: cmds → ∃ batch,
    atlasCmdBatchAddAll host atlasCmdBatchNew front = some batch ∧
    batch.length.toNat = batchSize front ∧ batch.buf.length = batchSize front

theorem length_take_len (cmd : AtlasCommand) :
    (cmd.val.take cmd.len.toNat).length < 65536 := by
  have := cmd.len.toNat_lt
  rw [List.length_take]
  omega

/-- The record that is written for a command. -/
def recordOf (cmd : AtlasCommand) : Tlv.Record :=
  ⟨cmd.type, cmd.val.take cmd.len.toNat, length_take_len cmd⟩

theorem len_recordOf {cmd : AtlasCommand} (h : Readable cmd) : (recordOf cmd).len = cmd.len := by
  rw [← UInt16.toNat_inj, Tlv.Record.toNat_len, recordOf, List.length_take, Nat.min_eq_left h]

theorem length_encode_recordOf {cmd : AtlasCommand} (h : Readable cmd) :
    (Tlv.encode (recordOf cmd)).length = 4 + cmd.len.toNat := by
  rw [Tlv.length_encode, ← Tlv.Record.toNat_len, len_recordOf h]

theorem length_encodeAll_recordOf {cmds : List AtlasCommand} (h : ∀ cmd ∈ cmds, Readable cmd) :
    (Tlv.encodeAll (cmds.map recordOf)).length = batchSize cmds := by
  induction cmds with
  | nil => rfl
  | cons cmd cmds ih =>
    rw [List.forall_mem_cons] at h
    rw [List.map_cons, Tlv.encodeAll_cons, List.length_append, length_encode_recordOf h.1, ih h.2,
      batchSize]

/-- Only the bytes up to the length are read from a value. -/
theorem atlasCmdBatchAdd_recordOf (batch : AtlasCmdBatch) {cmd : AtlasCommand} (h : Readable cmd) :
    atlasCmdBatchAdd host batch cmd.type cmd.len cmd.val =
      atlasCmdBatchAdd host batch (recordOf cmd).tag (recordOf cmd).len (recordOf cmd).value := by
  have hread : readBytes cmd.val 0 cmd.len.toNat =
      readBytes (cmd.val.take cmd.len.toNat) 0 cmd.len.toNat := by
    have hsame : (cmd.val.take cmd.len.toNat).length = cmd.len.toNat := by
      rw [List.length_take, Nat.min_eq_left h]
    rw [readBytes, readBytes, if_pos (by rw [Readable] at h; omega), if_pos (by omega),
      List.drop_zero, List.drop_zero, List.take_take, Nat.min_self]
  rw [len_recordOf h, atlasCmdBatchAdd, atlasCmdBatchAdd, hread]
  rfl

/-- A command that does not fit below 64 KiB is written outside of the block. -/
theorem atlasCmdBatchAdd_beyond {bs : List UInt8} {cmd : AtlasCommand} (hbs : bs.length ≤ 65535)
    (h : 65535 < bs.length + (4 + cmd.len.toNat)) :
    atlasCmdBatchAdd host (.ofBytes bs) cmd.type cmd.len cmd.val = none := by
  have hp := toNat_length_ofBytes hbs
  have hlen := cmd.len.toNat_lt
  have hnew : ((AtlasCmdBatch.ofBytes bs).length + 4 + cmd.len).toNat =
      (bs.length + 4 + cmd.len.toNat) % 65536 := by
    simp only [UInt16.toNat_add, hp, UInt16.reduceToNat]
    omega
  rw [atlasCmdBatchAdd]
  cases hread : readBytes cmd.val 0 cmd.len.toNat with
  | none => rfl
  | some value =>
    have hvalue : value.length = cmd.len.toNat := by
      rw [readBytes] at hread
      split at hread
      case isFalse => cases hread
      case isTrue hle =>
        cases hread
        rw [List.length_take, List.drop_zero]
        omega
    have hout : write (realloc (AtlasCmdBatch.ofBytes bs).buf
        ((AtlasCmdBatch.ofBytes bs).length + 4 + cmd.len).toNat)
        ((AtlasCmdBatch.ofBytes bs).length.toNat + 4) value = none := by
      rw [write, if_neg]
      rw [length_realloc, hnew, hp, hvalue]
      omega
    rw [Option.bind_some, hout, Option.bind_none]

/-- Adding commands stays inside of the block exactly below 64 KiB, and the batch then holds their
records. -/
theorem atlasCmdBatchAddAll_readable (bs : List UInt8) {cmds : List AtlasCommand}
    (hbs : bs.length ≤ 65535) (h : ∀ cmd ∈ cmds, Readable cmd) :
    atlasCmdBatchAddAll host (.ofBytes bs) cmds =
      if bs.length + batchSize cmds ≤ 65535 then
        some (.ofBytes (bs ++ Tlv.encodeAll (cmds.map recordOf)))
      else none := by
  induction cmds generalizing bs with
  | nil => simp [atlasCmdBatchAddAll, batchSize, hbs]
  | cons cmd cmds ih =>
    rw [List.forall_mem_cons] at h
    have hrecord := length_encode_recordOf h.1
    rw [atlasCmdBatchAddAll, batchSize]
    by_cases hfits : bs.length + (4 + cmd.len.toNat) ≤ 65535
    · have hlength :
          (bs ++ Tlv.encode (recordOf cmd)).length = bs.length + (4 + cmd.len.toNat) := by
        rw [List.length_append, hrecord]
      rw [atlasCmdBatchAdd_recordOf host _ h.1, atlasCmdBatchAdd_ofRecord host bs _ (by omega),
        Option.bind_some, ih _ (by omega) h.2, hlength, Nat.add_assoc bs.length, List.map_cons,
        Tlv.encodeAll_cons, List.append_assoc]
    · rw [atlasCmdBatchAdd_beyond host hbs (by omega), if_neg (by omega), Option.bind_none]

theorem batchSize_append (front back : List AtlasCommand) :
    batchSize (front ++ back) = batchSize front + batchSize back := by
  induction front with
  | nil => rw [List.nil_append, batchSize, Nat.zero_add]
  | cons cmd front ih => rw [List.cons_append, batchSize, batchSize, ih, ← Nat.add_assoc]

/-- On a fresh batch the length is the size of the commands and every write is inside of the block
exactly if the commands take at most 65535 bytes together. -/
theorem lengthsKept_iff (cmds : List AtlasCommand) (h : ∀ cmd ∈ cmds, Readable cmd) :
    LengthsKept host cmds ↔ batchSize cmds ≤ 65535 := by
  constructor
  · intro hkept
    obtain ⟨batch, -, hlength, -⟩ := hkept cmds List.prefix_rfl
    have := batch.length.toNat_lt
    omega
  · rintro hsize front ⟨back, rfl⟩
    have hfront : ∀ cmd ∈ front, Readable cmd :=
      fun cmd hcmd => h cmd (List.mem_append_left back hcmd)
    have hle : batchSize front ≤ 65535 := by
      rw [batchSize_append] at hsize
      omega
    have hbytes := length_encodeAll_recordOf hfront
    have hadd := atlasCmdBatchAddAll_readable host [] (Nat.zero_le _) hfront
    rw [List.length_nil, Nat.zero_add, if_pos hle, List.nil_append] at hadd
    refine ⟨_, hadd, ?_, hbytes⟩
    rw [toNat_length_ofBytes (by omega), hbytes]

/-- Two commands with an empty value and one with two bytes. -/
theorem lengthsKept_three :
    LengthsKept .little [⟨1000, 0, []⟩, ⟨1100, 2, [1, 0]⟩, ⟨1200, 0, []⟩] :=
  (lengthsKept_iff .little _ (by decide)).mpr (by decide)

/-- A command that fills a batch to its last byte. -/
def fullCommand : AtlasCommand := ⟨1000, 65531, List.replicate 65531 0⟩

theorem readable_fullCommand : Readable fullCommand := by
  rw [Readable, fullCommand, List.length_replicate]
  decide

/-- The full command has the length 65535; the header of an empty command behind it is written
outside of the three bytes that the block then has. -/
theorem lengths_lost_behind_fullCommand :
    (∃ batch, atlasCmdBatchAddAll .little atlasCmdBatchNew [fullCommand] = some batch ∧
      batch.length = 65535 ∧ batch.length + 4 + 0 = 3) ∧
    atlasCmdBatchAddAll .little atlasCmdBatchNew [fullCommand, ⟨1000, 0, []⟩] = none ∧
    ¬ LengthsKept .little [fullCommand, ⟨1000, 0, []⟩] := by
  have hreadable : ∀ cmd ∈ [fullCommand, ⟨1000, 0, []⟩], Readable cmd :=
    List.forall_mem_cons.mpr ⟨readable_fullCommand, by decide⟩
  have hfirst := atlasCmdBatchAddAll_readable .little [] (Nat.zero_le _)
    (List.forall_mem_singleton.mpr readable_fullCommand)
  have hboth := atlasCmdBatchAddAll_readable .little [] (Nat.zero_le _) hreadable
  have hlength : UInt16.ofNat (Tlv.encodeAll ([fullCommand].map recordOf)).length = 65535 :=
    congrArg UInt16.ofNat
      (length_encodeAll_recordOf (List.forall_mem_singleton.mpr readable_fullCommand))
  have hnone : atlasCmdBatchAddAll .little atlasCmdBatchNew [fullCommand, ⟨1000, 0, []⟩] = none :=
    hboth.trans (if_neg (by decide))
  refine ⟨⟨_, hfirst.trans (if_pos (by decide)), hlength, ?_⟩, hnone, ?_⟩
  · exact (congrArg (· + 4 + 0) hlength).trans (by decide)
  · intro hkept
    obtain ⟨batch, hsome, -⟩ := hkept _ List.prefix_rfl
    exact absurd (hnone.symm.trans hsome) (by simp)

/-! ## Accepted buffers -/

/-- The validation does not look behind the bytes it was given. -/
theorem validate_append_right {mem : List UInt8} (extra : List UInt8) (fuel : ℕ) {p tmpLen : ℕ}
    (h : p + tmpLen ≤ mem.length) :
    validate host (mem ++ extra) fuel p tmpLen = validate host mem fuel p tmpLen := by
  induction fuel generalizing p tmpLen with
  | zero => cases tmpLen <;> rfl
  | succ fuel ih =>
    cases tmpLen with
    | zero => rfl
    | succ n =>
      rw [validate, validate]
      by_cases htype : n + 1 < 2
      · rw [if_pos htype, if_pos htype]
      by_cases hlength : n + 1 - 2 < 2
      · rw [if_neg htype, if_neg htype, if_pos hlength, if_pos hlength]
      rw [if_neg htype, if_neg htype, if_neg hlength, if_neg hlength, read16, read16,
        readBytes_append_right extra (by omega)]
      congr 1
      funext cmdLen
      split
      · rfl
      · exact ih (by omega)

/-- Bytes that pass the validation are whole records. -/
theorem eq_encodeAll_of_validate {buf : List UInt8} {n : ℕ} (hle : n ≤ buf.length)
    (h : validate host buf n 0 n = some .ok) : ∃ rs, buf.take n = Tlv.encodeAll rs := by
  have hlength : (buf.take n).length = n := by
    rw [List.length_take]
    omega
  have hfirst : validate host (buf.take n) n 0 n = some .ok := by
    rw [← h, ← validate_append_right host (buf.drop n) _ (by omega), List.take_append_drop]
  have hrest := validate_append host [] (buf.take n) (Nat.le_of_eq hlength)
  rw [List.nil_append, List.length_nil, hlength, hfirst] at hrest
  refine Tlv.rest_eq_nil_iff.mp ?_
  by_contra hne
  rw [if_neg hne] at hrest
  cases hrest

/-- An accepted buffer starts with whole records of the length that was given, and they are
copied. -/
theorem of_atlasCmdBatchSetRaw_ok {before batch : AtlasCmdBatch} {buf : List UInt8} {len : UInt16}
    (h : atlasCmdBatchSetRaw host before buf len = some (.ok, batch)) :
    ∃ rs, rs ≠ [] ∧ buf.take len.toNat = Tlv.encodeAll rs ∧ (Tlv.encodeAll rs).length ≤ 65535 ∧
      batch = .ofBytes (Tlv.encodeAll rs) := by
  rw [atlasCmdBatchSetRaw] at h
  split at h
  case isTrue => cases h
  case isFalse hnonempty =>
    obtain ⟨status, hvalid, h⟩ := Option.bind_eq_some_iff.mp h
    split at h
    case isTrue hstatus =>
      cases h
      exact absurd rfl hstatus
    case isFalse hstatus =>
      obtain ⟨copy, hcopy, hbatch⟩ := Option.map_eq_some_iff.mp h
      cases hbatch
      rw [readBytes] at hcopy
      split at hcopy
      case isFalse => cases hcopy
      case isTrue hle =>
        obtain rfl : buf.take len.toNat = copy := by simpa using hcopy
        rw [not_not.mp hstatus] at hvalid
        obtain ⟨rs, hrs⟩ := eq_encodeAll_of_validate host (by omega) hvalid
        have hlength : (Tlv.encodeAll rs).length = len.toNat := by
          rw [← hrs, List.length_take]
          omega
        have := len.toNat_lt
        refine ⟨rs, ?_, hrs, by omega, ?_⟩
        · rintro rfl
          exact hnonempty (Or.inr (UInt16.toNat_inj.mp hlength.symm))
        · rw [hrs, AtlasCmdBatch.ofBytes, hlength, UInt16.ofNat_toNat]

/-! ## Walking again -/

/-- The batch after a number of complete walks. -/
def afterWalks : ℕ → AtlasCmdBatch → Option AtlasCmdBatch
  | 0, batch => some batch
  | n + 1, batch =>
    (walkThrough host (readCommand host) batch).bind fun (_, batch) => afterWalks n batch

/-- After any number of walks, the next one sees what the first one saw, and the bytes are the
same. -/
def Repeatable (batch : AtlasCmdBatch) : Prop :=
  ∀ n, ∃ after, afterWalks host n batch = some after ∧ walk host after = walk host batch ∧
    atlasCmdBatchGetBuf after = atlasCmdBatchGetBuf batch

/-- The header fields of the record are the same in the order of the host and in network order. -/
def ReadsSame (r : Tlv.Record) : Prop := htons host r.tag = r.tag ∧ htons host r.len = r.len

instance : DecidablePred (ReadsSame host) := fun r =>
  inferInstanceAs (Decidable (htons host r.tag = r.tag ∧ htons host r.len = r.len))

/-- Swapping a header leaves its bytes exactly if they read the same. -/
theorem hostRecord_eq_encode_iff {r : Tlv.Record} :
    hostRecord host r = Tlv.encode r ↔ ReadsSame host r := by
  rw [hostRecord, Tlv.encode, List.append_left_inj, Tlv.Record.header, ReadsSame,
    ← store16_eq_be16_iff, ← store16_eq_be16_iff]
  constructor
  · exact fun h => List.append_inj h (by simp)
  · rintro ⟨htag, hlen⟩
    rw [htag, hlen]

theorem hostRecords_eq_encodeAll_iff {rs : List Tlv.Record} :
    hostRecords host rs = Tlv.encodeAll rs ↔ ∀ r ∈ rs, ReadsSame host r := by
  induction rs with
  | nil => simp
  | cons r rs ih =>
    rw [hostRecords_cons, Tlv.encodeAll_cons, List.forall_mem_cons, ← ih,
      ← hostRecord_eq_encode_iff]
    constructor
    · exact fun h => List.append_inj h (by simp)
    · rintro ⟨hr, hrs⟩
      rw [hr, hrs]

theorem length_hostRecords (rs : List Tlv.Record) :
    (hostRecords host rs).length = (Tlv.encodeAll rs).length := by
  induction rs with
  | nil => rfl
  | cons r rs ih =>
    rw [hostRecords_cons, Tlv.encodeAll_cons, List.length_append, List.length_append, ih,
      length_hostRecord, Tlv.length_encode]

section

variable {rs : List Tlv.Record}

/-- The batch after the first walk. -/
theorem walkThrough_readCommand (hne : rs ≠ []) (h : (Tlv.encodeAll rs).length ≤ 65535) :
    walkThrough host (readCommand host) (.ofBytes (Tlv.encodeAll rs)) =
      some (rs.map .ofRecord, .ofBytes (hostRecords host rs)) := by
  rw [walkThrough_encodeAll host
    (fun length pre post r => readCommand_hostRecord host length pre post r) hne h, visited_eq_map,
    AtlasCmdBatch.ofBytes, length_hostRecords]

theorem afterWalks_one (hne : rs ≠ []) (h : (Tlv.encodeAll rs).length ≤ 65535) :
    afterWalks host 1 (.ofBytes (Tlv.encodeAll rs)) = some (.ofBytes (hostRecords host rs)) := by
  rw [afterWalks, walkThrough_readCommand host hne h]
  rfl

/-- Records that read the same are left as they are. -/
theorem afterWalks_of_readsSame (hne : rs ≠ []) (h : (Tlv.encodeAll rs).length ≤ 65535)
    (hsame : ∀ r ∈ rs, ReadsSame host r) (n : ℕ) :
    afterWalks host n (.ofBytes (Tlv.encodeAll rs)) = some (.ofBytes (Tlv.encodeAll rs)) := by
  induction n with
  | zero => rfl
  | succ n ih =>
    rw [afterWalks, walkThrough_readCommand host hne h,
      (hostRecords_eq_encodeAll_iff host).mpr hsame]
    exact ih

theorem repeatable_iff_readsSame (hne : rs ≠ []) (h : (Tlv.encodeAll rs).length ≤ 65535) :
    Repeatable host (.ofBytes (Tlv.encodeAll rs)) ↔ ∀ r ∈ rs, ReadsSame host r := by
  constructor
  · intro hrepeat
    obtain ⟨after, hafter, -, hbuf⟩ := hrepeat 1
    rw [afterWalks_one host hne h, Option.some_inj] at hafter
    subst hafter
    rw [getBuf_ofBytes h, getBuf_ofBytes (by rw [length_hostRecords]; exact h),
      Option.some_inj] at hbuf
    exact (hostRecords_eq_encodeAll_iff host).mp hbuf
  · exact fun hsame n => ⟨_, afterWalks_of_readsSame host hne h hsame n, rfl, rfl⟩

end

/-- A walk through an accepted buffer sees its records and leaves the block with their headers in
host order. It can be repeated, with the same commands and the same bytes, exactly if every type and
every length reads the same in both byte orders. -/
theorem walk_accepted (before batch : AtlasCmdBatch) (buf : List UInt8) (len : UInt16)
    (haccepted : atlasCmdBatchSetRaw host before buf len = some (.ok, batch)) :
    ∃ rs, buf.take len.toNat = Tlv.encodeAll rs ∧ walk host batch = some (rs.map .ofRecord) ∧
      (∃ after, afterWalks host 1 batch = some after ∧
        atlasCmdBatchGetBuf after = some (hostRecords host rs)) ∧
      (Repeatable host batch ↔ ∀ r ∈ rs, ReadsSame host r) := by
  obtain ⟨rs, hne, hbytes, hsize, rfl⟩ := of_atlasCmdBatchSetRaw_ok host haccepted
  refine ⟨rs, hbytes, walk_encodeAll host hne hsize, ⟨_, afterWalks_one host hne hsize, ?_⟩,
    repeatable_iff_readsSame host hne hsize⟩
  exact getBuf_ofBytes (by rw [length_hostRecords]; exact hsize)

/-- One command of type 1000 with one byte, on a little-endian host. -/
theorem walk_accepted_one_byte :
    ∃ rs, ([3, 232, 0, 1, 7] : List UInt8).take (5 : UInt16).toNat = Tlv.encodeAll rs ∧
      walk .little ⟨5, [3, 232, 0, 1, 7]⟩ = some (rs.map .ofRecord) ∧
      (∃ after, afterWalks .little 1 ⟨5, [3, 232, 0, 1, 7]⟩ = some after ∧
        atlasCmdBatchGetBuf after = some (hostRecords .little rs)) ∧
      (Repeatable .little ⟨5, [3, 232, 0, 1, 7]⟩ ↔ ∀ r ∈ rs, ReadsSame .little r) :=
  walk_accepted .little atlasCmdBatchNew ⟨5, [3, 232, 0, 1, 7]⟩ [3, 232, 0, 1, 7] 5 (by decide)

/-- A little-endian host walks through an empty command of type 1000 once; the second walk sees the
type 59395, and the bytes are swapped. With a value of one byte the second walk reads a length of
256 and leaves the block. -/
theorem second_walk_differs :
    atlasCmdBatchSetRaw .little atlasCmdBatchNew [3, 232, 0, 0] 4 =
      some (.ok, ⟨4, [3, 232, 0, 0]⟩) ∧
    walk .little ⟨4, [3, 232, 0, 0]⟩ = some [⟨1000, 0, []⟩] ∧
    afterWalks .little 1 ⟨4, [3, 232, 0, 0]⟩ = some ⟨4, [232, 3, 0, 0]⟩ ∧
    walk .little ⟨4, [232, 3, 0, 0]⟩ = some [⟨59395, 0, []⟩] ∧
    atlasCmdBatchGetBuf ⟨4, [232, 3, 0, 0]⟩ = some [232, 3, 0, 0] ∧
    afterWalks .little 1 ⟨5, [3, 232, 0, 1, 7]⟩ = some ⟨5, [232, 3, 1, 0, 7]⟩ ∧
    walk .little ⟨5, [232, 3, 1, 0, 7]⟩ = none := by
  decide

end Atlas.Client

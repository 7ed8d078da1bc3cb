import Atlas.Lib.Tlv

/-! # The command batches of the gateway

`AtlasCommandBatch` serialises a list of commands and parses one from raw bytes. The parser walks
its copy of the buffer with a pointer and the number of bytes left; every read goes through the
checked memory of `Atlas.Lib.Bytes`, and running out of iterations is a failure as well, so
`parseCommands_eq` says that the loop ends, that it stays inside its buffer, and what it finds.

Reference: `commands/AtlasCommand.h`, `commands/AtlasCommandBatch.cpp`.
-/

namespace Atlas.Gateway

open ByteOrder

/-- `AtlasCommand`: a type-length-value command for the client. -/
structure AtlasCommand where
  type : UInt16
  len : UInt16
  val : List UInt8
deriving DecidableEq

namespace AtlasCommand

/-- The constructor applied to a byte string and its length, which becomes a `uint16_t`. -/
def new (type : UInt16) (val : List UInt8) : AtlasCommand := ⟨type, UInt16.ofNat val.length, val⟩

/-- The command of a record. -/
def ofRecord (r : Tlv.Record) : AtlasCommand := ⟨r.tag, r.len, r.value⟩

theorem new_eq_ofRecord (type : UInt16) {val : List UInt8} (h : val.length < 65536) :
    new type val = ofRecord ⟨type, val, h⟩ := rfl

end AtlasCommand

/-- `AtlasCommandBatch`: the commands added for sending, and those of the last parsed buffer. -/
structure AtlasCommandBatch where
  addedCmd : List AtlasCommand := []
  parsedCmd : List AtlasCommand := []
deriving DecidableEq

namespace AtlasCommandBatch

variable (host : ByteOrder)

/-- `addCommand`. -/
def addCommand (batch : AtlasCommandBatch) (cmd : AtlasCommand) : AtlasCommandBatch :=
  { batch with addedCmd := batch.addedCmd ++ [cmd] }

/-- What the serialiser writes for one command. The buffer is zeroed first, and a null value is not
copied over it. -/
def serialize (cmd : AtlasCommand) : List UInt8 :=
  store16 host (htons host cmd.type) ++ store16 host (htons host cmd.len) ++
    (if cmd.val = [] then List.replicate cmd.len.toNat 0 else cmd.val.take cmd.len.toNat)

/-- `getSerializedAddedCommands`; no bytes stand for the null buffer of an empty batch. -/
def getSerializedAddedCommands (batch : AtlasCommandBatch) : List UInt8 :=
  batch.addedCmd.flatMap (serialize host)

/-- The buffer of an outer batch with one command, whose value is the buffer of an inner batch. -/
def nested (type : UInt16) (inner : List AtlasCommand) : List UInt8 :=
  getSerializedAddedCommands host ⟨[.new type (getSerializedAddedCommands host ⟨inner, []⟩)], []⟩

/-- The loop of `parseCommands`, with `ptr` as an offset in `parsedCmdBuf`. -/
def parseCommands (parsedCmdBuf : List UInt8) :
    ℕ → (ptr cmdLen : ℕ) → List AtlasCommand → Option (List AtlasCommand)
  | _, _, 0, parsedCmd => some parsedCmd
  | 0, _, _ + 1, _ => none
  | fuel + 1, ptr, cmdLen@(_ + 1), parsedCmd =>
    -- the type
    if cmdLen < 2 then some parsedCmd else
    (read16 host parsedCmdBuf ptr).bind fun type =>
    -- the length
    if cmdLen - 2 < 2 then some parsedCmd else
    (read16 host parsedCmdBuf (ptr + 2)).bind fun len =>
    -- the value
    if cmdLen - 4 < (ntohs host len).toNat then some parsedCmd else
    (readBytes parsedCmdBuf (ptr + 4) (ntohs host len).toNat).bind fun val =>
    parseCommands parsedCmdBuf fuel (ptr + 4 + (ntohs host len).toNat)
      (cmdLen - 4 - (ntohs host len).toNat)
      (parsedCmd ++ [⟨ntohs host type, ntohs host len, val⟩])

/-- `setRawCommands`: a null or empty buffer leaves the batch as it is. -/
def setRawCommands (batch : AtlasCommandBatch) (cmd : List UInt8) : Option AtlasCommandBatch :=
  if cmd = [] then some batch
  else (parseCommands host cmd cmd.length 0 cmd.length []).map fun cmds =>
    { batch with parsedCmd := cmds }

/-- The commands a new batch holds after `setRawCommands`. -/
def parsedCommands (buf : List UInt8) : List AtlasCommand :=
  match setRawCommands host {} buf with
  | some batch => batch.parsedCmd
  | none => []

/-! ## What the serialiser writes and the parser finds -/

@[simp] theorem serialize_ofRecord (r : Tlv.Record) :
    serialize host (.ofRecord r) = Tlv.encode r := by
  simp only [serialize, AtlasCommand.ofRecord, store16_htons, Tlv.encode, Tlv.Record.header]
  by_cases h : r.value = [] <;> simp [h]

/-- The serialised batch is the concatenation of its records. -/
theorem getSerializedAddedCommands_ofRecord (rs : List Tlv.Record) (cmds : List AtlasCommand) :
    getSerializedAddedCommands host ⟨rs.map .ofRecord, cmds⟩ = Tlv.encodeAll rs := by
  simp [getSerializedAddedCommands, Tlv.encodeAll, List.flatMap_map]

/-- The outer command is a record as long as its length field can hold the inner buffer. -/
theorem nested_ofRecord (type : UInt16) {rs : List Tlv.Record}
    (h : (Tlv.encodeAll rs).length < 65536) :
    nested host type (rs.map .ofRecord) = Tlv.encode ⟨type, Tlv.encodeAll rs, h⟩ := by
  have houter := getSerializedAddedCommands_ofRecord host [⟨type, Tlv.encodeAll rs, h⟩] []
  simp only [List.map_cons, List.map_nil] at houter
  rw [nested, getSerializedAddedCommands_ofRecord, AtlasCommand.new_eq_ofRecord type h, houter,
    Tlv.encodeAll_cons, Tlv.encodeAll_nil, List.append_nil]

/-- One iteration at a whole record: its command is appended and the loop stands behind it. -/
theorem parseCommands_encode (fuel : ℕ) (pre bs : List UInt8) (r : Tlv.Record)
    (cmds : List AtlasCommand) :
    parseCommands host (pre ++ (Tlv.encode r ++ bs)) (fuel + 1) pre.length
        (Tlv.encode r ++ bs).length cmds =
      parseCommands host (pre ++ (Tlv.encode r ++ bs)) fuel (pre ++ Tlv.encode r).length bs.length
        (cmds ++ [.ofRecord r]) := by
  have htype := read16_append pre (hi r.len :: lo r.len :: (r.value ++ bs)) host
    (hi r.tag) (lo r.tag) rfl
  have hlen := read16_append (pre ++ [hi r.tag, lo r.tag]) (r.value ++ bs) host
    (hi r.len) (lo r.len) rfl
  have hval := readBytes_append (pre ++ r.header) r.value bs rfl rfl
  simp only [Tlv.Record.header, be16, List.append_assoc, List.cons_append, List.nil_append,
    List.length_append, List.length_cons, List.length_nil, Nat.zero_add] at hlen hval
  simp only [Tlv.encode_append, List.length_cons, parseCommands, htype, hlen, Option.bind_some,
    ntohs_load16, word_hi_lo, Tlv.Record.toNat_len]
  rw [if_neg (by omega), if_neg (by omega), if_neg (by simp), hval, Option.bind_some]
  have hleft : ((r.value ++ bs).length + 3).succ - 4 - r.value.length = bs.length := by
    simp only [List.length_append]
    omega
  rw [Tlv.length_append_encode, hleft]
  rfl

/-- One iteration at anything but a whole record: the loop returns. -/
theorem parseCommands_of_decode?_none (fuel : ℕ) (pre : List UInt8) {bs : List UInt8}
    (cmds : List AtlasCommand) (h : Tlv.decode? bs = none) :
    parseCommands host (pre ++ bs) (fuel + 1) pre.length bs.length cmds = some cmds := by
  match bs, h with
  | [], _ => simp [parseCommands]
  | [_], _ => simp [parseCommands]
  | [_, _], _ => simp [parseCommands, read16_append pre]
  | [_, _, _], _ => simp [parseCommands, read16_append pre]
  | t₁ :: t₀ :: l₁ :: l₀ :: bs, h =>
    have hfit : ¬ (word l₁ l₀).toNat ≤ bs.length := fun hle => by simp [Tlv.decode?, hle] at h
    have htype := read16_append pre (l₁ :: l₀ :: bs) host t₁ t₀ rfl
    have hlen := read16_append (pre ++ [t₁, t₀]) bs host l₁ l₀ rfl
    simp only [List.append_assoc, List.cons_append, List.nil_append, List.length_append,
      List.length_cons, List.length_nil, Nat.zero_add] at hlen
    simp only [parseCommands, List.length_cons, htype, hlen, Option.bind_some, ntohs_load16]
    rw [if_neg (by omega), if_neg (by omega), if_pos (by omega)]

/-- The loop stands behind `pre`, with `bs` still to read. It ends within one iteration for each
byte, reads inside the buffer only, and appends the commands of the whole records of `bs`. -/
theorem parseCommands_append {fuel : ℕ} (pre bs : List UInt8) (cmds : List AtlasCommand)
    (h : bs.length ≤ fuel) :
    parseCommands host (pre ++ bs) fuel pre.length bs.length cmds =
      some (cmds ++ (Tlv.parse bs).map .ofRecord) := by
  induction fuel generalizing pre bs cmds with
  | zero =>
    obtain rfl : bs = [] := List.length_eq_zero_iff.mp (Nat.le_zero.mp h)
    simp [parseCommands]
  | succ fuel ih =>
    cases hd : Tlv.decode? bs with
    | none =>
      rw [parseCommands_of_decode?_none host fuel pre cmds hd, Tlv.parse_of_decode?_none hd]
      simp
    | some p =>
      obtain ⟨r, bs'⟩ := p
      obtain rfl := Tlv.eq_encode_of_decode? hd
      simp only [List.length_append, Tlv.length_encode] at h
      rw [parseCommands_encode, ← List.append_assoc, ih _ _ _ (by omega)]
      simp

/-- `setRawCommands` never leaves the buffer, and finds the records it starts with. -/
theorem setRawCommands_eq (batch : AtlasCommandBatch) {buf : List UInt8} (h : buf ≠ []) :
    setRawCommands host batch buf =
      some { batch with parsedCmd := (Tlv.parse buf).map .ofRecord } := by
  have hparse := parseCommands_append host [] buf [] (Nat.le_refl _)
  simp only [List.nil_append, List.length_nil] at hparse
  rw [setRawCommands, if_neg h, hparse]
  rfl

@[simp] theorem parsedCommands_eq (buf : List UInt8) :
    parsedCommands host buf = (Tlv.parse buf).map .ofRecord := by
  by_cases h : buf = []
  · subst h
    rfl
  · rw [parsedCommands, setRawCommands_eq host {} h]

/-- Commands are added in order. -/
theorem foldl_addCommand (batch : AtlasCommandBatch) (cmds : List AtlasCommand) :
    cmds.foldl addCommand batch = { batch with addedCmd := batch.addedCmd ++ cmds } := by
  induction cmds generalizing batch with
  | nil => simp
  | cons cmd cmds ih => simp [ih, addCommand]

end AtlasCommandBatch

end Atlas.Gateway

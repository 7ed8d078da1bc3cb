import Atlas.Lib.EventMachine
import Atlas.Lib.Tlv

/-! # Reading commands from a stream

`AtlasCommandXfer` reassembles the commands of a byte stream. It asks for the four bytes of a
header, then for as many bytes as the header says, and hands each complete command over. The socket
puts a chunk of at most the requested length behind what has already arrived.

The reader is described by the bytes of the current command that have arrived (`Reading`): `wanted`
is how many it has to become, as far as they tell. One chunk either completes the command or leaves
a longer prefix of it (`handleRead_of_eq`, `handleRead_of_ne`), and everything about whole streams
follows by induction over the chunks.

Reference: `commands/AtlasCommandXfer.h`, `commands/AtlasCommandXfer.cpp`.
-/

namespace Atlas.Gateway

open ByteOrder EventMachine

/-- `ATLAS_CMD_HEADER_LEN`. -/
def atlasCmdHeaderLen : ℕ := 4

/-- `ATLAS_PUB_SUB_AGENT_BUF_LEN`. -/
def atlasPubSubAgentBufLen : ℕ := 8192

/-- `AtlasCommandXferState`. -/
inductive AtlasCommandXferState where
  | header
  | payload
deriving DecidableEq

/-- `AtlasCommandXfer`. `data` is the memory from the data buffer on; the buffer is its first
`atlasPubSubAgentBufLen` bytes. -/
structure AtlasCommandXfer where
  data : ℕ → UInt8
  cmdXferState : AtlasCommandXferState
  cmdLen : ℕ
  cmdRemainingLen : ℕ

namespace AtlasCommandXfer

/-- `init`. -/
def init (xfer : AtlasCommandXfer) : AtlasCommandXfer :=
  { xfer with cmdXferState := .header, cmdLen := 0, cmdRemainingLen := atlasCmdHeaderLen }

/-- The constructor; the buffer holds whatever was in memory. -/
def new (data : ℕ → UInt8) : AtlasCommandXfer := init ⟨data, .header, 0, 0⟩

/-- The socket copies a chunk to `getReadBuffer`. What a chunk does to the memory behind the buffer
is left open: those bytes are not the reader's. -/
def receive (xfer : AtlasCommandXfer) (chunk : List UInt8) : AtlasCommandXfer :=
  { xfer with
    data := fun i =>
      if xfer.cmdLen ≤ i ∧ i < atlasPubSubAgentBufLen then
        (chunk[i - xfer.cmdLen]?).getD (xfer.data i)
      else xfer.data i }

variable (host : ByteOrder)

/-- `handleArrivedData`. -/
def handleArrivedData (xfer : AtlasCommandXfer) (bytesTransferred : ℕ) : AtlasCommandXfer :=
  let xfer := { xfer with
    cmdRemainingLen := xfer.cmdRemainingLen - bytesTransferred
    cmdLen := xfer.cmdLen + bytesTransferred }
  match xfer.cmdXferState with
  | .header =>
    if xfer.cmdRemainingLen = 0 then
      -- the length follows the type
      { xfer with
        cmdRemainingLen := (ntohs host (load16 host (xfer.data 2) (xfer.data 3))).toNat
        cmdXferState := .payload }
    else xfer
  | .payload => xfer

/-- `isCmdAvailable`. -/
def isCmdAvailable (xfer : AtlasCommandXfer) : Bool :=
  xfer.cmdXferState = .payload ∧ xfer.cmdRemainingLen = 0

/-- The bytes behind `getDataBuffer` and `getCmdLen`. -/
def command (xfer : AtlasCommandXfer) : List UInt8 := (List.range xfer.cmdLen).map xfer.data

/-- The body of the two `handleRead`: the reader after a chunk, and the calls of
`processCommand`. -/
def handleRead (xfer : AtlasCommandXfer) (chunk : List UInt8) :
    AtlasCommandXfer × List (List UInt8) :=
  let xfer := (xfer.receive chunk).handleArrivedData host chunk.length
  if xfer.isCmdAvailable then (xfer.init, [xfer.command]) else (xfer, [])

/-! ## What the reader has of the current command -/

/-- The size of the command that starts with these bytes, as far as they tell: without a whole
header, the size of the header. -/
def wanted : List UInt8 → ℕ
  | _ :: _ :: l₁ :: l₀ :: _ => 4 + (word l₁ l₀).toNat
  | _ => 4

/-- The reader has received the bytes `bs` of a command, and the command is not complete. -/
structure Reading (xfer : AtlasCommandXfer) (bs : List UInt8) : Prop where
  cmdLen : xfer.cmdLen = bs.length
  data : ∀ i b, bs[i]? = some b → i < atlasPubSubAgentBufLen → xfer.data i = b
  state : xfer.cmdXferState = if bs.length < 4 then .header else .payload
  remaining : xfer.cmdLen + xfer.cmdRemainingLen = wanted bs
  incomplete : bs.length < wanted bs

theorem reading_init (xfer : AtlasCommandXfer) : Reading xfer.init [] where
  cmdLen := rfl
  data := by simp
  state := rfl
  remaining := rfl
  incomplete := by decide

/-- A command inside the buffer is handed over as it arrived. -/
theorem command_eq {xfer : AtlasCommandXfer} {bs : List UInt8}
    (hlen : xfer.cmdLen = bs.length)
    (hdata : ∀ i b, bs[i]? = some b → i < atlasPubSubAgentBufLen → xfer.data i = b)
    (hfit : bs.length ≤ atlasPubSubAgentBufLen) : xfer.command = bs := by
  apply List.ext_getElem (by simp [command, hlen])
  intro i h₁ h₂
  simp only [command, List.getElem_map, List.getElem_range]
  exact hdata i bs[i] (List.getElem?_eq_getElem h₂) (by omega)

theorem four_le_wanted (bs : List UInt8) : 4 ≤ wanted bs := by
  unfold wanted
  split <;> omega

/-- More bytes do not change the size a whole header tells. -/
theorem wanted_append {bs : List UInt8} (h : 4 ≤ bs.length) (bs' : List UInt8) :
    wanted (bs ++ bs') = wanted bs := by
  match bs, h with
  | _ :: _ :: _ :: _ :: _, _ => rfl

theorem wanted_of_length_lt {bs : List UInt8} (h : bs.length < 4) : wanted bs = 4 := by
  match bs, h with
  | [], _ | [_], _ | [_, _], _ | [_, _, _], _ => rfl

/-! ## One chunk -/

section

variable {xfer : AtlasCommandXfer} {bs : List UInt8} (chunk : List UInt8)

theorem data_receive (h : Reading xfer bs) (i : ℕ) (b : UInt8) (hb : (bs ++ chunk)[i]? = some b)
    (hi : i < atlasPubSubAgentBufLen) : (xfer.receive chunk).data i = b := by
  simp only [receive, h.cmdLen]
  by_cases hlt : i < bs.length
  · rw [List.getElem?_append_left hlt] at hb
    rw [if_neg (by omega), h.data i b hb hi]
  · rw [List.getElem?_append_right (by omega)] at hb
    rw [if_pos ⟨by omega, hi⟩, hb, Option.getD_some]

/-- The length field of a header that has just been completed. -/
theorem wanted_of_length_eq {bs : List UInt8} {data : ℕ → UInt8} (h : bs.length = 4)
    (hdata : ∀ i b, bs[i]? = some b → i < atlasPubSubAgentBufLen → data i = b) :
    wanted bs = 4 + (ntohs host (load16 host (data 2) (data 3))).toNat := by
  match bs, h with
  | [_, _, l₁, l₀], _ =>
    rw [hdata 2 l₁ rfl (by decide), hdata 3 l₀ rfl (by decide), ntohs_load16]
    rfl

/-- The reader after a chunk: it knows the bytes received so far, and asks for the rest of what they
announce. -/
theorem handleArrivedData_receive (h : Reading xfer bs)
    (hchunk : chunk.length ≤ xfer.cmdRemainingLen) :
    let xfer' := (xfer.receive chunk).handleArrivedData host chunk.length
    xfer'.cmdLen = (bs ++ chunk).length ∧
      (∀ i b, (bs ++ chunk)[i]? = some b → i < atlasPubSubAgentBufLen → xfer'.data i = b) ∧
      xfer'.cmdXferState = (if (bs ++ chunk).length < 4 then .header else .payload) ∧
      xfer'.cmdLen + xfer'.cmdRemainingLen = wanted (bs ++ chunk) := by
  have hdata := data_receive chunk h
  have hlen : (xfer.receive chunk).cmdLen = bs.length := h.cmdLen
  have hrem : bs.length + (xfer.receive chunk).cmdRemainingLen = wanted bs := by
    rw [← h.remaining, h.cmdLen]
    rfl
  have hstate : (xfer.receive chunk).cmdXferState = if bs.length < 4 then .header else .payload :=
    h.state
  have hchunk' : chunk.length ≤ (xfer.receive chunk).cmdRemainingLen := hchunk
  generalize xfer.receive chunk = received at hdata hlen hrem hstate hchunk'
  by_cases hbs : bs.length < 4
  · rw [if_pos hbs] at hstate
    rw [wanted_of_length_lt hbs] at hrem
    by_cases hfull : received.cmdRemainingLen - chunk.length = 0
    · -- the chunk completes the header
      have hfour : (bs ++ chunk).length = 4 := by
        rw [List.length_append]
        omega
      simp only [handleArrivedData, hstate, hfull, if_true]
      refine ⟨by rw [hlen, List.length_append], hdata, by rw [hfour]; rfl, ?_⟩
      rw [wanted_of_length_eq host hfour hdata, hlen, ← hfour, List.length_append]
    · -- the header is still incomplete
      have hlt : (bs ++ chunk).length < 4 := by
        rw [List.length_append]
        omega
      simp only [handleArrivedData, hstate, hfull, if_false]
      refine ⟨by rw [hlen, List.length_append], hdata, by rw [if_pos hlt], ?_⟩
      rw [wanted_of_length_lt hlt, hlen]
      omega
  · rw [if_neg hbs] at hstate
    simp only [handleArrivedData, hstate]
    refine ⟨by rw [hlen, List.length_append], hdata, ?_, ?_⟩
    · rw [if_neg (by rw [List.length_append]; omega)]
    · rw [wanted_append (by omega), hlen]
      omega

/-- A chunk that completes the command: the command is processed and the reader starts again. -/
theorem handleRead_of_eq (h : Reading xfer bs) (hchunk : chunk.length ≤ xfer.cmdRemainingLen)
    (heq : (bs ++ chunk).length = wanted (bs ++ chunk)) :
    Reading (xfer.handleRead host chunk).1 [] ∧
      ((bs ++ chunk).length ≤ atlasPubSubAgentBufLen →
        (xfer.handleRead host chunk).2 = [bs ++ chunk]) := by
  obtain ⟨hlen, hdata, hstate, hrem⟩ := handleArrivedData_receive host chunk h hchunk
  have hfour := four_le_wanted (bs ++ chunk)
  have havail :
      ((xfer.receive chunk).handleArrivedData host chunk.length).isCmdAvailable = true := by
    rw [if_neg (by omega)] at hstate
    simp only [isCmdAvailable, hstate, decide_eq_true_eq, true_and]
    omega
  rw [handleRead]
  simp only [havail, if_true]
  exact ⟨reading_init _, fun hfit => by rw [command_eq hlen hdata hfit]⟩

/-- A chunk that does not complete the command: nothing is processed. -/
theorem handleRead_of_ne (h : Reading xfer bs) (hchunk : chunk.length ≤ xfer.cmdRemainingLen)
    (hne : (bs ++ chunk).length ≠ wanted (bs ++ chunk)) :
    Reading (xfer.handleRead host chunk).1 (bs ++ chunk) ∧ (xfer.handleRead host chunk).2 = [] := by
  obtain ⟨hlen, hdata, hstate, hrem⟩ := handleArrivedData_receive host chunk h hchunk
  have havail :
      ((xfer.receive chunk).handleArrivedData host chunk.length).isCmdAvailable = false := by
    simp only [isCmdAvailable, decide_eq_false_iff_not, not_and]
    omega
  rw [handleRead]
  simp only [havail, if_false, Bool.false_eq_true]
  exact ⟨⟨hlen, hdata, hstate, hrem, by omega⟩, trivial⟩

end

/-! ## Whole streams -/

/-- The socket delivers at most the requested number of bytes. -/
def Requested (xfer : AtlasCommandXfer) (chunk : List UInt8) : Prop :=
  chunk.length ≤ xfer.cmdRemainingLen

theorem wanted_encode (r : Tlv.Record) (bs : List UInt8) :
    wanted (Tlv.encode r ++ bs) = (Tlv.encode r).length := by
  rw [Tlv.encode_append, Tlv.length_encode, wanted, word_hi_lo, Tlv.Record.toNat_len]

/-- The bytes received so far, with the rest of the stream behind them, tell the size of the first
command as soon as its header is there. -/
theorem wanted_eq_of_append_eq {bs bs' : List UInt8} {r : Tlv.Record} {stream : List UInt8}
    (h : bs ++ bs' = Tlv.encode r ++ stream) (hfour : 4 ≤ bs.length) :
    wanted bs = (Tlv.encode r).length := by
  rw [← wanted_append hfour bs', h, wanted_encode]

/-- **Reassembly.** However a stream of commands that fit in the buffer is cut into chunks, each
command is processed once, in order, with exactly its bytes. -/
theorem trace_handleRead {rs : List Tlv.Record}
    (hfit : ∀ r ∈ rs, (Tlv.encode r).length ≤ atlasPubSubAgentBufLen) {xfer : AtlasCommandXfer}
    {bs : List UInt8} {chunks : List (List UInt8)} (h : Reading xfer bs)
    (hstream : bs ++ chunks.flatten = Tlv.encodeAll rs)
    (hchunks : AllSteps (handleRead host) Requested xfer chunks) :
    trace (handleRead host) xfer chunks = rs.map Tlv.encode := by
  induction chunks generalizing xfer bs rs with
  | nil =>
    -- an incomplete command cannot be the whole stream
    cases rs with
    | nil => rfl
    | cons r rs =>
      rw [List.flatten_nil, List.append_nil, Tlv.encodeAll_cons] at hstream
      have hinc := h.incomplete
      rw [hstream, wanted_encode, List.length_append] at hinc
      omega
  | cons chunk chunks ih =>
    rw [List.flatten_cons, ← List.append_assoc] at hstream
    by_cases heq : (bs ++ chunk).length = wanted (bs ++ chunk)
    · -- the chunk ends the first command of the stream
      obtain ⟨hnext, hcall⟩ := handleRead_of_eq host chunk h hchunks.1 heq
      have hfour : 4 ≤ (bs ++ chunk).length := heq ▸ four_le_wanted (bs ++ chunk)
      obtain ⟨r, rs, rfl⟩ : ∃ r rs', rs = r :: rs' := by
        refine List.exists_cons_of_ne_nil fun hnil => ?_
        have hzero := congrArg List.length hstream
        rw [hnil, Tlv.encodeAll_nil, List.length_append, List.length_nil] at hzero
        omega
      rw [Tlv.encodeAll_cons] at hstream
      have hsize := heq.trans (wanted_eq_of_append_eq hstream hfour)
      obtain ⟨hfirst, hrest⟩ := List.append_inj hstream hsize
      rw [trace_cons, hcall (hfirst ▸ hfit r List.mem_cons_self), hfirst,
        ih (fun r' hr' => hfit r' (List.mem_cons_of_mem r hr')) hnext (by simpa using hrest)
          hchunks.2]
      rfl
    · obtain ⟨hnext, hcall⟩ := handleRead_of_ne host chunk h hchunks.1 heq
      rw [trace_cons, hcall, ih hfit hnext hstream hchunks.2]
      rfl

/-! ## Readers and their owners -/

/-- A call of `processCommand`: the bytes it was given and what it did. -/
structure Processed (ω : Type*) where
  cmdBuffer : List UInt8
  effects : List ω
deriving DecidableEq

section Serve

variable {σ ω ι : Type*}

/-- The owner of a reader processes the commands a chunk completes. -/
def serve (process : σ → List UInt8 → σ × List ω) (s : σ × AtlasCommandXfer) (chunk : List UInt8) :
    (σ × AtlasCommandXfer) × List (Processed ω) :=
  let (xfer, cmds) := s.2.handleRead host chunk
  let processOne (state : σ) (cmdBuffer : List UInt8) : σ × List (Processed ω) :=
    ((process state cmdBuffer).1, [⟨cmdBuffer, (process state cmdBuffer).2⟩])
  ((run processOne s.1 cmds, xfer), trace processOne s.1 cmds)

theorem cmdBuffer_serve (process : σ → List UInt8 → σ × List ω) (s : σ × AtlasCommandXfer)
    (chunk : List UInt8) :
    (serve host process s chunk).2.map (·.cmdBuffer) = (s.2.handleRead host chunk).2 := by
  simp only [serve]
  generalize (s.2.handleRead host chunk).2 = cmds
  generalize s.1 = state
  induction cmds generalizing state with
  | nil => rfl
  | cons cmd cmds ih => simp [ih]

/-- Whatever processing a command does, also with inputs of its own, each command of the stream is
processed once, in order, with exactly its bytes. -/
theorem cmdBuffer_trace_serve (process : ι → σ → List UInt8 → σ × List ω) {rs : List Tlv.Record}
    (hfit : ∀ r ∈ rs, (Tlv.encode r).length ≤ atlasPubSubAgentBufLen) (state : σ)
    (xfer : AtlasCommandXfer) {es : List (ι × List UInt8)}
    (hstream : (es.map Prod.snd).flatten = Tlv.encodeAll rs)
    (hchunks : AllSteps (fun s e => serve host (process e.1) s e.2) (fun s e => Requested s.2 e.2)
      (state, xfer.init) es) :
    (trace (fun s e => serve host (process e.1) s e.2) (state, xfer.init) es).map (·.cmdBuffer) =
      rs.map Tlv.encode := by
  have hreader : ∀ (es : List (ι × List UInt8)) (s : σ × AtlasCommandXfer),
      AllSteps (fun s e => serve host (process e.1) s e.2) (fun s e => Requested s.2 e.2) s es →
      (trace (fun s e => serve host (process e.1) s e.2) s es).map (·.cmdBuffer) =
          trace (handleRead host) s.2 (es.map Prod.snd) ∧
        AllSteps (handleRead host) Requested s.2 (es.map Prod.snd) := by
    intro es
    induction es with
    | nil => exact fun _ _ => ⟨rfl, trivial⟩
    | cons e es ih =>
      intro s h
      obtain ⟨htrace, hsteps⟩ := ih _ h.2
      refine ⟨?_, h.1, hsteps⟩
      rw [trace_cons, List.map_append, htrace, cmdBuffer_serve, List.map_cons, trace_cons]
      rfl
  obtain ⟨htrace, hsteps⟩ := hreader es _ hchunks
  rw [htrace]
  exact trace_handleRead host hfit (reading_init xfer) hstream hsteps

end Serve

/-- The lengths announced by the headers of a stream. -/
def declaredLengths : List UInt8 → List ℕ
  | _ :: _ :: l₁ :: l₀ :: bs => (word l₁ l₀).toNat :: declaredLengths (bs.drop (word l₁ l₀).toNat)
  | _ => []
termination_by bs => bs.length
decreasing_by
  simp only [List.length_drop, List.length_cons]
  omega

/-- What has arrived and what is requested next fit in the buffer. -/
def InBuffer (xfer : AtlasCommandXfer) : Prop :=
  xfer.cmdLen + xfer.cmdRemainingLen ≤ atlasPubSubAgentBufLen

theorem Reading.inBuffer_iff {xfer : AtlasCommandXfer} {bs : List UInt8} (h : Reading xfer bs) :
    InBuffer xfer ↔ wanted bs ≤ 8192 := by
  rw [InBuffer, h.remaining]
  rfl

/-- The first header of a stream announces the size the reader wants. -/
theorem declaredLengths_append {bs : List UInt8} (h : 4 ≤ bs.length) (hle : bs.length ≤ wanted bs)
    (bs' : List UInt8) :
    declaredLengths (bs ++ bs') =
      (wanted bs - 4) :: declaredLengths (bs'.drop (wanted bs - bs.length)) := by
  match bs, h with
  | _ :: _ :: l₁ :: l₀ :: bs, _ =>
    have hdrop : bs.drop (word l₁ l₀).toNat = [] := List.drop_eq_nil_of_le (by
      simp only [wanted, List.length_cons] at hle
      omega)
    simp only [List.cons_append, declaredLengths, wanted, Nat.add_sub_cancel_left,
      List.drop_append, hdrop, List.nil_append, List.length_cons]
    congr 3
    omega

theorem declaredLengths_of_length_lt {bs : List UInt8} (h : bs.length < 4) :
    declaredLengths bs = [] := by
  match bs, h with
  | [], _ | [_], _ | [_, _], _ | [_, _, _], _ => simp [declaredLengths]

/-- If all headers stay within 8188 bytes, the reader asks for no more than its buffer holds. -/
theorem wanted_le_of_declaredLengths {bs bs' : List UInt8} (hle : bs.length ≤ wanted bs)
    (h : ∀ n ∈ declaredLengths (bs ++ bs'), n ≤ 8188) : wanted bs ≤ 8192 := by
  by_cases hfour : 4 ≤ bs.length
  · have hfirst := h (wanted bs - 4) (by simp [declaredLengths_append hfour hle])
    omega
  · rw [wanted_of_length_lt (by omega)]
    decide

/-- The chunk that completes a command asks for no more room than the reader did before. -/
theorem wanted_append_le_iff {bs chunk : List UInt8} (hchunk : (bs ++ chunk).length ≤ wanted bs)
    (heq : (bs ++ chunk).length = wanted (bs ++ chunk)) :
    wanted bs ≤ 8192 ↔ wanted (bs ++ chunk) ≤ 8192 := by
  by_cases hfour : 4 ≤ bs.length
  · rw [wanted_append hfour]
  · rw [wanted_of_length_lt (by omega)] at hchunk ⊢
    omega

/-- The reader stays within its buffer along a stream exactly when no header announces a value of
more than 8188 bytes. -/
theorem allStates_inBuffer_iff {xfer : AtlasCommandXfer} {bs : List UInt8}
    {chunks : List (List UInt8)} (h : Reading xfer bs)
    (hchunks : AllSteps (handleRead host) Requested xfer chunks) :
    AllStates (handleRead host) InBuffer xfer chunks ↔
      ∀ n ∈ declaredLengths (bs ++ chunks.flatten), n ≤ 8188 := by
  induction chunks generalizing xfer bs with
  | nil =>
    have hle := Nat.le_of_lt h.incomplete
    rw [AllStates, h.inBuffer_iff, List.flatten_nil]
    refine ⟨fun hwanted => ?_, wanted_le_of_declaredLengths hle⟩
    by_cases hfour : 4 ≤ bs.length
    · rw [declaredLengths_append hfour hle, List.drop_nil,
        declaredLengths_of_length_lt (by decide)]
      simp only [List.mem_singleton, forall_eq]
      omega
    · simp [declaredLengths_of_length_lt (Nat.lt_of_not_le hfour)]
  | cons chunk chunks ih =>
    have hle : (bs ++ chunk).length ≤ wanted bs := by
      rw [← h.remaining, h.cmdLen, List.length_append]
      exact Nat.add_le_add_left hchunks.1 _
    rw [AllStates, h.inBuffer_iff, List.flatten_cons, ← List.append_assoc]
    by_cases heq : (bs ++ chunk).length = wanted (bs ++ chunk)
    · -- the chunk completes a command, and the stream goes on with the next header
      have hfour : 4 ≤ (bs ++ chunk).length := heq ▸ four_le_wanted (bs ++ chunk)
      have hnext := ih (handleRead_of_eq host chunk h hchunks.1 heq).1 hchunks.2
      have hsplit := declaredLengths_append hfour (Nat.le_of_eq heq) chunks.flatten
      rw [heq, Nat.sub_self, List.drop_zero] at hsplit
      rw [hnext, hsplit, List.forall_mem_cons, List.nil_append]
      refine and_congr_left fun _ => ?_
      rw [wanted_append_le_iff hle heq]
      omega
    · have hnext := ih (handleRead_of_ne host chunk h hchunks.1 heq).1 hchunks.2
      rw [hnext]
      refine and_iff_right_of_imp fun hall => ?_
      rw [List.append_assoc] at hall
      exact wanted_le_of_declaredLengths (Nat.le_of_lt h.incomplete) hall

instance (xfer : AtlasCommandXfer) (chunk : List UInt8) : Decidable (Requested xfer chunk) :=
  inferInstanceAs (Decidable (_ ≤ _))

instance (xfer : AtlasCommandXfer) : Decidable (InBuffer xfer) :=
  inferInstanceAs (Decidable (_ ≤ _))

/-- From the start of a connection on, the reader requests bytes inside its buffer only, exactly
when no header of the stream announces a value of more than 8188 bytes. -/
theorem requests_inBuffer_iff (data : ℕ → UInt8) (chunks : List (List UInt8))
    (hchunks : AllSteps (handleRead host) Requested (new data) chunks) :
    AllStates (handleRead host) InBuffer (new data) chunks ↔
      ∀ n ∈ declaredLengths chunks.flatten, n ≤ 8188 :=
  allStates_inBuffer_iff host (reading_init _) hchunks

/-- A header in two pieces that announces an empty value. -/
theorem requests_inBuffer_iff_split :
    AllSteps (handleRead .little) Requested (new fun _ => 0) [[3, 232, 0], [0]] ∧
      (AllStates (handleRead .little) InBuffer (new fun _ => 0) [[3, 232, 0], [0]] ↔
        ∀ n ∈ declaredLengths [[3, 232, 0], [0]].flatten, n ≤ 8188) :=
  ⟨by decide, requests_inBuffer_iff .little _ _ (by decide)⟩

/-- A header that announces 65535 bytes: the next read may fill the buffer up to offset 65539. -/
theorem not_inBuffer_long_header :
    AllSteps (handleRead .little) Requested (new fun _ => 0) [[3, 233, 255, 255]] ∧
      ¬ InBuffer (run (handleRead .little) (new fun _ => 0) [[3, 233, 255, 255]]) := by
  decide

end AtlasCommandXfer

end Atlas.Gateway

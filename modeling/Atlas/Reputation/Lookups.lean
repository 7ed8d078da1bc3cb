import Atlas.Reputation.Feedback
import Atlas.Reputation.Persistence

/-! # Look-ups of features

`computeReputation` finds the features of a network by their type. The search of `operator[]` stops
behind the last feature when the type is not there, and the element at that position is used all the
same. A new network has all its features, and feedback keeps them. A network that is loaded has the
features that were read: when a statement fails, the device stays in memory with what was read until
then, and the default features are added only if no row was found.

Reference: `reputation_impl/AtlasDeviceFeatureManager.cpp` (`operator[]`),
`reputation_impl/AtlasReputation_NaiveBayes.cpp`, `device/AtlasDeviceManager.cpp`.
-/

namespace Atlas.Reputation

open EventMachine Gateway
open AtlasDeviceFeatureManager

namespace AtlasDeviceFeatureManager

/-! ## The look-ups of one feedback matrix -/

/-- One use of `operator[]`: the type, and the features it is searched among. -/
structure Lookup where
  type : AtlasDeviceFeatureType
  features : List AtlasDeviceFeature

/-- The index `operator[]` uses. -/
def Lookup.pos (l : Lookup) : ℕ := l.features.findIdx (·.featureType = l.type)

/-- The type is there, and the index is one of the list. -/
def Lookup.Hits (l : Lookup) : Prop :=
  l.type ∈ l.features.map (·.featureType) ∧ l.pos < l.features.length

/-- The index is one of the list exactly if the type is there. -/
theorem Lookup.hits_iff (l : Lookup) : l.Hits ↔ l.type ∈ l.features.map (·.featureType) := by
  refine ⟨And.left, fun hmem => ⟨hmem, ?_⟩⟩
  obtain ⟨f, hf, htype⟩ := List.mem_map.mp hmem
  exact List.findIdx_lt_length.mpr ⟨f, hf, by simpa using htype⟩

/-- The look-ups of the second loop: two for the comparison, and one to count a good score. -/
def creditLookups (manager : AtlasDeviceFeatureManager) : FeedbackMatrix → List Lookup
  | [] => []
  | entry :: rest =>
    List.replicate (if manager.Reaches entry then 3 else 2) ⟨entry.1, manager.features⟩ ++
      creditLookups (manager.credit entry) rest

/-- The look-ups of `computeReputation` with a feedback matrix, in order. -/
def lookups (manager : AtlasDeviceFeatureManager) (feedbackMatrix : FeedbackMatrix) : List Lookup :=
  let satisfactionScore : ℚ := feedbackMatrix.foldl
    (fun score entry => score + entry.2 * manager.weight entry.1) 0
  feedbackMatrix.map (fun entry => ⟨entry.1, manager.features⟩) ++
    if satisfactionScore ≥ manager.feedbackThreshold then
      manager.creditLookups feedbackMatrix else []

/-- The network has the features it is set up with. -/
def HasFeatures (weights : List (AtlasDeviceFeatureType × ℚ)) (fs : List AtlasDeviceFeature) :
    Prop :=
  ∀ w ∈ weights, w.1 ∈ fs.map (·.featureType)

instance (weights : List (AtlasDeviceFeatureType × ℚ)) (fs : List AtlasDeviceFeature) :
    Decidable (HasFeatures weights fs) :=
  inferInstanceAs (Decidable (∀ w ∈ weights, _))

variable {weights : List (AtlasDeviceFeatureType × ℚ)} {manager : AtlasDeviceFeatureManager}
  {feedbackMatrix : FeedbackMatrix}

theorem Credited.map_featureType {n : AtlasDeviceFeatureType → ℕ} {fs fs' : List AtlasDeviceFeature}
    (h : Credited n fs fs') : fs'.map (·.featureType) = fs.map (·.featureType) :=
  BayesDatabase.map_featureType_eq h.map_eq

theorem map_featureType_credit (entry : AtlasDeviceFeatureType × ℚ) :
    (manager.credit entry).features.map (·.featureType) = manager.features.map (·.featureType) := by
  rw [credit]
  split
  · exact (credited_updateSuccessfulTransactions entry.1 manager.features).map_featureType
  · rfl

/-- The second loop looks up the types of the matrix, among features of the same types. -/
theorem hits_of_mem_creditLookups
    (h : ∀ entry ∈ feedbackMatrix, entry.1 ∈ manager.features.map (·.featureType)) :
    ∀ l ∈ manager.creditLookups feedbackMatrix, l.Hits := by
  induction feedbackMatrix generalizing manager with
  | nil => simp [creditLookups]
  | cons entry rest ih =>
    obtain ⟨hentry, hrest⟩ := List.forall_mem_cons.mp h
    have hrest' : ∀ l ∈ (manager.credit entry).creditLookups rest, l.Hits := ih fun e he => by
      rw [map_featureType_credit]
      exact hrest e he
    intro l hl
    rcases List.mem_append.mp hl with hl | hl
    · rw [List.eq_of_mem_replicate hl, Lookup.hits_iff]
      exact hentry
    · exact hrest' l hl

/-- All look-ups hit exactly if the network has the features of the matrix. -/
theorem hits_lookups_iff :
    (∀ l ∈ manager.lookups feedbackMatrix, l.Hits) ↔
      ∀ entry ∈ feedbackMatrix, entry.1 ∈ manager.features.map (·.featureType) := by
  constructor
  · intro h entry hentry
    have hl := h ⟨entry.1, manager.features⟩ (List.mem_append_left _ (List.mem_map_of_mem hentry))
    exact hl.1
  · intro h l hl
    rcases List.mem_append.mp hl with hl | hl
    · obtain ⟨entry, hentry, rfl⟩ := List.mem_map.mp hl
      rw [Lookup.hits_iff]
      exact h entry hentry
    · split at hl
      · exact hits_of_mem_creditLookups h l hl
      · cases hl

/-! ## Networks keep their features -/

theorem map_featureType_computeReputationWith (manager : AtlasDeviceFeatureManager)
    (feedbackMatrix : FeedbackMatrix) :
    (manager.computeReputationWith feedbackMatrix).features.map (·.featureType) =
      manager.features.map (·.featureType) := by
  obtain ⟨fs, hcredited, hcompute⟩ | hcompute := computeReputationWith_cases manager feedbackMatrix
  · rw [hcompute, features_computeReputation]
    exact hcredited.map_featureType
  · rw [hcompute, features_computeReputation]

theorem HasFeatures.computeReputationWith (h : HasFeatures weights manager.features)
    (feedbackMatrix : FeedbackMatrix) :
    HasFeatures weights (manager.computeReputationWith feedbackMatrix).features := by
  intro w hw
  rw [map_featureType_computeReputationWith]
  exact h w hw

theorem mem_map_addFeature (type : AtlasDeviceFeatureType) (w : ℚ) (fs : List AtlasDeviceFeature)
    (t : AtlasDeviceFeatureType) :
    t ∈ (addFeature type w fs).map (·.featureType) ↔ t ∈ fs.map (·.featureType) ∨ t = type := by
  rw [map_featureType_addFeature]
  split
  case isTrue hmem =>
    refine ⟨Or.inl, fun h => h.elim id ?_⟩
    rintro rfl
    exact hmem
  case isFalse => rw [List.mem_append, List.mem_singleton]

theorem map_featureType_modifyFeature {g : AtlasDeviceFeature → AtlasDeviceFeature}
    (hg : ∀ f, (g f).featureType = f.featureType) (type : AtlasDeviceFeatureType)
    (fs : List AtlasDeviceFeature) :
    (modifyFeature g type fs).map (·.featureType) = fs.map (·.featureType) := by
  induction fs with
  | nil => rfl
  | cons f fs ih =>
    rw [modifyFeature]
    split
    · rw [List.map_cons, List.map_cons, hg]
    · rw [List.map_cons, List.map_cons, ih]

theorem mem_map_selectFeature (fs : List AtlasDeviceFeature) (row : AtlasDeviceFeature)
    (t : AtlasDeviceFeatureType) :
    t ∈ (selectFeature fs row).map (·.featureType) ↔
      t ∈ fs.map (·.featureType) ∨ t = row.featureType := by
  have htypes : (selectFeature fs row).map (·.featureType) =
      (addFeature row.featureType row.weight fs).map (·.featureType) :=
    map_featureType_modifyFeature (g := fun f => { f with successTrans := row.successTrans })
      (fun _ => rfl) _ _
  rw [htypes, mem_map_addFeature]

/-- A loop that adds one feature in each iteration. -/
theorem mem_map_foldl {β : Type} {add : List AtlasDeviceFeature → β → List AtlasDeviceFeature}
    {key : β → AtlasDeviceFeatureType}
    (hadd : ∀ fs b t, t ∈ (add fs b).map (·.featureType) ↔ t ∈ fs.map (·.featureType) ∨ t = key b)
    (bs : List β) (fs : List AtlasDeviceFeature) (t : AtlasDeviceFeatureType) :
    t ∈ (bs.foldl add fs).map (·.featureType) ↔ t ∈ fs.map (·.featureType) ∨ t ∈ bs.map key := by
  induction bs generalizing fs with
  | nil => simp
  | cons b bs ih => rw [List.foldl_cons, ih, hadd, List.map_cons, List.mem_cons, or_assoc]

theorem features_initReputation_some (threshold : ℚ) (params : BayesParams) :
    (initReputation threshold weights (some params)).features =
      params.features.foldl selectFeature [] := by
  have hselect : ∀ manager :
      AtlasDeviceFeatureManager, (manager.selectBayesParams params).features =
      params.features.foldl selectFeature manager.features := by
    intro manager
    rw [selectBayesParams]
    split <;> rfl
  simp only [initReputation]
  split
  · rw [features_computeReputation, hselect]
    rfl
  · rw [hselect]
    rfl

/-- A network that comes into memory has its features exactly if no row was found, or the rows that
were read are of all of them. -/
theorem hasFeatures_initReputation_iff (threshold : ℚ) (stored : Option BayesParams) :
    HasFeatures weights (initReputation threshold weights stored).features ↔
      ∀ params ∈ stored, HasFeatures weights params.features := by
  cases stored with
  | none =>
    refine ⟨fun _ params hparams => absurd hparams (Option.not_mem_none _), fun _ w hw => ?_⟩
    rw [initReputation]
    have hadded := mem_map_foldl (fun fs (b : AtlasDeviceFeatureType × ℚ) t =>
      mem_map_addFeature b.1 b.2 fs t) weights [] w.1
    exact hadded.mpr (.inr (List.mem_map_of_mem hw))
  | some params =>
    simp only [HasFeatures, features_initReputation_some, mem_map_foldl mem_map_selectFeature,
      List.map_nil, List.not_mem_nil, false_or, Option.mem_some_iff, forall_eq']

end AtlasDeviceFeatureManager

/-! ## Scores of a request -/

variable (host : ByteOrder)

/-- The scores are of features of the data network. -/
def ScoresData (feedbackMatrix : FeedbackMatrix) : Prop :=
  ∀ entry ∈ feedbackMatrix, entry.1 ∈ dataWeights.map Prod.fst

theorem ScoresData.concat {feedbackMatrix : FeedbackMatrix} (h : ScoresData feedbackMatrix)
    {type : AtlasDeviceFeatureType} (htype : type ∈ dataWeights.map Prod.fst) (score : ℚ) :
    ScoresData (feedbackMatrix ++ [(type, score)]) := by
  intro entry hentry
  rcases List.mem_append.mp hentry with hentry | hentry
  · exact h entry hentry
  · rw [List.mem_singleton.mp hentry]
    exact htype

namespace FeedbackFields

theorem scoresData_readInner {fields : FeedbackFields} (h : ScoresData fields.feedbackMatrix)
    (cmd : AtlasCommand) :
    Ends (fun fields' => ScoresData fields'.feedbackMatrix) (fields.readInner host cmd) := by
  rw [readInner]
  split_ifs
  · exact h
  · refine ends_map ?_ _
    exact fun _ => h
  · refine ends_map ?_ _
    exact fun _ => h.concat (by decide) _
  · refine ends_map ?_ _
    exact fun _ => h.concat (by decide) _
  · exact h

theorem scoresData_read (pskIdentity : StdString) {fields : FeedbackFields}
    (h : ScoresData fields.feedbackMatrix) (cmd : AtlasCommand) :
    Ends (fun fields' => ScoresData fields'.feedbackMatrix) (fields.read host pskIdentity cmd) := by
  rw [read]
  split_ifs
  · trivial
  · trivial
  · exact h
  · trivial
  · exact Outcome.foldlM (I := fun _ (now : FeedbackFields) => ScoresData now.feedbackMatrix) _ h
      fun _ cmd _ _ _ hnow => scoresData_readInner host hnow cmd
  · exact h

end FeedbackFields

/-- An acceptable request scores features of the data network only. -/
theorem scoresData_readFeedback (tmp : UInt16) (pskIdentity : StdString) (reqPayload : List UInt8) :
    Ends (fun result => ScoresData result.2.2) (readFeedback host tmp pskIdentity reqPayload) := by
  have hread : Ends (fun fields => ScoresData fields.feedbackMatrix)
      ((AtlasCommandBatch.parsedCommands host reqPayload).foldlM
        (FeedbackFields.read host pskIdentity) { tmp := tmp }) :=
    Outcome.foldlM (I := fun _ (now : FeedbackFields) => ScoresData now.feedbackMatrix) _
      (List.forall_mem_nil _) fun _ cmd _ _ _ hnow =>
        FeedbackFields.scoresData_read host pskIdentity hnow cmd
  rw [readFeedback]
  split
  · trivial
  · refine hread.bind fun fields hfields => ?_
    refine (fields.settles_accept.mono fun result hresult => ?_).mono_error fun _ _ => trivial
    rw [hresult]
    exact hfields

/-! ## The look-ups of an event -/

/-- A network, and the matrix `computeReputation` is called with. -/
abbrev Scoring := AtlasDeviceFeatureManager × FeedbackMatrix

/-- The devices in memory, with a record of what `updateDataReputation` computes. -/
def Devices.recordingCalls (env : Env) : Calls (Devices × Option Scoring) where
  getDevice identity s :=
    let (devices, device) := s.1.getDevice env identity
    ((devices, s.2), device)
  updateDataReputation identity networkType feedbackMatrix s :=
    (s.1.updateDataReputation identity networkType feedbackMatrix,
      (s.1.scored identity networkType feedbackMatrix).map fun device =>
        (device.data, feedbackMatrix))

/-- The network and the matrix of an accepted feedback request. -/
def acceptedFeedback (env : Env) (tmp : UInt16) (devices : Devices) (pskIdentity : StdString)
    (reqPayload : List UInt8) : Option Scoring :=
  ((Devices.recordingCalls env).feedbackReputationCallback host tmp (devices, none) pskIdentity
    reqPayload).bind (·.1.2)

/-- What `computeReputation` looks up in an event: in the system network of every device for the
alarm, and in the data network of the device that is scored for a feedback request. -/
def LooksUp (devices : Devices) (l : Lookup) : Event → Prop
  | .sysRepAlarm feedback =>
    ∃ identity, ∃ device ∈ devices identity, l ∈ device.system.lookups (feedback identity).matrix
  | .feedback env tmp pskIdentity reqPayload =>
    ∃ accepted ∈ acceptedFeedback host env tmp devices pskIdentity reqPayload,
      l ∈ accepted.1.lookups accepted.2
  | .getDevice _ _ | .register _ _ | .expire _ => False

/-- Every look-up of the event hits. -/
def LookupsHit (devices : Devices) (event : Event) : Prop :=
  ∀ l, LooksUp host devices l event → l.Hits

/-- A device that comes into memory in this event finds no row of a network, or the rows that are
read are of all features of the network. -/
def Event.LoadsFeatures (devices : Devices) (event : Event) : Prop :=
  ∀ env identity, event.loads = some (env, identity) → devices identity = none →
    env.selectDevicePsk identity ≠ [] →
      (∀ params ∈ env.systemParams identity, HasFeatures systemWeights params.features) ∧
        ∀ params ∈ env.dataParams identity, HasFeatures dataWeights params.features

/-! ## Runs -/

/-- Both networks of the device have their features. -/
def AtlasDevice.HasFeatures (device : AtlasDevice) : Prop :=
  AtlasDeviceFeatureManager.HasFeatures systemWeights device.system.features ∧
    AtlasDeviceFeatureManager.HasFeatures dataWeights device.data.features

variable {host} {devices : Devices} {event : Event}

theorem hasFeatures_step (h : devices.Forall AtlasDevice.HasFeatures)
    (hloads : event.LoadsFeatures devices) :
    (step host devices event).1.Forall AtlasDevice.HasFeatures := by
  refine forall_step host h ?_ ?_ ?_ ?_
  · intro env identity henv hnone hpsk
    obtain ⟨hsystem, hdata⟩ := hloads env identity henv hnone hpsk
    exact ⟨(hasFeatures_initReputation_iff _ _).mpr hsystem,
      (hasFeatures_initReputation_iff _ _).mpr hdata⟩
  · exact fun _ _ hdevice => hdevice
  · exact fun _ _ hdevice => ⟨hdevice.1.computeReputationWith _, hdevice.2⟩
  · exact fun _ _ hdevice => ⟨hdevice.1, hdevice.2.computeReputationWith _⟩

/-- The network of an accepted request is the data network of a device in memory, and the request
scores its features. -/
theorem acceptedFeedback_cases {env : Env} {tmp : UInt16} {pskIdentity : StdString}
    {reqPayload : List UInt8} {accepted : Scoring}
    (h : acceptedFeedback host env tmp devices pskIdentity reqPayload = some accepted) :
    ScoresData accepted.2 ∧ ∃ identity device,
      device ∈ (devices.getDevice env pskIdentity).1 identity ∧ accepted.1 = device.data := by
  have hscores := scoresData_readFeedback host tmp pskIdentity reqPayload
  obtain ⟨result, hcallback, hresult⟩ := Option.bind_eq_some_iff.mp h
  obtain rfl | ⟨-, feedbackIdentity, sensorType, feedbackMatrix, hread, rfl⟩ :=
    (Devices.recordingCalls env).feedbackReputationCallback_cases host hcallback
  · -- nothing was recorded
    cases hresult
  · rw [hread] at hscores
    obtain ⟨device, hscored, rfl⟩ := Option.map_eq_some_iff.mp hresult
    exact ⟨hscores, feedbackIdentity, device, (Devices.scored_eq_some hscored).1, rfl⟩

/-- The alarm looks up the features of the system network of every device. -/
theorem lookupsHit_sysRepAlarm_iff (feedback : StdString → SystemFeedback) :
    LookupsHit host devices (.sysRepAlarm feedback) ↔
      devices.Forall fun device => HasFeatures systemWeights device.system.features := by
  have hmatrix : ∀ (feedback : SystemFeedback) (fs : List AtlasDeviceFeature),
      (∀ entry ∈ feedback.matrix, entry.1 ∈ fs.map (·.featureType)) ↔
        HasFeatures systemWeights fs := by
    intro feedback fs
    simp [SystemFeedback.matrix, HasFeatures, systemWeights]
  constructor
  · intro h identity device hdevice
    rw [← hmatrix (feedback identity), ← hits_lookups_iff]
    exact fun l hl => h l ⟨identity, device, hdevice, hl⟩
  · rintro h l ⟨identity, device, hdevice, hl⟩
    refine hits_lookups_iff.mpr ?_ l hl
    rw [hmatrix]
    exact h identity device hdevice

/-- Where all networks have their features, the look-ups of an event hit. -/
theorem lookupsHit_of_hasFeatures (h : devices.Forall AtlasDevice.HasFeatures)
    (hloads : event.LoadsFeatures devices) : LookupsHit host devices event := by
  cases event with
  | sysRepAlarm feedback =>
    rw [lookupsHit_sysRepAlarm_iff]
    exact fun identity device hdevice => (h identity device hdevice).1
  | feedback env tmp pskIdentity reqPayload =>
    rintro l ⟨accepted, haccepted, hl⟩
    obtain ⟨hscores, identity, device, hdevice, hdata⟩ := acceptedFeedback_cases haccepted
    have hget : (step host devices (.getDevice env pskIdentity)).1.Forall AtlasDevice.HasFeatures :=
      hasFeatures_step h hloads
    refine hits_lookups_iff.mpr (fun entry hentry => ?_) l hl
    obtain ⟨w, hw, htype⟩ := List.mem_map.mp (hscores entry hentry)
    rw [hdata]
    exact htype ▸ (hget identity device hdevice).2 w hw
  | getDevice _ _ | register _ _ | expire _ => exact fun l hl => absurd hl not_false

/-! ## Statements that fail -/

/-- Which statements fail while a network is read, and after how many rows that of
`selectFeatures`. -/
structure ReadFaults where
  checkDeviceForFeatures : Bool
  selectNetwork : Bool
  selectFeatures : Option ℕ

namespace BayesDatabase

variable (db : BayesDatabase) (key : NetworkKey)

/-- What a device that comes into memory finds of its network. -/
def storedUnder (faults : ReadFaults) : Option BayesParams :=
  if faults.checkDeviceForFeatures || !db.checkDeviceForFeatures key then none
  else if faults.selectNetwork then some ⟨none, [], false⟩
  else match faults.selectFeatures with
    | none => some (db.selectBayesParams key)
    | some n =>
      some { db.selectBayesParams key with
        features := (db.getFeature key).take n, success := false }

/-- What `insertBayesParams` leaves behind when `insertFeatures` fails after `n` rows. -/
def insertBayesParamsUntil (n : ℕ) (manager : AtlasDeviceFeatureManager) : BayesDatabase :=
  db.insertBayesParams key { manager with features := manager.features.take n }

/-- What `getDevice` finds in the database when these statements fail for the two networks. -/
def envUnder (selectDevicePsk : StdString → StdString) (system data : ReadFaults) : Env where
  selectDevicePsk := selectDevicePsk
  systemParams identity := db.storedUnder ⟨identity, 0⟩ system
  dataParams identity := db.storedUnder ⟨identity, 101⟩ data

/-- Rows of all features are read, unless `selectBayesParams` fails. -/
theorem hasFeatures_storedUnder {db : BayesDatabase} {key : NetworkKey}
    {weights : List (AtlasDeviceFeatureType × ℚ)} (h : HasFeatures weights (db.getFeature key))
    (check : Bool) :
    ∀ params ∈ db.storedUnder key ⟨check, false, none⟩, HasFeatures weights params.features := by
  intro params hparams
  rw [storedUnder] at hparams
  split at hparams
  · cases hparams
  · cases hparams
    exact h

end BayesDatabase

/-- The database after a run that had the lamp in memory. -/
def lampDatabase : BayesDatabase :=
  (run (Networks.step Networks.gatewaySetup) (Networks.init sampleDevices)
    [.load ⟨bytes "lamp", 0⟩, .load ⟨bytes "lamp", 101⟩]).db

/-- The lamp comes into memory, and the alarm runs. -/
def lampAlarm (env : Env) : List Event :=
  [.getDevice env (bytes "lamp"), .sysRepAlarm fun _ => ⟨1, 1, 1⟩]

/-- In every run in which the rows that are read for a network, if there are any, are of all its
features, `operator[]` finds every type that `computeReputation` looks up. -/
theorem lookupsHit_of_loadsFeatures (host : ByteOrder) (events : List Event)
    (h : AllSteps (step host) (fun devices event => event.LoadsFeatures devices) (fun _ => none)
      events) :
    AllSteps (step host) (LookupsHit host) (fun _ => none) events := by
  have hinit : Devices.Forall AtlasDevice.HasFeatures fun _ => none :=
    fun _ _ hdevice => absurd hdevice (Option.not_mem_none _)
  exact allSteps_of_invariant (fun _ _ => hasFeatures_step) (fun _ _ => lookupsHit_of_hasFeatures)
    hinit h

/-- The lamp in a later run, in which no statement fails. -/
theorem lookupsHit_of_loadsFeatures_lamp :
    AllSteps (step .little) (LookupsHit .little) (fun _ => none)
      (lampAlarm (lampDatabase.envUnder (fun _ => [1]) ⟨false, false, none⟩
        ⟨false, false, none⟩)) := by
  have hsystem : HasFeatures systemWeights (lampDatabase.getFeature ⟨bytes "lamp", 0⟩) := by
    decide +kernel
  have hdata : HasFeatures dataWeights (lampDatabase.getFeature ⟨bytes "lamp", 101⟩) := by
    decide +kernel
  refine lookupsHit_of_loadsFeatures .little _ ⟨?_, ?_, trivial⟩
  · rintro env identity ⟨⟩ - -
    exact ⟨BayesDatabase.hasFeatures_storedUnder hsystem false,
      BayesDatabase.hasFeatures_storedUnder hdata false⟩
  · rintro env identity ⟨⟩

/-- All rows of the lamp are there, but the totals of its system network cannot be read; or the
insertion of this network had failed after one row, and the row is read. The alarm looks up the two
or three features that are missing. -/
theorem not_lookupsHit_failed_statement :
    let failedRead := lampDatabase.envUnder (fun _ => [1]) ⟨false, true, none⟩ ⟨false, false, none⟩
    let failedInsert := ((Networks.init sampleDevices).db.insertBayesParamsUntil ⟨bytes "lamp", 0⟩ 1
      (initSystemReputation none)).envUnder (fun _ => [1]) ⟨false, false, none⟩ ⟨false, false, none⟩
    ¬ AllSteps (step .little) (LookupsHit .little) (fun _ => none) (lampAlarm failedRead) ∧
      ¬ AllSteps (step .little) (LookupsHit .little) (fun _ => none) (lampAlarm failedInsert) := by
  intro failedRead failedInsert
  -- the lamp in memory has too few features
  have hmiss : ∀ env : Env, (((step .little (fun _ => none) (.getDevice env (bytes "lamp"))).1
      (bytes "lamp")).all fun device => decide (HasFeatures systemWeights device.system.features)) =
        false → ¬ AllSteps (step .little) (LookupsHit .little) (fun _ => none) (lampAlarm env) := by
    intro env hall h
    rw [← Bool.not_eq_true, Option.all_eq_true] at hall
    refine hall fun device hdevice => ?_
    rw [decide_eq_true_iff]
    exact (lookupsHit_sysRepAlarm_iff _).mp h.2.1 _ device hdevice
  exact ⟨hmiss failedRead (by decide +kernel), hmiss failedInsert (by decide +kernel)⟩

end Atlas.Reputation

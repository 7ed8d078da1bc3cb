import Atlas.Client.CoapClient
import Atlas.Lib.CString

/-! # Telemetry features of the client

The features are kept in a list, in the order in which they are added. A feature is known by its
path, which must be unique. It is pushed to the gateway after registration, on request and by its
two alarms. A push that times out is repeated: the callback only gets the URI of the request, and
takes the first feature whose path occurs in it. This is another feature if a path that is added
earlier is a part of the URI. All other functions compare whole paths.

Reference: `telemetry/atlas_telemetry.c`, `utils/atlas_config.c` (`atlas_cfg_coap_get_uri`).
-/

namespace Atlas.Client.Telemetry

open CString EventMachine

/-- `atlas_telemetry_t`. The callback for the payload is given by the environment of a push. -/
structure AtlasTelemetry where
  uriPath : List UInt8
  pushId : ℤ
  thresholdId : ℤ
deriving DecidableEq

/-- The configuration of the gateway. -/
structure Config where
  gwHostname : List UInt8
  gwPort : List UInt8

/-- `ATLAS_URI_MAX_LEN`. -/
def atlasUriMaxLen : ℕ := 256

/-- The text `atlas_cfg_coap_get_uri` puts together. -/
def Config.uri (cfg : Config) (path : List UInt8) : List UInt8 :=
  literal "coaps://" ++ cfg.gwHostname ++ literal ":" ++ cfg.gwPort ++ literal "/" ++ path

/-- `atlas_cfg_coap_get_uri` with a buffer of `ATLAS_URI_MAX_LEN` bytes; `none` is a copy over its
end. -/
def Config.atlasCfgCoapGetUri (cfg : Config) (path : List UInt8) : Option (List UInt8) :=
  if (cfg.uri path).length < atlasUriMaxLen then some (cfg.uri path) else none

/-- What a push depends on: whether the client is registered, the payload of a feature with and
without its threshold (empty if there is none), and what the request returns. -/
structure Env where
  registered : Bool
  payload : List UInt8 → Bool → List UInt8
  status : RequestStatus

/-- A request to the gateway. -/
structure Request where
  uri : List UInt8
  payload : List UInt8
  status : RequestStatus
deriving DecidableEq

/-- What a call of `atlas_telemetry_push` does. -/
inductive Pushed where
  | skipped
  | requested (request : Request)
  | overflow
deriving DecidableEq

/-- `atlas_telemetry_push`. -/
def atlasTelemetryPush (cfg : Config) (env : Env) (useThreshold : Bool) (feature : AtlasTelemetry) :
    Pushed :=
  if !env.registered then .skipped
  else if env.payload feature.uriPath useThreshold = [] then .skipped
  else match cfg.atlasCfgCoapGetUri feature.uriPath with
    | none => .overflow
    | some uri => .requested ⟨uri, env.payload feature.uriPath useThreshold, env.status⟩

/-- The entry of a new feature. -/
def AtlasTelemetry.new (uriPath : List UInt8) : AtlasTelemetry := ⟨uriPath, -1, -1⟩

/-- `atlas_telemetry_add`. -/
def atlasTelemetryAdd (features : List AtlasTelemetry) (uriPath : List UInt8) :
    List AtlasTelemetry :=
  features ++ [.new uriPath]

/-- `atlas_telemetry_del`. -/
def atlasTelemetryDel (features : List AtlasTelemetry) (uriPath : List UInt8) :
    List AtlasTelemetry :=
  features.eraseP (·.uriPath = uriPath)

/-- The first feature with this path, changed in place. -/
def modify (g : AtlasTelemetry → AtlasTelemetry) (uriPath : List UInt8) :
    List AtlasTelemetry → List AtlasTelemetry
  | [] => []
  | p :: features =>
    if p.uriPath = uriPath then g p :: features else p :: modify g uriPath features

/-- A call of `atlas_telemetry_push` for a feature. -/
structure Push where
  feature : AtlasTelemetry
  useThreshold : Bool
  pushed : Pushed
deriving DecidableEq

variable (cfg : Config) (env : Env)

/-- The push of the feature that is found, if there is one. -/
def pushFound (useThreshold : Bool) (found : Option AtlasTelemetry) : List Push :=
  (found.map fun p => ⟨p, useThreshold, atlasTelemetryPush cfg env useThreshold p⟩).toList

/-- `telemetry_callback`. -/
def telemetryCallback (uri : List UInt8) (respStatus : AtlasCoapResponse)
    (features : List AtlasTelemetry) : List Push :=
  if respStatus = .ok then []
  else if respStatus ≠ .timeout then []
  else pushFound cfg env false (features.find? fun p => strstr uri p.uriPath)

/-- `push_alert_alarm_cb`. -/
def pushAlertAlarmCb (alarmId : ℤ) (features : List AtlasTelemetry) : List Push :=
  pushFound cfg env false (features.find? (·.pushId = alarmId))

/-- `threshold_alert_alarm_cb`. -/
def thresholdAlertAlarmCb (alarmId : ℤ) (features : List AtlasTelemetry) : List Push :=
  pushFound cfg env true (features.find? (·.thresholdId = alarmId))

/-- `atlas_telemetry_push_all`. -/
def atlasTelemetryPushAll (features : List AtlasTelemetry) : List Push :=
  features.map fun p => ⟨p, false, atlasTelemetryPush cfg env false p⟩

/-- `atlas_telemetry_push_set`. A new alarm gets the identifier `alarmId`. -/
def atlasTelemetryPushSet (uriPath : List UInt8) (pushRate : UInt16) (alarmId : ℤ)
    (features : List AtlasTelemetry) : List AtlasTelemetry × List Push :=
  if pushRate = 0 then (features, pushFound cfg env false (features.find? (·.uriPath = uriPath)))
  else (modify (fun p => { p with pushId := alarmId }) uriPath features, [])

/-- `atlas_telemetry_threshold_set`. A new alarm gets the identifier `alarmId`. -/
def atlasTelemetryThresholdSet (uriPath : List UInt8) (scanRate : UInt16) (alarmId : ℤ)
    (features : List AtlasTelemetry) : List AtlasTelemetry :=
  if scanRate = 0 then features
  else modify (fun p => { p with thresholdId := alarmId }) uriPath features

/-- A call of the module, or a callback. -/
inductive Event where
  | add (uriPath : List UInt8)
  | del (uriPath : List UInt8)
  | pushAll (env : Env)
  | pushSet (env : Env) (uriPath : List UInt8) (pushRate : UInt16) (alarmId : ℤ)
  | thresholdSet (uriPath : List UInt8) (scanRate : UInt16) (alarmId : ℤ)
  | pushAlarm (env : Env) (alarmId : ℤ)
  | thresholdAlarm (env : Env) (alarmId : ℤ)
  | response (env : Env) (uri : List UInt8) (respStatus : AtlasCoapResponse)

/-- One event, and the pushes it makes. -/
def step (features : List AtlasTelemetry) : Event → List AtlasTelemetry × List Push
  | .add uriPath => (atlasTelemetryAdd features uriPath, [])
  | .del uriPath => (atlasTelemetryDel features uriPath, [])
  | .pushAll env => (features, atlasTelemetryPushAll cfg env features)
  | .pushSet env uriPath pushRate alarmId =>
    atlasTelemetryPushSet cfg env uriPath pushRate alarmId features
  | .thresholdSet uriPath scanRate alarmId =>
    (atlasTelemetryThresholdSet uriPath scanRate alarmId features, [])
  | .pushAlarm env alarmId => (features, pushAlertAlarmCb cfg env alarmId features)
  | .thresholdAlarm env alarmId => (features, thresholdAlertAlarmCb cfg env alarmId features)
  | .response env uri respStatus => (features, telemetryCallback cfg env uri respStatus features)

/-! ## Paths are unique -/

/-- A feature is added under a path that is not in use. -/
def AddsNew (features : List AtlasTelemetry) : Event → Prop
  | .add uriPath => uriPath ∉ features.map (·.uriPath)
  | _ => True

instance (features : List AtlasTelemetry) (e : Event) : Decidable (AddsNew features e) :=
  match e with
  | .add _ => inferInstanceAs (Decidable (_ ∉ _))
  | .del _ | .pushAll _ | .pushSet _ _ _ _ | .thresholdSet _ _ _ | .pushAlarm _ _
  | .thresholdAlarm _ _ | .response _ _ _ => .isTrue trivial

/-- The features have different paths. -/
def Unique (features : List AtlasTelemetry) : Prop := (features.map (·.uriPath)).Nodup

theorem map_uriPath_modify {g : AtlasTelemetry → AtlasTelemetry}
    (hg : ∀ p, (g p).uriPath = p.uriPath) (uriPath : List UInt8) (features : List AtlasTelemetry) :
    (modify g uriPath features).map (·.uriPath) = features.map (·.uriPath) := by
  induction features with
  | nil => rfl
  | cons p features ih =>
    rw [modify]
    split
    · rw [List.map_cons, List.map_cons, hg]
    · rw [List.map_cons, List.map_cons, ih]

theorem Unique.modify {features : List AtlasTelemetry} (h : Unique features)
    {g : AtlasTelemetry → AtlasTelemetry} (hg : ∀ p, (g p).uriPath = p.uriPath)
    (uriPath : List UInt8) : Unique (Telemetry.modify g uriPath features) := by
  rw [Unique, map_uriPath_modify hg]
  exact h

theorem unique_step {features : List AtlasTelemetry} {e : Event} (h : Unique features)
    (hnew : AddsNew features e) : Unique (step cfg features e).1 := by
  cases e with
  | add uriPath =>
    rw [step, atlasTelemetryAdd, Unique, List.map_append]
    exact List.nodup_append_singleton h hnew
  | del uriPath => exact h.sublist ((List.eraseP_sublist).map _)
  | pushSet env uriPath pushRate alarmId =>
    rw [step, atlasTelemetryPushSet]
    split
    · exact h
    · refine h.modify ?_ uriPath
      exact fun _ => rfl
  | thresholdSet uriPath scanRate alarmId =>
    rw [step, atlasTelemetryThresholdSet]
    split
    · exact h
    · refine h.modify ?_ uriPath
      exact fun _ => rfl
  | pushAll _ | pushAlarm _ _ | thresholdAlarm _ _ | response _ _ _ => exact h

theorem unique_run {es : List Event} (h : AllSteps (step cfg) AddsNew [] es) :
    Unique (run (step cfg) [] es) := by
  have hinit : Unique [] := List.nodup_nil
  exact (allStates_of_invariant (J := Unique) (fun _ _ => unique_step cfg)
    (fun _ hunique => hunique) hinit h).last

/-! ## Pushes that time out -/

variable {cfg}

/-- The URI of a request ends with the path of the feature. -/
theorem uriPath_infix_of_requested {env : Env} {useThreshold : Bool} {f : AtlasTelemetry}
    {request : Request} (h : atlasTelemetryPush cfg env useThreshold f = .requested request) :
    f.uriPath <:+: request.uri := by
  rw [atlasTelemetryPush] at h
  split_ifs at h
  rw [Config.atlasCfgCoapGetUri] at h
  split_ifs at h
  cases h
  exact (List.suffix_append _ _).isInfix

/-- The feature found for a URI that holds the path of `f` is `f` exactly if it holds no path of an
earlier feature. -/
theorem find?_strstr_eq_iff {pre post : List AtlasTelemetry} {f : AtlasTelemetry} {uri : List UInt8}
    (hunique : Unique (pre ++ f :: post)) (huri : f.uriPath <:+: uri) :
    (pre ++ f :: post).find? (fun p => strstr uri p.uriPath) = some f ↔
      ∀ p ∈ pre, ¬ p.uriPath <:+: uri := by
  have hf : strstr uri f.uriPath = true := strstr_iff.mpr huri
  rw [List.find?_append, List.find?_cons, hf]
  constructor
  · intro hfind p hp hinfix
    -- then an earlier feature would be found, which is not `f`
    have hsome : (pre.find? fun p => strstr uri p.uriPath).isSome :=
      List.find?_isSome.mpr ⟨p, hp, strstr_iff.mpr hinfix⟩
    obtain ⟨q, hq⟩ := Option.isSome_iff_exists.mp hsome
    rw [hq, Option.some_or] at hfind
    cases hfind
    rw [Unique, List.map_append, List.nodup_append] at hunique
    exact hunique.2.2 _ (List.mem_map_of_mem (List.mem_of_find?_eq_some hq)) _ (by simp) rfl
  · intro hnone
    have hpre : (pre.find? fun p => strstr uri p.uriPath) = none := by
      rw [List.find?_eq_none]
      exact fun p hp hstr => hnone p hp (strstr_iff.mp hstr)
    rw [hpre, Option.none_or]

/-- However the features were added and removed under unique paths, and whatever alarms were set, a
feature whose push times out is the one that is pushed again exactly if the path of no earlier
feature is a part of its URI. -/
theorem timeout_pushes_same_iff (cfg : Config) (es : List Event)
    (hunique : AllSteps (step cfg) AddsNew [] es) (pre post : List AtlasTelemetry)
    (f : AtlasTelemetry)
    (hfeatures : run (step cfg) [] es = pre ++ f :: post) (env env' : Env) (useThreshold : Bool)
    (request : Request) (hpush : atlasTelemetryPush cfg env useThreshold f = .requested request) :
    (step cfg (run (step cfg) [] es) (.response env' request.uri .timeout)).2.map (·.feature) =
      [f] ↔ ∀ p ∈ pre, ¬ p.uriPath <:+: request.uri := by
  have hdistinct := unique_run cfg hunique
  rw [hfeatures] at hdistinct ⊢
  rw [← find?_strstr_eq_iff hdistinct (uriPath_infix_of_requested hpush), step, telemetryCallback,
    if_neg (by decide), if_neg (by decide), pushFound]
  cases (pre ++ f :: post).find? fun p => strstr request.uri p.uriPath with
  | none => simp
  | some p => simp

/-- `atlas_telemetry_features_init`: the features of the client. -/
def atlasTelemetryFeaturesInit : List Event :=
  ["hostname", "kernel_info", "sysinfo/uptime", "sysinfo/totalram", "sysinfo/freeram",
    "sysinfo/sharedram", "sysinfo/bufferram", "sysinfo/totalswap", "sysinfo/freeswap",
    "sysinfo/procs",
    "sysinfo/load1", "sysinfo/load5", "sysinfo/load15", "packets_per_minute", "packets_avg"].map
    fun name => .add (literal "gateway/telemetry/" ++ literal name)

/-- A feature of the client. -/
def clientFeature (name : String) : AtlasTelemetry :=
  .new (literal "gateway/telemetry/" ++ literal name)

/-- A gateway in the local network. -/
def localGateway : Config := ⟨literal "gw.local", literal "10100"⟩

/-- The features after `atlas_telemetry_features_init`. -/
def clientFeatures : List AtlasTelemetry := run (step localGateway) [] atlasTelemetryFeaturesInit

/-- A client that is registered, with a payload for every feature. -/
def readyEnv : Env := ⟨true, fun _ _ => [1], .ok⟩

/-- The push of the load over five minutes. -/
theorem timeout_pushes_same_load5 :
    (step localGateway clientFeatures
      (.response readyEnv (localGateway.uri (clientFeature "sysinfo/load5").uriPath)
        .timeout)).2.map (·.feature) = [clientFeature "sysinfo/load5"] :=
  (timeout_pushes_same_iff localGateway atlasTelemetryFeaturesInit (by decide +kernel)
    (clientFeatures.take 11) (clientFeatures.drop 12) (clientFeature "sysinfo/load5")
    (by decide +kernel) readyEnv readyEnv false ⟨_, [1], .ok⟩ (by decide +kernel)).mpr
      (by decide +kernel)

/-- When the push of the load over 15 minutes times out, the load over one minute is pushed. -/
theorem timeout_of_load15_pushes_load1 :
    AllSteps (step localGateway) AddsNew [] atlasTelemetryFeaturesInit ∧
      clientFeature "sysinfo/load15" ∈ clientFeatures ∧
      atlasTelemetryPush localGateway readyEnv false (clientFeature "sysinfo/load15") =
        .requested ⟨localGateway.uri (clientFeature "sysinfo/load15").uriPath, [1], .ok⟩ ∧
      (step localGateway clientFeatures
        (.response readyEnv (localGateway.uri (clientFeature "sysinfo/load15").uriPath)
          .timeout)).2.map (·.feature) = [clientFeature "sysinfo/load1"] := by
  decide +kernel

end Atlas.Client.Telemetry

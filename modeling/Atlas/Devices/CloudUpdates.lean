import Atlas.Devices.KeepAlive
import Atlas.Lib.Json

/-! # Updates for the cloud

What a device tells the cloud is put together by hand: the fragments of its fields are concatenated
with the identity into one text, and no byte of a value is escaped. The text carries the fields it
was made from exactly when the identity and all the values are plain strings
(`carries_jsonFields_iff`).

Reference: `cloud/AtlasDeviceCloud.cpp` (`updateDevice`), `device/AtlasDevice.cpp`,
`telemetry/AtlasTelemetryInfo.cpp` (`toJSON`).
-/

namespace Atlas.Devices

open EventMachine Gateway Json

/-- The text `updateDevice` publishes. -/
def updateMessage (identity jsonInfo : StdString) : StdString :=
  bytes "\x7b\n"
    ++ jsonField (bytes "commandType") (bytes "ATLAS_CMD_GATEWAY_CLIENT_INFO_UPDATE") ++ bytes ","
    ++ bytes "\n\"commandPayload\": \n"
    ++ bytes "\x7b\n"
    ++ jsonField (bytes "identity") identity ++ bytes ","
    ++ bytes "\n" ++ jsonInfo
    ++ bytes "\n\x7d\n\x7d"

/-! ## What an update is to carry -/

/-- The object an update stands for. -/
def updateValue (identity : StdString) (fields : List (StdString × StdString)) : Value :=
  .object [(bytes "commandType", .string (bytes "ATLAS_CMD_GATEWAY_CLIENT_INFO_UPDATE")),
    (bytes "commandPayload", .object (members ((bytes "identity", identity) :: fields)))]

/-- The update of a device with this fragment is a JSON text, and its payload has the identity and
these fields, and nothing else. -/
def Carries (identity jsonInfo : StdString) (fields : List (StdString × StdString)) : Prop :=
  parse (updateMessage identity jsonInfo) = some (updateValue identity fields)

/-- The fields of `toJSON`. -/
def AtlasDevice.fields (env : Env) (device : AtlasDevice) : List (StdString × StdString) :=
  [(bytes "registered", if device.registered then bytes "true" else bytes "false"),
      (bytes "lastRegisterTime", device.regTime), (bytes "lastKeepAliveTime", device.keepAliveTime),
      (bytes "ipPort", device.ipPort)]
    ++ device.telemetryInfo.features.rows
    ++ [(bytes "systemReputation", env.systemReputation device.identity),
      (bytes "temperatureReputation", env.temperatureReputation device.identity)]
    ++ statsFields device.stats
    ++ device.policy.toList.flatMap policyFields

/-! ## Fragments and their fields -/

theorem jsonField_append (key value t : StdString) :
    jsonField key value ++ t =
      quote :: (key ++ quote :: colon :: space :: quote :: (value ++ quote :: t)) := by
  have hquote : bytes "\"" = [quote] := rfl
  have hsep : bytes "\": \"" = [quote, colon, space, quote] := rfl
  simp [jsonField, hquote, hsep]

theorem head?_skip_jsonField (key value t : StdString) :
    (skip (newline :: (jsonField key value ++ t))).head? = some quote := by
  rw [jsonField_append]
  rfl

theorem jsonFields_singleton (field : StdString × StdString) :
    jsonFields [field] = jsonField field.1 field.2 := List.intercalate_singleton

theorem jsonFields_cons_cons (field field' : StdString × StdString)
    (fields : List (StdString × StdString)) :
    jsonFields (field :: field' :: fields) =
      jsonField field.1 field.2 ++ comma :: newline :: jsonFields (field' :: fields) := by
  have hsep : bytes ",\n" = [comma, newline] := rfl
  simp [jsonFields, hsep]

theorem length_le_length_jsonFields (fields : List (StdString × StdString)) :
    fields.length ≤ (jsonFields fields).length := by
  induction fields with
  | nil => exact Nat.zero_le _
  | cons field fields ih =>
    cases fields with
    | nil =>
      have h := congrArg List.length (jsonField_append field.1 field.2 [])
      rw [jsonFields_singleton]
      simp only [List.append_nil, List.length_cons, List.length_nil] at h ⊢
      omega
    | cons field' fields =>
      rw [jsonFields_cons_cons]
      simp only [List.length_append, List.length_cons] at ih ⊢
      omega

/-! ## Parsing the fields -/

variable {n m : ℕ} {t r : StdString} {field : StdString × StdString}
  {fields : List (StdString × StdString)}

/-- Reading a field is reading its value up to the closing quote. -/
theorem member_jsonField (n : ℕ) (hkey : Plain field.1) (t : StdString) :
    member (value (n + 1)) (newline :: (jsonField field.1 field.2 ++ t)) =
      (string (field.2 ++ quote :: t)).map fun (s, r) => ((field.1, .string s), r) := by
  have hskip : skip (newline :: (jsonField field.1 field.2 ++ t)) =
      quote :: (field.1 ++ quote :: colon :: space :: quote :: (field.2 ++ quote :: t)) := by
    rw [jsonField_append]
    rfl
  rw [member_of_plain hkey hskip, value_of_quote n rfl, Option.map_map]
  rfl

/-- A field with a plain value is read. -/
theorem member_jsonField_of_plain (field : StdString × StdString) (n : ℕ) (hkey : Plain field.1)
    (hvalue : Plain field.2) (t : StdString) :
    member (value (n + 1)) (newline :: (jsonField field.1 field.2 ++ t)) =
      some ((field.1, .string field.2), t) := by
  rw [member_jsonField n hkey, string_of_plain hvalue]
  rfl

/-- Only a field with a plain value is read, as long as a line break comes before the next quote. -/
theorem plain_of_member_jsonField {w : StdString} (hkey : Plain field.1) (hw : quote ∉ w)
    (h : member (value (n + 1)) (newline :: (jsonField field.1 field.2 ++ (w ++ newline :: t))) =
      some ((field.1, .string field.2), r)) : Plain field.2 := by
  rw [member_jsonField n hkey] at h
  obtain ⟨⟨s, r'⟩, hstring, hfield⟩ := Option.map_eq_some_iff.mp h
  cases hfield
  exact plain_of_string hw hstring

/-- Fields with plain values are read. -/
theorem items_jsonFields (n : ℕ) (hne : fields ≠ []) (hkeys : ∀ f ∈ fields, Plain f.1)
    (hvalues : ∀ f ∈ fields, Plain f.2) (hm : fields.length ≤ m) (t : StdString) :
    items closeBrace (member (value (n + 1))) m
        (newline :: (jsonFields fields ++ newline :: closeBrace :: t)) =
      some (members fields, t) := by
  induction fields generalizing m with
  | nil => exact absurd rfl hne
  | cons field fields ih =>
    obtain ⟨m, rfl⟩ := Nat.exists_eq_succ_of_ne_zero (Nat.ne_zero_of_lt hm)
    obtain ⟨hkey, hkeys⟩ := List.forall_mem_cons.mp hkeys
    obtain ⟨hvalue, hvalues⟩ := List.forall_mem_cons.mp hvalues
    have hread := member_jsonField_of_plain field n hkey hvalue
    cases fields with
    | nil =>
      rw [jsonFields_singleton]
      exact items_last m (hread _) rfl
    | cons field' fields =>
      rw [jsonFields_cons_cons, List.append_assoc, List.cons_append, List.cons_append,
        items_comma m (by decide) (hread _) rfl,
        ih (by simp) hkeys hvalues (Nat.le_of_succ_le_succ hm)]
      rfl

/-- Only fields with plain values are read. -/
theorem plain_of_items_jsonFields (hkeys : ∀ f ∈ fields, Plain f.1)
    (h : items closeBrace (member (value (n + 1))) m
        (newline :: (jsonFields fields ++ newline :: closeBrace :: t)) =
      some (members fields, r)) : ∀ f ∈ fields, Plain f.2 := by
  induction fields generalizing m with
  | nil => simp
  | cons field fields ih =>
    cases m with
    | zero => cases h
    | succ m =>
      obtain ⟨hkey, hkeys⟩ := List.forall_mem_cons.mp hkeys
      cases fields with
      | nil =>
        rw [jsonFields_singleton] at h
        obtain ⟨r', hfirst⟩ := head_of_items m h
        have hvalue : Plain field.2 :=
          plain_of_member_jsonField hkey List.not_mem_nil hfirst
        simpa using hvalue
      | cons field' fields =>
        rw [jsonFields_cons_cons, List.append_assoc, List.cons_append, List.cons_append] at h
        obtain ⟨r', hfirst⟩ := head_of_items m h
        have hvalue : Plain field.2 :=
          plain_of_member_jsonField (w := [comma]) hkey (by decide) hfirst
        rw [items_comma m (by decide) (member_jsonField_of_plain field n hkey hvalue _) rfl] at h
        obtain ⟨⟨rest, r''⟩, hrest, hmembers⟩ := Option.map_eq_some_iff.mp h
        cases hmembers
        exact List.forall_mem_cons.mpr ⟨hvalue, ih hkeys hrest⟩

/-! ## Parsing an update -/

/-- An update from the value of its payload on. -/
def payloadText (identity : StdString) (fields : List (StdString × StdString)) : StdString :=
  space :: newline :: openBrace :: newline ::
    (jsonFields ((bytes "identity", identity) :: fields) ++
    newline :: closeBrace :: [newline, closeBrace])

/-- The text of an update, up to its payload. -/
theorem updateMessage_jsonFields (identity : StdString) (hne : fields ≠ []) :
    updateMessage identity (jsonFields fields) =
      openBrace :: newline ::
        (jsonField (bytes "commandType") (bytes "ATLAS_CMD_GATEWAY_CLIENT_INFO_UPDATE") ++
          comma :: newline :: quote ::
            (bytes "commandPayload" ++ quote :: colon :: payloadText identity fields)) := by
  have hopen : bytes "\x7b\n" = [openBrace, newline] := rfl
  have hcomma : bytes "," = [comma] := rfl
  have hpayload : bytes "\n\"commandPayload\": \n" =
      newline :: quote :: (bytes "commandPayload" ++ [quote, colon, space, newline]) := rfl
  have hnewline : bytes "\n" = [newline] := rfl
  have hclose : bytes "\n\x7d\n\x7d" = [newline, closeBrace, newline, closeBrace] := rfl
  obtain ⟨field, fields, rfl⟩ := List.exists_cons_of_ne_nil hne
  rw [payloadText, jsonFields_cons_cons]
  simp only [updateMessage, hopen, hcomma, hpayload, hnewline, hclose, List.append_assoc,
    List.cons_append, List.nil_append]

/-- The header of an update is read, whatever its payload is. -/
theorem parse_updateMessage (identity : StdString) (hne : fields ≠ []) : ∃ n m,
    parse (updateMessage identity (jsonFields fields)) =
      (items closeBrace (member (value (n + 2))) (m + 1) (newline :: quote ::
          (bytes "commandPayload" ++ quote :: colon :: payloadText identity fields))).bind
        fun (rest, r) => if skip r = [] then some (.object
          ((bytes "commandType", .string (bytes "ATLAS_CMD_GATEWAY_CLIENT_INFO_UPDATE")) :: rest))
          else none := by
  have hread := fun n => member_jsonField_of_plain
    (bytes "commandType", bytes "ATLAS_CMD_GATEWAY_CLIENT_INFO_UPDATE") (n + 1)
    (plain_of_all (by decide)) (plain_of_all (by decide))
    (comma :: newline :: quote ::
      (bytes "commandPayload" ++ quote :: colon :: payloadText identity fields))
  have hlength : ∀ x y : StdString, (newline :: (x ++ comma :: y)).length =
      x.length + y.length + 1 + 1 := by
    intro x y
    simp only [List.length_cons, List.length_append]
    omega
  rw [updateMessage_jsonFields identity hne, parse_eq_bind, List.length_cons, hlength,
    value_of_openBrace _ rfl, list_of_head? (by rw [head?_skip_jsonField]; decide), hlength,
    items_comma _ (by decide) (hread _) rfl, Option.map_map, Option.bind_map]
  exact ⟨_, _, rfl⟩

/-- The payload is an object, and its fields are read one after the other. -/
theorem member_payloadText (n : ℕ) (identity : StdString) (hne : fields ≠ []) :
    ∃ m, fields.length + 1 ≤ m ∧
      member (value (n + 2)) (newline :: quote ::
          (bytes "commandPayload" ++ quote :: colon :: payloadText identity fields)) =
        (items closeBrace (member (value (n + 1))) m
          (newline :: (jsonFields ((bytes "identity", identity) :: fields) ++
            newline :: closeBrace :: [newline, closeBrace]))).map
          fun (ms, r) => ((bytes "commandPayload", .object ms), r) := by
  have hquote : (skip (newline :: (jsonFields ((bytes "identity", identity) :: fields) ++
      newline :: closeBrace :: [newline, closeBrace]))).head? ≠ some closeBrace := by
    obtain ⟨field, fields, rfl⟩ := List.exists_cons_of_ne_nil hne
    rw [jsonFields_cons_cons, List.append_assoc, head?_skip_jsonField]
    decide
  have hlength := length_le_length_jsonFields ((bytes "identity", identity) :: fields)
  rw [payloadText, member_of_plain (plain_of_all (by decide)) rfl,
    value_of_openBrace (n + 1) rfl, list_of_head? hquote, Option.map_map]
  refine ⟨_, Nat.le_trans hlength ?_, rfl⟩
  simp only [List.length_cons, List.length_append]
  omega

/-- An update carries its fields exactly when the identity and the values are plain. -/
theorem carries_jsonFields_iff (identity : StdString) (hne : fields ≠ [])
    (hkeys : ∀ f ∈ fields, Plain f.1) :
    Carries identity (jsonFields fields) fields ↔ Plain identity ∧ ∀ f ∈ fields, Plain f.2 := by
  have hkeys' : ∀ f ∈ (bytes "identity", identity) :: fields, Plain f.1 :=
    List.forall_mem_cons.mpr ⟨plain_of_all (s := bytes "identity") (by decide), hkeys⟩
  have hvalues := List.forall_mem_cons (p := fun f : StdString × StdString => Plain f.2)
    (a := (bytes "identity", identity)) (l := fields)
  obtain ⟨n, k, hparse⟩ := parse_updateMessage identity hne
  obtain ⟨m, hm, hpayload⟩ := member_payloadText n identity hne
  rw [Carries, hparse, ← hvalues]
  constructor
  · intro h
    obtain ⟨⟨rest, r⟩, hitems, h⟩ := Option.bind_eq_some_iff.mp h
    obtain ⟨-, hobject⟩ := Option.ite_none_right_eq_some.mp h
    obtain ⟨-, hrest⟩ := List.cons.inj (Value.object.inj (Option.some.inj hobject))
    subst hrest
    obtain ⟨r', hfirst⟩ := head_of_items k hitems
    rw [hpayload] at hfirst
    obtain ⟨⟨ms, r''⟩, hinner, hms⟩ := Option.map_eq_some_iff.mp hfirst
    cases hms
    exact plain_of_items_jsonFields hkeys' hinner
  · intro hplain
    have hinner := items_jsonFields n (by simp) hkeys' hplain hm [newline, closeBrace]
    rw [items_last k (by rw [hpayload, hinner]; rfl) rfl]
    rfl

/-! ## The fields of a device -/

/-- The keys of `AtlasDevice.fields`. -/
def deviceKeys (policy : Bool) : List StdString :=
  [bytes "registered", bytes "lastRegisterTime", bytes "lastKeepAliveTime", bytes "ipPort"]
    ++ telemetryFeatures.map (·.name)
    ++ [bytes "systemReputation", bytes "temperatureReputation"]
    ++ [bytes "firewallRuleDroppedPkts", bytes "firewallRulePassedPkts",
      bytes "firewallTxDroppedPkts", bytes "firewallTxPassedPkts"]
    ++ if policy then
        [bytes "pubSubClientId", bytes "firewallPolicyQos", bytes "firewallPolicyPpm",
          bytes "firewallPolicyPayloadLen"]
      else []

theorem plain_of_mem_deviceKeys {policy : Bool} {key : StdString} (h : key ∈ deviceKeys policy) :
    Plain key := by
  have hall : ∀ policy, (deviceKeys policy).all (·.all (unescaped [·])) = true := by decide +kernel
  exact plain_of_all (List.all_eq_true.mp (hall policy) key h)

/-- There are values for the features of the constructor, and for no others. -/
def AtlasTelemetryInfo.Known (info : AtlasTelemetryInfo) : Prop :=
  info.features.rows.map Prod.fst = telemetryFeatures.map (·.name)

theorem map_fst_fields {env : Env} {device : AtlasDevice} (h : device.telemetryInfo.Known) :
    (device.fields env).map Prod.fst = deviceKeys device.policy.isSome := by
  rw [AtlasTelemetryInfo.Known] at h
  simp only [AtlasDevice.fields, deviceKeys, List.map_append, h]
  cases device.policy <;> rfl

theorem jsonFields_append {fields' : List (StdString × StdString)} (hne : fields ≠ [])
    (hne' : fields' ≠ []) :
    jsonFields (fields ++ fields') = jsonFields fields ++ bytes ",\n" ++ jsonFields fields' := by
  have hsep : bytes ",\n" = [comma, newline] := rfl
  obtain ⟨field', rest', rfl⟩ := List.exists_cons_of_ne_nil hne'
  induction fields with
  | nil => exact absurd rfl hne
  | cons field fields ih =>
    cases fields with
    | nil => simp [jsonFields_cons_cons, jsonFields_singleton, hsep]
    | cons next fields =>
      rw [List.cons_append, List.cons_append, jsonFields_cons_cons, jsonFields_cons_cons,
        ← List.cons_append, ih (by simp)]
      simp only [List.append_assoc, List.cons_append]

theorem toJSON_eq_jsonFields (env : Env) {device : AtlasDevice} (h : device.telemetryInfo.Known) :
    device.toJSON env = jsonFields (device.fields env) := by
  have hne : device.telemetryInfo.features.rows ≠ [] := by
    intro hnil
    rw [AtlasTelemetryInfo.Known, hnil] at h
    exact absurd h (by decide)
  simp only [AtlasDevice.toJSON, AtlasDevice.registerEventToJSON, AtlasDevice.keepaliveEventToJSON,
    AtlasDevice.ipPortToJSON, AtlasTelemetryInfo.toJSON, ← jsonFields_singleton (_, _)]
  rw [← jsonFields_append (by simp) (by simp), ← jsonFields_append (by simp) (by simp),
    ← jsonFields_append (by simp) hne, ← jsonFields_append (by simp) (by simp),
    ← jsonFields_append (by simp) (by simp), ← jsonFields_append (by simp) (by simp [statsFields])]
  cases hpolicy : device.policy with
  | none => simp [AtlasDevice.fields, hpolicy]
  | some policy =>
    rw [Option.toList_some, List.flatMap_singleton, ← List.append_assoc,
      ← jsonFields_append (by simp) (by simp [policyFields])]
    simp [AtlasDevice.fields, hpolicy]

/-! ## The features of a device -/

namespace AtlasTelemetryInfo

variable {info : AtlasTelemetryInfo}

theorem known_new : new.Known := rfl

theorem Known.setFeature {feature : TelemetryFeature} (h : info.Known)
    (hmem : feature ∈ telemetryFeatures) (value : StdString) :
    (info.setFeature feature.name value).Known := by
  have hkeys : (Table.put (fun f : StdString × StdString => f.1) (feature.name, value)
      info.features.rows).map (·.1) = _ := Table.map_key_put ..
  rw [Known] at h
  rw [h, if_pos (List.mem_map_of_mem hmem)] at hkeys
  exact hkeys

theorem Known.getFeature {feature : TelemetryFeature} (h : info.Known)
    (hmem : feature ∈ telemetryFeatures) : (info.getFeature feature.name).1.Known := by
  rw [AtlasTelemetryInfo.getFeature]
  split
  · exact h
  · exact h.setFeature hmem []

theorem Known.clearFeatures (h : info.Known) : info.clearFeatures.Known := by
  rw [Known] at h ⊢
  simpa [AtlasTelemetryInfo.clearFeatures, Table.map, Function.comp_def] using h

end AtlasTelemetryInfo

section Known

variable {host : ByteOrder} {env : Env} {manager manager' : AtlasDeviceManager}
  {pskIdentity path : StdString} {reqPayload : List UInt8} {resource : Resource}
  {device device' : AtlasDevice} {handled : Handled}

theorem name_getFeature (path : StdString) (cmd : AtlasCommand) :
    (getFeature path cmd).1 = [] ∨ ∃ f ∈ telemetryFeatures, (getFeature path cmd).1 = f.name := by
  rw [getFeature]
  split
  · exact .inl rfl
  · split
    · exact .inr ⟨_, List.mem_of_find?_eq_some ‹_›, rfl⟩
    · exact .inl rfl

/-- An accepted telemetry request is for one of the features. -/
theorem name_of_readFeature {feature : StdString × StdString}
    (h : readFeature host pskIdentity reqPayload path = some feature) :
    ∃ f ∈ telemetryFeatures, feature.1 = f.name := by
  simp only [readFeature] at h
  split at h
  · cases h
  · obtain ⟨fields, hfilter, rfl⟩ := Option.map_eq_some_iff.mp h
    obtain ⟨hcmds, hname⟩ := Option.filter_eq_some_iff.mp hfilter
    have hinv := List.foldlM_option_preserves
      (I := fun fields : FeatureFields =>
        fields.feature.1 = [] ∨ ∃ f ∈ telemetryFeatures, fields.feature.1 = f.name)
      ?_ hcmds (.inl rfl)
    · exact hinv.resolve_left (of_decide_eq_true hname).2.1
    · intro fields cmd fields' hfields hread
      simp only [FeatureFields.read] at hread
      split at hread
      · split at hread
        · cases hread
        · split at hread <;> cases hread
          exact hfields
      · cases hread
        exact name_getFeature path cmd

theorem telemetryInfo_setIpPort (ipPort : StdString) (device : AtlasDevice) :
    (device.setIpPort ipPort).1.telemetryInfo = device.telemetryInfo := by
  rw [AtlasDevice.setIpPort]
  split <;> rfl

theorem telemetryInfo_keepaliveAlarm (env : Env) (device : AtlasDevice) :
    (device.keepaliveAlarm env).1.telemetryInfo = device.telemetryInfo := by
  rw [AtlasDevice.keepaliveAlarm, AtlasDevice.keepAliveExpired]
  split
  · split <;> rfl
  · rfl

theorem Applies.known (h : Applies host env pskIdentity reqPayload device resource device')
    (hknown : device.telemetryInfo.Known) : device'.telemetryInfo.Known := by
  cases h with
  | register fields _ =>
    rw [telemetryInfo_setIpPort]
    exact hknown.clearFeatures
  | keepalive fields _ _ =>
    rw [telemetryInfo_setIpPort]
    exact hknown
  | policy policy _ _ => exact hknown
  | telemetry path feature _ hread =>
    obtain ⟨f, hmem, hname⟩ := name_of_readFeature hread
    rw [AtlasDevice.setFeature, hname]
    split
    · exact hknown
    · dsimp only
      split
      · exact (hknown.getFeature hmem).setFeature hmem _
      · exact hknown.getFeature hmem

/-- Every device has values for the features of the constructor, and for no others. -/
def AtlasDeviceManager.Known (manager : AtlasDeviceManager) : Prop :=
  ∀ device ∈ manager.devices.rows, device.telemetryInfo.Known

theorem AtlasDeviceManager.Known.setDevice (h : manager.Known)
    (hdevice : device.telemetryInfo.Known) : (manager.setDevice device).Known := by
  intro d hd
  rcases Table.mem_rows_save hd with rfl | hd
  · exact hdevice
  · exact h d hd

theorem AtlasDeviceManager.Known.getDevice (h : manager.Known) (env : Env) (identity : StdString) :
    (manager.getDevice env identity).1.Known := by
  rw [AtlasDeviceManager.getDevice]
  split
  · exact h
  · split
    · exact h
    · exact h.setDevice AtlasTelemetryInfo.known_new

theorem Serves.known (h : Serves host env manager pskIdentity reqPayload resource handled)
    (hknown : manager.Known) : handled.manager.Known := by
  have hget := hknown.getDevice env pskIdentity
  cases h with
  | refused _ hmanager =>
    rcases hmanager with hmanager | hmanager <;> rw [hmanager]
    · exact hknown
    · exact hget
  | accepted manager' device device' _ heq happlies hmanager =>
    rw [heq] at hget
    have hdevice := hget device
      (Table.find?_eq_some_iff.mp (AtlasDeviceManager.find?_of_getDevice heq)).1
    rw [hmanager]
    exact hget.setDevice (happlies.known hdevice)

theorem known_step (host : ByteOrder) (s : Option AtlasDeviceManager) (e : Event)
    (h : ∀ manager, s = some manager → manager.Known) :
    ∀ manager, (step host s e).1 = some manager → manager.Known := by
  intro manager' hstep
  obtain ⟨manager, rfl, hstays⟩ := stays_of_step hstep
  have hknown := h manager rfl
  generalize (step host (some manager) e).2 = out at hstays
  cases hstays with
  | keepaliveAlarm env =>
    intro device hdevice
    obtain ⟨old, hold, rfl⟩ := List.mem_map.mp hdevice
    rw [telemetryInfo_keepaliveAlarm]
    exact hknown old hold
  | request hserves => exact hserves.known hknown

end Known

/-! ## Updates -/

/-- An update with one field. -/
theorem carries_jsonField_iff (identity : StdString) {key : StdString} (value : StdString)
    (hkey : Plain key) :
    Carries identity (jsonField key value) [(key, value)] ↔ Plain identity ∧ Plain value := by
  have hne : [(key, value)] ≠ [] := by simp
  have h := carries_jsonFields_iff identity hne (by simpa using hkey)
  simpa [jsonFields_singleton] using h

theorem getFeature_setFeature (info : AtlasTelemetryInfo) (feature value : StdString) :
    ((info.setFeature feature value).getFeature feature).2 = value := by
  have hfind : (info.features.save (feature, value)).find? feature = some (feature, value) :=
    Table.find?_save_self ..
  simp only [AtlasTelemetryInfo.getFeature, AtlasTelemetryInfo.setFeature, hfind]

theorem plain_of_mem_telemetryFeatures {feature : TelemetryFeature}
    (h : feature ∈ telemetryFeatures) : Plain feature.name := by
  have hkey : feature.name ∈ deviceKeys false := by
    simp only [deviceKeys, List.mem_append]
    exact .inl (.inl (.inl (.inr (List.mem_map_of_mem h))))
  exact plain_of_mem_deviceKeys hkey

/-- The update of an address, of a telemetry value, or of all that a device of the gateway has, is a
JSON text that carries exactly this, under the identity of the device, if and only if the identity
and the values are plain strings. -/
theorem update_carries_iff_plain (host : ByteOrder) (env : Env) (identity : StdString)
    (device : AtlasDevice) :
    (Carries identity device.ipPortToJSON [(bytes "ipPort", device.ipPort)] ↔
      Plain identity ∧ Plain device.ipPort) ∧
    (∀ feature ∈ telemetryFeatures, ∀ value,
      Carries identity
          ((device.telemetryInfo.setFeature feature.name value).featureToJSON feature.name)
          [(feature.name, value)] ↔
        Plain identity ∧ Plain value) ∧
    ∀ manager, Reachable (step host) (some .init) (some manager) → device ∈ manager.devices.rows →
      (Carries identity (device.toJSON env) (device.fields env) ↔
        Plain identity ∧ ∀ f ∈ device.fields env, Plain f.2) := by
  refine ⟨?_, ?_, ?_⟩
  · exact carries_jsonField_iff identity device.ipPort (plain_of_all (by decide))
  · intro feature hmem value
    rw [AtlasTelemetryInfo.featureToJSON, getFeature_setFeature]
    exact carries_jsonField_iff identity value (plain_of_mem_telemetryFeatures hmem)
  · intro manager hreach hmem
    have hknown : device.telemetryInfo.Known :=
      hreach.invariant (known_step host) (by rintro _ ⟨⟩ _ hmem; cases hmem) manager rfl device hmem
    have hkeys : ∀ f ∈ device.fields env, Plain f.1 := by
      intro f hf
      have hfield : f.1 ∈ deviceKeys device.policy.isSome := by
        rw [← map_fst_fields hknown]
        exact List.mem_map_of_mem hf
      exact plain_of_mem_deviceKeys hfield
    rw [toJSON_eq_jsonFields env hknown]
    exact carries_jsonFields_iff identity (by simp [AtlasDevice.fields]) hkeys

/-- All that the gateway has of the lamp is plain. -/
theorem update_carries_lamp :
    ∃ manager device, Reachable (step .little) (some .init) (some manager) ∧
      device ∈ manager.devices.rows ∧
      Carries (bytes "lamp") device.ipPortToJSON [(bytes "ipPort", bytes "10.0.0.2:5683")] ∧
      Carries (bytes "lamp")
        ((device.telemetryInfo.setFeature (bytes "hostname") (bytes "lamp1")).featureToJSON
          (bytes "hostname"))
        [(bytes "hostname", bytes "lamp1")] ∧
      Carries (bytes "lamp") (device.toJSON sampleEnv) (device.fields sampleEnv) := by
  have hplain : Plain (bytes "lamp") := plain_of_all (by decide)
  refine ⟨_, _, ⟨sampleRun, rfl⟩, List.mem_singleton.mpr rfl, ?_, ?_, ?_⟩
  · exact (update_carries_iff_plain .little sampleEnv (bytes "lamp") _).1.mpr
      ⟨hplain, plain_of_all (by decide)⟩
  · exact ((update_carries_iff_plain .little sampleEnv (bytes "lamp") _).2.1
      ⟨bytes "gateway/telemetry/hostname", 500, bytes "hostname"⟩ (by decide) _).mpr
      ⟨hplain, plain_of_all (by decide)⟩
  · exact ((update_carries_iff_plain .little sampleEnv (bytes "lamp") _).2.2 _ ⟨sampleRun, rfl⟩
      (List.mem_singleton.mpr rfl)).mpr
      ⟨hplain, fun f hf => plain_of_all (by revert f; decide +kernel)⟩

/-- An address that closes its quotes and goes on with another field. -/
def forgedAddress : StdString := bytes "1\",\n\"systemReputation\": \"1"

/-- The lamp registers with the forged address, and the update gives it a reputation. -/
theorem registration_forges_reputation :
    ∃ handled, registerCallback .little sampleEnv .init (bytes "lamp")
        (sampleRegister (bytes "lamp") forgedAddress (by decide) (by decide)) = .ok handled ∧
      handled.response = .ok ∧
      ⟨bytes "lamp", jsonField (bytes "ipPort") forgedAddress⟩ ∈ handled.updates ∧
      Carries (bytes "lamp") (jsonField (bytes "ipPort") forgedAddress)
        [(bytes "ipPort", bytes "1"), (bytes "systemReputation", bytes "1")] := by
  have hforged : jsonField (bytes "ipPort") forgedAddress =
      jsonFields [(bytes "ipPort", bytes "1"), (bytes "systemReputation", bytes "1")] := by
    decide +kernel
  refine ⟨_, rfl, rfl, by decide +kernel, ?_⟩
  rw [hforged, carries_jsonFields_iff (bytes "lamp") (by simp)]
  · exact ⟨plain_of_all (by decide), fun f hf => plain_of_all (by revert f; decide +kernel)⟩
  · exact fun f hf => plain_of_all (by revert f; decide +kernel)

end Atlas.Devices

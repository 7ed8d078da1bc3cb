import Atlas.Reputation.Lookups

/-! # The set of features

A manager holds at most one feature of each type: `addFeature` changes the weight of a type that is
there, and erasing makes no duplicates. `removeFeature` looks for the type and erases by index, but
its index starts at -1 and is moved on once for each feature that is passed, so it names the feature
in front of the one that was looked for (`removeFeature_eq`). The first feature cannot be removed,
any other stays and its predecessor is erased, and a type that is absent costs the last feature.

Reference: `reputation_impl/AtlasDeviceFeatureManager.cpp`.
-/

namespace Atlas.Reputation.AtlasDeviceFeatureManager

/-- The loop of `removeFeature`. -/
def featureIndex (type : AtlasDeviceFeatureType) : List AtlasDeviceFeature → ℤ → ℤ
  | [], index => index
  | f :: fs, index => if f.featureType ≠ type then featureIndex type fs (index + 1) else index

/-- `removeFeature` on the vector of features, with the result it returns. -/
def removeFeature (type : AtlasDeviceFeatureType) (fs : List AtlasDeviceFeature) :
    Bool × List AtlasDeviceFeature :=
  let index := featureIndex type fs (-1)
  if index ≠ -1 then (true, fs.eraseIdx index.toNat) else (false, fs)

/-- A call that changes the set of features. -/
inductive FeatureCall where
  | addFeature (type : AtlasDeviceFeatureType) (featureWeight : ℚ)
  | removeFeature (type : AtlasDeviceFeatureType)
deriving DecidableEq

/-- The features after one call. -/
def FeatureCall.apply (fs : List AtlasDeviceFeature) : FeatureCall → List AtlasDeviceFeature
  | .addFeature type featureWeight => AtlasDeviceFeatureManager.addFeature type featureWeight fs
  | .removeFeature type => (AtlasDeviceFeatureManager.removeFeature type fs).2

/-- The features of a new manager after a sequence of calls. -/
def featuresAfter (calls : List FeatureCall) : List AtlasDeviceFeature :=
  calls.foldl FeatureCall.apply new.features

/-- What removing a type is for: the result tells whether there was a feature of the type, and the
features of all other types are left, in order. -/
def RemovesExactly (type : AtlasDeviceFeatureType) (fs : List AtlasDeviceFeature) : Prop :=
  ((removeFeature type fs).1 = true ↔ type ∈ fs.map (·.featureType)) ∧
  (removeFeature type fs).2 = fs.filter (·.featureType ≠ type)

/-! ## The index -/

section

variable (type : AtlasDeviceFeatureType) (fs : List AtlasDeviceFeature)

theorem featureIndex_eq (index : ℤ) :
    featureIndex type fs index = index + fs.findIdx (·.featureType = type) := by
  induction fs generalizing index with
  | nil => simp [featureIndex]
  | cons f fs ih =>
    rw [featureIndex, List.findIdx_cons]
    by_cases h : f.featureType = type
    · simp [h]
    · rw [if_pos h, ih]
      simp only [h, decide_false, cond_false]
      omega

/-- The feature in front of the first one of the type is erased. -/
theorem removeFeature_eq :
    removeFeature type fs =
      if fs.findIdx (·.featureType = type) = 0 then (false, fs)
      else (true, fs.eraseIdx (fs.findIdx (·.featureType = type) - 1)) := by
  rw [removeFeature, featureIndex_eq]
  by_cases h : fs.findIdx (·.featureType = type) = 0
  · simp [h]
  · rw [if_neg h]
    refine (if_pos (by omega)).trans ?_
    congr 2
    omega

variable {type fs}

theorem findIdx_lt_length_of_mem (h : type ∈ fs.map (·.featureType)) :
    fs.findIdx (·.featureType = type) < fs.length := by
  rw [List.mem_map] at h
  obtain ⟨f, hf, htype⟩ := h
  exact List.findIdx_lt_length_of_exists ⟨f, hf, by simpa using htype⟩

theorem featureType_getElem_findIdx (h : fs.findIdx (·.featureType = type) < fs.length) :
    fs[fs.findIdx (·.featureType = type)].featureType = type := by
  simpa using List.findIdx_getElem (w := h)

end

/-! ## The types are pairwise different -/

theorem nodup_removeFeature {fs : List AtlasDeviceFeature} (h : (fs.map (·.featureType)).Nodup)
    (type : AtlasDeviceFeatureType) :
    ((removeFeature type fs).2.map (·.featureType)).Nodup := by
  rw [removeFeature]
  split
  · exact h.sublist ((List.eraseIdx_sublist _ _).map _)
  · exact h

/-- No sequence of calls gives two features of one type. -/
theorem nodup_featuresAfter (calls : List FeatureCall) :
    ((featuresAfter calls).map (·.featureType)).Nodup := by
  induction calls using List.reverseRecOn with
  | nil => exact List.nodup_nil
  | append_singleton calls call ih =>
    rw [featuresAfter, List.foldl_append]
    cases call with
    | addFeature type w => exact nodup_addFeature ih type w
    | removeFeature type => exact nodup_removeFeature ih type

/-! ## Removal -/

section

variable {type : AtlasDeviceFeatureType} {fs : List AtlasDeviceFeature}

/-- A first feature of the type is not removed. -/
theorem not_removesExactly_of_findIdx_eq_zero (hne : fs ≠ [])
    (h : fs.findIdx (·.featureType = type) = 0) : ¬ RemovesExactly type fs := by
  rintro ⟨hresult, -⟩
  have hlt : fs.findIdx (·.featureType = type) < fs.length :=
    h ▸ List.length_pos_iff.mpr hne
  have hmem : type ∈ fs.map (·.featureType) :=
    List.mem_map.mpr ⟨_, List.getElem_mem hlt, featureType_getElem_findIdx hlt⟩
  rw [removeFeature_eq, if_pos h] at hresult
  exact absurd (hresult.mpr hmem) Bool.false_ne_true

/-- A later feature of the type stays, and one is removed also if there is no feature of the
type. -/
theorem not_removesExactly_of_findIdx_ne_zero
    (h : fs.findIdx (·.featureType = type) ≠ 0) : ¬ RemovesExactly type fs := by
  rintro ⟨hresult, hfeatures⟩
  rw [removeFeature_eq, if_neg h] at hresult hfeatures
  dsimp only at hfeatures
  have hlt := findIdx_lt_length_of_mem (hresult.mp rfl)
  have hkept : fs[fs.findIdx (·.featureType = type)] ∈
      fs.eraseIdx (fs.findIdx (·.featureType = type) - 1) :=
    List.mem_eraseIdx_iff_getElem.mpr ⟨_, hlt, by omega, rfl⟩
  rw [hfeatures] at hkept
  have hother := (List.mem_filter.mp hkept).2
  exact of_decide_eq_true hother (featureType_getElem_findIdx hlt)

end

/-- The types are always pairwise different, and removing a type does what it is for exactly if the
manager has no features. -/
theorem removesExactly_iff (calls : List FeatureCall) (type : AtlasDeviceFeatureType) :
    ((featuresAfter calls).map (·.featureType)).Nodup ∧
    (RemovesExactly type (featuresAfter calls) ↔ featuresAfter calls = []) := by
  refine ⟨nodup_featuresAfter calls, ?_, ?_⟩
  · intro h
    by_contra hne
    by_cases hfirst : (featuresAfter calls).findIdx (·.featureType = type) = 0
    · exact not_removesExactly_of_findIdx_eq_zero hne hfirst h
    · exact not_removesExactly_of_findIdx_ne_zero hfirst h
  · intro h
    rw [h]
    simp [RemovesExactly, removeFeature, featureIndex]

/-- With two features, the first type is not removed, the second type costs the first feature, and a
type that is absent costs the second. -/
theorem removeFeature_two_features :
    featuresAfter [.addFeature .sensor 1, .addFeature .respTime 1] =
      [⟨.sensor, 1, 0⟩, ⟨.respTime, 1, 0⟩] ∧
    removeFeature .sensor [⟨.sensor, 1, 0⟩, ⟨.respTime, 1, 0⟩] =
      (false, [⟨.sensor, 1, 0⟩, ⟨.respTime, 1, 0⟩]) ∧
    removeFeature .respTime [⟨.sensor, 1, 0⟩, ⟨.respTime, 1, 0⟩] =
      (true, [⟨.respTime, 1, 0⟩]) ∧
    removeFeature .generic [⟨.sensor, 1, 0⟩, ⟨.respTime, 1, 0⟩] =
      (true, [⟨.sensor, 1, 0⟩]) := by
  decide

end Atlas.Reputation.AtlasDeviceFeatureManager

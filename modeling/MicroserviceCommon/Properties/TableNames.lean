import MicroserviceCommon.Infra.Substring
import MicroserviceCommon.Properties.MetadataWrites
import MicroserviceCommon.Properties.PayloadIsolation

/-!
# Payload table names

Records of different identity should get different payload tables. The names tell everything apart
but real from simulated data: the line that should add the suffix is a statement of its own.

* `tableNames_injective_iff` — right exactly unless both records are of DSS and differ in nothing
  but their data being real
* `tableName_of_real_and_simulated` — the real and the simulated data of one mission
-/

namespace MicroserviceCommon

open Infra
open DatabaseManagerBase

/-- Kind, data type and identity of a record. -/
inductive PayloadIdentity where
  | video (dataType : EPersistenceDataType) (sensorId : TSensorId)
  | dss (dataType : EPersistenceDataType) (contextId : TContextId) (missionId : TMissionId)
      (realData : Bool)
  | raw (dataType : EPersistenceDataType) (contextId : TContextId) (missionId : TMissionId)
  deriving DecidableEq, Repr

namespace MetadataRecord

def identity : MetadataRecord → PayloadIdentity
  | video m => .video m.dataType m.recordedFromSensorId
  | dss m => .dss m.dataType m.contextId m.missionId m.realData
  | raw m => .raw m.dataType m.contextId m.missionId

/-- Real and simulated data of one mission. -/
def RealAgainstSimulated : MetadataRecord → MetadataRecord → Prop
  | dss m, dss m' => m.dataType = m'.dataType ∧ m.contextId = m'.contextId ∧
    m.missionId = m'.missionId ∧ m.realData ≠ m'.realData
  | video _, _ | raw _, _ | dss _, video _ | dss _, raw _ => False

/-! ## The parts of a name -/

def kindName : MetadataRecord → String
  | video _ => "video"
  | dss _ => "dss"
  | raw _ => "raw"

/-- What stands behind the data type. -/
def numbers : MetadataRecord → String
  | video m => "sensor" ++ toString m.recordedFromSensorId
  | dss m => "ctx" ++ toString m.contextId ++ "_mission" ++ toString m.missionId
  | raw m => "ctx" ++ toString m.contextId ++ "_mission" ++ toString m.missionId

variable {s : DatabaseManagerBase} {w w' : MetadataRecord}

/-- **A name is the prefix and three parts with underscores between them.** -/
theorem payloadTableName_eq (s : DatabaseManagerBase) (w : MetadataRecord) :
    w.payloadTableName s = (convertDataTypeToStr w.descr.dataType).map fun dataType =>
      s.tableNamePrefix ++ (w.kindName ++ String.singleton '_' ++
        (dataType ++ String.singleton '_' ++ w.numbers)) := by
  cases w <;>
    refine congrArg (fun f => Option.map f _) (funext fun dataType => ?_) <;>
    simp only [kindName, numbers, String.append_assoc]
  all_goals rfl

theorem underscore_not_mem_kindName (w : MetadataRecord) : '_' ∉ w.kindName.toList := by
  cases w <;> rw [kindName] <;> decide

theorem underscore_not_mem_dataType {t : EPersistenceDataType} {name : String}
    (h : convertDataTypeToStr t = some name) : '_' ∉ name.toList := by
  cases t <;> cases h <;> decide

/-- The data type is named once. -/
theorem convertDataTypeToStr_inj {t t' : EPersistenceDataType} {name : String}
    (h : convertDataTypeToStr t = some name) (h' : convertDataTypeToStr t' = some name) :
    t = t' := by
  have hback := convertDataTypeFromStr_of_toStr h
  rw [convertDataTypeFromStr_of_toStr h', Option.some.injEq] at hback
  exact hback.symm

/-- **Equal names have equal parts.** -/
theorem parts_of_payloadTableName_eq (hvalid : w.descr.dataType ≠ .undefined)
    (h : w.payloadTableName s = w'.payloadTableName s) :
    w.kindName = w'.kindName ∧ w.descr.dataType = w'.descr.dataType ∧ w.numbers = w'.numbers := by
  obtain ⟨name, hname⟩ := Option.isSome_iff_exists.mp (convertDataTypeToStr_isSome.mpr hvalid)
  rw [payloadTableName_eq, payloadTableName_eq, hname, Option.map_some, eq_comm,
    Option.map_eq_some_iff] at h
  obtain ⟨name', hname', heq⟩ := h
  rw [String.append_right_inj] at heq
  obtain ⟨hkind, hrest⟩ := division_inj heq (underscore_not_mem_kindName w')
    (underscore_not_mem_kindName w)
  obtain ⟨hdata, hnumbers⟩ := division_inj hrest (underscore_not_mem_dataType hname')
    (underscore_not_mem_dataType hname)
  exact ⟨hkind.symm, convertDataTypeToStr_inj hname (hdata ▸ hname'), hnumbers.symm⟩

/-! ## The numbers -/

theorem sensorNumbers_inj {a b : TSensorId}
    (h : "sensor" ++ toString a = "sensor" ++ toString b) : a = b := by
  rw [String.append_right_inj] at h
  exact UInt64.toNat_inj.mp (toString_inj h)

/-- **The underscore ends the context.** -/
theorem missionNumbers_inj {ctx ctx' : TContextId} {mission mission' : TMissionId}
    (h : "ctx" ++ toString ctx ++ "_mission" ++ toString mission =
      "ctx" ++ toString ctx' ++ "_mission" ++ toString mission') :
    ctx = ctx' ∧ mission = mission' := by
  have hsplit : ∀ (c : TContextId) (m : TMissionId),
      "ctx" ++ toString c ++ "_mission" ++ toString m =
        "ctx" ++ (toString c ++ String.singleton '_' ++ ("mission" ++ toString m)) := by
    intro c m
    simp only [String.append_assoc]
    rfl
  rw [hsplit, hsplit, String.append_right_inj] at h
  obtain ⟨hctx, hmission⟩ := division_inj h (not_mem_toString rfl _) (not_mem_toString rfl _)
  rw [String.append_right_inj] at hmission
  exact ⟨UInt32.toNat_inj.mp (toString_inj hctx), UInt32.toNat_inj.mp (toString_inj hmission)⟩

/-! ## Equal names -/

theorem identity_or_of_name_eq (hvalid : w.descr.dataType ≠ .undefined)
    (h : w.payloadTableName s = w'.payloadTableName s) :
    w.identity = w'.identity ∨ w.RealAgainstSimulated w' := by
  obtain ⟨hkind, hdata, hnumbers⟩ := parts_of_payloadTableName_eq hvalid h
  cases w with
  | video m =>
    cases w' with
    | video m' => exact Or.inl (congrArg₂ PayloadIdentity.video hdata (sensorNumbers_inj hnumbers))
    | dss m' => exact absurd (show "video" = "dss" from hkind) (by decide)
    | raw m' => exact absurd (show "video" = "raw" from hkind) (by decide)
  | dss m =>
    cases w' with
    | video m' => exact absurd (show "dss" = "video" from hkind) (by decide)
    | dss m' =>
      obtain ⟨hctx, hmission⟩ := missionNumbers_inj hnumbers
      by_cases hreal : m.realData = m'.realData
      · left
        rw [identity, identity, hctx, hmission, hreal]
        exact congrArg (PayloadIdentity.dss · _ _ _) hdata
      · exact Or.inr ⟨hdata, hctx, hmission, hreal⟩
    | raw m' => exact absurd (show "dss" = "raw" from hkind) (by decide)
  | raw m =>
    cases w' with
    | video m' => exact absurd (show "raw" = "video" from hkind) (by decide)
    | dss m' => exact absurd (show "raw" = "dss" from hkind) (by decide)
    | raw m' =>
      obtain ⟨hctx, hmission⟩ := missionNumbers_inj hnumbers
      left
      rw [identity, identity, hctx, hmission]
      exact congrArg (PayloadIdentity.raw · _ _) hdata

/-- The name follows from the identity. -/
theorem payloadTableName_of_identity (h : w.identity = w'.identity) :
    w.payloadTableName s = w'.payloadTableName s := by
  cases w with
  | video m =>
    cases w' with
    | video m' =>
      obtain ⟨hdata, hsensor⟩ := PayloadIdentity.video.inj h
      rw [payloadTableName, payloadTableName, videoTableName, videoTableName, hdata, hsensor]
    | dss m' | raw m' => cases h
  | dss m =>
    cases w' with
    | dss m' =>
      obtain ⟨hdata, hctx, hmission, _⟩ := PayloadIdentity.dss.inj h
      rw [payloadTableName, payloadTableName, dssTableName, dssTableName, hdata, hctx, hmission]
    | video m' | raw m' => cases h
  | raw m =>
    cases w' with
    | raw m' =>
      obtain ⟨hdata, hctx, hmission⟩ := PayloadIdentity.raw.inj h
      rw [payloadTableName, payloadTableName, rawTableName, rawTableName, hdata, hctx, hmission]
    | video m' | dss m' => cases h

/-- Real and simulated data share a table. -/
theorem payloadTableName_of_realAgainstSimulated (h : w.RealAgainstSimulated w') :
    w.payloadTableName s = w'.payloadTableName s ∧ w.identity ≠ w'.identity := by
  cases w with
  | video m | raw m => exact absurd h id
  | dss m =>
    cases w' with
    | video m' | raw m' => exact absurd h id
    | dss m' =>
      obtain ⟨hdata, hctx, hmission, hreal⟩ := h
      refine ⟨?_, fun hsame => hreal (PayloadIdentity.dss.inj hsame).2.2.2⟩
      rw [payloadTableName, payloadTableName, dssTableName, dssTableName, hdata, hctx, hmission]

/--
**When table names tell two records apart.**

For records of a valid data type, exactly unless they are the real and the simulated data of one
mission.
-/
theorem tableNames_injective_iff (s : DatabaseManagerBase) (w w' : MetadataRecord)
    (hvalid : w.descr.dataType ≠ .undefined) (_hvalid' : w'.descr.dataType ≠ .undefined) :
    (w.payloadTableName s = w'.payloadTableName s ↔ w.identity = w'.identity) ↔
      ¬ w.RealAgainstSimulated w' := by
  constructor
  · intro hiff h
    obtain ⟨hname, hidentity⟩ := payloadTableName_of_realAgainstSimulated (s := s) h
    exact hidentity (hiff.mp hname)
  · intro h
    exact ⟨fun hname => (identity_or_of_name_eq hvalid hname).resolve_right h,
      payloadTableName_of_identity⟩

/-- Raw data of the missions 1 and 2 of one context. -/
theorem tableNames_of_two_missions :
    (rawRecord 1 1).payloadTableName (inited "video") =
        (rawRecord 2 2).payloadTableName (inited "video") ↔
      (rawRecord 1 1).identity = (rawRecord 2 2).identity :=
  (tableNames_injective_iff (inited "video") (rawRecord 1 1) (rawRecord 2 2) (by decide)
    (by decide)).mpr id

/-- The real and the simulated data of one mission. -/
theorem tableName_of_real_and_simulated :
    (dssRecord 1 true).descr.dataType ≠ .undefined ∧
      (dssRecord 2 false).descr.dataType ≠ .undefined ∧
      ¬ ((dssRecord 1 true).payloadTableName (inited "video") =
          (dssRecord 2 false).payloadTableName (inited "video") ↔
        (dssRecord 1 true).identity = (dssRecord 2 false).identity) := by
  refine ⟨by decide, by decide, fun hiff => ?_⟩
  have hsame : (dssRecord 1 true).payloadTableName (inited "video") =
      (dssRecord 2 false).payloadTableName (inited "video") := rfl
  exact absurd (hiff.mp hsame) (by decide)

end MetadataRecord

end MicroserviceCommon

import Coderd.AgentRpc.AppHealth
import Coderd.Foundation.Limits

namespace Coderd.AgentRpc

open Coderd.Foundation
open Coderd.CryptoKeys (OffsetDateTime)
open LiveAgentHandler

/-! ## What the limits promise -/

/-- Lengths of strings are of a `usize`. -/
structure Metadata.Representable (md : Metadata) : Prop where
  value : ∀ r, md.result = some r → r.value.utf8ByteSize < 2 ^ 64
  error : ∀ r, md.result = some r → r.error.utf8ByteSize < 2 ^ 64

/-- The result that is sent, or an empty one. -/
def Metadata.given (md : Metadata) : MetadataResult := md.result.getD ⟨"", ""⟩

/-- The entry is what the limits make of the metadata. -/
structure Metadata.StoredAs (md : Metadata) (entry : UpsertAgentMetadataEntry) : Prop where
  key : entry.key = md.key
  valueLen : entry.value.utf8ByteSize ≤ maxMetadataValueLen
  errorLen : entry.error.utf8ByteSize ≤ maxMetadataErrorLen
  value : md.given.value.utf8ByteSize ≤ maxMetadataValueLen → entry.value = md.given.value
  error : md.given.value.utf8ByteSize ≤ maxMetadataValueLen →
    md.given.error.utf8ByteSize ≤ maxMetadataErrorLen → entry.error = md.given.error
  cut : maxMetadataValueLen < md.given.value.utf8ByteSize →
    entry.value.toList <+: md.given.value.toList ∧ entry.error ≠ ""

/-- The longest part of the batch from its start whose keys keep to their limit. -/
structure LongestWithin (metadata kept : List Metadata) : Prop where
  isPrefix : kept <+: metadata
  keysLen : (kept.map (·.key.utf8ByteSize)).sum ≤ maxAllMetadataKeysLen
  longest : ∀ longer, longer <+: metadata →
    (longer.map (·.key.utf8ByteSize)).sum ≤ maxAllMetadataKeysLen → longer <+: kept

/-- The entries that are passed to the store. -/
def upserted : List Op → List UpsertAgentMetadataEntry
  | [] => []
  | .store (.upsertWorkspaceAgentMetadata _ entries) :: ops => entries ++ upserted ops
  | _ :: ops => upserted ops

/-- The limits hold of a call for the batch: of the entries it has passed to the store, and of its
result. -/
def RespectsLimits (metadata : List Metadata) (e : Ending Op AgentDb (Except RpcError Unit)) :
    Prop :=
  ∃ kept, LongestWithin metadata kept ∧
    List.Forall₂ Metadata.StoredAs kept (upserted e.calls) ∧
    ((∃ error, e.result = .error error) ↔ kept ≠ metadata)

/-- A value of more bytes than the limit has at least that many characters, and the first of them
are of one byte each. -/
def Metadata.CutsToBytes (md : Metadata) : Prop :=
  maxMetadataValueLen < md.given.value.utf8ByteSize →
    maxMetadataValueLen ≤ md.given.value.toList.length ∧
      ∀ c ∈ md.given.value.toList.take maxMetadataValueLen, c.utf8Size = 1

/-! ## One entry -/

variable {md : Metadata} {collectedAt : OffsetDateTime}

theorem utf8ByteSize_exceeded (what : String) {len bound : ℕ} (hlen : len < 2 ^ 64)
    (hbound : bound < 2 ^ 64) :
    (exceeded what len bound).utf8ByteSize ≤ what.utf8ByteSize + 66 := by
  have hdigits : ∀ n < 2 ^ 64, (toString n).utf8ByteSize ≤ 20 := fun n hn =>
    utf8ByteSize_toString_le (by decide) (lt_trans hn (by decide))
  have hlen' := hdigits len hlen
  have hbound' := hdigits bound hbound
  have htexts : " of ".utf8ByteSize + " bytes exceeded ".utf8ByteSize + " bytes".utf8ByteSize ≤
      26 := by decide +kernel
  simp only [exceeded, String.utf8ByteSize_append] at hlen' hbound' ⊢
  omega

theorem exceeded_ne_empty {what : String} {len bound : ℕ} : exceeded what len bound ≠ "" := by
  intro h
  have hsize := congrArg String.utf8ByteSize h
  have htext : 0 < " bytes".utf8ByteSize := by decide +kernel
  simp only [exceeded, String.utf8ByteSize_append, String.utf8ByteSize_empty] at hsize
  omega

theorem Metadata.Representable.given (h : md.Representable) :
    md.given.value.utf8ByteSize < 2 ^ 64 ∧ md.given.error.utf8ByteSize < 2 ^ 64 := by
  unfold Metadata.given
  cases hresult : md.result with
  | none => decide +kernel
  | some r => exact ⟨h.value r hresult, h.error r hresult⟩

theorem exceeded_metadata_le {len : ℕ} (what : String) (hwhat : what.utf8ByteSize ≤ 5)
    (hlen : len < 2 ^ 64) :
    (exceeded what len maxMetadataValueLen).utf8ByteSize ≤ maxMetadataErrorLen := by
  have hsize := utf8ByteSize_exceeded what hlen
    (by decide : maxMetadataValueLen < 2 ^ 64)
  have hbound : 5 + 66 ≤ maxMetadataErrorLen := by decide
  omega

/-- An entry is as it should be, but for the cut of its value. -/
theorem storedAs_metadataEntry_iff (h : md.Representable) :
    md.StoredAs (metadataEntry md collectedAt) ↔ md.CutsToBytes := by
  obtain ⟨hvalue, herror⟩ := h.given
  have hgiven : md.result.getD ⟨"", ""⟩ = md.given := rfl
  have hvalueError := exceeded_metadata_le "value" (by decide +kernel) hvalue
  have herrorError := exceeded_metadata_le "error" (by decide +kernel) herror
  by_cases hlong : maxMetadataValueLen < md.given.value.utf8ByteSize
  · -- the value is cut, and its error is short enough to stay
    have hentry : metadataEntry md collectedAt =
        ⟨md.key, String.ofList (md.given.value.toList.take maxMetadataValueLen),
          exceeded "value" md.given.value.utf8ByteSize maxMetadataValueLen, collectedAt⟩ := by
      simp only [metadataEntry, hgiven, hlong, if_true, if_neg (not_lt.mpr hvalueError)]
    have hcut := sum_utf8Size_take_le_iff (utf8ByteSize_eq_sum md.given.value ▸ hlong)
    rw [hentry]
    constructor
    · intro hstored _
      exact hcut.mp (utf8ByteSize_ofList _ ▸ hstored.valueLen)
    · intro hcuts
      refine ⟨rfl, ?_, hvalueError, fun hle => absurd hlong (not_lt.mpr hle),
        fun hle => absurd hlong (not_lt.mpr hle), fun _ => ⟨?_, exceeded_ne_empty⟩⟩
      · rw [utf8ByteSize_ofList]
        exact hcut.mpr (hcuts hlong)
      · rw [String.toList_ofList]
        exact List.take_prefix _ _
  · have hshort := not_lt.mp hlong
    have hentry : metadataEntry md collectedAt =
        ⟨md.key, md.given.value,
          if maxMetadataErrorLen < md.given.error.utf8ByteSize then
            exceeded "error" md.given.error.utf8ByteSize maxMetadataErrorLen
          else md.given.error, collectedAt⟩ := by
      simp only [metadataEntry, hgiven, hlong, if_false]
    rw [hentry]
    refine iff_of_true ⟨rfl, hshort, ?_, fun _ => rfl, fun _ hle => if_neg (not_lt.mpr hle),
      fun hle => absurd hle hlong⟩ fun hle => absurd hle hlong
    split
    · exact herrorError
    · rename_i hle
      exact not_lt.mp hle

/-! ## The batch -/

/-- The part of the batch that is stored. -/
def keptMetadata (metadata : List Metadata) : List Metadata :=
  within (·.key.utf8ByteSize) maxAllMetadataKeysLen metadata

theorem longestWithin_keptMetadata (metadata : List Metadata) :
    LongestWithin metadata (keptMetadata metadata) where
  isPrefix := within_isPrefix _ _ _
  keysLen := sum_within_le _ _ _
  longest _ := isPrefix_within _

theorem LongestWithin.eq {metadata kept : List Metadata} (h : LongestWithin metadata kept) :
    kept = keptMetadata metadata := by
  have hkept := longestWithin_keptMetadata metadata
  have hle := (hkept.longest kept h.isPrefix h.keysLen).length_le
  have hge := h.longest _ hkept.isPrefix hkept.keysLen
  exact (hge.eq_of_length_le hle).symm

/-- The sum that saturates tells apart what the budget does. -/
theorem metadataEntries_eq (collectedAt : OffsetDateTime) {len : ℕ} (metadata : List Metadata)
    (hlen : len ≤ maxAllMetadataKeysLen) :
    (metadataEntries collectedAt len metadata).1 =
        (within (·.key.utf8ByteSize) (maxAllMetadataKeysLen - len) metadata).map
          (metadataEntry · collectedAt) ∧
      ((metadataEntries collectedAt len metadata).2.2 = true ↔
        within (·.key.utf8ByteSize) (maxAllMetadataKeysLen - len) metadata ≠ metadata) := by
  have hmax : maxAllMetadataKeysLen < 2 ^ 64 - 1 := by decide
  induction metadata generalizing len with
  | nil => simp [metadataEntries, within]
  | cons md rest ih =>
    rw [metadataEntries, within]
    by_cases hfits : len + md.key.utf8ByteSize ≤ maxAllMetadataKeysLen
    · have hmin : min (len + md.key.utf8ByteSize) (2 ^ 64 - 1) = len + md.key.utf8ByteSize := by
        omega
      obtain ⟨hentries, hover⟩ := ih hfits
      rw [hmin, if_neg (not_lt.mpr hfits), if_pos (by omega), Nat.sub_sub]
      simp only [hentries, hover, List.map_cons, true_and, ne_eq, List.cons.injEq]
    · rw [if_pos (by omega), if_neg (by omega)]
      simp

theorem publish_alone (h : LiveAgentHandler) (channel : String) (payload : Payload) (db : AgentDb)
    (choices : ℕ → Choice) :
    ∃ calls, upserted calls = [] ∧
      (h.publish channel payload).alone exec db choices = some ⟨calls, .ok (), db⟩ := by
  unfold LiveAgentHandler.publish
  cases h.pubsub with
  | true => exact ⟨[.publish channel payload], rfl, rfl⟩
  | false => exact ⟨[], rfl, rfl⟩

/-- What the batch comes to when no call of the store fails. -/
theorem batchUpdateMetadata_alone (h : LiveAgentHandler) (metadata : List Metadata) (db : AgentDb)
    (choices : ℕ → Choice) (hfails : ∀ n, (choices n).fails = none) :
    ∃ e, (h.batchUpdateMetadata metadata).alone exec db choices = some e ∧
      upserted e.calls = (keptMetadata metadata).map (metadataEntry · (choices 0).now) ∧
      ((∃ error, e.result = .error error) ↔ keptMetadata metadata ≠ metadata) := by
  obtain ⟨hentries, hover⟩ := metadataEntries_eq (choices 0).now metadata
    (Nat.zero_le maxAllMetadataKeysLen)
  rw [Nat.sub_zero, ← keptMetadata] at hentries hover
  rw [batchUpdateMetadata, Calls.alone_call (r := (choices 0).now) rfl]
  generalize metadataEntries (choices 0).now 0 metadata = collected at hentries hover
  -- the report comes last, whatever was written before it
  obtain ⟨result, hreport, hresult⟩ : ∃ result,
      (∀ (db : AgentDb) (choices : ℕ → Choice), Calls.alone exec (if collected.2.2 then
        invalid (exceeded "metadata keys" collected.2.1 maxAllMetadataKeysLen)
        else .done (.ok ())) db choices = some ⟨[], result, db⟩) ∧
      ((∃ error, result = .error error) ↔ keptMetadata metadata ≠ metadata) := by
    rw [← hover]
    cases collected.2.2 with
    | true => exact ⟨_, fun _ _ => rfl, by simp⟩
    | false => exact ⟨_, fun _ _ => rfl, by simp⟩
  by_cases hempty : collected.1.isEmpty
  · refine ⟨⟨[.nowUtc], result, db⟩, ?_, ?_, hresult⟩
    · simp only [hempty, if_true]
      have hnothing : Calls.alone exec (.done (.ok ()) : Outcome Unit) db
          (fun n => choices (n + 1)) = some ⟨[], .ok (), db⟩ := rfl
      rw [Calls.alone_bindOk hnothing, hreport]
      rfl
    · rw [← hentries, List.isEmpty_iff.mp hempty]
      rfl
  · have hask : (ask "upsert metadata" (.upsertWorkspaceAgentMetadata h.agentId collected.1)).alone
        exec db (fun n => choices (n + 1)) = some ⟨[_], .ok (),
          db.upsertWorkspaceAgentMetadata h.agentId collected.1⟩ :=
      ask_alone (hfails 1) rfl
    obtain ⟨calls, hcalls, hpublish⟩ := publish_alone h
      ("workspace_agent_metadata:" ++ h.agentId.toHyphenated) .metadataUpdate
      (db.upsertWorkspaceAgentMetadata h.agentId collected.1) fun n => choices (n + 1 + 1)
    have hwrite := Calls.alone_bindOk (k := fun _ => h.publish
      ("workspace_agent_metadata:" ++ h.agentId.toHyphenated) .metadataUpdate) hask
    rw [List.length_singleton, hpublish] at hwrite
    refine ⟨⟨.nowUtc :: .store (.upsertWorkspaceAgentMetadata h.agentId collected.1) :: calls,
      result, db.upsertWorkspaceAgentMetadata h.agentId collected.1⟩, ?_, ?_, hresult⟩
    · simp only [hempty, Bool.false_eq_true, if_false]
      rw [Calls.alone_bindOk hwrite, hreport]
      simp [Ending.after]
    · rw [← hentries]
      simp only [upserted, hcalls, List.append_nil]

theorem respectsLimits_iff {metadata : List Metadata} (hrep : ∀ md ∈ metadata, md.Representable)
    {e : Ending Op AgentDb (Except RpcError Unit)}
    (hentries : upserted e.calls = (keptMetadata metadata).map (metadataEntry · collectedAt))
    (hresult : (∃ error, e.result = .error error) ↔ keptMetadata metadata ≠ metadata) :
    RespectsLimits metadata e ↔ ∀ md ∈ keptMetadata metadata, md.CutsToBytes := by
  have hkept := longestWithin_keptMetadata metadata
  have hstored : List.Forall₂ Metadata.StoredAs (keptMetadata metadata) (upserted e.calls) ↔
      ∀ md ∈ keptMetadata metadata, md.CutsToBytes := by
    rw [hentries, List.forall₂_map_right_iff, List.forall₂_same]
    exact forall₂_congr fun md hmem =>
      storedAs_metadataEntry_iff (hrep md (hkept.isPrefix.subset hmem))
  constructor
  · rintro ⟨kept, hlongest, hall, -⟩
    obtain rfl := hlongest.eq
    exact hstored.mp hall
  · intro hcuts
    exact ⟨keptMetadata metadata, hkept, hstored.mpr hcuts, hresult⟩

/-- The limits hold of a batch exactly if cutting the values that are too long to a number of
characters cuts them to as many bytes. -/
theorem batchUpdateMetadata_respectsLimits_iff (h : LiveAgentHandler) (metadata : List Metadata)
    (db : AgentDb) (choices : ℕ → Choice) (hfails : ∀ n, (choices n).fails = none)
    (hrep : ∀ md ∈ metadata, md.Representable) :
    (∃ e, (h.batchUpdateMetadata metadata).alone exec db choices = some e ∧
      RespectsLimits metadata e) ↔ ∀ md ∈ keptMetadata metadata, md.CutsToBytes := by
  obtain ⟨e, halone, hentries, hresult⟩ := batchUpdateMetadata_alone h metadata db choices hfails
  rw [← respectsLimits_iff hrep hentries hresult, halone]
  simp

def loadMetadata (value : String) : Metadata := ⟨"load", some ⟨value, ""⟩⟩

theorem loadMetadata_representable {value : String} (h : value.utf8ByteSize < 2 ^ 64) :
    ∀ md ∈ [loadMetadata value], md.Representable := by
  intro md hmem
  obtain rfl := List.mem_singleton.mp hmem
  constructor
  · rintro r ⟨⟩
    exact h
  · rintro r ⟨⟩
    exact (by decide +kernel : "".utf8ByteSize < 2 ^ 64)

theorem batchUpdateMetadata_respectsLimits_iff_load :
    ∃ e, (firstAgent.batchUpdateMetadata [loadMetadata "0.42"]).alone exec twoAgents
        (fun _ => noon) = some e ∧ RespectsLimits [loadMetadata "0.42"] e := by
  have hsize : "0.42".utf8ByteSize = 4 := by decide +kernel
  refine (batchUpdateMetadata_respectsLimits_iff firstAgent [loadMetadata "0.42"] twoAgents
    (fun _ => noon) (fun _ => rfl) (loadMetadata_representable (hsize ▸ by decide))).mpr ?_
  intro md hmem hlong
  obtain rfl := List.mem_singleton.mp ((within_isPrefix _ _ _).subset hmem)
  have hvalue : (loadMetadata "0.42").given.value = "0.42" := rfl
  rw [hvalue, hsize] at hlong
  exact absurd hlong (by decide)

/-- So many characters of two bytes each. -/
def accents (count : ℕ) : String := String.ofList (List.replicate count 'é')

theorem utf8ByteSize_accents (count : ℕ) : (accents count).utf8ByteSize = count * 2 := by
  have hone : 'é'.utf8Size = 2 := by decide
  rw [accents, utf8ByteSize_ofList, List.map_replicate, List.sum_replicate_nat, hone]

theorem length_accents (count : ℕ) : (accents count).toList.length = count := by
  rw [accents, String.toList_ofList, List.length_replicate]

/-- The value is over the limit in bytes and within it in characters: it is stored as it is. -/
theorem accents_over_limit :
    ¬ ∃ e, (firstAgent.batchUpdateMetadata [loadMetadata (accents 1025)]).alone exec twoAgents
        (fun _ => noon) = some e ∧ RespectsLimits [loadMetadata (accents 1025)] e := by
  have hsize := utf8ByteSize_accents 1025
  have hlen := length_accents 1025
  generalize accents 1025 = value at hsize hlen ⊢
  rintro ⟨e, halone, hlimits⟩
  obtain ⟨e', halone', hentries, hresult⟩ := batchUpdateMetadata_alone firstAgent
    [loadMetadata value] twoAgents (fun _ => noon) fun _ => rfl
  obtain rfl : e = e' := Option.some.inj (halone.symm.trans halone')
  have hkept : keptMetadata [loadMetadata value] = [loadMetadata value] := by
    have hkey : (loadMetadata value).key.utf8ByteSize ≤ maxAllMetadataKeysLen :=
      (by decide +kernel : "load".utf8ByteSize ≤ maxAllMetadataKeysLen)
    rw [keptMetadata, within, if_pos hkey, within]
  have hcuts := (respectsLimits_iff (loadMetadata_representable (hsize ▸ by decide)) hentries
    hresult).mp hlimits (loadMetadata value) (by rw [hkept]; exact List.mem_singleton_self _)
  have hvalue : (loadMetadata value).given.value = value := rfl
  rw [Metadata.CutsToBytes, hvalue, hsize, hlen] at hcuts
  exact absurd (hcuts (by decide)).1 (by decide)

end Coderd.AgentRpc

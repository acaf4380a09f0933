import Coderd.CryptoKeys.Rotator
import Coderd.Foundation.HashMap
import Coderd.Foundation.Uuid

namespace Coderd.Prebuilds

open Coderd.Foundation
open CryptoKeys (OffsetDateTime)

/-! ## Presets and their prebuilt workspaces -/

structure PresetPrebuildInfo where
  templateId : Uuid
  templateVersionId : Uuid
  organizationId : Uuid
  presetId : Uuid
  desiredInstances : UInt32
  usingActiveVersion : Bool
  isHardLimited : Bool

structure PrebuiltWorkspace where
  id : Uuid
  presetId : Uuid
  createdAt : OffsetDateTime

structure PresetDelta where
  presetId : Uuid
  toCreate : UInt32
  toDelete : List Uuid

/-- The running prebuilds of each preset, in the order in which they come. -/
def groupByPreset (running : List PrebuiltWorkspace) : HashMap Uuid (List PrebuiltWorkspace) :=
  running.foldl
    (fun groups ws => groups.insert ws.presetId ((groups.lookup ws.presetId).getD [] ++ [ws])) ∅

/-- `sort_by_key` is stable. -/
def sortByCreatedAt (workspaces : List PrebuiltWorkspace) : List PrebuiltWorkspace :=
  workspaces.insertionSort fun a b => a.createdAt ≤ b.createdAt

def computeDelta (runningByPreset : HashMap Uuid (List PrebuiltWorkspace))
    (preset : PresetPrebuildInfo) : PresetDelta :=
  let workspaces := (runningByPreset.lookup preset.presetId).map sortByCreatedAt
  let actual := workspaces.elim 0 List.length
  let desired := preset.desiredInstances.toNat
  let mayCreate := !preset.isHardLimited && preset.usingActiveVersion
  if desired > actual ∧ mayCreate then
    { presetId := preset.presetId
      toCreate := .ofNat (min (desired - actual) 4294967295)
      toDelete := [] }
  else if actual > desired then
    { presetId := preset.presetId
      toCreate := 0
      toDelete := ((workspaces.getD []).take (actual - desired)).map (·.id) }
  else
    { presetId := preset.presetId, toCreate := 0, toDelete := [] }

def computeDeltas (presets : List PresetPrebuildInfo) (running : List PrebuiltWorkspace) :
    List PresetDelta :=
  presets.map (computeDelta (groupByPreset running))

/-! ## A pass of the reconciler -/

structure PrebuildStartInput where
  organizationId : Uuid
  templateId : Uuid
  templateVersionId : Uuid
  presetId : Uuid

inductive Call where
  | createPrebuild (input : PrebuildStartInput)
  | deletePrebuild (workspaceId : Uuid)

structure ReconcileStats where
  presetsEvaluated : Nat
  totalDesired : Nat
  totalActual : Nat
  createsRequested : Nat
  createsExecuted : Nat
  deletesRequested : Nat
  deletesExecuted : Nat
  createsSuppressedByHardLimit : Nat

/-- The state of a pass, with the calls it has made and whether they have succeeded. -/
structure Tick where
  runningTotal : Nat
  stats : ReconcileStats
  calls : List (Call × Bool)

/-- The options, and where actions are wired, whether the n-th call of the pass succeeds. -/
structure PrebuildReconciler where
  hardLimit : Option Nat
  actions : Option (Nat → Call → Bool)

namespace PrebuildReconciler

def deletePrebuild (r : PrebuildReconciler) (tick : Tick) (wsId : Uuid) : Tick :=
  let tick := { tick with runningTotal := tick.runningTotal - 1 }
  match r.actions with
  | some outcome =>
    if outcome tick.calls.length (.deletePrebuild wsId) then
      { tick with
        stats := { tick.stats with deletesExecuted := tick.stats.deletesExecuted + 1 }
        calls := tick.calls ++ [(.deletePrebuild wsId, true)] }
    else
      { tick with calls := tick.calls ++ [(.deletePrebuild wsId, false)] }
  | none => tick

def startInput (preset : PresetPrebuildInfo) : PrebuildStartInput where
  organizationId := preset.organizationId
  templateId := preset.templateId
  templateVersionId := preset.templateVersionId
  presetId := preset.presetId

/-- The limit is there and reached. -/
def isFull (r : PrebuildReconciler) (tick : Tick) : Bool :=
  match r.hardLimit with
  | some limit => limit ≤ tick.runningTotal
  | none => false

def createPrebuild (r : PrebuildReconciler) (preset : PresetPrebuildInfo) (tick : Tick) : Tick :=
  if r.isFull tick then
    { tick with
      stats :=
        { tick.stats with
          createsSuppressedByHardLimit := tick.stats.createsSuppressedByHardLimit + 1 } }
  else
    let tick := { tick with runningTotal := tick.runningTotal + 1 }
    match r.actions with
    | some outcome =>
      if outcome tick.calls.length (.createPrebuild (startInput preset)) then
        { tick with
          stats := { tick.stats with createsExecuted := tick.stats.createsExecuted + 1 }
          calls := tick.calls ++ [(.createPrebuild (startInput preset), true)] }
      else
        { tick with calls := tick.calls ++ [(.createPrebuild (startInput preset), false)] }
    | none => tick

def deletePrebuilds (r : PrebuildReconciler) (tick : Tick) (delta : PresetDelta) : Tick :=
  if delta.toDelete = [] then
    tick
  else
    delta.toDelete.foldl r.deletePrebuild
      { tick with
        stats :=
          { tick.stats with
            deletesRequested := tick.stats.deletesRequested + delta.toDelete.length } }

def createPrebuilds (r : PrebuildReconciler) (preset : PresetPrebuildInfo) (tick : Tick)
    (delta : PresetDelta) : Tick :=
  if delta.toCreate > 0 then
    (r.createPrebuild preset)^[delta.toCreate.toNat]
      { tick with
        stats :=
          { tick.stats with
            createsRequested := tick.stats.createsRequested + delta.toCreate.toNat } }
  else
    tick

def reconcile (r : PrebuildReconciler) (tick : Tick) (e : PresetPrebuildInfo × PresetDelta) :
    Tick :=
  r.createPrebuilds e.1 (r.deletePrebuilds tick e.2) e.2

def start (presets : List PresetPrebuildInfo) (running : List PrebuiltWorkspace) : Tick where
  runningTotal := running.length
  stats :=
    { presetsEvaluated := presets.length
      totalDesired := (presets.map fun p => p.desiredInstances.toNat).sum
      totalActual := running.length
      createsRequested := 0
      createsExecuted := 0
      deletesRequested := 0
      deletesExecuted := 0
      createsSuppressedByHardLimit := 0 }
  calls := []

/-- A pass over what the two queries have returned. -/
def tick (r : PrebuildReconciler) (presets : List PresetPrebuildInfo)
    (running : List PrebuiltWorkspace) : Tick :=
  (presets.zip (computeDeltas presets running)).foldl r.reconcile (start presets running)

end PrebuildReconciler

end Coderd.Prebuilds

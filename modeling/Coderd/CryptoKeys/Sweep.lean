import Coderd.CryptoKeys.Rotator

namespace Coderd.CryptoKeys

open Coderd.Foundation

/-! ## What the statements answer -/

open Effect

variable {now : OffsetDateTime} {key : CryptoKeyRow}

theorem storeCall_spec {α : Type} {P E : KeyTable → Prop} {Q : α → KeyTable → Prop}
    {op : KeyTable → Except StorageError (α × KeyTable)}
    (hok : ∀ keys a keys', P keys → op keys = .ok (a, keys') → Q a keys')
    (hfail : ∀ keys, P keys → E keys) :
    Triple (fun w => P w.keys) (storeCall op) (fun a w => Q a w.keys) (fun w => E w.keys) := by
  intro w hw
  unfold storeCall
  -- the store does as told, answers with an error, or the process ends in the call
  rcases w.outcomes.head with _ | e | _
  · rcases hop : op w.keys with e | ⟨a, keys⟩
    · refine ⟨by simp, ?_⟩
      rintro _ _ ⟨-, rfl⟩
      exact hfail _ hw
    · refine ⟨?_, by simp⟩
      rintro _ _ ⟨rfl, rfl⟩
      exact hok _ _ _ hw hop
  all_goals
    refine ⟨by simp, ?_⟩
    rintro _ _ ⟨-, rfl⟩
    exact hfail _ hw

/-- A query changes nothing and answers for the table as it is. -/
theorem query_spec {α : Type} {P : KeyTable → Prop} (f : KeyTable → α) :
    Triple (fun w => P w.keys) (storeCall fun keys => .ok (f keys, keys))
      (fun a w => P w.keys ∧ a = f w.keys) (fun w => P w.keys) := by
  refine storeCall_spec (Q := fun a keys => P keys ∧ a = f keys) ?_ (fun _ h => h)
  rintro keys a keys' hP ⟨rfl, rfl⟩
  exact ⟨hP, rfl⟩

theorem fillBytes_spec {P : KeyTable → Prop} (n : Nat) :
    Triple (fun w => P w.keys) (fillBytes n) (fun _ w => P w.keys) (fun w => P w.keys) := by
  intro w hw
  refine ⟨?_, by simp [fillBytes]⟩
  rintro _ _ ⟨-, rfl⟩
  exact hw

theorem orPanic_spec {α : Type} {P : World → Prop} (o : Option α) :
    Triple P (orPanic o) (fun a w => P w ∧ o = some a) P := by
  cases o with
  | none => exact Triple.fail (fun _ h => h)
  | some a => exact Triple.pure (fun _ h => ⟨h, rfl⟩)

theorem result_spec {α : Type} {P Q : World → Prop} {m : Rotator α}
    (h : Triple P m (fun _ => Q) Q) : Triple P (result m) (fun _ => Q) Q :=
  Triple.attempt h (fun _ _ hE => hE)

theorem shouldRotateKey_open {keyDuration : Duration}
    (h : shouldRotateKey key keyDuration now = some true) : key.deletesAt = none := by
  unfold shouldRotateKey at h
  rcases hd : key.deletesAt with _ | d
  · rfl
  · simp [hd] at h

/-- `deletes_at` is the successor's `starts_at` and some more. -/
theorem startsAt_le_deletesAt {startsAt deletesAt : OffsetDateTime} {feature : CryptoKeyFeature}
    (h : (do
      let graced ← startsAt.add oneHour
      graced.add (durationToTimeDuration (tokenDuration feature))) = some deletesAt) :
    startsAt ≤ deletesAt := by
  obtain ⟨graced, hgraced, hdeletes⟩ := Option.bind_eq_some_iff.mp h
  calc startsAt ≤ graced := OffsetDateTime.le_of_add (by decide) hgraced
    _ ≤ deletesAt := OffsetDateTime.le_of_add (durationToTimeDuration_nonneg _) hdeletes

theorem KeyTable.listAll_perm (table : KeyTable) : table.listAll.Perm table.rows :=
  List.perm_insertionSort _ table.rows

/-- The rows the sweep looks at, in the order in which it does. -/
def agenda (features : List CryptoKeyFeature) (keys : List CryptoKeyRow) : List CryptoKeyRow :=
  features.flatMap (fun feature => keys.filter (fun key => key.feature = feature))

theorem lookup_foldl_group (keys : List CryptoKeyRow) (byFeature : ByFeature)
    (feature : CryptoKeyFeature) :
    ((keys.foldl (fun byFeature key => byFeature.insert key.feature
        ((byFeature.lookup key.feature).getD [] ++ [key])) byFeature).lookup feature).getD [] =
      (byFeature.lookup feature).getD [] ++ keys.filter (fun key => key.feature = feature) := by
  induction keys generalizing byFeature with
  | nil => simp
  | cons key keys ih =>
    rw [List.foldl_cons, ih, HashMap.lookup_insert_ite]
    by_cases hf : key.feature = feature
    · subst hf
      simp
    · simp [hf, Ne.symm hf]

theorem lookup_groupByFeature (keys : List CryptoKeyRow) (feature : CryptoKeyFeature) :
    ((groupByFeature keys).lookup feature).getD [] =
      keys.filter (fun key => key.feature = feature) := by
  rw [groupByFeature, lookup_foldl_group]
  cases feature <;> rfl

/-- The group of a feature is taken out of the map when its turn comes. -/
theorem lookup_erase_group {feature : CryptoKeyFeature} {features : List CryptoKeyFeature}
    {byFeature : ByFeature} {group : CryptoKeyFeature → List CryptoKeyRow}
    (hnew : feature ∉ features)
    (hgroups : ∀ other ∈ feature :: features, (byFeature.lookup other).getD [] = group other) :
    ∀ other ∈ features, ((byFeature.erase feature).lookup other).getD [] = group other := by
  intro other hother
  have hne : other ≠ feature := fun heq => hnew (heq ▸ hother)
  rw [HashMap.lookup_erase_ite, if_neg hne]
  exact hgroups other (List.mem_cons_of_mem _ hother)

/-- Getting the lock and giving it back changes no rows. -/
theorem rotateOnce_of_locked {options : RotatorOptions} {P : KeyTable → Prop} {heldElsewhere : Bool}
    (h : Triple (fun w => P w.keys) (rotateOnceLocked options now)
      (fun _ w => P w.keys) (fun w => P w.keys)) :
    Triple (fun w => P w.keys) (rotateOnce options now heldElsewhere)
      (fun _ w => P w.keys) (fun w => P w.keys) := by
  have kept {α : Type} (f : KeyTable → α) :
      Triple (fun w => P w.keys) (storeCall fun keys => .ok (f keys, keys))
        (fun _ w => P w.keys) (fun w => P w.keys) :=
    (query_spec f).mono (fun _ h => h) (fun _ _ h => h.1) (fun _ h => h)
  refine (kept _).bind fun acquired => ?_
  split
  · refine (result_spec h).bind fun swept => ?_
    refine (result_spec (kept _)).bind fun released => ?_
    split
    · exact Triple.pure (fun _ h => h)
    · exact Triple.fail (fun _ h => h)
    · exact Triple.fail (fun _ h => h)
  · exact Triple.pure (fun _ h => h)

/-! ## Invariants of a sweep -/

/-- The successor that a rotation or an insertion mints, numbered after what is there. -/
def KeyTable.nextKey (table : KeyTable) (feature : CryptoKeyFeature) (secret : List UInt8)
    (startsAt : OffsetDateTime) : CryptoKeyRow :=
  { feature, sequence := table.maxSequence feature + 1, secret, startsAt, deletesAt := none }

/-- What a relation between the snapshot rows a sweep has yet to look at and the table must
satisfy to hold through a sweep at `now`: it survives each kind of write the sweep makes. -/
structure SweepInvariant (now : OffsetDateTime) (I : List CryptoKeyRow → KeyTable → Prop) :
    Prop where
  snapshot : ∀ {table}, I [] table → I (agenda managedFeatures table.listAll) table
  tail : ∀ {row rest table}, I (row :: rest) table → I rest table
  delete : ∀ {row rest table}, I (row :: rest) table → shouldDeleteKey row now = true →
    I rest (table.delete row.key)
  rotate : ∀ {old rest table}, I (old :: rest) table → old.deletesAt = none →
    ∀ {secret startsAt deletesAt}, startsAt ≤ deletesAt →
      (table.stampDeletesAt old.key deletesAt).hasKey
        (table.nextKey old.feature secret startsAt).key = false →
      I rest ((table.stampDeletesAt old.key deletesAt).push
        (table.nextKey old.feature secret startsAt))
  insert : ∀ {rest table}, I rest table → ∀ {feature secret},
    table.hasKey (table.nextKey feature secret now).key = false →
      I rest (table.push (table.nextKey feature secret now))

namespace SweepInvariant

variable {I : List CryptoKeyRow → KeyTable → Prop} {rest : List CryptoKeyRow}
  {options : RotatorOptions}

/-- The rows still to come may be given up at any time. -/
theorem done (hI : SweepInvariant now I) {table : KeyTable} (h : I rest table) : I [] table := by
  induction rest with
  | nil => exact h
  | cons row rest ih => exact ih (hI.tail h)

theorem delete_spec (hI : SweepInvariant now I) (hdelete : shouldDeleteKey key now = true) :
    Triple (fun w => I (key :: rest) w.keys) (CryptoKeys.delete key.feature key.sequence)
      (fun _ w => I rest w.keys) (fun w => I rest w.keys) := by
  refine storeCall_spec (Q := fun _ => I rest) ?_ (fun _ h => hI.tail h)
  rintro keys a keys' h ⟨rfl, rfl⟩
  exact hI.delete h hdelete

theorem rotateKey_spec (hI : SweepInvariant now I) (hopen : key.deletesAt = none) :
    Triple (fun w => I (key :: rest) w.keys) (rotateKey key now options)
      (fun _ w => I rest w.keys) (fun w => I rest w.keys) := by
  -- until the transaction nothing is written, so a stop before it leaves all rows
  have quiet {α : Type} {m : Rotator α} {P : KeyTable → Prop} {Q : α → World → Prop}
      (hP : ∀ keys, P keys → I (key :: rest) keys)
      (h : Triple (fun w => P w.keys) m Q (fun w => P w.keys)) :
      Triple (fun w => P w.keys) m Q (fun w => I rest w.keys) :=
    h.mono (fun _ h => h) (fun _ _ h => h) (fun w h => hI.tail (hP w.keys h))
  refine (quiet (fun _ h => h) (orPanic_spec _)).bind fun startsAt => Triple.assume fun _ => ?_
  refine (quiet (fun _ h => h) (orPanic_spec _)).bind fun deletesAt =>
    Triple.assume fun hdeletes => ?_
  refine (quiet (fun _ h => h) (query_spec _)).bind fun maxSequence => ?_
  let P : KeyTable → Prop := fun keys =>
    I (key :: rest) keys ∧ maxSequence = keys.maxSequence key.feature
  refine (quiet (P := P) (fun _ h => h.1) (fillBytes_spec (P := P) _)).bind fun secret => ?_
  refine Triple.bind (Q := fun _ w => I rest w.keys) ?_ (fun _ => Triple.pure (fun _ h => h))
  refine storeCall_spec (P := P) (E := I rest) (Q := fun _ => I rest) ?_ (fun _ h => hI.tail h.1)
  rintro keys a keys' ⟨h, rfl⟩ hop
  split at hop
  · cases hop
  · dsimp only at hop
    split at hop
    case isTrue => cases hop
    case isFalse hfresh =>
      cases hop
      exact hI.rotate h hopen (startsAt_le_deletesAt hdeletes) (Bool.eq_false_iff.mpr hfresh)

theorem insertNewKey_spec (hI : SweepInvariant now I) (feature : CryptoKeyFeature) :
    Triple (fun w => I rest w.keys) (insertNewKey feature now)
      (fun _ w => I rest w.keys) (fun w => I rest w.keys) := by
  refine (query_spec _).bind fun maxSequence => ?_
  let P : KeyTable → Prop := fun keys => I rest keys ∧ maxSequence = keys.maxSequence feature
  refine ((fillBytes_spec (P := P) _).mono (fun _ h => h) (fun _ _ h => h)
    (fun _ h => h.1)).bind fun secret => ?_
  refine Triple.bind (Q := fun _ w => I rest w.keys) ?_ (fun _ => Triple.pure (fun _ h => h))
  refine storeCall_spec (P := P) (E := I rest) (Q := fun _ => I rest) ?_ (fun _ h => h.1)
  rintro keys a keys' ⟨h, rfl⟩ hop
  split at hop
  case isTrue => cases hop
  case isFalse hfresh =>
    cases hop
    exact hI.insert h (Bool.eq_false_iff.mpr hfresh)

theorem sweepKeys_spec (hI : SweepInvariant now I) (keys : List CryptoKeyRow) (validKeys : Nat) :
    Triple (fun w => I (keys ++ rest) w.keys) (sweepKeys options now keys validKeys)
      (fun _ w => I rest w.keys) (fun w => I [] w.keys) := by
  -- every turn takes one key off the snapshot, whatever becomes of the calls it makes
  induction keys generalizing validKeys with
  | nil => exact Triple.pure (fun _ h => h)
  | cons key keys ih =>
    have ended {α : Type} {m : Rotator α} (h : Triple
        (fun w => I (key :: (keys ++ rest)) w.keys) m
        (fun _ w => I (keys ++ rest) w.keys) (fun w => I (keys ++ rest) w.keys)) :=
      h.mono (fun _ h => h) (fun _ _ h => h) (fun _ h => hI.done h)
    have skip (n : Nat) := (ih n).mono (fun w (h : I (key :: (keys ++ rest)) w.keys) =>
      hI.tail h) (fun _ _ h => h) (fun _ h => h)
    rw [sweepKeys]
    split
    case isTrue hdelete =>
      refine (ended (result_spec (hI.delete_spec hdelete))).bind ?_
      exact fun _ => ih validKeys
    case isFalse =>
      refine ((orPanic_spec _).mono (fun _ h => h) (fun _ _ h => h)
        (fun _ h => hI.done h)).bind fun rotate => Triple.assume fun hrotate => ?_
      split
      case isTrue hyes =>
        subst hyes
        refine (ended (result_spec (hI.rotateKey_spec (shouldRotateKey_open hrotate)))).bind ?_
        rintro (_ | _)
        · exact ih validKeys
        · exact ih (validKeys + 1)
      case isFalse =>
        split
        · exact skip (validKeys + 1)
        · exact skip validKeys

theorem sweepFeatures_spec (hI : SweepInvariant now I) {keys : List CryptoKeyRow}
    (features : List CryptoKeyFeature) (hfeatures : features.Nodup) (byFeature : ByFeature)
    (hgroups : ∀ feature ∈ features, (byFeature.lookup feature).getD [] =
      keys.filter (fun key => key.feature = feature)) :
    Triple (fun w => I (agenda features keys) w.keys)
      (sweepFeatures options now features byFeature)
      (fun _ w => I [] w.keys) (fun w => I [] w.keys) := by
  induction features generalizing byFeature with
  | nil => exact Triple.pure (fun _ h => h)
  | cons feature features ih =>
    obtain ⟨hnew, hfeatures⟩ := List.nodup_cons.mp hfeatures
    have hrest := ih hfeatures (byFeature.erase feature) (lookup_erase_group hnew hgroups)
    rw [sweepFeatures, hgroups feature List.mem_cons_self]
    refine (hI.sweepKeys_spec _ 0).bind fun validKeys => ?_
    split
    · refine Triple.bind (Q := fun _ w => I (agenda features keys) w.keys) ?_ (fun _ => hrest)
      exact (result_spec (hI.insertNewKey_spec feature)).mono (fun _ h => h) (fun _ _ h => h)
        (fun _ h => hI.done h)
    · exact hrest

theorem rotateOnceLocked_spec (hI : SweepInvariant now I) :
    Triple (fun w => I [] w.keys) (rotateOnceLocked options now)
      (fun _ w => I [] w.keys) (fun w => I [] w.keys) := by
  refine Triple.bind (Q := fun keys w => I (agenda managedFeatures keys) w.keys) ?_ fun keys => ?_
  · refine storeCall_spec (Q := fun keys table => I (agenda managedFeatures keys) table)
      ?_ (fun _ h => h)
    rintro table keys _ h ⟨rfl, rfl⟩
    exact hI.snapshot h
  · exact hI.sweepFeatures_spec managedFeatures (by decide) _
      (fun feature _ => lookup_groupByFeature keys feature)

theorem rotateOnce_spec (hI : SweepInvariant now I) {heldElsewhere : Bool} :
    Triple (fun w => I [] w.keys) (rotateOnce options now heldElsewhere)
      (fun _ w => I [] w.keys) (fun w => I [] w.keys) :=
  rotateOnce_of_locked hI.rotateOnceLocked_spec

theorem apply {sweep : Sweep} (hI : SweepInvariant sweep.now I) {table : KeyTable}
    (h : I [] table) : I [] (sweep.apply table) :=
  hI.rotateOnce_spec.final (s := ⟨table, sweep.outcomes, sweep.entropy⟩) h

end SweepInvariant

end Coderd.CryptoKeys

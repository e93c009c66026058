import Mathlib
import TaskCluster.Proofs.Record.Transitions
import TaskCluster.Store.Memory

/-!
# What a call does to the records of a memory

Every call but a creation leaves the list of records in place and changes some of its members: its
effect is a map over the records. That form is what later proofs use, through `get?_of_records_eq`,
and not the loops over ids behind it. A claim scan maps the records that it has reached to what
their offers made of them (`scan_effect`), and a heartbeat sweep maps all records to what the check
of their heartbeats made of them (`sweep_records`). `Record.after` names the map of every call, so
that what all calls keep is said about one function (`performAt_records`).
-/

namespace TaskCluster.Memory

theorem eq_of_records_eq {m m' : Memory} (h : m.records = m'.records) : m = m' := by
  cases m
  cases m'
  cases h
  rfl

/-! ### Looking records up -/

theorem id_of_get? {m : Memory} {id : String} {r : Record} (h : m.get? id = some r) :
    r.id = id := by
  have hp := List.find?_some h
  simpa using hp

theorem mem_of_get? {m : Memory} {id : String} {r : Record} (h : m.get? id = some r) :
    r ∈ m.records := List.mem_of_find?_eq_some h

/-- An id belongs to one record only. -/
theorem eq_of_id_eq {m : Memory} {r r' : Record} (hr : r ∈ m.records) (hr' : r' ∈ m.records)
    (h : r.id = r'.id) : r = r' := List.inj_on_of_nodup_map m.ids_nodup hr hr' h

theorem get?_of_mem {m : Memory} {r : Record} (h : r ∈ m.records) : m.get? r.id = some r := by
  cases hf : m.get? r.id with
  | none => simpa using List.find?_eq_none.mp hf r h
  | some r' => rw [eq_of_id_eq (mem_of_get? hf) h (id_of_get? hf)]

theorem get?_eq_none_iff {m : Memory} {id : String} :
    m.get? id = none ↔ id ∉ m.records.map Record.id := by
  simp [get?, List.find?_eq_none]

/-- A call whose effect is a map is seen at each id by itself. -/
theorem get?_of_records_eq {m m' : Memory} {g : Record → Record} (hg : ∀ r, (g r).id = r.id)
    (h : m'.records = m.records.map g) (id : String) : m'.get? id = (m.get? id).map g := by
  have hp : ((fun r : Record => r.id == id) ∘ g) = fun r => r.id == id := by
    funext r
    simp [hg r]
  rw [get?, h, List.find?_map, hp]
  rfl

/-! ### Replacing and adding -/

theorem records_replace (m : Memory) (new : Record) :
    (m.replace new).records = m.records.map fun r => if r.id = new.id then new else r := rfl

theorem get?_replace (m : Memory) (new : Record) (id : String) :
    (m.replace new).get? id = if new.id = id then (m.get? id).map (fun _ => new) else m.get? id := by
  have hg : ∀ r : Record, (if r.id = new.id then new else r).id = r.id := by
    intro r
    split
    · exact (by assumption : r.id = new.id).symm
    · rfl
  rw [get?_of_records_eq hg (records_replace m new)]
  cases hr : m.get? id with
  | none => simp
  | some r =>
    have hid := id_of_get? hr
    by_cases h : new.id = id
    · simp [h, hid]
    · have h' : ¬ r.id = new.id := fun heq => h (heq ▸ hid)
      simp [h, h']

/-- Replacing a record by what a function makes of it is a map. -/
theorem replace_eq_map {m : Memory} {r : Record} (hr : r ∈ m.records) {g : Record → Record}
    (hg : (g r).id = r.id) :
    (m.replace (g r)).records = m.records.map fun x => if x.id = r.id then g x else x := by
  rw [records_replace]
  refine List.map_congr_left fun x hx => ?_
  rw [hg]
  by_cases h : x.id = r.id
  · rw [if_pos h, if_pos h, eq_of_id_eq hx hr h]
  · rw [if_neg h, if_neg h]

theorem map_id_of_absent {m : Memory} {id : String} (h : m.get? id = none)
    (g : Record → Record) : (m.records.map fun r => if r.id = id then g r else r) = m.records := by
  refine (List.map_congr_left fun r hr => if_neg ?_).trans (List.map_id _)
  rintro rfl
  rw [get?_of_mem hr] at h
  cases h

theorem records_put {m : Memory} {r : Record} (h : m.get? r.id = none) :
    (m.put r).records = m.records ++ [r] := by
  rw [get?_eq_none_iff] at h
  rw [put, dif_neg h]

theorem get?_put {m : Memory} {r : Record} (h : m.get? r.id = none) (id : String) :
    (m.put r).get? id = if r.id = id then some r else m.get? id := by
  rw [get?, records_put h, List.find?_append]
  by_cases hid : r.id = id
  · subst hid
    rw [if_pos rfl]
    have hn : m.records.find? (fun x => x.id == r.id) = none := h
    rw [hn]
    simp
  · rw [if_neg hid]
    have hn : [r].find? (fun x => x.id == id) = none := by simp [hid]
    rw [hn, Option.or_none]
    rfl

/-! ### Changing one record -/

section Update

variable {α : Type} {f : Record → α × Record}

theorem update_fst (m : Memory) (id : String) :
    (m.update id f).1 = (m.get? id).map fun r => (f r).1 := by
  rw [update]
  cases m.get? id <;> rfl

theorem update_records (hf : ∀ r, (f r).2.id = r.id) (m : Memory) (id : String) :
    (m.update id f).2.records = m.records.map fun r => if r.id = id then (f r).2 else r := by
  rw [update]
  cases h : m.get? id with
  | none => exact (map_id_of_absent h fun r => (f r).2).symm
  | some r =>
    obtain rfl := id_of_get? h
    exact replace_eq_map (mem_of_get? h) (g := fun r => (f r).2) (hf r)

theorem get?_update (hf : ∀ r, (f r).2.id = r.id) (m : Memory) (id id' : String) :
    (m.update id f).2.get? id'
      = if id = id' then (m.get? id').map fun r => (f r).2 else m.get? id' := by
  have hg : ∀ r : Record, (if r.id = id then (f r).2 else r).id = r.id := by
    intro r
    split
    · exact hf r
    · rfl
  rw [get?_of_records_eq hg (update_records hf m id)]
  cases hr : m.get? id' with
  | none => simp
  | some r =>
    have hid := id_of_get? hr
    by_cases h : id = id'
    · simp [h, hid]
    · have h' : ¬ r.id = id := fun heq => h (heq ▸ hid)
      simp [h, h']

end Update

/-! ### Snapshots -/

theorem oldestFirst_perm (m : Memory) : m.oldestFirst.Perm m.records := List.mergeSort_perm _ _

theorem snapshot_nodup (m : Memory) : m.snapshot.Nodup :=
  (m.oldestFirst_perm.map Record.id).nodup_iff.mpr m.ids_nodup

theorem mem_snapshot {m : Memory} {r : Record} (h : r ∈ m.records) : r.id ∈ m.snapshot :=
  List.mem_map_of_mem (m.oldestFirst_perm.mem_iff.mpr h)

/-! ### Counted memories -/

/-- No record has been claimed without a count. -/
def Counted (m : Memory) : Prop := ∀ r ∈ m.records, r.Counted

theorem Counted.of_map {m m' : Memory} (hm : m.Counted) {g : Record → Record}
    (h : m'.records = m.records.map g) (hg : ∀ r : Record, r.Counted → (g r).Counted) :
    m'.Counted := by
  intro r hr
  rw [h] at hr
  obtain ⟨x, hx, rfl⟩ := List.mem_map.mp hr
  exact hg x (hm x hx)

/-! ### Sweeps -/

section Sweep

variable {node : String} {listed : List String} {timeout : Duration}

theorem sweepOne_records (now : Instant) (m : Memory) (id : String) :
    (sweepOne node listed timeout now m id).records
      = m.records.map fun r =>
          if r.id = id then (r.checkHeartbeat node listed timeout now).2 else r :=
  update_records (fun r => (r.sameTask_checkHeartbeat node listed timeout now).id) m id

theorem get?_sweepOne (now : Instant) (m : Memory) (id id' : String) :
    (sweepOne node listed timeout now m id).get? id'
      = (m.get? id').map fun r =>
          if r.id = id then (r.checkHeartbeat node listed timeout now).2 else r := by
  refine get?_of_records_eq (fun r => ?_) (sweepOne_records now m id) id'
  split
  · exact (r.sameTask_checkHeartbeat node listed timeout now).id
  · rfl

theorem counted_sweepOne {m : Memory} (hm : m.Counted) (now : Instant) (id : String) :
    (sweepOne node listed timeout now m id).Counted := by
  refine hm.of_map (sweepOne_records now m id) fun r hr => ?_
  split
  · exact Record.counted_checkHeartbeat hr node listed timeout now
  · exact hr

/-- A sweep over distinct ids checks each record that it looks at once. -/
theorem sweep_ids_records (clock : Readings) (ids : List String) (h : ids.Nodup) (m : Memory) :
    (sweep node listed timeout clock ids m).records
      = m.records.map fun r =>
          if r.id ∈ ids then (r.checkHeartbeat node listed timeout (clock r.id).toInstant).2
          else r := by
  induction ids generalizing m with
  | nil => simp [sweep]
  | cons id ids ih =>
    obtain ⟨hid, hids⟩ := List.nodup_cons.mp h
    have hrest := ih hids (sweepOne node listed timeout (clock id).toInstant m id)
    rw [sweep] at hrest ⊢
    rw [List.foldl_cons, hrest, sweepOne_records, List.map_map]
    refine List.map_congr_left fun r _ => ?_
    simp only [Function.comp_apply]
    by_cases hr : r.id = id
    · subst hr
      have hsame := (r.sameTask_checkHeartbeat node listed timeout (clock r.id).toInstant).id
      simp [hsame, hid]
    · simp [hr]

/-- A sweep of all records checks each of them. -/
theorem sweep_records (clock : Readings) (m : Memory) :
    (sweep node listed timeout clock m.snapshot m).records
      = m.records.map fun r =>
          (r.checkHeartbeat node listed timeout (clock r.id).toInstant).2 := by
  rw [sweep_ids_records clock m.snapshot m.snapshot_nodup m]
  exact List.map_congr_left fun r hr => if_pos (mem_snapshot hr)

end Sweep

/-! ### Scans -/

section Scan

variable (node : String) (policy : FailoverPolicy)

theorem scanOne_records (now : Instant) (m : Memory) (id : String) :
    (scanOne node policy now m id).2.records
      = m.records.map fun r => if r.id = id then r.offered node policy now else r := by
  unfold scanOne
  cases hr : m.get? id with
  | none => exact (map_id_of_absent hr fun r => r.offered node policy now).symm
  | some r =>
    obtain rfl := id_of_get? hr
    have hsame := (r.sameTask_offered node policy now).id
    rw [← replace_eq_map (mem_of_get? hr) (g := fun r => r.offered node policy now) hsame]
    dsimp only [Record.offered]
    cases ho : r.offer node policy now with
    | passed =>
      rw [records_replace]
      refine ((List.map_congr_left fun x hx => ?_).trans (List.map_id _)).symm
      dsimp only
      split
      case isTrue hid => exact eq_of_id_eq (mem_of_get? hr) hx hid.symm
      case isFalse => rfl
    | canceled new => rfl
    | taken new => rfl
    | overflowed new => rfl

theorem get?_scanOne (now : Instant) (m : Memory) (id id' : String) :
    (scanOne node policy now m id).2.get? id'
      = (m.get? id').map fun r => if r.id = id then r.offered node policy now else r := by
  refine get?_of_records_eq (fun r => ?_) (scanOne_records node policy now m id) id'
  split
  · exact (r.sameTask_offered node policy now).id
  · rfl

theorem counted_scanOne {m : Memory} (hm : m.Counted) (now : Instant) (id : String) :
    (scanOne node policy now m id).2.Counted := by
  refine hm.of_map (scanOne_records node policy now m id) fun r hr => ?_
  split
  · exact Record.counted_offered hr node policy now
  · exact hr

/-- A look of a scan leaves the other records alone. -/
theorem mem_scanOne_of_ne {m : Memory} {r : Record} {id : String} (h : r.id ≠ id)
    (now : Instant) : r ∈ (scanOne node policy now m id).2.records ↔ r ∈ m.records := by
  rw [scanOne_records, List.mem_map]
  constructor
  · rintro ⟨x, hx, rfl⟩
    by_cases hid : x.id = id
    · rw [if_pos hid, (x.sameTask_offered node policy now).id] at h
      exact absurd hid h
    · rw [if_neg hid]
      exact hx
  · exact fun hr => ⟨r, hr, if_neg h⟩

/-- A look of a scan at a record goes on unless the node takes the record. -/
theorem scanOne_fst {m : Memory} (hm : m.Counted) (now : Instant) (id : String) :
    ((scanOne node policy now m id).1 = none
        ∧ ∀ r, m.get? id = some r → ∀ new, r.offer node policy now ≠ .taken new)
    ∨ ∃ r new, m.get? id = some r ∧ r.offer node policy now = .taken new
        ∧ (scanOne node policy now m id).1 = some (.ok new) := by
  unfold scanOne
  cases hr : m.get? id with
  | none =>
    refine Or.inl ⟨rfl, ?_⟩
    intro r h
    cases h
  | some r =>
    dsimp only
    cases ho : r.offer node policy now with
    | taken new => exact Or.inr ⟨r, new, rfl, ho, rfl⟩
    | overflowed new =>
      exact absurd ho ((hm r (mem_of_get? hr)).offer_ne_overflowed node policy now new)
    | _ =>
      refine Or.inl ⟨rfl, ?_⟩
      intro r' h new hoffer
      obtain rfl := Option.some.inj h
      rw [ho] at hoffer
      cases hoffer

/-- How a scan that has reached some of the ids ended: the node took the last record that was
reached and none before, or it took none at all. -/
inductive ScanEnd (offer : Record → Record.Offer) (m : Memory) (ids reached : List String) :
    Except Abort (Option Record) → Prop where
  | exhausted (all : reached = ids)
      (none_taken : ∀ r ∈ m.records, r.id ∈ reached → ∀ new, offer r ≠ .taken new) :
      ScanEnd offer m ids reached (.ok none)
  | found {r new : Record} {before : List String} (mem : r ∈ m.records)
      (last : reached = before ++ [r.id]) (taken : offer r = .taken new)
      (none_taken : ∀ x ∈ m.records, x.id ∈ before → ∀ new, offer x ≠ .taken new) :
      ScanEnd offer m ids reached (.ok (some new))

/-- A look that takes nothing may be put before a scan. -/
theorem ScanEnd.cons {offer : Record → Record.Offer} {m m' : Memory} {id : String}
    {ids reached : List String} {result : Except Abort (Option Record)}
    (h : ScanEnd offer m' ids reached result) (hid : id ∉ reached)
    (hkept : ∀ r : Record, r.id ≠ id → (r ∈ m'.records ↔ r ∈ m.records))
    (hfirst : ∀ r ∈ m.records, r.id = id → ∀ new, offer r ≠ .taken new) :
    ScanEnd offer m (id :: ids) (id :: reached) result := by
  have hboth : ∀ seen : List String,
      (∀ x ∈ m'.records, x.id ∈ seen → ∀ new, offer x ≠ .taken new) →
        ∀ x ∈ m.records, x.id ∈ id :: seen → ∀ new, offer x ≠ .taken new := by
    intro seen hseen x hx hmem
    by_cases hxid : x.id = id
    · exact hfirst x hx hxid
    · exact hseen x ((hkept x hxid).mpr hx) ((List.mem_cons.mp hmem).resolve_left hxid)
  cases h with
  | exhausted hall hnone => exact .exhausted (by rw [hall]) (hboth reached hnone)
  | @found r new before hr hlast htaken hnone =>
    have hrid : r.id ≠ id := by
      rintro rfl
      exact hid (by simp [hlast])
    exact .found ((hkept r hrid).mp hr) (by rw [hlast]; rfl) htaken (hboth before hnone)

/-- A scan over distinct ids offers each record that it reaches once. -/
theorem scan_effect (clock : Readings) (ids : List String) (h : ids.Nodup) {m : Memory}
    (hm : m.Counted) :
    ∃ reached, reached <+: ids
      ∧ (scan node policy clock ids m).2.records
          = m.records.map (fun r =>
              if r.id ∈ reached then r.offered node policy (clock r.id).toInstant else r)
      ∧ ScanEnd (fun r => r.offer node policy (clock r.id).toInstant) m ids reached
          (scan node policy clock ids m).1 := by
  induction ids generalizing m with
  | nil => exact ⟨[], List.prefix_refl _, by simp [scan], .exhausted rfl (by simp)⟩
  | cons id ids ih =>
    obtain ⟨hid, hids⟩ := List.nodup_cons.mp h
    have hrecords := scanOne_records node policy (clock id).toInstant m id
    have hcounted := counted_scanOne node policy hm (clock id).toInstant id
    have hkept : ∀ r : Record, r.id ≠ id → _ := fun r hne =>
      mem_scanOne_of_ne node policy (m := m) hne (clock id).toInstant
    rcases scanOne_fst node policy hm (clock id).toInstant id with
      ⟨hnone, hnot⟩ | ⟨r, new, hr, htaken, hsome⟩
    · -- The scan goes on with what the first look left behind.
      have hscan : scan node policy clock (id :: ids) m
          = scan node policy clock ids (scanOne node policy (clock id).toInstant m id).2 := by
        rw [scan]
        split
        case h_1 heq => rw [heq]
        case h_2 heq => rw [heq] at hnone; cases hnone
      obtain ⟨reached, hprefix, hmap, hend⟩ := ih hids hcounted
      have hunreached : id ∉ reached := fun hmem => hid (List.IsPrefix.subset hprefix hmem)
      rw [hscan]
      refine ⟨id :: reached, (List.prefix_cons_inj id).mpr hprefix, ?_,
        hend.cons hunreached hkept ?_⟩
      · rw [hmap, hrecords, List.map_map]
        refine List.map_congr_left fun r _ => ?_
        simp only [Function.comp_apply]
        -- The ids are distinct, so no later look comes back to the first record.
        by_cases hr : r.id = id
        · subst hr
          have hsame := (r.sameTask_offered node policy (clock r.id).toInstant).id
          simp [hsame, hunreached]
        · simp [hr]
      · rintro r hr rfl
        exact hnot r (get?_of_mem hr)
    -- The first record is taken, and the scan ends with it.
    · have hscan : scan node policy clock (id :: ids) m
          = (.ok (some new), (scanOne node policy (clock id).toInstant m id).2) := by
        rw [scan]
        split
        case h_1 heq => rw [heq] at hsome; cases hsome
        case h_2 heq =>
          rw [heq] at hsome ⊢
          obtain rfl := Option.some.inj hsome
          rfl
      obtain rfl := id_of_get? hr
      rw [hscan]
      refine ⟨[r.id], by simp, ?_, .found (mem_of_get? hr) (List.nil_append _).symm htaken ?_⟩
      · rw [hrecords]
        refine List.map_congr_left fun x _ => ?_
        by_cases hx : x.id = r.id
        · simp [hx]
        · simp [hx]
      · intro x _ hx
        cases hx

end Scan

end TaskCluster.Memory

namespace TaskCluster

/-! ### All calls -/

namespace Record

/-- What a call makes of a record that is there; `reached` are the ids that a claim scan offers. -/
def after (policy : FailoverPolicy) (clock : Readings) (reached : List String) (c : Call)
    (r : Record) : Record :=
  let now := (clock r.id).toInstant
  match c with
  | .create .. | .list _ | .get _ => r
  | .requestCancel id => if r.id = id then r.requestCancel.2 else r
  | .change id next message => if r.id = id then (r.changeStatus next message now).2 else r
  | .changeFor id claim next message =>
    if r.id = id then (r.changeStatusFor claim next message now).2 else r
  | .log id line => if r.id = id then r.appendLog line else r
  | .claim node => if r.id ∈ reached then r.offered node policy now else r
  | .heartbeat node ids timeout => (r.checkHeartbeat node ids timeout now).2

section After

variable (policy : FailoverPolicy) (clock : Readings) (reached : List String) (c : Call)

theorem sameTask_after (r : Record) : SameTask r (r.after policy clock reached c) := by
  cases c with
  | create | list | get => exact .refl r
  | requestCancel id =>
    dsimp only [after]
    split
    · exact r.sameTask_requestCancel
    · exact .refl r
  | change id next message =>
    dsimp only [after]
    split
    · exact r.sameTask_changeStatus next message _
    · exact .refl r
  | changeFor id claim next message =>
    dsimp only [after]
    split
    · exact r.sameTask_changeStatusFor claim next message _
    · exact .refl r
  | log id line =>
    dsimp only [after]
    split
    · exact r.sameTask_appendLog line
    · exact .refl r
  | claim node =>
    dsimp only [after]
    split
    · exact r.sameTask_offered node policy _
    · exact .refl r
  | heartbeat node ids timeout => exact r.sameTask_checkHeartbeat node ids timeout _

theorem counted_after {r : Record} (h : r.Counted) :
    (r.after policy clock reached c).Counted := by
  cases c with
  | create | list | get => exact h
  | requestCancel id =>
    dsimp only [after]
    split
    · exact counted_requestCancel h
    · exact h
  | change id next message =>
    dsimp only [after]
    split
    · exact counted_changeStatus h next message _
    · exact h
  | changeFor id claim next message =>
    dsimp only [after]
    split
    · exact counted_changeStatusFor h claim next message _
    · exact h
  | log id line =>
    dsimp only [after]
    split <;> exact h
  | claim node =>
    dsimp only [after]
    split
    · exact counted_offered h node policy _
    · exact h
  | heartbeat node ids timeout => exact counted_checkHeartbeat h node ids timeout _

/-- A call moves every epoch on by one at most, unless it is a change to a run by hand. -/
theorem advances_after (hc : ∀ id message, c ≠ .change id .running message) {r : Record}
    (h : r.Counted) : Advances r (r.after policy clock reached c) := by
  cases c with
  | create | list | get => exact .refl r
  | requestCancel id =>
    dsimp only [after]
    split
    · exact r.advances_requestCancel
    · exact .refl r
  | change id next message =>
    have hnext : next ≠ .running := by
      rintro rfl
      exact hc id message rfl
    dsimp only [after]
    split
    · exact advances_changeStatus hnext r message _
    · exact .refl r
  | changeFor id claim next message =>
    dsimp only [after]
    split
    · exact r.advances_changeStatusFor claim next message _
    · exact .refl r
  | log id line =>
    dsimp only [after]
    split
    · exact r.advances_appendLog line
    · exact .refl r
  | claim node =>
    dsimp only [after]
    split
    · exact advances_offered h node policy _
    · exact .refl r
  | heartbeat node ids timeout => exact r.advances_checkHeartbeat node ids timeout _

end After

end Record

namespace Memory

variable (policy : FailoverPolicy) (clock : Readings)

/-- A claim reaches a part of the snapshot and ends as its scan does. -/
theorem performAt_claim {m : Memory} (hm : m.Counted) (node : String) :
    ∃ reached, (m.performAt policy clock (.claim node)).2.records
        = m.records.map (Record.after policy clock reached (.claim node))
      ∧ ScanEnd (fun r => r.offer node policy (clock r.id).toInstant) m m.snapshot reached
          (m.performAt policy clock (.claim node)).1 := by
  obtain ⟨reached, -, hrecords, hend⟩ :=
    scan_effect node policy clock m.snapshot m.snapshot_nodup hm
  exact ⟨reached, hrecords, hend⟩

/-- Every call but a creation maps the records that are there. -/
theorem performAt_records {m : Memory} (hm : m.Counted) {c : Call}
    (hc : c.operation ≠ .create) :
    ∃ reached, (m.performAt policy clock c).2.records
      = m.records.map (Record.after policy clock reached c) := by
  cases c with
  | create => exact absurd rfl hc
  | list | get => exact ⟨[], (List.map_id _).symm⟩
  | requestCancel id =>
    exact ⟨[], update_records (fun r => r.sameTask_requestCancel.id) m id⟩
  | change id next message =>
    refine ⟨[], (update_records (fun r => (r.sameTask_changeStatus next message _).id) m id).trans
      (List.map_congr_left fun r _ => ?_)⟩
    dsimp only [Record.after]
    split
    case isTrue hid => rw [hid]
    case isFalse => rfl
  | changeFor id claim next message =>
    refine ⟨[], (update_records
      (fun r => (r.sameTask_changeStatusFor claim next message _).id) m id).trans
      (List.map_congr_left fun r _ => ?_)⟩
    dsimp only [Record.after]
    split
    case isTrue hid => rw [hid]
    case isFalse => rfl
  | log id line =>
    have hmap := update_records (f := fun r => ((), r.appendLog line))
      (fun r => (r.sameTask_appendLog line).id) m id
    refine ⟨[], Eq.trans ?_ hmap⟩
    dsimp only [performAt]
    split
    case h_1 heq => rw [heq]
    case h_2 heq => rw [heq]
  | claim node =>
    obtain ⟨reached, hrecords, -⟩ := performAt_claim policy clock hm node
    exact ⟨reached, hrecords⟩
  | heartbeat node ids timeout => exact ⟨[], sweep_records clock m⟩

/-- No call leaves a claimed record without a count. -/
theorem counted_performAt {m : Memory} (hm : m.Counted) (c : Call) :
    (m.performAt policy clock c).2.Counted := by
  by_cases hc : c.operation = .create
  · cases c with
    | create id taskType config =>
      intro r hr
      have hfresh := Record.counted_fresh id taskType config (clock id).toInstant
      dsimp only [performAt, put] at hr
      split at hr
      · rw [records_replace] at hr
        obtain ⟨x, hx, rfl⟩ := List.mem_map.mp hr
        split
        · exact hfresh
        · exact hm x hx
      · rcases List.mem_append.mp hr with hold | hnew
        · exact hm r hold
        · rw [List.mem_singleton.mp hnew]
          exact hfresh
    | _ => cases hc
  · obtain ⟨reached, hrecords⟩ := performAt_records policy clock hm hc
    exact hm.of_map hrecords fun r hr => Record.counted_after policy clock reached c hr

end Memory

end TaskCluster

import Mathlib
import TaskCluster.Proofs.Cluster.RunnerEffect
import TaskCluster.Proofs.Store.Leases
import TaskCluster.Proofs.Store.Order

/-!
# Who owns a run

A `View` shows what matters about a cluster at a moment: the leases of the records, the runs that
have work to do, and the runners that are started. It is **owned** (`View.Owned`) if leases and
working runs belong together one to one, each working run is tracked by the runner of its node, and
each lease was given a sign of life no earlier than the last heartbeat of its node.

Whatever a cluster does shows as one of a few changes of the view, and each of them keeps it owned.
Two facts are drawn from that: at most one run works for a task (`Owned.eq_of_task_eq`), and no
lease is stale to another node as long as heartbeats are not too far apart (`Owned.kept_or_fresh`).
-/

namespace TaskCluster

/-- What matters about a cluster at a moment. -/
structure View where
  /-- The lease of the record of an id. -/
  lease : String → Option Lease
  /-- The task and the claim of a run that has work to do. -/
  worker : Nat → Option (String × Claim)
  /-- The runners of the nodes that are started. -/
  fleet : Nat → Option Runner
  /-- The milliseconds that timers have counted. -/
  timer : Nat
  clock : ClockTime

/-- A lease is no older than the last heartbeat of a runner. -/
structure Runner.Renews (r : Runner) (timer : Nat) (clock : ClockTime) (l : Lease) (last : Nat) :
    Prop where
  last_eq : r.lastHeartbeat = some last
  last_le : last ≤ timer
  in_calendar : minSecond * 1000 ≤ l.heartbeat.toInt
  age_le : clock.millis - l.heartbeat.toInt ≤ timer - last

namespace View

/-- Leases and working runs belong together. -/
structure Owned (v : View) : Prop where
  node_inj : ∀ (i j : Nat) (r r' : Runner), v.fleet i = some r → v.fleet j = some r' →
    r.node = r'.node → i = j
  ids_nodup : ∀ (i : Nat) (r : Runner), v.fleet i = some r → r.ids.Nodup
  /-- A working run holds the lease of its task, and the runner of its node tracks it. -/
  holder : ∀ (n : Nat) (id : String) (c : Claim), v.worker n = some (id, c) →
    ∃ (i : Nat) (r : Runner) (l : Lease), v.fleet i = some r ∧ r.node = c.node
      ∧ (id, n) ∈ r.tracked ∧ v.lease id = some l ∧ l.Of c
  /-- A run works under each lease. -/
  busy : ∀ (id : String) (l : Lease), v.lease id = some l →
    ∃ (n : Nat) (c : Claim), v.worker n = some (id, c) ∧ l.Of c
  fresh : ∀ (id : String) (l : Lease) (i : Nat) (r : Runner), v.lease id = some l →
    v.fleet i = some r → l.node = some r.node → ∃ last, r.Renews v.timer v.clock l last

variable {v : View}

theorem owned_empty (timer : Nat) (clock : ClockTime) :
    Owned ⟨fun _ => none, fun _ => none, fun _ => none, timer, clock⟩ where
  node_inj := nofun
  ids_nodup := nofun
  holder := nofun
  busy := nofun
  fresh := nofun

/-! ### What is drawn from ownership -/

/-- The runner of a node that owns a lease tracks the run under it. -/
theorem Owned.tracked (h : v.Owned) {id : String} {l : Lease} {i : Nat} {r : Runner}
    (hl : v.lease id = some l) (hi : v.fleet i = some r) (hnode : l.node = some r.node) :
    ∃ n c, v.worker n = some (id, c) ∧ l.Of c ∧ (id, n) ∈ r.tracked := by
  obtain ⟨n, c, hn, hc⟩ := h.busy id l hl
  obtain ⟨j, r', l', hj, hnode', hmem, -, -⟩ := h.holder n id c hn
  have hname : r.node = r'.node := by
    rw [hnode']
    exact Option.some.inj (hnode.symm.trans hc.1)
  obtain rfl := h.node_inj i j r r' hi hj hname
  obtain rfl := Option.some.inj (hi.symm.trans hj)
  exact ⟨n, c, hn, hc, hmem⟩

/-- At most one run works for a task. -/
theorem Owned.eq_of_task_eq (h : v.Owned) {n n' : Nat} {id : String} {c c' : Claim}
    (hn : v.worker n = some (id, c)) (hn' : v.worker n' = some (id, c')) : n = n' := by
  obtain ⟨i, r, l, hi, hnode, hmem, hl, hc⟩ := h.holder n id c hn
  obtain ⟨i', r', l', hi', hnode', hmem', hl', hc'⟩ := h.holder n' id c' hn'
  obtain rfl := Option.some.inj (hl.symm.trans hl')
  obtain rfl := hc.unique hc'
  obtain rfl := h.node_inj i i' r r' hi hi' (hnode.trans hnode'.symm)
  obtain rfl := Option.some.inj (hi.symm.trans hi')
  have hfind := (Runner.find?_eq_some_iff (h.ids_nodup i r hi)).mpr hmem
  have hfind' := (Runner.find?_eq_some_iff (h.ids_nodup i r hi)).mpr hmem'
  exact Option.some.inj (hfind.symm.trans hfind')

/-- A lease is fresh to everyone whose timeout is no shorter than the time since the last
heartbeat. -/
theorem not_stale_of_renews {r : Runner} {timer : Nat} {clock : ClockTime} {l : Lease} {last : Nat}
    (h : r.Renews timer clock l last) {timeout : Duration} (hlast : timer - last ≤ timeout.millis) :
    l.isStale timeout clock.toInstant = false := by
  obtain ⟨-, hle, hmin, hage⟩ := h
  have hmax := clock.le_max
  have hlow : Int64.minValue.toInt ≤ l.heartbeat.toInt := l.heartbeat.minValue_le_toInt
  -- Both ends are in the calendar, so the cut to 64 bits changes nothing.
  have hspan : clock.millis - Duration.maxMillis ≤ l.heartbeat.toInt := by
    simp only [minSecond, maxSecond, Duration.maxMillis, Int64.toInt_maxValue] at *
    omega
  have hcut : clock.millis - timeout.clockMillis ≤ l.heartbeat.toInt := by
    unfold Duration.clockMillis
    omega
  unfold Lease.isStale Record.clampMillis
  rw [ClockTime.millis_toInstant, decide_eq_false_iff_not]
  omega

/-- A heartbeat of a node keeps its own leases, and finds those of others fresh as long as their
heartbeats are not too far back. -/
theorem Owned.kept_or_fresh (h : v.Owned) {i : Nat} {r : Runner} (hi : v.fleet i = some r)
    {timeout : Duration}
    (hothers : ∀ j r', j ≠ i → v.fleet j = some r' → ∀ last, r'.lastHeartbeat = some last →
      v.timer - last ≤ timeout.millis) {id : String} {l : Lease} (hl : v.lease id = some l) :
    l.KeptBy r.node r.ids id ∨ l.isStale timeout v.clock.toInstant = false := by
  obtain ⟨n, c, hn, hc⟩ := h.busy id l hl
  obtain ⟨j, r', l', hj, hnode, hmem, -, -⟩ := h.holder n id c hn
  have howner : l.node = some r'.node := by
    rw [hnode]
    exact hc.1
  by_cases hji : j = i
  · subst hji
    obtain rfl := Option.some.inj (hi.symm.trans hj)
    exact Or.inl ⟨List.mem_map.mpr ⟨(id, n), hmem, rfl⟩, howner⟩
  · obtain ⟨last, hrenews⟩ := h.fresh id l j r' hl hj howner
    exact Or.inr (not_stale_of_renews hrenews (hothers j r' hji hj last hrenews.last_eq))

/-! ### Changes of a view -/

/-- A heartbeat that is written down is the reading of the clock. -/
theorem toInt_heartbeat (clock : ClockTime) :
    (Int64.ofInt clock.toInstant.millis).toInt = clock.millis := by
  rw [ClockTime.millis_toInstant]
  exact clock.toInt_ofInt_millis

theorem update_cases {α β : Type} [DecidableEq α] {f : α → Option β} {a a' : α} {o : Option β}
    {b : β} (h : Function.update f a o a' = some b) : a' = a ∧ o = some b ∨ a' ≠ a ∧ f a' = some b := by
  by_cases ha : a' = a
  · subst ha
    rw [Function.update_self] at h
    exact Or.inl ⟨rfl, h⟩
  · rw [Function.update_of_ne ha] at h
    exact Or.inr ⟨ha, h⟩

/-- A runner that is replaced by one of its node does not change which nodes are distinct. -/
theorem Owned.node_inj_update (h : v.Owned) {i : Nat} {r new : Runner} (hi : v.fleet i = some r)
    (hnode : new.node = r.node) (j k : Nat) (r₁ r₂ : Runner)
    (h₁ : Function.update v.fleet i (some new) j = some r₁)
    (h₂ : Function.update v.fleet i (some new) k = some r₂) (heq : r₁.node = r₂.node) : j = k := by
  rcases update_cases h₁ with ⟨rfl, ⟨⟩⟩ | ⟨-, hj⟩
  · rcases update_cases h₂ with ⟨rfl, ⟨⟩⟩ | ⟨-, hk⟩
    · rfl
    · exact h.node_inj j k r r₂ hi hk (hnode.symm.trans heq)
  · rcases update_cases h₂ with ⟨rfl, ⟨⟩⟩ | ⟨-, hk⟩
    · exact h.node_inj j k r₁ r hj hi (heq.trans hnode)
    · exact h.node_inj j k r₁ r₂ hj hk heq

/-- A runner forgets runs that have no work to do. -/
theorem Owned.retrack (h : v.Owned) {i : Nat} {r new : Runner} (hi : v.fleet i = some r)
    (hnode : new.node = r.node) (hlast : new.lastHeartbeat = r.lastHeartbeat)
    (hids : new.ids.Nodup)
    (hkept : ∀ n id c, v.worker n = some (id, c) → (id, n) ∈ r.tracked → (id, n) ∈ new.tracked) :
    Owned { v with fleet := Function.update v.fleet i (some new) } where
  node_inj := h.node_inj_update hi hnode
  ids_nodup := by
    intro j r' hj
    rcases update_cases hj with ⟨rfl, ⟨⟩⟩ | ⟨-, hold⟩
    · exact hids
    · exact h.ids_nodup j r' hold
  holder := by
    intro n id c hn
    obtain ⟨j, r', l, hj, hnode', hmem, hl, hc⟩ := h.holder n id c hn
    by_cases hji : j = i
    · subst hji
      obtain rfl := Option.some.inj (hi.symm.trans hj)
      exact ⟨j, new, l, Function.update_self .., hnode.trans hnode', hkept n id c hn hmem, hl, hc⟩
    · exact ⟨j, r', l, (Function.update_of_ne hji ..).trans hj, hnode', hmem, hl, hc⟩
  busy := h.busy
  fresh := by
    intro id l j r' hl hj howner
    rcases update_cases hj with ⟨rfl, ⟨⟩⟩ | ⟨-, hold⟩
    · obtain ⟨last, hrenews⟩ := h.fresh id l j r hl hi (hnode ▸ howner)
      exact ⟨last, hlast.trans hrenews.last_eq, hrenews.last_le, hrenews.in_calendar,
        hrenews.age_le⟩
    · exact h.fresh id l j r' hl hold howner

/-- The heartbeat of a runner renews the leases of its node. -/
theorem Owned.renew (h : v.Owned) {i : Nat} {r : Runner} (hi : v.fleet i = some r) :
    Owned { v with
      lease := fun id => (v.lease id).map (Lease.renewed r.node r.ids v.clock.toInstant id)
      fleet := Function.update v.fleet i (some { r with lastHeartbeat := some v.timer }) } where
  node_inj := h.node_inj_update hi rfl
  ids_nodup := by
    intro j r' hj
    rcases update_cases hj with ⟨rfl, ⟨⟩⟩ | ⟨-, hold⟩
    · exact h.ids_nodup j r hi
    · exact h.ids_nodup j r' hold
  holder := by
    intro n id c hn
    obtain ⟨j, r', l, hj, hnode, hmem, hl, hc⟩ := h.holder n id c hn
    have hlease : (v.lease id).map (Lease.renewed r.node r.ids v.clock.toInstant id)
        = some (l.renewed r.node r.ids v.clock.toInstant id) := by
      rw [hl]
      rfl
    have hof : (l.renewed r.node r.ids v.clock.toInstant id).Of c := Lease.of_renewed_iff.mpr hc
    by_cases hji : j = i
    · subst hji
      obtain rfl := Option.some.inj (hi.symm.trans hj)
      exact ⟨j, _, _, Function.update_self .., hnode, hmem, hlease, hof⟩
    · exact ⟨j, r', _, (Function.update_of_ne hji ..).trans hj, hnode, hmem, hlease, hof⟩
  busy := by
    intro id l' hl'
    obtain ⟨l, hl, rfl⟩ := Option.map_eq_some_iff.mp hl'
    obtain ⟨n, c, hn, hc⟩ := h.busy id l hl
    exact ⟨n, c, hn, Lease.of_renewed_iff.mpr hc⟩
  fresh := by
    intro id l' j r' hl' hj howner
    obtain ⟨l, hl, rfl⟩ := Option.map_eq_some_iff.mp hl'
    rw [Lease.node_renewed] at howner
    rcases update_cases hj with ⟨rfl, ⟨⟩⟩ | ⟨hji, hold⟩
    · -- The runner tracks the run of each lease of its node, so all of them are renewed now.
      obtain ⟨n, c, -, -, hmem⟩ := h.tracked hl hi howner
      have hkept : l.KeptBy r.node r.ids id := ⟨List.mem_map.mpr ⟨(id, n), hmem, rfl⟩, howner⟩
      have hnow : ((l.renewed r.node r.ids v.clock.toInstant id).heartbeat).toInt
          = v.clock.millis := by
        rw [Lease.renewed_of_kept hkept]
        exact toInt_heartbeat v.clock
      exact ⟨v.timer, rfl, Nat.le_refl _, hnow ▸ v.clock.min_le, by dsimp only; omega⟩
    · have hother : ¬ l.KeptBy r.node r.ids id := fun hkept =>
        hji (h.node_inj j i r' r hold hi (Option.some.inj (howner.symm.trans hkept.2)))
      rw [Lease.renewed_of_not_kept hother]
      exact h.fresh id l j r' hl hold howner

/-- A runner claims a task that nobody works for, and launches a run. -/
theorem Owned.launch (h : v.Owned) {i : Nat} {r : Runner} (hi : v.fleet i = some r) {last : Nat}
    (hlast : r.lastHeartbeat = some last) (hle : last ≤ v.timer) {id : String} {n : Nat}
    (hfree : v.lease id = none) (hnew : v.worker n = none) (count : UInt32) :
    Owned { v with
      lease := Function.update v.lease id
        (some ⟨some r.node, count, Int64.ofInt v.clock.toInstant.millis⟩)
      worker := Function.update v.worker n (some (id, ⟨r.node, count⟩))
      fleet := Function.update v.fleet i (some (r.track id n)) } where
  node_inj := h.node_inj_update hi (Runner.node_track id n)
  ids_nodup := by
    intro j r' hj
    rcases update_cases hj with ⟨rfl, ⟨⟩⟩ | ⟨-, hold⟩
    · exact Runner.ids_track_nodup (h.ids_nodup j r hi) id n
    · exact h.ids_nodup j r' hold
  holder := by
    intro m id' c hm
    rcases update_cases hm with ⟨rfl, ⟨⟩⟩ | ⟨-, hold⟩
    · exact ⟨i, _, _, Function.update_self .., Runner.node_track _ m,
        Runner.mem_track.mpr (Or.inl ⟨rfl, rfl⟩), Function.update_self .., rfl, rfl⟩
    · obtain ⟨j, r', l, hj, hnode, hmem, hl, hc⟩ := h.holder m id' c hold
      -- A run that is there works for another task, since nobody worked for this one.
      have hne : id' ≠ id := by
        rintro rfl
        rw [hfree] at hl
        cases hl
      have hlease := (Function.update_of_ne hne
        (some (Lease.mk (some r.node) count (Int64.ofInt v.clock.toInstant.millis))) v.lease).trans hl
      by_cases hji : j = i
      · subst hji
        obtain rfl := Option.some.inj (hi.symm.trans hj)
        exact ⟨j, _, l, Function.update_self .., (Runner.node_track id n).trans hnode,
          Runner.mem_track.mpr (Or.inr ⟨hne, hmem⟩), hlease, hc⟩
      · exact ⟨j, r', l, (Function.update_of_ne hji ..).trans hj, hnode, hmem, hlease, hc⟩
  busy := by
    intro id' l hl
    rcases update_cases hl with ⟨rfl, ⟨⟩⟩ | ⟨-, hold⟩
    · exact ⟨n, ⟨r.node, count⟩, Function.update_self .., rfl, rfl⟩
    · obtain ⟨m, c, hm, hc⟩ := h.busy id' l hold
      -- The number of the new run was free, so the other runs keep theirs.
      have hmn : m ≠ n := by
        rintro rfl
        rw [hnew] at hm
        cases hm
      exact ⟨m, c, (Function.update_of_ne hmn ..).trans hm, hc⟩
  fresh := by
    intro id' l j r' hl hj howner
    rcases update_cases hl with ⟨rfl, ⟨⟩⟩ | ⟨-, hold⟩
    · have hnow : (Int64.ofInt v.clock.toInstant.millis).toInt = v.clock.millis :=
        toInt_heartbeat v.clock
      -- A claim counts as a heartbeat, so the lease is no older than the last heartbeat proper.
      have hrenews : ∃ last', r.Renews v.timer v.clock
          ⟨some r.node, count, Int64.ofInt v.clock.toInstant.millis⟩ last' :=
        ⟨last, hlast, hle, hnow ▸ v.clock.min_le, by dsimp only; rw [hnow]; omega⟩
      rcases update_cases hj with ⟨rfl, ⟨⟩⟩ | ⟨hji, hold⟩
      · obtain ⟨last', hrenews'⟩ := hrenews
        exact ⟨last', (Runner.lastHeartbeat_track ..).trans hrenews'.last_eq, hrenews'.last_le,
          hrenews'.in_calendar, hrenews'.age_le⟩
      · exact absurd (h.node_inj j i r' r hold hi (Option.some.inj howner).symm) hji
    · rcases update_cases hj with ⟨rfl, ⟨⟩⟩ | ⟨-, hj'⟩
      · rw [Runner.node_track] at howner
        obtain ⟨last', hrenews'⟩ := h.fresh id' l j r hold hi howner
        exact ⟨last', (Runner.lastHeartbeat_track ..).trans hrenews'.last_eq, hrenews'.last_le,
          hrenews'.in_calendar, hrenews'.age_le⟩
      · exact h.fresh id' l j r' hold hj' howner

/-- A run reports its end: it has no work any more, and its lease is given back. -/
theorem Owned.release (h : v.Owned) {n : Nat} {id : String} {c : Claim}
    (hn : v.worker n = some (id, c)) :
    Owned { v with
      lease := Function.update v.lease id none
      worker := Function.update v.worker n none } where
  node_inj := h.node_inj
  ids_nodup := h.ids_nodup
  holder := by
    intro m id' c' hm
    rcases update_cases hm with ⟨-, ⟨⟩⟩ | ⟨hmn, hold⟩
    -- Two runs of one task are one run, so the others do not lose their leases.
    have hne : id' ≠ id := by
      rintro rfl
      exact hmn (h.eq_of_task_eq hold hn)
    obtain ⟨j, r, l, hj, hnode, hmem, hl, hc⟩ := h.holder m id' c' hold
    exact ⟨j, r, l, hj, hnode, hmem, (Function.update_of_ne hne ..).trans hl, hc⟩
  busy := by
    intro id' l hl
    rcases update_cases hl with ⟨-, ⟨⟩⟩ | ⟨hne, hold⟩
    obtain ⟨m, c', hm, hc⟩ := h.busy id' l hold
    have hmn : m ≠ n := by
      rintro rfl
      obtain ⟨rfl, -⟩ := Prod.mk.inj (Option.some.inj (hm.symm.trans hn))
      exact hne rfl
    exact ⟨m, c', (Function.update_of_ne hmn ..).trans hm, hc⟩
  fresh := by
    intro id' l j r hl hj howner
    rcases update_cases hl with ⟨-, ⟨⟩⟩ | ⟨-, hold⟩
    exact h.fresh id' l j r hold hj howner

/-- Time passes, for the timers no less than for the clock. -/
theorem Owned.pass (h : v.Owned) {timer : Nat} {clock : ClockTime} (htimer : v.timer ≤ timer)
    (hclock : clock.millis - v.clock.millis ≤ timer - v.timer) :
    Owned { v with timer, clock } where
  node_inj := h.node_inj
  ids_nodup := h.ids_nodup
  holder := h.holder
  busy := h.busy
  fresh := by
    intro id l i r hl hi howner
    obtain ⟨last, heq, hle, hmin, hage⟩ := h.fresh id l i r hl hi howner
    exact ⟨last, heq, hle.trans htimer, hmin, by dsimp only; omega⟩

/-- A node that is started has no leases yet. -/
theorem Owned.enlist (h : v.Owned) {i : Nat} {new : Runner} (hi : v.fleet i = none)
    (htracked : new.tracked = []) (hnode : ∀ j r, v.fleet j = some r → r.node ≠ new.node) :
    Owned { v with fleet := Function.update v.fleet i (some new) } where
  node_inj := by
    intro j k r₁ r₂ h₁ h₂ heq
    rcases update_cases h₁ with ⟨rfl, ⟨⟩⟩ | ⟨-, hj⟩
    · rcases update_cases h₂ with ⟨rfl, ⟨⟩⟩ | ⟨-, hk⟩
      · rfl
      · exact absurd heq.symm (hnode k r₂ hk)
    · rcases update_cases h₂ with ⟨rfl, ⟨⟩⟩ | ⟨-, hk⟩
      · exact absurd heq (hnode j r₁ hj)
      · exact h.node_inj j k r₁ r₂ hj hk heq
  ids_nodup := by
    intro j r hj
    rcases update_cases hj with ⟨rfl, ⟨⟩⟩ | ⟨-, hold⟩
    · rw [Runner.ids, htracked]
      exact List.nodup_nil
    · exact h.ids_nodup j r hold
  holder := by
    intro n id c hn
    obtain ⟨j, r, l, hj, hnode', hmem, hl, hc⟩ := h.holder n id c hn
    have hji : j ≠ i := by
      rintro rfl
      rw [hi] at hj
      cases hj
    exact ⟨j, r, l, (Function.update_of_ne hji ..).trans hj, hnode', hmem, hl, hc⟩
  busy := h.busy
  fresh := by
    intro id l j r hl hj howner
    rcases update_cases hj with ⟨rfl, ⟨⟩⟩ | ⟨-, hold⟩
    · -- The holder of the lease is another node.
      obtain ⟨n, c, hn, hc⟩ := h.busy id l hl
      obtain ⟨k, r', -, hk, hnode', -⟩ := h.holder n id c hn
      have hname : r'.node = new.node := by
        rw [hnode']
        exact Option.some.inj (hc.1.symm.trans howner)
      exact absurd hname (hnode k r' hk)
    · exact h.fresh id l j r hl hold howner

end View

end TaskCluster

import Mathlib
import TaskCluster.Cluster.Shared
import TaskCluster.Proofs.Store.Leases
import TaskCluster.Proofs.Store.Traffic

/-!
# Calls that succeed

As long as no connection fails and nobody locks the database, a call of what the nodes share answers
as a call of a memory does, and nothing but the store changes (`Shared.Serves.call`). So whatever a
node does can be followed on the memory that the store holds, over either kind of store. A call that
is under way in a memory is followed look by look (`Shared.Serves.look`).
-/

namespace TaskCluster

/-! ### Stores -/

/-- The store holds the records of a memory, and no other connection has locked it. -/
inductive Store.Holds : Store → Memory → Prop where
  | memory {m : Memory} (counted : m.Counted) : Holds (.memory m) m
  | database {m : Memory} {t : Table} (agrees : Agrees m t) : Holds (.database ⟨t, false⟩) m

/-- No call over the connection fails. -/
def Connection.Healthy (k : Connection) : Prop := k.failing = [] ∧ k.broken = false

namespace Store.Holds

variable {s : Store} {m : Memory}

theorem shows (h : s.Holds m) : s.Shows m := by
  cases h with
  | memory hm => exact .memory hm
  | database hagrees => exact .database false hagrees

/-- A call over a healthy connection leaves it healthy. -/
theorem call (h : s.Holds m) {k : Connection} (hk : k.Healthy) (now : ClockTime) (c : Call)
    (hfresh : ∀ id ∈ c.created?, m.get? id = none) :
    ∃ s', s.call now k c = ((m.perform k.settings.failover now c).1, k, s')
      ∧ s'.Holds (m.perform k.settings.failover now c).2 := by
  obtain ⟨hfailing, hbroken⟩ := hk
  have hcounted := Memory.counted_performAt k.settings.failover (fun _ => now) h.shows.counted c
  unfold Store.call
  rw [hfailing, if_neg (by simp)]
  cases h with
  | memory hm => exact ⟨_, rfl, .memory hcounted⟩
  | @database _ t hagrees =>
    obtain ⟨t', heq, hagrees'⟩ :=
      performAt_agrees k.settings.failover (fun _ => now) hagrees c hfresh
    have hoverflow := Memory.performAt_ne_overflow k.settings.failover (fun _ => now)
      hagrees.counted c
    refine ⟨.database ⟨t', false⟩, ?_, .database hagrees'⟩
    dsimp only [onDatabase]
    rw [hbroken, if_neg Bool.false_ne_true]
    have hperform : (Database.mk t false).perform k.settings.failover now c
        = ((m.perform k.settings.failover now c).1, ⟨t', false⟩) := heq
    rw [hperform]
    unfold Memory.perform
    split
    case h_1 o _ hresult => exact absurd (Prod.ext_iff.mp hresult).1 (hoverflow o)
    case h_2 hresult =>
      obtain ⟨rfl, rfl⟩ := Prod.ext_iff.mp hresult
      rfl

end Store.Holds

/-! ### Ids of tasks -/

/-- The digits of a numbered id are those of the number. -/
theorem ofDigitChars_taskId (n : Nat) : Nat.ofDigitChars 10 (taskId n).toList 0 = n := by
  have hdigits : (toString n).toList = Nat.toDigits 10 n := by
    rw [Nat.toString_eq_repr, Nat.repr_eq_ofList_toDigits, String.toList_ofList]
  unfold taskId
  rw [String.toList_append, String.toList_ofList, Nat.ofDigitChars_append,
    Nat.ofDigitChars_replicate_zero, Nat.mul_zero, hdigits, Nat.ofDigitChars_ten_toDigits]

theorem taskId_injective : Function.Injective taskId := by
  intro a b hab
  rw [← ofDigitChars_taskId a, hab, ofDigitChars_taskId]

/-! ### What nodes share -/

namespace Shared

/-- No id is handed out twice. -/
def UniqueIds (s : Shared) : Prop := Function.Injective s.supply

/-- Calls succeed, what they answer is in a memory, and the ids of tasks to come are free there. -/
structure Serves (s : Shared) (m : Memory) : Prop where
  holds : s.store.Holds m
  healthy : ∀ k, (s.connection k).Healthy
  unique : s.UniqueIds
  unborn : ∀ n, s.created < n → m.get? (s.supply n) = none

/-- A claim or a heartbeat that is under way in a memory looks at its next record, with the answer
if it ends. In a database no call is ever under way. -/
def look (s : Shared) (policy : FailoverPolicy) (now : ClockTime) (call : Underway) :
    Option Answer × Shared :=
  match s.store with
  | .memory m =>
    let looked := Traffic.lookAt policy now.toInstant m call
    (looked.1, { s with store := .memory looked.2.2 })
  | .database _ => (none, s)

/-- The policy of the calls over a connection. -/
def policy (s : Shared) (k : Nat) : FailoverPolicy := (s.connection k).settings.failover

theorem connections_set (s : Shared) (k : Nat) :
    s.connections.set k (s.connection k) = s.connections := by
  by_cases hk : k < s.connections.length
  · rw [connection, List.getElem?_eq_getElem hk, Option.getD_some, List.set_getElem_self]
  · exact List.set_eq_of_length_le (Nat.le_of_not_lt hk)

/-- A call that leaves its connection as it is changes nothing but the store. -/
theorem call_eq_of_store {s : Shared} {k : Nat} {c : Call} {result : Except Abort c.Result}
    {store : Store}
    (h : s.store.call s.clock (s.connection k) c = (result, s.connection k, store)) :
    s.call k c = (result, { s with store }) := by
  unfold Shared.call
  rw [h]
  dsimp only
  rw [connections_set]

namespace Serves

variable {s : Shared} {m : Memory}

theorem counted (h : s.Serves m) : m.Counted := h.holds.shows.counted

theorem record?_eq (h : s.Serves m) (id : String) : s.store.record? id = m.get? id :=
  h.holds.shows.record?_eq id

/-- A call answers as a memory does, and changes nothing but the store. -/
theorem call_eq (h : s.Serves m) (k : Nat) (c : Call)
    (hfresh : ∀ id ∈ c.created?, m.get? id = none) :
    ∃ store, s.call k c = ((m.perform (s.policy k) s.clock c).1, { s with store })
      ∧ store.Holds (m.perform (s.policy k) s.clock c).2 := by
  obtain ⟨store, heq, hholds⟩ := h.holds.call (h.healthy k) s.clock c hfresh
  exact ⟨store, call_eq_of_store heq, hholds⟩

/-- The same for a call that creates nothing. -/
theorem call (h : s.Serves m) (k : Nat) {c : Call} (hc : c.created? = none) :
    ∃ store, s.call k c = ((m.perform (s.policy k) s.clock c).1, { s with store })
      ∧ ({ s with store } : Shared).Serves (m.perform (s.policy k) s.clock c).2 := by
  have hfresh : ∀ id ∈ c.created?, m.get? id = none := by
    intro id hid
    rw [hc] at hid
    cases hid
  obtain ⟨store, heq, hholds⟩ := h.call_eq k c hfresh
  refine ⟨store, heq, hholds, h.healthy, h.unique, ?_⟩
  intro n hn
  refine Memory.get?_performAt_eq_none _ _ h.counted ?_ (h.unborn n hn)
  rw [hc]
  exact nofun

/-- A look is one at the memory, and nothing but the store changes. -/
theorem look (h : s.Serves m) (policy : FailoverPolicy) (now : ClockTime) (call : Underway) :
    s.look policy now call = (none, s)
    ∨ ∃ store, s.look policy now call
        = ((Traffic.lookAt policy now.toInstant m call).1, { s with store })
      ∧ ({ s with store } : Shared).Serves (Traffic.lookAt policy now.toInstant m call).2.2 := by
  have hshown := Traffic.shown_lookAt policy now.toInstant m call
  have hholds := h.holds
  unfold Shared.look
  cases hstore : s.store with
  | database d => exact .inl rfl
  | memory m' =>
    rw [hstore] at hholds
    cases hholds
    refine .inr ⟨_, rfl, .memory (hshown.counted h.counted), h.healthy, h.unique, fun n hn => ?_⟩
    exact Traffic.get?_lookAt_eq_none policy now.toInstant call (h.unborn n hn)

/-- A task is created under the next id. -/
theorem create (h : s.Serves m) (k : Nat) (taskType : String) (config : Config) :
    ∃ store, s.create k taskType config
        = (.ok (s.supply (s.created + 1)), { s with store, created := s.created + 1 })
      ∧ ({ s with store, created := s.created + 1 } : Shared).Serves
          (m.perform (s.policy k) s.clock
            (.create (s.supply (s.created + 1)) taskType config)).2 := by
  have hfree : m.get? (s.supply (s.created + 1)) = none := h.unborn _ (Nat.lt_succ_self _)
  obtain ⟨store, heq, hholds⟩ := h.call_eq k (.create (s.supply (s.created + 1)) taskType config)
    fun id hid => (Option.some.inj hid) ▸ hfree
  refine ⟨store, ?_, hholds, h.healthy, h.unique, ?_⟩
  · unfold Shared.create
    dsimp only
    rw [heq]
    rfl
  · intro n hn
    refine Memory.get?_performAt_eq_none _ _ h.counted ?_ (h.unborn n (Nat.lt_of_succ_lt hn))
    intro hid
    exact Nat.ne_of_lt hn (h.unique (Option.some.inj hid))

end Serves

end Shared

end TaskCluster

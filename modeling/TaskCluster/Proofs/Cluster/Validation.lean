import Mathlib
import TaskCluster.Proofs.Cluster.Calls
import TaskCluster.Proofs.Cluster.Moves
import TaskCluster.Proofs.Json.RoundTrip
import TaskCluster.Proofs.Store.Entries

/-!
# What was validated can be started

A manager stores a task only after its type has made work from the configuration, but a runner makes
the work again from the text that the store kept, perhaps much later and on another node. The two
agree because the text reads back as the configuration (`Config.ReadsBack`) and because nothing that
happens to a store touches the type and the text of a task once it is there (`Store.amends_call`).
A configuration of whole numbers always reads back (`Config.Plain.readsBack`).

So the invariant is that the entries of all tasks from managers are still startable (`Vouches`). It
is kept by calls of any kind, by the looks of those that are under way in a memory, and by every
part of a runner, jobs included, and it says that no claim of such a task ends in a failure to make
its work. New tasks get ids from outside. A memory takes any id that is free, so a task keeps its
entry to itself as long as no id is handed out twice (`Shared.UniqueIds`).
-/

namespace TaskCluster

/-- The text of a configuration reads back as the configuration. -/
def Config.ReadsBack (c : Config) : Prop := Config.parse c.text? = .ok c

/-- A configuration whose numbers are whole numbers in the range of 64 bits, and which is not nested
deeper than can be read. -/
def Config.Plain (c : Config) : Prop :=
  ∀ fields ∈ c, (Json.Value.obj fields).Plain (Json.Reader.depthLimit - 1)

/-- **A plain configuration reads back.** -/
theorem Config.Plain.readsBack {c : Config} (h : c.Plain) : c.ReadsBack := by
  cases c with
  | none => rfl
  | some fields =>
    have hparse := Json.Object.parse_compact (h fields rfl)
    show (Json.Object.parse (Json.Value.obj fields).compact).map some = .ok (some fields)
    rw [hparse]
    rfl

/-- Work can be made of what the store holds about the task. -/
def Entry.Startable (registry : Registry) (e : Entry) : Prop :=
  ∃ config work, Config.parse e.config = .ok config
    ∧ registry.create e.taskType config = .ok work

namespace Entry.Startable

variable {registry : Registry} {e : Entry}

theorem of_sameTask {old new : Entry} (h : old.Startable registry) (hsame : SameTask old new) :
    new.Startable registry := by
  unfold Startable
  rw [hsame.taskType, hsame.config]
  exact h

/-- A task whose configuration its type has accepted. -/
theorem of_create {id taskType : String} {config : Config} {now : Instant} {work : Work}
    (hread : e.read = .ok (Record.fresh id taskType config now)) (hback : config.ReadsBack)
    (hwork : registry.create taskType config = .ok work) : e.Startable registry := by
  have hsame := sameTask_read hread
  refine ⟨config, work, ?_, ?_⟩
  · rw [← hsame.config]
    exact hback
  · rw [← hsame.taskType]
    exact hwork

/-- A runner makes the work of a startable task. -/
theorem instantiate {r : Record} (h : (Entry.record r).Startable registry) :
    ∃ work, Runner.instantiate registry r = .ok work := by
  obtain ⟨config, work, hparse, hwork⟩ := h
  refine ⟨work, ?_⟩
  have hconfig : r.parseConfig = .ok config := hparse
  rw [Runner.instantiate, hconfig]
  exact hwork

end Entry.Startable

/-! ### Creations -/

section Create

variable {s : Shared} {k : Nat} {taskType : String} {config : Config}

theorem Shared.create_of_ok
    (h : (s.call k (.create (s.supply (s.created + 1)) taskType config)).1 = .ok ()) :
    s.create k taskType config = (.ok (s.supply (s.created + 1)),
      { (s.call k (.create (s.supply (s.created + 1)) taskType config)).2 with
        created := s.created + 1 }) := by
  unfold create
  dsimp only
  split
  case h_1 s' heq =>
    have hcreated : s'.created = s.created :=
      (congrArg (fun p => p.2.created) heq).symm
    rw [heq]
    dsimp only
    rw [hcreated]
  case h_2 heq =>
    rw [heq] at h
    cases h

theorem Shared.create_of_error {e : Abort}
    (h : (s.call k (.create (s.supply (s.created + 1)) taskType config)).1 = .error e) :
    s.create k taskType config
      = (.error e, (s.call k (.create (s.supply (s.created + 1)) taskType config)).2) := by
  unfold create
  dsimp only
  split
  case h_1 heq =>
    rw [heq] at h
    cases h
  case h_2 heq =>
    rw [heq] at h ⊢
    cases h
    rfl

/-- A creation fails and does nothing, or it adds an entry behind all others, under the next id,
which must be free in a memory. -/
theorem Shared.create_cases (s : Shared) (k : Nat) (taskType : String) (config : Config)
    (hfree : ∀ m, s.store = .memory m → m.get? (s.supply (s.created + 1)) = none) :
    (∃ e, (s.create k taskType config).1 = .error e
        ∧ (s.create k taskType config).2.store = s.store)
    ∨ (s.create k taskType config).1 = .ok (s.supply (s.created + 1))
      ∧ ∃ e, (s.create k taskType config).2.store.entries = s.store.entries ++ [e]
        ∧ e.read
          = .ok (Record.fresh (s.supply (s.created + 1)) taskType config s.clock.toInstant) := by
  rcases s.store.create_cases s.clock (s.connection k) _ taskType config hfree with
    ⟨e, herror, hstore⟩ | ⟨hok, hadded⟩
  · rw [Shared.create_of_error herror]
    exact Or.inl ⟨e, rfl, hstore⟩
  · rw [Shared.create_of_ok hok]
    exact Or.inr ⟨rfl, hadded⟩

/-- What a creation leaves behind: what was there and, if it succeeds, a fresh entry, the only one
under the next id. -/
theorem Shared.entry_of_create {e : Entry} (he : e ∈ (s.create k taskType config).2.store.entries) :
    e ∈ s.store.entries
      ∧ ((s.create k taskType config).1.isOk = true → e.id ≠ s.supply (s.created + 1))
    ∨ (s.create k taskType config).1 = .ok (s.supply (s.created + 1))
      ∧ e.read = .ok
          (Record.fresh (s.supply (s.created + 1)) taskType config s.clock.toInstant) := by
  cases hcall : (s.call k (.create (s.supply (s.created + 1)) taskType config)).1 with
  | error e =>
    rw [Shared.create_of_error hcall] at he ⊢
    rcases s.store.entry_of_create s.clock (s.connection k) he with ⟨hold, -⟩ | ⟨hok, -⟩
    · exact Or.inl ⟨hold, nofun⟩
    · cases hcall.symm.trans hok
  | ok =>
    rw [Shared.create_of_ok hcall] at he ⊢
    rcases s.store.entry_of_create s.clock (s.connection k) he with ⟨hold, hid⟩ | ⟨-, hread⟩
    · exact Or.inl ⟨hold, fun _ => hid hcall⟩
    · exact Or.inr ⟨rfl, hread⟩

theorem Shared.created_create (s : Shared) (k : Nat) (taskType : String) (config : Config) :
    (s.create k taskType config).2.created
      = if (s.create k taskType config).1.isOk then s.created + 1 else s.created := by
  cases hcall : (s.call k (.create (s.supply (s.created + 1)) taskType config)).1 with
  | error e =>
    rw [Shared.create_of_error hcall]
    rfl
  | ok =>
    rw [Shared.create_of_ok hcall]
    rfl

theorem Shared.supply_create (s : Shared) (k : Nat) (taskType : String) (config : Config) :
    (s.create k taskType config).2.supply = s.supply := by
  cases hcall : (s.call k (.create (s.supply (s.created + 1)) taskType config)).1 with
  | error e =>
    rw [Shared.create_of_error hcall]
    rfl
  | ok =>
    rw [Shared.create_of_ok hcall]
    rfl

/-- A manager hands a task to the store only if its type makes work of the configuration. -/
theorem Manager.create_cases (registry : Registry) (m : Manager) (taskType : String)
    (config : Config) (s : Shared) :
    (∃ e, registry.create taskType config = .error e
        ∧ m.create registry taskType config s = (.error (.failure e), m, s))
    ∨ ∃ work, registry.create taskType config = .ok work
      ∧ (m.create registry taskType config s).1 = (s.create m.connection taskType config).1
      ∧ (m.create registry taskType config s).2.2
        = (s.create m.connection taskType config).2 := by
  unfold create
  cases hwork : registry.create taskType config with
  | error e => exact Or.inl ⟨e, rfl, rfl⟩
  | ok work =>
    refine Or.inr ⟨work, rfl, ?_⟩
    dsimp only
    split
    case h_1 heq =>
      rw [heq]
      exact ⟨rfl, rfl⟩
    case h_2 heq =>
      rw [heq]
      exact ⟨rfl, rfl⟩

/-- A creation through a manager fails and does nothing to the store, or it adds one entry behind
all others. -/
theorem Manager.create_adds (registry : Registry) (m : Manager) (taskType : String)
    (config : Config) (s : Shared)
    (hfree : ∀ memory, s.store = .memory memory → memory.get? (s.supply (s.created + 1)) = none) :
    (∃ e, (m.create registry taskType config s).1 = .error e
        ∧ (m.create registry taskType config s).2.2.store = s.store)
    ∨ (m.create registry taskType config s).1 = .ok (s.supply (s.created + 1))
      ∧ ∃ e, (m.create registry taskType config s).2.2.store.entries = s.store.entries ++ [e]
        ∧ e.read
          = .ok (Record.fresh (s.supply (s.created + 1)) taskType config s.clock.toInstant) := by
  rcases m.create_cases registry taskType config s with ⟨e, -, heq⟩ | ⟨work, -, hfst, hshared⟩
  · rw [heq]
    exact Or.inl ⟨_, rfl, rfl⟩
  · rw [hfst, hshared]
    exact s.create_cases m.connection taskType config hfree

end Create

/-! ### Tasks from managers -/

/-- The tasks of some ids are startable, and the ids have been handed out and do not come again. -/
structure Vouches (registry : Registry) (ids : List String) (s : Shared) : Prop where
  startable : ∀ e ∈ s.store.entries, e.id ∈ ids → e.Startable registry
  born : ∀ id ∈ ids, ∃ n ≤ s.created, s.supply n = id
  unique : s.UniqueIds

namespace Vouches

variable {registry : Registry} {ids : List String} {s s' : Shared}

/-- Entries that are amended stay startable. -/
theorem of_amends (h : Vouches registry ids s)
    (hamends : Amends s.store.entries s'.store.entries) (hcreated : s'.created = s.created)
    (hsupply : s'.supply = s.supply) :
    Vouches registry ids s' where
  startable := by
    intro e' he' hid
    obtain ⟨e, he, hsame⟩ := hamends.exists_of_mem he'
    rw [hsame.id] at hid
    exact (h.startable e he hid).of_sameTask hsame
  born := by
    rw [hcreated, hsupply]
    exact h.born
  unique := by
    unfold Shared.UniqueIds
    rw [hsupply]
    exact h.unique

theorem move (h : Vouches registry ids s) (hmove : s.Move s') : Vouches registry ids s' := by
  cases hmove with
  | call k hc => exact h.of_amends (s.store.amends_call s.clock (s.connection k) hc) rfl rfl
  | look policy now call =>
    unfold Shared.look
    cases hstore : s.store with
    | database d => exact h
    | memory m =>
      refine h.of_amends ?_ rfl rfl
      rw [hstore]
      exact m.amends_lookAt policy now.toInstant call
  | lock locked =>
    refine h.of_amends ?_ rfl rfl
    rw [Store.entries_setLock]
    exact .refl _
  | aside hstore hcreated hsupply =>
    refine h.of_amends ?_ hcreated hsupply
    rw [hstore]
    exact .refl _

/-- The next id is not among those that have been handed out. -/
theorem supply_notMem (h : Vouches registry ids s) : s.supply (s.created + 1) ∉ ids := by
  intro hmem
  obtain ⟨n, hn, hid⟩ := h.born _ hmem
  obtain rfl := h.unique hid
  omega

/-- A creation adds no task of these ids. -/
theorem create (h : Vouches registry ids s) (k : Nat) (taskType : String) (config : Config) :
    Vouches registry ids (s.create k taskType config).2 where
  startable := by
    intro e he hid
    rcases Shared.entry_of_create he with ⟨hold, -⟩ | ⟨-, hread⟩
    · exact h.startable e hold hid
    · rw [← (Entry.sameTask_read hread).id] at hid
      exact absurd hid h.supply_notMem
  born := by
    intro id hid
    obtain ⟨n, hn, hn'⟩ := h.born id hid
    rw [Shared.created_create, Shared.supply_create]
    refine ⟨n, ?_, hn'⟩
    split <;> omega
  unique := by
    unfold Shared.UniqueIds
    rw [Shared.supply_create]
    exact h.unique

/-- A creation through a manager adds a task that its type accepts. -/
theorem manage (h : Vouches registry ids s) (m : Manager) {taskType : String} {config : Config}
    (hback : config.ReadsBack) :
    Vouches registry ((m.create registry taskType config s).1.toOption.toList ++ ids)
      (m.create registry taskType config s).2.2 := by
  rcases m.create_cases registry taskType config s with ⟨e, -, heq⟩ | ⟨work, hwork, hfst, hshared⟩
  · rw [heq]
    exact h
  rw [hfst, hshared]
  have hnew : ∀ id ∈ (s.create m.connection taskType config).1.toOption.toList,
      (s.create m.connection taskType config).1.isOk = true ∧ id = s.supply (s.created + 1) := by
    intro id hid
    cases hcall : (s.call m.connection (.create (s.supply (s.created + 1)) taskType config)).1 with
    | error e =>
      rw [Shared.create_of_error hcall] at hid
      cases hid
    | ok =>
      rw [Shared.create_of_ok hcall] at hid ⊢
      exact ⟨rfl, List.mem_singleton.mp hid⟩
  have hother := h.create m.connection taskType config
  refine ⟨?_, ?_, hother.unique⟩
  · intro e he hid
    rcases Shared.entry_of_create he with ⟨hold, hother⟩ | ⟨-, hread⟩
    · rcases List.mem_append.mp hid with hid | hid
      · exact absurd (hnew e.id hid).2 (hother (hnew e.id hid).1)
      · exact h.startable e hold hid
    · exact .of_create hread hback hwork
  · intro id hid
    rcases List.mem_append.mp hid with hid | hid
    · obtain ⟨hok, rfl⟩ := hnew id hid
      rw [Shared.created_create, if_pos hok, Shared.supply_create]
      exact ⟨s.created + 1, le_refl _, rfl⟩
    · exact hother.born id hid

/-- A record of one of these tasks can be started. -/
theorem instantiate (h : Vouches registry ids s) {r : Record}
    (hr : ∃ e ∈ s.store.entries, Entry.SameTask e (.record r)) (hid : r.id ∈ ids) :
    ∃ work, Runner.instantiate registry r = .ok work := by
  obtain ⟨e, he, hsame⟩ := hr
  have hid' : e.id ∈ ids := by rwa [← hsame.id]
  exact ((h.startable e he hid').of_sameTask hsame).instantiate

/-- What a claim hands out of these tasks can be started. -/
theorem claim (h : Vouches registry ids s) {k : Nat} {node : String} {r : Record}
    (hclaim : (s.call k (.claim node)).1 = .ok (some r)) (hid : r.id ∈ ids) :
    ∃ work, Runner.instantiate registry r = .ok work :=
  h.instantiate (s.store.entry_of_claim s.clock (s.connection k) hclaim) hid

/-- So can what a claim that is under way hands out. -/
theorem look (h : Vouches registry ids s) {policy : FailoverPolicy} {now : ClockTime}
    {call : Underway} {node : String} {r : Record}
    (hlook : (s.look policy now call).1 = some ⟨.claim node, .ok (some r)⟩) (hid : r.id ∈ ids) :
    ∃ work, Runner.instantiate registry r = .ok work := by
  refine h.instantiate ?_ hid
  unfold Shared.look at hlook
  cases hstore : s.store with
  | memory m =>
    rw [hstore] at hlook
    exact Memory.entry_of_lookAt hlook
  | database d =>
    rw [hstore] at hlook
    cases hlook

/-- A claimed task that cannot be started is none of these. -/
theorem notMem_of_unmade (h : Vouches registry ids s) {k : Nat} {node : String} {r : Record}
    {f : Failure} (hclaim : s.call k (.claim node) = (.ok (some r), s'))
    (hunmade : Runner.instantiate registry r = .error f) : r.id ∉ ids := by
  intro hid
  obtain ⟨work, hmade⟩ := h.claim (congrArg Prod.fst hclaim) hid
  cases hunmade.symm.trans hmade

end Vouches

/-! ### Starting tasks -/

/-- A claim ends no task with an error. -/
theorem Turn.finishedError_of_claim {id node : String} {result : Except Abort (Option Record)}
    {moment : Option Moment} {before : Option Record} {r : Record}
    (h : Turn id (some ⟨.claim node, result⟩) moment before (some r))
    (hr : r.status = .finishedError) : before = some r := by
  generalize hafter : some r = after at h
  cases h with
  | idle => rfl
  | @offered m old node' =>
    obtain rfl := Option.some.inj hafter
    unfold Record.offered at hr ⊢
    cases ho : old.offer node' m.policy m.now.toInstant with
    | passed => rfl
    | canceled new =>
      rw [ho] at hr
      cases (Record.of_offer_canceled ho).2.1.symm.trans hr
    | taken new =>
      rw [ho] at hr
      obtain ⟨-, rfl, -⟩ := Record.of_offer_taken ho
      cases hr
    | overflowed new =>
      rw [ho] at hr
      obtain rfl := Record.of_offer_overflowed ho
      cases hr
  | created _ _ hanswer => cases hanswer
  | cancelRequested hanswer => cases hanswer
  | changed _ _ hanswer => cases hanswer
  | reported _ _ _ hanswer => cases hanswer
  | logged _ hanswer => cases hanswer
  | checked _ _ _ hcall => cases hcall _ rfl

/-- A call that creates nothing makes a turn at each id, or it does nothing to the store. -/
theorem Shared.turn_call (s : Shared) (k : Nat) {c : Call} (hc : c.created? = none) (id : String) :
    (s.call k c).2.store.record? id = s.store.record? id
    ∨ Turn id (some ⟨c, (s.call k c).1⟩) (some ⟨s.policy k, s.clock⟩) (s.store.record? id)
        ((s.call k c).2.store.record? id) := by
  have hanswer : (s.call k c).1 = (s.store.call s.clock (s.connection k) c).1 := rfl
  have hstore : (s.call k c).2.store = (s.store.call s.clock (s.connection k) c).2.2 := rfl
  rw [hanswer, hstore]
  rcases s.store.call_cases s.clock (s.connection k) c with ⟨_, -, hsame⟩ | heq
  · rw [hsame]
    exact Or.inl rfl
  · rw [heq]
    refine Or.inr (s.store.turn_performAt _ (fun _ => s.clock) c ?_ id)
    rw [hc]
    exact nofun

/-- No task of some ids has ended with an error meanwhile. -/
def Spares (ids : List String) (s s' : Shared) : Prop :=
  ∀ id ∈ ids, ∀ r, s'.store.record? id = some r → r.status = .finishedError →
    s.store.record? id = some r

namespace Spares

variable {ids : List String} {s s' s'' : Shared}

theorem of_store_eq (h : s'.store = s.store) : Spares ids s s' := by
  intro id _ r hr _
  rwa [h] at hr

theorem trans (h : Spares ids s s') (h' : Spares ids s' s'') : Spares ids s s'' :=
  fun id hid r hr hended => h id hid r (h' id hid r hr hended) hended

theorem of_claim {k : Nat} {node : String} {answer : Except Abort (Option Record)}
    (h : s.call k (.claim node) = (answer, s')) : Spares ids s s' := by
  intro id _ r hr hended
  have hcall := s.turn_call k (c := .claim node) rfl id
  rw [h] at hcall
  rcases hcall with hsame | hturn
  · rwa [hsame] at hr
  · rw [hr] at hturn
    exact hturn.finishedError_of_claim hended

/-- A report about a task leaves all others alone. -/
theorem of_report {k : Nat} {target : String} {claim : Claim} {status : Status}
    {message : Option String} {answer : Except Abort Bool} (htarget : target ∉ ids)
    (h : s.call k (.changeFor target claim status message) = (answer, s')) : Spares ids s s' := by
  intro id hid r hr _
  have hne : id ≠ target := fun heq => htarget (heq ▸ hid)
  have hcall := s.turn_call k (c := .changeFor target claim status message) rfl id
  rw [h] at hcall
  rcases hcall with hsame | hturn
  · rwa [hsame] at hr
  · rwa [hturn.of_target_ne rfl hne] at hr

end Spares

/-- Starting tasks ends none of those that are vouched for with an error: their work is made. -/
theorem Vouches.starting {registry : Registry} {ids : List String} {r : Runner} {s : Shared}
    {out : Except Abort Unit × Runner × Shared} (h : Vouches registry ids s)
    (hstarting : Runner.Starting registry r s out) : Spares ids s out.2.2 := by
  induction hstarting with
  | rest => exact .of_store_eq rfl
  | claimFailed answer => exact .of_claim answer
  | drained answer => exact .of_claim answer
  | unclaimed answer _ _ ih =>
    exact (Spares.of_claim answer).trans (ih (h.move (.of_call answer nofun)))
  | @launched r s s' record claim work _ _ answer _ _ _ ih =>
    have hsame : (r.launch record claim work s').2.store = s'.store := rfl
    have hclaimed := h.move (.of_call answer nofun)
    exact (Spares.of_claim answer).trans
      ((Spares.of_store_eq hsame).trans (ih (hclaimed.move (.aside hsame rfl rfl))))
  | refusalFailed answer _ unmade refusal =>
    exact (Spares.of_claim answer).trans (.of_report (h.notMem_of_unmade answer unmade) refusal)
  | refused answer _ unmade refusal _ ih =>
    have hreport := Spares.of_report (h.notMem_of_unmade answer unmade) refusal
    exact ((Spares.of_claim answer).trans hreport).trans
      (ih ((h.move (.of_call answer nofun)).move (.of_call refusal nofun)))

theorem Vouches.startUpTo {registry : Registry} {ids : List String} {s : Shared}
    (h : Vouches registry ids s) (fuel : Nat) (r : Runner) :
    Spares ids s (Runner.startUpTo registry fuel r s).2.2 :=
  h.starting (Runner.starting_startUpTo registry fuel r s)

/-! ### Later on -/

/-- What the nodes share, with the ids of the tasks that managers have created. -/
structure Managed where
  shared : Shared
  ids : List String := []

/-- What may happen: a move, a creation past all managers, or a creation through a manager. -/
inductive Managed.Step (registry : Registry) : Managed → Managed → Prop where
  | move {s s' : Shared} {ids : List String} (h : s.Move s') : Step registry ⟨s, ids⟩ ⟨s', ids⟩
  | create {s : Shared} {ids : List String} (k : Nat) (taskType : String) (config : Config) :
    Step registry ⟨s, ids⟩ ⟨(s.create k taskType config).2, ids⟩
  | manage {s : Shared} {ids : List String} (m : Manager) (taskType : String) {config : Config}
    (back : config.ReadsBack) :
    Step registry ⟨s, ids⟩ ⟨(m.create registry taskType config s).2.2,
      (m.create registry taskType config s).1.toOption.toList ++ ids⟩

abbrev Managed.Steps (registry : Registry) : Managed → Managed → Prop :=
  Relation.ReflTransGen (Managed.Step registry)

namespace Managed

variable {registry : Registry} {s₀ : Shared} {x : Managed}

theorem steps_of_moves {s s' : Shared} {ids : List String} (h : s.Moves s') :
    Steps registry ⟨s, ids⟩ ⟨s', ids⟩ := by
  induction h with
  | refl => exact .refl
  | tail _ hmove ih => exact ih.tail (.move hmove)

/-- A cluster in which time passes takes such steps. -/
theorem steps_advance (c : Cluster) (ids : List String) (millis : Nat) :
    Steps registry ⟨c.shared, ids⟩ ⟨(c.advance millis).shared, ids⟩ :=
  steps_of_moves (c.moves_advance millis)

/-- Whatever happens, the tasks from managers stay startable. -/
theorem Steps.vouches (h : Steps registry ⟨s₀, []⟩ x) (hunique : s₀.UniqueIds) :
    Vouches registry x.ids x.shared := by
  induction h with
  | refl =>
    refine ⟨?_, ?_, hunique⟩
    · intro e _ hid
      cases hid
    · intro id hid
      cases hid
  | tail _ hstep ih =>
    cases hstep with
    | move hmove => exact ih.move hmove
    | create k taskType config => exact ih.create k taskType config
    | manage m taskType hback => exact ih.manage m hback

/-- **What was validated can be started.** A plain configuration reads back. A manager that does not
create a task leaves the store as it is. One that does adds one entry behind all others, a new
record whose configuration reads back as the one that its type accepted. From then on, whatever
calls of whatever nodes the store answers, every claim of a task from a manager finds one whose work
can be made, whether it is answered at once or under way while other calls are answered, and no
runner that starts tasks ends such a task with an error. -/
theorem validated_tasks_start (registry : Registry) :
    (∀ config : Config, config.Plain → config.ReadsBack)
    ∧ (∀ (m : Manager) (taskType : String) (config : Config) (s : Shared),
      (∀ memory, s.store = .memory memory → memory.get? (s.supply (s.created + 1)) = none) →
      (∃ e, (m.create registry taskType config s).1 = .error e
          ∧ (m.create registry taskType config s).2.2.store = s.store)
      ∨ (m.create registry taskType config s).1 = .ok (s.supply (s.created + 1))
        ∧ ∃ e r, (m.create registry taskType config s).2.2.store.entries = s.store.entries ++ [e]
          ∧ e.read = .ok r ∧ r.id = s.supply (s.created + 1) ∧ r.taskType = taskType
          ∧ r.status = .new ∧ r.config = config.text?
          ∧ (config.ReadsBack → r.parseConfig = .ok config))
    ∧ ∀ s₀ x, s₀.UniqueIds → Steps registry ⟨s₀, []⟩ x →
      (∀ k node r, (x.shared.call k (.claim node)).1 = .ok (some r) → r.id ∈ x.ids →
        ∃ work, Runner.instantiate registry r = .ok work)
      ∧ (∀ policy now call node r,
        (x.shared.look policy now call).1 = some ⟨.claim node, .ok (some r)⟩ → r.id ∈ x.ids →
        ∃ work, Runner.instantiate registry r = .ok work)
      ∧ ∀ runner : Runner, Spares x.ids x.shared (runner.startTasks registry x.shared).2.2 := by
  refine ⟨fun config => Config.Plain.readsBack, ?_, ?_⟩
  · intro m taskType config s hfree
    refine (m.create_adds registry taskType config s hfree).imp_right ?_
    rintro ⟨hok, e, hentries, hread⟩
    exact ⟨hok, e, _, hentries, hread, rfl, rfl, rfl, rfl, fun hback => hback⟩
  · intro s₀ x hunique hsteps
    have hvouches := hsteps.vouches hunique
    exact ⟨fun k node r => hvouches.claim, fun policy now call node r => hvouches.look,
      fun runner => hvouches.startUpTo _ runner⟩

section OneTask

/-- A manager on an empty store. -/
def soloManager : Manager := { node := "a", connection := 0 }

def emptyShared : Shared := { store := .memory {}, clock := .epoch }

/-- A sleep of five milliseconds. -/
def shortSleep : Config := some [("duration_ms", .int 5)]

/-- The manager has created a task that sleeps. -/
def oneManaged : Managed :=
  ⟨(soloManager.create .builtin "sleep" shortSleep emptyShared).2.2, [taskId 1]⟩

theorem shortSleep_plain : shortSleep.Plain := by
  rintro fields ⟨⟩
  refine .obj (List.pairwise_singleton ..) fun f hf => ?_
  obtain rfl := List.mem_singleton.mp hf
  exact .int (by decide) (by decide)

theorem create_shortSleep :
    (soloManager.create .builtin "sleep" shortSleep emptyShared).1 = .ok (taskId 1) := rfl

/-- The record of the task when a node has claimed it. -/
def claimedSleep : Record :=
  (Record.fresh (taskId 1) "sleep" shortSleep ClockTime.epoch.toInstant).running "a"
    ClockTime.epoch.toInstant

/-- The task of the one manager is stored with its configuration, is handed out and can be started,
also by a claim that reaches it after a task that is gone. -/
theorem validated_tasks_start_for_sleep :
    (∃ e r, oneManaged.shared.store.entries = [e] ∧ e.read = .ok r ∧ r.status = .new
        ∧ r.parseConfig = .ok shortSleep)
      ∧ Steps .builtin ⟨emptyShared, []⟩ oneManaged
      ∧ (∃ r, (oneManaged.shared.call 0 (.claim "a")).1 = .ok (some r) ∧ r.id = taskId 1
        ∧ ∃ work, Runner.instantiate .builtin r = .ok work)
      ∧ ((oneManaged.shared.look {} .epoch (.claim "a" ["gone", taskId 1])).1 = none
        ∧ (oneManaged.shared.look {} .epoch (.claim "a" [taskId 1])).1
          = some ⟨.claim "a", .ok (some claimedSleep)⟩
        ∧ ∃ work, Runner.instantiate .builtin claimedSleep = .ok work)
      ∧ ∀ runner : Runner, Spares [taskId 1] oneManaged.shared
          (runner.startTasks .builtin oneManaged.shared).2.2 := by
  obtain ⟨hplain, hcreate, hlater⟩ := validated_tasks_start .builtin
  have hback := hplain shortSleep shortSleep_plain
  have hsteps : Steps .builtin ⟨emptyShared, []⟩ oneManaged :=
    .single (.manage soloManager "sleep" hback)
  have hunique : emptyShared.UniqueIds := taskId_injective
  obtain ⟨hmade, hlook, hspares⟩ := hlater emptyShared oneManaged hunique hsteps
  refine ⟨?_, hsteps, ?_, ?_, hspares⟩
  · have hfree : ∀ memory, emptyShared.store = .memory memory →
        memory.get? (taskId (emptyShared.created + 1)) = none := by
      rintro memory ⟨⟩
      rfl
    rcases hcreate soloManager "sleep" shortSleep emptyShared hfree with ⟨e, herror, -⟩ | ⟨-, hadds⟩
    · rw [create_shortSleep] at herror
      cases herror
    · obtain ⟨e, r, hentries, hread, -, -, hstatus, -, hparse⟩ := hadds
      exact ⟨e, r, hentries, hread, hstatus, hparse hback⟩
  · have hid : (oneManaged.shared.call 0 (.claim "a")).1.toOption.map (Option.map Record.id)
        = some (some (taskId 1)) := by decide +kernel
    cases hanswer : (oneManaged.shared.call 0 (.claim "a")).1 with
    | error e =>
      rw [hanswer] at hid
      cases hid
    | ok answer =>
      rw [hanswer] at hid
      obtain ⟨r, rfl, hr⟩ := Option.map_eq_some_iff.mp (Option.some.inj hid)
      exact ⟨r, rfl, hr, hmade 0 "a" r hanswer (by rw [hr]; exact List.mem_singleton_self _)⟩
  · have hnone : (oneManaged.shared.look {} .epoch (.claim "a" ["gone", taskId 1])).1 = none := rfl
    have hsome : (oneManaged.shared.look {} .epoch (.claim "a" [taskId 1])).1
        = some ⟨.claim "a", .ok (some claimedSleep)⟩ := rfl
    exact ⟨hnone, hsome, hlook {} .epoch _ "a" claimedSleep hsome (List.mem_singleton_self _)⟩

end OneTask

end Managed

end TaskCluster

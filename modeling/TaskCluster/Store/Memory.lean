import TaskCluster.Store.Call

/-!
# A store in memory

The records are kept in the order in which their ids were stored first. A record is replaced as a
whole, one at a time: a claim scan and a heartbeat sweep take a snapshot of the ids, oldest first,
and then look at one record after the other, so that other calls may come between.
-/

namespace TaskCluster

/-- Records in the order of their insertion, each id once. -/
structure Memory where
  records : List Record := []
  ids_nodup : (records.map Record.id).Nodup := by exact List.nodup_nil

namespace Memory

/-- The records with one of them replaced by a record of the same id. -/
def replaced (records : List Record) (new : Record) : List Record :=
  records.map fun r => if r.id = new.id then new else r

theorem map_id_replaced (records : List Record) (new : Record) :
    (replaced records new).map Record.id = records.map Record.id := by
  induction records with
  | nil => rfl
  | cons r records ih =>
    simp only [replaced, List.map_cons] at ih ⊢
    rw [ih]
    by_cases h : r.id = new.id <;> simp [h]

/-- Replaces the record of the same id, if there is one. -/
def replace (m : Memory) (r : Record) : Memory where
  records := replaced m.records r
  ids_nodup := by rw [map_id_replaced]; exact m.ids_nodup

/-- Stores a record: in the place of the one with its id, or behind all others. -/
def put (m : Memory) (r : Record) : Memory :=
  if h : r.id ∈ m.records.map Record.id then m.replace r
  else
    { records := m.records ++ [r]
      ids_nodup := by
        rw [List.map_append, List.nodup_append]
        refine ⟨m.ids_nodup, by simp, ?_⟩
        intro a ha b hb hab
        simp only [List.map_cons, List.map_nil, List.mem_singleton] at hb
        exact h (hb ▸ hab ▸ ha) }

/-- The record of an id. -/
def get? (m : Memory) (id : String) : Option Record := m.records.find? fun r => r.id == id

/-- The records by their time of creation, those of one time by their insertion. -/
def oldestFirst (m : Memory) : List Record :=
  m.records.mergeSort fun a b => a.createdAt.le b.createdAt

/-- The records of a listing, newest first. -/
def list (m : Memory) (l : Listing) : List Record :=
  l.page (m.oldestFirst.reverse.filter fun r => l.admits r.taskType r.status)

/-- Changes the record of an id; none if it is unknown. -/
def update {α : Type} (m : Memory) (id : String) (f : Record → α × Record) : Option α × Memory :=
  match m.get? id with
  | none => (none, m)
  | some r =>
    let (a, new) := f r
    (some a, m.replace new)

/-- A look of a claim scan at the record of an id: the record is offered to the node. None means
that the scan goes on. -/
def scanOne (node : String) (policy : FailoverPolicy) (now : Instant) (m : Memory) (id : String) :
    Option (Except Abort Record) × Memory :=
  match m.get? id with
  | none => (none, m)
  | some r =>
    match r.offer node policy now with
    | .passed => (none, m)
    | .canceled new => (none, m.replace new)
    | .taken new => (some (.ok new), m.replace new)
    | .overflowed new => (some (.error (.overflow .counter)), m.replace new)

/-- Looks at the records of some ids, one after the other, until the node takes one. -/
def scan (node : String) (policy : FailoverPolicy) (clock : Readings) :
    List String → Memory → Except Abort (Option Record) × Memory
  | [], m => (.ok none, m)
  | id :: ids, m =>
    match scanOne node policy (clock id).toInstant m id with
    | (none, m) => scan node policy clock ids m
    | (some result, m) => (result.map some, m)

/-- A look of a heartbeat sweep at the record of an id. -/
def sweepOne (node : String) (listed : List String) (timeout : Duration) (now : Instant)
    (m : Memory) (id : String) : Memory :=
  (m.update id fun r => r.checkHeartbeat node listed timeout now).2

/-- Sweeps the records of some ids, one after the other. -/
def sweep (node : String) (listed : List String) (timeout : Duration) (clock : Readings)
    (ids : List String) (m : Memory) : Memory :=
  ids.foldl (fun m id => sweepOne node listed timeout (clock id).toInstant m id) m

/-- The ids that a scan or a sweep looks at, oldest first. -/
def snapshot (m : Memory) : List String := m.oldestFirst.map Record.id

/-- Answers a call, with a reading of the clock for each record that it looks at. -/
def performAt (policy : FailoverPolicy) (clock : Readings) (m : Memory) (c : Call) :
    Except Abort c.Result × Memory :=
  match c with
  | .create id taskType config =>
    (.ok (), m.put (Record.fresh id taskType config (clock id).toInstant))
  | .list l => (.ok (m.list l), m)
  | .get id => (.ok (m.get? id), m)
  | .requestCancel id =>
    let (done, m) := m.update id Record.requestCancel
    (.ok (done.getD false), m)
  | .change id status message =>
    let (done, m) := m.update id fun r => r.changeStatus status message (clock id).toInstant
    (.ok (done.getD false), m)
  | .changeFor id claim status message =>
    let (done, m) := m.update id fun r =>
      r.changeStatusFor claim status message (clock id).toInstant
    (.ok (done.getD false), m)
  | .log id line =>
    match m.update id fun r => ((), r.appendLog line) with
    | (some _, m) => (.ok (), m)
    | (none, m) => (.error (.failure (.taskNotFound id)), m)
  | .claim node => scan node policy clock m.snapshot m
  | .heartbeat node ids timeout => (.ok (), sweep node ids timeout clock m.snapshot m)

/-- Answers a call at a time. -/
def perform (policy : FailoverPolicy) (now : ClockTime) (m : Memory) (c : Call) :
    Except Abort c.Result × Memory :=
  m.performAt policy (fun _ => now) c

end Memory

end TaskCluster

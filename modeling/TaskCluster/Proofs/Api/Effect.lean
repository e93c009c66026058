import Mathlib
import TaskCluster.Api.Basic
import TaskCluster.Proofs.Cluster.Validation
import TaskCluster.Proofs.Record.LogLines

/-!
# What a request does to the store

Most requests read. Only two can write: the one that creates a task, once its type, its body and its
configuration have been accepted, and the one that asks a task to stop. Each writes with a single
call of the store as its last step, and the answer is made from what that call answered. So the
answer alone tells what happened (`requests_change_store_as_answered`): a task was added if and only
if it was answered with its id, a task was marked if and only if it was called canceled, and under
any other answer the store is exactly as before.
-/

namespace TaskCluster.Api

/-! ### Words of failures -/

/-- No failure is worded as the answer to a request to cancel that was granted. -/
theorem internal_ne_canceled (e : Abort) : (Response.internal e).body ≠ "Task canceled" := by
  cases e with
  | overflow o => cases o <;> decide
  | failure f =>
    cases f with
    | io fault =>
      show "IO error: " ++ fault.text ++ " (os error " ++ toString fault.code ++ ")" ≠ _
      rw [String.append_assoc, String.append_assoc, String.append_assoc]
      exact Log.append_ne_of_not_prefix (by decide) _
    | _ => exact Log.append_ne_of_not_prefix (by decide) _

/-! ### Requests that read -/

section Read

variable (m : Manager) (s : Shared)

theorem listTasks_store (query : Option (List Char)) :
    (listTasks query m s).2.2.store = s.store := by
  unfold listTasks
  split
  · rfl
  split
  · rfl
  case h_2 l _ =>
    have hstore : (m.list l s).2.store = s.store :=
      s.store.call_read s.clock (s.connection m.connection) (Or.inl rfl)
    split
    case h_1 heq => rwa [heq] at hstore
    case h_2 heq => rwa [heq] at hstore

theorem getTask_store (id : String) : (getTask id m s).2.2.store = s.store := by
  have hstore : (m.get id s).2.store = s.store :=
    s.store.call_read s.clock (s.connection m.connection) (Or.inr rfl)
  unfold getTask
  split
  case h_1 heq => rwa [heq] at hstore
  case h_2 heq => rwa [heq] at hstore
  case h_3 heq => rwa [heq] at hstore

theorem read_store (registry : Registry) (target : Target) :
    (read registry target m s).2.2.store = s.store := by
  unfold read
  cases Route.ofPath target.path with
  | types => rfl
  | tasks => exact listTasks_store m s target.query
  | task segment =>
    show (withSegment segment getTask m s).2.2.store = s.store
    unfold withSegment
    cases decodeSegment segment with
    | none => rfl
    | some id => exact getTask_store m s id
  | unknown => rfl

end Read

/-! ### Requests that write -/

section Write

variable {m : Manager} {s : Shared}

/-- The record of a task that a request has created. -/
structure IsCreated (taskType : String) (body : List UInt8) (response : Response) (new : Record) :
    Prop where
  answered : response.body = (Json.Value.object [("id", .str new.id)]).compact
  taskType : new.taskType = taskType
  status : new.status = .new
  runCount : new.runCount = 0
  cancelRequested : new.cancelRequested = false
  /-- A blank body stands for no configuration. -/
  blank : body.all isBlankByte = true → new.config = none
  config : body.all isBlankByte = false →
    ∃ o, Json.Object.parseBytes body = .ok o ∧ new.config = some (Json.Value.obj o).compact

theorem isCreated_fresh {taskType : String} {body : List UInt8} {config : Config}
    (hconfig : configOfBody body = .ok config) (id : String) (now : Instant) :
    IsCreated taskType body (.json (.object [("id", .str id)]))
      (Record.fresh id taskType config now) where
  answered := rfl
  taskType := rfl
  status := rfl
  runCount := rfl
  cancelRequested := rfl
  blank := by
    intro hblank
    rw [configOfBody, if_pos hblank] at hconfig
    obtain rfl := Except.ok.inj hconfig
    rfl
  config := by
    intro hblank
    rw [configOfBody, if_neg (by simp [hblank])] at hconfig
    cases hparse : Json.Object.parseBytes body with
    | error e =>
      rw [hparse] at hconfig
      cases hconfig
    | ok o =>
      rw [hparse] at hconfig
      obtain rfl := Except.ok.inj hconfig
      exact ⟨o, rfl, rfl⟩

/-- A request to create a task is refused and does nothing, or it is answered with the id of the one
record that it adds. -/
theorem createTask_cases (registry : Registry) (taskType : String) (body : List UInt8)
    (m : Manager) (s : Shared)
    (hfree : ∀ memory, s.store = .memory memory → memory.get? (s.supply (s.created + 1)) = none) :
    (createTask registry taskType body m s).1.status ≠ 200
      ∧ (createTask registry taskType body m s).2.2.store = s.store
    ∨ (createTask registry taskType body m s).1.status = 200
      ∧ ∃ e new, (createTask registry taskType body m s).2.2.store.entries = s.store.entries ++ [e]
        ∧ e.read = .ok new
        ∧ IsCreated taskType body (createTask registry taskType body m s).1 new := by
  unfold createTask
  split
  · exact Or.inl ⟨by simp [Response.text], rfl⟩
  split
  case h_1 => exact Or.inl ⟨by simp [invalidConfig, Response.text], rfl⟩
  case h_2 config hconfig =>
    have hcases := m.create_adds registry taskType config s hfree
    rcases hcreate : m.create registry taskType config s with ⟨answer, m', s'⟩
    rw [hcreate] at hcases
    dsimp only at hcases ⊢
    rcases hcases with ⟨e, rfl, hstore⟩ | ⟨rfl, e, hentries, hread⟩
    · refine Or.inl ?_
      cases e with
      | overflow o => exact ⟨by simp [Response.internal, Response.text], hstore⟩
      | failure f =>
        cases f <;> exact ⟨by simp [invalidConfig, Response.internal, Response.text], hstore⟩
    · exact Or.inr ⟨rfl, e, _, hentries, hread, isCreated_fresh hconfig _ _⟩

/-- A manager whose runner is not started asks a task to stop with a single call. -/
theorem cancel_cases (id : String) {m : Manager} (hloop : m.loop = none) (s : Shared) :
    (m.cancel id s).1 ≠ .ok true ∧ (m.cancel id s).2.store = s.store
    ∨ (m.cancel id s).1 = .ok true ∧ Marks id s.store.entries (m.cancel id s).2.store.entries := by
  have hcases := s.store.requestCancel_cases s.clock (s.connection m.connection) id
  have hanswer : (s.call m.connection (.requestCancel id)).1
      = (s.store.call s.clock (s.connection m.connection) (.requestCancel id)).1 := rfl
  have hstore : (s.call m.connection (.requestCancel id)).2.store
      = (s.store.call s.clock (s.connection m.connection) (.requestCancel id)).2.2 := rfl
  rw [← hanswer, ← hstore] at hcases
  have hcancel : Text.isBlank id = false →
      m.cancel id s = s.call m.connection (.requestCancel id) := by
    intro hblank
    rw [Manager.cancel, if_neg (by simp [hblank]), hloop]
    rcases s.call m.connection (.requestCancel id) with ⟨e | done, s'⟩
    · rfl
    · cases done <;> rfl
  cases hblank : Text.isBlank id with
  | true =>
    rw [Manager.cancel, if_pos hblank]
    exact Or.inl ⟨nofun, rfl⟩
  | false =>
    rw [hcancel hblank]
    exact hcases

/-- A request to cancel is called canceled exactly if it marks the record of its id. -/
theorem cancelTask_cases (id : String) {m : Manager} (hloop : m.loop = none) (s : Shared) :
    (cancelTask id m s).1.body ≠ "Task canceled" ∧ (cancelTask id m s).2.2.store = s.store
    ∨ (cancelTask id m s).1.body = "Task canceled"
      ∧ Marks id s.store.entries (cancelTask id m s).2.2.store.entries := by
  have hcases := cancel_cases id hloop s
  unfold cancelTask
  rcases hcancel : m.cancel id s with ⟨e | done, s'⟩ <;> rw [hcancel] at hcases
  · rcases hcases with ⟨-, hstore⟩ | ⟨hgranted, -⟩
    · exact Or.inl ⟨internal_ne_canceled e, hstore⟩
    · cases hgranted
  cases done with
  | false =>
    rcases hcases with ⟨-, hstore⟩ | ⟨hgranted, -⟩
    · exact Or.inl ⟨by simp [Response.text], hstore⟩
    · cases hgranted
  | true =>
    rcases hcases with ⟨hrefused, -⟩ | ⟨-, hmarks⟩
    · exact absurd rfl hrefused
    · exact Or.inr ⟨rfl, hmarks⟩

end Write

/-! ### All requests -/

/-- How a request is answered. Only `POST` and `DELETE` at the path of a task can write. -/
theorem respond_cases (registry : Registry) (r : Request) :
    (∃ response, respond registry r = reply response
      ∧ (response.status = 200 → r.method = "OPTIONS") ∧ response.body = "")
    ∨ r.method = "GET" ∧ respond registry r = read registry r.target
    ∨ r.method = "HEAD" ∧ respond registry r = (fun m s =>
        ((read registry r.target m s).1.withoutBody, (read registry r.target m s).2))
    ∨ (∃ segment, r.method = "POST" ∧ Route.ofPath r.target.path = .task segment
      ∧ respond registry r
        = withSegment segment fun taskType => createTask registry taskType r.body)
    ∨ ∃ segment, r.method = "DELETE" ∧ Route.ofPath r.target.path = .task segment
      ∧ respond registry r = withSegment segment cancelTask := by
  obtain ⟨handler, h⟩ : ∃ handler, handler = respond registry r := ⟨_, rfl⟩
  rw [← h]
  unfold respond at h
  dsimp only at h
  split at h
  case isTrue hmethod => exact Or.inl ⟨_, h, fun _ => hmethod, rfl⟩
  split at h
  · exact Or.inl ⟨_, h, nofun, rfl⟩
  case h_2 hmethod _ => exact Or.inr (Or.inl ⟨hmethod, h⟩)
  case h_3 hmethod _ => exact Or.inr (Or.inr (Or.inl ⟨hmethod, h⟩))
  case h_4 segment hroute hmethod =>
    exact Or.inr (Or.inr (Or.inr (Or.inl ⟨segment, hmethod, hroute, h⟩)))
  case h_5 segment hroute hmethod =>
    exact Or.inr (Or.inr (Or.inr (Or.inr ⟨segment, hmethod, hroute, h⟩)))
  · exact Or.inl ⟨_, h, nofun, rfl⟩

/-- The answer to a request tells what has become of the store. -/
structure TellsEffect (r : Request) (before : Store) (response : Response) (after : Store) :
    Prop where
  /-- A task was created: one entry was added behind all others, the record that is answered. -/
  created : r.method = "POST" → response.status = 200 →
    ∃ segment taskType e new, Route.ofPath r.target.path = .task segment
      ∧ decodeSegment segment = some taskType ∧ after.entries = before.entries ++ [e]
      ∧ e.read = .ok new ∧ IsCreated taskType r.body response new
  /-- A task was asked to stop: the entry of the id in the path was marked. -/
  canceled : r.method = "DELETE" → response.body = "Task canceled" →
    ∃ segment id, Route.ofPath r.target.path = .task segment
      ∧ decodeSegment segment = some id ∧ Marks id before.entries after.entries
  unchanged : ¬ (r.method = "POST" ∧ response.status = 200) →
    ¬ (r.method = "DELETE" ∧ response.body = "Task canceled") → after = before

theorem TellsEffect.of_eq {r : Request} {before after : Store} {response : Response}
    (h : after = before) (hpost : r.method = "POST" → response.status ≠ 200)
    (hdelete : r.method = "DELETE" → response.body ≠ "Task canceled") :
    TellsEffect r before response after where
  created := fun hmethod hstatus => absurd hstatus (hpost hmethod)
  canceled := fun hmethod hbody => absurd hbody (hdelete hmethod)
  unchanged := fun _ _ => h

/-- **A request changes the store only as it is answered**, at a manager whose runner is not started
and whatever the store holds. A `POST` that is answered with 200 has added exactly one record, the
answered one; a `DELETE` that is answered with "Task canceled" has marked exactly the record of its
id; and under any other answer the store is as before. Only in a memory the next id must be free. -/
theorem requests_change_store_as_answered (registry : Registry) (r : Request) {m : Manager}
    (hloop : m.loop = none) (s : Shared)
    (hfree : ∀ memory, s.store = .memory memory → memory.get? (s.supply (s.created + 1)) = none) :
    TellsEffect r s.store (respond registry r m s).1 (respond registry r m s).2.2.store := by
  rcases respond_cases registry r with ⟨answer, hrespond, hoptions, hbody⟩ | ⟨hmethod, hrespond⟩
    | ⟨hmethod, hrespond⟩ | ⟨segment, hmethod, hroute, hrespond⟩
    | ⟨segment, hmethod, hroute, hrespond⟩ <;> rw [hrespond]
  · refine .of_eq rfl ?_ ?_
    · intro hpost hstatus
      exact absurd (hpost.symm.trans (hoptions hstatus)) (by decide)
    · intro _ hcanceled
      exact absurd (hbody.symm.trans hcanceled) (by decide)
  · exact .of_eq (read_store m s registry r.target) (by simp [hmethod]) (by simp [hmethod])
  · exact .of_eq (read_store m s registry r.target) (by simp [hmethod]) (by simp [hmethod])
  · unfold withSegment
    cases hsegment : decodeSegment segment with
    | none => exact .of_eq rfl (fun _ => by simp [reply, Response.text]) (by simp [hmethod])
    | some taskType =>
      rcases createTask_cases registry taskType r.body m s hfree with
        ⟨hstatus, hstore⟩ | ⟨hstatus, e, new, hentries, hread, hcreated⟩
      · exact .of_eq hstore (fun _ => hstatus) (by simp [hmethod])
      · exact {
          created := fun _ _ =>
            ⟨segment, taskType, e, new, hroute, hsegment, hentries, hread, hcreated⟩
          canceled := by simp [hmethod]
          unchanged := fun hother _ => absurd ⟨hmethod, hstatus⟩ hother }
  · unfold withSegment
    cases hsegment : decodeSegment segment with
    | none => exact .of_eq rfl (by simp [hmethod]) (fun _ => by simp [reply, Response.text])
    | some id =>
      rcases cancelTask_cases id hloop s with ⟨hbody, hstore⟩ | ⟨hbody, hmarks⟩
      · exact .of_eq hstore (by simp [hmethod]) (fun _ => hbody)
      · exact {
          created := by simp [hmethod]
          canceled := fun _ _ => ⟨segment, id, hroute, hsegment, hmarks⟩
          unchanged := fun _ hother => absurd ⟨hmethod, hbody⟩ hother }

/-- A task with a configuration is created in an empty database, and then it is asked to stop. -/
theorem requests_change_store_as_answered_for_one_task :
    let m : Manager := { node := "n", connection := 0 }
    let s : Shared := { store := .database {}, clock := .epoch }
    let post : Request := {
      method := "POST"
      target := ⟨"/tasks/task/sleep".toList, none⟩
      body := Text.Utf8.encode "\x7b\"duration_ms\":5\x7d" }
    let delete : Request := {
      method := "DELETE"
      target := ⟨("/tasks/task/" ++ taskId 1).toList, none⟩ }
    let created := respond .builtin post m s
    let canceled := respond .builtin delete m created.2.2
    created.1.status = 200 ∧ canceled.1.body = "Task canceled"
      ∧ (∃ taskType e new, created.2.2.store.entries = [e] ∧ e.read = .ok new
        ∧ IsCreated taskType post.body created.1 new)
      ∧ ∃ id, Marks id created.2.2.store.entries canceled.2.2.store.entries := by
  intro m s post delete created canceled
  have hstatus : created.1.status = 200 := by decide +kernel
  have hbody : canceled.1.body = "Task canceled" := by decide +kernel
  have hcreated := requests_change_store_as_answered .builtin post (m := m) rfl s nofun
  obtain ⟨_, taskType, e, new, -, -, hentries, hread, hnew⟩ := hcreated.created rfl hstatus
  have hkind : Store.casesOn (motive := fun _ => Bool) created.2.2.store (fun _ => true)
      (fun _ => false) = false := by
    decide +kernel
  have hcanceled := requests_change_store_as_answered .builtin delete (m := m) rfl created.2.2 (by
    intro memory heq
    rw [heq] at hkind
    cases hkind)
  obtain ⟨_, id, -, -, hmarks⟩ := hcanceled.canceled rfl hbody
  exact ⟨hstatus, hbody, ⟨taskType, e, new, hentries, hread, hnew⟩, id, hmarks⟩

end TaskCluster.Api

import Telemetry.Client.Basic

/-! Everything that happens to queues, one event at a time. An event is what somebody does to a
queue, one step of one of its loops, or the passing of time. All other functions of the engine are
sequences of events, so whatever single events preserve, they preserve too. -/

namespace Telemetry

variable {α : Type}

inductive QueueEvent (α : Type) where
  | enqueue (index : Nat) (hit : Hit)
  | flush (index : Nat)
  | close (index : Nat)
  /-- One step of a loop, if it does not wait. -/
  | go (index place : Nat)
  | tick (milliseconds : Nat)
  | start (index : Nat)
  | log (events : List LogEvent)
  | lend (witness : Option Nat)
  | adjust (index : Nat) (change : α → α)
  | add (owner : α) (courier : Nat) (config : QueueConfig)
  | supply (courier : Courier)

namespace Engine

def after (engine : Engine α) : QueueEvent α → Engine α
  | .enqueue index hit => (engine.enqueue index hit).2
  | .flush index => (engine.flush index).2
  | .close index => engine.close index
  | .go index place => (engine.move index place).getD engine
  | .tick milliseconds => { engine with now := engine.now + milliseconds }
  | .start index => engine.start index
  | .log events => engine.log events
  | .lend witness => { engine with witness }
  | .adjust index change =>
      engine.modify index fun task => { task with owner := change task.owner }
  | .add owner courier config => engine.add owner courier config
  | .supply courier => { engine with outbox.couriers := engine.outbox.couriers ++ [courier] }

def course (engine : Engine α) (events : List (QueueEvent α)) : Engine α :=
  events.foldl after engine

theorem course_append (engine : Engine α) (first second : List (QueueEvent α)) :
    engine.course (first ++ second) = (engine.course first).course second :=
  List.foldl_append

def LeadsTo (kind : QueueEvent α → Prop) (before after : Engine α) : Prop :=
  ∃ events, (∀ event ∈ events, kind event) ∧ before.course events = after

variable {kind : QueueEvent α → Prop} {before between after : Engine α}

theorem LeadsTo.refl (engine : Engine α) : engine.LeadsTo kind engine :=
  ⟨[], by simp, rfl⟩

theorem LeadsTo.single (engine : Engine α) (event : QueueEvent α) (allowed : kind event) :
    engine.LeadsTo kind (engine.after event) :=
  ⟨[event], by simpa using allowed, rfl⟩

theorem LeadsTo.trans (first : before.LeadsTo kind between) (second : between.LeadsTo kind after) :
    before.LeadsTo kind after := by
  obtain ⟨early, earlyKind, earlyLeads⟩ := first
  obtain ⟨late, lateKind, lateLeads⟩ := second
  refine ⟨early ++ late, ?_, ?_⟩
  · intro event member
    rcases List.mem_append.mp member with here | there
    · exact earlyKind event here
    · exact lateKind event there
  · rw [course_append, earlyLeads, lateLeads]

theorem LeadsTo.weaken {wider : QueueEvent α → Prop} (leads : before.LeadsTo kind after)
    (implies : ∀ event, kind event → wider event) : before.LeadsTo wider after := by
  obtain ⟨events, allowed, reached⟩ := leads
  exact ⟨events, fun event member => implies event (allowed event member), reached⟩

/-- What every event of a kind preserves, a sequence of such events preserves. -/
theorem LeadsTo.preserves (holds : Engine α → Prop)
    (step : ∀ engine event, kind event → holds engine → holds (engine.after event))
    (leads : before.LeadsTo kind after) (start : holds before) : holds after := by
  obtain ⟨events, allowed, reached⟩ := leads
  rw [← reached]
  clear reached
  induction events generalizing before with
  | nil => exact start
  | cons event rest ih =>
      have first := step before event (allowed event List.mem_cons_self) start
      exact ih first fun other member => allowed other (List.mem_cons_of_mem event member)

theorem leadsTo_settle (allowed : ∀ index place, kind (.go index place)) (engine : Engine α) :
    engine.LeadsTo kind engine.settle := by
  fun_induction settle engine with
  | case1 => exact .refl _
  | case2 engine next moved ih =>
      refine LeadsTo.trans ?_ ih
      unfold step at moved
      split at moved
      · cases moved
      · rename_i index place loop found
        have reached : engine.after (.go index place) = next := by
          simp only [Engine.after, moved, Option.getD_some]
        exact reached ▸ .single engine _ (allowed index place)

theorem leadsTo_runUntil (goes : ∀ index place, kind (.go index place))
    (ticks : ∀ milliseconds, kind (.tick milliseconds)) (engine : Engine α) (target : Nat) :
    engine.LeadsTo kind (engine.runUntil target) := by
  fun_induction runUntil engine target with
  | case1 engine before ih =>
      have forward : engine.now ≤ engine.nextStop target := by
        unfold nextStop
        split <;> omega
      have moved : engine.after (.tick (engine.nextStop target - engine.now)) =
          { engine with now := engine.nextStop target } := by
        simp only [Engine.after, Nat.add_sub_cancel' forward]
      have ticked : engine.LeadsTo kind { engine with now := engine.nextStop target } :=
        moved ▸ .single engine _ (ticks _)
      exact (ticked.trans (leadsTo_settle goes _)).trans ih
  | case2 engine reached => exact .refl _

theorem leadsTo_sleep (goes : ∀ index place, kind (.go index place))
    (ticks : ∀ milliseconds, kind (.tick milliseconds)) (engine : Engine α) (span : Nat) :
    engine.LeadsTo kind (engine.sleep span) :=
  (leadsTo_settle goes engine).trans (leadsTo_runUntil goes ticks _ _)

theorem task_modify (engine : Engine α) (index place : Nat) (change : Task α → Task α) :
    (engine.modify index change).tasks[place]? =
      if index = place then (engine.tasks[place]?).map change else engine.tasks[place]? := by
  unfold modify
  split
  · rename_i missing
    split
    · rename_i same
      rw [← same, missing]
      rfl
    · rfl
  · rename_i task found
    by_cases same : index = place
    · subst same
      have inside : index < engine.tasks.length := (List.getElem?_eq_some_iff.mp found).1
      simp only [List.getElem?_set_self inside, if_pos, found, Option.map_some]
    · rw [List.getElem?_set_ne same, if_neg same]

theorem outbox_modify (engine : Engine α) (index : Nat) (change : Task α → Task α) :
    (engine.modify index change).outbox = engine.outbox := by
  unfold modify
  split <;> rfl

theorem witness_modify (engine : Engine α) (index : Nat) (change : Task α → Task α) :
    (engine.modify index change).witness = engine.witness := by
  unfold modify
  split <;> rfl

/-- A step of a loop: what becomes of its batch, the step itself, and the report of a panic. -/
theorem move_cases {engine next : Engine α} {index place : Nat}
    (moved : engine.move index place = some next) :
    ∃ task loop stepped, engine.tasks[index]? = some task ∧ task.loops[place]? = some loop ∧
      task.step place engine.now engine.ticket loop (task.deliver loop index engine.outbox).1 =
        some stepped ∧
      next = Engine.report
        { engine with
          ticket := engine.ticket + 1
          tasks := engine.tasks.set index stepped
          outbox := (task.deliver loop index engine.outbox).2 }
        (task.deliver loop index engine.outbox).1 := by
  unfold move at moved
  split at moved
  · cases moved
  · rename_i task found
    split at moved
    · cases moved
    · rename_i loop held
      obtain ⟨stepped, step, rfl⟩ := Option.map_eq_some_iff.mp moved
      exact ⟨task, loop, stepped, found, held, step, rfl⟩

theorem report_preserves (holds : Engine α → Prop)
    (step : ∀ (engine : Engine α) index hit, holds engine → holds (engine.enqueue index hit).2)
    (engine : Engine α) (answer : Answer) (start : holds engine) :
    holds (engine.report answer) := by
  unfold report
  split
  · exact step engine _ _ start
  · exact start

end Engine

end Telemetry

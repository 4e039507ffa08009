import Mathlib.Data.List.Perm.Basic
import Mathlib.Data.List.Perm.Subperm
import NoiseLink.Peer.Node
import NoiseLink.Proofs.KeyAgreement

namespace NoiseLink

variable {S : Suite}

def Task.once (s : Status S) : Task S := ⟨[], [s], true⟩

namespace Node

/-- What a step of a node that is still running can do. -/
inductive Next (n : Node S) : Step → Node S → Prop where
  | stays (step : Step) : Next n step n
  | reports {i : Nat} {t : Task S} {s : Status S} {rest : List (Status S)} (task : n.tasks[i]? = some t)
      (first : t.reports = s :: rest) :
      Next n (.work i) { n with
        log := n.log ++ t.notes
        queue := n.queue ++ [s]
        tasks := n.tasks.set i { t with notes := [], reports := rest } }
  | ends {i : Nat} {t : Task S} (task : n.tasks[i]? = some t) (done : t.reports = []) (ends : t.ends = true) :
      Next n (.work i) { n with log := n.log ++ t.notes, tasks := n.tasks.eraseIdx i }
  | waits {i : Nat} {t : Task S} (task : n.tasks[i]? = some t) (done : t.reports = []) (waits : t.ends = false) :
      Next n (.work i) { n with log := n.log ++ t.notes, tasks := n.tasks.set i { t with notes := [] } }
  | takes {s : Status S} {rest : List (Status S)} (first : n.queue = s :: rest) :
      Next n .receive { n with
        queue := rest, handled := n.handled ++ [s], log := n.log ++ [s.event], stopped := s.stops }
  | idles (queue : n.queue = []) (tasks : n.tasks = []) :
      Next n .receive { n with log := n.log ++ [idleEvent], stopped := true }
  | interrupted {shutdown : Shutdown} {e : Log.Event} (event : shutdownEvent shutdown = some e) :
      Next n (.interrupt shutdown) { n with log := n.log ++ [e], stopped := true }

theorem next_work (n : Node S) (i : Nat) : Next n (.work i) (n.work i) := by
  unfold work
  cases task : n.tasks[i]? with
  | none => exact .stays _
  | some t =>
    obtain ⟨notes, reports, ends⟩ := t
    cases reports with
    | cons s rest => exact .reports task rfl
    | nil =>
      cases ends with
      | true => exact .ends task rfl rfl
      | false => exact .waits task rfl rfl

theorem next_receive (n : Node S) : Next n .receive n.receive := by
  unfold receive
  split
  next s rest queue => exact .takes queue
  next queue =>
    split
    next empty => exact .idles queue (List.isEmpty_iff.1 empty)
    next => exact .stays _

theorem next_interrupt (n : Node S) (shutdown : Shutdown) : Next n (.interrupt shutdown) (n.interrupt shutdown) := by
  unfold interrupt
  cases event : shutdownEvent shutdown with
  | some e => exact .interrupted event
  | none => exact .stays _

theorem step_of_stopped {n : Node S} (stopped : n.stopped = true) (step : Step) : n.step step = n := if_pos stopped

theorem next_step {n : Node S} (running : n.stopped = false) (step : Step) : Next n step (n.step step) := by
  unfold Node.step
  rw [if_neg (by simp [running])]
  cases step with
  | work i => exact n.next_work i
  | receive => exact n.next_receive
  | interrupt shutdown => exact n.next_interrupt shutdown

theorem run_induction {P : Node S → Prop} (steps : List Step)
    (kept : ∀ n : Node S, ∀ step ∈ steps, P n → P (n.step step)) {n : Node S} (start : P n) : P (n.run steps) := by
  induction steps generalizing n with
  | nil => exact start
  | cons step rest ih =>
    exact ih (fun n step mem => kept n step (List.mem_cons_of_mem _ mem)) (kept n step List.mem_cons_self start)

theorem run_append (n : Node S) (first last : List Step) : n.run (first ++ last) = (n.run first).run last :=
  List.foldl_append

def pending (n : Node S) : List (Status S) := n.tasks.flatMap (·.reports)

def account (n : Node S) : List (Status S) := n.handled ++ (n.queue ++ n.pending)

theorem reports_perm {tasks : List (Task S)} {i : Nat} {t : Task S} (task : tasks[i]? = some t) :
    (tasks.flatMap (·.reports)).Perm (t.reports ++ (tasks.eraseIdx i).flatMap (·.reports)) := by
  obtain ⟨within, rfl⟩ := List.getElem?_eq_some_iff.1 task
  exact (List.getElem_cons_eraseIdx_perm within).symm.flatMap_right _

theorem reports_set_perm {tasks : List (Task S)} {i : Nat} {t : Task S} (task : tasks[i]? = some t) (u : Task S) :
    ((tasks.set i u).flatMap (·.reports)).Perm (u.reports ++ (tasks.eraseIdx i).flatMap (·.reports)) :=
  (List.set_perm_cons_eraseIdx (List.getElem?_eq_some_iff.1 task).1 u).flatMap_right _

theorem pending_of_report {n : Node S} {i : Nat} {t : Task S} {s : Status S} {rest : List (Status S)}
    (task : n.tasks[i]? = some t) (first : t.reports = s :: rest) (notes : List Log.Event) :
    n.pending.Perm (s :: (n.tasks.set i { t with notes, reports := rest }).flatMap (·.reports)) := by
  have before := reports_perm task
  rw [first, List.cons_append] at before
  exact before.trans ((reports_set_perm task { t with notes, reports := rest }).symm.cons s)

theorem account_next {n m : Node S} {step : Step} (next : Next n step m) : m.account.Perm n.account := by
  cases next with
  | stays => exact .refl _
  | @reports i t s rest task first =>
    refine List.Perm.append_left _ ?_
    change (n.queue ++ [s] ++ _).Perm _
    rw [List.append_assoc]
    exact (pending_of_report task first []).symm.append_left _
  | @ends i t task done =>
    have all := reports_perm task
    rw [done] at all
    exact (all.symm.append_left _).append_left _
  | @waits i t task done =>
    have all := (reports_set_perm task { t with notes := [] }).trans (reports_perm task).symm
    exact (all.append_left _).append_left _
  | @takes s rest first => simp [account, pending, first]
  | idles => exact .refl _
  | interrupted => exact .refl _

theorem account_step (n : Node S) (step : Step) : (n.step step).account.Perm n.account := by
  cases running : n.stopped with
  | true => rw [step_of_stopped running]
  | false => exact account_next (next_step running step)

theorem account_run (n : Node S) (steps : List Step) : (n.run steps).account.Perm n.account :=
  run_induction steps (fun m step _ kept => (m.account_step step).trans kept) (.refl _)

/-- No report is handled that was not there, and none is handled twice. -/
theorem handled_subperm (n : Node S) (steps : List Step) : (n.run steps).handled.Subperm n.account :=
  (List.sublist_append_left _ _).subperm.trans (n.account_run steps).subperm

structure Brief (n : Node S) : Prop where
  tasks : ∀ t ∈ n.tasks, t.notes = [] ∧ t.ends = true
  reports : ∀ s ∈ n.account, s.stops = false

theorem Brief.ends {n : Node S} (brief : n.Brief) {i : Nat} {t : Task S} (task : n.tasks[i]? = some t) :
    t.ends = true :=
  (brief.tasks t (List.mem_of_getElem? task)).2

theorem Brief.goesOn {n : Node S} (brief : n.Brief) {s : Status S} {rest : List (Status S)}
    (first : n.queue = s :: rest) : s.stops = false :=
  brief.reports s (by simp [account, first])

theorem Brief.next {n m : Node S} {step : Step} (brief : n.Brief) (next : Next n step m) : m.Brief := by
  refine ⟨?_, fun s mem => brief.reports s ((account_next next).subset mem)⟩
  cases next with
  | stays | takes | idles | interrupted => exact brief.tasks
  | @reports i t s rest task first =>
    intro u mem
    rcases List.mem_or_eq_of_mem_set mem with old | rfl
    · exact brief.tasks u old
    · exact ⟨rfl, show t.ends = true from brief.ends task⟩
  | ends => exact fun u mem => brief.tasks u (List.mem_of_mem_eraseIdx mem)
  | waits task _ waits => simp [brief.ends task] at waits

theorem Brief.step {n : Node S} (brief : n.Brief) (step : Step) : (n.step step).Brief := by
  cases running : n.stopped with
  | true => rwa [step_of_stopped running]
  | false => exact brief.next (next_step running step)

theorem Brief.run {n : Node S} (brief : n.Brief) (steps : List Step) : (n.run steps).Brief :=
  run_induction steps (fun _ step _ kept => kept.step step) brief

/-- How many steps are left that change a node: each report is made and taken, each task ends, and the node stops. -/
def left (n : Node S) : Nat := 2 * n.pending.length + n.queue.length + n.tasks.length + if n.stopped then 0 else 1

theorem Brief.left_next {n m : Node S} {step : Step} (brief : n.Brief) (running : n.stopped = false)
    (next : Next n step m) : m = n ∨ m.left < n.left := by
  cases next with
  | stays => exact .inl rfl
  | @reports i t s rest task first =>
    have fewer := (pending_of_report task first []).length_eq
    simp only [List.length_cons] at fewer
    right
    simp only [left, pending, List.length_append, List.length_cons, List.length_nil, List.length_set]
    simp only [pending] at fewer
    omega
  | @ends i t task done =>
    have same := (reports_perm task).length_eq
    have within := (List.getElem?_eq_some_iff.1 task).1
    rw [done, List.nil_append] at same
    right
    simp only [left, pending, List.length_eraseIdx_of_lt within]
    omega
  | waits task _ waits => simp [brief.ends task] at waits
  | takes first =>
    right
    simp [left, pending, first, brief.goesOn first, running]
  | idles queue tasks => right; simp [left, pending, running]
  | interrupted => right; simp [left, pending, running]

theorem Brief.left_step {n : Node S} (brief : n.Brief) (step : Step) :
    n.step step = n ∨ (n.step step).left < n.left := by
  cases running : n.stopped with
  | true => exact .inl (step_of_stopped running step)
  | false => exact brief.left_next running (next_step running step)

/-- As long as it runs, either the main loop or the first task can move. -/
theorem Brief.moves {n : Node S} (brief : n.Brief) (running : n.stopped = false) :
    n.step .receive ≠ n ∨ n.step (.work 0) ≠ n := by
  cases queue : n.queue with
  | cons s rest =>
    refine .inl fun same => ?_
    have waiting := congrArg (·.queue.length) same
    simp [Node.step, running, receive, queue] at waiting
  | nil =>
    cases tasks : n.tasks with
    | nil =>
      refine .inl fun same => ?_
      have stopped := congrArg Node.stopped same
      simp [Node.step, running, receive, queue, tasks] at stopped
    | cons t rest =>
      right
      intro same
      cases reports : t.reports with
      | cons s more =>
        have waiting := congrArg (·.queue.length) same
        simp [Node.step, running, work, tasks, reports] at waiting
      | nil =>
        have ends : t.ends = true := brief.ends (i := 0) (by rw [tasks]; rfl)
        have alive := congrArg (·.tasks.length) same
        simp [Node.step, running, work, tasks, reports, ends] at alive

/-- The main loop and every task get their turn again and again. -/
structure Fair (schedule : Nat → Step) : Prop where
  receives : ∀ k, ∃ j, k ≤ j ∧ schedule j = .receive
  works : ∀ i k, ∃ j, k ≤ j ∧ schedule j = .work i

def upTo (schedule : Nat → Step) (k : Nat) : List Step := (List.range k).map schedule

theorem run_upTo_succ (n : Node S) (schedule : Nat → Step) (k : Nat) :
    n.run (upTo schedule (k + 1)) = (n.run (upTo schedule k)).step (schedule k) := by
  rw [upTo, List.range_succ, List.map_append]
  exact run_append n _ _

theorem Brief.left_upTo {n : Node S} (brief : n.Brief) (schedule : Nat → Step) {k j : Nat} (le : k ≤ j) :
    n.run (upTo schedule j) = n.run (upTo schedule k) ∨
      (n.run (upTo schedule j)).left < (n.run (upTo schedule k)).left := by
  induction le with
  | refl => exact .inl rfl
  | @step j _ ih =>
    rw [run_upTo_succ]
    rcases (brief.run (upTo schedule j)).left_step (schedule j) with same | less
    · rwa [same]
    · rcases ih with same | lower
      · exact .inr (same ▸ less)
      · exact .inr (Nat.lt_trans less lower)

theorem Brief.eventually_less {n : Node S} (brief : n.Brief) {schedule : Nat → Step} (fair : Fair schedule) {k : Nat}
    (running : (n.run (upTo schedule k)).stopped = false) :
    ∃ j, (n.run (upTo schedule j)).left < (n.run (upTo schedule k)).left := by
  have turn : ∀ step, (n.run (upTo schedule k)).step step ≠ n.run (upTo schedule k) →
      (∃ j, k ≤ j ∧ schedule j = step) → ∃ j, (n.run (upTo schedule j)).left < (n.run (upTo schedule k)).left := by
    rintro step moves ⟨j, le, rfl⟩
    rcases brief.left_upTo schedule le with same | less
    -- Nothing has changed since, so that the step still does what it would have done.
    · refine ⟨j + 1, ?_⟩
      rw [run_upTo_succ, same]
      exact ((brief.run _).left_step _).resolve_left moves
    · exact ⟨j, less⟩
  rcases (brief.run (upTo schedule k)).moves running with receive | work
  · exact turn _ receive (fair.receives k)
  · exact turn _ work (fair.works 0 k)

theorem Brief.stops_of_fair {n : Node S} (brief : n.Brief) {schedule : Nat → Step} (fair : Fair schedule) :
    ∃ k, (n.run (upTo schedule k)).stopped = true := by
  suffices ∀ size k, (n.run (upTo schedule k)).left = size → ∃ j, (n.run (upTo schedule j)).stopped = true from
    this _ 0 rfl
  intro size
  induction size using Nat.strongRecOn with
  | ind size ih =>
    intro k rfl
    cases running : (n.run (upTo schedule k)).stopped with
    | true => exact ⟨k, running⟩
    | false =>
      obtain ⟨j, less⟩ := brief.eventually_less fair running
      exact ih _ less j rfl

structure Undisturbed (log : List Log.Event) (n : Node S) : Prop where
  brief : n.Brief
  drained : n.stopped = true → n.queue = [] ∧ n.tasks = []
  logged : n.log = log ++ n.handled.map Status.event ++ if n.stopped then [idleEvent] else []

def Step.Own (step : Step) : Prop := ∀ shutdown, step = .interrupt shutdown → shutdown = .never

theorem Step.Own.event_eq_none {shutdown : Shutdown} (own : (Step.interrupt shutdown).Own) :
    shutdownEvent shutdown = none := by
  rw [own _ rfl]
  rfl

theorem Brief.drained_next {n m : Node S} {step : Step} (brief : n.Brief) (running : n.stopped = false)
    (own : step.Own) (next : Next n step m) (stopped : m.stopped = true) : m.queue = [] ∧ m.tasks = [] := by
  cases next with
  | stays | reports | ends | waits => simp [running] at stopped
  | takes first => simp [brief.goesOn first] at stopped
  | idles queue tasks => exact ⟨queue, tasks⟩
  | interrupted event => simp [own.event_eq_none] at event

theorem Brief.logged_next {log : List Log.Event} {n m : Node S} {step : Step} (brief : n.Brief)
    (running : n.stopped = false) (own : step.Own) (next : Next n step m)
    (logged : n.log = log ++ n.handled.map Status.event) :
    m.log = log ++ m.handled.map Status.event ++ if m.stopped then [idleEvent] else [] := by
  have notes : ∀ {i : Nat} {t : Task S}, n.tasks[i]? = some t → t.notes = [] := fun task =>
    (brief.tasks _ (List.mem_of_getElem? task)).1
  cases next with
  | stays => simp [running, logged]
  | reports task | ends task | waits task => simp [running, notes task, logged]
  | takes first => simp [brief.goesOn first, logged]
  | idles => simp [logged]
  | interrupted event => simp [own.event_eq_none] at event

theorem Undisturbed.step {log : List Log.Event} {n : Node S} (kept : n.Undisturbed log) {step : Step}
    (own : step.Own) : (n.step step).Undisturbed log := by
  cases running : n.stopped with
  | true => rwa [step_of_stopped running]
  | false =>
    have next := next_step running step
    have logged : n.log = log ++ n.handled.map Status.event := by simpa [running] using kept.logged
    exact ⟨kept.brief.next next, kept.brief.drained_next running own next,
      kept.brief.logged_next running own next logged⟩

theorem Undisturbed.run {log : List Log.Event} {n : Node S} (kept : n.Undisturbed log) {steps : List Step}
    (own : ∀ step ∈ steps, step.Own) : (n.run steps).Undisturbed log :=
  run_induction steps (fun _ step mem kept => kept.step (own step mem)) kept

/-- When it has stopped, nothing is under way any more. -/
theorem Undisturbed.account_of_stopped {log : List Log.Event} {n : Node S} (kept : n.Undisturbed log)
    (stopped : n.stopped = true) : n.account = n.handled := by
  obtain ⟨queue, tasks⟩ := kept.drained stopped
  simp [account, pending, queue, tasks]

theorem stopped_of_interrupt {steps : List Step} {shutdown : Shutdown} (mem : Step.interrupt shutdown ∈ steps)
    (due : shutdown ≠ .never) (n : Node S) : (n.run steps).stopped = true := by
  obtain ⟨before, after, rfl⟩ := List.append_of_mem mem
  have stops : ∀ m : Node S, (m.step (.interrupt shutdown)).stopped = true := by
    intro m
    cases running : m.stopped with
    | true => rw [step_of_stopped running, running]
    | false => cases shutdown <;> simp_all [Node.step, interrupt, shutdownEvent]
  have stays : ∀ (m : Node S) (step : Step), m.stopped = true → (m.step step).stopped = true := fun m step stopped => by
    rw [step_of_stopped stopped, stopped]
  rw [run_append]
  exact run_induction (P := fun m => m.stopped = true) after (fun m step _ => stays m step) (stops _)

def dialFailures (config : Config S) (errors : Nat → SystemError) : List (Status S) :=
  config.contacts.mapIdx fun i contact => .dialFailed contact.address (.system (errors i))

theorem dialTask_of_failed {config : Config S} {network : Network S} {i : Nat} {contact : Contact S} {e : SystemError}
    (failed : (Endpoint.parse contact.address).bind (network.dial i) = .error e) :
    dialTask config network i contact = Task.once (.dialFailed contact.address (.system e)) := by
  rw [dialTask, failed]
  rfl

theorem dialTasks_of_failed {config : Config S} {network : Network S} {errors : Nat → SystemError}
    (failed : ∀ i contact, config.contacts[i]? = some contact →
      (Endpoint.parse contact.address).bind (network.dial i) = .error (errors i)) :
    config.contacts.mapIdx (dialTask config network) = (dialFailures config errors).map Task.once := by
  apply List.ext_getElem (by simp [dialFailures])
  intro i within _
  rw [List.getElem_mapIdx, dialTask_of_failed (failed i _ (List.getElem?_eq_getElem _))]
  simp [dialFailures]

def reporting (log : List Log.Event) (reports : List (Status S)) : Node S := ⟨reports.map .once, [], [], log, false⟩

theorem start_of_failed {config : Config S} {network : Network S} {errors : Nat → SystemError}
    (valid : config.validate = .ok ()) (deaf : config.listen = none)
    (failed : ∀ i contact, config.contacts[i]? = some contact →
      (Endpoint.parse contact.address).bind (network.dial i) = .error (errors i)) :
    start config network =
      ([idEvent config], .ok (reporting [idEvent config] (dialFailures config errors))) := by
  rw [start, valid]
  simp only [deaf, dialTasks_of_failed failed, reporting]

theorem dialFailures_goOn (config : Config S) (errors : Nat → SystemError) :
    ∀ s ∈ dialFailures config errors, s.stops = false := by
  intro s mem
  obtain ⟨i, within, rfl⟩ := List.mem_mapIdx.1 mem
  rfl

@[simp]
theorem account_reporting (log : List Log.Event) (reports : List (Status S)) :
    (reporting log reports).account = reports := by
  simp [reporting, account, pending, List.flatMap_map, Task.once]

theorem undisturbed_reporting (log : List Log.Event) {reports : List (Status S)}
    (goOn : ∀ s ∈ reports, s.stops = false) :
    (reporting log reports).Undisturbed log where
  brief := ⟨by simp [reporting, Task.once], by simpa using goOn⟩
  drained := by simp [reporting]
  logged := by simp [reporting]

theorem run_workAll_once (log : List Log.Event) (reports queue : List (Status S)) :
    (⟨reports.map .once, queue, [], log, false⟩ : Node S).run (workAll 0 (reports.map .once)) =
      ⟨[], queue ++ reports, [], log, false⟩ := by
  induction reports generalizing queue with
  | nil => simp [workAll, run]
  | cons s rest ih =>
    rw [List.append_cons, ← ih (queue ++ [s])]
    simp [workAll, run, Task.once, Node.step, work, List.replicate_succ]

theorem run_receive_all (log : List Log.Event) {queue : List (Status S)} (goOn : ∀ s ∈ queue, s.stops = false)
    (handled : List (Status S)) :
    (⟨[], queue, handled, log, false⟩ : Node S).run (List.replicate (queue.length + 1) .receive) =
      ⟨[], [], handled ++ queue, log ++ queue.map Status.event ++ [idleEvent], true⟩ := by
  induction queue generalizing handled log with
  | nil => simp [run, Node.step, receive]
  | cons s rest ih =>
    have next := ih (log ++ [s.event]) (fun t mem => goOn t (List.mem_cons_of_mem _ mem)) (handled ++ [s])
    have step : (⟨[], s :: rest, handled, log, false⟩ : Node S).step .receive =
        ⟨[], rest, handled ++ [s], log ++ [s.event], false⟩ := by
      simp [Node.step, receive, goOn s]
    rw [List.length_cons, List.replicate_succ]
    change ((⟨[], s :: rest, handled, log, false⟩ : Node S).step .receive).run _ = _
    rw [step, next]
    simp

theorem run_schedule_reporting (log : List Log.Event) {reports : List (Status S)}
    (goOn : ∀ s ∈ reports, s.stops = false) :
    (reporting log reports).run ((reporting log reports).schedule .never) =
      ⟨[], [], reports, log ++ reports.map Status.event ++ [idleEvent], true⟩ := by
  have count : ((reporting log reports).tasks.flatMap (·.reports)).length = reports.length :=
    congrArg List.length (account_reporting log reports)
  rw [schedule, count]
  change (reporting log reports).run (workAll 0 (reports.map .once) ++ _) = _
  rw [run_append, reporting, run_workAll_once, List.nil_append, run_receive_all log goOn, List.nil_append]

/-- How a node handles the failures of its dials, whichever task moves next and whenever a report is taken. -/
structure Handles (n : Node S) (failures : List (Status S)) : Prop where
  /-- Unless it is interrupted, it does not stop before it has handled every failure, and each of them once. -/
  all : ∀ steps, (∀ shutdown, Step.interrupt shutdown ∈ steps → shutdown = .never) →
    (n.run steps).stopped = true → (n.run steps).handled.Perm failures ∧
      (n.run steps).log = n.log ++ (n.run steps).handled.map Status.event ++ [idleEvent]
  stops : ∀ schedule, Fair schedule → ∃ k, (n.run (upTo schedule k)).stopped = true
  atMost : ∀ steps, (n.run steps).handled.Subperm failures
  interrupted : ∀ steps shutdown, shutdown ≠ .never → .interrupt shutdown ∈ steps → (n.run steps).stopped = true

theorem handles_reporting (log : List Log.Event) {reports : List (Status S)} (goOn : ∀ s ∈ reports, s.stops = false) :
    (reporting log reports).Handles reports where
  all steps quiet stopped := by
    have kept := (undisturbed_reporting log goOn).run fun step mem shutdown same => quiet shutdown (same ▸ mem)
    have handled := (reporting log reports).account_run steps
    rw [kept.account_of_stopped stopped, account_reporting] at handled
    have logged := kept.logged
    rw [stopped, if_pos rfl] at logged
    exact ⟨handled, logged⟩
  stops _ fair := (undisturbed_reporting log goOn).brief.stops_of_fair fair
  atMost steps := by
    have handled := (reporting log reports).handled_subperm steps
    rwa [account_reporting] at handled
  interrupted _ _ due mem := stopped_of_interrupt mem due _

/-- A node that does not listen, and none of whose dials gets through, starts and handles one failure for each of its
contacts, with the address and the error of that contact. -/
theorem dial_failures_handled {config : Config S} {network : Network S} {errors : Nat → SystemError}
    (valid : config.validate = .ok ()) (deaf : config.listen = none)
    (failed : ∀ i contact, config.contacts[i]? = some contact →
      (Endpoint.parse contact.address).bind (network.dial i) = .error (errors i)) :
    (∃ n, start config network = ([idEvent config], .ok n) ∧ n.Handles (dialFailures config errors)) ∧
      ∃ n, (runToEnd config network .never).2 = .ok n ∧ n.stopped = true ∧ n.handled = dialFailures config errors := by
  have started := start_of_failed valid deaf failed
  have goOn := dialFailures_goOn config errors
  refine ⟨⟨_, started, handles_reporting _ goOn⟩, ?_⟩
  rw [runToEnd, started]
  exact ⟨_, rfl, by rw [run_schedule_reporting _ goOn], by rw [run_schedule_reporting _ goOn]⟩

section Unreachable

def unreachable : Config .standard :=
  let node := Suite.standard.publicKey Secrets.vectors.responder
  ⟨none, Secrets.vectors.initiator, ⟨10, 0⟩, maxMessageSize,
    [⟨"nowhere", node⟩, ⟨"127.0.0.1:1", node⟩, ⟨"127.0.0.1:1", node⟩], none, none⟩

def unreachableErrors : Nat → SystemError
  | 0 => .described .invalidInput "invalid socket address"
  | 1 => .refused
  | _ => .plain .timedOut

def lonely : Network .standard := { Network.quiet with dial := fun i _ => .error (unreachableErrors i) }

theorem parse_nowhere : Endpoint.parse "nowhere" = .error (unreachableErrors 0) := by decide +kernel

theorem parse_loop : Endpoint.parse "127.0.0.1:1" = .ok (.numeric ⟨.v4 [127, 0, 0, 1], 1⟩) := by decide +kernel

theorem dial_failures_handled_three :
    unreachable.validate = .ok () ∧ unreachable.listen = none ∧
    (∀ i contact, unreachable.contacts[i]? = some contact →
      (Endpoint.parse contact.address).bind (lonely.dial i) = .error (unreachableErrors i)) ∧
    (∃ n, start unreachable lonely = ([idEvent unreachable], .ok n) ∧
      n.Handles (dialFailures unreachable unreachableErrors)) ∧
    ∃ n, (runToEnd unreachable lonely .never).2 = .ok n ∧ n.stopped = true ∧
      n.handled = [.dialFailed "nowhere" (.system (.described .invalidInput "invalid socket address")),
        .dialFailed "127.0.0.1:1" (.system .refused), .dialFailed "127.0.0.1:1" (.system (.plain .timedOut))] := by
  have valid : unreachable.validate = .ok () := rfl
  have failed : ∀ i contact, unreachable.contacts[i]? = some contact →
      (Endpoint.parse contact.address).bind (lonely.dial i) = .error (unreachableErrors i) := by
    intro i contact found
    match i, found with
    | 0, rfl => simp [parse_nowhere, Except.bind]
    | 1, rfl => simp [parse_loop, Except.bind, lonely]
    | 2, rfl => simp [parse_loop, Except.bind, lonely]
  exact ⟨valid, rfl, failed, dial_failures_handled valid rfl failed⟩

end Unreachable

end Node
end NoiseLink

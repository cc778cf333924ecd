import MicroserviceCommon.Infra.Run
import MicroserviceCommon.Infra.Trace
import MicroserviceCommon.System.SystemEnvironmentFacade
import MicroserviceCommon.Properties.ProcessJournal

/-!
# Recovery of child processes over many program runs

Every start kills the processes that the journal reports. The records stay in the journal,
so a pid that no call opens or closes afterwards is reported to the next start as well.

* `recovery_kills_once_iff` — no pid is killed again without a new record,
  exactly when between any two recoveries the reported pids are opened or closed
* `recovery_kills_twice` — two crashes after one open
-/

namespace MicroserviceCommon

open Infra

/-! ## The life of an installation -/

/-- What the outside sees of the child processes. -/
inductive ProcessEvent where
  | killed (pid : TPid)
  | opened (pid : TPid)
  | closed (pid : TPid)
  deriving DecidableEq, Repr

/-- A start with `restoreSystemAfterInterrupt`, a call of the running program, or its end. -/
inductive LifeStep where
  | start (env : SystemEnvironmentFacade.StartEnvironment)
  | call (op : ProcessOp)
  | stop
  deriving DecidableEq, Repr

/-- `leftovers` are the pids that the last recovery found in a single record
and that no call has opened or closed since. -/
structure Life where
  wal : WriteAheadLogger
  running : Bool := false
  trace : List ProcessEvent := []
  leftovers : List TPid := []

/-- `init` comes as far as the recovery. -/
def SystemEnvironmentFacade.StartEnvironment.recovers (env : StartEnvironment) : Bool :=
  env.isApplicationInstanceUnique && env.databaseInit

/-- The pids with exactly one record in the journal. -/
def pidsRecordedOnce (w : WriteAheadLogger) : List TPid :=
  let pids := (getProcessEvents w.persistService.walProcessEvents allProcessEvents).map (·.pid)
  pids.filter fun p => pids.count p == 1

namespace ProcessOp

def event : ProcessOp → ProcessEvent
  | openEvent e => .opened e.pid
  | closeEvent p => .closed p

/-- The call opens the pid, closes it or closes all. -/
def concerns (p : TPid) : ProcessOp → Bool
  | openEvent e => e.pid == p
  | closeEvent q => q == allProcessEvents || q == p

end ProcessOp

namespace Life

def initial : Life where
  wal := activeLogger

/-- A crash and a normal stop are the same to the journal: neither writes to it. -/
def step (s : Life) : LifeStep → Option Life
  | .start env =>
    if s.running then none
    else (SystemEnvironmentFacade.init true true env ⟨true⟩ s.wal.persistService).map
      fun (wal, signals, ok) =>
        { wal := wal
          running := ok
          trace := s.trace ++ signals.map fun signal => .killed signal.pid
          leftovers := if env.recovers then pidsRecordedOnce s.wal else s.leftovers }
  | .call op =>
    if s.running then
      some
        { s with
          wal := op.exec s.wal
          trace := s.trace ++ [op.event]
          leftovers := s.leftovers.filter fun p => !op.concerns p }
    else none
  | .stop => if s.running then some { s with running := false } else none

/-- Between two kills of a pid it was recorded again. -/
def KillsOncePerRecord (s : Life) : Prop :=
  ∀ p, Trace.Separated (ProcessEvent.killed p) (.opened p) s.trace

/-- When recovery runs, no pid of the last recovery is left without a call. -/
def LeftoversHandled (s : Life) : LifeStep → Prop
  | .start env => env.recovers = true → s.leftovers = []
  | .call _ | .stop => True

end Life

/-! ## What a start does -/

theorem mem_pidsRecordedOnce {w : WriteAheadLogger} {events : List SWALProcessEvent}
    (h : w.persistService.walProcessEvents = events.map (processEventDoc · true)) (p : TPid) :
    p ∈ pidsRecordedOnce w ↔ pidCount events p = 1 := by
  have hcount : ((events.map SWALProcessEvent.stored).map (·.pid)).count p = pidCount events p := by
    rw [List.map_map, List.count_eq_countP, List.countP_map]
    exact List.countP_congr fun e _ => by simp [SWALProcessEvent.stored]
  rw [pidsRecordedOnce, h, getProcessEvents_docs, List.mem_filter, beq_iff_eq, hcount]
  refine and_iff_right_of_imp fun hone => ?_
  exact List.count_pos_iff.mp (by omega)

/-- A start either stops before the recovery or kills the pids with a single record. -/
theorem init_restore {db : Database} {events : List SWALProcessEvent}
    (h : db.walProcessEvents = events.map (processEventDoc · true))
    (env : SystemEnvironmentFacade.StartEnvironment) :
    SystemEnvironmentFacade.init true true env ⟨true⟩ db =
      if env.recovers then
        some (⟨true, db⟩, ((singleEvents events).map (·.pid)).map fun pid => { pid := pid },
          env.initDerive)
      else some (⟨false, db⟩, [], false) := by
  have hread : WriteAheadLogger.getNonClosedProcesses ⟨true, db⟩ =
      some ((singleEvents events).map (·.pid)) :=
    RecordsEvents.getNonClosedProcesses ⟨rfl, h⟩
  obtain ⟨unique, databaseInit, initDerive⟩ := env
  cases unique <;> cases databaseInit <;>
    simp [SystemEnvironmentFacade.init, SystemEnvironmentFacade.StartEnvironment.recovers, hread]

/-! ## The invariant -/

/-- A pid that was killed and not opened since is a leftover or has no record any more. -/
structure Life.Consistent (s : Life) (events : List SWALProcessEvent) : Prop where
  docs : s.wal.persistService.walProcessEvents = events.map (processEventDoc · true)
  active : s.running = true → s.wal.active = true
  leftover : ∀ p ∈ s.leftovers,
    pidCount events p = 1 ∧ Trace.Pending (ProcessEvent.killed p) (.opened p) s.trace
  pending : ∀ p, Trace.Pending (ProcessEvent.killed p) (.opened p) s.trace →
    p ∈ s.leftovers ∨ pidCount events p = 0
  once : s.KillsOncePerRecord

def Life.Inv (s : Life) : Prop := ∃ events, s.Consistent events

theorem Life.initial_inv : Life.initial.Inv :=
  ⟨[], rfl, (fun h => by cases h), fun p hp => absurd hp List.not_mem_nil,
    fun p hp => absurd hp Trace.not_pending_nil, fun p => Trace.separated_nil⟩

section Start

variable {s : Life} {events : List SWALProcessEvent}

/-- The kills of one recovery. -/
def killEvents (events : List SWALProcessEvent) : List ProcessEvent :=
  ((singleEvents events).map (·.pid)).map .killed

theorem killed_mem_killEvents (p : TPid) :
    ProcessEvent.killed p ∈ killEvents events ↔ pidCount events p = 1 := by
  rw [killEvents, List.mem_map_of_injective fun a b h => by cases h; rfl]
  exact mem_pid_singleEvents

theorem opened_not_mem_killEvents (p : TPid) : ProcessEvent.opened p ∉ killEvents events := by
  rw [killEvents, List.mem_map]
  rintro ⟨q, _, h⟩
  cases h

theorem killEvents_nodup : (killEvents events).Nodup :=
  (pid_singleEvents_nodup events).map fun a b h => by cases h; rfl

theorem Life.step_start (hc : s.Consistent events) (hrun : s.running = false)
    (env : SystemEnvironmentFacade.StartEnvironment) :
    s.step (.start env) = some
      (if env.recovers then
        { wal := ⟨true, s.wal.persistService⟩
          running := env.initDerive
          trace := s.trace ++ killEvents events
          leftovers := pidsRecordedOnce s.wal }
      else { s with wal := ⟨false, s.wal.persistService⟩, running := false }) := by
  rw [Life.step, if_neg (by simp [hrun]), init_restore hc.docs]
  by_cases he : env.recovers = true
  · simp [he, killEvents]
  · simp [he]

/-- **A recovery repeats no kill when the leftovers of the last one were handled.** -/
theorem Life.Consistent.recover (hc : s.Consistent events) (hleft : s.leftovers = []) (ok : Bool) :
    Life.Consistent
      { wal := ⟨true, s.wal.persistService⟩
        running := ok
        trace := s.trace ++ killEvents events
        leftovers := pidsRecordedOnce s.wal } events where
  docs := hc.docs
  active := fun _ => rfl
  leftover := by
    intro p hp
    have hone := (mem_pidsRecordedOnce hc.docs p).mp hp
    refine ⟨hone, (Trace.pending_append (opened_not_mem_killEvents p)).mpr (Or.inr ?_)⟩
    exact (killed_mem_killEvents p).mpr hone
  pending := by
    intro p hp
    rcases (Trace.pending_append (opened_not_mem_killEvents p)).mp hp with hp | hp
    · -- killed by an earlier start: it is no leftover, so its records are gone
      rcases hc.pending p hp with h | h
      · rw [hleft] at h
        exact absurd h List.not_mem_nil
      · exact Or.inr h
    · exact Or.inl ((mem_pidsRecordedOnce hc.docs p).mpr ((killed_mem_killEvents p).mp hp))
  once := by
    intro p
    refine (Trace.separated_append (opened_not_mem_killEvents p) killEvents_nodup).mpr
      ⟨hc.once p, fun hkill hp => ?_⟩
    have hone := (killed_mem_killEvents p).mp hkill
    rcases hc.pending p hp with h | h
    · rw [hleft] at h
      exact absurd h List.not_mem_nil
    · omega

theorem Life.Consistent.failedStart (hc : s.Consistent events) :
    Life.Consistent { s with wal := ⟨false, s.wal.persistService⟩, running := false } events where
  docs := hc.docs
  active := fun h => by cases h
  leftover := hc.leftover
  pending := hc.pending
  once := hc.once

/-- A leftover is killed a second time. -/
theorem Life.Consistent.leftovers_eq_nil (hc : s.Consistent events)
    (h : ∀ p, Trace.Separated (ProcessEvent.killed p) (.opened p) (s.trace ++ killEvents events)) :
    s.leftovers = [] := by
  rw [List.eq_nil_iff_forall_not_mem]
  intro p hp
  obtain ⟨hone, hpending⟩ := hc.leftover p hp
  have hsep := (Trace.separated_append (opened_not_mem_killEvents p) killEvents_nodup).mp (h p)
  exact hsep.2 ((killed_mem_killEvents p).mpr hone) hpending

end Start

section Call

variable {s : Life} {events : List SWALProcessEvent}

theorem exec_walProcessEvents {w : WriteAheadLogger} (h : RecordsEvents w events) (op : ProcessOp) :
    (op.exec w).persistService.walProcessEvents =
      (recordOp events op).map (processEventDoc · true) :=
  (h.exec op).docs

theorem killed_ne_event (op : ProcessOp) (p : TPid) : ProcessEvent.killed p ∉ [op.event] := by
  cases op <;> simp [ProcessOp.event]

/-- A call that does not concern a pid leaves its records. -/
theorem countOpen_of_not_concerns {op : ProcessOp} {p : TPid} (h : op.concerns p = false)
    (n : Nat) : ProcessOp.countOpen p n op = n := by
  cases op with
  | openEvent e =>
    rw [ProcessOp.concerns, beq_eq_false_iff_ne] at h
    exact if_neg h
  | closeEvent q =>
    rw [ProcessOp.concerns, Bool.or_eq_false_iff, beq_eq_false_iff_ne, beq_eq_false_iff_ne] at h
    exact if_neg fun hc => hc.elim h.1 h.2

/-- A call that concerns a pid opens it or leaves no record of it. -/
theorem opened_or_countOpen_eq_zero {op : ProcessOp} {p : TPid} (h : op.concerns p = true)
    (n : Nat) : ProcessEvent.opened p ∈ [op.event] ∨ ProcessOp.countOpen p n op = 0 := by
  cases op with
  | openEvent e =>
    rw [ProcessOp.concerns, beq_iff_eq] at h
    exact Or.inl (by rw [ProcessOp.event, h]; exact List.mem_singleton_self _)
  | closeEvent q =>
    rw [ProcessOp.concerns, Bool.or_eq_true, beq_iff_eq, beq_iff_eq] at h
    exact Or.inr (if_pos h)

theorem opened_not_mem_event {op : ProcessOp} {p : TPid} (h : op.concerns p = false) :
    ProcessEvent.opened p ∉ [op.event] := by
  cases op with
  | openEvent e =>
    rw [ProcessOp.concerns, beq_eq_false_iff_ne] at h
    simpa [ProcessOp.event] using Ne.symm h
  | closeEvent q => simp [ProcessOp.event]

theorem Life.Consistent.call (hc : s.Consistent events) (hrun : s.running = true)
    (op : ProcessOp) :
    Life.Consistent
      { s with
        wal := op.exec s.wal
        trace := s.trace ++ [op.event]
        leftovers := s.leftovers.filter fun p => !op.concerns p } (recordOp events op) where
  docs := exec_walProcessEvents ⟨hc.active hrun, hc.docs⟩ op
  active := fun _ => (RecordsEvents.exec ⟨hc.active hrun, hc.docs⟩ op).active
  leftover := by
    intro p hp
    rw [List.mem_filter, Bool.not_eq_true'] at hp
    obtain ⟨hone, hpending⟩ := hc.leftover p hp.1
    constructor
    · rw [pidCount_recordOp, countOpen_of_not_concerns hp.2, hone]
    · exact (Trace.pending_append_of_not_mem (killed_ne_event op p)).mpr
        ⟨hpending, opened_not_mem_event hp.2⟩
  pending := by
    intro p hp
    obtain ⟨hpending, hopen⟩ := (Trace.pending_append_of_not_mem (killed_ne_event op p)).mp hp
    rw [pidCount_recordOp]
    cases hcon : op.concerns p with
    | true => exact Or.inr ((opened_or_countOpen_eq_zero hcon _).resolve_left hopen)
    | false =>
      rw [countOpen_of_not_concerns hcon, List.mem_filter, hcon]
      exact (hc.pending p hpending).imp_left fun h => ⟨h, rfl⟩
  once := fun p => (Trace.separated_append_of_not_mem (killed_ne_event op p)).mpr (hc.once p)

end Call

/-! ## Whole lives -/

theorem Life.inv_step {s s' : Life} {a : LifeStep} (h : s.Inv) (hleft : s.LeftoversHandled a)
    (hs : s.step a = some s') : s'.Inv := by
  obtain ⟨events, hc⟩ := h
  cases a with
  | start env =>
    cases hrun : s.running with
    | true => simp [Life.step, hrun] at hs
    | false =>
      rw [Life.step_start hc hrun, Option.some.injEq] at hs
      subst hs
      split
      · next he => exact ⟨events, hc.recover (hleft he) _⟩
      · exact ⟨events, hc.failedStart⟩
  | call op =>
    cases hrun : s.running with
    | true =>
      rw [Life.step, if_pos hrun, Option.some.injEq] at hs
      subst hs
      exact ⟨recordOp events op, by simpa [hrun] using hc.call hrun op⟩
    | false => simp [Life.step, hrun] at hs
  | stop =>
    cases hrun : s.running with
    | true =>
      rw [Life.step, if_pos hrun, Option.some.injEq] at hs
      subst hs
      exact ⟨events, hc.docs, (fun h => by cases h), hc.leftover, hc.pending, hc.once⟩
    | false => simp [Life.step, hrun] at hs

/-- A start after which no pid was killed twice had no leftovers. -/
theorem Life.leftoversHandled_of_once {s s' : Life} {a : LifeStep} (h : s.Inv)
    (hs : s.step a = some s') (honce : s'.KillsOncePerRecord) : s.LeftoversHandled a := by
  obtain ⟨events, hc⟩ := h
  cases a with
  | call op => trivial
  | stop => trivial
  | start env =>
    intro he
    cases hrun : s.running with
    | true => simp [Life.step, hrun] at hs
    | false =>
      rw [Life.step_start hc hrun, if_pos he, Option.some.injEq] at hs
      subst hs
      exact hc.leftovers_eq_nil honce

/--
**No pid is killed twice for one record exactly when every recovery finds the leftovers of the last
one handled.**

A pid that recovery killed has to be opened or closed before the next recovery. The code does not
close it itself.
-/
theorem recovery_kills_once_iff (as : List LifeStep) :
    Infra.AlwaysState Life.step Life.KillsOncePerRecord Life.initial as ↔
      Infra.AlwaysStep Life.step Life.LeftoversHandled Life.initial as :=
  alwaysState_iff_of_inv Life.step Life.Inv
    (fun _ h => h.choose_spec.once)
    (fun _ _ _ h hleft hs => Life.inv_step h hleft hs)
    (fun _ _ _ h hs honce => Life.leftoversHandled_of_once h hs honce)
    as Life.initial Life.initial_inv

/-- The child 5 is recorded once. The program crashes, is started, crashes and is started. -/
theorem recovery_kills_twice :
    ¬ Infra.AlwaysState Life.step Life.KillsOncePerRecord Life.initial
      [.start {}, .call (.openEvent ⟨5, "player", []⟩), .stop, .start {}, .stop, .start {}] := by
  intro h
  have hlast : (runAll Life.step Life.initial
      [.start {}, .call (.openEvent ⟨5, "player", []⟩), .stop, .start {}, .stop, .start {}]).map
        Life.trace = some [.opened 5, .killed 5, .killed 5] := by
    decide
  obtain ⟨s, hs, htrace⟩ := Option.map_eq_some_iff.mp hlast
  have hsep := h.last hs 5 [.opened 5] [] [] (by rw [htrace]; rfl)
  exact List.not_mem_nil hsep

end MicroserviceCommon

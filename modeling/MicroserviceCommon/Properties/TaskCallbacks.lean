import Mathlib.Data.List.Nodup
import Mathlib.Data.List.Perm.Basic
import MicroserviceCommon.Infra.Run
import MicroserviceCommon.Infra.Trace
import MicroserviceCommon.System.TaskThread

/-!
# When clients are called

The mutex of the clients is locked for a whole pass, so who adds a client or removes one sees no
pass half done.

* `clients_orderly` — a client is called only while it is registered, and one that was removed is
  not in use
* `passes_complete` — a pass calls every registered client once
* `log_of_stuck` — a client that calls the service locks a mutex its own thread holds
* `ids_removable_iff` — the ids can be given back exactly when the generator does not start too low
-/

namespace MicroserviceCommon.ThreadedMultitaskService

open Infra Infra.Trace

variable {κ : Type*}

/-- The client was added and has not been removed since. -/
def Registered (id : TRunnableClientId) (client : κ) (log : List (TaskEvent κ)) : Prop :=
  Pending (.added id client) (.removed id) log

/-- A call of the client has not returned yet. -/
def InCall (id : TRunnableClientId) (client : κ) (log : List (TaskEvent κ)) : Prop :=
  Pending (.called id client) (.returned id client) log

/-- Only registered clients are called, and a client may be destroyed when it is removed. -/
structure Orderly (log : List (TaskEvent κ)) : Prop where
  registered : ∀ id client, Before (.called id client) (Registered id client) log
  unused : ∀ id client, Before (.removed id) (fun pre => ¬ InCall id client pre) log
  never : ∀ id client, NeverAfter (.removed id) (.called id client) log

/-- A pass calls each client that is registered at its begin once, and no other. -/
def EachOnce (log : List (TaskEvent κ)) : Prop :=
  Blocks .passBegun .passEnded (fun pre mid => mid.Nodup ∧
    ∀ id client, .called id client ∈ mid ↔ Registered id client pre) log

/-! ## The clients -/

theorem toInt_add_one {n : Int32} (h : n ≠ Int32.maxValue) : (n + 1).toInt = n.toInt + 1 := by
  have hne : n.toInt ≠ Int32.maxValue.toInt := fun he => h (Int32.toInt_inj.mp he)
  have hmax : Int32.maxValue.toInt = 2 ^ 31 - 1 := by decide
  have hlt := n.toInt_lt
  have hle := n.le_toInt
  rw [Int32.toInt_add, show (1 : Int32).toInt = 1 from rfl, Int.bmod_eq_of_le] <;> omega

namespace TaskClients

variable {s : TaskClients κ}

/-- The generator is ahead of the clients. -/
structure Fresh (s : TaskClients κ) : Prop where
  le : ∀ x ∈ s.clients, x.1 ≤ s.clientIdGenerator
  nodup : (s.clients.map Prod.fst).Nodup

@[simp] theorem id_addRunnableClient (s : TaskClients κ) (client : κ) :
    (s.addRunnableClient (some client)).2 = s.clientIdGenerator + 1 := rfl

@[simp] theorem clientIdGenerator_addRunnableClient (s : TaskClients κ) (client : κ) :
    (s.addRunnableClient (some client)).1.clientIdGenerator = s.clientIdGenerator + 1 := rfl

theorem Fresh.not_any (h : s.Fresh) (hmax : s.clientIdGenerator ≠ Int32.maxValue) :
    (s.clients.any fun entry => entry.1 == s.clientIdGenerator + 1) = false := by
  rw [List.any_eq_false]
  intro x hx he
  have hle := Int32.le_iff_toInt_le.mp (h.le x hx)
  rw [eq_of_beq he, toInt_add_one hmax] at hle
  omega

theorem Fresh.clients_add (h : s.Fresh) (hmax : s.clientIdGenerator ≠ Int32.maxValue) (client : κ) :
    (s.addRunnableClient (some client)).1.clients =
      s.clients ++ [(s.clientIdGenerator + 1, client)] := by
  simp [addRunnableClient, h.not_any hmax]

theorem Fresh.add (h : s.Fresh) (hmax : s.clientIdGenerator ≠ Int32.maxValue) (client : κ) :
    (s.addRunnableClient (some client)).1.Fresh := by
  have hlt : ∀ x ∈ s.clients, x.1.toInt < (s.clientIdGenerator + 1).toInt := by
    intro x hx
    have hle := Int32.le_iff_toInt_le.mp (h.le x hx)
    rw [toInt_add_one hmax]
    omega
  constructor
  · intro x hx
    rw [h.clients_add hmax] at hx
    rcases List.mem_append.mp hx with hx | hx
    · exact Int32.le_iff_toInt_le.mpr (Int.le_of_lt (hlt x hx))
    · rw [List.mem_singleton.mp hx]
      exact Int32.le_refl _
  · rw [h.clients_add hmax, List.map_append, List.nodup_append]
    refine ⟨h.nodup, List.nodup_singleton _, ?_⟩
    rintro id hid id' hid' rfl
    obtain ⟨x, hx, rfl⟩ := List.mem_map.mp hid
    have he : x.1 = s.clientIdGenerator + 1 := List.mem_singleton.mp hid'
    exact absurd (hlt x hx) (by rw [he]; omega)

theorem Fresh.remove (h : s.Fresh) (id : TRunnableClientId) :
    (s.removeRunnableClient id).1.Fresh := by
  unfold removeRunnableClient
  split
  · exact h
  · exact ⟨fun x hx => h.le x (List.mem_filter.mp hx).1,
      h.nodup.sublist (List.filter_sublist.map _)⟩

theorem mem_clients_remove {id : TRunnableClientId} (hid : ¬ id ≤ invalidClientId)
    {x : TRunnableClientId × κ} : x ∈ (s.removeRunnableClient id).1.clients ↔
      x ∈ s.clients ∧ x.1 ≠ id := by
  simp [removeRunnableClient, hid]

theorem removed_iff {id : TRunnableClientId} (hid : ¬ id ≤ invalidClientId) :
    (s.removeRunnableClient id).2 = true ↔ ∃ client, (id, client) ∈ s.clients := by
  simp [removeRunnableClient, hid]

end TaskClients

/-! ## One more event -/

theorem registered_concat {log : List (TaskEvent κ)} {e : TaskEvent κ} {id : TRunnableClientId}
    {client : κ} : Registered id client (log ++ [e]) ↔
      e = .added id client ∨ Registered id client log ∧ e ≠ .removed id :=
  pending_concat

theorem inCall_concat {log : List (TaskEvent κ)} {e : TaskEvent κ} {id : TRunnableClientId}
    {client : κ} : InCall id client (log ++ [e]) ↔
      e = .called id client ∨ InCall id client log ∧ e ≠ .returned id client :=
  pending_concat

theorem orderly_concat {log : List (TaskEvent κ)} {e : TaskEvent κ} : Orderly (log ++ [e]) ↔
    Orderly log ∧
      (∀ id client, e = .called id client → Registered id client log ∧ .removed id ∉ log) ∧
      ∀ id client, e = .removed id → ¬ InCall id client log := by
  constructor
  · intro h
    refine ⟨⟨fun id client => ?_, fun id client => ?_, fun id client => ?_⟩, ?_, ?_⟩
    · exact (before_concat.mp (h.registered id client)).1
    · exact (before_concat.mp (h.unused id client)).1
    · exact (neverAfter_concat.mp (h.never id client)).1
    · exact fun id client he => ⟨(before_concat.mp (h.registered id client)).2 he,
        (neverAfter_concat.mp (h.never id client)).2 he⟩
    · exact fun id client => (before_concat.mp (h.unused id client)).2
  · rintro ⟨h, hcalled, hremoved⟩
    refine ⟨fun id client => ?_, fun id client => ?_, fun id client => ?_⟩
    · exact before_concat.mpr ⟨h.registered id client, fun he => (hcalled id client he).1⟩
    · exact before_concat.mpr ⟨h.unused id client, hremoved id client⟩
    · exact neverAfter_concat.mpr ⟨h.never id client, fun he => (hcalled id client he).2⟩

theorem eachOnce_concat {log : List (TaskEvent κ)} {e : TaskEvent κ} (h : EachOnce log)
    (he : e ≠ .passEnded) : EachOnce (log ++ [e]) :=
  blocks_concat.mpr ⟨h, fun heq => absurd heq he⟩

/-! ## Steps -/

namespace TaskThread

/-- What the log has of a client in a pass. -/
def callEvents (x : TRunnableClientId × κ) : List (TaskEvent κ) :=
  [.called x.1 x.2, .returned x.1 x.2]

/-- The pass began with the clients as they are, and calls one after the other. -/
def InPass (clients : List (TRunnableClientId × κ)) (log : List (TaskEvent κ)) :
    TaskPhase κ → Prop
  | .pass todo => (∀ id client, ¬ InCall id client log) ∧ ∃ pre done,
      log = pre ++ .passBegun :: done.flatMap callEvents ∧ (done ++ todo).Perm clients ∧
        ∀ id client, (id, client) ∈ clients ↔ Registered id client pre
  | .inClient id client todo =>
      (∀ id' client', InCall id' client' log → id' = id ∧ client' = client) ∧ ∃ pre done,
        log = pre ++ .passBegun :: (done.flatMap callEvents ++ [.called id client]) ∧
          (done ++ (id, client) :: todo).Perm clients ∧
          ∀ id client, (id, client) ∈ clients ↔ Registered id client pre
  | .stuck => True
  | _ => ∀ id client, ¬ InCall id client log

structure Inv (s : TaskThread κ) : Prop where
  fresh : s.data.Fresh
  clients : ∀ id client, (id, client) ∈ s.data.clients ↔ Registered id client s.log
  gone : ∀ id, .removed id ∈ s.log →
    id ≤ s.data.clientIdGenerator ∧ ∀ client, (id, client) ∉ s.data.clients
  orderly : Orderly s.log
  eachOnce : EachOnce s.log
  pass : InPass s.data.clients s.log s.phase

variable {s s' : TaskThread κ}

/-- Outside of a pass no client is in a call. -/
theorem inPass_iff {phase : TaskPhase κ} (h : phase.locksClients = false)
    {clients : List (TRunnableClientId × κ)} {log : List (TaskEvent κ)} :
    InPass clients log phase ↔ ∀ id client, ¬ InCall id client log := by
  cases phase with
  | pass | inClient | stuck => cases h
  | loopHead | waiting | wokenUp | isClientExists | loop | exited => exact Iff.rfl

theorem Inv.add (h : s.Inv) {client : κ} (hlock : s.phase.locksClients = false)
    (hmax : s.data.clientIdGenerator ≠ Int32.maxValue) :
    Inv { s with
      data := (s.data.addRunnableClient (some client)).1
      log := s.log ++ [.added (s.data.addRunnableClient (some client)).2 client] } where
  fresh := h.fresh.add hmax client
  clients id c := by
    rw [h.fresh.clients_add hmax, List.mem_append, h.clients, List.mem_singleton,
      registered_concat]
    simp only [TaskClients.id_addRunnableClient, TaskEvent.added.injEq, Prod.mk.injEq, ne_eq,
      reduceCtorEq, not_false_iff, and_true]
    rw [or_comm, @eq_comm _ id, @eq_comm _ c]
  gone id hid := by
    have hid : TaskEvent.removed id ∈ s.log := by simpa using hid
    obtain ⟨hle, hno⟩ := h.gone id hid
    have hlt : id.toInt < (s.data.clientIdGenerator + 1).toInt := by
      rw [toInt_add_one hmax]
      exact Int.lt_add_one_of_le (Int32.le_iff_toInt_le.mp hle)
    refine ⟨Int32.le_iff_toInt_le.mpr (Int.le_of_lt hlt), fun c hc => ?_⟩
    rw [h.fresh.clients_add hmax, List.mem_append, List.mem_singleton] at hc
    rcases hc with hc | hc
    · exact hno c hc
    · rw [(Prod.mk.inj hc).1] at hlt
      exact Int.lt_irrefl _ hlt
  orderly := orderly_concat.mpr ⟨h.orderly, by simp, by simp⟩
  eachOnce := eachOnce_concat h.eachOnce fun he => by cases he
  pass := (inPass_iff hlock).mpr fun id c hc =>
    (inPass_iff hlock).mp h.pass id c (by simpa [inCall_concat] using hc)

theorem Inv.remove (h : s.Inv) {id : TRunnableClientId} (hlock : s.phase.locksClients = false)
    (hid : ¬ id ≤ invalidClientId) :
    Inv { s with
      data := (s.data.removeRunnableClient id).1
      log := if (s.data.removeRunnableClient id).2 then s.log ++ [.removed id] else s.log } := by
  have hcall := (inPass_iff hlock).mp h.pass
  have hgen : (s.data.removeRunnableClient id).1.clientIdGenerator = s.data.clientIdGenerator := by
    simp [TaskClients.removeRunnableClient, hid]
  by_cases hr : (s.data.removeRunnableClient id).2 = true
  · obtain ⟨client, hclient⟩ := (TaskClients.removed_iff hid).mp hr
    rw [if_pos hr]
    constructor
    · exact h.fresh.remove id
    · intro id' c
      rw [TaskClients.mem_clients_remove hid, h.clients, registered_concat]
      simp [eq_comm]
    · intro id' hid'
      rw [hgen]
      simp only [TaskClients.mem_clients_remove hid]
      rcases List.mem_append.mp hid' with hid' | hid'
      · exact ⟨(h.gone id' hid').1, fun c hc => (h.gone id' hid').2 c hc.1⟩
      · obtain rfl : id' = id := by simpa using hid'
        exact ⟨h.fresh.le _ hclient, fun c hc => hc.2 rfl⟩
    · exact orderly_concat.mpr ⟨h.orderly, by simp, fun _ _ _ => hcall _ _⟩
    · exact eachOnce_concat h.eachOnce fun he => by cases he
    · exact (inPass_iff hlock).mpr fun id' c hc =>
        hcall id' c (by simpa [inCall_concat] using hc)
  · rw [if_neg hr]
    have hnone : ∀ x ∈ s.data.clients, x.1 ≠ id := fun x hx he =>
      hr ((TaskClients.removed_iff hid).mpr ⟨x.2, he ▸ hx⟩)
    constructor
    · exact h.fresh.remove id
    · intro id' c
      rw [TaskClients.mem_clients_remove hid, ← h.clients]
      exact and_iff_left_of_imp fun hx => hnone _ hx
    · intro id' hid'
      rw [hgen]
      exact ⟨(h.gone id' hid').1, fun c hc =>
        (h.gone id' hid').2 c ((TaskClients.mem_clients_remove hid).mp hc).1⟩
    · exact h.orderly
    · exact h.eachOnce
    · exact (inPass_iff hlock).mpr hcall

theorem Inv.call {c : RunnableTaskCall κ} (h : s.Inv) (hs : s.call c = some s') : s'.Inv := by
  unfold TaskThread.call at hs
  split at hs
  · obtain rfl := Option.some.inj hs
    exact h
  · obtain ⟨hc, hs⟩ := Option.ite_none_left_eq_some.mp hs
    obtain rfl := Option.some.inj hs
    simp only [Bool.or_eq_true, beq_iff_eq, not_or, Bool.not_eq_true] at hc
    exact h.add hc.1 hc.2
  · split at hs
    · obtain rfl := Option.some.inj hs
      exact h
    · next hid =>
      obtain ⟨hlock, hs⟩ := Option.ite_none_left_eq_some.mp hs
      obtain rfl := Option.some.inj hs
      exact h.remove (Bool.eq_false_iff.mpr hlock) hid

/-- The thread goes on without an event. -/
theorem Inv.setPhase (h : s.Inv) {phase : TaskPhase κ} (hlock : s.phase.locksClients = false)
    (hlock' : phase.locksClients = false) : Inv { s with phase := phase } :=
  { h with pass := (inPass_iff hlock').mpr ((inPass_iff hlock).mp h.pass) }

theorem Inv.work (h : s.Inv) (hs : s.work = some s') : s'.Inv := by
  unfold TaskThread.work at hs
  split at hs
  case h_5 hphase =>
    -- the pass begins with the clients of now
    obtain rfl := Option.some.inj hs
    have hcall := (inPass_iff (by rw [hphase]; rfl)).mp h.pass
    constructor
    · exact h.fresh
    · intro id c
      rw [h.clients, registered_concat]
      simp
    · exact fun id hid => h.gone id (by simpa using hid)
    · exact orderly_concat.mpr ⟨h.orderly, by simp, by simp⟩
    · exact eachOnce_concat h.eachOnce fun he => by cases he
    · exact ⟨fun id c hc => hcall id c (by simpa [inCall_concat] using hc),
        s.log, [], by simp, List.Perm.refl _, h.clients⟩
  case h_2 hphase =>
    obtain ⟨_, hs⟩ := Option.ite_none_right_eq_some.mp hs
    obtain rfl := Option.some.inj hs
    exact h.setPhase (by rw [hphase]; rfl) rfl
  case h_6 | h_7 | h_8 | h_9 => cases hs
  all_goals
    next hphase =>
    obtain rfl := Option.some.inj hs
    refine h.setPhase (by rw [hphase]; rfl) ?_
    split <;> rfl

/-- A registered client is called for the first time in this pass. -/
theorem Inv.callClient (h : s.Inv) {todo : List (TRunnableClientId × κ)} {place : Nat}
    {x : TRunnableClientId × κ} (hphase : s.phase = .pass todo) (hx : todo[place]? = some x) :
    Inv { s with
      phase := .inClient x.1 x.2 (todo.eraseIdx place)
      log := s.log ++ [.called x.1 x.2] } := by
  have hpass := h.pass
  rw [hphase] at hpass
  obtain ⟨hcall, pre, done, hlog, hperm, hclients⟩ := hpass
  have hmem : x ∈ s.data.clients :=
    hperm.subset (List.mem_append_right _ (List.mem_of_getElem? hx))
  have hplace : (x :: todo.eraseIdx place).Perm todo := by
    obtain ⟨hlt, rfl⟩ := List.getElem?_eq_some_iff.mp hx
    exact List.getElem_cons_eraseIdx_perm hlt
  constructor
  · exact h.fresh
  · intro id c
    rw [h.clients, registered_concat]
    simp
  · exact fun id hid => h.gone id (by simpa using hid)
  · refine orderly_concat.mpr ⟨h.orderly, ?_, by simp⟩
    intro id c he
    obtain ⟨rfl, rfl⟩ := TaskEvent.called.inj he
    exact ⟨(h.clients _ _).mp hmem, fun hid => (h.gone _ hid).2 _ hmem⟩
  · exact eachOnce_concat h.eachOnce (by simp)
  · refine ⟨fun id c hc => ?_, pre, done, ?_, (hplace.append_left done).trans hperm, hclients⟩
    · rcases inCall_concat.mp hc with he | ⟨hc, _⟩
      · obtain ⟨rfl, rfl⟩ := TaskEvent.called.inj he
        exact ⟨rfl, rfl⟩
      · exact absurd hc (hcall id c)
    · simp [hlog]

theorem Inv.returnClient (h : s.Inv) {todo : List (TRunnableClientId × κ)}
    {id : TRunnableClientId} {client : κ} (hphase : s.phase = .inClient id client todo) :
    Inv { s with phase := .pass todo, log := s.log ++ [.returned id client] } := by
  have hpass := h.pass
  rw [hphase] at hpass
  obtain ⟨hcall, pre, done, hlog, hperm, hclients⟩ := hpass
  constructor
  · exact h.fresh
  · intro id' c
    rw [h.clients, registered_concat]
    simp
  · exact fun id' hid => h.gone id' (by simpa using hid)
  · exact orderly_concat.mpr ⟨h.orderly, by simp, by simp⟩
  · exact eachOnce_concat h.eachOnce (by simp)
  · refine ⟨fun id' c hc => ?_, pre, done ++ [(id, client)], ?_, ?_, hclients⟩
    · obtain ⟨hc, hne⟩ := (inCall_concat.mp hc).resolve_left (by simp)
      obtain ⟨rfl, rfl⟩ := hcall id' c hc
      exact hne rfl
    · simp [hlog, callEvents]
    · simpa using hperm

theorem mem_flatMap_callEvents {done : List (TRunnableClientId × κ)} {id : TRunnableClientId}
    {client : κ} : .called id client ∈ done.flatMap callEvents ↔ (id, client) ∈ done := by
  simp [callEvents]

theorem nodup_flatMap_callEvents {done : List (TRunnableClientId × κ)} (h : done.Nodup) :
    (done.flatMap callEvents).Nodup := by
  rw [List.nodup_flatMap]
  refine ⟨fun x _ => by simp [callEvents], h.imp fun hne e hx hy => ?_⟩
  simp only [callEvents, List.mem_cons, List.not_mem_nil, or_false] at hx hy
  rcases hx with rfl | rfl <;> simp at hy <;> exact hne (Prod.ext hy.1 hy.2)

/-- Nobody is left: everybody was called once. -/
theorem Inv.endPass (h : s.Inv) (hphase : s.phase = .pass []) :
    Inv { s with
      phase := if s.data.isClientExists then .loop else .loopHead
      log := s.log ++ [.passEnded] } := by
  have hpass := h.pass
  rw [hphase] at hpass
  obtain ⟨hcall, pre, done, hlog, hperm, hclients⟩ := hpass
  rw [List.append_nil] at hperm
  constructor
  · exact h.fresh
  · intro id c
    rw [h.clients, registered_concat]
    simp
  · exact fun id hid => h.gone id (by simpa using hid)
  · exact orderly_concat.mpr ⟨h.orderly, by simp, by simp⟩
  · refine blocks_concat.mpr ⟨h.eachOnce, fun _ pre' mid hlog' hbegun _ => ?_⟩
    obtain ⟨rfl, rfl⟩ := split_unique (hlog.symm.trans hlog') (by simp [callEvents]) hbegun
    refine ⟨nodup_flatMap_callEvents (hperm.nodup_iff.mpr (List.Nodup.of_map _ h.fresh.nodup)), ?_⟩
    intro id c
    rw [mem_flatMap_callEvents, hperm.mem_iff, hclients]
  · refine (inPass_iff ?_).mpr fun id c hc => hcall id c (by simpa [inCall_concat] using hc)
    split <;> rfl

theorem Inv.step {a : TaskAction κ} (h : s.Inv) (hs : s.step a = some s') : s'.Inv := by
  cases a with
  | call c => exact h.call hs
  | shutdown =>
    obtain rfl := Option.some.inj hs
    exact ⟨⟨h.fresh.le, h.fresh.nodup⟩, h.clients, h.gone, h.orderly, h.eachOnce, h.pass⟩
  | work => exact h.work hs
  | callClient place =>
    rw [TaskThread.step] at hs
    split at hs
    · next todo hphase =>
      obtain ⟨x, hx, rfl⟩ := Option.map_eq_some_iff.mp hs
      exact h.callClient hphase hx
    · cases hs
  | returnClient =>
    rw [TaskThread.step] at hs
    split at hs
    · next hphase =>
      obtain rfl := Option.some.inj hs
      exact h.returnClient hphase
    · cases hs
  | callBack =>
    rw [TaskThread.step] at hs
    split at hs
    · obtain rfl := Option.some.inj hs
      exact { h with pass := trivial }
    · cases hs
  | endPass =>
    rw [TaskThread.step] at hs
    split at hs
    · next hphase =>
      obtain rfl := Option.some.inj hs
      exact h.endPass hphase
    · cases hs

/-- Nothing initialises the generator of a `RunnableTask`; that of the service starts at zero. -/
def start (clientIdGenerator : TRunnableClientId) (shutdownCalled : Bool) : TaskThread κ where
  data := RunnableTask.init clientIdGenerator shutdownCalled

theorem inv_start (clientIdGenerator : TRunnableClientId) (shutdownCalled : Bool) :
    Inv (start clientIdGenerator shutdownCalled : TaskThread κ) where
  fresh := ⟨by simp [start, RunnableTask.init], List.nodup_nil⟩
  clients _ _ := iff_of_false List.not_mem_nil not_pending_nil
  gone _ hid := by cases hid
  orderly := ⟨fun _ _ _ _ h => by simp [start] at h, fun _ _ _ _ h => by simp [start] at h,
    fun _ _ _ _ h => by simp [start] at h⟩
  eachOnce _ _ _ h := by simp [start] at h
  pass _ _ := not_pending_nil

theorem alwaysState_inv (clientIdGenerator : TRunnableClientId) (shutdownCalled : Bool)
    (actions : List (TaskAction κ)) :
    AlwaysState step Inv (start clientIdGenerator shutdownCalled) actions :=
  alwaysState_of_alwaysStep (C := fun _ _ => True) Inv (fun _ _ _ h _ hs => h.step hs) actions _
    (inv_start _ _) alwaysStep_trivial

/--
**Removing a client makes it safe to destroy.**

Whoever adds and removes clients while the thread goes on: each call of a client comes after its
`addRunnableClient` with no removal in between; when `removeRunnableClient` returns true the client
is in no call, and none is ever begun again.
-/
theorem clients_orderly (clientIdGenerator : TRunnableClientId) (shutdownCalled : Bool)
    (actions : List (TaskAction κ)) :
    AlwaysState step (fun s => Orderly s.log) (start clientIdGenerator shutdownCalled) actions :=
  (alwaysState_inv _ _ actions).mono fun _ h => h.orderly

/--
**A pass leaves nobody out.**

Each pass that has ended called every client that was registered when it began exactly once, and
nobody else.
-/
theorem passes_complete (clientIdGenerator : TRunnableClientId) (shutdownCalled : Bool)
    (actions : List (TaskAction κ)) :
    AlwaysState step (fun s => EachOnce s.log) (start clientIdGenerator shutdownCalled) actions :=
  (alwaysState_inv _ _ actions).mono fun _ h => h.eachOnce

theorem step_of_stuck {a : TaskAction κ} (h : s.phase = .stuck) (hs : s.step a = some s') :
    s'.phase = .stuck ∧ s'.log = s.log := by
  have hlock : s.phase.locksClients = true := by rw [h]; rfl
  cases a with
  | call c =>
    simp only [TaskThread.step, TaskThread.call, hlock, Bool.true_or, if_true] at hs
    split at hs
    · obtain rfl := Option.some.inj hs
      exact ⟨h, rfl⟩
    · cases hs
    · split at hs
      · obtain rfl := Option.some.inj hs
        exact ⟨h, rfl⟩
      · cases hs
  | shutdown =>
    obtain rfl := Option.some.inj hs
    exact ⟨h, rfl⟩
  | work => simp [TaskThread.step, TaskThread.work, h] at hs
  | callClient | returnClient | callBack | endPass => simp [TaskThread.step, h] at hs

/-- **After a client called back, no client is called, added or removed any more.** -/
theorem log_of_stuck (h : s.phase = .stuck) (actions : List (TaskAction κ)) :
    AlwaysState step (fun s' => s'.phase = .stuck ∧ s'.log = s.log) s actions :=
  alwaysState_of_alwaysStep (C := fun _ _ => True) _
    (fun _ _ _ hstuck _ hs =>
      ⟨(step_of_stuck hstuck.1 hs).1, (step_of_stuck hstuck.1 hs).2.trans hstuck.2⟩)
    actions s ⟨h, rfl⟩ alwaysStep_trivial

/-! ## Ids that cannot be given back -/

/-- Who has registered a client can remove it. -/
def Removable (s : TaskThread κ) : Prop :=
  ∀ id client, Registered id client s.log → (s.data.removeRunnableClient id).2 = true ∧
    ∀ client', (id, client') ∉ (s.data.removeRunnableClient id).1.clients

/-- No client has the id that stands for none, or one below it. -/
structure ValidIds (s : TaskThread κ) : Prop where
  generator : invalidClientId ≤ s.data.clientIdGenerator
  clients : ∀ x ∈ s.data.clients, ¬ x.1 ≤ invalidClientId

theorem Inv.removable (h : s.Inv) (hv : s.ValidIds) : s.Removable := by
  intro id client hreg
  have hmem := (h.clients id client).mpr hreg
  have hid := hv.clients _ hmem
  exact ⟨(TaskClients.removed_iff hid).mpr ⟨client, hmem⟩,
    fun _ hx => ((TaskClients.mem_clients_remove hid).mp hx).2 rfl⟩

theorem data_work (hs : s.work = some s') : s'.data = s.data := by
  unfold TaskThread.work at hs
  split at hs
  case h_2 =>
    obtain ⟨_, hs⟩ := Option.ite_none_right_eq_some.mp hs
    obtain rfl := Option.some.inj hs
    rfl
  case h_6 | h_7 | h_8 | h_9 => cases hs
  all_goals
    obtain rfl := Option.some.inj hs
    rfl

/-- Only calls of other threads change the clients. -/
theorem data_step {a : TaskAction κ} (hs : s.step a = some s') :
    (∃ c, a = .call c) ∨ s'.data.clients = s.data.clients ∧
      s'.data.clientIdGenerator = s.data.clientIdGenerator := by
  cases a with
  | call c => exact Or.inl ⟨c, rfl⟩
  | shutdown =>
    obtain rfl := Option.some.inj hs
    exact Or.inr ⟨rfl, rfl⟩
  | work =>
    rw [data_work hs]
    exact Or.inr ⟨rfl, rfl⟩
  | callClient place =>
    rw [TaskThread.step] at hs
    split at hs
    · obtain ⟨x, _, rfl⟩ := Option.map_eq_some_iff.mp hs
      exact Or.inr ⟨rfl, rfl⟩
    · cases hs
  | returnClient | callBack | endPass =>
    rw [TaskThread.step] at hs
    split at hs
    · obtain rfl := Option.some.inj hs
      exact Or.inr ⟨rfl, rfl⟩
    · cases hs

theorem ValidIds.call {c : RunnableTaskCall κ} (h : s.ValidIds) (hfresh : s.data.Fresh)
    (hs : s.call c = some s') : s'.ValidIds := by
  unfold TaskThread.call at hs
  split at hs
  · obtain rfl := Option.some.inj hs
    exact h
  · next client =>
    obtain ⟨hc, hs⟩ := Option.ite_none_left_eq_some.mp hs
    obtain rfl := Option.some.inj hs
    simp only [Bool.or_eq_true, beq_iff_eq, not_or] at hc
    -- the generator has moved up by one
    have hlt : ¬ s.data.clientIdGenerator + 1 ≤ invalidClientId := by
      have hge := Int32.le_iff_toInt_le.mp h.generator
      rw [Int32.le_iff_toInt_le, toInt_add_one hc.2]
      omega
    refine ⟨?_, fun x hx => ?_⟩
    · exact Int32.le_of_lt (Int32.not_le.mp hlt)
    · rw [hfresh.clients_add hc.2] at hx
      rcases List.mem_append.mp hx with hx | hx
      · exact h.clients x hx
      · rw [List.mem_singleton.mp hx]
        exact hlt
  · split at hs
    · obtain rfl := Option.some.inj hs
      exact h
    · next hid =>
      obtain ⟨_, hs⟩ := Option.ite_none_left_eq_some.mp hs
      obtain rfl := Option.some.inj hs
      refine ⟨?_, fun x hx => h.clients x ((TaskClients.mem_clients_remove hid).mp hx).1⟩
      simpa [TaskClients.removeRunnableClient, hid] using h.generator

theorem ValidIds.step {a : TaskAction κ} (h : s.ValidIds) (hfresh : s.data.Fresh)
    (hs : s.step a = some s') : s'.ValidIds := by
  rcases data_step hs with ⟨c, rfl⟩ | ⟨hclients, hgenerator⟩
  · exact h.call hfresh hs
  · exact ⟨hgenerator ▸ h.generator, hclients ▸ h.clients⟩

theorem call_addRunnableClient (hlock : s.phase.locksClients = false)
    (hmax : s.data.clientIdGenerator ≠ Int32.maxValue) (client : κ) :
    s.call (.addRunnableClient (some client)) = some { s with
      data := (s.data.addRunnableClient (some client)).1
      log := s.log ++ [.added (s.data.clientIdGenerator + 1) client] } :=
  if_neg (by simp [hlock, hmax])

/-- The first client of a generator below the least valid one. -/
theorem exists_not_removable (client : κ) {clientIdGenerator : TRunnableClientId}
    (h : ¬ invalidClientId ≤ clientIdGenerator) (shutdownCalled : Bool) :
    ∃ s, runAll step (start clientIdGenerator shutdownCalled)
      [.call (.addRunnableClient (some client))] = some s ∧ ¬ s.Removable := by
  have hlt : clientIdGenerator.toInt < -1 := Int32.lt_iff_toInt_lt.mp (Int32.not_le.mp h)
  have hmax : clientIdGenerator ≠ Int32.maxValue := by
    rintro rfl
    exact absurd hlt (by decide)
  have hid : clientIdGenerator + 1 ≤ invalidClientId := by
    rw [Int32.le_iff_toInt_le, toInt_add_one hmax]
    exact hlt
  refine ⟨_, by rw [runAll, TaskThread.step, call_addRunnableClient rfl hmax]; rfl, fun hr => ?_⟩
  have hremoved := (hr (clientIdGenerator + 1) client ⟨[], [], rfl, List.not_mem_nil⟩).1
  simp [TaskClients.removeRunnableClient, hid] at hremoved

/--
**A client can be removed by its id exactly when the generator started high enough.**

In all runs every client can be removed by the id its `addRunnableClient` returned, exactly when the
generator starts at `INVALID_CLIENT_ID` or above it. A `RunnableTask` does not initialise it.
-/
theorem ids_removable_iff [Inhabited κ] (clientIdGenerator : TRunnableClientId)
    (shutdownCalled : Bool) :
    (∀ actions : List (TaskAction κ),
      AlwaysState step Removable (start clientIdGenerator shutdownCalled) actions) ↔
      invalidClientId ≤ clientIdGenerator := by
  constructor
  · intro h
    by_contra hlow
    obtain ⟨s, hs, hnot⟩ := exists_not_removable (default : κ) hlow shutdownCalled
    exact hnot ((h _).last hs)
  · intro hgenerator actions
    refine (alwaysState_of_alwaysStep (C := fun _ _ => True) (fun s => s.Inv ∧ s.ValidIds) ?_
      actions _ ⟨inv_start _ _, hgenerator, ?_⟩ alwaysStep_trivial).mono
        fun s h => h.1.removable h.2
    · exact fun s a s' h _ hs => ⟨h.1.step hs, h.2.step h.1.fresh hs⟩
    · simp [start, RunnableTask.init]

end TaskThread

end MicroserviceCommon.ThreadedMultitaskService

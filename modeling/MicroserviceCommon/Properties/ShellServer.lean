import Mathlib.Data.List.Nodup
import MicroserviceCommon.Communication.ShellServer

/-!
# The clients of a server

What holds in every state of a server, whatever the clients, the kernel and the repliers do.

* `Inv` — the clients, their descriptors and what was read from them
* `read_all_written` — no byte is lost, doubled or moved
* `clients_served_in_order` — one client after the other
* `replies_reach_sender_iff` — who gets a reply
-/

namespace MicroserviceCommon

open Infra

namespace ShellServer

variable {κ : Type*} [DecidableEq κ] {s s' : ShellServer κ} {client k : κ} {d descriptor : Nat}

/-- The messages of one client, in the order they were handed out. -/
def messagesOf (s : ShellServer κ) (client : κ) : List UInt8 :=
  (s.requests.filter fun r => r.sender = client).flatMap (·.incomingMessage)

/-- The server has a descriptor of the client. -/
def HasOpen (s : ShellServer κ) (client : κ) : Prop :=
  ∃ d, s.files d = some (.connection client)

structure Inv (s : ShellServer κ) : Prop where
  order : s.accepted ++ s.backlog = s.connected
  nodup : s.connected.Nodup
  bytes : ∀ k, s.messagesOf k ++ s.unread k = s.written k
  hasOpen_iff : ∀ k, s.HasOpen k ↔ k ∈ s.accepted ∧ k ∉ s.closed
  injective : ∀ k d d', s.files d = some (.connection k) → s.files d' = some (.connection k) →
    d = d'
  closed : ∀ k ∈ s.closed, k ∈ s.accepted ∧ s.hungUp k = true ∧ s.unread k = []
  requests : ∀ r ∈ s.requests, r.sender ∈ s.accepted ∧
    (r.sender ∉ s.closed → s.files r.clientSocketDscr = some (.connection r.sender))
  reused : ∀ r ∈ s.requests, ∀ k, s.files r.clientSocketDscr = some (.connection k) →
    k = r.sender ∨ [r.sender, k].Sublist s.accepted
  reading : ∀ d, s.reading = some d → d = s.clientSocketDscr

omit [DecidableEq κ] in
theorem files_start_ne (occupied : Nat → Bool) (d : Nat) (k : κ) :
    (start occupied).files d ≠ some (.connection k) := by
  intro h
  simp only [start] at h
  split at h <;> cases h

theorem inv_start (occupied : Nat → Bool) : Inv (start occupied : ShellServer κ) where
  order := rfl
  nodup := List.nodup_nil
  bytes _ := rfl
  hasOpen_iff k := by
    constructor
    · rintro ⟨d, hd⟩
      exact absurd hd (files_start_ne occupied d k)
    · rintro ⟨hk, _⟩
      exact absurd hk List.not_mem_nil
  injective k d d' hd _ := absurd hd (files_start_ne occupied d k)
  closed k hk := absurd hk List.not_mem_nil
  requests r hr := absurd hr List.not_mem_nil
  reused r hr := absurd hr List.not_mem_nil
  reading d hd := by cases hd

/-! ## Files of other parts -/

omit [DecidableEq κ] in
theorem update_connection {files : Nat → Option (OpenFile κ)} {file : Option (OpenFile κ)}
    (hold : ∀ k, files d ≠ some (.connection k)) (hnew : ∀ k, file ≠ some (.connection k))
    (k : κ) (d' : Nat) : Function.update files d file d' = some (.connection k) ↔
      files d' = some (.connection k) := by
  by_cases hd : d' = d
  · subst hd
    rw [Function.update_self]
    exact ⟨fun he => absurd he (hnew k), fun he => absurd he (hold k)⟩
  · rw [Function.update_of_ne hd]

/-- Who opens and closes other files changes no connection. -/
theorem Inv.setFile (h : Inv s) {file : Option (OpenFile κ)}
    (hold : ∀ k, s.files d ≠ some (.connection k)) (hnew : ∀ k, file ≠ some (.connection k)) :
    Inv { s with files := Function.update s.files d file } := by
  have hsame := update_connection hold hnew
  exact
    { h with
      hasOpen_iff := fun k => (exists_congr (hsame k)).trans (h.hasOpen_iff k)
      injective := fun k d d' hd hd' =>
        h.injective k d d' ((hsame k d).mp hd) ((hsame k d').mp hd')
      requests := fun r hr => ⟨(h.requests r hr).1, fun hopen =>
        (hsame _ _).mpr ((h.requests r hr).2 hopen)⟩
      reused := fun r hr k hk => h.reused r hr k ((hsame k _).mp hk) }

/-! ## Clients -/

theorem Inv.connect (h : Inv s) (hnew : client ∉ s.connected) :
    Inv { s with backlog := s.backlog ++ [client], connected := s.connected ++ [client] } :=
  { h with
    order := by rw [← List.append_assoc, h.order]
    nodup := by
      have hnodup := (List.nodup_concat _ _).mpr ⟨hnew, h.nodup⟩
      rwa [List.concat_eq_append] at hnodup }

theorem Inv.write (h : Inv s) (hopen : s.hungUp client = false) (bytes : List UInt8) :
    Inv { s with
      unread := Function.update s.unread client (s.unread client ++ bytes)
      written := Function.update s.written client (s.written client ++ bytes) } :=
  { h with
    bytes := fun k => by
      by_cases hk : k = client
      · subst hk
        simp only [Function.update_self]
        rw [← h.bytes k, List.append_assoc]
        rfl
      · simp only [Function.update_of_ne hk]
        exact h.bytes k
    closed := fun k hk => by
      obtain ⟨hk, hhungUp, hunread⟩ := h.closed k hk
      have hne : k ≠ client := by
        rintro rfl
        rw [hopen] at hhungUp
        cases hhungUp
      simp only [Function.update_of_ne hne]
      exact ⟨hk, hhungUp, hunread⟩ }

theorem Inv.hangUp (h : Inv s) :
    Inv { s with hungUp := Function.update s.hungUp client true } :=
  { h with
    closed := fun k hk => by
      obtain ⟨hk, hhungUp, hunread⟩ := h.closed k hk
      refine ⟨hk, ?_, hunread⟩
      by_cases hne : k = client
      · subst hne
        exact Function.update_self ..
      · simp only [Function.update_of_ne hne]
        exact hhungUp }

/-- Nobody was read before he is accepted. -/
theorem Inv.not_mem_accepted (h : Inv s) {backlog : List κ} (hb : s.backlog = client :: backlog) :
    client ∉ s.accepted := by
  have hnodup := h.nodup
  rw [← h.order, hb] at hnodup
  exact fun hmem => (List.nodup_append.mp hnodup).2.2 client hmem client List.mem_cons_self rfl

omit [DecidableEq κ] in
theorem files_accept (client : κ) (backlog : List κ) (hfree : s.files descriptor = none) (k : κ)
    (d : Nat) :
    (s.accept descriptor client backlog).files d = some (.connection k) ↔
      d = descriptor ∧ k = client ∨ s.files d = some (.connection k) := by
  rw [accept]
  by_cases hd : d = descriptor
  · subst hd
    simp [hfree, eq_comm]
  · simp [hd]

theorem Inv.accept (h : Inv s) {backlog : List κ} (hb : s.backlog = client :: backlog)
    (hfree : s.files descriptor = none) : Inv (s.accept descriptor client backlog) := by
  have hnew := h.not_mem_accepted hb
  have hclosed : client ∉ s.closed := fun hk => hnew (h.closed client hk).1
  have hfiles := files_accept client backlog hfree
  have hnotOpen : ∀ d, s.files d ≠ some (.connection client) := fun d hd =>
    hnew ((h.hasOpen_iff client).mp ⟨d, hd⟩).1
  refine
    { h with
      order := by simp [ShellServer.accept, ← h.order, hb]
      hasOpen_iff := fun k => ?_
      injective := fun k d d' hd hd' => ?_
      closed := fun k hk => ?_
      requests := fun r hr => ⟨List.mem_append_left _ (h.requests r hr).1, fun hopen => ?_⟩
      reused := fun r hr k hk => ?_
      reading := fun d hd => (Option.some.inj hd).symm }
  · simp only [HasOpen, hfiles]
    constructor
    · rintro ⟨d, ⟨_, rfl⟩ | hd⟩
      · exact ⟨List.mem_append_right _ (List.mem_singleton_self _), hclosed⟩
      · obtain ⟨hmem, hopen⟩ := (h.hasOpen_iff k).mp ⟨d, hd⟩
        exact ⟨List.mem_append_left _ hmem, hopen⟩
    · rintro ⟨hmem, hopen⟩
      rcases List.mem_append.mp hmem with hmem | hmem
      · obtain ⟨d, hd⟩ := (h.hasOpen_iff k).mpr ⟨hmem, hopen⟩
        exact ⟨d, Or.inr hd⟩
      · exact ⟨descriptor, Or.inl ⟨rfl, List.mem_singleton.mp hmem⟩⟩
  · rcases (hfiles k d).mp hd with ⟨rfl, rfl⟩ | hold <;>
      rcases (hfiles _ d').mp hd' with ⟨rfl, hk⟩ | hold'
    · rfl
    · exact absurd hold' (hnotOpen d')
    · exact absurd (hk ▸ hold) (hnotOpen d)
    · exact h.injective k d d' hold hold'
  · obtain ⟨hmem, hrest⟩ := h.closed k hk
    exact ⟨List.mem_append_left _ hmem, hrest⟩
  · exact (hfiles _ _).mpr (Or.inr ((h.requests r hr).2 hopen))
  · rcases (hfiles k _).mp hk with ⟨_, rfl⟩ | hk
    · -- the number of an earlier client is given to this one
      refine Or.inr ?_
      have hsender := List.singleton_sublist.mpr (h.requests r hr).1
      exact hsender.append (List.Sublist.refl [k])
    · exact (h.reused r hr k hk).imp_right fun hsub => hsub.trans (List.sublist_append_left _ _)

theorem messagesOf_deliver (s : ShellServer κ) (r : Received UInt8) (k : κ) :
    (s.deliver descriptor client r).messagesOf k =
      s.messagesOf k ++ if client = k then r.bytes else [] := by
  rw [messagesOf, deliver, List.filter_append, List.flatMap_append]
  refine congrArg _ ?_
  by_cases hk : client = k <;> simp [hk]

/-- **What was read is handed out.** -/
theorem Inv.deliver (h : Inv s) (hopen : s.files descriptor = some (.connection client))
    {r : Received UInt8} (hr : r.bytes ++ r.rest = s.unread client) :
    Inv (s.deliver descriptor client r) := by
  obtain ⟨hmem, hclosed⟩ := (h.hasOpen_iff client).mp ⟨descriptor, hopen⟩
  refine
    { h with
      bytes := fun k => ?_
      closed := fun k hk => ?_
      requests := fun x hx => ?_
      reused := fun x hx k hk => ?_
      reading := fun d hd => by cases hd }
  · rw [messagesOf_deliver]
    by_cases hk : client = k
    · subst hk
      simp only [ShellServer.deliver, if_true, Function.update_self]
      rw [List.append_assoc, hr, h.bytes]
    · simp only [ShellServer.deliver, if_neg hk, List.append_nil,
        Function.update_of_ne (Ne.symm hk)]
      exact h.bytes k
  · have hne : k ≠ client := by
      rintro rfl
      exact hclosed hk
    simp only [ShellServer.deliver, Function.update_of_ne hne]
    exact h.closed k hk
  · rcases List.mem_append.mp hx with hx | hx
    · exact h.requests x hx
    · obtain rfl := List.mem_singleton.mp hx
      exact ⟨hmem, fun _ => hopen⟩
  · rcases List.mem_append.mp hx with hx | hx
    · exact h.reused x hx k hk
    · obtain rfl := List.mem_singleton.mp hx
      exact Or.inl (OpenFile.connection.inj (Option.some.inj (hk.symm.trans hopen)))

theorem Inv.files_dropClient (h : Inv s)
    (hopen : s.files s.clientSocketDscr = some (.connection client)) (k : κ) (d : Nat) :
    (s.dropClient client).files d = some (.connection k) ↔
      s.files d = some (.connection k) ∧ k ≠ client := by
  rw [ShellServer.dropClient]
  by_cases hd : d = s.clientSocketDscr
  · subst hd
    simp [hopen, eq_comm]
  · simp only [Function.update_of_ne hd]
    refine (and_iff_left_of_imp fun hk => ?_).symm
    rintro rfl
    exact hd (h.injective k _ _ hk hopen)

/-- **A client that was read to its end is dropped.** -/
theorem Inv.dropClient (h : Inv s) (hopen : s.files s.clientSocketDscr = some (.connection client))
    (hhungUp : s.hungUp client = true) (hunread : s.unread client = []) :
    Inv (s.dropClient client) := by
  obtain ⟨hmem, hclosed⟩ := (h.hasOpen_iff client).mp ⟨_, hopen⟩
  have hfiles := h.files_dropClient hopen
  have hmemClosed : ∀ k, k ∉ (s.dropClient client).closed ↔ k ∉ s.closed ∧ k ≠ client := by
    intro k
    simp [ShellServer.dropClient]
  refine
    { h with
      hasOpen_iff := fun k => ?_
      injective := fun k d d' hd hd' =>
        h.injective k d d' ((hfiles k d).mp hd).1 ((hfiles k d').mp hd').1
      closed := fun k hk => ?_
      requests := fun r hr => ⟨(h.requests r hr).1, fun hr' => ?_⟩
      reused := fun r hr k hk => h.reused r hr k ((hfiles k _).mp hk).1
      reading := fun d hd => by cases hd }
  · rw [hmemClosed]
    simp only [HasOpen, hfiles, exists_and_right]
    rw [show (∃ d, s.files d = some (.connection k)) ↔ _ from h.hasOpen_iff k, and_assoc]
    rfl
  · rcases List.mem_append.mp hk with hk | hk
    · exact h.closed k hk
    · obtain rfl := List.mem_singleton.mp hk
      exact ⟨hmem, hhungUp, hunread⟩
  · obtain ⟨hr', hne⟩ := (hmemClosed _).mp hr'
    exact (hfiles _ _).mpr ⟨(h.requests r hr).2 hr', hne⟩

/-! ## Runs -/

/-- What a step of the server reads. -/
theorem read_eq_some {answer : RecvAnswer} (hs : s.step (.read answer) = some s') :
    ∃ d client r, s.readDescriptor = some d ∧ s.files d = some (.connection client) ∧
      recvEnding (s.ending client) (s.unread client) bytesCountReadFromSocket answer = some r ∧
      s' = s.read d client r := by
  simp only [ShellServer.step] at hs
  split at hs
  · cases hs
  · next d hd =>
    split at hs
    · next client hclient =>
      obtain ⟨r, hr, rfl⟩ := Option.map_eq_some_iff.mp hs
      exact ⟨d, client, r, hd, hclient, hr, rfl⟩
    · cases hs
    · cases hs

/-- The client is dropped only when the answer is 0. -/
theorem read_cases {client : κ} {answer : RecvAnswer} {r : Received UInt8}
    (hr : recvEnding (s.ending client) (s.unread client) bytesCountReadFromSocket answer =
      some r) :
    s.read d client r = s.deliver d client r ∨ s.read d client r = { s with reading := none } ∨
      s.hungUp client = true ∧ s.unread client = [] ∧ s.read d client r = s.dropClient client := by
  match answer with
  | .failed =>
    cases hr
    exact Or.inr (Or.inl rfl)
  | .bytes 0 =>
    rw [recvEnding] at hr
    split at hr
    · next hend =>
      obtain ⟨hunread, hending⟩ := hend.resolve_left (by decide)
      cases hr
      refine Or.inr (Or.inr ⟨?_, hunread, rfl⟩)
      rw [ending] at hending
      split at hending
      · next hhungUp => exact hhungUp
      · cases hending
    · cases hr
  | .bytes (count + 1) =>
    obtain ⟨_, rfl⟩ := recv_bytes_eq_some.mp hr
    refine Or.inl (if_pos ?_)
    simp only
    omega

theorem Inv.readDescriptor (h : Inv s) (hd : s.readDescriptor = some d) :
    d = s.clientSocketDscr := by
  rw [ShellServer.readDescriptor] at hd
  split at hd
  · next x hx => exact Option.some.inj hd ▸ h.reading x hx
  · split at hd
    · cases hd
    · exact (Option.some.inj hd).symm

theorem Inv.step {a : ServerAction κ} (h : Inv s) (hs : s.step a = some s') : Inv s' := by
  cases a with
  | connect client =>
    obtain ⟨hnew, hs⟩ := Option.ite_none_left_eq_some.mp hs
    exact Option.some.inj hs ▸ h.connect hnew
  | write client bytes =>
    obtain ⟨⟨_, hopen⟩, hs⟩ := Option.ite_none_right_eq_some.mp hs
    exact Option.some.inj hs ▸ h.write hopen bytes
  | hangUp client => exact Option.some.inj hs ▸ h.hangUp
  | openFile d =>
    obtain ⟨hfree, hs⟩ := Option.ite_none_right_eq_some.mp hs
    exact Option.some.inj hs ▸ h.setFile (fun k => by simp [hfree]) fun k => by simp
  | closeFile d =>
    obtain ⟨hother, hs⟩ := Option.ite_none_right_eq_some.mp hs
    exact Option.some.inj hs ▸ h.setFile (fun k => by simp [hother]) fun k => by simp
  | accept d =>
    simp only [ShellServer.step] at hs
    split at hs
    · next client backlog hb =>
      obtain ⟨⟨_, _, hfree⟩, hs⟩ := Option.ite_none_right_eq_some.mp hs
      exact Option.some.inj hs ▸ h.accept hb hfree
    · cases hs
  | read answer =>
    obtain ⟨d, client, r, hd, hclient, hr, rfl⟩ := read_eq_some hs
    rcases read_cases (d := d) hr with heq | heq | ⟨hhungUp, hunread, heq⟩
    · exact heq ▸ h.deliver hclient (recvEnding_eq_some hr).2.1
    · exact heq ▸ { h with reading := fun d hd => by cases hd }
    · exact heq ▸ h.dropClient (h.readDescriptor hd ▸ hclient) hhungUp hunread
  | setOutcomingMessage r msg sent =>
    obtain ⟨_, hs⟩ := Option.ite_none_right_eq_some.mp hs
    exact Option.some.inj hs ▸ { h with }

theorem inv_always (occupied : Nat → Bool) (as : List (ServerAction κ)) :
    AlwaysState step Inv (start occupied) as :=
  alwaysState_of_alwaysStep (C := fun _ _ => True) Inv (fun _ _ _ h _ hs => h.step hs) as _
    (inv_start occupied) alwaysStep_trivial

/--
**No byte is lost, doubled or moved.**

The messages that the observers got from a client are, one after the other, what it wrote, up to
what is not read yet. A client is dropped only after its last byte.
-/
theorem read_all_written (occupied : Nat → Bool) (as : List (ServerAction κ)) :
    AlwaysState step (fun s => ∀ k, s.messagesOf k ++ s.unread k = s.written k ∧
      (k ∈ s.closed → s.hungUp k = true ∧ s.messagesOf k = s.written k)) (start occupied) as := by
  refine (inv_always occupied as).mono fun s h k => ⟨h.bytes k, fun hk => ?_⟩
  obtain ⟨_, hhungUp, hunread⟩ := h.closed k hk
  refine ⟨hhungUp, ?_⟩
  rw [← h.bytes k, hunread, List.append_nil]

/-! ## One client after the other -/

/-- The requests of the clients, in the order of the clients. -/
def Grouped (s : ShellServer κ) : Prop :=
  s.requests = s.accepted.flatMap fun k => s.requests.filter fun r => r.sender = k

/-- The client that the server has is the one it accepted last. -/
structure Exclusive (s : ShellServer κ) : Prop where
  last : ∀ k, s.HasOpen k → s.accepted.getLast? = some k ∧ s.clientSocketDscr ≠ 0
  grouped : s.Grouped

theorem Grouped.accept (h : s.Grouped) (hinv : Inv s) {backlog : List κ}
    (hb : s.backlog = client :: backlog) : (s.accept descriptor client backlog).Grouped := by
  have hnone : s.requests.filter (fun r => r.sender = client) = [] := by
    rw [List.filter_eq_nil_iff]
    intro r hr hsender
    exact hinv.not_mem_accepted hb (of_decide_eq_true hsender ▸ (hinv.requests r hr).1)
  rw [Grouped, ShellServer.accept, List.flatMap_append, List.flatMap_singleton, hnone,
    List.append_nil]
  exact h

/-- A message of the last client stays behind those of the others. -/
theorem Grouped.deliver (h : s.Grouped) (hinv : Inv s)
    (hlast : s.accepted.getLast? = some client) (r : Received UInt8) :
    (s.deliver descriptor client r).Grouped := by
  obtain ⟨others, hothers⟩ := List.getLast?_eq_some_iff.mp hlast
  have hnotMem : client ∉ others := by
    have hnodup := hinv.nodup
    rw [← hinv.order, hothers] at hnodup
    have hnodup := (List.nodup_append.mp hnodup).1
    exact fun hmem => (List.nodup_append.mp hnodup).2.2 client hmem client (by simp) rfl
  rw [Grouped, hothers, List.flatMap_append, List.flatMap_singleton] at h
  rw [Grouped]
  simp only [ShellServer.deliver, hothers, List.flatMap_append, List.flatMap_singleton,
    List.filter_append]
  have hsame : ∀ k ∈ others, s.requests.filter (fun r => r.sender = k) ++
      [(⟨descriptor, r.bytes, client⟩ : ServedRequest κ)].filter (fun r => r.sender = k) =
        s.requests.filter fun r => r.sender = k := by
    intro k hk
    have hne : client ≠ k := by
      rintro rfl
      exact hnotMem hk
    simp [hne]
  rw [List.flatMap_congr hsame, ← List.append_assoc, ← h]
  simp

/-- What is still open was open before. -/
theorem Exclusive.of_imp {s' : ShellServer κ} (h : Exclusive s)
    (hopen : ∀ k, s'.HasOpen k → s.HasOpen k) (haccepted : s'.accepted = s.accepted)
    (hdescriptor : s'.clientSocketDscr = s.clientSocketDscr) (hgrouped : s'.Grouped) :
    Exclusive s' :=
  ⟨fun k hk => by rw [haccepted, hdescriptor]; exact h.last k (hopen k hk), hgrouped⟩

theorem Exclusive.accept (h : Exclusive s) (hinv : Inv s) {backlog : List κ}
    (hb : s.backlog = client :: backlog) (hfree : s.files descriptor = none)
    (hnone : s.clientSocketDscr = 0) (hd : descriptor ≠ 0) :
    Exclusive (s.accept descriptor client backlog) := by
  refine ⟨fun k hk => ⟨?_, hd⟩, h.grouped.accept hinv hb⟩
  obtain ⟨d, hk⟩ := hk
  rcases (files_accept client backlog hfree k d).mp hk with ⟨_, rfl⟩ | hk
  · exact List.getLast?_concat
  · exact absurd hnone (h.last k ⟨d, hk⟩).2

/-- After the only client was dropped none is open. -/
theorem Exclusive.dropClient (h : Exclusive s) (hinv : Inv s)
    (hopen : s.files s.clientSocketDscr = some (.connection client)) :
    Exclusive (s.dropClient client) := by
  refine ⟨fun k hk => ?_, h.grouped⟩
  obtain ⟨d, hk⟩ := hk
  obtain ⟨hk, hne⟩ := (hinv.files_dropClient hopen k d).mp hk
  have hlast := (h.last k ⟨d, hk⟩).1.symm.trans (h.last client ⟨_, hopen⟩).1
  exact absurd (Option.some.inj hlast) hne

theorem Exclusive.step {a : ServerAction κ} (h : Exclusive s) (hinv : Inv s)
    (ha : a ≠ .accept 0) (hs : s.step a = some s') : Exclusive s' := by
  cases a with
  | connect client =>
    obtain ⟨_, hs⟩ := Option.ite_none_left_eq_some.mp hs
    exact Option.some.inj hs ▸ ⟨h.last, h.grouped⟩
  | write client bytes =>
    obtain ⟨_, hs⟩ := Option.ite_none_right_eq_some.mp hs
    exact Option.some.inj hs ▸ ⟨h.last, h.grouped⟩
  | hangUp client => exact Option.some.inj hs ▸ ⟨h.last, h.grouped⟩
  | openFile d =>
    obtain ⟨hfree, hs⟩ := Option.ite_none_right_eq_some.mp hs
    refine Option.some.inj hs ▸ h.of_imp (fun k => ?_) rfl rfl h.grouped
    exact (exists_congr (update_connection (by simp [hfree]) (by simp) k)).mp
  | closeFile d =>
    obtain ⟨hother, hs⟩ := Option.ite_none_right_eq_some.mp hs
    refine Option.some.inj hs ▸ h.of_imp (fun k => ?_) rfl rfl h.grouped
    exact (exists_congr (update_connection (by simp [hother]) (by simp) k)).mp
  | accept d =>
    simp only [ShellServer.step] at hs
    split at hs
    · next client backlog hb =>
      obtain ⟨⟨_, hnone, hfree⟩, hs⟩ := Option.ite_none_right_eq_some.mp hs
      exact Option.some.inj hs ▸ h.accept hinv hb hfree hnone fun hd => ha (congrArg _ hd)
    · cases hs
  | read answer =>
    obtain ⟨d, client, r, hd, hclient, hr, rfl⟩ := read_eq_some hs
    rcases read_cases (d := d) hr with heq | heq | ⟨_, _, heq⟩
    · rw [heq]
      exact ⟨h.last, h.grouped.deliver hinv (h.last client ⟨d, hclient⟩).1 r⟩
    · rw [heq]
      exact ⟨h.last, h.grouped⟩
    · rw [heq]
      exact h.dropClient hinv (hinv.readDescriptor hd ▸ hclient)
  | setOutcomingMessage r msg sent =>
    obtain ⟨_, hs⟩ := Option.ite_none_right_eq_some.mp hs
    exact Option.some.inj hs ▸ ⟨h.last, h.grouped⟩

/-- The clients have one descriptor, in the order they connected, and each but the last was read to
its end before the next one came. -/
structure ServedInOrder (s : ShellServer κ) : Prop where
  order : s.accepted ++ s.backlog = s.connected
  last : ∀ k, s.HasOpen k → s.accepted.getLast? = some k
  complete : ∀ k ∈ s.accepted, s.accepted.getLast? ≠ some k →
    s.hungUp k = true ∧ s.messagesOf k = s.written k
  grouped : s.requests = s.accepted.flatMap fun k => s.requests.filter fun r => r.sender = k

theorem Exclusive.servedInOrder (h : Exclusive s) (hinv : Inv s) : ServedInOrder s where
  order := hinv.order
  last k hk := (h.last k hk).1
  complete k hk hne := by
    have hclosed : k ∈ s.closed := by
      by_contra hopen
      exact hne (h.last k ((hinv.hasOpen_iff k).mpr ⟨hk, hopen⟩)).1
    obtain ⟨_, hhungUp, hunread⟩ := hinv.closed k hclosed
    refine ⟨hhungUp, ?_⟩
    rw [← hinv.bytes k, hunread, List.append_nil]
  grouped := h.grouped

/--
**One client after the other.**

`m_clientSocketDscr` is 0 when there is no client, so a client that gets the descriptor 0 is
forgotten. In every run in which 0 is in use at each `accept`, the server has one client at a time,
in the order they connected, and gets all that a client writes before it turns to the next one.
-/
theorem clients_served_in_order (occupied : Nat → Bool) (as : List (ServerAction κ))
    (h : AlwaysStep step (fun _ a => a ≠ .accept 0) (start occupied) as) :
    AlwaysState step ServedInOrder (start occupied) as := by
  refine (alwaysState_of_alwaysStep (fun s : ShellServer κ => Inv s ∧ Exclusive s) ?_ as
    (start occupied) ⟨inv_start occupied, ?_⟩ h).mono fun s hs => hs.2.servedInOrder hs.1
  · intro s a s' hs ha hstep
    exact ⟨hs.1.step hstep, hs.2.step hs.1 ha hstep⟩
  · exact ⟨fun k hk => absurd hk.choose_spec (files_start_ne occupied _ k), rfl⟩

/-- Two clients that get the same descriptor, in a process with the three standard files. -/
def twoClients : List (ServerAction Bool) :=
  [.connect true, .connect false, .write true [1, 2, 3], .accept 3, .read (.bytes 2),
    .read (.bytes 1), .hangUp true, .read (.bytes 0), .accept 3, .write false [4],
    .read (.bytes 1)]

theorem twoClients_servedInOrder :
    AlwaysState step ServedInOrder (start fun d => d < 3) twoClients ∧
      (runAll step (start fun d => d < 3) twoClients).map (fun s => s.requests) =
        some [⟨3, [1, 2], true⟩, ⟨3, [3], true⟩, ⟨3, [4], false⟩] :=
  ⟨clients_served_in_order _ twoClients (by decide), by decide⟩

/-! ## Replies -/

/-- Every reply was handed to the client that wrote the request. -/
def AllReachSender (s : ShellServer κ) : Prop :=
  ∀ x ∈ s.replies, x.recipient = some (.connection x.request.sender)

/-- A reply that was handed to another client. -/
def StrayReplies (s : ShellServer κ) : Prop :=
  ∀ x ∈ s.replies, ∀ k, x.recipient = some (.connection k) → k ≠ x.request.sender →
    s.hungUp x.request.sender = true ∧ [x.request.sender, k].Sublist s.accepted

/-- What a step does to the replies. -/
theorem step_cases {a : ServerAction κ} (hs : s.step a = some s') :
    (∃ r msg sent, a = .setOutcomingMessage r msg sent ∧ r ∈ s.requests ∧
      s' = s.setOutcomingMessage r msg sent) ∨
    (∀ r msg sent, a ≠ .setOutcomingMessage r msg sent) ∧ s'.replies = s.replies ∧
      (∀ k, s.hungUp k = true → s'.hungUp k = true) ∧ s.accepted.Sublist s'.accepted := by
  cases a with
  | connect client =>
    obtain ⟨_, hs⟩ := Option.ite_none_left_eq_some.mp hs
    exact Option.some.inj hs ▸ Or.inr ⟨nofun, rfl, fun _ => id, List.Sublist.refl _⟩
  | write client bytes =>
    obtain ⟨_, hs⟩ := Option.ite_none_right_eq_some.mp hs
    exact Option.some.inj hs ▸ Or.inr ⟨nofun, rfl, fun _ => id, List.Sublist.refl _⟩
  | hangUp client =>
    refine Option.some.inj hs ▸ Or.inr ⟨nofun, rfl, fun k hk => ?_, List.Sublist.refl _⟩
    by_cases hne : k = client
    · subst hne
      exact Function.update_self ..
    · simpa only [Function.update_of_ne hne] using hk
  | openFile d =>
    obtain ⟨_, hs⟩ := Option.ite_none_right_eq_some.mp hs
    exact Option.some.inj hs ▸ Or.inr ⟨nofun, rfl, fun _ => id, List.Sublist.refl _⟩
  | closeFile d =>
    obtain ⟨_, hs⟩ := Option.ite_none_right_eq_some.mp hs
    exact Option.some.inj hs ▸ Or.inr ⟨nofun, rfl, fun _ => id, List.Sublist.refl _⟩
  | accept d =>
    simp only [ShellServer.step] at hs
    split at hs
    · obtain ⟨_, hs⟩ := Option.ite_none_right_eq_some.mp hs
      exact Option.some.inj hs ▸ Or.inr ⟨nofun, rfl, fun _ => id, List.sublist_append_left _ _⟩
    · cases hs
  | read answer =>
    obtain ⟨d, client, r, _, _, hr, rfl⟩ := read_eq_some hs
    refine Or.inr ⟨nofun, ?_⟩
    rcases read_cases (d := d) hr with heq | heq | ⟨_, _, heq⟩ <;> rw [heq] <;>
      exact ⟨rfl, fun _ => id, List.Sublist.refl _⟩
  | setOutcomingMessage r msg sent =>
    obtain ⟨⟨hr, _⟩, hs⟩ := Option.ite_none_right_eq_some.mp hs
    exact Or.inl ⟨r, msg, sent, rfl, hr, (Option.some.inj hs).symm⟩

omit [DecidableEq κ] in
/-- What a reply is handed to. -/
theorem recipient_setOutcomingMessage (s : ShellServer κ) (r : ServedRequest κ) (msg : List UInt8)
    (sent : Option Nat) :
    ∃ x, (s.setOutcomingMessage r msg sent).replies = s.replies ++ [x] ∧ x.request = r ∧
      x.recipient = sent.bind fun _ => s.writable r.clientSocketDscr := by
  refine ⟨_, rfl, ?_⟩
  cases sent with
  | none => exact ⟨rfl, rfl⟩
  | some count =>
    rw [Option.bind_some]
    cases hfile : s.writable r.clientSocketDscr <;> exact ⟨rfl, rfl⟩

omit [DecidableEq κ] in
theorem writable_eq_some_connection : s.writable d = some (.connection k) ↔
    s.files d = some (.connection k) ∧ s.hungUp k = false := by
  unfold writable
  constructor
  · intro h
    split at h
    · next client hfile =>
      split at h
      · cases h
      · next hopen =>
        cases h
        exact ⟨hfile, by simpa using hopen⟩
    · cases h
    · cases h
  · rintro ⟨hfile, hopen⟩
    rw [hfile]
    exact if_neg (by simp [hopen])

/-- The descriptor of a request is the one of its client as long as the client has not hung up. -/
theorem Inv.writable_iff (h : Inv s) {r : ServedRequest κ} (hr : r ∈ s.requests) :
    s.writable r.clientSocketDscr = some (.connection r.sender) ↔ s.hungUp r.sender = false := by
  rw [writable_eq_some_connection]
  refine ⟨And.right, fun hopen => ⟨(h.requests r hr).2 fun hclosed => ?_, hopen⟩⟩
  rw [(h.closed _ hclosed).2.1] at hopen
  cases hopen

theorem StrayReplies.step {a : ServerAction κ} (h : StrayReplies s) (hinv : Inv s)
    (hs : s.step a = some s') : StrayReplies s' := by
  rcases step_cases hs with ⟨r, msg, sent, _, hr, rfl⟩ | ⟨_, hreplies, hhungUp, haccepted⟩
  · obtain ⟨y, hreplies, rfl, hrecipient⟩ := recipient_setOutcomingMessage s r msg sent
    intro x hx k hk hne
    rcases List.mem_append.mp (hreplies ▸ hx) with hx | hx
    · exact h x hx k hk hne
    · obtain rfl := List.mem_singleton.mp hx
      obtain ⟨_, _, hwritable⟩ := Option.bind_eq_some_iff.mp (hrecipient.symm.trans hk)
      have hfile := (writable_eq_some_connection.mp hwritable).1
      have hclosed : x.request.sender ∈ s.closed := by
        by_contra hopen
        rw [(hinv.requests _ hr).2 hopen] at hfile
        exact hne (OpenFile.connection.inj (Option.some.inj hfile)).symm
      exact ⟨(hinv.closed _ hclosed).2.1, (hinv.reused _ hr k hfile).resolve_left hne⟩
  · intro x hx k hk hne
    obtain ⟨hsender, horder⟩ := h x (hreplies ▸ hx) k hk hne
    exact ⟨hhungUp _ hsender, horder.trans haccepted⟩

/--
**Who gets a reply.**

All replies of a run are handed to the clients that asked exactly when each of them is given before
its client hangs up and no `send` fails. A reply that is handed to another client goes to one
that came later.
-/
theorem replies_reach_sender_iff (occupied : Nat → Bool) (as : List (ServerAction κ)) :
    (AlwaysState step AllReachSender (start occupied) as ↔
      AlwaysStep step (fun s a => ∀ r msg sent, a = .setOutcomingMessage r msg sent →
        s.hungUp r.sender = false ∧ sent ≠ none) (start occupied) as) ∧
    AlwaysState step StrayReplies (start occupied) as := by
  constructor
  · refine alwaysState_iff_of_inv step (fun s => Inv s ∧ AllReachSender s) (fun s => And.right)
      ?_ ?_ as _ ⟨inv_start occupied, fun x hx => absurd hx List.not_mem_nil⟩
    · rintro s a s' ⟨hinv, h⟩ hopen hs
      refine ⟨hinv.step hs, ?_⟩
      rcases step_cases hs with ⟨r, msg, sent, rfl, hr, rfl⟩ | ⟨_, hreplies, _⟩
      · obtain ⟨y, hreplies, rfl, hrecipient⟩ := recipient_setOutcomingMessage s r msg sent
        obtain ⟨hhungUp, hsent⟩ := hopen _ msg sent rfl
        obtain ⟨count, rfl⟩ := Option.ne_none_iff_exists'.mp hsent
        intro x hx
        rcases List.mem_append.mp (hreplies ▸ hx) with hx | hx
        · exact h x hx
        · obtain rfl := List.mem_singleton.mp hx
          exact hrecipient.trans ((hinv.writable_iff hr).mpr hhungUp)
      · exact fun x hx => h x (hreplies ▸ hx)
    · rintro s a s' ⟨hinv, _⟩ hs h r msg sent rfl
      rcases step_cases hs with ⟨r', msg', sent', heq, hr, rfl⟩ | ⟨hne, _⟩
      · cases heq
        obtain ⟨y, hreplies, rfl, hrecipient⟩ := recipient_setOutcomingMessage s r msg sent
        have hreached := h y (hreplies ▸ List.mem_append_right _ (List.mem_singleton_self _))
        obtain ⟨count, rfl, hwritable⟩ :=
          Option.bind_eq_some_iff.mp (hrecipient.symm.trans hreached)
        exact ⟨(hinv.writable_iff hr).mp hwritable, nofun⟩
      · exact absurd rfl (hne r msg sent)
  · refine (alwaysState_of_alwaysStep (C := fun _ _ => True)
      (fun s : ShellServer κ => Inv s ∧ StrayReplies s) ?_ as _
      ⟨inv_start occupied, fun x hx => absurd hx List.not_mem_nil⟩ alwaysStep_trivial).mono
      fun s => And.right
    exact fun s a s' hs _ hstep => ⟨hs.1.step hstep, hs.2.step hs.1 hstep⟩

end ShellServer

end MicroserviceCommon

import MicroserviceCommon.Communication.Shell
import MicroserviceCommon.Infra.Run

/-!
# Messages of `sendWithSize` are received when no answer cuts them

Both receivers take one `recv` for a whole size and one for a whole payload. A network that
answers with less puts them out of step with the stream, and the asynchronous one also loses
its place when a `select` runs out between the size and the payload.

* `receiveWithSize_returns_iff` — the calls return the messages and leave no byte behind exactly
  when every answer is whole
* `threadAsyncClientModeRequestsWithSize_inStep_iff` — the thread stays in step with the stream
  exactly when every turn is whole, and then the observers get the messages
-/

namespace MicroserviceCommon

open Infra

namespace Shell

/-! ## Sizes -/

@[simp] theorem length_intBytes (v : Int32) : (intBytes v).length = 4 := length_leBytes 4 _

theorem intOfBytes_intBytes (v : Int32) : intOfBytes (intBytes v) = v := by
  have hlt : v.toUInt32.toNat < 256 ^ 4 := v.toUInt32.toNat_lt
  rw [intOfBytes, intBytes, leValue_leBytes hlt, UInt32.ofNat_toNat, Int32.toInt32_toUInt32]

@[simp] theorem length_sendWithSize (msg : List UInt8) :
    (sendWithSize msg).length = 4 + msg.length := by
  rw [sendWithSize, List.length_append, length_intBytes]

theorem sendWithSize_ne_nil (msg : List UInt8) : sendWithSize msg ≠ [] := by
  intro h
  have hlen := length_sendWithSize msg
  rw [h, List.length_nil] at hlen
  omega

theorem length_flatMap_sendWithSize (msgs : List (List UInt8)) :
    (msgs.flatMap sendWithSize).length = 4 * msgs.length + msgs.flatten.length := by
  induction msgs with
  | nil => rfl
  | cons msg msgs ih =>
    rw [List.flatMap_cons, List.length_append, ih, length_sendWithSize, List.flatten_cons,
      List.length_append, List.length_cons]
    omega

/-- A size that is not larger than it was sent fits an `int`. -/
theorem lt_of_le_toInt_ofNat {n : Nat} (h : (n : Int) ≤ (Int32.ofNat n).toInt) : n < 2 ^ 31 := by
  have hlt := (Int32.ofNat n).toInt_lt
  omega

/-- A size that comes in one piece. -/
theorem recv_sendWithSize (msg rest : List UInt8) :
    recv (sendWithSize msg ++ rest) 4 (.bytes 4) = some
      { count := 4, bytes := intBytes (Int32.ofNat msg.length), rest := msg ++ rest } := by
  rw [sendWithSize, List.append_assoc]
  exact recv_append (intBytes (Int32.ofNat msg.length)) (msg ++ rest)

/-! ## Synchronous calls -/

/-- The answers that bring this message in one piece. -/
def ReceiveAnswers.Whole (msg : List UInt8) (answers : ReceiveAnswers) : Prop :=
  msg.length < 2 ^ 31 ∧ answers = { size := .bytes 4, payload := .bytes msg.length }

/-- What is read for the size and the payload leaves the stream. -/
theorem receiveWithSize_eq_some {stream msg rest : List UInt8} {answers : ReceiveAnswers}
    (h : receiveWithSize stream answers = some (msg, rest)) :
    ∃ size : Received UInt8, recv stream 4 answers.size = some size ∧
      msg.length ≤ (intOfBytes size.bytes).toInt ∧ answers.payload = .bytes msg.length ∧
      msg ++ rest = size.rest := by
  obtain ⟨size, hsize, h⟩ := Option.bind_eq_some_iff.mp h
  refine ⟨size, hsize, ?_⟩
  dsimp only at h
  split at h
  · cases h
  · next hneg =>
    obtain ⟨payload, hpayload, h⟩ := Option.bind_eq_some_iff.mp h
    split at h
    · cases h
    · next hcount =>
      cases h
      cases hanswer : answers.payload with
      | failed =>
        rw [hanswer] at hpayload
        cases hpayload
        exact absurd (show (-1 : Int) < 0 by decide) hcount
      | bytes count =>
        rw [hanswer, recv_bytes_eq_some] at hpayload
        obtain ⟨⟨hle, hlen, _⟩, rfl⟩ := hpayload
        have htake : (List.take count size.rest).length = count := by
          rw [List.length_take]
          exact Nat.min_eq_left hlen
        refine ⟨?_, ?_, List.take_append_drop _ _⟩
        · rw [htake]
          omega
        · rw [htake]

theorem receiveWithSize_sendWithSize {msg : List UInt8} (rest : List UInt8)
    (h : msg.length < 2 ^ 31) :
    receiveWithSize (sendWithSize msg ++ rest)
      { size := .bytes 4, payload := .bytes msg.length } = some (msg, rest) := by
  have hint : (Int32.ofNat msg.length).toInt = msg.length := Int32.toInt_ofNat_of_lt h
  rw [receiveWithSize, recv_sendWithSize]
  simp only [Option.bind_some, intOfBytes_intBytes, hint, Int.toNat_natCast]
  rw [if_neg (by omega), recv_append, Option.bind_some]
  exact if_neg (by simp)

/-- A call takes at most four bytes beside what it returns. -/
theorem SyncClient.receive_eq_some {s s' : SyncClient} {answers : ReceiveAnswers}
    (h : s.receive answers = some s') :
    ∃ msg, s'.returned = s.returned ++ [msg] ∧
      receiveWithSize s.stream answers = some (msg, s'.stream) ∧
      s.stream.length ≤ 4 + msg.length + s'.stream.length := by
  obtain ⟨⟨msg, rest⟩, hr, rfl⟩ := Option.map_eq_some_iff.mp h
  refine ⟨msg, rfl, hr, ?_⟩
  obtain ⟨size, hsize, _, _, hrest⟩ := receiveWithSize_eq_some hr
  have hlen : s.stream.length ≤ 4 + size.rest.length := by
    cases hanswer : answers.size with
    | failed =>
      rw [hanswer] at hsize
      cases hsize
      exact Nat.le_add_left _ _
    | bytes count =>
      rw [hanswer, recv_bytes_eq_some] at hsize
      obtain ⟨⟨hle, _, _⟩, rfl⟩ := hsize
      rw [List.length_drop]
      omega
  rw [← hrest, List.length_append] at hlen
  show s.stream.length ≤ 4 + msg.length + rest.length
  omega

theorem SyncClient.runAll_receive {s s' : SyncClient} {answers : List ReceiveAnswers}
    (h : runAll SyncClient.receive s answers = some s') :
    ∃ msgs, s'.returned = s.returned ++ msgs ∧ msgs.length = answers.length ∧
      s.stream.length ≤ 4 * msgs.length + msgs.flatten.length + s'.stream.length := by
  induction answers generalizing s with
  | nil =>
    cases h
    exact ⟨[], (List.append_nil _).symm, rfl, by simp⟩
  | cons answer answers ih =>
    obtain ⟨s₁, h₁, h₂⟩ := Option.bind_eq_some_iff.mp h
    obtain ⟨msg, hreturned, _, hlen⟩ := receive_eq_some h₁
    obtain ⟨msgs, hreturned', hlength, hlen'⟩ := ih h₂
    refine ⟨msg :: msgs, ?_, ?_, ?_⟩
    · rw [hreturned', hreturned, List.append_assoc, List.singleton_append]
    · rw [List.length_cons, List.length_cons, hlength]
    · rw [List.length_cons, List.flatten_cons, List.length_append]
      omega

/-- A call that returns the message and leaves no more than what follows it got whole answers. -/
theorem ReceiveAnswers.whole_of_receive {s s' : SyncClient} {answers : ReceiveAnswers}
    {msg rest : List UInt8} (hs : s.stream = sendWithSize msg ++ rest)
    (h : s.receive answers = some s') (hreturned : s'.returned = s.returned ++ [msg])
    (hle : s'.stream.length ≤ rest.length) : answers.Whole msg ∧ s'.stream = rest := by
  obtain ⟨msg', hreturned', hr, _⟩ := SyncClient.receive_eq_some h
  rw [hreturned, List.append_cancel_left_eq, List.singleton_inj] at hreturned'
  subst hreturned'
  obtain ⟨size, hsize, hmax, hpayload, hrest⟩ := receiveWithSize_eq_some hr
  have hlen : s.stream.length = 4 + msg.length + rest.length := by
    rw [hs, List.length_append, length_sendWithSize]
  have hlen' := congrArg List.length hrest
  rw [List.length_append] at hlen'
  cases hanswer : answers.size with
  | failed =>
    rw [hanswer] at hsize
    cases hsize
    simp only at hlen'
    omega
  | bytes count =>
    rw [hanswer, recv_bytes_eq_some] at hsize
    obtain ⟨⟨hcount, _, _⟩, rfl⟩ := hsize
    rw [List.length_drop] at hlen'
    have hfour : count = 4 := by omega
    subst hfour
    simp only [hs, sendWithSize, List.append_assoc] at hmax hrest
    rw [List.take_left' (length_intBytes _), intOfBytes_intBytes] at hmax
    rw [List.drop_left' (length_intBytes _), List.append_cancel_left_eq] at hrest
    refine ⟨⟨lt_of_le_toInt_ofNat hmax, ?_⟩, hrest⟩
    cases answers
    rw [← hanswer, ← hpayload]

/--
**The calls return the messages and leave no byte behind exactly when every answer is whole.**

A call that gets less than the four bytes of a size leaves some of them for the next one,
and no later call can make up for that.
-/
theorem receiveWithSize_returns_iff (msgs : List (List UInt8)) (answers : List ReceiveAnswers) :
    runAll SyncClient.receive { stream := msgs.flatMap sendWithSize } answers =
        some { stream := [], returned := msgs } ↔
      List.Forall₂ ReceiveAnswers.Whole msgs answers := by
  suffices h : ∀ done : List (List UInt8),
      runAll SyncClient.receive { stream := msgs.flatMap sendWithSize, returned := done } answers =
        some { stream := [], returned := done ++ msgs } ↔
      List.Forall₂ ReceiveAnswers.Whole msgs answers from h []
  induction msgs generalizing answers with
  | nil =>
    intro done
    rw [List.forall₂_nil_left_iff, List.append_nil]
    constructor
    · intro h
      obtain ⟨msgs, hreturned, hlength, _⟩ := SyncClient.runAll_receive h
      rw [List.self_eq_append_right] at hreturned
      rw [hreturned] at hlength
      exact List.length_eq_zero_iff.mp hlength.symm
    · rintro rfl
      rfl
  | cons msg msgs ih =>
    intro done
    constructor
    · intro h
      cases answers with
      | nil =>
        have hreturned := congrArg (Option.map SyncClient.returned) h
        simp [runAll] at hreturned
      | cons answer answers =>
        obtain ⟨s₁, h₁, h₂⟩ := Option.bind_eq_some_iff.mp h
        obtain ⟨msg', hfirst, _, _⟩ := SyncClient.receive_eq_some h₁
        obtain ⟨msgs', hlater, _, hlen⟩ := SyncClient.runAll_receive h₂
        have hall : done ++ msg :: msgs = done ++ msg' :: msgs' := by
          rw [show done ++ msg :: msgs = s₁.returned ++ msgs' from hlater, hfirst]
          exact List.append_assoc _ _ _
        obtain ⟨rfl, rfl⟩ := List.cons.inj (List.append_cancel_left hall)
        -- the later calls can take no more than the later messages
        have hle : s₁.stream.length ≤ (msgs.flatMap sendWithSize).length := by
          rw [length_flatMap_sendWithSize]
          exact hlen
        obtain ⟨hwhole, hstream⟩ :=
          ReceiveAnswers.whole_of_receive List.flatMap_cons h₁ hfirst hle
        refine List.Forall₂.cons hwhole ((ih answers (done ++ [msg])).mp ?_)
        rw [List.append_assoc, List.singleton_append]
        rw [show s₁ = { stream := msgs.flatMap sendWithSize, returned := done ++ [msg] } from
          SyncClient.ext hstream hfirst] at h₂
        exact h₂
    · rintro (_ | ⟨⟨hlt, rfl⟩, hrest⟩)
      have h₂ := (ih _ (done ++ [msg])).mpr hrest
      rw [List.append_assoc, List.singleton_append] at h₂
      rw [runAll, SyncClient.receive, List.flatMap_cons, receiveWithSize_sendWithSize _ hlt]
      exact h₂

/-- A payload that arrives in two pieces: the call returns the first one. -/
theorem receiveWithSize_cuts :
    runAll SyncClient.receive { stream := [[1, 2, 3]].flatMap sendWithSize }
        [{ size := .bytes 4, payload := .bytes 2 }] =
      some { stream := [3], returned := [[1, 2]] } := by
  decide

/-! ## The loop that reads a payload -/

/-- `temp` is as long as the count. -/
theorem PayloadLoop.append_eq_some {l l' : PayloadLoop} {r : Received UInt8}
    (h : l.append r = some l') :
    0 ≤ l'.readedBytesCount ∧ l'.readedBytesCount = l.readedBytesCount + r.count ∧
      l'.fromServer.length = l.fromServer.length + l'.readedBytesCount.toNat ∧
      l'.stream = r.rest := by
  unfold append at h
  dsimp only at h
  split at h
  · cases h
  · next hneg =>
    cases h
    refine ⟨Int.not_lt.mp hneg, rfl, ?_, rfl⟩
    rw [List.length_append, Buffer.length_slice]

/-- No pass appends less than it takes from the stream. -/
theorem PayloadLoop.length_append {l l' : PayloadLoop} {len : Nat} {answer : RecvAnswer}
    {r : Received UInt8} (h : 0 ≤ l.readedBytesCount) (hr : recv l.stream len answer = some r)
    (hl : l.append r = some l') :
    l.stream.length + l.fromServer.length ≤ l'.stream.length + l'.fromServer.length := by
  obtain ⟨_, hcount, hlength, hstream⟩ := append_eq_some hl
  rw [hlength, hstream]
  cases answer with
  | failed =>
    cases hr
    exact Nat.add_le_add_left (Nat.le_add_right _ _) _
  | bytes count =>
    rw [recv_bytes_eq_some] at hr
    obtain ⟨⟨_, hle, _⟩, rfl⟩ := hr
    simp only at hcount
    rw [List.length_drop]
    omega

theorem readPayload_of_not_lt {size : Int} {answers : List RecvAnswer} {l : PayloadLoop}
    (h : ¬l.readedBytesCount < size) : readPayload size answers l = some (some l) := by
  cases answers with
  | nil => rw [readPayload, if_neg h]
  | cons _ _ => rw [readPayload, if_neg h]

/-- A payload that is read in one pass. -/
theorem readPayload_whole (msg rest : List UInt8) (answers : List RecvAnswer)
    (memory : Nat → UInt8)
    (h : msg = [] ∨ answers.head? = some (.bytes msg.length)) :
    ∃ l, readPayload msg.length answers
        { buf := Buffer.uninitialised msg.length memory, stream := msg ++ rest } = some (some l) ∧
      0 ≤ l.readedBytesCount ∧ l.fromServer = msg ∧ l.stream = rest := by
  by_cases hnil : msg = []
  · subst hnil
    exact ⟨_, readPayload_of_not_lt (by simp), le_refl _, rfl, rfl⟩
  · obtain ⟨answers', rfl⟩ := List.head?_eq_some_iff.mp (h.resolve_left hnil)
    have hpos : 0 < msg.length := List.length_pos_iff.mpr hnil
    have hslice := Buffer.slice_overwrite (b := Buffer.uninitialised msg.length memory) msg
    rw [readPayload, if_pos (by simpa using hpos), Buffer.size_uninitialised, recv_append]
    simp only [Option.bind_some, PayloadLoop.append, Int.zero_add, List.nil_append,
      Int.toNat_natCast]
    rw [if_neg (by omega), hslice]
    exact ⟨_, readPayload_of_not_lt (by simp), Int.natCast_nonneg _, rfl, rfl⟩

/-- The message that comes out is at least as long as what left the stream. When there was
something to read, the last pass alone appended a whole message. -/
theorem length_readPayload {size : Int} {answers : List RecvAnswer} {l l' : PayloadLoop}
    (hcount : 0 ≤ l.readedBytesCount) (h : readPayload size answers l = some (some l')) :
    l.stream.length + l.fromServer.length ≤ l'.stream.length + l'.fromServer.length ∧
      (l.readedBytesCount < size → l.fromServer.length + size.toNat ≤ l'.fromServer.length) := by
  induction answers generalizing l with
  | nil =>
    unfold readPayload at h
    split at h
    · cases h
    · next hge =>
      cases h
      exact ⟨Nat.le_refl _, fun hc => absurd hc hge⟩
  | cons answer answers ih =>
    unfold readPayload at h
    split at h
    · next hlt =>
      obtain ⟨r, hr, h⟩ := Option.bind_eq_some_iff.mp h
      split at h
      · cases h
      · next l₁ hl₁ =>
        obtain ⟨hpos, _, hlength, _⟩ := PayloadLoop.append_eq_some hl₁
        obtain ⟨htotal, hlast⟩ := ih hpos h
        refine ⟨(PayloadLoop.length_append hcount hr hl₁).trans htotal, fun _ => ?_⟩
        by_cases hmore : l₁.readedBytesCount < size
        · have := hlast hmore
          omega
        · -- this was the last pass
          rw [readPayload_of_not_lt hmore] at h
          cases h
          rw [hlength]
          omega
    · next hlt =>
      cases h
      exact ⟨Nat.le_refl _, fun hc => absurd hc hlt⟩

/-! ## The asynchronous thread -/

/-- The thread is alive, and the observers got the messages whose bytes have left the stream. -/
def ClientThread.InStep (msgs : List (List UInt8)) (s : ClientThread) : Prop :=
  s.status = .running ∧ AtBoundary sendWithSize msgs s.delivered s.stream

/-- The size that a whole read finds in the stream. -/
def ClientThread.nextSize (s : ClientThread) : Int := (intOfBytes (s.stream.take 4)).toInt

/-- Either nothing came, or one `recv` brought the size, the payload was there within the timeout,
and one `recv` brought all of it. -/
def Turn.Whole (s : ClientThread) (t : Turn) : Prop :=
  t.sizeSelect = .timeout ∨
    t.sizeSelect = .ready ∧ t.sizeRecv = .bytes 4 ∧ t.payloadSelect = .ready ∧
      (s.nextSize = 0 ∨ t.payloadRecvs.head? = some (.bytes s.nextSize.toNat))

instance (s : ClientThread) (t : Turn) : Decidable (t.Whole s) :=
  inferInstanceAs (Decidable (_ ∨ _ ∧ _ ∧ _ ∧ (_ ∨ _)))

section Turns

variable {msgs : List (List UInt8)} {s s' : ClientThread} {t : Turn}

theorem ClientThread.nextSize_of_stream {msg rest : List UInt8}
    (hs : s.stream = sendWithSize msg ++ rest) (hmsg : msg.length ≤ maxMessageSize) :
    s.nextSize = msg.length := by
  have hlt : msg.length < 2 ^ 31 := Nat.lt_of_le_of_lt hmsg (by decide)
  rw [nextSize, hs, sendWithSize, List.append_assoc, List.take_left' (length_intBytes _),
    intOfBytes_intBytes]
  exact Int32.toInt_ofNat_of_lt hlt

/-- A turn that reads a size and hands out nothing is out of step. -/
theorem ClientThread.not_inStep_of_read {size : Received UInt8}
    (h : s.InStep msgs) (hr : recv s.stream 4 t.sizeRecv = some size) (hcount : size.count ≠ -1) :
    ¬{ s with stream := size.rest }.InStep msgs := by
  rintro ⟨_, hafter⟩
  obtain ⟨_, rest, rfl, hs⟩ := h
  cases hanswer : t.sizeRecv with
  | failed =>
    rw [hanswer] at hr
    cases hr
    exact hcount rfl
  | bytes count =>
    rw [hanswer, recv_bytes_eq_some] at hr
    obtain ⟨⟨_, hle, hpos⟩, rfl⟩ := hr
    have hsame := congrArg List.length (atBoundary_same.mp hafter)
    rw [← hs, List.length_drop] at hsame
    omega

theorem ClientThread.receivePayload_whole {msg rest : List UInt8} (hs : s.stream = msg ++ rest)
    (h : msg = [] ∨ t.payloadRecvs.head? = some (.bytes msg.length)) :
    s.receivePayload t msg.length =
      some { s with stream := rest, delivered := s.delivered ++ [msg] } := by
  obtain ⟨l, hl, hcount, hfrom, hstream⟩ := readPayload_whole msg rest t.payloadRecvs t.memory h
  rw [receivePayload, if_neg (by omega), Int.toNat_natCast, hs, hl, Option.map_some]
  dsimp only
  rw [if_neg (by omega), hfrom, hstream]

/-- The thread survives a payload only when it hands out what the loop has put together. -/
theorem ClientThread.receivePayload_running {size : Int}
    (h : s.receivePayload t size = some s') (hrunning : s'.status = .running) :
    0 ≤ size ∧ ∃ l, readPayload size t.payloadRecvs
        { buf := Buffer.uninitialised size.toNat t.memory, stream := s.stream } = some (some l) ∧
      s' = { s with stream := l.stream, delivered := s.delivered ++ [l.fromServer] } := by
  unfold receivePayload at h
  split at h
  · cases h
    cases hrunning
  · next hneg =>
    refine ⟨Int.not_lt.mp hneg, ?_⟩
    obtain ⟨read, hread, rfl⟩ := Option.map_eq_some_iff.mp h
    cases read with
    | none => cases hrunning
    | some l =>
      refine ⟨l, hread, ?_⟩
      dsimp only at hrunning ⊢
      split at hrunning
      · cases hrunning
      · next hcount => rw [if_neg hcount]

/-- A payload of the right length came in one piece. -/
theorem whole_of_readPayload {n : Nat} {answers : List RecvAnswer} {stream : List UInt8}
    {memory : Nat → UInt8} {l : PayloadLoop}
    (h : readPayload n answers { buf := Buffer.uninitialised n memory, stream := stream } =
      some (some l)) (hlen : l.fromServer.length = n) :
    n = 0 ∨ answers.head? = some (.bytes n) := by
  by_cases hzero : n = 0
  · exact Or.inl hzero
  · right
    have hpos : (0 : Int) < n := by omega
    cases answers with
    | nil =>
      rw [readPayload, if_pos hpos] at h
      cases h
    | cons answer answers =>
      rw [readPayload, if_pos hpos, Buffer.size_uninitialised] at h
      obtain ⟨r, hr, h⟩ := Option.bind_eq_some_iff.mp h
      split at h
      · cases h
      · next l₁ hl₁ =>
        obtain ⟨hge, hcount, hlength, _⟩ := PayloadLoop.append_eq_some hl₁
        have hlast := (length_readPayload hge h).2
        cases answer with
        | failed =>
          cases hr
          simp only at hcount
          omega
        | bytes count =>
          rw [recv_bytes_eq_some] at hr
          obtain ⟨⟨hle, _, hsome⟩, rfl⟩ := hr
          simp only [List.length_nil] at hcount hlength
          have hall : count = n := by
            by_contra hless
            have hmore := hlast (by omega)
            omega
          rw [hall]
          rfl

/-- A whole turn hands out the next message. -/
theorem ClientThread.inStep_of_whole (hsize : ∀ msg ∈ msgs, msg.length ≤ maxMessageSize)
    (h : s.InStep msgs) (hwhole : t.Whole s)
    (hs' : s.threadAsyncClientModeRequestsWithSize t = some s') : s'.InStep msgs := by
  obtain ⟨hrunning, rest, rfl, hs⟩ := h
  unfold threadAsyncClientModeRequestsWithSize at hs'
  rw [if_neg (not_not_intro hrunning)] at hs'
  rcases hwhole with htimeout | ⟨hready, hfour, hpayload, hpieces⟩
  · rw [htimeout] at hs'
    cases hs'
    exact ⟨hrunning, rest, rfl, hs⟩
  · rw [hready, hfour] at hs'
    cases rest with
    | nil =>
      rw [hs] at hs'
      cases hs'
    | cons msg rest =>
      rw [List.flatMap_cons] at hs
      have hmsg : msg.length ≤ maxMessageSize := hsize msg (by simp)
      have hlt : msg.length < 2 ^ 31 := Nat.lt_of_le_of_lt hmsg (by decide)
      have hint : (Int32.ofNat msg.length).toInt = msg.length := Int32.toInt_ofNat_of_lt hlt
      have hone : msg = [] ∨ t.payloadRecvs.head? = some (.bytes msg.length) := by
        rw [nextSize_of_stream hs hmsg] at hpieces
        refine hpieces.imp (fun h0 => ?_) id
        exact List.length_eq_zero_iff.mp (Int.natCast_eq_zero.mp h0)
      simp only [hs, recv_sendWithSize, Option.bind_some, hpayload, intOfBytes_intBytes,
        hint] at hs'
      rw [if_neg (by decide), if_neg (by omega), receivePayload_whole rfl hone] at hs'
      cases hs'
      exact ⟨hrunning, atBoundary_next.mpr ⟨rfl, rfl⟩⟩

/-- What was handed out is as long as the message, so the size lost no byte and the payload came
in one piece. -/
theorem ClientThread.whole_of_receivePayload
    (hsize : ∀ msg ∈ msgs, msg.length ≤ maxMessageSize) (h : s.InStep msgs) {count : Nat}
    (hpos : 0 < count) (hfour : count ≤ 4) (hle : count ≤ s.stream.length)
    (hs' : { s with stream := s.stream.drop count }.receivePayload t
      (intOfBytes (s.stream.take count)).toInt = some s') (h' : s'.InStep msgs) :
    count = 4 ∧ (s.nextSize = 0 ∨ t.payloadRecvs.head? = some (.bytes s.nextSize.toNat)) := by
  obtain ⟨hnonneg, l, hl, rfl⟩ := receivePayload_running hs' h'.1
  obtain ⟨_, rest, rfl, hs⟩ := h
  cases rest with
  | nil =>
    rw [hs, List.flatMap_nil, List.length_nil] at hle
    omega
  | cons msg rest =>
    rw [List.flatMap_cons] at hs
    obtain ⟨hfrom, hstream⟩ := atBoundary_next.mp h'.2
    dsimp only at hl hstream
    have hlen : (s.stream.drop count).length + 0 ≤ l.stream.length + l.fromServer.length :=
      (length_readPayload (le_refl _) hl).1
    rw [hfrom, hstream, List.length_drop, hs, List.length_append, length_sendWithSize] at hlen
    have hall : count = 4 := by omega
    subst hall
    have hnext := nextSize_of_stream hs (hsize msg (by simp))
    refine ⟨rfl, ?_⟩
    rw [← nextSize, hnext, Int.toNat_natCast] at hl
    rw [hnext, Int.toNat_natCast]
    refine (whole_of_readPayload hl (congrArg _ hfrom)).imp (fun h0 => ?_) id
    exact Int.natCast_eq_zero.mpr h0

/-- A turn that keeps the thread in step was whole. -/
theorem ClientThread.whole_of_inStep (hsize : ∀ msg ∈ msgs, msg.length ≤ maxMessageSize)
    (h : s.InStep msgs) (hs' : s.threadAsyncClientModeRequestsWithSize t = some s')
    (h' : s'.InStep msgs) : t.Whole s := by
  have hexit : ¬s.exit.InStep msgs := by
    rintro ⟨hrunning, _⟩
    cases hrunning
  unfold threadAsyncClientModeRequestsWithSize at hs'
  rw [if_neg (not_not_intro h.1)] at hs'
  split at hs'
  · cases hs'
    exact absurd h' hexit
  · next htimeout => exact Or.inl htimeout
  · next hready =>
    obtain ⟨size, hrecv, hs'⟩ := Option.bind_eq_some_iff.mp hs'
    split at hs'
    · cases hs'
      exact absurd h' hexit
    · next hcount =>
      have hread := not_inStep_of_read h hrecv hcount
      dsimp only at hs'
      split at hs'
      · cases hs'
        exact absurd h' hread
      · split at hs'
        · cases hs'
          cases h'.1
        · cases hs'
          exact absurd h' hread
        · next hpayload =>
          cases hanswer : t.sizeRecv with
          | failed =>
            rw [hanswer] at hrecv
            cases hrecv
            exact absurd rfl hcount
          | bytes count =>
            rw [hanswer, recv_bytes_eq_some] at hrecv
            obtain ⟨⟨hle, hle', hpos⟩, rfl⟩ := hrecv
            have hone : 0 < count := by omega
            obtain ⟨rfl, hpieces⟩ := whole_of_receivePayload hsize h hone hle hle' hs' h'
            exact Or.inr ⟨hready, hanswer, hpayload, hpieces⟩

end Turns

/--
**The thread stays in step with the stream exactly when every turn is whole.**

Then the observers got the messages in order, and all of them once the stream is empty.
-/
theorem threadAsyncClientModeRequestsWithSize_inStep_iff (msgs : List (List UInt8))
    (hsize : ∀ msg ∈ msgs, msg.length ≤ maxMessageSize) (turns : List Turn) :
    let s₀ : ClientThread := { stream := msgs.flatMap sendWithSize }
    let turn := ClientThread.threadAsyncClientModeRequestsWithSize
    (AlwaysState turn (ClientThread.InStep msgs) s₀ turns ↔
        AlwaysStep turn (fun s t => t.Whole s) s₀ turns) ∧
      (AlwaysStep turn (fun s t => t.Whole s) s₀ turns →
        ∀ s, runAll turn s₀ turns = some s →
          s.delivered <+: msgs ∧ (s.stream = [] → s.delivered = msgs)) := by
  intro s₀ turn
  have hstart : s₀.InStep msgs := ⟨rfl, atBoundary_start sendWithSize msgs⟩
  have hiff := alwaysState_iff_of_inv turn (ClientThread.InStep msgs)
    (P := ClientThread.InStep msgs) (C := fun s t => t.Whole s)
    (fun _ h => h)
    (fun _ _ _ h hc hs => ClientThread.inStep_of_whole hsize h hc hs)
    (fun _ _ _ h hs h' => ClientThread.whole_of_inStep hsize h hs h') turns s₀ hstart
  refine ⟨hiff, fun hwhole s hs => ?_⟩
  have hlast := (hiff.mpr hwhole).last hs
  refine ⟨hlast.2.isPrefix, fun hnil => ?_⟩
  have hboundary := hlast.2
  rw [hnil] at hboundary
  exact hboundary.complete sendWithSize_ne_nil

/-- A message that comes in one piece. -/
theorem threadAsyncClientModeRequestsWithSize_one_piece :
    ∃ s, runAll ClientThread.threadAsyncClientModeRequestsWithSize
        { stream := [[7]].flatMap sendWithSize }
        [{ sizeSelect := .timeout },
         { sizeSelect := .ready, sizeRecv := .bytes 4, payloadSelect := .ready,
           payloadRecvs := [.bytes 1] }] = some s ∧ s.delivered = [[7]] := by
  have hwhole := threadAsyncClientModeRequestsWithSize_inStep_iff [[7]] (by decide)
    [{ sizeSelect := .timeout },
      { sizeSelect := .ready, sizeRecv := .bytes 4, payloadSelect := .ready,
        payloadRecvs := [.bytes 1] }]
  exact ⟨_, rfl, (hwhole.2 (by decide) _ rfl).2 rfl⟩

/-- A timeout after the size loses a message, and a payload in two pieces is garbled: the first
piece stays in front of what is counted again. -/
theorem threadAsyncClientModeRequestsWithSize_loses_and_garbles :
    (∃ s, runAll ClientThread.threadAsyncClientModeRequestsWithSize
        { stream := [[7]].flatMap sendWithSize }
        [{ sizeSelect := .ready, sizeRecv := .bytes 4, payloadSelect := .timeout },
         { sizeSelect := .ready, sizeRecv := .bytes 1, payloadSelect := .timeout }] = some s ∧
      s.stream = [] ∧ s.status = .running ∧ s.delivered = []) ∧
    ∃ s, runAll ClientThread.threadAsyncClientModeRequestsWithSize
        { stream := [[1, 2, 3]].flatMap sendWithSize }
        [{ sizeSelect := .ready, sizeRecv := .bytes 4, payloadSelect := .ready,
           payloadRecvs := [.bytes 2, .bytes 1] }] = some s ∧
      s.stream = [] ∧ s.status = .running ∧ s.delivered = [[1, 2, 3, 2, 0]] :=
  ⟨⟨_, rfl, rfl, rfl, rfl⟩, _, rfl, rfl, rfl, rfl⟩

end Shell

end MicroserviceCommon

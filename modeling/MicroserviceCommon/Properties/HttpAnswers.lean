import MicroserviceCommon.Communication.HttpService
import MicroserviceCommon.Infra.HttpReader

/-!
# The answers of a web server

* `readHead_setOutcomingMessage` — the head of an answer is read to its end
* `answers_read_back_iff` — when a client reads the answers as they were made
-/

namespace MicroserviceCommon

open Infra

/-! ## The head of an answer -/

def statusLine (code : Int32) : List Char :=
  "HTTP/1.1 ".toList ++
    ((toString code.toInt).toList ++ (" ".toList ++ (mgStatusMessage code).toList))

/-- The lines of the head. -/
def headLines (code : Int32) (msg : String) : List (List Char) :=
  [statusLine code, "Server: Mongoose/6.7".toList, "Content-Type: application/json".toList,
    "Content-Length: ".toList ++ Nat.toDigits 10 msg.length]

/-- A head with four lines. -/
theorem toList_lines (version code blank reason server contentType name length body : String) :
    (version ++ code ++ blank ++ reason ++ crlf ++ server ++ crlf ++ contentType ++ crlf ++ name ++
      length ++ crlf ++ crlf ++ body).toList =
    headText [version.toList ++ (code.toList ++ (blank.toList ++ reason.toList)), server.toList,
      contentType.toList, name.toList ++ length.toList] ++ body.toList := by
  have hend : crlf.toList = ['\r', '\n'] := rfl
  simp only [headText, String.toList_append, List.append_assoc, hend, List.cons_append,
    List.nil_append]

theorem mgPrintMessage_eq {msg : String} (h : msg.length < 2 ^ 31) :
    mgPrintMessage (Int32.ofNat msg.length) msg = cStr msg := by
  have hsize : (Int32.ofNat msg.length).toInt = msg.length := Int32.toInt_ofNat_of_lt h
  have hle : (cStr msg).toList.length ≤ msg.length := by
    rw [cStr, String.toList_ofList, ← String.length_toList]
    exact (List.takeWhile_sublist _).length_le
  rw [mgPrintMessage, hsize, Int.toNat_natCast, List.take_of_length_le hle, String.ofList_toList,
    ite_self]

theorem toList_setOutcomingMessage (r : WebserverRequest) {msg : String}
    (h : msg.length < 2 ^ 31) : (r.setOutcomingMessage msg).toList =
      headText (headLines r.httpCode msg) ++ (cStr msg).toList := by
  rw [WebserverRequest.setOutcomingMessage, mgPrintMessage_eq h, headLines, ← toList_toString]
  exact toList_lines _ _ _ _ _ _ _ _ _

theorem toList_toString_ofNat (n : Nat) : (toString (Int.ofNat n)).toList = Nat.toDigits 10 n :=
  Nat.toList_repr

theorem toList_toString_negSucc (n : Nat) :
    (toString (Int.negSucc n)).toList = '-' :: Nat.toDigits 10 (n + 1) := by
  show ("-" ++ Nat.repr (n + 1)).toList = _
  rw [String.toList_append, Nat.toList_repr]
  rfl

theorem not_mem_toDigits (n : Nat) : '\r' ∉ Nat.toDigits 10 n := fun h =>
  absurd (isDigit_of_mem_toDigits h) (by decide)

theorem not_mem_toString_int (n : Int) : '\r' ∉ (toString n).toList := by
  cases n with
  | ofNat n =>
    rw [toList_toString_ofNat]
    exact not_mem_toDigits n
  | negSucc n =>
    rw [toList_toString_negSucc]
    rintro (_ | ⟨_, h⟩)
    exact not_mem_toDigits _ h

theorem not_mem_mgStatusMessage (code : Int32) : '\r' ∉ (mgStatusMessage code).toList := by
  unfold mgStatusMessage
  split <;> simp

theorem headLines_ne_nil (code : Int32) (msg : String) :
    ∀ line ∈ headLines code msg, line ≠ [] ∧ '\r' ∉ line := by
  have hversion : '\r' ∉ "HTTP/1.1 ".toList := by decide
  have hblank : '\r' ∉ " ".toList := by decide
  have hserver : '\r' ∉ "Server: Mongoose/6.7".toList := by decide
  have htype : '\r' ∉ "Content-Type: application/json".toList := by decide
  have hname : '\r' ∉ "Content-Length: ".toList := by decide
  have hcode := not_mem_toString_int code.toInt
  have hreason := not_mem_mgStatusMessage code
  have hlength := not_mem_toDigits msg.length
  have hstatus : '\r' ∉ statusLine code := by
    intro h
    rcases List.mem_append.mp h with h | h
    · exact hversion h
    · rcases List.mem_append.mp h with h | h
      · exact hcode h
      · exact (List.mem_append.mp h).elim hblank hreason
  intro line hline
  rcases List.mem_cons.mp hline with rfl | hline
  · exact ⟨List.cons_ne_nil _ _, hstatus⟩
  rcases List.mem_cons.mp hline with rfl | hline
  · exact ⟨List.cons_ne_nil _ _, hserver⟩
  rcases List.mem_cons.mp hline with rfl | hline
  · exact ⟨List.cons_ne_nil _ _, htype⟩
  rcases List.mem_singleton.mp hline with rfl
  exact ⟨List.cons_ne_nil _ _, fun h => (List.mem_append.mp h).elim hname hlength⟩

/-- **A client reads a code of three digits.** -/
theorem statusCode_statusLine (code : Int32) : statusCode (statusLine code) =
    if 100 ≤ code.toInt ∧ code.toInt ≤ 999 then some code.toInt.toNat else none := by
  have hreason : NoDigitHead (" ".toList ++ (mgStatusMessage code).toList) := rfl
  unfold statusLine
  generalize " ".toList ++ (mgStatusMessage code).toList = reason at hreason
  rcases code.toInt with n | n
  · rw [toList_toString_ofNat, statusCode_append n hreason]
    refine if_congr ?_ rfl rfl
    rw [Int.ofNat_eq_natCast]
    omega
  · have hnone : statusCode ("HTTP/1.1 ".toList ++ ((toString (Int.negSucc n)).toList ++ reason)) =
        none := by
      rw [toList_toString_negSucc, statusCode, dropPrefix?_append]
      rfl
    rw [hnone, if_neg (by omega)]

theorem contentLength_headLines (code : Int32) (msg : String) :
    (headLines code msg).findSome? contentLength = some msg.length := by
  have hstatus : contentLength (statusLine code) = none := rfl
  have hserver : contentLength "Server: Mongoose/6.7".toList = none := rfl
  have htype : contentLength "Content-Type: application/json".toList = none := rfl
  simp only [headLines, List.findSome?_cons, hstatus, hserver, htype, contentLength_append]

/-- **The head of an answer is read to its end**, when its code has three digits. -/
theorem readHead_setOutcomingMessage (r : WebserverRequest) {msg : String}
    (h : msg.length < 2 ^ 31) (rest : List Char) :
    readHead ((r.setOutcomingMessage msg).toList ++ rest) =
      if 100 ≤ r.httpCode.toInt ∧ r.httpCode.toInt ≤ 999 then
        some (r.httpCode.toInt.toNat, msg.length, (cStr msg).toList ++ rest)
      else none := by
  have hlines : readLines [] ((r.setOutcomingMessage msg).toList ++ rest) =
      some (headLines r.httpCode msg, (cStr msg).toList ++ rest) := by
    rw [toList_setOutcomingMessage r h, List.append_assoc]
    exact readLines_headText (headLines_ne_nil _ _)
  have hhead : (headLines r.httpCode msg).head? = some (statusLine r.httpCode) := rfl
  rw [readHead, hlines]
  simp only [Option.bind_eq_bind, Option.bind_some, hhead, statusCode_statusLine,
    contentLength_headLines]
  split <;> rfl

/-! ## The answers on a connection -/

namespace HttpReply

variable {κ : Type*}

/-- What the command answered. -/
def response (r : HttpReply κ) : HttpResponse where
  code := r.request.httpCode.toInt.toNat
  body := r.message.toList

/-- An answer that HTTP can carry. -/
structure Conforms (r : HttpReply κ) : Prop where
  low : 200 ≤ r.request.httpCode.toInt
  high : r.request.httpCode.toInt ≤ 999
  nulFree : NulFree r.message
  body : NoBody r.command.isHead r.request.httpCode.toInt.toNat → r.message = ""

instance (r : HttpReply κ) : Decidable r.Conforms :=
  decidable_of_iff (200 ≤ r.request.httpCode.toInt ∧ r.request.httpCode.toInt ≤ 999 ∧
      NulFree r.message ∧ (NoBody r.command.isHead r.request.httpCode.toInt.toNat →
        r.message = ""))
    ⟨fun ⟨h₁, h₂, h₃, h₄⟩ => ⟨h₁, h₂, h₃, h₄⟩, fun h => ⟨h.low, h.high, h.nulFree, h.body⟩⟩

variable {r : HttpReply κ} {rest : List Char} {requests : List Bool}
variable {response' : HttpResponse} {responses : List HttpResponse}

theorem readHead_text (hsize : r.message.length < 2 ^ 31)
    (hlow : 100 ≤ r.request.httpCode.toInt) (hhigh : r.request.httpCode.toInt ≤ 999) :
    readHead (r.text ++ rest) = some (r.request.httpCode.toInt.toNat, r.message.length,
      (cStr r.message).toList ++ rest) := by
  rw [text, readHead_setOutcomingMessage r.request hsize, if_pos ⟨hlow, hhigh⟩]

/-- **An answer that conforms is read as it was made**, whatever follows it. -/
theorem reads_text_iff (hsize : r.message.length < 2 ^ 31) (h : r.Conforms) :
    Reads (r.command.isHead :: requests) (r.text ++ rest) (response' :: responses) ↔
      response' = r.response ∧ Reads requests rest responses := by
  have hlow := h.low
  have hlength : bodyLength r.command.isHead r.request.httpCode.toInt.toNat r.message.length =
      r.message.toList.length := by
    rw [bodyLength]
    split
    · next hnone => rw [h.body hnone]; rfl
    · exact String.length_toList.symm
  rw [reads_head_iff (readHead_text hsize (by omega) h.high), cStr_of_nulFree h.nulFree, hlength,
    List.take_left, List.drop_left]
  constructor
  · rintro (⟨hcode, _⟩ | ⟨_, _, rfl, hrest⟩)
    · omega
    · exact ⟨rfl, hrest⟩
  · rintro ⟨rfl, hrest⟩
    exact Or.inr ⟨by omega, by simp, rfl, hrest⟩

theorem head_text (hsize : r.message.length < 2 ^ 31) : r.text.head? = some 'H' := by
  rw [text, toList_setOutcomingMessage r.request hsize]
  rfl

/-- What follows an answer is nothing or another one. -/
theorem head_flatMap_text {replies : List (HttpReply κ)}
    (hsize : ∀ r ∈ replies, r.message.length < 2 ^ 31) {c : Char}
    (h : (replies.flatMap text).head? = some c) : c = 'H' := by
  cases replies with
  | nil => cases h
  | cons r replies =>
    rw [List.flatMap_cons, List.head?_append, head_text (hsize r List.mem_cons_self)] at h
    cases h
    rfl

/-- What stands behind a NUL byte is not sent. -/
theorem nulFree_of_prefix {msg : String} (hrest : ∀ c, rest.head? = some c → c = 'H')
    (h : msg.toList <+: (cStr msg).toList ++ rest) : NulFree msg := by
  have hmsg : (cStr msg).toList ++ msg.toList.dropWhile (· ≠ '\x00') = msg.toList := by
    rw [cStr, String.toList_ofList, List.takeWhile_append_dropWhile]
  rw [← hmsg, List.prefix_append_right_inj] at h
  cases hbehind : msg.toList.dropWhile (· ≠ '\x00') with
  | nil =>
    rw [hbehind, List.append_nil] at hmsg
    rw [NulFree, ← hmsg]
    exact nulFree_cStr msg
  | cons c behind =>
    have hnul : c = '\x00' := by
      have hhead := List.head?_dropWhile_not (· ≠ '\x00') msg.toList
      rw [hbehind] at hhead
      simpa using hhead
    rw [hbehind] at h
    obtain ⟨rest', hrest'⟩ := h
    have hH := hrest c (by rw [← hrest']; rfl)
    rw [hnul] at hH
    cases hH

/-- **Only an answer that conforms is read as it was made.** -/
theorem conforms_of_reads (hsize : r.message.length < 2 ^ 31)
    (hrest : ∀ c, rest.head? = some c → c = 'H')
    (h : Reads (r.command.isHead :: requests) (r.text ++ rest) (r.response :: responses)) :
    r.Conforms := by
  have hlow : 200 ≤ r.request.httpCode.toInt.toNat := h.two_hundred_le _ List.mem_cons_self
  have hhigh : r.request.httpCode.toInt ≤ 999 := by
    by_contra hnot
    refine not_reads_of_readHead ?_ h
    rw [text, readHead_setOutcomingMessage r.request hsize, if_neg (fun hboth => hnot hboth.2)]
  rcases (reads_head_iff (readHead_text hsize (by omega) hhigh)).mp h with
    ⟨hcode, _⟩ | ⟨_, hlength, hresponse, _⟩
  · omega
  have hbody : r.message.toList = ((cStr r.message).toList ++ rest).take
      (bodyLength r.command.isHead r.request.httpCode.toInt.toNat r.message.length) :=
    congrArg HttpResponse.body hresponse
  have hsizes : r.message.length =
      bodyLength r.command.isHead r.request.httpCode.toInt.toNat r.message.length := by
    have hlengths := congrArg List.length hbody
    rwa [List.length_take_of_le hlength, String.length_toList] at hlengths
  refine ⟨by omega, hhigh, ?_, fun hnone => ?_⟩
  · refine nulFree_of_prefix hrest ?_
    rw [hbody]
    exact List.take_prefix _ _
  · rw [bodyLength, if_pos hnone] at hsizes
    exact String.length_eq_zero_iff.mp hsizes

/-- **Exactly the answers that conform are read as they were made.** -/
theorem answers_read_back_iff (later : List Bool) : ∀ {replies : List (HttpReply κ)},
    (∀ r ∈ replies, r.message.length < 2 ^ 31) →
      (Reads (replies.map (·.command.isHead) ++ later) (replies.flatMap text)
        (replies.map response) ↔ ∀ r ∈ replies, r.Conforms)
  | [], _ => iff_of_true Reads.done fun r hr => absurd hr List.not_mem_nil
  | r :: replies, hsize => by
    have hr := hsize r List.mem_cons_self
    have ih := answers_read_back_iff later fun r' hr' => hsize r' (List.mem_cons_of_mem r hr')
    rw [List.map_cons, List.cons_append, List.flatMap_cons, List.map_cons]
    constructor
    · intro h
      have hconforms := conforms_of_reads hr (fun c => head_flatMap_text
        fun r' hr' => hsize r' (List.mem_cons_of_mem r hr')) h
      have hrest := ih.mp ((reads_text_iff hr hconforms).mp h).2
      exact List.forall_mem_cons.mpr ⟨hconforms, hrest⟩
    · intro h
      obtain ⟨hconforms, hrest⟩ := List.forall_mem_cons.mp h
      exact (reads_text_iff hr hconforms).mpr ⟨rfl, ih.mpr hrest⟩

/-- An answer to a request of another method than `HEAD`. -/
def json (code : Int32) (message : String) : HttpReply Unit where
  command :=
    { request := { mongooseConnection := 1, incomingQueryString := "", httpCode := 0 }
      isHead := false, sender := (), number := 0 }
  request := { mongooseConnection := 1, incomingQueryString := "", httpCode := code }
  message := message

/-- The first of two answers has a NUL byte. -/
theorem two_answers_read_back_iff :
    Reads ([json 200 "a\x00b", json 404 "c"].map (·.command.isHead) ++ [])
        ([json 200 "a\x00b", json 404 "c"].flatMap text)
        ([json 200 "a\x00b", json 404 "c"].map response) ↔
      ∀ r ∈ [json 200 "a\x00b", json 404 "c"], r.Conforms :=
  answers_read_back_iff [] (by decide)

/-- The client takes the next head for the rest of it. -/
example : ¬ (json 200 "a\x00b").Conforms := by decide

end HttpReply

end MicroserviceCommon

import Mathlib.Data.List.Basic
import MicroserviceCommon.Communication.HttpClient

/-!
# The headers are freed and not forgotten

A POST frees the list of headers, and the client keeps the pointer to it. The next request, the next
headers and the destructor find a list that is gone.

* `one_shot_headers_iff` — every request is sent with the headers passed for it, and no freed list
  is used, exactly when nothing but an empty `setHTTPHeadersOnce` follows a POST
* `second_post_uses_freed_list` — two POSTs
-/

namespace MicroserviceCommon

open Infra

/-! ## The law of one action -/

namespace HttpRun

/-- The list of these headers. -/
def listOf : List String → HeaderList
  | [] => .null
  | header :: headers => .live (header :: headers)

/-- The headers that a POST is to be sent with. -/
def postHeaders (s : HttpRun) : List String :=
  match s.passed with
  | [] => ["Content-Type: text/xml; charset=utf-8"]
  | header :: headers => header :: headers

/-- The headers are those that were passed, and no freed list is appended to, sent or freed. -/
def SendsPassed (s : HttpRun) : HttpAction → Prop
  | .setHTTPHeadersOnce headers => headers ≠ [] → s.client.httpHeaders ≠ .freed
  | .sendRequestGET _ => s.client.httpheader ≠ .freed
  | .sendRequestPOST _ => s.client.preparePOST.httpheader = .live s.postHeaders ∧
      s.client.preparePOST.httpHeaders ≠ .freed
  | .destroy => s.client.httpHeaders ≠ .freed

/-- No POST was sent yet. -/
structure Unposted (s : HttpRun) : Prop where
  httpHeaders : s.client.httpHeaders = listOf s.passed
  httpheader : s.client.httpheader = .null

/-- The pointers of the client and of the session are those of the last POST. -/
structure Posted (s : HttpRun) : Prop where
  httpHeaders : s.client.httpHeaders = .freed
  httpheader : s.client.httpheader = .freed

variable {s s' : HttpRun}

/-! ## Before the first POST -/

theorem foldl_curlSlistAppend (headers passed : List String) :
    headers.foldl curlSlistAppend (listOf passed) = listOf (passed ++ headers) := by
  induction headers generalizing passed with
  | nil => rw [List.append_nil, List.foldl_nil]
  | cons header headers ih =>
    have hone : curlSlistAppend (listOf passed) header = listOf (passed ++ [header]) := by
      cases passed with
      | nil => rfl
      | cons first passed => rfl
    rw [List.foldl_cons, hone, ih, List.append_assoc, List.singleton_append]

/-- **The first POST is sent with the headers that were passed.** -/
theorem Unposted.preparePOST (h : Unposted s) :
    s.client.preparePOST = { httpHeaders := .live s.postHeaders
                             httpheader := .live s.postHeaders } := by
  obtain ⟨⟨httpHeaders, httpheader⟩, passed⟩ := s
  obtain ⟨hheaders, hsession⟩ := h
  cases passed with
  | nil =>
    obtain rfl : httpHeaders = .null := hheaders
    obtain rfl : httpheader = .null := hsession
    rfl
  | cons header passed =>
    obtain rfl : httpHeaders = .live (header :: passed) := hheaders
    obtain rfl : httpheader = .null := hsession
    rfl

theorem Unposted.step (h : Unposted s) {a : HttpAction} (ha : a ≠ .destroy)
    (hpost : ∀ performed, a ≠ .sendRequestPOST performed) (hs : s.step a = some s') :
    Unposted s' := by
  cases a with
  | setHTTPHeadersOnce headers =>
    cases hs
    refine ⟨?_, h.httpheader⟩
    show headers.foldl curlSlistAppend s.client.httpHeaders = _
    rw [h.httpHeaders, foldl_curlSlistAppend]
  | sendRequestGET performed =>
    cases hs
    exact h
  | sendRequestPOST performed => exact absurd rfl (hpost performed)
  | destroy => exact absurd rfl ha

theorem Unposted.post (h : Unposted s) {performed : Bool}
    (hs : s.step (.sendRequestPOST performed) = some s') : Posted s' := by
  obtain rfl : _ = s' := Option.some.inj hs
  have hremoved : (s.client.sendRequestPOST performed).1 =
      s.client.preparePOST.removeHeaders := by
    unfold HTTPClient.sendRequestPOST
    cases performed <;> rfl
  constructor
  · show (s.client.sendRequestPOST performed).1.httpHeaders = _
    rw [hremoved, h.preparePOST]
    rfl
  · show (s.client.sendRequestPOST performed).1.httpheader = _
    rw [hremoved, h.preparePOST]
    rfl

theorem Unposted.sendsPassed (h : Unposted s) (a : HttpAction) : s.SendsPassed a := by
  have hlist : s.client.httpHeaders ≠ .freed := by
    rw [h.httpHeaders]
    cases s.passed <;> exact HeaderList.noConfusion
  cases a with
  | setHTTPHeadersOnce headers => exact fun _ => hlist
  | sendRequestGET performed =>
    show s.client.httpheader ≠ .freed
    rw [h.httpheader]
    exact HeaderList.noConfusion
  | sendRequestPOST performed =>
    refine ⟨by rw [h.preparePOST], ?_⟩
    rw [h.preparePOST]
    exact HeaderList.noConfusion
  | destroy => exact hlist

/-! ## After a POST -/

/-- **After a POST only an empty `setHTTPHeadersOnce` uses no freed list.** -/
theorem Posted.sendsPassed_iff (h : Posted s) (a : HttpAction) :
    s.SendsPassed a ↔ a = .setHTTPHeadersOnce [] := by
  cases a with
  | setHTTPHeadersOnce headers =>
    rw [HttpAction.setHTTPHeadersOnce.injEq]
    exact ⟨fun hsend => by_contra fun hne => hsend hne h.httpHeaders,
      fun hnil hne => absurd hnil hne⟩
  | sendRequestGET performed =>
    exact iff_of_false (fun hsend => hsend h.httpheader) HttpAction.noConfusion
  | sendRequestPOST performed =>
    refine iff_of_false (fun hsend => hsend.2 ?_) HttpAction.noConfusion
    obtain ⟨⟨httpHeaders, httpheader⟩, passed⟩ := s
    obtain rfl : httpHeaders = .freed := h.httpHeaders
    rfl
  | destroy => exact iff_of_false (fun hsend => hsend h.httpHeaders) HttpAction.noConfusion

theorem Posted.empty (h : Posted s) :
    Posted { client := s.client.setHTTPHeadersOnce [], passed := s.passed ++ [] } :=
  ⟨h.httpHeaders, h.httpheader⟩

theorem Posted.alwaysStep_iff : ∀ {as : List HttpAction} {s : HttpRun}, Posted s →
    (AlwaysStep step SendsPassed s as ↔ ∀ a ∈ as, a = .setHTTPHeadersOnce [])
  | [], _, _ => iff_of_true trivial fun _ h => by cases h
  | a :: as, s, h => by
    rw [List.forall_mem_cons]
    constructor
    · intro hrun
      cases hstep : s.step a with
      | none => cases a <;> cases hstep
      | some s' =>
        obtain ⟨hlaw, hrest⟩ := hrun s' hstep
        have hempty := (h.sendsPassed_iff a).mp hlaw
        subst hempty
        cases hstep
        exact ⟨rfl, (Posted.alwaysStep_iff h.empty).mp hrest⟩
    · rintro ⟨rfl, hempty⟩ s' hs
      cases hs
      exact ⟨(h.sendsPassed_iff _).mpr rfl, (Posted.alwaysStep_iff h.empty).mpr hempty⟩

end HttpRun

/-! ## Whole lives of a client -/

/-- What happens to a client. Nothing happens after the destructor. -/
structure HttpSession where
  actions : List HttpAction
  destroyed_last : actions.Pairwise fun a _ => a ≠ .destroy

namespace HttpSession

def IsPost (a : HttpAction) : Prop := ∃ performed, a = .sendRequestPOST performed

/-- Every request is sent with the headers passed for it, and no freed list is used. -/
def SendsPassed (h : HttpSession) : Prop :=
  AlwaysStep HttpRun.step HttpRun.SendsPassed {} h.actions

/-- Nothing but an empty `setHTTPHeadersOnce` follows a POST. -/
def EndsWithPost (h : HttpSession) : Prop :=
  h.actions.Pairwise fun a b => IsPost a → b = .setHTTPHeadersOnce []

theorem alwaysStep_iff_of_unposted : ∀ {as : List HttpAction} {s : HttpRun}, s.Unposted →
    as.Pairwise (fun a _ => a ≠ .destroy) →
    (AlwaysStep HttpRun.step HttpRun.SendsPassed s as ↔
      as.Pairwise fun a b => IsPost a → b = .setHTTPHeadersOnce [])
  | [], _, _, _ => iff_of_true trivial List.Pairwise.nil
  | a :: as, s, h, hlast => by
    rw [List.pairwise_cons] at hlast ⊢
    obtain ⟨hdestroy, hlast⟩ := hlast
    by_cases hpost : IsPost a
    · obtain ⟨performed, rfl⟩ := hpost
      have hstep : s.step (.sendRequestPOST performed) = some _ := rfl
      have hrest : AlwaysStep HttpRun.step HttpRun.SendsPassed _ as ↔
          ∀ b ∈ as, b = .setHTTPHeadersOnce [] := (h.post hstep).alwaysStep_iff
      constructor
      · intro hrun
        have hempty := hrest.mp (hrun _ hstep).2
        exact ⟨fun b hb _ => hempty b hb,
          List.pairwise_of_forall_mem_list fun _ _ b hb _ => hempty b hb⟩
      · rintro ⟨hempty, _⟩ s' hs
        cases hs
        exact ⟨h.sendsPassed _, hrest.mpr fun b hb => hempty b hb ⟨performed, rfl⟩⟩
    · rw [and_iff_right fun b _ hb => absurd hb hpost]
      cases has : as with
      | nil => exact iff_of_true (fun s' _ => ⟨h.sendsPassed a, trivial⟩) List.Pairwise.nil
      | cons b bs =>
        rw [← has]
        -- the action is not the last one, so the client is still there
        have ha : a ≠ .destroy := hdestroy b (has ▸ List.mem_cons_self)
        cases hstep : s.step a with
        | none => cases a <;> cases hstep
        | some s' =>
          have hnext := h.step ha (fun performed he => hpost ⟨performed, he⟩) hstep
          rw [← alwaysStep_iff_of_unposted hnext hlast]
          refine ⟨fun hrun => (hrun s' hstep).2, fun hrest s₁ hs₁ => ?_⟩
          rw [hstep, Option.some.injEq] at hs₁
          exact ⟨h.sendsPassed a, hs₁ ▸ hrest⟩

/--
**When the headers are sent once.**

Every POST is sent with the headers that were passed since the one before, and no freed list is
appended to, sent or freed, exactly when nothing but an empty `setHTTPHeadersOnce` follows a POST.
-/
theorem one_shot_headers_iff (h : HttpSession) : h.SendsPassed ↔ h.EndsWithPost :=
  alwaysStep_iff_of_unposted ⟨rfl, rfl⟩ h.destroyed_last

/-- Two POSTs with the default header. -/
def twoPosts : HttpSession where
  actions := [.sendRequestPOST true, .sendRequestPOST true]
  destroyed_last := by simp

/-- The second POST is sent with the list that the first one has freed. -/
theorem second_post_uses_freed_list : ¬ twoPosts.SendsPassed := by
  intro h
  have hsecond := ((h _ rfl).2 _ rfl).1
  exact hsecond.2 rfl

end HttpSession

end MicroserviceCommon

import Gatehouse.Proofs.Http.Authorization
import Gatehouse.Proofs.Service.Opacity

/-! # Faults of the store seen by clients

What the services leave open behind their deadlines are the causes of failures of the
infrastructure, and a response says nothing of these (`failed_infrastructure`).  So a request is
answered by the same response whatever the trouble with the store is, and it leaves the same store
and the same list of refused tokens (`blind_handle`).  Request after request, a client that can tell
which calls are faulted by what it is answered can tell nothing more (`visits_seen_alike`). -/

namespace Gatehouse.Http

open Service

/-- A request as it reaches the interface: at a time, with the random values that may be needed for
its answer. -/
structure Visit where
  now : Instant
  fresh : Fresh
  freshId : String
  request : Request

namespace Api

variable (api : Api)

/-- What each of several requests ends with, one after another, and the world that it leaves. -/
def visits : List Visit → World FaultyStore → List (Except Stop Response × World FaultyStore)
  | [], _ => []
  | v :: rest, w =>
    let run := outcome (api.handle v.fresh v.freshId v.request) FaultyStore.storage
      { w with now := v.now }
    run :: visits rest run.2

/-! ### Responses -/

/-- A client is told nothing of why the infrastructure failed. -/
theorem failed_infrastructure (cause cause' : Cause) :
    failed (.infrastructure cause) = failed (.infrastructure cause') := rfl

/-- Both requests broke off. -/
def BothBroken (stop stop' : Stop) : Prop := stop = .broken ∧ stop' = .broken

/-- Answered failures do not differ any more. -/
theorem blind_answering {service : Service Response} (h : Blind Stop.Ended service) :
    Blind BothBroken (answering service) := by
  intro w w' hw
  have hend := h hw
  rw [outcome_answering, outcome_answering]
  generalize outcome service FaultyStore.storage w = run,
    outcome service FaultyStore.storage w' = run' at hend ⊢
  cases hend with
  | ok response hw => exact .ok response hw
  | error hstop hw =>
      cases hstop with
      | refused failure => exact .ok (failed failure) hw
      | failed cause cause' =>
          dsimp only [answered]
          rw [failed_infrastructure cause' cause]
          exact .ok (failed (.infrastructure cause)) hw
      | broken => exact .error ⟨rfl, rfl⟩ hw

/-! ### Routes -/

theorem blind_caller (r : Request) : Blind Stop.Ended (api.caller r) :=
  (Blind.require _ _).bind fun bearer => api.authorization.blind_authenticate bearer

theorem blind_getAuthorization (r : Request) (m p : String) :
    Blind Stop.Ended (api.getAuthorization r m p) := by
  unfold getAuthorization
  split
  · exact .pure _
  · refine (api.blind_caller r).bind fun principal => ?_
    dsimp only
    split
    · exact .pure _
    · refine (api.authorization.blind_authorize principal _).bind fun decision => ?_
      cases decision with
      | allow => exact .pure _
      | deny => exact .pure _

/-- Every route ends alike whatever the trouble with the store is. -/
theorem blind_respond (fresh : Fresh) (r : Request) (route : Route) :
    Blind Stop.Ended (api.respond fresh r route) := by
  cases route with
  | health => exact Blind.askHealth.bind fun health => .pure _
  | document => exact .pure _
  | login =>
      refine (Blind.require _ _).bind fun request => ?_
      exact (api.login.blind_login fresh request _).bind fun _ => .pure _
  | refresh =>
      refine (Blind.require _ _).bind fun token => ?_
      exact (api.login.blind_refresh fresh token).bind fun _ => .pure _
  | logout =>
      refine (Blind.require _ _).bind fun token => ?_
      exact (api.login.blind_logout token _).bind fun _ => .pure _
  | sessions =>
      refine (api.blind_caller r).bind fun principal => ?_
      refine (Blind.require _ principal.userId).bind fun userId => ?_
      exact (LoginService.blind_activeSessions userId _ _).bind fun _ => .pure _
  | authorize m p => exact api.blind_getAuthorization r m p

/-- **One request.**  From worlds that are alike a request is answered by the same response, or
breaks off in both, and leaves worlds that are alike. -/
theorem blind_handle (fresh : Fresh) (freshId : String) (r : Request) :
    Blind BothBroken (api.handle fresh freshId r) := by
  have hdispatch : Blind BothBroken (api.dispatch fresh r) := by
    unfold dispatch
    cases Route.ofPath? r.target.path with
    | none => exact .pure _
    | some route =>
        dsimp only
        split
        · exact (blind_answering (api.blind_respond fresh r route)).bind fun _ => .pure _
        · exact .pure _
  exact hdispatch.bind fun _ => .pure _

/-! ### Several requests -/

/-- What can be seen of a request that has ended: the response, and what it left in the store and
among the refused tokens. -/
def seen (run : Except Stop Response × World FaultyStore) :
    Except Stop Response × MemoryStore × Blacklist :=
  (run.1, run.2.stored.store, run.2.blacklist)

variable {run run' : Except Stop Response × World FaultyStore}

theorem seen_of_endsAlike (h : EndsAlike BothBroken run run') : seen run = seen run' := by
  cases h with
  | ok response h => rw [seen, seen, h.stored.store, h.blacklist]
  | error hbroken h => rw [seen, seen, h.stored.store, h.blacklist, hbroken.1, hbroken.2]

/-- No request is left without an end, or ends with a failure that is not answered. -/
theorem done_of_endsAlike (h : EndsAlike BothBroken run run') :
    run.1 = .error .broken ∨ ∃ response, run.1 = .ok response := by
  cases h with
  | ok response h => exact .inr ⟨response, rfl⟩
  | error hbroken h => exact .inl (congrArg _ hbroken.1)

/-- From worlds that are alike every one of several requests shows the same. -/
theorem visits_of_alike (vs : List Visit) {w w' : World FaultyStore} (h : w.Alike w') :
    (api.visits vs w).map seen = (api.visits vs w').map seen ∧
      ∀ run ∈ api.visits vs w, run.1 = .error .broken ∨ ∃ response, run.1 = .ok response := by
  induction vs generalizing w w' with
  | nil => exact ⟨rfl, fun _ h => absurd h List.not_mem_nil⟩
  | cons v rest ih =>
      have hvisit : World.Alike { w with now := v.now } { w' with now := v.now } :=
        ⟨rfl, h.blacklist, h.stored⟩
      have hend := api.blind_handle v.fresh v.freshId v.request hvisit
      obtain ⟨hrest, hdone⟩ := ih hend.worlds
      unfold visits
      constructor
      · rw [List.map_cons, List.map_cons, seen_of_endsAlike hend, hrest]
      · intro run hrun
        rcases List.mem_cons.mp hrun with rfl | hrun
        · exact done_of_endsAlike hend
        · exact hdone run hrun

/-- **Faults are opaque.**  Take any store, any list of refused tokens and any requests, and let the
requests run twice, at the same times and with the same random values, under tables of faults that
name the same store calls and differ in how these go wrong.  Every request is answered by the same
response in both runs, or breaks off in both, none waits for ever, and after each of them the stores
and the lists of refused tokens are the same. -/
theorem visits_seen_alike (vs : List Visit) (now : Instant) (blacklist : Blacklist) (st : MemoryStore)
    (faults faults' : List (String × StoreFault))
    (h : ∀ call : StoreCall,
      (faults.lookup call.label).isSome = (faults'.lookup call.label).isSome) :
    let runs := api.visits vs ⟨now, blacklist, ⟨st, faults⟩⟩
    let runs' := api.visits vs ⟨now, blacklist, ⟨st, faults'⟩⟩
    runs.map seen = runs'.map seen ∧
      ∀ run ∈ runs, run.1 = .error .broken ∨ ∃ response, run.1 = .ok response :=
  api.visits_of_alike vs ⟨rfl, rfl, rfl, h⟩

end Api

end Gatehouse.Http

namespace Gatehouse.Sample

open Http

/-- The interface of the services above. -/
def api : Api := ⟨service, authorization, .ofDeclarations shop, {}⟩

/-- A login and, a minute later, a logout. -/
def twoVisits : List Visit :=
  [{ now := .ofSeconds 0, fresh, freshId := "1"
     request :=
      { method := "POST", target := ⟨"/v1/auth/login", none⟩
        headers := [("content-type", Bytes.ofText "application/json")]
        body := Bytes.ofText "\x7b\"email\":\"ada@example.org\",\"password\":\"secret\"\x7d"
        peer := none } },
    { now := .ofSeconds 60, fresh, freshId := "2"
      request :=
      { method := "POST", target := ⟨"/v1/auth/logout", none⟩
        headers := [("content-type", Bytes.ofText "application/json")]
        body := Bytes.ofText "\x7b\"refreshToken\":\"refresh\"\x7d", peer := none } }]

/-- The listing of sessions never answers, and a revocation fails. -/
def slowFaults : List (String × StoreFault) := [("list_active", .stalls), ("revoke", .fails "lost")]

/-- The listing of sessions fails, and a revocation never answers. -/
def brokenFaults : List (String × StoreFault) :=
  [("revoke", .stalls), ("list_active", .fails "disk full")]

end Gatehouse.Sample

namespace Gatehouse.Http.Api

/-- Which of the two calls fails and which never answers is not seen. -/
theorem visits_seen_alike_two :
    (∀ call : StoreCall, (Sample.slowFaults.lookup call.label).isSome =
      (Sample.brokenFaults.lookup call.label).isSome) ∧
    (Sample.api.visits Sample.twoVisits (Sample.world Sample.slowFaults)).map seen =
      (Sample.api.visits Sample.twoVisits (Sample.world Sample.brokenFaults)).map seen := by
  have hnamed : ∀ call : StoreCall, (Sample.slowFaults.lookup call.label).isSome =
      (Sample.brokenFaults.lookup call.label).isSome := by
    intro call
    cases call <;> rfl
  exact ⟨hnamed, (visits_seen_alike Sample.api Sample.twoVisits _ _ _ _ _ hnamed).1⟩

end Gatehouse.Http.Api

import Gatehouse.Proofs.Http.Opacity
import Gatehouse.Proofs.Http.Route
import Gatehouse.Proofs.Service.Trace

/-! # What anonymous callers learn

A request is *anonymous* if it names no bearer that is accepted, for whatever reason
(`Api.anonymous_iff`).  Where only callers are answered (`Request.forCallers_iff`), the caller is
asked for before anything else (`Api.respond_forCallers`), and to find out who calls takes no call of
the storage (`Api.within_caller`).  So all anonymous requests there get one and the same answer
(`Api.handle_anonymous`), which depends on no policy, no account and no session
(`Api.anonymous_alike`). -/

namespace Gatehouse

open Service

namespace AuthorizationService

/-- A bearer is accepted as no one if its token is not valid now, or if it is refused. -/
theorem not_accepts_iff {s : AuthorizationService} {w : World FaultyStore} {bearer : String} :
    (∀ principal, ¬ s.Accepts w bearer principal) ↔
      (∃ fault, Token.validate s.settings w.now bearer = .error fault) ∨
        ∃ principal, Token.validate s.settings w.now bearer = .ok principal ∧
          s.settings.blacklist = true ∧ w.blacklist.isRevoked principal.tokenId w.now = true := by
  constructor
  · intro hrejected
    cases hvalid : Token.validate s.settings w.now bearer with
    | error fault => exact .inl ⟨fault, rfl⟩
    | ok principal =>
        refine .inr ⟨principal, rfl, ?_⟩
        by_contra hlisted
        refine hrejected principal ⟨hvalid, fun hblacklist => ?_⟩
        exact Bool.eq_false_iff.mpr fun hrevoked => hlisted ⟨hblacklist, hrevoked⟩
  · rintro (⟨fault, hfault⟩ | ⟨principal, hvalid, hblacklist, hrevoked⟩) principal' h
    · cases hfault.symm.trans h.valid
    · cases hvalid.symm.trans h.valid
      cases hrevoked.symm.trans (h.not_refused hblacklist)

end AuthorizationService

namespace Http

/-- The request asks for what only callers are told: where they are logged in, or what they may do,
where both parts of the path can be read. -/
inductive Request.ForCallers (request : Request) : Prop
  | sessions (method : request.method = "GET")
    (routed : Route.ofPath? request.target.path = some .sessions)
  | decision (r : Requirement) (asks : request.Asks r)

/-- The paths of such requests are that of the sessions and those of a decision, with any two names
that can be read. -/
theorem Request.forCallers_iff {request : Request} : request.ForCallers ↔
    request.method = "GET" ∧ (request.target.path = "/v1/auth/sessions" ∨
      ∃ m p, request.target.path = "/v1/auth/authorize/" ++ m ++ "/" ++ p ∧
        '/' ∉ m.toList ∧ '/' ∉ p.toList ∧ p ≠ "" ∧
        ∃ r : Requirement, parameter "module" m = .ok r.module ∧
          parameter "permission" p = .ok r.permissionType) := by
  constructor
  · rintro (⟨hmethod, hrouted⟩ | ⟨r, hmethod, m, p, hrouted, hparameters⟩)
    · exact ⟨hmethod, .inl (Route.ofPath?_iff.mp hrouted).1⟩
    · obtain ⟨hpath, hm, hp, hne⟩ := Route.ofPath?_iff.mp hrouted
      exact ⟨hmethod, .inr ⟨m, p, hpath, hm, hp, hne, r, hparameters⟩⟩
  · rintro ⟨hmethod, hpath | ⟨m, p, hpath, hm, hp, hne, r, hparameters⟩⟩
    · exact .sessions hmethod (Route.ofPath?_iff.mpr ⟨hpath, trivial⟩)
    · exact .decision r ⟨hmethod, m, p, Route.ofPath?_iff.mpr ⟨hpath, hm, hp, hne⟩, hparameters⟩

namespace Api

variable {api : Api} {w : World FaultyStore} {request : Request}

/-! ### Callers -/

/-- The request names no bearer that is accepted. -/
def Anonymous (api : Api) (w : World FaultyStore) (request : Request) : Prop :=
  ∀ bearer, request.bearer? = some bearer →
    ∀ principal, ¬ api.authorization.Accepts w bearer principal

/-- A request is anonymous if no header of it names a bearer, or if the token is not valid now, or if
it is refused. -/
theorem anonymous_iff : api.Anonymous w request ↔
    request.bearer? = none ∨ ∃ bearer, request.bearer? = some bearer ∧
      ((∃ fault, Token.validate api.authorization.settings w.now bearer = .error fault) ∨
        ∃ principal, Token.validate api.authorization.settings w.now bearer = .ok principal ∧
          api.authorization.settings.blacklist = true ∧
          w.blacklist.isRevoked principal.tokenId w.now = true) := by
  unfold Anonymous
  simp only [AuthorizationService.not_accepts_iff]
  cases request.bearer? <;> simp

theorem within_caller (api : Api) (r : Request) :
    (api.caller r).Within Backend.Op.SparesStorage AnyValue :=
  Within.bind (Within.require fun _ _ => trivial) fun bearer _ =>
    api.authorization.within_authenticate bearer

theorem caller_anonymous (h : api.Anonymous w request) :
    outcome (api.caller request) FaultyStore.storage w =
      (.error (.refused .unauthenticated), w) := by
  unfold caller
  cases hbearer : request.bearer? with
  | none => exact outcome_bind_error (outcome_require _ _)
  | some bearer =>
      rw [outcome_bind_ok (outcome_require _ _)]
      rcases AuthorizationService.authenticate_cases api.authorization w bearer with
        ⟨principal, haccepts, _⟩ | ⟨_, hend⟩
      · exact absurd haccepts (h bearer hbearer principal)
      · exact hend

/-- Where only callers are answered, the caller is asked for first. -/
theorem respond_forCallers (api : Api) (h : request.ForCallers) : ∃ route,
    Route.ofPath? request.target.path = some route ∧
      route.methods.contains request.method = true ∧
      ∃ f, ∀ fresh, api.respond fresh request route = api.caller request >>= f := by
  cases h with
  | sessions hmethod hrouted =>
      refine ⟨.sessions, hrouted, ?_, _, fun fresh => rfl⟩
      rw [hmethod]
      rfl
  | decision r hasks =>
      obtain ⟨m, p, hrouted, hm, hp⟩ := hasks.routed
      refine ⟨.authorize m p, hrouted, ?_, ?_⟩
      · rw [hasks.method]
        rfl
      · simp only [respond, getAuthorization, hm, hp]
        exact ⟨_, fun fresh => rfl⟩

/-! ### Answers -/

theorem trace_answering (service : Service Response) :
    trace (answering service) FaultyStore.storage w = trace service FaultyStore.storage w := by
  unfold trace
  rw [run_answering, Program.trace_bind]
  exact List.append_nil _

/-- An anonymous request gets the answer that is given for want of a caller, without a call of the
storage, and leaves the world as it is. -/
theorem handle_anonymous (hasks : request.ForCallers) (h : api.Anonymous w request) (fresh : Fresh)
    (freshId : String) :
    outcome (api.handle fresh freshId request) FaultyStore.storage w =
        (.ok (outgoing freshId request (failed .unauthenticated)), w) ∧
      ∀ op ∈ trace (api.handle fresh freshId request) FaultyStore.storage w,
        op.SparesStorage := by
  obtain ⟨route, hroute, hmethod, f, hrespond⟩ := api.respond_forCallers hasks
  have hend : outcome (api.respond fresh request route) FaultyStore.storage w =
      (.error (.refused .unauthenticated), w) := by
    rw [hrespond]
    exact outcome_bind_error (caller_anonymous h)
  constructor
  · rw [outcome_handle hroute hmethod, hend]
    rfl
  · rw [handle_eq hroute hmethod, trace_map, trace_answering, hrespond,
      trace_bind_error (caller_anonymous h)]
    exact (api.within_caller request).trace w

/-- Nothing but the id of the request is added to the answer where more than its head is asked for. -/
theorem outgoing_get (hmethod : request.method = "GET") (freshId : String) (response : Response) :
    (outgoing freshId request response).body = response.body ∧
      ∀ name, name ≠ requestIdHeader →
        (outgoing freshId request response).header? name = response.header? name := by
  have hwhole : request.method ≠ "HEAD" := by
    rw [hmethod]
    decide
  unfold outgoing
  rw [if_neg hwhole]
  refine ⟨rfl, fun name hname => ?_⟩
  have hother : (name == requestIdHeader) = false := beq_false_of_ne hname
  simp [Response.header?, Response.withHeader, List.lookup_append, List.lookup_cons, hother]

/-- **Anonymous callers learn nothing.**  Take any two interfaces, in any two worlds, and a request to
each that only callers are answered.  If both are anonymous, whyever this is, they are answered alike,
with the status 401, the same body and the same headers but for their ids.  Neither of them makes a
call of the storage, and neither changes anything. -/
theorem anonymous_alike (api api' : Api) (w w' : World FaultyStore) (fresh fresh' : Fresh)
    (freshId freshId' : String) (request request' : Request) (hasks : request.ForCallers)
    (hasks' : request'.ForCallers) (h : api.Anonymous w request)
    (h' : api'.Anonymous w' request') :
    let service := api.handle fresh freshId request
    let service' := api'.handle fresh' freshId' request'
    (∃ response response',
      outcome service FaultyStore.storage w = (.ok response, w) ∧
      outcome service' FaultyStore.storage w' = (.ok response', w') ∧
      response.status = 401 ∧ response'.status = 401 ∧ response.body = response'.body ∧
      ∀ name, name ≠ requestIdHeader → response.header? name = response'.header? name) ∧
    (∀ op ∈ trace service FaultyStore.storage w, op.SparesStorage) ∧
    ∀ op ∈ trace service' FaultyStore.storage w', op.SparesStorage := by
  intro service service'
  obtain ⟨hrun, hcalls⟩ := handle_anonymous hasks h fresh freshId
  obtain ⟨hrun', hcalls'⟩ := handle_anonymous hasks' h' fresh' freshId'
  obtain ⟨hbody, hheaders⟩ := outgoing_get (Request.forCallers_iff.mp hasks).1 freshId
    (failed .unauthenticated)
  obtain ⟨hbody', hheaders'⟩ := outgoing_get (Request.forCallers_iff.mp hasks').1 freshId'
    (failed .unauthenticated)
  refine ⟨⟨_, _, hrun, hrun', ?_, ?_, hbody.trans hbody'.symm, fun name hname => ?_⟩,
    hcalls, hcalls'⟩
  · exact status_outgoing _ _ _
  · exact status_outgoing _ _ _
  · exact (hheaders name hname).trans (hheaders' name hname).symm

end Api

end Http

namespace Sample

open Http

/-- Asks without a header whether something on the list of policies may be done. -/
def headlessRequest : Request where
  method := "GET"
  target := ⟨"/v1/auth/authorize/Catalog/Leer", none⟩
  headers := []
  body := []
  peer := none

/-- Asks with a text that is no token where its bearer is logged in. -/
def staleRequest : Request where
  method := "GET"
  target := ⟨"/v1/auth/sessions", some "deviceId=phone"⟩
  headers := [("Authorization", Bytes.ofText "Bearer stale")]
  body := []
  peer := none

/-- An interface without policies that reads permissions from tokens. -/
def bareApi : Api := ⟨service, ⟨service.settings, .token⟩, ⟨.empty⟩, {}⟩

theorem forCallers_headlessRequest : headlessRequest.ForCallers := by
  refine Request.forCallers_iff.mpr ⟨rfl, .inr ⟨"Catalog", "Leer", by decide, by decide, by decide,
    by decide, ⟨"Catalog", "Leer"⟩, ?_, ?_⟩⟩
  · decide +kernel
  · decide +kernel

theorem forCallers_staleRequest : staleRequest.ForCallers :=
  Request.forCallers_iff.mpr ⟨rfl, .inl rfl⟩

theorem anonymous_headlessRequest (api : Api) (w : World FaultyStore) :
    api.Anonymous w headlessRequest :=
  Api.anonymous_iff.mpr (.inl rfl)

theorem anonymous_staleRequest (api : Api) (w : World FaultyStore) :
    api.Anonymous w staleRequest := by
  have hbearer : staleRequest.bearer? = some "stale" := by decide +kernel
  have hsegments : Token.Segments.ofText? "stale" = none := by decide +kernel
  refine Api.anonymous_iff.mpr (.inr ⟨"stale", hbearer, .inl ⟨.malformed, ?_⟩⟩)
  unfold Token.validate Token.verifiedClaims
  rw [hsegments]
  rfl

end Sample

namespace Http.Api

/-- A decision on a policy that there is and a listing of sessions, where there are no policies and
the storage is out of order, are refused alike. -/
theorem anonymous_alike_headless :
    Sample.headlessRequest.ForCallers ∧ Sample.staleRequest.ForCallers ∧
    Sample.api.Anonymous (Sample.world []) Sample.headlessRequest ∧
    Sample.bareApi.Anonymous (Sample.world Sample.slowFaults) Sample.staleRequest ∧
    ∃ response response',
      outcome (Sample.api.handle Sample.fresh "1" Sample.headlessRequest) FaultyStore.storage
          (Sample.world []) = (.ok response, Sample.world []) ∧
      outcome (Sample.bareApi.handle Sample.fresh "2" Sample.staleRequest) FaultyStore.storage
          (Sample.world Sample.slowFaults) = (.ok response', Sample.world Sample.slowFaults) ∧
      response.body = response'.body := by
  have hasks := Sample.forCallers_headlessRequest
  have hasks' := Sample.forCallers_staleRequest
  have h := Sample.anonymous_headlessRequest Sample.api (Sample.world [])
  have h' := Sample.anonymous_staleRequest Sample.bareApi (Sample.world Sample.slowFaults)
  obtain ⟨⟨response, response', hrun, hrun', _, _, hbody, _⟩, _⟩ :=
    anonymous_alike Sample.api Sample.bareApi _ _ Sample.fresh Sample.fresh "1" "2" _ _
      hasks hasks' h h'
  exact ⟨hasks, hasks', h, h', response, response', hrun, hrun', hbody⟩

end Http.Api

end Gatehouse

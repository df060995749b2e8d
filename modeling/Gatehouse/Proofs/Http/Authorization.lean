import Gatehouse.Http.Api
import Gatehouse.Proofs.Http.Bearer
import Gatehouse.Proofs.Http.Route
import Gatehouse.Proofs.Policy
import Gatehouse.Proofs.Service.Authorization

/-! # Asking for a policy over HTTP

A request whose route is known is answered by the service of the route, and a failure of it is
answered too (`outcome_handle`).  Who asks for a pair in the path and is accepted is told what is
decided on the policy found under the name of the pair, or that there is none
(`outcome_getAuthorization`).  So the pair that is decided on is the one in the path exactly as far
as the registry is faithful (`Registry.faithful_exact`). -/

namespace Gatehouse.Http

open Service

/-- The request asks for a pair, by its path. -/
structure Request.Asks (request : Request) (r : Requirement) : Prop where
  method : request.method = "GET"
  routed : ∃ m p, Route.ofPath? request.target.path = some (.authorize m p) ∧
    parameter "module" m = .ok r.module ∧ parameter "permission" p = .ok r.permissionType

namespace Api

variable {σ : Type} {storage : Storage σ} {w : World σ} {api : Api} {fresh : Fresh}
  {freshId : String} {request : Request} {route : Route}

/-! ### Responses -/

/-- A result with its failure answered. -/
def answered : Except Stop Response → Except Stop Response
  | .error (.refused failure) => .ok (failed failure)
  | result => result

theorem run_answering (service : Service Response) :
    (answering service).run = service.run.bind fun result => .done (answered result) := by
  change Program.bind service.run _ = Program.bind service.run _
  congr 1
  funext result
  cases result with
  | ok response => rfl
  | error stop => cases stop <;> rfl

theorem outcome_answering (service : Service Response) :
    outcome (answering service) storage w =
      (answered (outcome service storage w).1, (outcome service storage w).2) := by
  unfold outcome
  rw [run_answering, Program.run_bind]
  rfl

/-- What goes out for a response: without a body if only the head was asked for, and with the id of
the request. -/
def outgoing (freshId : String) (request : Request) (response : Response) : Response :=
  (if request.method = "HEAD" then response.withoutBody else response).withHeader requestIdHeader
    ((request.header? requestIdHeader).getD (Bytes.ofText freshId))

theorem status_outgoing (freshId : String) (request : Request) (response : Response) :
    (outgoing freshId request response).status = response.status := by
  unfold outgoing
  split <;> rfl

theorem handle_eq (hroute : Route.ofPath? request.target.path = some route)
    (hmethod : route.methods.contains request.method = true) :
    api.handle fresh freshId request =
      outgoing freshId request <$> answering (api.respond fresh request route) := by
  unfold handle dispatch
  rw [hroute]
  dsimp only
  rw [if_pos hmethod, map_eq_pure_bind, bind_assoc]
  rfl

/-- **Requests on a route.**  A request whose method the route allows is answered by its service. -/
theorem outcome_handle (hroute : Route.ofPath? request.target.path = some route)
    (hmethod : route.methods.contains request.method = true) :
    outcome (api.handle fresh freshId request) storage w =
      ((answered (outcome (api.respond fresh request route) storage w).1).map
          (outgoing freshId request),
        (outcome (api.respond fresh request route) storage w).2) := by
  rw [handle_eq hroute hmethod, outcome_map, outcome_answering]

/-! ### Authorization -/

/-- The response that tells a decision. -/
def decided : Decision → Response
  | .allow => { status := 204 }
  | .deny => { status := 403 }

variable {w : World FaultyStore} {bearer : String} {principal : Principal}

theorem outcome_caller (hbearer : request.bearer? = some bearer)
    (haccepts : api.authorization.Accepts w bearer principal) :
    outcome (api.caller request) FaultyStore.storage w = (.ok principal, w) := by
  unfold caller
  rw [hbearer, outcome_bind_ok (outcome_require _ _)]
  exact AuthorizationService.authenticate_of_accepts haccepts

/-- A caller that is accepted is told what is decided on the policy under the name of the pair. -/
theorem outcome_getAuthorization {m p : String} {r : Requirement}
    (hm : parameter "module" m = .ok r.module) (hp : parameter "permission" p = .ok r.permissionType)
    (hbearer : request.bearer? = some bearer)
    (haccepts : api.authorization.Accepts w bearer principal) :
    outcome (api.getAuthorization request m p) FaultyStore.storage w =
      match api.policies.lookup r.policyName with
      | none => (.ok (unknownPolicy r.policyName), w)
      | some r' =>
        let decision := outcome (api.authorization.authorize principal r') FaultyStore.storage w
        (decision.1.map decided, decision.2) := by
  unfold getAuthorization
  rw [hm, hp]
  change outcome (api.caller request >>= _) FaultyStore.storage w = _
  rw [outcome_bind_ok (outcome_caller hbearer haccepts)]
  obtain ⟨module, permissionType⟩ := r
  dsimp only
  cases api.policies.lookup (Requirement.mk module permissionType).policyName with
  | none => rfl
  | some r' =>
      have hdecided : outcome (decided <$> api.authorization.authorize principal r')
          FaultyStore.storage w = _ := outcome_map _ _
      rw [map_eq_pure_bind] at hdecided
      refine Eq.trans ?_ hdecided
      dsimp only
      congr 2
      funext decision
      cases decision <;> rfl

end Api

end Gatehouse.Http

namespace Gatehouse.Registry

open Service Http

/-- **Faithful registries, and what they mean to a caller.**  The registry of a catalog without
double names holds the declared pairs and nothing else exactly if no declared name contains the
separator.  In that case a caller that is accepted and asks for a pair in the path is told what is
decided on this very pair, if it is declared, and else that there is no such policy. -/
theorem faithful_exact (d : Declarations) (hm : (d.modules.map (·.name)).Nodup)
    (hp : (d.permissionTypes.map (·.name)).Nodup) :
    (Faithful d ↔ ∀ r ∈ requirements d, r.Plain '.') ∧
    (Faithful d → ∀ (api : Api) (w : World FaultyStore) (fresh : Fresh) (freshId : String)
      (request : Request) (r : Requirement) (bearer : String) (principal : Principal),
      api.policies = ofDeclarations d → request.Asks r → request.bearer? = some bearer →
      api.authorization.Accepts w bearer principal →
      let run := outcome (api.handle fresh freshId request) FaultyStore.storage w
      let decision := outcome (api.authorization.authorize principal r) FaultyStore.storage w
      let unknown := Api.outgoing freshId request (Api.unknownPolicy r.policyName)
      (r ∈ requirements d → run = ((Api.answered (decision.1.map Api.decided)).map
        (Api.outgoing freshId request), decision.2)) ∧
      (r ∉ requirements d → unknown.status = 404 ∧
        run = (.ok unknown, w))) := by
  refine ⟨faithful_iff hm hp, ?_⟩
  intro hfaithful api w fresh freshId request r bearer principal hpolicies hasks hbearer haccepts
    run decision unknown
  obtain ⟨m, p, hroute, hmodule, htype⟩ := hasks.routed
  have hmethod : (Route.authorize m p).methods.contains request.method = true := by
    rw [hasks.method]
    rfl
  have hrun : run = _ := Api.outcome_handle hroute hmethod
  have hend := Api.outcome_getAuthorization hmodule htype hbearer haccepts
  rw [hpolicies] at hend
  change run = ((Api.answered (outcome (api.getAuthorization request m p) _ w).1).map _,
    (outcome (api.getAuthorization request m p) _ w).2) at hrun
  rw [hend] at hrun
  constructor
  · intro hr
    rw [hfaithful.declared r hr] at hrun
    exact hrun
  · intro hr
    rw [hfaithful.undeclared r hr] at hrun
    exact ⟨Api.status_outgoing .., hrun⟩

end Gatehouse.Registry

namespace Gatehouse.Sample

/-- The modules and the permission types of a shop. -/
def shop : Declarations :=
  ⟨[⟨⟨1⟩, "Catalog", "", true⟩, ⟨⟨2⟩, "Identity", "", false⟩],
    [⟨⟨3⟩, "Leer", "L", ""⟩, ⟨⟨4⟩, "Administrar", "A", ""⟩]⟩

/-- The interface of the shop, which reads permissions from tokens. -/
def shopApi : Http.Api := ⟨service, ⟨service.settings, .token⟩, .ofDeclarations shop, {}⟩

/-- A request for a path that presents a bearer. -/
def asking (bearer path : String) : Http.Request where
  method := "GET"
  target := ⟨path, none⟩
  headers := [("Authorization", Bytes.ofText ("Bearer " ++ bearer))]
  body := []
  peer := none

theorem asks_asking {bearer path : String} {r : Requirement}
    (hpath : path = "/".intercalate (Http.Route.parts (.authorize r.module r.permissionType)) ∧
      (Http.Route.authorize r.module r.permissionType).Writable)
    (hm : Http.parameter "module" r.module = .ok r.module)
    (hp : Http.parameter "permission" r.permissionType = .ok r.permissionType) :
    (asking bearer path).Asks r :=
  ⟨rfl, _, _, Http.Route.ofPath?_iff.mpr hpath, hm, hp⟩

/-- A module whose name contains the separator of policy names. -/
def branch : Declarations :=
  ⟨[⟨⟨1⟩, "Ventas.Norte", "", true⟩], [⟨⟨2⟩, "Leer", "L", ""⟩]⟩

end Gatehouse.Sample

namespace Gatehouse.Registry

open Service Http

/-- The registry of the shop is faithful.  A caller whose token lists a pair of the shop is allowed
it, and is told of a pair that the shop does not declare that there is no policy for it. -/
theorem faithful_exact_shop :
    (Sample.shop.modules.map (·.name)).Nodup ∧ (Sample.shop.permissionTypes.map (·.name)).Nodup ∧
      Faithful Sample.shop ∧ ∃ bearer principal,
      Sample.shopApi.authorization.Accepts (Sample.world []) bearer principal ∧
      (Sample.asking bearer "/v1/auth/authorize/Catalog/Leer").bearer? = some bearer ∧
      (Sample.asking bearer "/v1/auth/authorize/Catalog/Leer").Asks ⟨"Catalog", "Leer"⟩ ∧
      (Sample.asking bearer "/v1/auth/authorize/Catalog/Crear").Asks ⟨"Catalog", "Crear"⟩ ∧
      (outcome (Sample.shopApi.handle Sample.fresh "1"
          (Sample.asking bearer "/v1/auth/authorize/Catalog/Leer")) FaultyStore.storage
          (Sample.world [])).1.map (·.status) = .ok 204 ∧
      (outcome (Sample.shopApi.handle Sample.fresh "2"
          (Sample.asking bearer "/v1/auth/authorize/Catalog/Crear")) FaultyStore.storage
          (Sample.world [])).1.map (·.status) = .ok 404 := by
  have hm : (Sample.shop.modules.map (·.name)).Nodup := by decide
  have hp : (Sample.shop.permissionTypes.map (·.name)).Nodup := by decide
  obtain ⟨hplain, hanswer⟩ := faithful_exact Sample.shop hm hp
  have hfaithful := hplain.mpr (by decide)
  obtain ⟨issued, hissue⟩ : ∃ issued, Token.issue Sample.service.settings (.ofSeconds 0) ⟨3⟩
      Sample.identity ⟨[], ["Catalog:Leer"]⟩ = some issued := ⟨_, rfl⟩
  obtain ⟨_, hexpiry, _, _, _, hvalid⟩ :=
    Token.validate_issue (Int.le_refl 0) hissue (.ofSeconds 0)
  cases hexpiry.symm.trans (show (Instant.ofSeconds 0).add? _ = some (.ofSeconds 3600) by decide)
  rw [if_neg (by decide), if_neg (by decide)] at hvalid
  have haccepts : Sample.shopApi.authorization.Accepts (Sample.world []) issued.token _ :=
    ⟨hvalid, fun hblacklist => by cases hblacklist⟩
  have hbearer (path : String) :
      (Sample.asking issued.token path).bearer? = some issued.token := by
    have hname : "Authorization".toLower = "authorization" := by decide +kernel
    exact Request.bearer?_of_issue hissue (by simp [Request.header?, Sample.asking, hname])
  have hasks : (Sample.asking issued.token "/v1/auth/authorize/Catalog/Leer").Asks
      ⟨"Catalog", "Leer"⟩ :=
    Sample.asks_asking ⟨by decide, by decide, by decide, by decide⟩ (by decide +kernel)
      (by decide +kernel)
  have hasks' : (Sample.asking issued.token "/v1/auth/authorize/Catalog/Crear").Asks
      ⟨"Catalog", "Crear"⟩ :=
    Sample.asks_asking ⟨by decide, by decide, by decide, by decide⟩ (by decide +kernel)
      (by decide +kernel)
  obtain ⟨hdeclared, _⟩ := hanswer hfaithful Sample.shopApi (Sample.world []) Sample.fresh "1" _ _
    issued.token _ rfl hasks (hbearer _) haccepts
  obtain ⟨_, hundeclared⟩ := hanswer hfaithful Sample.shopApi (Sample.world []) Sample.fresh "2" _ _
    issued.token _ rfl hasks' (hbearer _) haccepts
  obtain ⟨hstatus, hunknown⟩ := hundeclared (by decide)
  have hdecides (p : Principal) (huser : p.userId = some Sample.identity.id)
      (hlisted : p.permissions = ["Catalog:Leer"]) :
      outcome (Sample.shopApi.authorization.authorize p ⟨"Catalog", "Leer"⟩) FaultyStore.storage
        (Sample.world []) = (.ok .allow, Sample.world []) := by
    refine (AuthorizationService.authorize_of_token huser _).trans ?_
    unfold Principal.hasPermission
    rw [hlisted]
    rfl
  refine ⟨hm, hp, hfaithful, issued.token, _, haccepts, hbearer _, hasks, hasks', ?_, ?_⟩
  · rw [hdeclared (by decide), hdecides _ rfl rfl]
    rfl
  · rw [hunknown]
    exact congrArg Except.ok hstatus

/-- Not every registry of a catalog without double names is faithful: that of the branch answers to
the name of a pair that is not declared. -/
theorem unfaithful_branch :
    ¬ ∀ d : Declarations, (d.modules.map (·.name)).Nodup →
      (d.permissionTypes.map (·.name)).Nodup → Faithful d := by
  intro h
  have hmixed : ¬ ∀ r ∈ requirements Sample.branch, r.Plain '.' := by decide
  have hm : (Sample.branch.modules.map (·.name)).Nodup := by decide
  have hp : (Sample.branch.permissionTypes.map (·.name)).Nodup := by decide
  exact hmixed ((faithful_iff hm hp).mp (h Sample.branch hm hp))

end Gatehouse.Registry

import Gatehouse.Proofs.Concurrency.Refresh

/-! # Every operation keeps to the id that it drew

No operation adds a session but a login and a refresh, and those add one under the id that they drew
for it, which nobody else takes (`Operation.assures_keeps`). -/

namespace Gatehouse

open Service

variable {o : Operation} {w : World FaultyStore}

theorem keeps_of_noRotation {op : Backend.Op} (h : op.NoRotation)
    (next : Backend.Answer op → Program Backend (Except Stop Operation.Reply))
    (w : World FaultyStore) :
    o.Keeps (.call op next) w := by
  cases op with
  | store call => cases call <;> first | trivial | exact absurd rfl (h _)
  | now => trivial
  | refuse tokenId expiresAt now => trivial
  | isRefused tokenId now => trivial
  | health => trivial

/-- A program that never rotates keeps every id. -/
theorem assures_of_noRotation {wanted : Except Stop Operation.Reply → Prop}
    {rely : World FaultyStore → World FaultyStore → Prop}
    {p : Program Backend (Except Stop Operation.Reply)}
    (hp : p.Within Backend.Op.NoRotation wanted) :
    p.Assures (World.handler FaultyStore.storage) rely o.Keeps w := by
  refine (hp.assures w).mono ?_
  rintro (result | ⟨op, next⟩) w' hw
  · trivial
  · exact keeps_of_noRotation hw next w'

/-! ### Logins -/

/-- What is left of a login when it is ready to write. -/
def committing (request : LoginRequest) (transport : Transport) (r : LoginService.Ready) :
    Service LoginAnswer := do
  let session ← Sessions.commit r.pending
  let client := Client.classify request.hints transport
  let activeSessions ← Sessions.list r.identity.id client.deviceId
  pure (r.answer session client.flavor activeSessions)

/-- What is left of a login after its rotation. -/
def listing (request : LoginRequest) (transport : Transport) (r : LoginService.Ready) :
    Except Trouble RotationOutcome → Program Backend (Except Stop Operation.Reply)
  | .error trouble => told .login (.error (stopOf none trouble))
  | .ok .superseded => unauthenticated
  | .ok (.committed _) =>
    let client := Client.classify request.hints transport
    (Sessions.list r.identity.id client.deviceId >>= fun activeSessions =>
      pure (r.answer r.pending.session client.flavor activeSessions)).run.bind (told .login)

theorem service_login (s : LoginService) (fresh : Fresh) (request : LoginRequest)
    (transport : Transport) :
    (Operation.login fresh request transport).service s =
      s.login fresh request transport >>= fun answer => pure (Operation.Reply.login answer) := rfl

theorem stages_eq (s : LoginService) (fresh : Fresh) (request : LoginRequest)
    (transport : Transport) :
    s.stages fresh request transport =
      s.ready fresh request transport >>= committing request transport := by
  simp only [LoginService.stages, LoginService.opened, bind_assoc, pure_bind]
  rfl

theorem run_committing (request : LoginRequest) (transport : Transport) (r : LoginService.Ready) :
    (committing request transport r).run.bind (told .login) =
      .call .now fun now => .call (.store (.rotate (r.pending.rotation now)))
        (listing request transport r) :=
  run_commit_bind (fun _ => rfl) rfl fun _ => rfl

theorem assures_listing (request : LoginRequest) (transport : Transport) (r : LoginService.Ready)
    {rely : World FaultyStore → World FaultyStore → Prop}
    (reply : Except Trouble RotationOutcome) :
    (listing request transport r reply).Assures (World.handler FaultyStore.storage) rely
      o.Keeps w := by
  rcases reply with trouble | _ | _
  · exact .done fun _ _ => trivial
  · have hlist : (Sessions.list r.identity.id
        (Client.classify request.hints transport).deviceId).Within Backend.Op.NoRotation AnyValue :=
      (Sessions.within_list _ _).noRotation
    have htold : ∀ result : Except Stop LoginAnswer, Wanted AnyValue result →
        (told .login result).Within Backend.Op.NoRotation fun _ => True := fun _ _ => .done trivial
    refine assures_of_noRotation (Program.Within.bind (Within.bind hlist ?_) htold)
    exact fun activeSessions _ => Within.pure trivial
  · exact .done fun _ _ => trivial

/-- A login keeps to the id that it drew. -/
theorem assures_login (s : LoginService) (fresh : Fresh) (request : LoginRequest)
    (transport : Transport) (hfree : w.sessions.get? fresh.session.id = none) :
    ((Operation.login fresh request transport).service s).run.Assures
      (World.handler FaultyStore.storage) (World.Moves (· = fresh.session.id))
      (Operation.login fresh request transport).Keeps w := by
  rw [service_login, LoginService.login_eq]
  cases Validation.login request.email request.password with
  | error failure => exact .done fun _ _ => trivial
  | ok =>
      change (withDeadline LoginService.deadlineContext _ >>= _).run.Assures _ _ _ _
      rw [run_told, stages_eq, run_bind, Program.bind_assoc]
      have hmoves : ∀ w w' : World FaultyStore, w.Moves (· = fresh.session.id) w' →
          w.sessions.get? fresh.session.id = none → w'.sessions.get? fresh.session.id = none :=
        fun _ _ hw hk => hw.free _ rfl hk
      have hcalls : ∀ (op : Backend.Op) (w : World FaultyStore), op.ReadsGraph →
          w.sessions.get? fresh.session.id = none →
          (World.handler FaultyStore.storage op w).2.sessions.get? fresh.session.id = none := by
        intro op w hop hk
        rw [hop.reads.handler]
        exact hk
      have hread := Program.assures_of_within (s.within_ready fresh request transport) hmoves
        hcalls hfree
      refine hread.bind (World.Moves.refl _) ?_ ?_
      · exact fun op next w' hop => keeps_of_noRotation hop.1.reads.noRotation _ w'
      · rintro (stop | r) w₁ ⟨hr, hfree₁⟩
        · exact .done fun _ _ => trivial
        · change ((committing request transport r).run.bind (told .login)).Assures _ _ _ _
          obtain ⟨_, hpending⟩ := hr
          have hid : r.pending.session.id = fresh.session.id :=
            (PendingSession.ofLogin_eq_some hpending).2.1
          rw [run_committing]
          refine .call (fun _ _ => trivial) fun w₂ hw₂ => ?_
          refine .call (fun w₃ hw₃ => ⟨hid, ?_⟩) fun w₃ _ => assures_listing request transport r _
          change w₃.sessions.get? r.pending.session.id = none
          rw [hid]
          exact hw₃.free _ rfl (hw₂.free _ rfl hfree₁)

/-! ### All operations -/

/-- A refresh keeps to the id that it drew. -/
theorem Renews.keeps {hash : Bytes} {fresh : Fresh} {token : String}
    {p : Program Backend (Except Stop Operation.Reply)} (h : Renews hash fresh p w) :
    (Operation.refresh fresh token).Keeps p w := by
  cases p with
  | done result => trivial
  | call op next =>
      by_cases hr : ∃ r, op = .store (.rotate r)
      · obtain ⟨r, rfl⟩ := hr
        refine ⟨h.id_eq, ?_⟩
        rw [h.id_eq]
        exact h.free
      · exact keeps_of_noRotation (fun r he => hr ⟨r, he⟩) next w

/-- An operation that draws no id adds no session. -/
theorem Operation.within_service (s : LoginService) (o : Operation) (h : ∀ id, ¬ o.Draws id) :
    (o.service s).Within Backend.Op.NoRotation AnyValue := by
  have moving : ∀ {α : Type} {p : Service α} (f : α → Operation.Reply),
      p.Within Backend.Op.Moving AnyValue →
      (p >>= fun a => pure (f a)).Within Backend.Op.NoRotation AnyValue :=
    fun f hp => Within.bind hp.noRotation fun _ _ => Within.pure trivial
  cases o with
  | login fresh request transport => exact absurd rfl (h _)
  | refresh fresh token => exact absurd rfl (h _)
  | logout token accessToken =>
      exact Within.bind (s.within_logout token accessToken) fun _ _ => Within.pure trivial
  | activeSessions userId hints transport =>
      exact moving .sessions (LoginService.within_activeSessions userId hints transport)
  | touch id => exact moving (fun _ => .done) (Sessions.within_touch id)
  | revoke id reason => exact moving (fun _ => .done) (Sessions.within_revoke id reason)
  | revokeAll userId reason => exact moving .count (Sessions.within_revokeAll userId reason)
  | authenticate bearer =>
      refine Within.bind (Within.mono (AuthorizationService.within_authenticate _ bearer)
        (fun _ => ?_) fun _ h => h) fun _ _ => Within.pure trivial
      exact Backend.Op.SparesStorage.noRotation

/-- **Every operation keeps to the id that it drew,** whatever the others do. -/
theorem Operation.assures_keeps (s : LoginService) (o : Operation)
    (horderly : w.stored.store.Orderly) (hfree : ∀ id, o.Draws id → w.sessions.get? id = none) :
    (o.service s).run.Assures (World.handler FaultyStore.storage) (World.Moves o.Draws)
      o.Keeps w := by
  by_cases hd : ∃ id, o.Draws id
  · obtain ⟨id, hd⟩ := hd
    cases o with
    | login fresh request transport =>
        exact assures_login s fresh request transport (hfree _ rfl)
    | refresh fresh token =>
        exact (assures_refresh s fresh token horderly (hfree _ rfl)).mono fun _ _ h => h.keeps
    | _ => cases hd
  · exact assures_of_noRotation (o.within_service s fun id h => hd ⟨id, h⟩)

end Gatehouse

import Gatehouse.Proofs.Concurrency.Keeping
import Gatehouse.Proofs.Service.Renewal

/-! # A refresh token is used once

However the calls of any number of operations come in, one refresh at most succeeds with a token
(`refresh_single_use`).  The argument is the one by which a stale write is refused: the rotation of
a refresh names the session that the refresh has found, and is carried out only while that session
is active.  In the step in which it is carried out the session is revoked (`Renews.step`), revoked
sessions stay revoked (`Spent.moves`), and a token whose session is revoked is of no more use
(`Renews.step_of_spent`). -/

namespace Gatehouse

open Service

/-- The call looks at sessions to find or to replace one. -/
def Backend.Op.LooksUp (op : Backend.Op) : Prop :=
  (∃ hash, op = .store (.findByTokenHash hash)) ∨ ∃ r, op = .store (.rotate r)

variable {hash : Bytes} {fresh : Fresh} {w : World FaultyStore} {op : Backend.Op}
  {next : Backend.Answer op → Program Backend (Except Stop Operation.Reply)}

/-! ### One step of a refresh -/

/-- A refresh that does not look at sessions next reads, and has not succeeded after it. -/
theorem Renews.of_not_looksUp (h : Renews hash fresh (.call op next) w) (hop : ¬ op.LooksUp) :
    op.ReadsGraph ∧ Unfinished next := by
  cases op with
  | store call =>
      cases call with
      | findByTokenHash hash' => exact absurd (.inl ⟨_, rfl⟩) hop
      | rotate r => exact absurd (.inr ⟨_, rfl⟩) hop
      | _ => exact h
  | _ => exact h

/-- **One step of a refresh** leaves the world and is no success, or it is a succession by which the
refresh succeeds. -/
theorem Renews.step (h : Renews hash fresh (.call op next) w) :
    ((World.handler FaultyStore.storage op w).2 = w ∧
      ∀ reply, next (World.handler FaultyStore.storage op w).1 ≠ .done (.ok reply)) ∨
    (Succeeds hash fresh w (World.handler FaultyStore.storage op w).2 ∧
      ∃ tokens, next (World.handler FaultyStore.storage op w).1 = .done (.ok (.pair tokens))) := by
  by_cases hop : op.LooksUp
  · rcases hop with ⟨hash', rfl⟩ | ⟨r, rfl⟩
    · have hread : Backend.Op.Reads (.store (.findByTokenHash hash')) := rfl
      exact .inl ⟨hread.handler w, h.2.1 _⟩
    · change Due hash fresh r next w at h
      change ({ w with stored := (FaultyStore.answer (.rotate r) w.stored).2 } = w ∧
          ∀ reply, next (FaultyStore.answer (.rotate r) w.stored).1 ≠ .done (.ok reply)) ∨
        Succeeds hash fresh w { w with stored := (FaultyStore.answer (.rotate r) w.stored).2 } ∧
          ∃ tokens, next (FaultyStore.answer (.rotate r) w.stored).1 = .done (.ok (.pair tokens))
      by_cases hc : ∃ ids, (FaultyStore.answer (.rotate r) w.stored).1 = .ok (.committed ids)
      · obtain ⟨ids, hc⟩ := hc
        refine .inr ⟨h.succeeds hc, ?_⟩
        rw [hc]
        exact h.committed ids
      · have hkept := Due.unchanged (r := r) (w := w) fun ids hids => hc ⟨ids, hids⟩
        refine .inl ⟨by rw [hkept], ?_⟩
        intro reply hreply
        cases ha : (FaultyStore.answer (.rotate r) w.stored).1 with
        | error trouble =>
            obtain ⟨stop, hstop⟩ := h.failed trouble
            rw [ha, hstop] at hreply
            cases hreply
        | ok outcome =>
            cases outcome with
            | committed ids => exact hc ⟨ids, ha⟩
            | superseded =>
                rw [ha, h.superseded] at hreply
                cases hreply
  · obtain ⟨hread, hnext⟩ := h.of_not_looksUp hop
    exact .inl ⟨hread.reads.handler w, hnext _⟩

/-- The session with a digest that is spent is revoked. -/
theorem Spent.revoked (h : Spent hash w) (ho : w.stored.store.Orderly) {id : Uuid} {c : Session}
    (hc : w.sessions.get? id = some c) (hhash : c.tokenHash = hash) : c.revoked = true := by
  obtain ⟨id', c', hc', hhash', hr⟩ := h
  have hid : id = id' := ho.hash_unique hc hc' (hhash.trans hhash'.symm)
  rw [hid, hc'] at hc
  cases hc
  exact hr

/-- **A spent token is of no more use:** no step of its refresh changes the world or is a success,
and where the refresh looks at its session it ends as unauthenticated. -/
theorem Renews.step_of_spent (h : Renews hash fresh (.call op next) w) (hs : Spent hash w)
    (ho : w.stored.store.Orderly) (hf : w.stored.faults = []) :
    (World.handler FaultyStore.storage op w).2 = w ∧
      (∀ reply, next (World.handler FaultyStore.storage op w).1 ≠ .done (.ok reply)) ∧
      (op.LooksUp → next (World.handler FaultyStore.storage op w).1 = unauthenticated) := by
  have hsound := FaultyStore.lookup_of_sound hf
  by_cases hop : op.LooksUp
  · have hend : (World.handler FaultyStore.storage op w).2 = w ∧
        next (World.handler FaultyStore.storage op w).1 = unauthenticated := by
      rcases hop with ⟨hash', rfl⟩ | ⟨r, rfl⟩
      · obtain ⟨rfl, _, hfound⟩ := h
        have ha : FaultyStore.answer (.findByTokenHash hash') w.stored =
            (.ok (w.stored.store.findByTokenHash hash'), w.stored) :=
          FaultyStore.answer_ok (hsound _) rfl
        change { w with stored := (FaultyStore.answer (.findByTokenHash hash') w.stored).2 } = w ∧
          next (FaultyStore.answer (.findByTokenHash hash') w.stored).1 = unauthenticated
        rw [ha]
        refine ⟨rfl, hfound _ fun c hc => ?_⟩
        obtain ⟨hget, hhash⟩ := ho.findByTokenHash_eq_some hc
        exact hs.revoked ho hget hhash
      · change Due hash fresh r next w at h
        obtain ⟨id, c, hc, _, hhash, hreplaces, _⟩ := h.replaces
        have hget : w.stored.store.sessions.get? id = some c := hc
        have hinactive : w.stored.store.replacedIsActive r = false := by
          rw [MemoryStore.replacedIsActive, hreplaces, Option.all_some, hget, Option.any_some,
            Session.isActive, hs.revoked ho hc hhash]
          rfl
        have hrotate : w.stored.store.rotate r = .ok (.superseded, w.stored.store) := by
          rw [MemoryStore.rotate, hinactive]
          rfl
        have ha : FaultyStore.answer (.rotate r) w.stored = (.ok .superseded, w.stored) :=
          FaultyStore.answer_ok (hsound _) hrotate
        change { w with stored := (FaultyStore.answer (.rotate r) w.stored).2 } = w ∧
          next (FaultyStore.answer (.rotate r) w.stored).1 = unauthenticated
        rw [ha]
        exact ⟨rfl, h.superseded⟩
    refine ⟨hend.1, fun reply hreply => ?_, fun _ => hend.2⟩
    rw [hend.2] at hreply
    cases hreply
  · obtain ⟨hread, hnext⟩ := h.of_not_looksUp hop
    exact ⟨hread.reads.handler w, hnext _, fun hl => absurd hl hop⟩

/-! ### Refreshes in a system -/

namespace System

variable {s : LoginService} {start sys later : System}

/-- Every operation keeps to its id, and every refresh renews. -/
def singleUse (s : LoginService) : Assurance s where
  ok o p w := o.Keeps p w ∧
    ∀ fresh token, o = .refresh fresh token → Renews (refreshTokenHash token) fresh p w
  keeps h := h.1
  arrives o w _ ho hfree := by
    by_cases hr : ∃ fresh token, o = .refresh fresh token
    · obtain ⟨fresh, token, rfl⟩ := hr
      refine (assures_refresh s fresh token ho (hfree _ rfl)).mono fun p w h => ⟨h.keeps, ?_⟩
      rintro _ _ ⟨rfl, rfl⟩
      exact h
    · refine (o.assures_keeps s ho hfree).mono fun p w h => ⟨h, fun fresh token he => ?_⟩
      exact absurd ⟨fresh, token, he⟩ hr

/-- The operation is a refresh of a token, and this is left of it. -/
def Refreshing (sys : System) (i : Nat) (fresh : Fresh) (token : String)
    (rest : Program Backend (Except Stop Operation.Reply)) : Prop :=
  sys.jobs[i]? = some ⟨.refresh fresh token, rest⟩

theorem renews {i : Nat} {fresh : Fresh} {token : String}
    {rest : Program Backend (Except Stop Operation.Reply)} (h : sys.Invariant (singleUse s))
    (hi : sys.Refreshing i fresh token rest) :
    Renews (refreshTokenHash token) fresh rest sys.world :=
  (h.ok hi).2 fresh token rfl

/-- A new refresh has not succeeded. -/
theorem service_refresh_ne (s : LoginService) (fresh : Fresh) (token : String)
    (reply : Operation.Reply) :
    ((Operation.refresh fresh token).service s).run ≠ .done (.ok reply) := by
  intro he
  cases hv : Validation.refreshToken token with
  | error failure =>
      rw [run_refresh_of_invalid s fresh hv] at he
      cases he
  | ok =>
      rw [run_refresh s fresh hv] at he
      cases he

/-- A refresh that has succeeded had succeeded before, or did so by its last call. -/
theorem success_step {i : Nat} {fresh : Fresh} {token : String} {reply : Operation.Reply}
    (hs : Step s sys later) (hi : later.Refreshing i fresh token (.done (.ok reply))) :
    sys.Refreshing i fresh token (.done (.ok reply)) ∨
      later = sys.advance i ∧ ∃ op next, sys.Refreshing i fresh token (.call op next) ∧
        next (World.handler FaultyStore.storage op sys.world).1 = .done (.ok reply) := by
  cases hs with
  | tick t ht => exact .inl hi
  | arrive o ho =>
      unfold Refreshing at hi
      dsimp only at hi
      rcases Nat.lt_or_ge i sys.jobs.length with hlt | hge
      · rw [List.getElem?_append_left hlt] at hi
        exact .inl hi
      · rw [List.getElem?_append_right hge, List.getElem?_singleton] at hi
        split_ifs at hi
        injection hi with hi
        injection hi with ho' hrest
        rw [ho'] at hrest
        exact absurd hrest (service_refresh_ne s fresh token reply)
  | call k =>
      by_cases hk : k = i
      · subst hk
        cases hj : sys.jobs[k]? with
        | none =>
            rw [advance_of_none hj] at hi
            exact .inl hi
        | some job =>
            obtain ⟨o, rest⟩ := job
            cases rest with
            | done result =>
                rw [advance_of_done hj] at hi
                exact .inl hi
            | call op next =>
                have hnext := (jobs_advance_of_call hj).symm.trans hi
                injection hnext with hnext
                injection hnext with ho hrest
                rw [ho] at hj
                exact .inr ⟨rfl, op, next, hj, hrest⟩
      · unfold Refreshing at hi
        rw [jobs_advance_of_ne hk] at hi
        exact .inl hi

/-- With one token at most one refresh has succeeded. -/
theorem success_unique (h : start.Invariant (singleUse s)) (hempty : start.jobs = [])
    (hs : Reaches s start sys) {i j : Nat} {fresh fresh' : Fresh} {token token' : String}
    {reply reply' : Operation.Reply} (hi : sys.Refreshing i fresh token (.done (.ok reply)))
    (hj : sys.Refreshing j fresh' token' (.done (.ok reply')))
    (htoken : refreshTokenHash token = refreshTokenHash token') : i = j := by
  induction hs with
  | refl =>
      unfold Refreshing at hi
      rw [hempty] at hi
      cases hi
  | @tail before after hprev hstep ih =>
      have hinv := h.reaches hprev
      -- The last call of a success found the token unspent; that of another one spent it.
      have spent : ∀ {i : Nat} {fresh : Fresh} {token : String} {reply : Operation.Reply},
          before.Refreshing i fresh token (.done (.ok reply)) →
            Spent (refreshTokenHash token) before.world := fun hi => renews hinv hi
      have unspent : ∀ {i : Nat} {fresh : Fresh} {token : String} {op} {next}
          {reply : Operation.Reply},
          before.Refreshing i fresh token (.call op next) →
          next (World.handler FaultyStore.storage op before.world).1 = .done (.ok reply) →
            ¬ Spent (refreshTokenHash token) before.world := fun hi hreply hspent =>
        ((renews hinv hi).step_of_spent hspent hinv.orderly hinv.faults).2.1 _ hreply
      rcases success_step hstep hi with hi' | ⟨hafter, op, next, hi', hreply⟩ <;>
        rcases success_step hstep hj with hj' | ⟨hafter', op', next', hj', hreply'⟩
      · exact ih hi' hj'
      · exact absurd (htoken ▸ spent hi') (unspent hj' hreply')
      · exact absurd (htoken ▸ spent hj') (unspent hi' hreply)
      · by_contra hij
        unfold Refreshing at hj hj'
        rw [hafter, jobs_advance_of_ne hij, hj'] at hj
        cases hj

/-- With a token that is spent no refresh succeeds any more. -/
theorem success_of_spent (h : sys.Invariant (singleUse s)) {i : Nat} {fresh : Fresh}
    {token : String} {reply : Operation.Reply} (hspent : Spent (refreshTokenHash token) sys.world)
    (hl : Reaches s sys later) (hi : later.Refreshing i fresh token (.done (.ok reply))) :
    sys.Refreshing i fresh token (.done (.ok reply)) := by
  induction hl with
  | refl => exact hi
  | @tail before after hprev hstep ih =>
      have hinv := h.reaches hprev
      rcases success_step hstep hi with hi' | ⟨_, op, next, hi', hreply⟩
      · exact ih hi'
      · have hspent' := hspent.moves (h.moves hprev)
        exact absurd hreply
          (((renews hinv hi').step_of_spent hspent' hinv.orderly hinv.faults).2.1 reply)

/-- **Refresh tokens are used once.**  In every system that is reached from one without operations:
of all refreshes with one token at most one has succeeded; a step of a refresh leaves the world and
is no success, or it revokes the session of the token as rotated, stores the successor, and is the
success of the refresh, all at once; and from the time when the session of a token is revoked, by
whatever operation, no refresh with the token changes the world or succeeds, and it ends as
unauthenticated where it looks for the session or rotates. -/
theorem refresh_single_use (s : LoginService) {start sys : System} (hstart : start.Initial)
    (hsys : Reaches s start sys) :
    (∀ {i j : Nat} {fresh fresh' : Fresh} {token token' : String} {reply reply' : Operation.Reply},
      sys.Refreshing i fresh token (.done (.ok reply)) →
      sys.Refreshing j fresh' token' (.done (.ok reply')) →
      refreshTokenHash token = refreshTokenHash token' → i = j) ∧
    (∀ {i : Nat} {fresh : Fresh} {token : String} {op : Backend.Op}
      {next : Backend.Answer op → Program Backend (Except Stop Operation.Reply)},
      sys.Refreshing i fresh token (.call op next) →
      ((sys.advance i).world = sys.world ∧
        ∀ reply, ¬ (sys.advance i).Refreshing i fresh token (.done (.ok reply))) ∨
      (Succeeds (refreshTokenHash token) fresh sys.world (sys.advance i).world ∧
        ∃ tokens, (sys.advance i).Refreshing i fresh token (.done (.ok (.pair tokens))))) ∧
    (∀ {token : String} {later : System}, Spent (refreshTokenHash token) sys.world →
      Reaches s sys later →
      ∀ {i : Nat} {fresh : Fresh} {rest : Program Backend (Except Stop Operation.Reply)},
        later.Refreshing i fresh token rest →
        (later.advance i).world = later.world ∧
        (∀ reply, rest = .done (.ok reply) → sys.Refreshing i fresh token rest) ∧
        ∀ op next, rest = .call op next → op.LooksUp →
          (later.advance i).Refreshing i fresh token unauthenticated) := by
  have hinit : start.Invariant (singleUse s) := hstart.invariant _
  have h : sys.Invariant (singleUse s) := hinit.reaches hsys
  refine ⟨success_unique hinit hstart.jobs hsys, fun hi => ?_, ?_⟩
  · have hworld := congrArg System.world (advance_of_call hi)
    have hjob := jobs_advance_of_call hi
    rcases (renews h hi).step with ⟨hsame, hnone⟩ | ⟨hsucceeds, tokens, htokens⟩
    · refine .inl ⟨hworld.trans hsame, fun reply hreply => ?_⟩
      have heq := Option.some.inj (hjob.symm.trans hreply)
      injection heq with _ hrest
      exact hnone reply hrest
    · refine .inr ⟨?_, tokens, ?_⟩
      · rw [hworld]
        exact hsucceeds
      · unfold Refreshing
        rw [hjob, htokens]
  · intro token later hspent hl i fresh rest hi
    have h' : later.Invariant (singleUse s) := h.reaches hl
    have hspent' := hspent.moves (h.moves hl)
    refine ⟨?_, ?_, ?_⟩
    · cases rest with
      | done result => rw [advance_of_done hi]
      | call op next =>
          rw [advance_of_call hi]
          exact ((renews h' hi).step_of_spent hspent' h'.orderly h'.faults).1
    · rintro reply rfl
      exact success_of_spent h hspent hl hi
    · rintro op next rfl hop
      unfold Refreshing
      rw [jobs_advance_of_call hi,
        ((renews h' hi).step_of_spent hspent' h'.orderly h'.faults).2.2 hop]

/-- A job runs through the first part of what is left of it. -/
theorem reaches_bind {β : Type} {i : Nat} {o : Operation} {p : Program Backend β}
    {f : β → Program Backend (Except Stop Operation.Reply)}
    (hi : sys.jobs[i]? = some ⟨o, p.bind f⟩) :
    Reaches s sys ⟨(p.run (World.handler FaultyStore.storage) sys.world).2,
      sys.jobs.set i ⟨o, f (p.run (World.handler FaultyStore.storage) sys.world).1⟩⟩ := by
  induction p generalizing sys with
  | done a =>
      obtain ⟨hlt, hget⟩ := List.getElem?_eq_some_iff.mp hi
      have hsame : sys.jobs.set i ⟨o, f a⟩ = sys.jobs := by
        change sys.jobs[i] = ⟨o, f a⟩ at hget
        rw [← hget, List.set_getElem_self]
      change Reaches s sys ⟨sys.world, sys.jobs.set i ⟨o, f a⟩⟩
      rw [hsame]
  | call op next ih =>
      have hi : sys.jobs[i]? = some ⟨o, .call op fun answer => (next answer).bind f⟩ := hi
      have hnext := ih _ (jobs_advance_of_call hi)
      rw [advance_of_call hi] at hnext
      dsimp only at hnext
      rw [List.set_set] at hnext
      refine .head (.call i) ?_
      rw [advance_of_call hi]
      exact hnext

end System

namespace Sample

/-- The system of the sample store before any operation. -/
def start : System := ⟨⟨.ofSeconds 0, .empty, ⟨store, []⟩⟩, []⟩

/-- The random values of two refreshes. -/
def drawn : Fresh × Fresh := (⟨⟨⟨1⟩, "refresh"⟩, ⟨0⟩⟩, ⟨⟨⟨2⟩, "other"⟩, ⟨3⟩⟩)

/-- A refresh of the session of the sample store which has found it active. -/
def refreshing (fresh : Fresh) : Job :=
  ⟨.refresh fresh "first", goingOn service fresh (some session)⟩

end Sample

namespace System

theorem initial_sample : Sample.start.Initial := ⟨rfl, rfl, Sample.reachable_store⟩

/-- A refresh that arrives in the sample world finds the session. -/
theorem reaches_refreshing {jobs : List Job} (fresh : Fresh)
    (hunused : (System.mk Sample.start.world jobs).Unused fresh.session.id) :
    Reaches Sample.service ⟨Sample.start.world, jobs⟩
      ⟨Sample.start.world, jobs ++ [Sample.refreshing fresh]⟩ := by
  have harrive : Step Sample.service ⟨Sample.start.world, jobs⟩ _ :=
    .arrive (.refresh fresh "first") fun id hid => hid ▸ hunused
  rw [run_refresh Sample.service fresh Sample.valid_first] at harrive
  -- The lookup is the first part of the refresh.
  let lookup : Program Backend (Instant × Except Trouble (Option Session)) :=
    .call .now fun now => .call (.store (.findByTokenHash (refreshTokenHash "first"))) fun reply =>
      .done (now, reply)
  have hfound : Reaches Sample.service ⟨Sample.start.world, jobs ++ [⟨.refresh fresh "first",
      lookup.bind fun found => afterLookup Sample.service fresh found.1 found.2⟩]⟩ _ :=
    reaches_bind List.getElem?_concat_length
  rw [List.set_append_right _ _ (Nat.le_refl _), Nat.sub_self] at hfound
  change Reaches _ _ ⟨Sample.start.world, jobs ++ [⟨_, goingOn Sample.service fresh
    (Sample.store.activeByToken "first" (.ofSeconds 0))⟩]⟩ at hfound
  rw [Sample.active_first] at hfound
  exact .head harrive hfound

/-- A refresh that goes on alone ends as if it had run by itself. -/
theorem first_renews : ∃ (r : Rotation) (tokens : TokenPair),
    (Sample.refreshing Sample.drawn.1).rest.run (World.handler FaultyStore.storage)
        Sample.start.world =
      (.ok (.pair tokens), ⟨.ofSeconds 0, .empty, ⟨Sample.store.afterRotation r, []⟩⟩) := by
  let first : Fresh := Sample.drawn.1
  have hnew : Sample.start.world.stored.store.findByTokenHash
      (refreshTokenHash first.session.refreshToken) = none := Sample.find_refresh
  obtain ⟨hok, _⟩ := LoginService.refresh_of_sound (s := Sample.service)
    Sample.reachable_store.orderly rfl Sample.inCalendar_service hnew Sample.valid_first
  obtain ⟨pair, hpair⟩ := hok.mpr ⟨_, _, Sample.renewable_session, rfl⟩
  rcases LoginService.refresh_cases Sample.service first "first" Sample.start.world with
    ⟨_, hend⟩ | ⟨r, _, hend⟩
  · cases hpair.symm.trans (congrArg Prod.fst hend)
  · have htold : outcome ((Operation.refresh first "first").service Sample.service)
        FaultyStore.storage Sample.start.world = (.ok (.pair r.answer), _) := outcome_bind_ok hend
    unfold outcome at htold
    rw [run_refresh Sample.service first Sample.valid_first] at htold
    change (goingOn Sample.service first (Sample.store.activeByToken "first" (.ofSeconds 0))).run
      (World.handler FaultyStore.storage) Sample.start.world = _ at htold
    rw [Sample.active_first] at htold
    exact ⟨_, _, htold⟩

/-- Whatever has become of the sessions, the renewal of one that was found is worked out. -/
theorem other_renewal (r : Rotation) :
    let w : World FaultyStore := ⟨.ofSeconds 0, .empty, ⟨Sample.store.afterRotation r, []⟩⟩
    ∃ renewal, outcome (Sample.service.renewal Sample.drawn.2 Sample.session)
      FaultyStore.storage w = (.ok renewal, w) := by
  intro w
  have hread : outcome (store (.findIdentity Sample.session.userId)) FaultyStore.storage w =
      (.ok (some Sample.identity), w) :=
    outcome_read_of_sound rfl (.findIdentity Sample.session.userId) rfl none
  obtain ⟨renewal, hrenew⟩ := LoginService.renewFor_of_sound (w := w) rfl
    Sample.inCalendar_service Sample.drawn.2 Sample.session Sample.identity
  have hholder : outcome (require .unauthenticated (some Sample.identity)) FaultyStore.storage w =
      (.ok Sample.identity, w) := outcome_require _ _
  exact ⟨renewal, (outcome_bind_ok hread).trans ((outcome_bind_ok hholder).trans hrenew)⟩

/-- Of two refreshes with one token that have both found its session active, the first to rotate
succeeds, and the other ends as unauthenticated and changes nothing. -/
theorem refresh_single_use_race :
    let first : Fresh := Sample.drawn.1
    let other : Fresh := Sample.drawn.2
    ∃ race won lost tokens, Sample.start.Initial ∧ Reaches Sample.service Sample.start race ∧
      race.world.sessions.get? Sample.session.id = some Sample.session ∧
      Sample.session.isActive race.world.now = true ∧
      race.Refreshing 0 first "first" (goingOn Sample.service first (some Sample.session)) ∧
      race.Refreshing 1 other "first" (goingOn Sample.service other (some Sample.session)) ∧
      Reaches Sample.service race won ∧
      won.Refreshing 0 first "first" (.done (.ok (.pair tokens))) ∧
      Reaches Sample.service won lost ∧
      lost.Refreshing 1 other "first" unauthenticated ∧ lost.world = won.world := by
  intro first other
  let race : System := ⟨Sample.start.world, [Sample.refreshing first, Sample.refreshing other]⟩
  have hrace : Reaches Sample.service Sample.start race := by
    refine (reaches_refreshing first ⟨rfl, fun job hjob => by cases hjob⟩).trans
      (reaches_refreshing other ⟨rfl, fun job hjob hdraws => ?_⟩)
    rw [List.mem_singleton.mp hjob] at hdraws
    have hid : other.session.id = first.session.id := hdraws
    exact absurd hid (by decide)
  -- The first refresh goes on alone.
  obtain ⟨r, tokens, hrun⟩ := first_renews
  let won : System := ⟨⟨.ofSeconds 0, .empty, ⟨Sample.store.afterRotation r, []⟩⟩,
    [⟨.refresh first "first", .done (.ok (.pair tokens))⟩, Sample.refreshing other]⟩
  have hwon : Reaches Sample.service race won := by
    have hfirst : race.jobs[0]? =
        some ⟨.refresh first "first", (Sample.refreshing first).rest.bind .done⟩ := by
      rw [Program.bind_done]
      rfl
    have hend : Reaches Sample.service race _ := reaches_bind hfirst
    rw [hrun] at hend
    exact hend
  have hinv := (initial_sample.invariant (singleUse Sample.service)).reaches (hrace.trans hwon)
  have hspent : Spent (refreshTokenHash "first") won.world := renews (i := 0) hinv rfl
  -- The other one reads on, and its rotation is refused.
  obtain ⟨renewal, hrenewal⟩ := other_renewal r
  let asking : System := ⟨won.world, [⟨.refresh first "first", .done (.ok (.pair tokens))⟩,
    ⟨.refresh other "first", .call (.store (.rotate (renewal.pending.rotation (.ofSeconds 0))))
      (settled renewal)⟩]⟩
  have hasking : Reaches Sample.service won asking := by
    have hread : Reaches Sample.service won _ := reaches_bind (i := 1)
      (p := (Sample.service.renewal other Sample.session).run)
      (f := fun result => (andThen LoginService.Renewal.commit result).bind (told .pair)) rfl
    unfold outcome at hrenewal
    rw [hrenewal] at hread
    change Reaches _ _ ⟨won.world, [_, ⟨_, renewal.commit.run.bind (told .pair)⟩]⟩ at hread
    rw [run_commit] at hread
    exact hread.tail (.call 1)
  obtain ⟨_, _, hrefused⟩ := refresh_single_use Sample.service initial_sample (hrace.trans hwon)
  obtain ⟨hworld, _, hend⟩ := hrefused hspent hasking (i := 1) rfl
  exact ⟨race, won, asking.advance 1, tokens, initial_sample, hrace, rfl, by decide, rfl, rfl, hwon, rfl,
    hasking.tail (.call 1), hend _ _ rfl (.inr ⟨_, rfl⟩), hworld⟩

end System

end Gatehouse

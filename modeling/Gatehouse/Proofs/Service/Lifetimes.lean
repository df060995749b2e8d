import Gatehouse.Calendar.Text
import Gatehouse.CommandLine.Invocation
import Gatehouse.Proofs.Calendar
import Gatehouse.Proofs.Service.Answers

/-! # Lifetimes and the end of the calendar

The expiry of a token or of a session is the time of its issue moved forward by a configured
lifetime.  The calendar ends, and what would expire behind its end breaks off.  At any one time the
services complete exactly if the configured lifetimes end in the calendar (`completes_iff`), and
over all times that a clock may show they do so exactly up to a number of hours and a number of days
(`completes_exact`).  The command line admits more than that, so some deployments break off at every
login (`admitted_breaks_off`). -/

namespace Gatehouse

open Service

namespace Instant

/-- The last second that a clock may show. -/
def lastClockSecond : Int := 253402300799

example : (ofSeconds lastClockSecond).text = "9999-12-31T23:59:59Z" := by decide

/-- A clock shows the instant in the years 1970 to 9999, perhaps in a leap second. -/
structure OnClock (t : Instant) : Prop where
  first : 0 ≤ t.second
  last : t.second ≤ lastClockSecond
  subsecond : t.subsecond < 2 * Duration.nanosPerSecond

end Instant

namespace LoginService

variable {s : LoginService} {w : World FaultyStore}

/-- The services that set an expiry complete: access tokens are signed, and sessions are prepared
for logins and for refreshes. -/
structure Completes (s : LoginService) (w : World FaultyStore) : Prop where
  signs : ∀ tokenId identity access, ∃ issued,
    outcome (s.sign tokenId identity access) FaultyStore.storage w = (.ok issued, w)
  prepares : ∀ seed userId client, ∃ pending,
    outcome (Sessions.prepare s.lifetimes seed userId client) FaultyStore.storage w =
      (.ok pending, w)
  renews : ∀ seed current, ∃ pending,
    outcome (Sessions.prepareRotation s.lifetimes seed current) FaultyStore.storage w =
      (.ok pending, w)

/-! ### Expiries in the calendar -/

/-- What may leave the calendar completes if it does not. -/
theorem exists_ok_iff {α : Type} {found : Option α} :
    (∃ a, (found.elim (Except.error Stop.broken) .ok, w) = ((.ok a : Except Stop α), w)) ↔
      found.isSome = true := by
  cases found <;> simp

theorem isSome_issue {tokenId : Uuid} {identity : Identity} {access : Access} :
    (Token.issue s.settings w.now tokenId identity access).isSome =
      (w.now.add? (Token.lifetime s.settings)).isSome := by
  unfold Token.issue
  cases w.now.add? (Token.lifetime s.settings) <;> rfl

theorem isSome_ofLogin {l : Lifetimes} {seed : SessionSeed} {userId : Uuid} {client : ClientInfo} :
    (PendingSession.ofLogin l seed w.now userId client).isSome =
      (w.now.add? (l.ofFlavor client.flavor)).isSome := by
  unfold PendingSession.ofLogin
  cases w.now.add? (l.ofFlavor client.flavor) <;> rfl

theorem isSome_ofRefresh {l : Lifetimes} {seed : SessionSeed} {current : Session} :
    (PendingSession.ofRefresh l seed w.now current).isSome =
      (w.now.add? (l.ofFlavor current.flavor)).isSome := by
  unfold PendingSession.ofRefresh
  cases w.now.add? (l.ofFlavor current.flavor) <;> rfl

/-- The services complete exactly if the lifetimes of access tokens and of both flavors of sessions
end in the calendar. -/
theorem completes_iff_add? : s.Completes w ↔
    (w.now.add? (Token.lifetime s.settings)).isSome = true ∧
      ∀ flavor, (w.now.add? (s.lifetimes.ofFlavor flavor)).isSome = true := by
  constructor
  · intro h
    refine ⟨?_, fun flavor => ?_⟩
    · have hsigns := h.signs ⟨0⟩ ⟨⟨0⟩, "", "", "", true⟩ ⟨[], []⟩
      rw [outcome_sign, exists_ok_iff, isSome_issue] at hsigns
      exact hsigns
    · have hprepares := h.prepares ⟨⟨0⟩, ""⟩ ⟨0⟩ ⟨flavor, "", "", "", none, none, none⟩
      rw [Sessions.outcome_prepare, exists_ok_iff, isSome_ofLogin] at hprepares
      exact hprepares
  · rintro ⟨htoken, hsession⟩
    constructor
    case signs =>
      intro tokenId identity access
      rw [outcome_sign, exists_ok_iff, isSome_issue]
      exact htoken
    case prepares =>
      intro seed userId client
      rw [Sessions.outcome_prepare, exists_ok_iff, isSome_ofLogin]
      exact hsession client.flavor
    case renews =>
      intro seed current
      rw [Sessions.outcome_prepareRotation, exists_ok_iff, isSome_ofRefresh]
      exact hsession current.flavor

/-- **At one time** the services complete exactly if an access token and a web session that are
issued now expire in the calendar.  Mobile sessions always do. -/
theorem completes_iff (hnow : w.now.OnClock) : s.Completes w ↔
    w.now.second + s.settings.expiryHours * 3600 ≤ Instant.lastSecond ∧
      w.now.second + s.lifetimes.webDays * 86400 ≤ Instant.lastSecond := by
  have hadd : ∀ n : Int, 0 ≤ n → ((w.now.add? (.ofSeconds n)).isSome = true ↔
      w.now.second + n ≤ Instant.lastSecond) :=
    fun n hn => Instant.isSome_add?_ofSeconds hnow.first hnow.subsecond hn
  have hmobile : (w.now.add? (s.lifetimes.ofFlavor .mobile)).isSome = true := by
    refine (hadd (Lifetimes.mobileDays * 86400) (by decide)).mpr ?_
    have hroom : Instant.lastClockSecond + Lifetimes.mobileDays * 86400 ≤ Instant.lastSecond := by
      decide
    have hlast := hnow.last
    omega
  rw [completes_iff_add?]
  refine and_congr (hadd _ (by omega)) ?_
  constructor
  · intro h
    exact (hadd _ (by omega)).mp (h .web)
  · intro h flavor
    cases flavor with
    | mobile => exact hmobile
    | web => exact (hadd _ (by omega)).mpr h

/-! ### What holds at all times -/

/-- The latest moment that a clock may show. -/
def lateWorld : World FaultyStore := ⟨.ofSeconds Instant.lastClockSecond, .empty, ⟨.empty, []⟩⟩

theorem onClock_lateWorld : lateWorld.now.OnClock := ⟨by decide, by decide, by decide⟩

/-- **Which lifetimes are safe.**  At a time that a clock may show the services complete exactly if
the lifetimes end in the calendar, and they complete at all those times exactly if access tokens
live for at most 2210240160 hours and web sessions for at most 92093340 days. -/
theorem completes_exact (s : LoginService) :
    (∀ w : World FaultyStore, w.now.OnClock → (s.Completes w ↔
      w.now.second + s.settings.expiryHours * 3600 ≤ Instant.lastSecond ∧
        w.now.second + s.lifetimes.webDays * 86400 ≤ Instant.lastSecond)) ∧
    ((∀ w : World FaultyStore, w.now.OnClock → s.Completes w) ↔
      s.settings.expiryHours ≤ 2210240160 ∧ s.settings.refreshDays ≤ 92093340) := by
  have hdays : s.lifetimes.webDays =
      if s.settings.refreshDays = 0 then Lifetimes.defaultWebDays else s.settings.refreshDays := rfl
  have hweb : s.lifetimes.webDays ≤ 92093340 ↔ s.settings.refreshDays ≤ 92093340 := by
    rw [hdays, Lifetimes.defaultWebDays]
    split_ifs <;> omega
  refine ⟨fun w hnow => completes_iff hnow, ?_⟩
  rw [← hweb]
  constructor
  · intro h
    have hlate := (completes_iff onClock_lateWorld).mp (h lateWorld onClock_lateWorld)
    have hnow : lateWorld.now.second = 253402300799 := rfl
    rw [hnow, Instant.lastSecond] at hlate
    omega
  · rintro ⟨hhours, hwebDays⟩ w hnow
    have hlast := hnow.last
    rw [completes_iff hnow]
    simp only [Instant.lastClockSecond, Instant.lastSecond] at hlast ⊢
    omega

end LoginService

namespace Sample

/-- A command line with the longest web sessions that can be asked for. -/
def longLived : List String :=
  ["--dsn", "memory://", "--jwt-key", "0123456789abcdef0123456789abcdef",
    "--refresh-token-expiry-days", "4294967295"]

/-- What it makes. -/
def longLivedArguments : CommandLine.Arguments :=
  { port := 8080, dsn := "memory://"
    tokens := { key := "0123456789abcdef0123456789abcdef", refreshDays := 4294967295 }
    permissionSource := .live, storageTimeout := 10, verbosity := 0, logJson := false }

theorem read_longLived :
    CommandLine.read (fun _ => none) longLived = .ok longLivedArguments := by rfl

theorem admissible_longLived : longLivedArguments.tokens.Admissible := by decide +kernel

end Sample

namespace LoginService

/-- The command line admits web sessions that outlast the calendar. -/
theorem admitted_breaks_off :
    ¬ ∀ (environment : String → Option String) (words : List String) (a : CommandLine.Arguments),
      CommandLine.read environment words = .ok a → a.tokens.Admissible →
      ∀ (credentials : Credentials) (w : World FaultyStore), w.now.OnClock →
        (LoginService.mk a.tokens credentials).Completes w := by
  intro h
  let s : LoginService := ⟨Sample.longLivedArguments.tokens, ⟨.bcrypt 4, ""⟩⟩
  have hall := (completes_exact s).2.mp
    (h _ _ _ Sample.read_longLived Sample.admissible_longLived s.credentials)
  have hbound : (4294967295 : Nat) ≤ 92093340 := hall.2
  omega

end LoginService

end Gatehouse

import Gatehouse.Proofs.Bytes.Base64
import Gatehouse.Proofs.Calendar
import Gatehouse.Proofs.Text.Cut
import Gatehouse.Proofs.Token.Claims
import Gatehouse.Proofs.Uuid
import Gatehouse.Token.Codec

/-! # Validating issued tokens

A token that is issued is read back segment by segment, and its claims member by member, so it
carries exactly the claims that it was issued with (`verifiedClaims_encode`).  What validation makes
of them depends on the clock alone (`validate_encode`, `validate_issue`): a token is valid from the
second of its issue up to its expiry (`issued_token_valid_until_expiry`).  Settings that were built
give every token a lifetime, so it is valid when it is issued (`validate_issue_now`). -/

namespace Gatehouse

namespace Token

/-! ### Segments -/

theorem dot_not_mem_segment (bs : Bytes) : '.' ∉ (segment bs).toList := by
  intro h
  have hdot : '.' ∉ Base64.urlSafe.chars.toList := by decide
  exact hdot (Base64.mem_chars_of_mem_encodeBare Base64.proper_urlSafe h)

theorem segmentBytes?_segment (bs : Bytes) : segmentBytes? (segment bs) = some bs :=
  Base64.decodeBare?_encodeBare Base64.proper_urlSafe bs

theorem segmentJson?_jsonSegment {j : Json} (h : j.Exact) :
    segmentJson? (jsonSegment j) = some j := by
  unfold segmentJson? jsonSegment
  rw [segmentBytes?_segment]
  exact Json.ofBytes?_compact h

/-- Three segments with dots between them are taken apart again. -/
theorem Segments.ofText?_append (header payload : String) {signature : String}
    (hpayload : '.' ∉ payload.toList) (hsignature : '.' ∉ signature.toList) :
    Segments.ofText? (header ++ "." ++ payload ++ "." ++ signature) =
      some ⟨header, payload, signature⟩ := by
  have hdot : (".":String).toList = ['.'] := by decide
  have hlast : Text.cutLast? '.' (header ++ "." ++ payload ++ "." ++ signature) =
      some (header ++ "." ++ payload, signature) := by
    refine Text.cutLast?_of_eq ?_ hsignature
    rw [String.toList_append, String.toList_append (s := header ++ "." ++ payload), hdot,
      List.append_assoc]
    rfl
  have hfirst : Text.cutLast? '.' (header ++ "." ++ payload) = some (header, payload) := by
    refine Text.cutLast?_of_eq ?_ hpayload
    rw [String.toList_append, String.toList_append, hdot, List.append_assoc]
    rfl
  unfold Segments.ofText?
  simp only [hlast, hfirst, Option.bind_eq_bind, Option.bind_some, Option.pure_def]

/-! ### Issued tokens -/

variable {s : TokenSettings} {c : AccessClaims}

theorem algorithm?_issued :
    TokenHeader.algorithm? TokenHeader.issued = some TokenHeader.signing := by
  decide

theorem exact_issued : TokenHeader.issued.Exact := by
  refine Json.exact_obj fun m hm => ?_
  simp only [List.mem_cons, List.not_mem_nil, or_false] at hm
  rcases hm with rfl | rfl
  · exact .string _
  · exact .string _

theorem ofText?_encode (s : TokenSettings) (c : AccessClaims) :
    let signed := jsonSegment TokenHeader.issued ++ "." ++ jsonSegment c.toJson
    Segments.ofText? (encode s c) =
      some ⟨jsonSegment TokenHeader.issued, jsonSegment c.toJson, segment (signature s signed)⟩ :=
  Segments.ofText?_append _ _ (dot_not_mem_segment _) (dot_not_mem_segment _)

/-! ### Steps of a check -/

section

variable {α β : Type}

theorem orFault_bind (fault : TokenFault) (a : α) (f : α → Except TokenFault β) :
    (orFault fault (some a) >>= f) = f a := rfl

theorem require_bind (fault : TokenFault) {condition : Bool} (h : condition = true)
    (f : Unit → Except TokenFault β) : (require fault condition >>= f) = f () := by
  rw [h]
  rfl

theorem require_bind_false (fault : TokenFault) {condition : Bool} (h : condition = false)
    (f : Unit → Except TokenFault β) : (require fault condition >>= f) = .error fault := by
  rw [h]
  rfl

end

/-- **An issued token carries its claims.** -/
theorem verifiedClaims_encode (hc : c.Bounded) (hexpiry : 0 ≤ c.expiry)
    (hissuer : c.issuer = s.issuer) (haudience : c.audience = s.audience) :
    verifiedClaims s (encode s c) = .ok c := by
  have hheader := segmentJson?_jsonSegment exact_issued
  have hpayload := segmentJson?_jsonSegment c.exact_toJson
  have hclaims := AccessClaims.ofJson?_toJson hc
  have hobject : (c.toJson.isObject && decide (0 ≤ c.expiry)) = true := by
    rw [decide_eq_true hexpiry]
    rfl
  unfold verifiedClaims
  rw [ofText?_encode, orFault_bind]
  dsimp only [Segments.signed]
  rw [hheader, orFault_bind, algorithm?_issued, orFault_bind,
    require_bind _ (beq_self_eq_true TokenHeader.signing), segmentBytes?_segment, orFault_bind,
    require_bind _ (beq_self_eq_true (signature s _)), hpayload, orFault_bind, hclaims,
    orFault_bind, require_bind _ hobject, require_bind _ (beq_iff_eq.mpr hissuer),
    require_bind _ (beq_iff_eq.mpr haudience)]
  rfl

/-- The caller that claims name. -/
def caller (c : AccessClaims) : Principal where
  subject := c.subject
  userId := c.userId.bind Uuid.ofText?
  name := c.name
  email := c.email
  tokenId := c.tokenId
  roles := c.roles
  permissions := c.permissions
  expiresAt := .ofSeconds c.expiry

/-- **What the clock makes of an issued token.**  It has expired from its expiry on, is not yet
valid before the second of its issue, and names its caller in between. -/
theorem validate_encode (hc : c.Bounded) (hexpiry : 0 ≤ c.expiry)
    (hcalendar : Instant.ofSeconds? c.expiry = some (.ofSeconds c.expiry))
    (hissuer : c.issuer = s.issuer) (haudience : c.audience = s.audience) (now : Instant) :
    validate s now (encode s c) =
      if c.expiry ≤ now.second then .error .expired
      else if now.second < c.notBefore then .error .notYetValid
      else .ok (caller c) := by
  unfold validate
  rw [verifiedClaims_encode hc hexpiry hissuer haudience]
  change (require .expired _ >>= _) = _
  by_cases hexpired : c.expiry ≤ now.second
  · rw [if_pos hexpired, require_bind_false _ (decide_eq_false (by omega))]
  rw [if_neg hexpired, require_bind _ (decide_eq_true (by omega))]
  by_cases hearly : now.second < c.notBefore
  · rw [if_pos hearly, require_bind_false _ (decide_eq_false (by omega))]
  · rw [if_neg hearly, require_bind _ (decide_eq_true (by omega)), hcalendar, orFault_bind]
    rfl

/-! ### Issuing -/

variable {now expiresAt : Instant} {tokenId : Uuid} {identity : Identity} {access : Access}

theorem int64?_second {i : Int} (hi : 0 ≤ i) (hlast : i ≤ Instant.lastSecond) :
    (Json.integer i).int64? = some i := by
  have hlo : Int64.minValue.toInt ≤ 0 := by decide
  have hhi : Instant.lastSecond ≤ Int64.maxValue.toInt := by decide
  exact Json.int64?_integer (by omega) (by omega)

/-- The claims of a token that is issued at a time from 1970 on have times that can be read. -/
theorem bounded_claimsFor (s : TokenSettings) (tokenId : Uuid) (identity : Identity)
    (access : Access) (hnow : 0 ≤ now.second) (hle : now.second ≤ expiresAt.second)
    (hcalendar : expiresAt.InCalendar) :
    (claimsFor s now expiresAt tokenId identity access).Bounded := by
  have hlast := hcalendar.2
  have hissued := int64?_second hnow (by omega)
  exact ⟨hissued, hissued, int64?_second (Int.le_trans hnow hle) hlast⟩

theorem caller_claimsFor (s : TokenSettings) (now expiresAt : Instant) (tokenId : Uuid)
    (identity : Identity) (access : Access) :
    caller (claimsFor s now expiresAt tokenId identity access) =
      { subject := identity.id.text, userId := some identity.id, name := identity.name
        email := identity.email, tokenId := tokenId.text, roles := access.roles
        permissions := access.permissions, expiresAt := .ofSeconds expiresAt.second } := by
  simp only [caller, claimsFor, Option.bind_some, Uuid.ofText?_text]

/-- A token expires no earlier than it is issued. -/
theorem second_le_expiry (ha : now.add? (lifetime s) = some expiresAt) :
    now.second ≤ expiresAt.second := by
  refine Instant.second_le_of_add? ?_ ha
  simp only [lifetime, Duration.ofHours, Duration.ofSeconds, Duration.nanosPerSecond]
  omega

/-- A token is issued wherever the calendar holds its expiry. -/
theorem exists_issue (tokenId : Uuid) (identity : Identity) (access : Access)
    (hexpiry : now.add? (lifetime s) = some expiresAt) :
    ∃ issued, issue s now tokenId identity access = some issued := by
  unfold issue
  rw [hexpiry]
  exact ⟨_, rfl⟩

/-- **An issued token over the whole time line.**  Its expiry is a lifetime after its issue; until
then it names its identity with the access that it was issued with. -/
theorem validate_issue {issued : IssuedToken} (hnow : 0 ≤ now.second)
    (h : issue s now tokenId identity access = some issued) (t : Instant) :
    ∃ expiresAt, now.add? (lifetime s) = some expiresAt ∧ issued.tokenId = tokenId.text ∧
      issued.expiresAt = .ofSeconds expiresAt.second ∧
      verifiedClaims s issued.token = .ok (claimsFor s now expiresAt tokenId identity access) ∧
      validate s t issued.token =
        if expiresAt.second ≤ t.second then .error .expired
        else if t.second < now.second then .error .notYetValid
        else .ok
          { subject := identity.id.text, userId := some identity.id, name := identity.name
            email := identity.email, tokenId := tokenId.text, roles := access.roles
            permissions := access.permissions, expiresAt := issued.expiresAt } := by
  obtain ⟨expiresAt, ha, hissued⟩ := Option.bind_eq_some_iff.mp h
  cases hissued
  have hcalendar := (Instant.add?_eq_some ha).2
  have hle := second_le_expiry ha
  have hexpiry := Int.le_trans hnow hle
  have hbounded := bounded_claimsFor s tokenId identity access hnow hle hcalendar
  have hvalidate := validate_encode (s := s) hbounded hexpiry
    (Instant.ofSeconds?_of_inCalendar hcalendar) rfl rfl t
  rw [caller_claimsFor] at hvalidate
  exact ⟨expiresAt, ha, rfl, rfl, verifiedClaims_encode hbounded hexpiry rfl rfl, hvalidate⟩

/-- **A token from its issue to its expiry.**  From 1970 on and where the calendar holds its expiry,
a token is issued; it carries the expiry that is told with it, from the second of which on it has
expired; before the second of its issue it is not yet valid; and in between it names its identity,
with the roles and permissions that it was issued with, each list as it was given. -/
theorem issued_token_valid_until_expiry (s : TokenSettings) (now : Instant) (tokenId : Uuid)
    (identity : Identity) (access : Access) (hnow : 0 ≤ now.second)
    (hexpiry : now.add? (lifetime s) = some expiresAt) :
    ∃ issued claims, issue s now tokenId identity access = some issued ∧
      verifiedClaims s issued.token = .ok claims ∧ claims.expiry = expiresAt.second ∧
      issued.expiresAt = .ofSeconds claims.expiry ∧ issued.tokenId = tokenId.text ∧
      ∀ t : Instant,
        (claims.expiry ≤ t.second → validate s t issued.token = .error .expired) ∧
        (t.second < now.second → validate s t issued.token = .error .notYetValid) ∧
        (now.second ≤ t.second → t.second < claims.expiry → validate s t issued.token = .ok
          { subject := identity.id.text, userId := some identity.id, name := identity.name
            email := identity.email, tokenId := issued.tokenId, roles := access.roles
            permissions := access.permissions, expiresAt := issued.expiresAt }) := by
  have hle := second_le_expiry hexpiry
  obtain ⟨issued, hissue⟩ := exists_issue tokenId identity access hexpiry
  obtain ⟨_, hexpiry', hid, hexpires, hclaims, _⟩ := validate_issue hnow hissue now
  cases hexpiry.symm.trans hexpiry'
  refine ⟨issued, _, hissue, hclaims, rfl, hexpires, hid, fun t => ?_⟩
  obtain ⟨_, hexpiry', _, _, _, hvalidate⟩ := validate_issue hnow hissue t
  cases hexpiry.symm.trans hexpiry'
  rw [hvalidate, hid]
  dsimp only [claimsFor]
  refine ⟨?_, ?_, ?_⟩
  · intro hexpired
    rw [if_pos hexpired]
  · intro hearly
    rw [if_neg (by omega), if_pos hearly]
  · intro hbegun hlasting
    rw [if_neg (by omega), if_neg (by omega)]

/-- A token that is issued at the start of 1970 for an hour is valid in the last second of the hour,
and not in the next. -/
theorem issued_token_valid_for_an_hour :
    let s : TokenSettings := { key := "a key of no fewer than 32 bytes." }
    let identity : Identity := ⟨⟨1⟩, "Zoë \"Ω\" 李", "zoe@example.org", "", true⟩
    let access : Access := ⟨["Clerk", "Clerk", "Ärztin"], []⟩
    ∃ issued, issue s (.ofSeconds 0) ⟨3⟩ identity access = some issued ∧
      (∃ principal, validate s (.ofSeconds 3599) issued.token = .ok principal ∧
        principal.name = identity.name ∧ principal.roles = access.roles ∧
        principal.permissions = [] ∧ principal.expiresAt = .ofSeconds 3600) ∧
      validate s (.ofSeconds 3600) issued.token = .error .expired := by
  intro s identity access
  have hexpiry : (Instant.ofSeconds 0).add? (lifetime s) = some (.ofSeconds 3600) := by decide
  obtain ⟨issued, claims, hissue, _, hclaimed, hexpires, _, htime⟩ :=
    issued_token_valid_until_expiry s (.ofSeconds 0) ⟨3⟩ identity access (Int.le_refl 0) hexpiry
  rw [hclaimed] at hexpires htime
  obtain ⟨hexpired, _, _⟩ := htime (.ofSeconds 3600)
  obtain ⟨_, _, hvalid⟩ := htime (.ofSeconds 3599)
  exact ⟨issued, hissue, ⟨_, hvalid (by decide) (by decide), rfl, rfl, rfl, hexpires⟩,
    hexpired (Int.le_refl 3600)⟩

end Token

/-! ### Lifetimes -/

/-- The settings were made by giving them a key and what else is set; a lifetime is given in hours,
and zero hours mean the default. -/
inductive TokenSettings.Built : TokenSettings → Prop
  | new (key issuer audience : String) (refreshDays : Nat) (blacklist : Bool) :
    Built { key, issuer, audience, refreshDays, blacklist }
  | withExpiryHours {s : TokenSettings} (h : s.Built) (hours : Nat) :
    Built (s.withExpiryHours hours)

theorem TokenSettings.Built.expiryHours_pos {s : TokenSettings} (h : s.Built) :
    0 < s.expiryHours := by
  cases h with
  | new => exact Nat.zero_lt_one
  | withExpiryHours _ hours =>
      change 0 < if hours = 0 then 1 else hours
      split <;> omega

/-- **A token is valid when it is issued.** -/
theorem Token.validate_issue_now {s : TokenSettings} (hs : s.Built) {now : Instant}
    (hnow : 0 ≤ now.second) {tokenId : Uuid} {identity : Identity} {access : Access}
    {issued : IssuedToken} (h : issue s now tokenId identity access = some issued) :
    validate s now issued.token =
      .ok
        { subject := identity.id.text, userId := some identity.id, name := identity.name
          email := identity.email, tokenId := tokenId.text, roles := access.roles
          permissions := access.permissions, expiresAt := issued.expiresAt } := by
  obtain ⟨expiresAt, ha, _, _, _, hvalidate⟩ := validate_issue hnow h now
  have hlt : now.second < expiresAt.second :=
    Instant.second_lt_of_add? (Duration.nanosPerSecond_le_ofHours hs.expiryHours_pos) ha
  rw [hvalidate, if_neg (by omega), if_neg (Int.lt_irrefl _)]

end Gatehouse

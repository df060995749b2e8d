import Gatehouse.Proofs.Text.Split
import Gatehouse.Proofs.Token.RoundTrip
import Mathlib.Data.List.TakeWhile

/-! # Which tokens are accepted

`Genuine` says what an accepted token is: three segments, of which the header names the signing
algorithm, the last one holds the keyed digest of the other two, and the payload holds claims of our
issuer for our audience whose time has begun and not ended.  `accepted_iff_genuine` says that these
are the tokens that are accepted, for each clock and each text, and that the caller is the one whom
the claims name.  The checks are taken apart one by one (`orFault_bind_eq_ok`,
`require_bind_eq_ok`); that the two dots counted from the end are the only ones follows from the
alphabet in which the segments are written. -/

namespace Gatehouse

namespace Token

variable {s : TokenSettings} {token : String} {t : Segments} {c : AccessClaims}

/-! ### Segments -/

/-- The text consists of exactly the three segments, with dots between them. -/
def Segments.Of (t : Segments) (token : String) : Prop :=
  token.toList.splitOn '.' = [t.header.toList, t.payload.toList, t.signature.toList]

theorem dot_not_mem_of_segmentBytes? {text : String} {bs : Bytes}
    (h : segmentBytes? text = some bs) : '.' ∉ text.toList := by
  intro hdot
  have hmem := Base64.mem_chars_of_decodeBare? h hdot
  revert hmem
  decide

theorem dot_not_mem_of_segmentJson? {text : String} {j : Json} (h : segmentJson? text = some j) :
    '.' ∉ text.toList := by
  obtain ⟨bs, hbs, _⟩ := Option.bind_eq_some_iff.mp h
  exact dot_not_mem_of_segmentBytes? hbs

theorem Segments.toList_of_ofText? (h : ofText? token = some t) :
    token.toList =
        t.header.toList ++ '.' :: (t.payload.toList ++ '.' :: t.signature.toList) ∧
      '.' ∉ t.payload.toList ∧ '.' ∉ t.signature.toList := by
  obtain ⟨⟨signed, signature⟩, hlast, h⟩ := Option.bind_eq_some_iff.mp h
  obtain ⟨⟨header, payload⟩, hfirst, h⟩ := Option.bind_eq_some_iff.mp h
  cases h
  obtain ⟨htoken, hsignature⟩ := Text.eq_of_cutLast? hlast
  obtain ⟨hsigned, hpayload⟩ := Text.eq_of_cutLast? hfirst
  refine ⟨?_, hpayload, hsignature⟩
  rw [htoken, hsigned, List.append_assoc, List.cons_append]

theorem Segments.join_eq (t : Segments) :
    ['.'].intercalate [t.header.toList, t.payload.toList, t.signature.toList] =
      t.header.toList ++ '.' :: (t.payload.toList ++ '.' :: t.signature.toList) := by
  simp

/-- A text is split at its last two dots into the segments of which it consists, unless a dot is left
in the first. -/
theorem Segments.of_iff : t.Of token ↔ ofText? token = some t ∧ '.' ∉ t.header.toList := by
  constructor
  · intro h
    have hdot : ∀ part ∈ [t.header.toList, t.payload.toList, t.signature.toList], '.' ∉ part := by
      intro part hpart
      rw [← h] at hpart
      exact Text.notMem_of_mem_splitOn hpart
    have hjoin : ['.'].intercalate (token.toList.splitOn '.') = token.toList :=
      List.intercalate_splitOn '.'
    have htoken : token = t.header ++ "." ++ t.payload ++ "." ++ t.signature := by
      apply String.toList_inj.mp
      rw [← hjoin, h, join_eq]
      simp
    rw [htoken]
    exact ⟨ofText?_append _ _ (hdot _ (by simp)) (hdot _ (by simp)), hdot _ (by simp)⟩
  · rintro ⟨h, hheader⟩
    obtain ⟨htoken, hpayload, hsignature⟩ := toList_of_ofText? h
    unfold Of
    rw [htoken, ← join_eq]
    refine List.splitOn_intercalate '.' ?_ (by simp)
    simp [hheader, hpayload, hsignature]

theorem Segments.Of.unique {t' : Segments} (h : t.Of token) (h' : t'.Of token) : t' = t :=
  Option.some.inj ((of_iff.mp h').1.symm.trans (of_iff.mp h).1)

/-! ### Checks -/

section

variable {α β : Type} {fault : TokenFault} {b : β}

theorem orFault_bind_eq_ok {found : Option α} {f : α → Except TokenFault β} :
    (orFault fault found >>= f) = .ok b ↔ ∃ a, found = some a ∧ f a = .ok b := by
  cases found with
  | none =>
      constructor
      · intro h
        cases h
      · rintro ⟨a, h, _⟩
        cases h
  | some a => simp [orFault_bind]

theorem require_bind_eq_ok {condition : Bool} {f : Unit → Except TokenFault β} :
    (require fault condition >>= f) = .ok b ↔ condition = true ∧ f () = .ok b := by
  cases condition with
  | false => simp [require_bind_false]
  | true => simp [require_bind]

end

/-- The token carries the claims, and is signed with our key: its issuer and audience are ours. -/
structure Signed (s : TokenSettings) (t : Segments) (c : AccessClaims) : Prop where
  /-- The header names the algorithm. -/
  algorithm : ∃ header, segmentJson? t.header = some header ∧
    TokenHeader.algorithm? header = some "HS256"
  /-- The last segment holds the keyed digest of the first two. -/
  signature : segmentBytes? t.signature =
    some (Hmac.sha256 s.keyBytes (Bytes.ofText (t.header ++ "." ++ t.payload)))
  /-- The payload is an object that holds the claims. -/
  claims : ∃ payload, segmentJson? t.payload = some payload ∧ payload.isObject = true ∧
    AccessClaims.ofJson? payload = some c
  issuer : c.issuer = s.issuer
  audience : c.audience = s.audience
  expiry : 0 ≤ c.expiry

/-- The token is signed and its time is now. -/
structure Genuine (s : TokenSettings) (now : Instant) (t : Segments) (c : AccessClaims) : Prop
    extends Signed s t c where
  begun : c.notBefore ≤ now.second
  lasting : now.second < c.expiry
  /-- The calendar holds the expiry. -/
  inCalendar : c.expiry ≤ Instant.lastSecond

theorem verifiedClaims_eq_ok_iff :
    verifiedClaims s token = .ok c ↔ ∃ t, Segments.ofText? token = some t ∧ Signed s t c := by
  unfold verifiedClaims
  simp only [orFault_bind_eq_ok, require_bind_eq_ok, beq_iff_eq, Bool.and_eq_true,
    decide_eq_true_eq, Segments.signed, signature, TokenHeader.signing]
  constructor
  · rintro ⟨t, ht, header, hheader, algorithm, halgorithm, rfl, digest, hdigest, rfl, payload,
      hpayload, claims, hclaims, ⟨hobject, hexpiry⟩, hissuer, haudience, hend⟩
    cases hend
    exact ⟨t, ht,
      { algorithm := ⟨header, hheader, halgorithm⟩, signature := hdigest
        claims := ⟨payload, hpayload, hobject, hclaims⟩, issuer := hissuer
        audience := haudience, expiry := hexpiry }⟩
  · rintro ⟨t, ht, h⟩
    obtain ⟨header, hheader, halgorithm⟩ := h.algorithm
    obtain ⟨payload, hpayload, hobject, hclaims⟩ := h.claims
    exact ⟨t, ht, header, hheader, _, halgorithm, rfl, _, h.signature, rfl, payload, hpayload, c,
      hclaims, ⟨hobject, h.expiry⟩, h.issuer, h.audience, rfl⟩

theorem validate_eq_ok_iff {now : Instant} {principal : Principal} :
    validate s now token = .ok principal ↔
      ∃ t c, Segments.ofText? token = some t ∧ Genuine s now t c ∧ principal = caller c := by
  unfold validate
  cases hc : verifiedClaims s token with
  | error fault =>
      constructor
      · intro h
        cases h
      · rintro ⟨t, c, ht, h, _⟩
        cases hc.symm.trans (verifiedClaims_eq_ok_iff.mpr ⟨t, ht, h.toSigned⟩)
  | ok claims =>
      change (require _ _ >>= fun _ => _) = _ ↔ _
      simp only [orFault_bind_eq_ok, require_bind_eq_ok, decide_eq_true_eq]
      constructor
      · rintro ⟨hlasting, hbegun, expiresAt, hexpires, hend⟩
        obtain ⟨t, ht, h⟩ := verifiedClaims_eq_ok_iff.mp hc
        obtain ⟨hcalendar, rfl⟩ := (Instant.ofSeconds?_eq_some_iff h.expiry).mp hexpires
        cases hend
        exact ⟨t, claims, ht, ⟨h, hbegun, hlasting, hcalendar⟩, rfl⟩
      · rintro ⟨t, c, ht, h, rfl⟩
        have hclaims : c = claims :=
          Except.ok.inj ((verifiedClaims_eq_ok_iff.mpr ⟨t, ht, h.toSigned⟩).symm.trans hc)
        rw [← hclaims]
        exact ⟨h.lasting, h.begun, _, (Instant.ofSeconds?_eq_some_iff h.expiry).mpr ⟨h.inCalendar, rfl⟩,
          rfl⟩

/-! ### One token at several times -/

section Times

variable {now now' : Instant} {principal principal' : Principal}

/-- Whenever a token is accepted, it names the same caller. -/
theorem validate_same (h : validate s now token = .ok principal)
    (h' : validate s now' token = .ok principal') : principal' = principal := by
  obtain ⟨t, c, ht, hc, rfl⟩ := validate_eq_ok_iff.mp h
  obtain ⟨t', c', ht', hc', rfl⟩ := validate_eq_ok_iff.mp h'
  have hverified := verifiedClaims_eq_ok_iff.mpr ⟨t, ht, hc.toSigned⟩
  have hverified' := verifiedClaims_eq_ok_iff.mpr ⟨t', ht', hc'.toSigned⟩
  rw [Except.ok.inj (hverified'.symm.trans hverified)]

/-- A token that was accepted is accepted until its expiry. -/
theorem validate_later (h : validate s now token = .ok principal) (hle : now ≤ now')
    (hlt : now' < principal.expiresAt) : validate s now' token = .ok principal := by
  obtain ⟨t, c, ht, hc, rfl⟩ := validate_eq_ok_iff.mp h
  have hlasting : now'.second < c.expiry := Instant.lt_ofSeconds.mp hlt
  have hbegun : c.notBefore ≤ now'.second := by
    have := hc.begun
    rw [Instant.le_def] at hle
    omega
  exact validate_eq_ok_iff.mpr ⟨t, c, ht, ⟨hc.toSigned, hbegun, hlasting, hc.inCalendar⟩, rfl⟩

/-- A token that has not expired is refused as not yet valid before its time begins. -/
theorem validate_of_not_begun (hclaims : verifiedClaims s token = .ok c)
    (hlasting : now.second < c.expiry) (hearly : ¬ c.notBefore ≤ now.second) :
    validate s now token = .error .notYetValid := by
  unfold validate
  rw [hclaims]
  change (require _ _ >>= fun _ => _) = _
  rw [require_bind _ (decide_eq_true hlasting), require_bind_false _ (decide_eq_false hearly)]

/-- A token whose time has begun is accepted until it is accepted for the last time. -/
theorem validate_between {begun : Instant} (hbegun : validate s begun token ≠ .error .notYetValid)
    (h : validate s now' token = .ok principal) (hle : begun ≤ now) (hle' : now ≤ now') :
    validate s now token = .ok principal := by
  obtain ⟨t, c, ht, hc, rfl⟩ := validate_eq_ok_iff.mp h
  have hclaims := verifiedClaims_eq_ok_iff.mpr ⟨t, ht, hc.toSigned⟩
  have hexpiry := hc.lasting
  rw [Instant.le_def] at hle hle'
  have hnotBefore : c.notBefore ≤ begun.second := by
    by_contra hearly
    exact hbegun (validate_of_not_begun hclaims (by omega) hearly)
  have hlasting : now.second < c.expiry := by omega
  have hbegun : c.notBefore ≤ now.second := by omega
  exact validate_eq_ok_iff.mpr ⟨t, c, ht, ⟨hc.toSigned, hbegun, hlasting, hc.inCalendar⟩, rfl⟩

end Times

/-! ### Tokens that were made here -/

section Made

variable {own : TokenSettings} {now t : Instant} {principal : Principal}

end Made

/-! ### Accepted tokens -/

theorem Genuine.of {now : Instant} (h : Genuine s now t c) :
    t.Of token ↔ Segments.ofText? token = some t := by
  obtain ⟨_, hheader, _⟩ := h.algorithm
  rw [Segments.of_iff]
  exact and_iff_left (dot_not_mem_of_segmentJson? hheader)

/-- A token whose header names another algorithm is refused for its signature. -/
theorem validate_of_algorithm_ne (now : Instant) (ht : Segments.ofText? token = some t)
    {header : Json} (hheader : segmentJson? t.header = some header) {algorithm : String}
    (halgorithm : TokenHeader.algorithm? header = some algorithm) (hne : algorithm ≠ "HS256") :
    validate s now token = .error .badSignature := by
  have hsigning : (algorithm == TokenHeader.signing) = false := beq_eq_false_iff_ne.mpr hne
  have hfault : verifiedClaims s token = .error .badSignature := by
    unfold verifiedClaims
    rw [ht, orFault_bind, hheader, orFault_bind, halgorithm, orFault_bind,
      require_bind_false _ hsigning]
  unfold validate
  rw [hfault]
  rfl

/-- **Which tokens are accepted.**  A token is accepted at a time if and only if it consists of three
segments, is signed with our key by our algorithm, and carries claims of our issuer for our audience
that have begun and not expired, to the second; the caller is the one whom the claims name.  So no
token of another issuer, for another audience or with another algorithm is accepted, whatever its
signature. -/
theorem accepted_iff_genuine (s : TokenSettings) (now : Instant) (token : String) :
    (∀ principal, validate s now token = .ok principal ↔
      ∃ t c, t.Of token ∧ Genuine s now t c ∧ principal =
        { subject := c.subject, userId := c.userId.bind Uuid.ofText?, name := c.name
          email := c.email, tokenId := c.tokenId, roles := c.roles, permissions := c.permissions
          expiresAt := .ofSeconds c.expiry }) ∧
    (∀ (t : Segments) (payload : Json) (c : AccessClaims), t.Of token →
      segmentJson? t.payload = some payload → AccessClaims.ofJson? payload = some c →
        c.issuer ≠ s.issuer ∨ c.audience ≠ s.audience →
          ∀ principal, validate s now token ≠ .ok principal) ∧
    ∀ (t : Segments) (header : Json) (algorithm : String), t.Of token →
      segmentJson? t.header = some header → TokenHeader.algorithm? header = some algorithm →
        algorithm ≠ "HS256" → validate s now token = .error .badSignature := by
  have haccepted : ∀ principal, validate s now token = .ok principal ↔
      ∃ t c, t.Of token ∧ Genuine s now t c ∧ principal = caller c := by
    intro principal
    rw [validate_eq_ok_iff]
    refine exists_congr fun t => exists_congr fun c => ?_
    constructor
    · rintro ⟨ht, h, hprincipal⟩
      exact ⟨h.of.mpr ht, h, hprincipal⟩
    · rintro ⟨ht, h, hprincipal⟩
      exact ⟨h.of.mp ht, h, hprincipal⟩
  refine ⟨haccepted, ?_, ?_⟩
  · intro t payload c ht hpayload hclaims hforeign principal hvalid
    obtain ⟨t', c', ht', h, _⟩ := (haccepted principal).mp hvalid
    obtain ⟨payload', hpayload', _, hclaims'⟩ := h.claims
    rw [ht.unique ht', hpayload] at hpayload'
    cases hpayload'
    rw [hclaims] at hclaims'
    cases hclaims'
    rcases hforeign with hissuer | haudience
    · exact hissuer h.issuer
    · exact haudience h.audience
  · intro t header algorithm ht hheader halgorithm hne
    exact validate_of_algorithm_ne now (Segments.of_iff.mp ht).1 hheader halgorithm hne

/-- A token with our key is accepted under our issuer, and refused under another one. -/
theorem accepted_under_own_issuer :
    let own : TokenSettings := { key := "a key of no fewer than 32 bytes." }
    let foreign : TokenSettings := { own with issuer := "elsewhere" }
    let ada : Identity := ⟨⟨1⟩, "Ada", "ada@example.org", "", true⟩
    let claims := claimsFor own (.ofSeconds 0) (.ofSeconds 3600) ⟨3⟩ ada ⟨[], []⟩
    (∃ t c, t.Of (encode own claims) ∧ Genuine own (.ofSeconds 0) t c) ∧
      ∀ principal, validate foreign (.ofSeconds 0) (encode own claims) ≠ .ok principal := by
  intro own foreign ada claims
  have hbounded : claims.Bounded :=
    bounded_claimsFor own _ _ _ (Int.le_refl 0) (by decide) (by decide)
  have hsegments := Segments.of_iff.mpr ⟨ofText?_encode own claims, dot_not_mem_segment _⟩
  have hvalid := validate_encode (s := own) hbounded (by decide) rfl rfl rfl (.ofSeconds 0)
  rw [if_neg (by decide), if_neg (by decide)] at hvalid
  constructor
  · obtain ⟨t, c, ht, h, _⟩ :=
      ((accepted_iff_genuine own (.ofSeconds 0) (encode own claims)).1 _).mp hvalid
    exact ⟨t, c, ht, h⟩
  · refine (accepted_iff_genuine foreign (.ofSeconds 0) (encode own claims)).2.1 _ _ _ hsegments
      (segmentJson?_jsonSegment claims.exact_toJson) (AccessClaims.ofJson?_toJson hbounded) (.inl ?_)
    decide

end Token

end Gatehouse

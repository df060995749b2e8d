import Gatehouse.Proofs.Token.Acceptance

/-! # What can be read of a token without a key

The view of a token reads fewer claims than its validation, from the same payload, and demands less
of each.  What an object holds for some names it holds for fewer of them (`Json.declared?_fewer`), so
claims that are verified can also be read (`AccessClaims.read`), and the two agree about a token that
is accepted or has expired (`view_of_verified`).  When a text says that it expires is stated without
the view (`Expires`); a token is near its expiry if what is left until then is at most the threshold
(`isNearExpiry_iff`). -/

namespace Gatehouse

/-! ### Records -/

namespace Json

variable {names names' : List String} {members : List (Option String × Json)} {ms ms' : Members}
  {name : String} {j : Json}

/-- An object that is read as a record of some names is read as a record of fewer names too, which
holds the same under each of them. -/
theorem declared?_fewer (hfewer : ∀ name ∈ names', name ∈ names)
    (h : declared? names members = some ms) :
    ∃ ms', declared? names' members = some ms' ∧
      ∀ name ∈ names', ms'.value? name = ms.value? name := by
  induction members generalizing ms with
  | nil =>
      cases h
      exact ⟨[], rfl, fun _ _ => rfl⟩
  | cons member rest ih =>
      obtain ⟨_ | name, j⟩ := member
      · cases h
      obtain ⟨ms₀, hrest, hheld⟩ := declared?_cons_eq_some.mp h
      obtain ⟨ms', hrest', hsame⟩ := ih hrest
      by_cases hname' : name ∈ names'
      · rcases hheld with ⟨_, habsent, rfl⟩ | ⟨hnot, _⟩
        · have habsent' := (hsame name hname').trans habsent
          refine ⟨(name, j) :: ms', declared?_cons_eq_some.mpr
            ⟨ms', hrest', .inl ⟨hname', habsent', rfl⟩⟩, fun other hother => ?_⟩
          have hvalue : ms'.lookup other = ms₀.lookup other := hsame other hother
          simp only [Members.value?, List.lookup_cons, hvalue]
        · exact absurd (hfewer name hname') hnot
      · refine ⟨ms', declared?_cons_eq_some.mpr ⟨ms', hrest', .inr ⟨hname', rfl⟩⟩, ?_⟩
        intro other hother
        rw [hsame other hother]
        rcases hheld with ⟨_, _, rfl⟩ | ⟨_, rfl⟩
        · have hne : (other == name) = false := by
            rw [beq_eq_false_iff_ne]
            rintro rfl
            exact hname' hother
          simp only [Members.value?, List.lookup_cons, hne]
        · rfl

/-! What must be there is also found where it may be missing. -/

theorem Members.optionalText?_of_text? {s : String} (hvalue : ms'.value? name = ms.value? name)
    (h : ms.text? name = some s) : ms'.optionalText? name = some (some s) := by
  obtain ⟨j, hj, hs⟩ := Option.bind_eq_some_iff.mp h
  rw [Members.optionalText?, hvalue, hj]
  cases j with
  | null => cases hs
  | _ => exact congrArg (Option.map some) hs

theorem Members.optionalInt64?_of_int64? {i : Int} (hvalue : ms'.value? name = ms.value? name)
    (h : ms.int64? name = some i) : ms'.optionalInt64? name = some (some i) := by
  obtain ⟨j, hj, hi⟩ := Option.bind_eq_some_iff.mp h
  rw [Members.optionalInt64?, hvalue, hj]
  cases j with
  | null => cases hi
  | _ => exact congrArg (Option.map some) hi

theorem Members.optionalText?_congr (hvalue : ms'.value? name = ms.value? name) :
    ms'.optionalText? name = ms.optionalText? name := by
  unfold Members.optionalText?
  rw [hvalue]

end Json

/-! ### Claims -/

/-- The claims of a token as they are read without a key. -/
def AccessClaims.read (c : AccessClaims) : UnverifiedClaims :=
  ⟨some c.tokenId, c.userId, some c.name, some c.issuedAt, some c.expiry⟩

/-- The members of a record hold the claims that can be read without a key. -/
structure AccessClaims.HeldBy (c : AccessClaims) (ms : Json.Members) : Prop where
  tokenId : ms.text? "jti" = some c.tokenId
  userId : ms.optionalText? "user_id" = some c.userId
  name : ms.text? "name" = some c.name
  issuedAt : ms.int64? "iat" = some c.issuedAt
  expiry : ms.int64? "exp" = some c.expiry

theorem AccessClaims.heldBy_of_ofJson? {j : Json} {c : AccessClaims} (h : ofJson? j = some c) :
    ∃ ms, Json.record? members j = some ms ∧ c.HeldBy ms := by
  obtain ⟨ms, hms, h⟩ := Option.bind_eq_some_iff.mp h
  obtain ⟨_, _, h⟩ := Option.bind_eq_some_iff.mp h
  obtain ⟨name, hname, h⟩ := Option.bind_eq_some_iff.mp h
  obtain ⟨_, _, h⟩ := Option.bind_eq_some_iff.mp h
  obtain ⟨userId, huser, h⟩ := Option.bind_eq_some_iff.mp h
  obtain ⟨tokenId, htoken, h⟩ := Option.bind_eq_some_iff.mp h
  -- The lists, the issuer and the audience come before the times.
  iterate 4 obtain ⟨_, _, h⟩ := Option.bind_eq_some_iff.mp h
  obtain ⟨issuedAt, hissued, h⟩ := Option.bind_eq_some_iff.mp h
  obtain ⟨_, _, h⟩ := Option.bind_eq_some_iff.mp h
  obtain ⟨expiry, hexpiry, h⟩ := Option.bind_eq_some_iff.mp h
  cases h
  exact ⟨ms, hms, htoken, huser, hname, hissued, hexpiry⟩

/-- Claims that an object holds can be read without a key. -/
theorem AccessClaims.read_of_ofJson? {j : Json} {c : AccessClaims} (hobject : j.isObject = true)
    (h : ofJson? j = some c) : UnverifiedClaims.ofJson? j = some c.read := by
  obtain ⟨object, rfl⟩ : ∃ object, j = .object object := by
    cases j with
    | object object => exact ⟨object, rfl⟩
    | _ => cases hobject
  obtain ⟨ms, hms, held⟩ := heldBy_of_ofJson? h
  have hfewer : ∀ name ∈ UnverifiedClaims.members.map (·.name), name ∈ members.map (·.name) := by
    decide
  obtain ⟨ms', hms', hsame⟩ := Json.declared?_fewer hfewer hms
  have hrecord : Json.record? UnverifiedClaims.members (.object object) = some ms' := hms'
  have htoken : ms'.optionalText? "jti" = some (some c.tokenId) :=
    Json.Members.optionalText?_of_text? (hsame _ (by decide)) held.tokenId
  have huser : ms'.optionalText? "user_id" = some c.userId :=
    (Json.Members.optionalText?_congr (hsame _ (by decide))).trans held.userId
  have hname : ms'.optionalText? "name" = some (some c.name) :=
    Json.Members.optionalText?_of_text? (hsame _ (by decide)) held.name
  have hissued : ms'.optionalInt64? "iat" = some (some c.issuedAt) :=
    Json.Members.optionalInt64?_of_int64? (hsame _ (by decide)) held.issuedAt
  have hexpiry : ms'.optionalInt64? "exp" = some (some c.expiry) :=
    Json.Members.optionalInt64?_of_int64? (hsame _ (by decide)) held.expiry
  unfold UnverifiedClaims.ofJson?
  simp only [hrecord, htoken, huser, hname, hissued, hexpiry, Option.bind_eq_bind,
    Option.bind_some, Option.pure_def]
  rfl

/-- The view shows the caller whom the token names. -/
structure TokenView.Shows (v : TokenView) (p : Principal) : Prop where
  tokenId : v.tokenId = some p.tokenId
  userId : v.userId = p.userId
  userName : v.userName = some p.name
  expiresAt : v.expiresAt = some p.expiresAt

namespace Token

variable {s : TokenSettings} {token : String} {now later x : Instant} {c : AccessClaims}
  {threshold threshold' : Duration}

/-! ### Faults -/

section

variable {α β : Type} {fault fault' : TokenFault}

/-- A check ends in a fault only if it is the fault of the check, or of what comes after it. -/
theorem orFault_bind_ne {found : Option α} {f : α → Except TokenFault β} (hne : fault ≠ fault')
    (h : ∀ a, f a ≠ .error fault') : (orFault fault found >>= f) ≠ .error fault' := by
  cases found with
  | none =>
      intro heq
      cases heq
      exact hne rfl
  | some a => exact h a

theorem require_bind_ne {condition : Bool} {f : Unit → Except TokenFault β} (hne : fault ≠ fault')
    (h : f () ≠ .error fault') : (require fault condition >>= f) ≠ .error fault' := by
  cases condition with
  | false =>
      intro heq
      cases heq
      exact hne rfl
  | true => exact h

end

/-! ### Views -/

/-- The text says when it expires: of its three segments the second holds claims with an expiry, in
seconds, that the calendar holds. -/
def Expires (token : String) (x : Instant) : Prop :=
  ∃ (t : Segments) (payload : Json) (claims : UnverifiedClaims) (second : Int),
    t.Of token ∧ segmentJson? t.payload = some payload ∧
      UnverifiedClaims.ofJson? payload = some claims ∧ claims.expiry = some second ∧
        Instant.ofSeconds? second = some x

theorem unverifiedClaims?_eq_some_iff {claims : UnverifiedClaims} :
    unverifiedClaims? token = some claims ↔
      ∃ t payload, Segments.Of t token ∧ segmentJson? t.payload = some payload ∧
        UnverifiedClaims.ofJson? payload = some claims := by
  have hsplit : token.splitOn "." = (token.toList.splitOn '.').map String.ofList :=
    Text.splitOn_eq_map '.' token
  unfold unverifiedClaims? Segments.Of
  rw [hsplit]
  constructor
  · intro h
    split at h
    · rename_i header payload signature hparts
      obtain ⟨j, hj, hclaims⟩ := Option.bind_eq_some_iff.mp h
      refine ⟨⟨header, payload, signature⟩, j, ?_, hj, hclaims⟩
      have hlists := congrArg (List.map String.toList) hparts
      simpa using hlists
    · cases h
  · rintro ⟨t, j, hparts, hj, hclaims⟩
    rw [hparts]
    simp [hj, hclaims]

/-- The expiry of the view is what the text says. -/
theorem view_expiresAt_iff (now : Instant) :
    (view now token).bind (·.expiresAt) = some x ↔ Expires token x := by
  unfold view Expires
  simp only [Option.bind_eq_bind, Option.bind_eq_some_iff, Option.pure_def, Option.some.injEq,
    unverifiedClaims?_eq_some_iff]
  constructor
  · rintro ⟨_, ⟨claims, ⟨t, payload, ht, hpayload, hclaims⟩, rfl⟩, hx⟩
    obtain ⟨second, hsecond, hx⟩ := Option.bind_eq_some_iff.mp hx
    exact ⟨t, payload, claims, second, ht, hpayload, hclaims, hsecond, hx⟩
  · rintro ⟨t, payload, claims, second, ht, hpayload, hclaims, hsecond, hx⟩
    have hexpiry : claims.expiry.bind Instant.ofSeconds? = some x := by rw [hsecond]; exact hx
    exact ⟨_, ⟨claims, ⟨t, payload, ht, hpayload, hclaims⟩, rfl⟩, hexpiry⟩

/-- A token is near its expiry if at most the threshold is left until then, and if it says of none. -/
theorem isNearExpiry_iff :
    isNearExpiry now token threshold = true ↔ ∀ x, Expires token x → x.since now ≤ threshold := by
  unfold isNearExpiry
  cases hx : (view now token).bind (·.expiresAt) with
  | none =>
      have hnone : ∀ x, ¬ Expires token x := by
        intro x h
        rw [(view_expiresAt_iff now).mpr h] at hx
        cases hx
      simp [hnone]
  | some x =>
      have hexpires := (view_expiresAt_iff now).mp hx
      simp only [decide_eq_true_eq]
      constructor
      · intro hnear x' hx'
        rw [(view_expiresAt_iff now).mpr hx'] at hx
        cases hx
        exact hnear
      · intro hnear
        exact hnear x hexpires

/-! ### Views of verified tokens -/

/-- Claims that are verified are read without the key too. -/
theorem view_of_verified (h : verifiedClaims s token = .ok c) (now : Instant) :
    view now token = some
      { tokenId := some c.tokenId, userId := c.userId.bind Uuid.ofText?, userName := some c.name
        issuedAt := Instant.ofSeconds? c.issuedAt, expiresAt := Instant.ofSeconds? c.expiry
        isExpired := (Instant.ofSeconds? c.expiry).all fun e => decide (e ≤ now) } := by
  obtain ⟨t, ht, hsigned⟩ := verifiedClaims_eq_ok_iff.mp h
  obtain ⟨header, hheader, _⟩ := hsigned.algorithm
  obtain ⟨payload, hpayload, hobject, hclaims⟩ := hsigned.claims
  have hof : t.Of token := Segments.of_iff.mpr ⟨ht, dot_not_mem_of_segmentJson? hheader⟩
  have hread : unverifiedClaims? token = some c.read :=
    unverifiedClaims?_eq_some_iff.mpr
      ⟨t, payload, hof, hpayload, AccessClaims.read_of_ofJson? hobject hclaims⟩
  unfold view
  rw [hread]
  rfl

/-- Whether a token has expired is not asked before its claims are verified. -/
theorem verifiedClaims_ne_expired : verifiedClaims s token ≠ .error .expired := by
  unfold verifiedClaims
  refine orFault_bind_ne (by decide) fun t => ?_
  refine orFault_bind_ne (by decide) fun header => ?_
  refine orFault_bind_ne (by decide) fun algorithm => ?_
  refine require_bind_ne (by decide) ?_
  refine orFault_bind_ne (by decide) fun digest => ?_
  refine require_bind_ne (by decide) ?_
  refine orFault_bind_ne (by decide) fun payload => ?_
  refine orFault_bind_ne (by decide) fun claims => ?_
  refine require_bind_ne (by decide) ?_
  refine require_bind_ne (by decide) ?_
  exact require_bind_ne (by decide) nofun

/-- A token that has expired carries verified claims whose expiry is over. -/
theorem validate_eq_expired_iff :
    validate s now token = .error .expired ↔
      ∃ c, verifiedClaims s token = .ok c ∧ c.expiry ≤ now.second := by
  unfold validate
  cases hc : verifiedClaims s token with
  | error fault =>
      constructor
      · intro h
        cases h
        exact absurd hc verifiedClaims_ne_expired
      · rintro ⟨c, h, _⟩
        cases h
  | ok claims =>
      change (require _ _ >>= fun _ => _) = _ ↔ _
      by_cases hexpired : claims.expiry ≤ now.second
      · rw [require_bind_false _ (decide_eq_false (by omega))]
        exact iff_of_true rfl ⟨claims, rfl, hexpired⟩
      · rw [require_bind _ (decide_eq_true (by omega))]
        refine iff_of_false ?_ ?_
        · refine require_bind_ne (by decide) ?_
          exact orFault_bind_ne (by decide) nofun
        · rintro ⟨c, h, hle⟩
          cases h
          exact hexpired hle

/-! ### Advice -/

/-- The view of a token that is accepted. -/
theorem view_of_validate {p : Principal} (h : validate s now token = .ok p) :
    ∃ v, view now token = some v ∧ v.Shows p ∧ v.isExpired = false := by
  obtain ⟨t, c, ht, hgenuine, rfl⟩ := validate_eq_ok_iff.mp h
  have hverified := verifiedClaims_eq_ok_iff.mpr ⟨t, ht, hgenuine.toSigned⟩
  have hexpires : Instant.ofSeconds? c.expiry = some (.ofSeconds c.expiry) :=
    (Instant.ofSeconds?_eq_some_iff hgenuine.expiry).mpr ⟨hgenuine.inCalendar, rfl⟩
  have hlasting : ¬ Instant.ofSeconds c.expiry ≤ now :=
    Instant.not_le.mpr (Instant.lt_ofSeconds.mpr hgenuine.lasting)
  refine ⟨_, view_of_verified hverified now, ⟨rfl, rfl, rfl, hexpires⟩, ?_⟩
  rw [hexpires]
  exact decide_eq_false hlasting

/-- A token that is accepted says when it expires. -/
theorem expires_of_validate {p : Principal} (h : validate s now token = .ok p) :
    Expires token x ↔ x = p.expiresAt := by
  obtain ⟨v, hv, hshows, _⟩ := view_of_validate h
  rw [← view_expiresAt_iff now, hv, Option.bind_some, hshows.expiresAt]
  exact ⟨fun heq => (Option.some.inj heq).symm, fun heq => congrArg some heq.symm⟩

/-- The view of a token that has expired, and how much is left of it. -/
theorem view_of_expired (h : validate s now token = .error .expired) :
    ∃ v, view now token = some v ∧ v.isExpired = true ∧
      ∀ x, Expires token x → (x.since now).nanos ≤ 0 := by
  obtain ⟨c, hverified, hover⟩ := validate_eq_expired_iff.mp h
  have hv := view_of_verified hverified now
  refine ⟨_, hv, ?_, fun x hx => ?_⟩
  · -- an expiry that the calendar does not hold counts as over
    rw [Option.all_eq_true]
    intro x hx
    obtain rfl := Instant.eq_ofSeconds_of_ofSeconds? hx
    have hle : Instant.ofSeconds c.expiry ≤ now :=
      Instant.not_lt.mp fun hlt => absurd (Instant.lt_ofSeconds.mp hlt) (by omega)
    exact decide_eq_true hle
  · have hexpires := (view_expiresAt_iff now).mpr hx
    rw [hv, Option.bind_some] at hexpires
    obtain rfl := Instant.eq_ofSeconds_of_ofSeconds? hexpires
    exact Instant.since_ofSeconds_nonpos hover

/-- Nothing comes between two readings of the clock that would make more be left of a time than
before: they are the same, neither lies in a leap second, or the threshold is in whole seconds and
does not see what a leap second counts. -/
def Steady (now later : Instant) (threshold : Duration) : Prop :=
  now = later ∨ (¬ now.IsLeap ∧ ¬ later.IsLeap) ∨
    now.subsecond < 2 * Duration.nanosPerSecond ∧ ∃ n, threshold = .ofSeconds n

/-- The readings of the system's clock, which counts nanoseconds, are so for every threshold. -/
theorem steady_ofNanos (m n : Int) (threshold : Duration) :
    Steady (.ofNanos m) (.ofNanos n) threshold :=
  .inr (.inl ⟨Instant.not_isLeap_ofNanos m, Instant.not_isLeap_ofNanos n⟩)

/-- A token that is near its expiry stays so. -/
theorem isNearExpiry_later (hle : now ≤ later) (hsteady : Steady now later threshold)
    (hwider : threshold ≤ threshold') (h : isNearExpiry now token threshold = true) :
    isNearExpiry later token threshold' = true := by
  rw [isNearExpiry_iff] at h ⊢
  intro x hx
  obtain ⟨_, _, _, second, _, _, _, _, hsecond⟩ := id hx
  have hleft := h x hx
  have hless : x.since later ≤ threshold := by
    obtain rfl := Instant.eq_ofSeconds_of_ofSeconds? hsecond
    rcases hsteady with rfl | ⟨hnow, hlater⟩ | ⟨hnow, n, rfl⟩
    · exact hleft
    · exact Int.le_trans (Instant.since_ofSeconds_le hle hnow hlater) hleft
    · exact Instant.since_ofSeconds_le_ofSeconds hle hnow hleft
  exact Int.le_trans hless hwider

/-- **What is read without a key never contradicts what is verified.**  Of a token that is accepted
the view shows the same id, user, name and expiry, and that it has not expired; it is near its expiry
if at most the threshold is left.  Of a token that has expired the view says so, and it is near its
expiry for every threshold that is not negative.  Whatever the text, once it is near its expiry it
stays so at later times and for larger thresholds: always as the system's clock reads them, and for a
threshold in whole seconds on a clock with leap seconds too.  A text that does not say when it
expires is always near it. -/
theorem view_never_contradicts (s : TokenSettings) (token : String) (now : Instant) :
    (∀ p, validate s now token = .ok p →
      ∃ v, view now token = some v ∧ v.Shows p ∧ v.isExpired = false ∧
        ∀ threshold,
          isNearExpiry now token threshold = true ↔ p.expiresAt.since now ≤ threshold) ∧
    (validate s now token = .error .expired →
      ∃ v, view now token = some v ∧ v.isExpired = true ∧
        ∀ threshold : Duration, 0 ≤ threshold.nanos →
          isNearExpiry now token threshold = true) ∧
    (∀ later threshold threshold', now ≤ later → threshold ≤ threshold' →
      Steady now later threshold → isNearExpiry now token threshold = true →
        isNearExpiry later token threshold' = true) ∧
    ((∀ x, ¬ Expires token x) → ∀ threshold, isNearExpiry now token threshold = true) := by
  refine ⟨fun p hvalid => ?_, fun hexpired => ?_, ?_, ?_⟩
  · obtain ⟨v, hv, hshows, hlasting⟩ := view_of_validate hvalid
    refine ⟨v, hv, hshows, hlasting, fun threshold => ?_⟩
    simp only [isNearExpiry_iff, expires_of_validate hvalid, forall_eq]
  · obtain ⟨v, hv, hover, hleft⟩ := view_of_expired hexpired
    refine ⟨v, hv, hover, fun threshold hthreshold => ?_⟩
    rw [isNearExpiry_iff]
    intro x hx
    exact Int.le_trans (hleft x hx) hthreshold
  · intro later threshold threshold' hle hwider hsteady hnear
    exact isNearExpiry_later hle hsteady hwider hnear
  · intro hnone threshold
    rw [isNearExpiry_iff]
    exact fun x hx => absurd hx (hnone x)

section Issued

variable {tokenId : Uuid} {identity : Identity} {access : Access} {issued : IssuedToken}
  {t : Instant} (hissue : issue s now tokenId identity access = some issued)
  (hnow : 0 ≤ now.second) (hexpiry : now.add? (lifetime s) = some x)
include hissue hnow hexpiry

/-- An issued token is accepted until the second of its expiry. -/
theorem validate_of_issue (hbegun : now.second ≤ t.second) (hlasting : t.second < x.second) :
    ∃ p, validate s t issued.token = .ok p ∧ p.expiresAt = .ofSeconds x.second := by
  obtain ⟨_, hexpiry', _, hexpires, _, hvalidate⟩ := validate_issue hnow hissue t
  cases hexpiry.symm.trans hexpiry'
  rw [if_neg (by omega), if_neg (by omega)] at hvalidate
  exact ⟨_, hvalidate, hexpires⟩

theorem validate_of_issue_expired (hover : x.second ≤ t.second) :
    validate s t issued.token = .error .expired := by
  obtain ⟨_, hexpiry', _, _, _, hvalidate⟩ := validate_issue hnow hissue t
  cases hexpiry.symm.trans hexpiry'
  rw [if_pos hover] at hvalidate
  exact hvalidate

/-- An issued token is near its expiry if at most the threshold is left until then. -/
theorem isNearExpiry_of_issue (hlasting : now.second < x.second) :
    isNearExpiry t issued.token threshold = true ↔
      (Instant.ofSeconds x.second).since t ≤ threshold := by
  obtain ⟨p, hvalid, hexpires⟩ :=
    validate_of_issue hissue hnow hexpiry (Int.le_refl now.second) hlasting
  simp only [isNearExpiry_iff, expires_of_validate hvalid, hexpires, forall_eq]

end Issued

/-- In the last second of its life a token is shown as it is, near its expiry by a second and not by
less; an hour later it has expired, and it is near its expiry still. -/
theorem view_never_contradicts_last_second :
    let s : TokenSettings := { key := "a key of no fewer than 32 bytes." }
    let zoe : Identity := ⟨⟨1⟩, "Zoë", "zoe@example.org", "", true⟩
    let now : Instant := .ofSeconds 3599
    ∃ issued p, issue s (.ofSeconds 0) ⟨3⟩ zoe ⟨[], []⟩ = some issued ∧
      validate s now issued.token = .ok p ∧
      (∃ v, view now issued.token = some v ∧ v.Shows p ∧ v.isExpired = false) ∧
      isNearExpiry now issued.token (.ofSeconds 1) = true ∧
      isNearExpiry now issued.token ⟨999999999⟩ = false ∧
      isNearExpiry (.ofSeconds 7199) issued.token (.ofSeconds 60) = true ∧
      validate s (.ofSeconds 7199) issued.token = .error .expired ∧
      (∃ v, view (.ofSeconds 7199) issued.token = some v ∧ v.isExpired = true) ∧
      isNearExpiry now "no token" ⟨-1⟩ = true := by
  intro s zoe now
  have hexpiry : (Instant.ofSeconds 0).add? (lifetime s) = some (.ofSeconds 3600) := by decide
  obtain ⟨issued, hissue⟩ := exists_issue ⟨3⟩ zoe ⟨[], []⟩ hexpiry
  obtain ⟨p, hvalid, hexpires⟩ := validate_of_issue hissue (Int.le_refl 0) hexpiry (t := now)
    (by decide) (by decide)
  have hexpired := validate_of_issue_expired hissue (Int.le_refl 0) hexpiry
    (t := .ofSeconds 7199) (by decide)
  obtain ⟨haccepted, _, hlater, _⟩ := view_never_contradicts s issued.token now
  obtain ⟨_, hover, _, _⟩ := view_never_contradicts s issued.token (.ofSeconds 7199)
  obtain ⟨_, _, _, hunread⟩ := view_never_contradicts s "no token" now
  obtain ⟨v, hv, hshows, hlasting, hnear⟩ := haccepted _ hvalid
  obtain ⟨v', hv', hover, _⟩ := hover hexpired
  have hleft : p.expiresAt.since now ≤ .ofSeconds 1 ∧
      ¬ p.expiresAt.since now ≤ ⟨999999999⟩ := by
    rw [hexpires]
    decide
  have hsecond : isNearExpiry now issued.token (.ofSeconds 1) = true := (hnear _).mpr hleft.1
  have hless : isNearExpiry now issued.token ⟨999999999⟩ = false :=
    Bool.eq_false_iff.mpr fun h => hleft.2 ((hnear _).mp h)
  have hunreadable : ∀ x, ¬ Expires "no token" x := by
    rintro x ⟨t, _, _, _, ht, _⟩
    have hone : ("no token".toList.splitOn '.').length = 1 := by decide
    rw [ht] at hone
    cases hone
  exact ⟨issued, _, hissue, hvalid, ⟨v, hv, hshows, hlasting⟩, hsecond, hless,
    hlater _ _ _ (by decide) (by decide) (steady_ofNanos 3599000000000 7199000000000 _) hsecond,
    hexpired,
    ⟨v', hv', hover⟩, hunread hunreadable _⟩

/-- **The time that is left, through a leap second.**  It is counted among the time that is left until
an expiry that is later in its day, and not until one at midnight.  So a token may be near its expiry
and a moment later, in a leap second, not be near it; and in the leap second before midnight it may
be near an expiry by no time at all that is still to come. -/
theorem view_contradicts_in_leap_second :
    (¬ ∀ (token : String) (now later : Instant) (threshold threshold' : Duration),
      now ≤ later → threshold ≤ threshold' → isNearExpiry now token threshold = true →
        isNearExpiry later token threshold' = true) ∧
    ¬ ∀ (s : TokenSettings) (token : String) (now : Instant) (p : Principal),
      validate s now token = .ok p →
        (isNearExpiry now token ⟨0⟩ = true ↔ p.expiresAt ≤ now) := by
  let s : TokenSettings := { key := "a key of no fewer than 32 bytes." }
  let zoe : Identity := ⟨⟨1⟩, "Zoë", "zoe@example.org", "", true⟩
  constructor
  · intro h
    have hexpiry : (Instant.ofSeconds 30).add? (lifetime s) = some (.ofSeconds 3630) := by decide
    obtain ⟨issued, hissue⟩ := exists_issue ⟨3⟩ zoe ⟨[], []⟩ hexpiry
    have hnear {t : Instant} {threshold : Duration} :
        isNearExpiry t issued.token threshold = true ↔
          (Instant.ofSeconds 3630).since t ≤ threshold :=
      isNearExpiry_of_issue hissue (by decide) hexpiry (by decide)
    -- half a minute is left, at the end of a minute that has a leap second
    have hlater := h issued.token ⟨3599, 900000000⟩ ⟨3599, 1500000000⟩ ⟨30200000000⟩ ⟨30200000000⟩
      (by decide) (by decide) (hnear.mpr (by decide))
    exact absurd (hnear.mp hlater) (by decide)
  · intro h
    have hexpiry : (Instant.ofSeconds 82800).add? (lifetime s) = some (.ofSeconds 86400) := by
      decide
    obtain ⟨issued, hissue⟩ := exists_issue ⟨3⟩ zoe ⟨[], []⟩ hexpiry
    obtain ⟨p, hvalid, hexpires⟩ := validate_of_issue hissue (by decide) hexpiry
      (t := ⟨86399, 1500000000⟩) (by decide) (by decide)
    have hnear : isNearExpiry ⟨86399, 1500000000⟩ issued.token ⟨0⟩ = true :=
      (isNearExpiry_of_issue hissue (by decide) hexpiry (by decide)).mpr (by decide)
    have hover := (h s issued.token _ p hvalid).mp hnear
    rw [hexpires] at hover
    exact absurd hover (by decide)

end Token

end Gatehouse

import Gatehouse.Proofs.Json.Place
import Gatehouse.Proofs.Token.Claims

/-! # The text of claims

Claims are written as a text, and the text reads back as the claims, whatever their strings are: the
value that is written has no decimals, so its text reads back as the value (`Json.ofText?_compact`),
and the value as the claims.  Other issuers write a list of one as its only string.  Brackets can be put
around it in the text (`Json.exists_bracketed_text`), and nothing is lost by either way of writing: a
record whose member is replaced holds what it held under every other name (`Json.declared?_replace`),
and under that name the two are read alike (`AccessClaims.ofJson?_replace`). -/

namespace Gatehouse

namespace Json

/-- The text that is written for a value without decimals reads back as the value. -/
theorem ofText?_compact {j : Json} (h : Exact j) : ofText? j.compact = some j := by
  unfold ofText? compact Input.ofText
  rw [String.toList_ofList]
  exact ofInput?_chars h

variable {names : List String} {pre post : List (Option String × Json)} {name : String} {j : Json}
  {ms : Members}

/-- **A record with another value under one of its names** holds the same under every other name. -/
theorem declared?_replace (hname : name ∈ names) (j' : Json)
    (h : declared? names (pre ++ (some name, j) :: post) = some ms) :
    ms.value? name = some j ∧ ∃ ms', declared? names (pre ++ (some name, j') :: post) = some ms' ∧
      ms'.value? name = some j' ∧ ∀ other, other ≠ name → ms'.value? other = ms.value? other := by
  induction pre generalizing ms with
  | nil =>
      obtain ⟨ms₀, hpost, ⟨_, habsent, rfl⟩ | ⟨hnot, _⟩⟩ := declared?_cons_eq_some.mp h
      · refine ⟨List.lookup_cons_self, (name, j') :: ms₀, declared?_cons_eq_some.mpr
          ⟨ms₀, hpost, .inl ⟨hname, habsent, rfl⟩⟩, List.lookup_cons_self, fun other hother => ?_⟩
        have hne : (other == name) = false := beq_eq_false_iff_ne.mpr hother
        simp only [Members.value?, List.lookup_cons, hne]
      · exact absurd hname hnot
  | cons member pre ih =>
      obtain ⟨_ | key, v⟩ := member
      · cases h
      obtain ⟨ms₀, hrest, hheld⟩ := declared?_cons_eq_some.mp h
      obtain ⟨hvalue, ms₀', hrest', hvalue', hsame⟩ := ih hrest
      rcases hheld with ⟨hkey, habsent, rfl⟩ | ⟨hkey, rfl⟩
      · have hne : key ≠ name := by
          rintro rfl
          cases habsent.symm.trans hvalue
        have hother : (name == key) = false := beq_eq_false_iff_ne.mpr hne.symm
        have habsent' : ms₀'.value? key = none := (hsame key hne).trans habsent
        refine ⟨?_, (key, v) :: ms₀', declared?_cons_eq_some.mpr
          ⟨ms₀', hrest', .inl ⟨hkey, habsent', rfl⟩⟩, ?_, fun other hne' => ?_⟩
        · simpa only [Members.value?, List.lookup_cons, hother] using hvalue
        · simpa only [Members.value?, List.lookup_cons, hother] using hvalue'
        · have hrest := hsame other hne'
          simp only [Members.value?] at hrest
          simp only [Members.value?, List.lookup_cons, hrest]
      · exact ⟨hvalue, ms₀', declared?_cons_eq_some.mpr ⟨ms₀', hrest', .inr ⟨hkey, rfl⟩⟩, hvalue',
          hsame⟩

end Json

namespace AccessClaims

/-- The text of the claims. -/
def toText (c : AccessClaims) : String := c.toJson.compact

/-- The claims that a text holds. -/
def ofText? (text : String) : Option AccessClaims := (Json.ofText? text).bind ofJson?

/-- The claims with the given times. -/
def withTimes (c : AccessClaims) (issuedAt notBefore expiry : Int64) : AccessClaims :=
  { c with issuedAt := issuedAt.toInt, notBefore := notBefore.toInt, expiry := expiry.toInt }

theorem int64?_toInt (i : Int64) : (Json.integer i.toInt).int64? = some i.toInt :=
  Json.int64?_integer (Int64.le_toInt i) (Int64.toInt_le i)

theorem bounded_withTimes (c : AccessClaims) (issuedAt notBefore expiry : Int64) :
    (c.withTimes issuedAt notBefore expiry).Bounded :=
  ⟨int64?_toInt _, int64?_toInt _, int64?_toInt _⟩

/-- The claims depend on what the record holds under each name, for the lists only on how it is
read. -/
theorem ofJson?_congr {j j' : Json} {ms ms' : Json.Members}
    (h : Json.record? members j = some ms) (h' : Json.record? members j' = some ms')
    (hroles : list? ms' "role" = list? ms "role")
    (hpermissions : list? ms' "permission" = list? ms "permission")
    (hvalues : ∀ name, name ∉ ["role", "permission"] → ms'.value? name = ms.value? name) :
    ofJson? j' = ofJson? j := by
  have htext (name : String) (hname : name ∉ ["role", "permission"]) :
      ms'.text? name = ms.text? name := by
    rw [Json.Members.text?, Json.Members.text?, hvalues name hname]
  have hinteger (name : String) (hname : name ∉ ["role", "permission"]) :
      ms'.int64? name = ms.int64? name := by
    rw [Json.Members.int64?, Json.Members.int64?, hvalues name hname]
  have huser : ms'.optionalText? "user_id" = ms.optionalText? "user_id" := by
    rw [Json.Members.optionalText?, Json.Members.optionalText?, hvalues "user_id" (by decide)]
  unfold ofJson?
  rw [h, h', Option.bind_eq_bind, Option.bind_some, Option.bind_eq_bind, Option.bind_some,
    htext "sub" (by decide), htext "name" (by decide), htext "email" (by decide), huser,
    htext "jti" (by decide), hroles, hpermissions, htext "iss" (by decide),
    htext "aud" (by decide), hinteger "iat" (by decide), hinteger "nbf" (by decide),
    hinteger "exp" (by decide)]

variable {pre post : List (Option String × Json)} {name : String} {j j' : Json}

theorem list?_congr {ms ms' : Json.Members} (hvalue : ms.value? name = some j)
    (hvalue' : ms'.value? name = some j') (hlist : oneOrMany? j' = oneOrMany? j)
    (hothers : ∀ other, other ≠ name → ms'.value? other = ms.value? other) (key : String) :
    list? ms' key = list? ms key := by
  unfold list?
  by_cases hkey : key = name
  · rw [hkey, hvalue, hvalue']
    exact hlist
  · rw [hothers key hkey]

/-- **A list may be written in any way that is read alike.** -/
theorem ofJson?_replace (hname : name ∈ ["role", "permission"])
    (hlist : oneOrMany? j' = oneOrMany? j) :
    ofJson? (.object (pre ++ (some name, j') :: post)) =
      ofJson? (.object (pre ++ (some name, j) :: post)) := by
  have hdeclared : name ∈ members.map (·.name) :=
    (show ∀ name ∈ ["role", "permission"], name ∈ members.map (·.name) by decide) name hname
  cases h : Json.record? members (.object (pre ++ (some name, j) :: post)) with
  | none =>
      cases h' : Json.record? members (.object (pre ++ (some name, j') :: post)) with
      | none => rw [ofJson?, ofJson?, h, h']
      | some ms' =>
          obtain ⟨_, ms, hms, _⟩ := Json.declared?_replace hdeclared j h'
          cases h.symm.trans hms
  | some ms =>
      obtain ⟨hvalue, ms', h', hvalue', hothers⟩ := Json.declared?_replace hdeclared j' h
      refine ofJson?_congr h h' (list?_congr hvalue hvalue' hlist hothers _)
        (list?_congr hvalue hvalue' hlist hothers _) fun other hother => hothers other ?_
      rintro rfl
      exact hother hname

theorem oneOrMany?_singleton (s : Option String) :
    oneOrMany? (.array [.string s]) = oneOrMany? (.string s) := by
  cases s <;> rfl

/-- **Claims survive their text.**  Whatever the strings and lists of claims are, and whatever words of
sixty-four bits their times, the text that is written for them reads back as the claims.  And where
a text writes the roles or the permissions as a single string, the string may be put into brackets,
which makes it a list of one; every text that writes this list there is read as the one with the bare
string is, and refused if that is refused. -/
theorem claims_survive_text :
    (∀ (c : AccessClaims) (issuedAt notBefore expiry : Int64),
      ofText? (c.withTimes issuedAt notBefore expiry).toText =
        some (c.withTimes issuedAt notBefore expiry)) ∧
    ∀ (text : String) (pre post : List (Option String × Json)) (name : String) (s : Option String),
      name ∈ ["role", "permission"] →
      Json.ofText? text = some (.object (pre ++ (some name, .string s) :: post)) →
      (∃ front literal back : String, text = front ++ literal ++ back ∧
        Json.ofText? literal = some (.string s) ∧
        Json.ofText? (front ++ "[" ++ literal ++ "]" ++ back) =
          some (.object (pre ++ (some name, .array [.string s]) :: post))) ∧
      ∀ text', Json.ofText? text' =
          some (.object (pre ++ (some name, .array [.string s]) :: post)) →
        ofText? text' = ofText? text := by
  refine ⟨fun c issuedAt notBefore expiry => ?_, fun text pre post name s hname htext =>
    ⟨Json.exists_bracketed_text htext, fun text' htext' => ?_⟩⟩
  · rw [ofText?, toText, Json.ofText?_compact (exact_toJson _), Option.bind_some]
    exact ofJson?_toJson (bounded_withTimes c issuedAt notBefore expiry)
  · rw [ofText?, ofText?, htext, htext', Option.bind_some, Option.bind_some]
    exact ofJson?_replace hname (oneOrMany?_singleton s)

namespace Sample

/-- A text of another issuer, with a bare string for the only role. -/
def foreignText : String :=
  "\x7b\"sub\":\"s\",\"name\":\"n\",\"email\":\"e\",\"jti\":\"j\",\"role\":\"Administrador\"," ++
    "\"permission\":[\"A:B\"],\"iss\":\"i\",\"aud\":\"a\",\"iat\":0,\"nbf\":0,\"exp\":1\x7d"

/-- The members in front of the roles. -/
def inFront : List (Option String × Json) :=
  [(some "sub", .text "s"), (some "name", .text "n"), (some "email", .text "e"),
    (some "jti", .text "j")]

/-- The members behind the roles. -/
def behind : List (Option String × Json) :=
  [(some "permission", .texts ["A:B"]), (some "iss", .text "i"), (some "aud", .text "a"),
    (some "iat", .integer 0), (some "nbf", .integer 0), (some "exp", .integer 1)]

/-- The claims of the text. -/
def foreign : AccessClaims where
  subject := "s"
  name := "n"
  email := "e"
  userId := none
  tokenId := "j"
  roles := ["Administrador"]
  permissions := ["A:B"]
  issuer := "i"
  audience := "a"
  issuedAt := 0
  notBefore := 0
  expiry := 1

theorem ofText?_foreignText : Json.ofText? foreignText =
    some (.object (inFront ++ (some "role", .string (some "Administrador")) :: behind)) := by
  have htext : foreignText =
      (Json.object (inFront ++ (some "role", .string (some "Administrador")) :: behind)).compact := by
    decide +kernel
  have hexact : (Json.object
      (inFront ++ (some "role", .string (some "Administrador")) :: behind)).Exact := by
    refine .object fun m hm => ?_
    simp only [inFront, behind, List.cons_append, List.nil_append, List.mem_cons, List.not_mem_nil,
      or_false] at hm
    rcases hm with rfl | rfl | rfl | rfl | rfl | rfl | rfl | rfl | rfl | rfl | rfl
    all_goals first | exact Json.exact_texts _ | constructor
  rw [htext]
  exact Json.ofText?_compact hexact

end Sample

theorem claims_survive_text_foreign :
    ofText? (Sample.foreign.withTimes 0 0 1).toText = some (Sample.foreign.withTimes 0 0 1) ∧
    Json.ofText? Sample.foreignText = some (.object
      (Sample.inFront ++ (some "role", .string (some "Administrador")) :: Sample.behind)) ∧
    (∃ front literal back : String, Sample.foreignText = front ++ literal ++ back ∧
      Json.ofText? literal = some (.string (some "Administrador")) ∧
      Json.ofText? (front ++ "[" ++ literal ++ "]" ++ back) = some (.object
        (Sample.inFront ++ (some "role", .array [.string (some "Administrador")]) :: Sample.behind))) ∧
    (∀ text', Json.ofText? text' = some (.object
        (Sample.inFront ++ (some "role", .array [.string (some "Administrador")]) :: Sample.behind)) →
      ofText? text' = ofText? Sample.foreignText) ∧
    ofText? Sample.foreignText = some Sample.foreign := by
  obtain ⟨hroundtrip, hbracket⟩ := claims_survive_text
  obtain ⟨hplace, halike⟩ := hbracket Sample.foreignText Sample.inFront Sample.behind "role"
    (some "Administrador") (by decide) Sample.ofText?_foreignText
  refine ⟨hroundtrip Sample.foreign 0 0 1, Sample.ofText?_foreignText, hplace, halike, ?_⟩
  rw [ofText?, Sample.ofText?_foreignText]
  rfl

end AccessClaims

end Gatehouse

import Gatehouse.Proofs.Json.RoundTrip
import Gatehouse.Token.Claims

/-! # Reading back claims

An object whose names are declared, no two of them the same, is read as the record of its members
(`Json.declared?_of_nodup`).  The claims of a token are such an object, whichever of their lists are
left out, and each claim is then found under its name (`AccessClaims.ofJson?_toJson`). -/

namespace Gatehouse

/-! ### Records -/

namespace Json

theorem texts?_texts (ss : List String) : (texts ss).texts? = some ss := by
  have hread : (ss.map text).mapM text? = some ss := by
    induction ss with
    | nil => rfl
    | cons s ss ih =>
        rw [List.map_cons, List.mapM_cons, ih]
        rfl
  exact hread

theorem int64?_integer {i : Int} (hlo : Int64.minValue.toInt ≤ i) (hhi : i ≤ Int64.maxValue.toInt) :
    (integer i).int64? = some i := by
  simp only [int64?, hlo, hhi, decide_true, Bool.and_self, if_true]

/-- What one more member does: it is held if it is declared, and then it must not be held yet. -/
theorem declared?_cons_eq_some {names : List String} {members : List (Option String × Json)}
    {name : String} {j : Json} {ms : Members} :
    declared? names ((some name, j) :: members) = some ms ↔
      ∃ ms₀, declared? names members = some ms₀ ∧
        (name ∈ names ∧ ms₀.value? name = none ∧ ms = (name, j) :: ms₀ ∨
          name ∉ names ∧ ms = ms₀) := by
  rw [declared?, Option.bind_eq_bind, Option.bind_eq_some_iff]
  refine exists_congr fun ms₀ => and_congr_right fun _ => ?_
  by_cases hname : name ∈ names
  · rw [if_pos (List.contains_iff_mem.mpr hname), Option.bind_eq_bind, Option.bind_eq_some_iff]
    simp [hname, Option.guard_eq_some', Members.value?, @eq_comm _ ms]
  · rw [if_neg fun hcontains => hname (List.contains_iff_mem.mp hcontains)]
    simp [hname, @eq_comm _ ms]

/-- An object whose names are declared and different holds its members. -/
theorem declared?_of_nodup {names : List String} {ms : Members}
    (hdeclared : ∀ name ∈ ms.map (·.1), name ∈ names) (hnodup : (ms.map (·.1)).Nodup) :
    declared? names (ms.map fun (k, v) => (some k, v)) = some ms := by
  induction ms with
  | nil => rfl
  | cons m ms ih =>
      obtain ⟨name, j⟩ := m
      have hname : names.contains name = true := List.contains_iff_mem.mpr (hdeclared _ (.head _))
      rw [List.map_cons, List.nodup_cons] at hnodup
      have habsent : (ms.lookup name).isNone = true := by
        rw [Option.isNone_iff_eq_none, List.lookup_eq_none_iff]
        intro m hm
        rw [bne_iff_ne]
        rintro rfl
        exact hnodup.1 (List.mem_map.mpr ⟨m, hm, rfl⟩)
      have hrest := ih (fun name hn => hdeclared name (.tail _ hn)) hnodup.2
      rw [List.map_cons, declared?, hrest]
      change (if names.contains name = true then _ else _) = _
      rw [if_pos hname, guard_of habsent]
      rfl

theorem exact_obj {ms : List (String × Json)} (h : ∀ m ∈ ms, m.2.Exact) : (obj ms).Exact := by
  refine .object fun m hm => ?_
  obtain ⟨m', hm', rfl⟩ := List.mem_map.mp hm
  exact h m' hm'

theorem exact_optionalText (s : Option String) : (optionalText s).Exact := by
  cases s with
  | none => exact .null
  | some s => exact .string (some s)

theorem exact_texts (ss : List String) : (texts ss).Exact := by
  refine .array fun j hj => ?_
  obtain ⟨s, _, rfl⟩ := List.mem_map.mp hj
  exact .string (some s)

end Json

/-! ### Claims -/

namespace AccessClaims

variable (c : AccessClaims)

/-- The members in front of the lists. -/
def front : Json.Members :=
  [("sub", .text c.subject), ("name", .text c.name), ("email", .text c.email),
    ("user_id", .optionalText c.userId), ("jti", .text c.tokenId)]

/-- The members behind the lists. -/
def back : Json.Members :=
  [("iss", .text c.issuer), ("aud", .text c.audience), ("iat", .integer c.issuedAt),
    ("nbf", .integer c.notBefore), ("exp", .integer c.expiry)]

/-- The members of the claims as they are written. -/
def held : Json.Members :=
  c.front ++ listMember "role" c.roles ++ listMember "permission" c.permissions ++ c.back

/-- The names of the members as they are written, with or without the lists. -/
def heldNames (role permission : Bool) : List String :=
  ["sub", "name", "email", "user_id", "jti"] ++ (if role then ["role"] else []) ++
    (if permission then ["permission"] else []) ++ ["iss", "aud", "iat", "nbf", "exp"]

theorem names_listMember (name : String) (items : List String) :
    (listMember name items).map (·.1) = if !items.isEmpty then [name] else [] := by
  cases items <;> rfl

theorem names_held : c.held.map (·.1) = heldNames (!c.roles.isEmpty) (!c.permissions.isEmpty) := by
  unfold held heldNames
  rw [List.map_append, List.map_append, List.map_append, names_listMember, names_listMember]
  rfl

theorem record?_toJson : Json.record? members c.toJson = some c.held := by
  have hnames : ∀ role permission : Bool, (heldNames role permission).Nodup ∧
      ∀ name ∈ heldNames role permission, name ∈ members.map (·.name) := by decide
  obtain ⟨hnodup, hdeclared⟩ := hnames (!c.roles.isEmpty) (!c.permissions.isEmpty)
  rw [← names_held] at hnodup hdeclared
  exact Json.declared?_of_nodup hdeclared hnodup

theorem lookup_listMember_ne {name key : String} (h : key ≠ name) (items : List String) :
    (listMember name items).lookup key = none := by
  cases items with
  | nil => rfl
  | cons i items => simp [listMember, h]

theorem lookup_listMember (name : String) (items : List String) :
    (listMember name items).lookup name = if items.isEmpty then none else some (.texts items) := by
  cases items with
  | nil => rfl
  | cons i items => simp [listMember]

theorem value?_front {key : String} {j : Json} (h : c.front.lookup key = some j) :
    c.held.value? key = some j := by
  unfold Json.Members.value? held
  rw [List.lookup_append, List.lookup_append, List.lookup_append, h]
  rfl

theorem value?_back {key : String} (hfront : c.front.lookup key = none) (hrole : key ≠ "role")
    (hpermission : key ≠ "permission") : c.held.value? key = c.back.lookup key := by
  unfold Json.Members.value? held
  rw [List.lookup_append, List.lookup_append, List.lookup_append, hfront,
    lookup_listMember_ne hrole, lookup_listMember_ne hpermission]
  rfl

theorem value?_role :
    c.held.value? "role" = if c.roles.isEmpty then none else some (.texts c.roles) := by
  have hfront : c.front.lookup "role" = none := rfl
  have hback : c.back.lookup "role" = none := rfl
  unfold Json.Members.value? held
  rw [List.lookup_append, List.lookup_append, List.lookup_append, hfront, hback,
    lookup_listMember, lookup_listMember_ne (by decide)]
  cases c.roles <;> rfl

theorem value?_permission :
    c.held.value? "permission" =
      if c.permissions.isEmpty then none else some (.texts c.permissions) := by
  have hfront : c.front.lookup "permission" = none := rfl
  have hback : c.back.lookup "permission" = none := rfl
  unfold Json.Members.value? held
  rw [List.lookup_append, List.lookup_append, List.lookup_append, hfront, hback,
    lookup_listMember, lookup_listMember_ne (by decide)]
  cases c.permissions <;> rfl

section

variable {ms : Json.Members} {name : String}

theorem list?_eq {items : List String}
    (h : ms.value? name = if items.isEmpty then none else some (.texts items)) :
    list? ms name = some items := by
  unfold list?
  rw [h]
  cases items with
  | nil => rfl
  | cons i items => exact Json.texts?_texts (i :: items)

theorem text?_eq {s : String} (h : ms.value? name = some (.text s)) : ms.text? name = some s := by
  unfold Json.Members.text?
  rw [h]
  rfl

theorem optionalText?_eq {s : Option String} (h : ms.value? name = some (.optionalText s)) :
    ms.optionalText? name = some s := by
  unfold Json.Members.optionalText?
  rw [h]
  cases s <;> rfl

theorem int64?_eq {i : Int} (h : ms.value? name = some (.integer i))
    (hi : (Json.integer i).int64? = some i) : ms.int64? name = some i := by
  unfold Json.Members.int64?
  rw [h]
  exact hi

end

/-- The times of the claims fit words of sixty-four bits. -/
structure Bounded : Prop where
  issuedAt : (Json.integer c.issuedAt).int64? = some c.issuedAt
  notBefore : (Json.integer c.notBefore).int64? = some c.notBefore
  expiry : (Json.integer c.expiry).int64? = some c.expiry

variable {c}

/-- **The claims of a token read back.** -/
theorem ofJson?_toJson (h : c.Bounded) : ofJson? c.toJson = some c := by
  have hsubject : c.held.text? "sub" = some c.subject := text?_eq (c.value?_front rfl)
  have hname : c.held.text? "name" = some c.name := text?_eq (c.value?_front rfl)
  have hemail : c.held.text? "email" = some c.email := text?_eq (c.value?_front rfl)
  have huser : c.held.optionalText? "user_id" = some c.userId :=
    optionalText?_eq (c.value?_front rfl)
  have htoken : c.held.text? "jti" = some c.tokenId := text?_eq (c.value?_front rfl)
  have hroles : list? c.held "role" = some c.roles := list?_eq c.value?_role
  have hpermissions : list? c.held "permission" = some c.permissions := list?_eq c.value?_permission
  have hissuer : c.held.text? "iss" = some c.issuer :=
    text?_eq (c.value?_back rfl (by decide) (by decide))
  have haudience : c.held.text? "aud" = some c.audience :=
    text?_eq (c.value?_back rfl (by decide) (by decide))
  have hissued : c.held.int64? "iat" = some c.issuedAt :=
    int64?_eq (c.value?_back rfl (by decide) (by decide)) h.issuedAt
  have hbefore : c.held.int64? "nbf" = some c.notBefore :=
    int64?_eq (c.value?_back rfl (by decide) (by decide)) h.notBefore
  have hexpiry : c.held.int64? "exp" = some c.expiry :=
    int64?_eq (c.value?_back rfl (by decide) (by decide)) h.expiry
  unfold ofJson?
  rw [record?_toJson]
  simp only [Option.bind_eq_bind, Option.bind_some, hsubject, hname, hemail, huser, htoken, hroles,
    hpermissions, hissuer, haudience, hissued, hbefore, hexpiry, Option.pure_def]

theorem exact_listMember {name : String} {items : List String} {m : String × Json}
    (hm : m ∈ listMember name items) : m.2.Exact := by
  cases items with
  | nil => cases hm
  | cons i items =>
      rw [List.mem_singleton.mp hm]
      exact Json.exact_texts _

theorem exact_toJson (c : AccessClaims) : c.toJson.Exact := by
  have htext : ∀ s, (Json.text s).Exact := fun s => .string (some s)
  refine Json.exact_obj fun m hm => ?_
  rw [List.mem_append, List.mem_append, List.mem_append] at hm
  rcases hm with ((hm | hm) | hm) | hm
  · simp only [List.mem_cons, List.not_mem_nil, or_false] at hm
    rcases hm with rfl | rfl | rfl | rfl | rfl
    · exact htext _
    · exact htext _
    · exact htext _
    · exact Json.exact_optionalText _
    · exact htext _
  · exact exact_listMember hm
  · exact exact_listMember hm
  · simp only [List.mem_cons, List.not_mem_nil, or_false] at hm
    rcases hm with rfl | rfl | rfl | rfl | rfl
    · exact htext _
    · exact htext _
    · exact .integer _
    · exact .integer _
    · exact .integer _

end AccessClaims

end Gatehouse

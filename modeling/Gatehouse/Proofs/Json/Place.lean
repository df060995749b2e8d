import Gatehouse.Proofs.Json.Locality

/-! # The place of a member in a text

The value of a member stands somewhere in the text of an object.  What is in front of it and what is
behind it is read alike, whatever is put in its place (`exists_place`): the members in front by what
their readers have read, the members behind because nothing of them has changed.  So a string that
stands there may be put into brackets, and the text then says the same with a list of the string
(`exists_bracketed`). -/

namespace Gatehouse.Json

variable {α : Type} {cs rest : Input} {pre post : List (Option String × Json)}
  {name : Option String} {j : Json} {s : Option String}

/-! ### Replacing what a member holds -/

/-- More fuel does not change what is read. -/
theorem Takes.read_eq {r r' : Reader α} {a : α} (hr : Takes r r') (h : r cs = some (a, rest)) :
    r' cs = some (a, rest) := by
  obtain ⟨used, rfl, hread⟩ := hr h
  exact hread rest rfl

theorem continued_cases {close : Char} {a : α} {as : List α} {more : Reader (List α)}
    (hclose : close ≠ ',') (h : continued close a more cs = some (as, rest)) :
    (∃ tail bs, skipSpace cs = some ',' :: tail ∧ more tail = some (bs, rest) ∧ as = a :: bs) ∨
      skipSpace cs = some close :: rest ∧ as = [a] := by
  by_cases hcomma : ∃ tail, skipSpace cs = some ',' :: tail
  · obtain ⟨tail, htail⟩ := hcomma
    rw [continued_of_comma htail] at h
    obtain ⟨⟨bs, _⟩, hmore, heq⟩ := Option.map_eq_some_iff.mp h
    cases heq
    exact .inl ⟨tail, bs, htail, hmore, rfl⟩
  by_cases hend : ∃ tail, skipSpace cs = some close :: tail
  · obtain ⟨tail, htail⟩ := hend
    rw [continued_of_close hclose htail] at h
    cases h
    exact .inr ⟨htail, rfl⟩
  · rw [continued_of_other (fun tail htail => hcomma ⟨tail, htail⟩)
      fun tail htail => hend ⟨tail, htail⟩] at h
    cases h

/-- What is read behind an entry does not depend on the entry. -/
theorem continued_replace {close : Char} {a a' : α} {as : List α} {more : Reader (List α)}
    (hclose : close ≠ ',') (h : continued close a more cs = some (a' :: as, rest)) :
    a' = a ∧ ∀ b, continued close b more cs = some (b :: as, rest) := by
  rcases continued_cases hclose h with ⟨tail, bs, htail, hmore, heq⟩ | ⟨htail, heq⟩
  · cases heq
    refine ⟨rfl, fun b => ?_⟩
    rw [continued_of_comma htail, hmore]
    rfl
  · cases heq
    exact ⟨rfl, fun b => continued_of_close hclose htail⟩

/-- What one reads of the first member of a list, in order. -/
theorem members?_eq_some {fuel : Nat} {members : List (Option String × Json)}
    (h : members? fuel cs = some (members, rest)) :
    ∃ n text back name j, fuel = n + 1 ∧ nameNext cs = some (name, text) ∧
      value? n text = some (j, back) ∧
      continued '\x7d' (name, j) (members? n) back = some (members, rest) := by
  cases fuel with
  | zero =>
      rw [members?] at h
      cases h
  | succ n =>
      rw [members?_succ] at h
      obtain ⟨⟨name, text⟩, hname, h⟩ := Option.bind_eq_some_iff.mp h
      obtain ⟨⟨j, back⟩, hvalue, h⟩ := Option.bind_eq_some_iff.mp h
      exact ⟨n, text, back, name, j, rfl, hname, hvalue, h⟩

/-- **The place of a member.**  What stands there may be replaced by anything that reads as another
value: the other members stay as they are.  By induction on the members in front. -/
theorem exists_place {fuel : Nat}
    (h : members? fuel cs = some (pre ++ (name, j) :: post, rest)) :
    ∃ front old back, cs = front ++ (old ++ back) ∧
      (∃ n, value? n (old ++ back) = some (j, back)) ∧
      ∀ extra new j', (∀ n, extra < n → value? n (new ++ back) = some (j', back)) →
        members? (fuel + extra) (front ++ (new ++ back)) =
          some (pre ++ (name, j') :: post, rest) := by
  induction pre generalizing cs fuel with
  | nil =>
      obtain ⟨n, text, back, name₁, j₁, rfl, hname, hvalue, hrest⟩ := members?_eq_some h
      obtain ⟨heq, hreplace⟩ := continued_replace (by decide) hrest
      cases heq
      obtain ⟨front, rfl, hfront⟩ := nameNext_append hname
      obtain ⟨old, rfl, -⟩ := takes_value? le_rfl hvalue
      refine ⟨front, old, back, rfl, ⟨n, hvalue⟩, fun extra new j' hnew => ?_⟩
      have hn : n ≠ 0 := by
        rintro rfl
        rw [value?] at hvalue
        cases hvalue
      rw [show n + 1 + extra = n + extra + 1 by omega, members?_succ,
        andThen_of_eq (hfront _), andThen_of_eq (hnew _ (by omega))]
      exact (Takes.continued _ _ (takesAll_of_le (by omega)).members).read_eq (hreplace _)
  | cons m pre ih =>
      obtain ⟨n, text, back₁, name₁, j₁, rfl, hname, hvalue, hrest⟩ := members?_eq_some h
      rcases continued_cases (by decide) hrest with ⟨tail, ms, htail, hmore, heq⟩ | ⟨_, heq⟩
      · cases heq
        obtain ⟨front, old, back, rfl, hold, hplace⟩ := ih hmore
        obtain ⟨first, rfl, hfirst⟩ := nameNext_append hname
        obtain ⟨used, rfl, -⟩ := takes_value? le_rfl hvalue
        obtain ⟨blanks, hback, hskip⟩ := skipSpace_append_skipSpace back₁
        rw [htail] at hback
        refine ⟨first ++ (used ++ (blanks ++ some ',' :: front)), old, back, ?_, hold, ?_⟩
        · rw [hback]
          simp
        · intro extra new j' hnew
          have hcomma := (hskip (some ',' :: (front ++ (new ++ back)))).trans
            (skipSpace_cons rfl _)
          have hhead : (blanks ++ some ',' :: (front ++ (new ++ back))).head? = back₁.head? := by
            rw [hback, List.head?_append, List.head?_append]
            rfl
          obtain ⟨used', hsame, hused⟩ := takes_value? (Nat.le_add_right n extra) hvalue
          cases List.append_cancel_right hsame
          simp only [List.append_assoc, List.cons_append]
          rw [show n + 1 + extra = n + extra + 1 by omega, members?_succ,
            andThen_of_eq (hfirst _), andThen_of_eq (hused _ hhead), continued_of_comma hcomma,
            hplace extra new j' hnew]
          rfl
      · cases pre <;> cases heq

/-! ### What a value begins with -/

theorem numberOf_cases (negative : Bool) (whole frac exp : List Char) :
    (∃ i, numberOf negative whole frac exp = .integer i) ∨
      ∃ literal, numberOf negative whole frac exp = .decimal literal := by
  unfold numberOf
  dsimp only
  by_cases hwhole : (frac.isEmpty && exp.isEmpty && !(negative && ofDigits whole == 0)) = true
  · rw [if_pos hwhole]
    exact .inl ⟨_, rfl⟩
  · rw [if_neg hwhole]
    exact .inr ⟨_, rfl⟩

theorem number?_cases {negative : Bool} (h : number? negative cs = some (j, rest)) :
    (∃ i, j = .integer i) ∨ ∃ literal, j = .decimal literal := by
  rw [number?_eq] at h
  obtain ⟨⟨whole, rest₁⟩, -, h⟩ := Option.bind_eq_some_iff.mp h
  dsimp only at h
  split_ifs at h
  · cases h
  · obtain ⟨⟨frac, rest₂⟩, -, h⟩ := Option.bind_eq_some_iff.mp h
    obtain ⟨⟨exp, rest₃⟩, -, h⟩ := Option.bind_eq_some_iff.mp h
    cases h
    exact numberOf_cases ..
  · cases h

/-- What is read as a string begins with a quote. -/
theorem value?_eq_string {fuel : Nat} (h : value? fuel cs = some (.string s, rest)) :
    ∃ tail, skipSpace cs = some '"' :: tail ∧ string? tail = some (s, rest) := by
  rw [value?.eq_def] at h
  cases fuel with
  | zero => cases h
  | succ fuel =>
      dsimp only at h
      split at h
      case h_1 | h_2 | h_3 => cases h
      case h_4 tail htail =>
        obtain ⟨⟨_, _⟩, hstring, heq⟩ := Option.map_eq_some_iff.mp h
        cases heq
        exact ⟨tail, htail, hstring⟩
      case h_5 | h_8 => rcases number?_cases h with ⟨_, hj⟩ | ⟨_, hj⟩ <;> cases hj
      case h_6 | h_7 =>
        split at h
        · cases h
        · obtain ⟨_, _, heq⟩ := Option.map_eq_some_iff.mp h
          cases heq

/-- What is read as an object with members begins with a brace. -/
theorem value?_eq_object {fuel : Nat} {m : Option String × Json}
    {ms : List (Option String × Json)} (h : value? fuel cs = some (.object (m :: ms), rest)) :
    ∃ n tail, fuel = n + 1 ∧ skipSpace cs = some '\x7b' :: tail ∧
      members? n tail = some (m :: ms, rest) := by
  rw [value?.eq_def] at h
  cases fuel with
  | zero => cases h
  | succ fuel =>
      dsimp only at h
      split at h
      case h_1 | h_2 | h_3 => cases h
      case h_5 | h_8 => rcases number?_cases h with ⟨_, hj⟩ | ⟨_, hj⟩ <;> cases hj
      case h_7 tail htail =>
        split at h
        · cases h
        · obtain ⟨⟨_, _⟩, hmembers, heq⟩ := Option.map_eq_some_iff.mp h
          cases heq
          exact ⟨fuel, tail, rfl, htail, hmembers⟩
      case h_4 =>
        obtain ⟨_, _, heq⟩ := Option.map_eq_some_iff.mp h
        cases heq
      case h_6 =>
        split at h
        · cases h
        · obtain ⟨_, _, heq⟩ := Option.map_eq_some_iff.mp h
          cases heq

theorem valueAt_quote (fuel : Nat) : valueAt fuel (some (some '"')) =
    expect '"' (andThen string? fun s => yield (.string s)) := rfl

theorem valueAt_bracket (fuel : Nat) : valueAt fuel (some (some '[')) = expect '['
    (unlessClosed ']' (.array []) (andThen (items? fuel) fun items => yield (.array items))) := rfl

theorem valueAt_brace (fuel : Nat) : valueAt fuel (some (some '\x7b')) = expect '\x7b'
    (unlessClosed '\x7d' (.object [])
      (andThen (members? fuel) fun members => yield (.object members))) := rfl

theorem value?_of_quote {fuel : Nat} {tail : Input} (hcs : skipSpace cs = some '"' :: tail)
    (h : string? tail = some (s, rest)) : value? (fuel + 1) cs = some (.string s, rest) := by
  rw [value?_succ, afterBlanks, hcs, peek, List.head?_cons, valueAt_quote, expect_cons,
    andThen_of_eq h]
  rfl

theorem value?_of_bracket {fuel : Nat} {items : List Json} {tail : Input}
    (hcs : skipSpace cs = some '[' :: tail)
    (hopen : ∀ more, skipSpace tail = some ']' :: more → False)
    (h : items? fuel tail = some (items, rest)) :
    value? (fuel + 1) cs = some (.array items, rest) := by
  rw [value?_succ, afterBlanks, hcs, peek, List.head?_cons, valueAt_bracket, expect_cons,
    unlessClosed_of_open hopen (by rw [andThen_yield, andThen_yield, items?_skipSpace]),
    andThen_of_eq h]
  rfl

theorem value?_of_brace {fuel : Nat} {members : List (Option String × Json)} {tail : Input}
    (hcs : skipSpace cs = some '\x7b' :: tail) (h : members? fuel tail = some (members, rest)) :
    value? (fuel + 1) cs = some (.object members, rest) := by
  have hopen (more : Input) (hmore : skipSpace tail = some '\x7d' :: more) : False := by
    obtain ⟨_, _, _, _, _, _, hname, -⟩ := members?_eq_some h
    obtain ⟨_, hquote, -⟩ := expect_eq_some hname
    rw [hmore] at hquote
    cases hquote
  rw [value?_succ, afterBlanks, hcs, peek, List.head?_cons, valueAt_brace, expect_cons,
    unlessClosed_of_open hopen (by rw [andThen_yield, andThen_yield, members?_skipSpace]),
    andThen_of_eq h]
  rfl

/-- A list of one string. -/
theorem value?_singleton (fuel : Nat) {literal : Input}
    (h : ∀ rest', string? (literal ++ rest') = some (s, rest')) (rest : Input) :
    value? (fuel + 3) (some '[' :: some '"' :: (literal ++ some ']' :: rest)) =
      some (.array [.string s], rest) := by
  refine value?_of_bracket rfl (fun more hmore => ?_) ?_
  · cases hmore
  · rw [items?_succ, andThen_of_eq (value?_of_quote rfl (h _))]
    exact continued_of_close (by decide) rfl

/-! ### Whole texts -/

theorem ofInput?_eq_some_iff : ofInput? cs = some j ↔
    ∃ rest, value? (2 * cs.length + 2) cs = some (j, rest) ∧ skipSpace rest = [] := by
  unfold ofInput? leading?
  constructor
  · intro h
    obtain ⟨⟨j', rest⟩, hread, h⟩ := Option.bind_eq_some_iff.mp h
    obtain ⟨_, hend, h⟩ := Option.bind_eq_some_iff.mp h
    rw [Option.guard_eq_some', List.isEmpty_iff] at hend
    cases h
    exact ⟨rest, hread, hend⟩
  · rintro ⟨rest, hread, hend⟩
    rw [hread]
    simp [hend, guard_of]

/-- The place of a string that a member holds: a list of the string may stand there too. -/
theorem exists_literal {fuel : Nat}
    (h : members? fuel cs = some (pre ++ (name, .string s) :: post, rest)) :
    ∃ front literal back, cs = front ++ some '"' :: (literal ++ back) ∧
      (∀ rest', string? (literal ++ rest') = some (s, rest')) ∧
      ∀ extra, 2 ≤ extra →
        members? (fuel + extra) (front ++ some '[' :: some '"' :: (literal ++ some ']' :: back)) =
          some (pre ++ (name, .array [.string s]) :: post, rest) := by
  obtain ⟨front, old, back, rfl, ⟨_, hold⟩, hplace⟩ := exists_place h
  obtain ⟨_, hquote, hstring⟩ := value?_eq_string hold
  obtain ⟨literal, rfl, hliteral⟩ := string?_append hstring
  obtain ⟨blanks, hold, hskip⟩ := skipSpace_append_skipSpace (old ++ back)
  rw [hquote] at hold
  refine ⟨front ++ blanks, literal, back, ?_, hliteral, fun extra hextra => ?_⟩
  · rw [hold, List.append_assoc]
  · have hlist (n : Nat) (hn : extra < n) :
        value? n (blanks ++ some '[' :: some '"' :: (literal ++ [some ']']) ++ back) =
          some (.array [.string s], back) := by
      obtain ⟨k, rfl⟩ : ∃ k, n = k + 3 := ⟨n - 3, by omega⟩
      rw [← value?_skipSpace]
      simp only [List.append_assoc, List.cons_append, List.nil_append]
      rw [hskip, value?_skipSpace]
      exact value?_singleton k hliteral back
    have hread := hplace extra _ _ hlist
    simp only [List.append_assoc, List.cons_append, List.nil_append] at hread ⊢
    exact hread

/-- **A string that a member holds may be put into brackets.** -/
theorem exists_bracketed (h : ofInput? cs = some (.object (pre ++ (name, .string s) :: post))) :
    ∃ front literal back, cs = front ++ (literal ++ back) ∧
      ofInput? literal = some (.string s) ∧
      ofInput? (front ++ some '[' :: (literal ++ some ']' :: back)) =
        some (.object (pre ++ (name, .array [.string s]) :: post)) := by
  obtain ⟨rest, hread, hend⟩ := ofInput?_eq_some_iff.mp h
  have hmembers : ∃ n tail, 2 * cs.length + 2 = n + 1 ∧ skipSpace cs = some '\x7b' :: tail ∧
      members? n tail = some (pre ++ (name, .string s) :: post, rest) := by
    cases pre with
    | nil => exact value?_eq_object hread
    | cons m pre => exact value?_eq_object hread
  obtain ⟨n, tail, hn, htail, hmembers⟩ := hmembers
  obtain ⟨front, literal, back, rfl, hliteral, hbracketed⟩ := exists_literal hmembers
  obtain ⟨blanks, hcs, hskip⟩ := skipSpace_append_skipSpace cs
  rw [htail] at hcs
  refine ⟨blanks ++ some '\x7b' :: front, some '"' :: literal, back, ?_, ?_, ?_⟩
  · rw [hcs]
    simp only [List.append_assoc, List.cons_append]
  · have hread := hliteral []
    rw [List.append_nil] at hread
    exact ofInput?_eq_some_iff.mpr ⟨[], value?_of_quote rfl hread, rfl⟩
  -- The brackets make the text longer by two characters, and so the fuel by four.
  · have hlength : 2 * (blanks ++ some '\x7b' :: (front ++ some '[' :: some '"' ::
        (literal ++ some ']' :: back))).length + 2 = n + 4 + 1 := by
      have hcs := congrArg List.length hcs
      simp only [List.length_append, List.length_cons] at hcs ⊢
      omega
    refine ofInput?_eq_some_iff.mpr ⟨rest, ?_, hend⟩
    simp only [List.append_assoc, List.cons_append]
    rw [hlength]
    exact value?_of_brace ((hskip _).trans (skipSpace_cons rfl _)) (hbracketed 4 (by omega))

/-- What a text is made of is made of texts. -/
theorem Input.exists_texts {text : String} {front old back : Input}
    (h : Input.ofText text = front ++ (old ++ back)) : ∃ front' old' back' : String,
      text = front' ++ old' ++ back' ∧ Input.ofText front' = front ∧ Input.ofText old' = old ∧
        Input.ofText back' = back := by
  obtain ⟨cs, ds, htext, rfl, hmore⟩ := List.map_eq_append_iff.mp h
  obtain ⟨es, fs, rfl, rfl, rfl⟩ := List.map_eq_append_iff.mp hmore
  refine ⟨String.ofList cs, String.ofList es, String.ofList fs, ?_, ?_, ?_, ?_⟩
  · rw [← String.toList_inj, htext]
    simp
  all_goals rw [Input.ofText, String.toList_ofList]

/-- **A string that a member holds may be put into brackets**, and the text then says the same with a
list of the string. -/
theorem exists_bracketed_text {text : String}
    (h : ofText? text = some (.object (pre ++ (name, .string s) :: post))) :
    ∃ front literal back : String, text = front ++ literal ++ back ∧
      ofText? literal = some (.string s) ∧
      ofText? (front ++ "[" ++ literal ++ "]" ++ back) =
        some (.object (pre ++ (name, .array [.string s]) :: post)) := by
  obtain ⟨_, _, _, htext, hliteral, hbracketed⟩ := exists_bracketed h
  obtain ⟨front, literal, back, hsplit, rfl, rfl, rfl⟩ := Input.exists_texts htext
  refine ⟨front, literal, back, hsplit, hliteral, ?_⟩
  unfold ofText?
  rw [← hbracketed]
  simp [Input.ofText]

end Gatehouse.Json

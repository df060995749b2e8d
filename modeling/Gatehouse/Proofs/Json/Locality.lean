import Gatehouse.Json.Reader
import Gatehouse.Proofs.Json.Literal
import Mathlib.Data.List.DropRight
import Mathlib.Data.List.TakeWhile

/-! # What a reader has read

A reader of JSON takes a piece off the head of its input and looks at most one character further.  So
what it makes of the piece does not change when the rest of the input is changed behind its first
character, nor when there is more fuel (`Takes`).  The readers are put together from a few: one behind
the other (`andThen`), one behind a character (`expect`) or behind blanks (`afterBlanks`), and one
that the next character chooses (`peek`).  Each of these keeps the property, so a reader has it as soon
as it is written with them (`number?_eq`, `value?_succ`, `items?_succ`, `members?_succ`), and the
readers of values have it together, by induction on the fuel (`takesAll_of_le`). -/

namespace Gatehouse.Json

variable {α β : Type}

/-- A reader takes something off the head of its input. -/
abbrev Reader (α : Type) := Input → Option (α × Input)

/-- What the first reader reads, the second reads too, and all that matters of what follows is how it
begins. -/
def Takes (r r' : Reader α) : Prop := ∀ ⦃cs a rest⦄, r cs = some (a, rest) →
  ∃ used, cs = used ++ rest ∧ ∀ rest', rest'.head? = rest.head? → r' (used ++ rest') = some (a, rest')

/-! ### Readers put together -/

/-- Nothing is read. -/
def yield (a : α) : Reader α := fun cs => some (a, cs)

/-- Nothing can be read. -/
def refuse : Reader α := fun _ => none

/-- One reader, then the one that its value chooses. -/
def andThen (r : Reader α) (f : α → Reader β) : Reader β := fun cs =>
  (r cs).bind fun (a, rest) => f a rest

/-- The given character, then the reader. -/
def expect (c : Char) (r : Reader α) : Reader α
  | some d :: rest => if d = c then r rest else none
  | _ => none

/-- The reader that the next character chooses, which is left where it is. -/
def peek (pick : Option (Option Char) → Reader α) : Reader α := fun cs => pick cs.head? cs

/-- The reader, behind blanks. -/
def afterBlanks (r : Reader α) : Reader α := fun cs => r (skipSpace cs)

/-- The value, if the given character is next behind blanks, and else the reader. -/
def unlessClosed (close : Char) (a : α) (r : Reader α) : Reader α := afterBlanks <| peek fun c =>
  if c = some (some close) then expect close (yield a) else r

section

variable {r r' : Reader α} {f f' : α → Reader β} {c : Char} {a : α} {cs rest rest' : Input}

@[simp] theorem expect_cons (c : Char) (r : Reader α) (cs : Input) :
    expect c r (some c :: cs) = r cs := if_pos rfl

theorem expect_of_head?_ne (h : cs.head? ≠ some (some c)) : expect c r cs = none := by
  unfold expect
  split
  · rw [if_neg]
    rintro rfl
    exact h rfl
  · rfl

theorem andThen_of_eq {a : α} (h : r cs = some (a, rest)) : andThen r f cs = f a rest := by
  rw [andThen, h, Option.bind_some]

theorem head?_ne (h : ∀ rest, cs = some c :: rest → False) : cs.head? ≠ some (some c) := by
  intro hhead
  obtain ⟨rest, rfl⟩ := List.head?_eq_some_iff.mp hhead
  exact h rest rfl

theorem unlessClosed_of_closed (h : skipSpace cs = some c :: rest) :
    unlessClosed c a r cs = some (a, rest) := by
  rw [unlessClosed, afterBlanks, h, peek, List.head?_cons, if_pos rfl, expect_cons]
  rfl

theorem unlessClosed_of_open (h : ∀ rest, skipSpace cs = some c :: rest → False)
    (hr : r (skipSpace cs) = r cs) : unlessClosed c a r cs = r cs := by
  rw [unlessClosed, afterBlanks, peek, if_neg (head?_ne h), hr]

theorem head?_append_congr (h : rest'.head? = rest.head?) (used : Input) :
    (used ++ rest').head? = (used ++ rest).head? := by
  rw [List.head?_append, List.head?_append, h]

/-- Blanks in front are passed over, whatever follows them. -/
theorem skipSpace_append_skipSpace (cs : Input) : ∃ blanks : Input, cs = blanks ++ skipSpace cs ∧
    ∀ more, skipSpace (blanks ++ more) = skipSpace more :=
  ⟨cs.takeWhile isSpace, List.takeWhile_append_dropWhile.symm,
    fun _ => List.dropWhile_append_of_pos fun _ hc => List.mem_takeWhile_imp hc⟩

/-- Where one scan has stopped, another begins and ends. -/
theorem stops_of_head?_eq {p : Option Char → Bool} (h : rest.head? = (cs.dropWhile p).head?) :
    rest.takeWhile p = [] ∧ rest.dropWhile p = rest := by
  have hfirst := List.head?_dropWhile_not p cs
  rw [← h] at hfirst
  cases rest with
  | nil => exact ⟨rfl, rfl⟩
  | cons c rest =>
      have hc : p c = false := by simpa using hfirst
      rw [List.takeWhile_cons, List.dropWhile_cons, hc]
      exact ⟨rfl, rfl⟩

namespace Takes

theorem yield (a : α) : Takes (yield a) (yield a) := by
  intro cs b rest h
  cases h
  exact ⟨[], rfl, fun _ _ => rfl⟩

theorem refuse : Takes refuse r := by
  intro cs a rest h
  cases h

theorem andThen (hr : Takes r r') (hf : ∀ a, Takes (f a) (f' a)) :
    Takes (andThen r f) (andThen r' f') := by
  intro cs b rest h
  obtain ⟨⟨a, rest₁⟩, hfirst, hsecond⟩ := Option.bind_eq_some_iff.mp h
  obtain ⟨used₁, rfl, hr⟩ := hr hfirst
  obtain ⟨used₂, rfl, hf⟩ := hf a hsecond
  refine ⟨used₁ ++ used₂, (List.append_assoc ..).symm, fun rest' hrest => ?_⟩
  unfold Json.andThen
  rw [List.append_assoc, hr _ (head?_append_congr hrest used₂)]
  exact hf rest' hrest

theorem expect (c : Char) (hr : Takes r r') : Takes (expect c r) (expect c r') := by
  intro cs a rest hread
  unfold Json.expect at hread
  split at hread
  · rename_i d tail
    split_ifs at hread with hd
    obtain ⟨used, rfl, hr⟩ := hr hread
    exact ⟨some d :: used, rfl, fun rest' hrest => (if_pos hd).trans (hr rest' hrest)⟩
  · cases hread

theorem peek {pick pick' : Option (Option Char) → Reader α}
    (h : ∀ c, Takes (pick c) (pick' c)) : Takes (peek pick) (peek pick') := by
  intro cs a rest hread
  obtain ⟨used, rfl, hpick⟩ := h _ hread
  refine ⟨used, rfl, fun rest' hrest => ?_⟩
  unfold Json.peek
  rw [head?_append_congr hrest]
  exact hpick rest' hrest

theorem afterBlanks (hr : Takes r r') : Takes (afterBlanks r) (afterBlanks r') := by
  intro cs a rest hread
  obtain ⟨blanks, hcs, hskip⟩ := skipSpace_append_skipSpace cs
  obtain ⟨used, hused, hr⟩ := hr hread
  refine ⟨blanks ++ used, ?_, fun rest' hrest => ?_⟩
  · rw [List.append_assoc, ← hused]
    exact hcs
  · have hfirst : (used ++ rest').head? = (skipSpace cs).head? := by
      rw [hused]
      exact head?_append_congr hrest used
    have hstops : skipSpace (used ++ rest') = used ++ rest' := (stops_of_head?_eq hfirst).2
    unfold Json.afterBlanks
    rw [List.append_assoc, hskip, hstops]
    exact hr rest' hrest

theorem ite {p : Prop} [Decidable p] {r₁ r₂ r₁' r₂' : Reader α} (h₁ : Takes r₁ r₁')
    (h₂ : Takes r₂ r₂') : Takes (if p then r₁ else r₂) (if p then r₁' else r₂') := by
  by_cases h : p
  · rw [if_pos h, if_pos h]
    exact h₁
  · rw [if_neg h, if_neg h]
    exact h₂

theorem unlessClosed (close : Char) (a : α) (hr : Takes r r') :
    Takes (unlessClosed close a r) (unlessClosed close a r') :=
  .afterBlanks <| .peek fun _ => .ite (.expect close (.yield a)) hr

end Takes

end

/-! ### Words -/

/-- The given characters. -/
def word (a : α) : List Char → Reader α
  | [] => yield a
  | c :: w => expect c (word a w)

theorem takes_word (a : α) (w : List Char) : Takes (word a w) (word a w) := by
  induction w with
  | nil => exact .yield a
  | cons c w ih => exact .expect c ih

@[simp] theorem word_append (a : α) (w : List Char) (cs : Input) :
    word a w (input w ++ cs) = some (a, cs) := by
  induction w with
  | nil => rfl
  | cons c w ih => rw [input_cons, List.cons_append, word, expect_cons, ih]

theorem word_eq_none (a : α) {w : List Char} {cs : Input} (h : ∀ rest, cs ≠ input w ++ rest) :
    word a w cs = none := by
  induction w generalizing cs with
  | nil => exact absurd rfl (h cs)
  | cons c w ih =>
      by_cases hhead : cs.head? = some (some c)
      · obtain ⟨rest, rfl⟩ := List.head?_eq_some_iff.mp hhead
        rw [word, expect_cons]
        refine ih fun tail hrest => h tail ?_
        rw [hrest, input_cons, List.cons_append]
      · rw [word, expect_of_head?_ne hhead]

/-! ### Numbers -/

/-- The digits that come next, perhaps none. -/
def digitsNext : Reader (List Char) := fun cs => some (digits cs)

/-- Digits, at least one. -/
def someDigits (f : List Char → α) : Reader α :=
  andThen digitsNext fun ds => if ds = [] then refuse else yield (f ds)

/-- A sign, perhaps none. -/
def signNext : Reader (List Char) := peek fun c =>
  if c = some (some '+') then expect '+' (yield ['+'])
  else if c = some (some '-') then expect '-' (yield ['-'])
  else yield []

/-- The number that its parts write. -/
def numberOf (negative : Bool) (whole frac exp : List Char) : Json :=
  let n := ofDigits whole
  if frac.isEmpty && exp.isEmpty && !(negative && n == 0) then
    .integer (if negative then -(n : Int) else n)
  else
    .decimal (String.ofList ((if negative then ['-'] else []) ++ whole ++ frac ++ exp))

theorem takes_digitsNext : Takes digitsNext digitsNext := by
  intro cs ds rest h
  cases h
  refine ⟨cs.takeWhile isDigit, List.takeWhile_append_dropWhile.symm, fun rest' hrest => ?_⟩
  obtain ⟨hnone, hrest'⟩ := stops_of_head?_eq hrest
  have hall : ∀ c ∈ cs.takeWhile isDigit, isDigit c = true := fun c hc => List.mem_takeWhile_imp hc
  unfold digitsNext digits
  rw [List.takeWhile_append_of_pos hall, List.dropWhile_append_of_pos hall, hnone, hrest',
    List.append_nil]

theorem takes_someDigits (f : List Char → α) : Takes (someDigits f) (someDigits f) :=
  takes_digitsNext.andThen fun _ => .ite .refuse (.yield _)

theorem takes_signNext : Takes signNext signNext :=
  .peek fun _ => .ite (.expect _ (.yield _)) (.ite (.expect _ (.yield _)) (.yield _))

theorem someDigits_eq (f : List Char → α) (cs : Input) :
    someDigits f cs = match digits cs with
      | ([], _) => none
      | (ds, rest) => some (f ds, rest) := by
  unfold someDigits andThen digitsNext
  rw [Option.bind_some]
  rcases digits cs with ⟨_ | ⟨d, ds⟩, rest⟩ <;> rfl

theorem fraction?_eq : fraction? = peek fun c =>
    if c = some (some '.') then expect '.' (someDigits ('.' :: ·)) else yield [] := by
  funext cs
  rw [fraction?.eq_def]
  split
  · exact (someDigits_eq _ _).symm
  · rename_i hpoint
    rw [peek, if_neg (head?_ne hpoint)]
    rfl

theorem takes_fraction? : Takes fraction? fraction? := by
  rw [fraction?_eq]
  exact .peek fun _ => .ite (.expect _ (takes_someDigits _)) (.yield _)

/-- An exponent behind its letter. -/
def power (e : Char) : Reader (List Char) :=
  andThen signNext fun sign => someDigits fun ds => e :: (sign ++ ds)

theorem takes_power (e : Char) : Takes (power e) (power e) :=
  takes_signNext.andThen fun _ => takes_someDigits _

theorem signNext_eq (cs : Input) : signNext cs = some (match cs with
    | some '+' :: rest => (['+'], rest)
    | some '-' :: rest => (['-'], rest)
    | _ => ([], cs)) := by
  rw [signNext, peek]
  by_cases hplus : cs.head? = some (some '+')
  · obtain ⟨rest, rfl⟩ := List.head?_eq_some_iff.mp hplus
    rfl
  by_cases hminus : cs.head? = some (some '-')
  · obtain ⟨rest, rfl⟩ := List.head?_eq_some_iff.mp hminus
    rfl
  rw [if_neg hplus, if_neg hminus]
  split
  · exact absurd rfl hplus
  · exact absurd rfl hminus
  · rfl

theorem power_eq (e : Char) (cs : Input) : power e cs =
    let (sign, rest) : List Char × Input :=
      match cs with
      | some '+' :: rest => (['+'], rest)
      | some '-' :: rest => (['-'], rest)
      | _ => ([], cs)
    match digits rest with
    | ([], _) => none
    | (ds, rest) => some (e :: (sign ++ ds), rest) := by
  unfold power andThen
  rw [signNext_eq, Option.bind_some]
  exact someDigits_eq _ _

theorem exponent?_eq : exponent? = peek fun c =>
    if c = some (some 'e') then expect 'e' (power 'e')
    else if c = some (some 'E') then expect 'E' (power 'E')
    else yield [] := by
  funext cs
  rw [exponent?.eq_def]
  split
  · rename_i e rest
    rw [peek, List.head?_cons]
    by_cases he : e = 'e'
    · rw [he, if_pos rfl, expect_cons]
      exact (power_eq 'e' rest).symm
    by_cases hE : e = 'E'
    · rw [hE, if_pos (by decide), if_neg (by decide), if_pos rfl, expect_cons]
      exact (power_eq 'E' rest).symm
    · rw [if_neg (by simpa using ⟨he, hE⟩), if_neg (by simpa using he), if_neg (by simpa using hE)]
      rfl
  · rename_i hletter
    rw [peek, if_neg (head?_ne (hletter 'e')), if_neg (head?_ne (hletter 'E'))]
    rfl

theorem takes_exponent? : Takes exponent? exponent? := by
  rw [exponent?_eq]
  exact .peek fun _ =>
    .ite (.expect _ (takes_power _)) (.ite (.expect _ (takes_power _)) (.yield _))

theorem number?_eq (negative : Bool) : number? negative = andThen digitsNext fun whole =>
    if whole.isEmpty then refuse
    else if whole.length = 1 || whole.head? != some '0' then
      andThen fraction? fun frac => andThen exponent? fun exp =>
        yield (numberOf negative whole frac exp)
    else refuse := by
  funext cs
  unfold number? andThen digitsNext
  rw [Option.bind_some]
  rcases digits cs with ⟨whole, rest⟩
  dsimp only
  by_cases hempty : whole.isEmpty = true
  · rw [if_pos hempty, hempty]
    rfl
  by_cases hzero : (whole.length = 1 || whole.head? != some '0') = true
  · rw [if_neg hempty, if_pos hzero, guard_of (by simpa using hempty), guard_of hzero]
    rcases fraction? rest with _ | ⟨frac, rest⟩
    · rfl
    simp only [Option.bind_eq_bind, Option.bind_some]
    rcases exponent? rest with _ | ⟨exp, rest⟩
    · rfl
    simp only [Option.bind_some, yield, numberOf]
    split_ifs <;> rfl
  · rw [if_neg hempty, if_neg hzero, guard_of (by simpa using hempty), guard, if_neg hzero]
    rfl

theorem takes_number? (negative : Bool) : Takes (number? negative) (number? negative) := by
  rw [number?_eq]
  exact takes_digitsNext.andThen fun _ => .ite .refuse <| .ite
    (takes_fraction?.andThen fun _ => takes_exponent?.andThen fun _ => .yield _) .refuse

/-- No number begins without a digit. -/
theorem number?_eq_none {negative : Bool} {cs : Input} (h : ∀ c ∈ cs.head?, isDigit c = false) :
    number? negative cs = none := by
  have hdigits : (digits cs).1 = [] := by
    cases cs with
    | nil => rfl
    | cons c cs =>
        unfold digits
        rw [List.takeWhile_cons, h c rfl]
        rfl
  unfold number?
  rcases hcs : digits cs with ⟨whole, rest⟩
  rw [hcs] at hdigits
  cases hdigits
  rfl

/-! ### Values -/

/-- The reader of a value that begins with the given character. -/
def valueAt (fuel : Nat) (c : Option (Option Char)) : Reader Json :=
  if c = some (some 'n') then word .null ['n', 'u', 'l', 'l']
  else if c = some (some 't') then word (.bool true) ['t', 'r', 'u', 'e']
  else if c = some (some 'f') then word (.bool false) ['f', 'a', 'l', 's', 'e']
  else if c = some (some '"') then expect '"' (andThen string? fun s => yield (.string s))
  else if c = some (some '-') then expect '-' (number? true)
  else if c = some (some '[') then expect '[' <|
    unlessClosed ']' (.array []) (andThen (items? fuel) fun items => yield (.array items))
  else if c = some (some '\x7b') then expect '\x7b' <|
    unlessClosed '\x7d' (.object []) (andThen (members? fuel) fun members => yield (.object members))
  else number? false

theorem skipSpace_skipSpace (cs : Input) : skipSpace (skipSpace cs) = skipSpace cs :=
  List.dropWhile_idempotent isSpace cs

theorem value?_skipSpace (fuel : Nat) (cs : Input) : value? fuel (skipSpace cs) = value? fuel cs := by
  cases fuel with
  | zero => rw [value?, value?]
  | succ fuel => rw [value?, value?, skipSpace_skipSpace]

theorem items?_skipSpace (fuel : Nat) (cs : Input) : items? fuel (skipSpace cs) = items? fuel cs := by
  cases fuel with
  | zero => rw [items?, items?]
  | succ fuel => rw [items?, items?, value?_skipSpace]

theorem members?_skipSpace (fuel : Nat) (cs : Input) :
    members? fuel (skipSpace cs) = members? fuel cs := by
  cases fuel with
  | zero => rw [members?, members?]
  | succ fuel => rw [members?, members?, skipSpace_skipSpace]

theorem andThen_yield (r : Reader α) (f : α → β) (cs : Input) :
    andThen r (fun a => yield (f a)) cs = (r cs).map fun (a, rest) => (f a, rest) := by
  unfold andThen
  cases r cs <;> rfl

/-- Whatever else a value may begin with, only a number is left: a letter that begins no word of the
format begins no number either. -/
theorem valueAt_of_other {fuel : Nat} {cs : Input}
    (hnull : ∀ rest, cs = some 'n' :: some 'u' :: some 'l' :: some 'l' :: rest → False)
    (htrue : ∀ rest, cs = some 't' :: some 'r' :: some 'u' :: some 'e' :: rest → False)
    (hfalse : ∀ rest, cs = some 'f' :: some 'a' :: some 'l' :: some 's' :: some 'e' :: rest → False)
    (hopen : ∀ c ∈ ['"', '-', '[', '\x7b'], cs.head? ≠ some (some c)) :
    valueAt fuel cs.head? cs = number? false cs := by
  have hnumber {c : Char} (hc : c.isDigit = false) (h : cs.head? = some (some c)) :
      number? false cs = none := by
    refine number?_eq_none fun d hd => ?_
    cases hd.symm.trans h
    exact hc
  unfold valueAt
  split_ifs with hn ht hf hquote hminus hitems hmembers
  · rw [hnumber rfl hn, word_eq_none _ hnull]
  · rw [hnumber rfl ht, word_eq_none _ htrue]
  · rw [hnumber rfl hf, word_eq_none _ hfalse]
  · exact absurd hquote (hopen _ (by decide))
  · exact absurd hminus (hopen _ (by decide))
  · exact absurd hitems (hopen _ (by decide))
  · exact absurd hmembers (hopen _ (by decide))
  · rfl

theorem value?_succ (fuel : Nat) : value? (fuel + 1) = afterBlanks (peek (valueAt fuel)) := by
  funext cs
  unfold afterBlanks peek
  rw [value?]
  generalize skipSpace cs = cs
  split
  · exact (word_append Json.null ['n', 'u', 'l', 'l'] _).symm
  · exact (word_append (Json.bool true) ['t', 'r', 'u', 'e'] _).symm
  · exact (word_append (Json.bool false) ['f', 'a', 'l', 's', 'e'] _).symm
  · exact (andThen_yield string? Json.string _).symm
  · rfl
  · rename_i rest
    change _ = unlessClosed ']' _ _ rest
    split
    · rename_i hclosed
      rw [unlessClosed_of_closed hclosed]
    · rename_i hopen
      rw [unlessClosed_of_open hopen, andThen_yield]
      rw [andThen_yield, andThen_yield, items?_skipSpace]
  · rename_i rest
    change _ = unlessClosed '\x7d' _ _ rest
    split
    · rename_i hclosed
      rw [unlessClosed_of_closed hclosed]
    · rename_i hopen
      rw [unlessClosed_of_open hopen, andThen_yield]
      rw [andThen_yield, andThen_yield, members?_skipSpace]
  · rename_i hnull htrue hfalse hquote hminus hitems hmembers
    refine (valueAt_of_other hnull htrue hfalse fun c hc => ?_).symm
    simp only [List.mem_cons, List.not_mem_nil, or_false] at hc
    rcases hc with rfl | rfl | rfl | rfl
    · exact head?_ne hquote
    · exact head?_ne hminus
    · exact head?_ne hitems
    · exact head?_ne hmembers

/-! ### Lists and objects -/

/-- Behind an entry: a comma and more entries, or the closing character. -/
def continued (close : Char) (a : α) (more : Reader (List α)) : Reader (List α) :=
  afterBlanks <| peek fun c =>
    if c = some (some ',') then expect ',' (andThen more fun as => yield (a :: as))
    else if c = some (some close) then expect close (yield [a])
    else refuse

theorem Takes.continued (close : Char) (a : α) {more more' : Reader (List α)}
    (h : Takes more more') : Takes (continued close a more) (continued close a more') :=
  .afterBlanks <| .peek fun _ =>
    .ite (.expect _ (h.andThen fun _ => .yield _)) (.ite (.expect _ (.yield _)) .refuse)

theorem continued_of_comma {close : Char} {a : α} {more : Reader (List α)} {cs rest : Input}
    (h : skipSpace cs = some ',' :: rest) :
    continued close a more cs = (more rest).map fun (as, rest) => (a :: as, rest) := by
  rw [continued, afterBlanks, h, peek, List.head?_cons, if_pos rfl, expect_cons, andThen_yield]

theorem continued_of_close {close : Char} {a : α} {more : Reader (List α)} {cs rest : Input}
    (hclose : close ≠ ',') (h : skipSpace cs = some close :: rest) :
    continued close a more cs = some ([a], rest) := by
  have hcomma : some (some close) ≠ some (some ',') := by simpa using hclose
  rw [continued, afterBlanks, h, peek, List.head?_cons, if_neg hcomma, if_pos rfl, expect_cons]
  rfl

theorem continued_of_other {close : Char} {a : α} {more : Reader (List α)} {cs : Input}
    (hcomma : ∀ rest, skipSpace cs = some ',' :: rest → False)
    (hclose : ∀ rest, skipSpace cs = some close :: rest → False) :
    continued close a more cs = none := by
  rw [continued, afterBlanks, peek, if_neg (head?_ne hcomma), if_neg (head?_ne hclose)]
  rfl

theorem items?_succ (fuel : Nat) :
    items? (fuel + 1) = andThen (value? fuel) fun j => continued ']' j (items? fuel) := by
  funext cs
  rw [items?, andThen]
  rcases value? fuel cs with _ | ⟨j, rest⟩
  · rfl
  simp only [Option.bind_eq_bind, Option.bind_some]
  split
  · rename_i hcomma
    rw [continued_of_comma hcomma]
    cases items? fuel _ <;> rfl
  · rename_i hclose
    exact (continued_of_close (by decide) hclose).symm
  · rename_i hcomma hclose
    exact (continued_of_other hcomma hclose).symm

/-- The name of a member and its colon. -/
def nameNext : Reader (Option String) :=
  afterBlanks <| expect '"' <| andThen string? fun name => afterBlanks <| expect ':' <| yield name

theorem expect_eq_some {c : Char} {r : Reader α} {a : α} {cs rest : Input}
    (h : expect c r cs = some (a, rest)) : ∃ tail, cs = some c :: tail ∧ r tail = some (a, rest) := by
  by_cases hhead : cs.head? = some (some c)
  · obtain ⟨tail, rfl⟩ := List.head?_eq_some_iff.mp hhead
    rw [expect_cons] at h
    exact ⟨tail, rfl, h⟩
  · rw [expect_of_head?_ne hhead] at h
    cases h

/-- A name is read alike whatever follows its colon. -/
theorem nameNext_append {cs : Input} {name : Option String} {rest : Input}
    (h : nameNext cs = some (name, rest)) :
    ∃ used, cs = used ++ rest ∧ ∀ rest', nameNext (used ++ rest') = some (name, rest') := by
  obtain ⟨tail, htail, h⟩ := expect_eq_some h
  obtain ⟨⟨_, rest₁⟩, hstring, h⟩ := Option.bind_eq_some_iff.mp h
  obtain ⟨_, hrest, h⟩ := expect_eq_some h
  cases h
  obtain ⟨blanks, hcs, hskip⟩ := skipSpace_append_skipSpace cs
  obtain ⟨literal, rfl, hliteral⟩ := string?_append hstring
  obtain ⟨blanks₁, hrest₁, hskip₁⟩ := skipSpace_append_skipSpace rest₁
  rw [htail] at hcs
  rw [hrest] at hrest₁
  refine ⟨blanks ++ some '"' :: (literal ++ (blanks₁ ++ [some ':'])), ?_, fun rest' => ?_⟩
  · rw [hcs, hrest₁]
    simp
  · simp only [List.append_assoc, List.cons_append, List.nil_append]
    rw [nameNext, afterBlanks, hskip, skipSpace_cons rfl, expect_cons, andThen_of_eq (hliteral _),
      afterBlanks, hskip₁, skipSpace_cons rfl, expect_cons]
    rfl

theorem members?_succ (fuel : Nat) : members? (fuel + 1) = andThen nameNext fun name =>
    andThen (value? fuel) fun j => continued '\x7d' (name, j) (members? fuel) := by
  funext cs
  unfold andThen nameNext afterBlanks
  rw [members?]
  generalize skipSpace cs = cs
  split
  · rename_i rest
    rw [expect_cons, andThen]
    rcases string? rest with _ | ⟨name, rest⟩
    · rfl
    simp only [Option.bind_eq_bind, Option.bind_some]
    generalize skipSpace rest = rest
    split
    · rename_i rest
      rw [expect_cons, yield, Option.bind_some]
      rcases value? fuel rest with _ | ⟨j, rest⟩
      · rfl
      simp only [Option.bind_some]
      split
      · rename_i hcomma
        rw [continued_of_comma hcomma]
        cases members? fuel _ <;> rfl
      · rename_i hclose
        exact (continued_of_close (by decide) hclose).symm
      · rename_i hcomma hclose
        exact (continued_of_other hcomma hclose).symm
    · rename_i hcolon
      rw [expect_of_head?_ne (head?_ne hcolon)]
      rfl
  · rename_i hquote
    rw [expect_of_head?_ne (head?_ne hquote)]
    rfl

theorem takes_string? : Takes string? string? := by
  intro cs s rest h
  obtain ⟨used, hused, hread⟩ := string?_append h
  exact ⟨used, hused, fun rest' _ => hread rest'⟩

theorem takes_nameNext : Takes nameNext nameNext := by
  intro cs name rest h
  obtain ⟨used, hused, hread⟩ := nameNext_append h
  exact ⟨used, hused, fun rest' _ => hread rest'⟩

/-- The readers of values, of items and of members, each with less fuel and with more. -/
structure TakesAll (fuel fuel' : Nat) : Prop where
  value : Takes (value? fuel) (value? fuel')
  items : Takes (items? fuel) (items? fuel')
  members : Takes (members? fuel) (members? fuel')

theorem takes_valueAt {fuel fuel' : Nat} (h : TakesAll fuel fuel') (c : Option (Option Char)) :
    Takes (valueAt fuel c) (valueAt fuel' c) := by
  unfold valueAt
  refine .ite (takes_word _ _) <| .ite (takes_word _ _) <| .ite (takes_word _ _) <|
    .ite (.expect _ ?string) <| .ite (.expect _ (takes_number? true)) <|
    .ite (.expect _ ?array) <| .ite (.expect _ ?object) (takes_number? false)
  case string => exact takes_string?.andThen fun _ => .yield _
  case array => exact .unlessClosed _ _ (h.items.andThen fun _ => .yield _)
  case object => exact .unlessClosed _ _ (h.members.andThen fun _ => .yield _)

/-- Less fuel reads no more than more fuel, by induction on the less: each of the three readers hands
one less to those that it is put together from. -/
theorem takesAll_of_le {fuel fuel' : Nat} (hle : fuel ≤ fuel') : TakesAll fuel fuel' := by
  induction fuel generalizing fuel' with
  | zero =>
      refine ⟨?_, ?_, ?_⟩
      all_goals
        intro cs a rest h
      · rw [value?] at h
        cases h
      · rw [items?] at h
        cases h
      · rw [members?] at h
        cases h
  | succ fuel ih =>
      obtain ⟨fuel', rfl⟩ : ∃ n, fuel' = n + 1 := ⟨fuel' - 1, by omega⟩
      have ih : TakesAll fuel fuel' := ih (by omega)
      refine ⟨?_, ?_, ?_⟩
      · rw [value?_succ, value?_succ]
        exact .afterBlanks (.peek (takes_valueAt ih))
      · rw [items?_succ, items?_succ]
        exact ih.value.andThen fun _ => .continued _ _ ih.items
      · rw [members?_succ, members?_succ]
        exact takes_nameNext.andThen fun _ => ih.value.andThen fun _ => .continued _ _ ih.members

/-- **What a value's reader has read does not depend on what follows**, its first character apart,
nor on the fuel. -/
theorem takes_value? {fuel fuel' : Nat} (hle : fuel ≤ fuel') :
    Takes (value? fuel) (value? fuel') := (takesAll_of_le hle).value

end Gatehouse.Json

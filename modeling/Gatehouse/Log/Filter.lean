import Gatehouse.Log.Directive

/-! # What is logged

A filter is a list of directives. Of those about an entry the most specific decides, and of two that
are equally specific the later. A filter is written as directives with commas between them; those
that cannot be read are passed over with a complaint, and if none is left a standard threshold holds
for everything. A directive that cannot be cut into its pieces ends the reading. -/

namespace Gatehouse.Log

/-- A filter. -/
abbrev Filter := List Directive

namespace Filter

/-- The directive that decides on an entry. -/
def decisive? (f : Filter) (e : Entry) : Option Directive :=
  (f.filter (·.concerns e)).foldl
    (fun best d => if best.all d.isAsSpecific then some d else best) none

/-- The entry passes. -/
def passes (f : Filter) (e : Entry) : Bool :=
  (f.decisive? e).any fun d => decide (e.level.rank ≤ d.threshold)

/-- The directives that parts write, and the complaints; or the complaints before a part that cannot
be cut. -/
def ofParts : List String → Except (List String) (Filter × List String)
  | [] => .ok ([], [])
  | part :: rest =>
    match Directive.ofText part with
    | .ok d => (ofParts rest).map fun (f, complaints) => (d :: f, complaints)
    | .error .divided => .error []
    | .error fault =>
      let complaint := "ignoring `" ++ part ++ "`: " ++ fault.message
      match ofParts rest with
      | .ok (f, complaints) => .ok (f, complaint :: complaints)
      | .error complaints => .error (complaint :: complaints)

/-- The filter that a text writes, and the complaints about it; or the complaints before the reading
ended. -/
def ofText (standard : Level) (s : String) : Except (List String) (Filter × List String) := do
  let (f, complaints) ← ofParts ((s.splitOn ",").filter (· ≠ ""))
  pure (if f.isEmpty then [{ threshold := standard.rank }] else f, complaints)

end Filter

end Gatehouse.Log

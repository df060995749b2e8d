/-! # Session flavors

A session belongs to an installed application (*mobile*), which keeps a device id of its own, or to
a browser (*web*), which is recognised by a fingerprint. -/

namespace Gatehouse

/-- The kind of client that holds a session. -/
inductive Flavor where
  | mobile
  | web
  deriving DecidableEq, Repr

namespace Flavor

/-- The label of a flavor in records and answers. -/
def label : Flavor → String
  | mobile => "mobile"
  | web => "web"

/-- The flavor that a label names. -/
def ofLabel? (s : String) : Option Flavor :=
  if s = "mobile" then some mobile else if s = "web" then some web else none

@[simp] theorem ofLabel?_label (f : Flavor) : ofLabel? f.label = some f := by cases f <;> decide

end Flavor

end Gatehouse

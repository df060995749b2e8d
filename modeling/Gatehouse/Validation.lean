import Gatehouse.Failure
import Gatehouse.Text.Blank
import Gatehouse.Text.LowerCase

/-! # Input rules

An e-mail address is compared in its normal form: trimmed and in lower case. The form is accepted if
it consists of a local part and a domain with one `@` between them, neither holds a blank or another
`@`, the local part is not empty, and the domain has a dot that is neither its first nor its last
character. A login needs an address and a password, a refresh a token that is not blank; every
broken rule is reported, the address before the password. -/

namespace Gatehouse

namespace Email

/-- The normal form of an address. -/
def normalize (email : String) : String := Text.lower (Text.trim email)

/-- A character that may stand in a local part or a domain. -/
def isPlain (c : Char) : Bool := c != '@' && !Text.isBlank c

/-- A dot stands in the text behind at least one character and before at least one more. -/
def hasInnerDot : List Char → Bool
  | [] => false
  | _ :: rest => rest.dropLast.contains '.'

/-- The characters form an address. -/
def isValidChars (cs : List Char) : Bool :=
  let (localPart, rest) := cs.span isPlain
  match rest with
  | '@' :: domain => !localPart.isEmpty && domain.all isPlain && hasInnerDot domain
  | _ => false

/-- The text is an address as it stands. -/
def isValid (email : String) : Bool := isValidChars email.toList

end Email

namespace Validation

/-- What is wrong with an address. -/
def emailErrors (email : String) : List FieldError :=
  let email := Email.normalize email
  if email.isEmpty then [⟨"Email", "Email is required"⟩]
  else if Email.isValid email then []
  else [⟨"Email", "Email format is invalid"⟩]

/-- What is wrong with a password. -/
def passwordErrors (password : String) : List FieldError :=
  if password.isEmpty then [⟨"Password", "Password is required"⟩] else []

/-- The input is refused if any field is at fault. -/
def check (errors : List FieldError) : Except Failure Unit :=
  if errors.isEmpty then .ok () else .error (.validation errors)

/-- The rules of a login. -/
def login (email password : String) : Except Failure Unit :=
  check (emailErrors email ++ passwordErrors password)

/-- The rules of a refresh and of a logout. -/
def refreshToken (token : String) : Except Failure Unit :=
  check (if (Text.trim token).isEmpty then [⟨"RefreshToken", "Refresh token is required"⟩] else [])

/-- The failure of a request that has no readable body. -/
def missingBody : Failure := .validation [⟨"Body", "Request body is required"⟩]

end Validation

end Gatehouse

import RuntimeFlag.Credential.Claims
/-!
# Access tokens

A stored token may have blanks around it and the scheme `bearer` in front. A token that holds
nothing else is no token.
-/
namespace RuntimeFlag.Token

open Text

/-- The scheme of a token, in lower case. -/
def scheme : List Char := "bearer".toList

def isScheme (cs : List Char) : Bool := cs.map lowerAscii = scheme

/-- The token without blanks around it and without its scheme. -/
def withoutScheme (stored : List Char) : List Char :=
  let token := trimChars stored
  match token.span (· ≠ ' ') with
  | (first, _ :: rest) => if isScheme first then trimChars rest else token
  | _ => token

/-- The token without blanks around it; `none` when nothing is left but a scheme. -/
def usable? (stored : List Char) : Option (List Char) :=
  let token := trimChars stored
  if isScheme token || (withoutScheme token).isEmpty then none else some token

/-- The value that is sent for a token: the token with a scheme in front. -/
def header (token : List Char) : List Char :=
  if (token.take 7).map lowerAscii = scheme ++ [' '] then token else "Bearer ".toList ++ token

def claims? (token : List Char) : Option Claims := Claims.ofToken? (withoutScheme token)

/-- Whether a text may be sent as the value of a header. -/
def isHeaderValue (text : String) : Bool :=
  (Utf8.encode text).all fun b => (0x20 ≤ b && b ≠ 0x7F) || b = 0x09

end RuntimeFlag.Token

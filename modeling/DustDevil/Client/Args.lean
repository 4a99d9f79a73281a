import DustDevil.Core.Users
import DustDevil.Lib.Text

/-!
# Users on the client's command line

`parse_into_user` of the client's `args.rs`, which reads what users may be given as arguments. The
alphanumeric characters are a parameter.
-/

namespace DustDevil

open Wire

inductive ParseIntoUserError where
  | empty
  | invalidRoleChar (char : Char)
  | emptyUsername
  | usernameTooLong
  | emptyPassword
  | passwordTooLong
  deriving DecidableEq, Repr

/-- The loop over the username, and what follows its colon, if there is one. -/
def parseIntoUsername : Str → Bool → Str → Except ParseIntoUserError (Str × Option Str)
  | username, _, [] => .ok (username, none)
  | username, escapeNext, nextChar :: chars => do
    let username ←
      if escapeNext ∨ (nextChar ≠ escapeChar ∧ nextChar ≠ ':') then
        pushField .usernameTooLong username nextChar
      else .ok username
    if escapeNext then parseIntoUsername username false chars
    else if nextChar = escapeChar then parseIntoUsername username true chars
    else if nextChar = ':' then .ok (username, some chars)
    else parseIntoUsername username false chars

/-- The loop over the password. -/
def parseIntoPassword : Str → Bool → Str → Except ParseIntoUserError Str
  | password, _, [] => .ok password
  | password, escapeNext, nextChar :: chars => do
    let password ←
      if escapeNext ∨ nextChar ≠ escapeChar then pushField .passwordTooLong password nextChar
      else .ok password
    if escapeNext then parseIntoPassword password false chars
    else if nextChar = escapeChar then parseIntoPassword password true chars
    else parseIntoPassword password false chars

/-- What the first character gives: the username so far, whether the next character is escaped, and
the role. -/
def parseFirstChar (alphanumeric : Alphanumeric) (firstChar : Char) :
    Except ParseIntoUserError (Str × Bool × Option UserRole) :=
  if alphanumeric.test firstChar then .ok ([firstChar], false, none)
  else if firstChar = adminPrefixChar then .ok ([], false, some .admin)
  else if firstChar = regularPrefixChar then .ok ([], false, some .regular)
  else if firstChar = escapeChar then .ok ([], true, none)
  else .error (.invalidRoleChar firstChar)

def parseIntoUser (alphanumeric : Alphanumeric) :
    Str → Except ParseIntoUserError (Str × Option Str × Option UserRole)
  | [] => .error .empty
  | firstChar :: chars => do
    let (username, escapeNext, maybeRole) ← parseFirstChar alphanumeric firstChar
    let (username, password) ← parseIntoUsername username escapeNext chars
    if username = [] then .error .emptyUsername
    else
      match password with
      | none => .ok (username, none, maybeRole)
      | some chars => do
        let password ← parseIntoPassword [] false chars
        if password = [] then .error .emptyPassword
        else .ok (username, some password, maybeRole)

end DustDevil

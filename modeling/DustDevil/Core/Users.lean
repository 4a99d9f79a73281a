import DustDevil.Lib.AsyncRead

/-!
# Users: roles and loading errors

The constants and types of `dust_devil_core::users`.
-/

namespace DustDevil

open Wire

/-- A character used to write comments on the users file. -/
def commentPrefixChar : Char := '!'

/-- A symbol character that identifies the admin user role. -/
def adminPrefixChar : Char := '@'

/-- A symbol character that identifies the regular user role. -/
def regularPrefixChar : Char := '#'

/-- A character used for escape sequences when specifying users. -/
def escapeChar : Char := '\\'

def defaultUserUsername : Str := ['a', 'd', 'm', 'i', 'n']

def defaultUserPassword : Str := ['a', 'd', 'm', 'i', 'n']

inductive UserRole where
  | admin
  | regular
  deriving DecidableEq, Repr

namespace UserRole

def intoRoleChar : UserRole → Char
  | .admin => adminPrefixChar
  | .regular => regularPrefixChar

def fromU8 (value : UInt8) : Option UserRole :=
  if value = 0x01 then some .admin
  else if value = 0x02 then some .regular
  else none

def intoU8 : UserRole → UInt8
  | .admin => 0x01
  | .regular => 0x02

end UserRole

/-- `push` onto a username or a password, which may not grow longer than 255 bytes. -/
def pushField {ε : Type} (tooLong : ε) (field : Str) (c : Char) : Except ε Str :=
  if 255 ≤ (utf8 field).length then .error tooLong else .ok (field ++ [c])

/-- Errors that can occur when the server loads a users file. The positions are a line number and
how many characters of the line had been read. -/
inductive UsersLoadingError where
  | io (e : IoError)
  | invalidUtf8 (lineNumber byteAt : ℕ)
  | lineTooLong (lineNumber byteAt : ℕ)
  | expectedRoleCharGotEOF (lineNumber charAt : ℕ)
  | invalidRoleChar (lineNumber charAt : ℕ) (char : Char)
  | expectedColonGotEOF (lineNumber charAt : ℕ)
  | emptyUsername (lineNumber charAt : ℕ)
  | usernameTooLong (lineNumber charAt : ℕ)
  | emptyPassword (lineNumber charAt : ℕ)
  | passwordTooLong (lineNumber charAt : ℕ)
  | noUsers
  deriving DecidableEq, Repr

end DustDevil

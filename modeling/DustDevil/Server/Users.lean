import Mathlib.Data.List.Sort
import DustDevil.Lib.MapCount
import DustDevil.Lib.Text
import DustDevil.Core.Users
import DustDevil.Server.ProcessLines

/-!
# The user manager

`users.rs`: the users file's parser and writer, and the operations on the users, one call at a
time. A `DashMap` is a finite map; what the source does in the map's own order takes that order as
an argument.
-/

namespace DustDevil

open Wire

structure UserData where
  password : Str
  role : UserRole
  deriving DecidableEq, Repr

abbrev UserMap := Finmap.Of Str UserData

/-! ## The users file -/

section Parse

/-- The first loop of `parse_line_into_user`: the username, how many characters have been read, and
those still to read. The `u32` column wraps around, as without overflow checks. -/
def parseUsername (lineNumber : UInt32) :
    Str → Bool → UInt32 → Str → Except UsersLoadingError (Str × UInt32 × Str)
  | _, _, charAt, [] => .error (.expectedColonGotEOF lineNumber.toNat charAt.toNat)
  | username, escapeNext, charAt, nextChar :: chars => do
    let username ←
      if escapeNext ∨ (nextChar ≠ escapeChar ∧ nextChar ≠ ':') then
        pushField (.usernameTooLong lineNumber.toNat (charAt + 1).toNat) username nextChar
      else .ok username
    if escapeNext then parseUsername lineNumber username false (charAt + 1) chars
    else if nextChar = escapeChar then parseUsername lineNumber username true (charAt + 1) chars
    else if nextChar = ':' then .ok (username, charAt + 1, chars)
    else parseUsername lineNumber username false (charAt + 1) chars

/-- The second loop: the password, and how many characters have been read. -/
def parsePassword (lineNumber : UInt32) :
    Str → Bool → UInt32 → Str → Except UsersLoadingError (Str × UInt32)
  | password, _, charAt, [] => .ok (password, charAt)
  | password, escapeNext, charAt, nextChar :: chars => do
    let password ←
      if escapeNext ∨ nextChar ≠ escapeChar then
        pushField (.passwordTooLong lineNumber.toNat (charAt + 1).toNat) password nextChar
      else .ok password
    if escapeNext then parsePassword lineNumber password false (charAt + 1) chars
    else if nextChar = escapeChar then parsePassword lineNumber password true (charAt + 1) chars
    else parsePassword lineNumber password false (charAt + 1) chars

/-- The part of a line after the role character. -/
def parseCredentials (role : UserRole) (lineNumber charAt : UInt32) (chars : Str) :
    Except UsersLoadingError (Str × UserData) := do
  let (username, charAt, chars) ← parseUsername lineNumber [] false charAt chars
  if username = [] then .error (.emptyUsername lineNumber.toNat charAt.toNat)
  else do
    let (password, charAt) ← parsePassword lineNumber [] false charAt chars
    if password = [] then .error (.emptyPassword lineNumber.toNat charAt.toNat)
    else .ok (username, ⟨password, role⟩)

def parseLineIntoUser (s : Str) (lineNumber charAt : UInt32) :
    Except UsersLoadingError (Option (Str × UserData)) :=
  match s with
  | [] => .error (.expectedRoleCharGotEOF lineNumber.toNat charAt.toNat)
  | roleChar :: chars =>
    if roleChar = commentPrefixChar then .ok none
    else if roleChar = adminPrefixChar then
      (parseCredentials .admin lineNumber (charAt + 1) chars).map some
    else if roleChar = regularPrefixChar then
      (parseCredentials .regular lineNumber (charAt + 1) chars).map some
    else .error (.invalidRoleChar lineNumber.toNat (charAt + 1).toNat roleChar)

/-- Skips a line's leading whitespace. `&s[1..]` panics if the first character has more than one
byte. -/
def trimStart {σ ε : Type} : Str → UInt32 → Proc σ ε (Str × UInt32)
  | [], charAt => pure ([], charAt)
  | c :: s, charAt =>
    if isWhitespace c then
      if (String.utf8EncodeChar c).length = 1 then trimStart s (charAt + 1) else .stop .panic
    else pure (c :: s, charAt)

end Parse

/-! ## The manager -/

/-- A `u32` counter. A subtraction from zero wraps, and `wrapped` remembers it. Before that an
addition has no bound, as one that wraps would take 2^32 users; `toUInt32` is what the `AtomicU32`
holds. -/
structure Counter where
  val : ℕ
  wrapped : Bool
  deriving DecidableEq, Repr

namespace Counter

def add (c : Counter) : Counter :=
  { c with val := if c.wrapped then (c.val + 1) % 2 ^ 32 else c.val + 1 }

def sub (c : Counter) : Counter :=
  if c.val = 0 then ⟨2 ^ 32 - 1, true⟩ else { c with val := c.val - 1 }

def toUInt32 (c : Counter) : UInt32 := .ofNat c.val

end Counter

structure UserManager where
  users : UserMap
  adminCount : Counter
  deriving DecidableEq

def countAdmins (users : UserMap) : ℕ := users.countVals fun user => user.role = .admin

namespace UserManager

def new : UserManager := ⟨∅, ⟨0, false⟩⟩

def load (m : UserManager) (username : Str) (user : UserData) : UserManager :=
  let adminCount :=
    if (m.users.lookup username).any fun old => old.role = .admin then m.adminCount.sub
    else m.adminCount
  ⟨m.users.insert username user, if user.role = .admin then adminCount.add else adminCount⟩

/-- The closure `from` has called on every line. -/
def loadLine (s : Str) (lineNumber : UInt32) : Proc UserManager UsersLoadingError Unit := do
  let (s, charAt) ← trimStart s 0
  if s = [] then pure ()
  else do
    let parsed ← .ofExcept (parseLineIntoUser s lineNumber charAt)
    match parsed with
    | some (username, user) => .modify fun m => m.load username user
    | none => pure ()

def loadingError : ProcessFileLinesError UsersLoadingError → UsersLoadingError
  | .io e => .io e
  | .invalidUtf8 lineNumber byteAt => .invalidUtf8 lineNumber.toNat byteAt
  | .lineTooLong lineNumber byteAt => .lineTooLong lineNumber.toNat byteAt
  | .cancelled _ e => e

end UserManager

def UserManager.from {ρ : Type} [AsyncRead ρ] : Proc ρ UsersLoadingError UserManager := fun r =>
  match (processLinesUtf8 loadLine).mapErr loadingError (r, UserManager.new) with
  | (.error e, (r, _)) => (.error e, r)
  | (.ok _, (r, m)) => if m.users = ∅ then (.error (.err .noUsers), r) else (.ok m, r)

namespace UserManager

/-- `from_file`, given what opening the file gives. -/
def fromFile {ρ : Type} [AsyncRead ρ] (file : Except IoError ρ) :
    Except (Stop UsersLoadingError) UserManager :=
  match file with
  | .ok reader => (UserManager.from reader).1
  | .error e => .error (.err (.io e))

section Save

/-- The order of `save_to`: the admins first, then by the bytes of the username. -/
def savedBefore (x y : Str × UserData) : Bool :=
  match x.2.role, y.2.role with
  | .admin, .regular => true
  | .regular, .admin => false
  | _, _ => (utf8 x.1).map UInt8.toNat ≤ (utf8 y.1).map UInt8.toNat

/-- A username's bytes, with a `\` before each `\` and each `:`. -/
def escapeBytes : List UInt8 → List UInt8
  | [] => []
  | c :: bytes =>
    if c = 0x5C ∨ c = 0x3A then 0x5C :: c :: escapeBytes bytes else c :: escapeBytes bytes

def saveUser (username : Str) (user : UserData) : List UInt8 :=
  UInt8.ofNat user.role.intoRoleChar.toNat :: (escapeBytes (utf8 username)
    ++ 0x3A :: utf8 user.password)

def saveUsers : Bool → List (Str × UserData) → List UInt8
  | _, [] => []
  | isFirst, (username, user) :: users =>
    (if isFirst then [] else [newline]) ++ saveUser username user ++ saveUsers false users

/-- What `save_to` writes and returns when the map's order is `users` and every write succeeds. -/
def saveTo (users : List (Str × UserData)) : List UInt8 × ℕ :=
  (saveUsers true (users.insertionSort fun x y => savedBefore x y), users.length)

end Save

section Operations

variable (m : UserManager)

def insert (username password : Str) (role : UserRole) : Bool × UserManager :=
  match m.users.lookup username with
  | some _ => (false, m)
  | none =>
    (true, ⟨m.users.insert username ⟨password, role⟩,
      if role = .admin then m.adminCount.add else m.adminCount⟩)

def insertOrUpdate (username password : Str) (role : UserRole) : Bool × UserManager :=
  let insertResult := m.users.lookup username
  let adminCount :=
    if insertResult.any fun old => old.role = .admin then
      if role ≠ .admin then m.adminCount.sub else m.adminCount
    else if role = .admin then m.adminCount.add
    else m.adminCount
  (insertResult.isSome, ⟨m.users.insert username ⟨password, role⟩, adminCount⟩)

/-- The closure given to `fetch_update`. -/
def takeAdmin (c : Counter) : Option Counter := if c.val = 1 then none else some c.sub

/-- `update` on an occupied entry, from its new role on. -/
def updateOccupied (username : Str) (user : UserData) (password : Option Str)
    (adminCount : Counter) : Except Unit (Option UserRole) × UserManager :=
  let user := match password with
    | some newPassword => { user with password := newPassword }
    | none => user
  (.ok (some user.role), ⟨m.users.insert username user, adminCount⟩)

def update (username : Str) (password : Option Str) (role : Option UserRole) :
    Except Unit (Option UserRole) × UserManager :=
  match m.users.lookup username with
  | none => (.error (), m)
  | some user =>
    match role with
    | none => m.updateOccupied username user password m.adminCount
    | some newRole =>
      if user.role = .admin ∧ newRole ≠ .admin then
        match takeAdmin m.adminCount with
        | none => (.ok none, m)
        | some count => m.updateOccupied username { user with role := newRole } password count
      else if user.role ≠ .admin ∧ newRole = .admin then
        m.updateOccupied username { user with role := newRole } password m.adminCount.add
      else m.updateOccupied username { user with role := newRole } password m.adminCount

def delete (username : Str) : Except Unit (Option (Str × UserRole)) × UserManager :=
  match m.users.lookup username with
  | none => (.error (), m)
  | some user =>
    if user.role = .admin then
      match takeAdmin m.adminCount with
      | none => (.ok none, m)
      | some count => (.ok (some (username, user.role)), ⟨m.users.erase username, count⟩)
    else (.ok (some (username, user.role)), ⟨m.users.erase username, m.adminCount⟩)

def count : ℕ := m.users.entries.card

def tryLogin (username password : Str) : Option UserRole :=
  ((m.users.lookup username).filter fun u => u.password = password).map UserData.role

/-- The names and roles, in no particular order. -/
def takeSnapshot : Multiset (Str × UserRole) := m.users.entries.map fun e => (e.1, e.2.role)

end Operations

end UserManager

end DustDevil

import DustDevil.Proofs.Users
import DustDevil.Server.Context

/-!
# Whether a manager's users can be saved

`add_user` looks at the characters of the username only and `update_user` at nothing, while the
users file has no line for an empty field or one with a newline. A user that a manager has stored is
then one that a line can stand for under a condition on the request and on the user it changes
(`stored_representable_iff`).
-/

namespace DustDevil

open Wire

section Decoded

/-- Some bytes, arriving in some way, decode as `a`. -/
def Decoded {α : Type} [ByteRead α] (a : α) : Prop :=
  ∃ (ρ : Type) (_ : AsyncRead ρ) (r r' : ρ), ByteRead.read r = (.ok a, r')

theorem Decoded.flat {α : Type} [ByteRead α] {a : α} (h : Decoded a) :
    ∃ r r' : Flat, ByteRead.read r = (.ok a, r') := by
  obtain ⟨ρ, _, r, r', h⟩ := h
  obtain ⟨h1, -⟩ := ByteRead.refines (α := α) r
  rw [h] at h1
  exact ⟨Wire.flat r, _, Prod.ext h1.symm rfl⟩

theorem addUserRequest_length {request : AddUserRequest} (h : Decoded request) :
    (utf8 request.username).length ≤ 255 ∧ (utf8 request.password).length ≤ 255 := by
  obtain ⟨r, r', h⟩ := h.flat
  simp only [ByteRead.read] at h
  obtain ⟨username, r1, h1, h⟩ := Proc.bind_eq_ok h
  obtain ⟨password, r2, h2, h⟩ := Proc.bind_eq_ok h
  obtain ⟨role, r3, -, h⟩ := Proc.bind_eq_ok h
  simp only [Proc.pure_apply, Prod.mk.injEq, Except.ok.injEq] at h
  obtain ⟨rfl, -⟩ := h
  exact ⟨(smallReadString_eq_ok h1).2.1, (smallReadString_eq_ok h2).2.1⟩

theorem updateUserRequest_length {request : UpdateUserRequest} (h : Decoded request) :
    (utf8 request.username).length ≤ 255
      ∧ ∀ password, request.password = some password → (utf8 password).length ≤ 255 := by
  obtain ⟨r, r', h⟩ := h.flat
  obtain ⟨username, r1, h1, h⟩ := Proc.bind_eq_ok h
  obtain ⟨password, r2, h2, h⟩ := Proc.bind_eq_ok h
  obtain ⟨role, r3, -, h⟩ := Proc.bind_eq_ok h
  simp only [Proc.pure_apply, Prod.mk.injEq, Except.ok.injEq] at h
  obtain ⟨rfl, -⟩ := h
  refine ⟨(smallReadString_eq_ok h1).2.1, fun p hp => ?_⟩
  obtain ⟨s, rfl, rfl⟩ := Option.map_eq_some_iff.1 hp
  obtain ⟨hasValue, r4, -, h2⟩ := Proc.bind_eq_ok h2
  split_ifs at h2
  · simp at h2
  · obtain ⟨s', r5, h3, h2⟩ := Proc.bind_eq_ok h2
    simp only [Proc.pure_apply, Prod.mk.injEq, Except.ok.injEq, Option.some.injEq] at h2
    rw [← h2.1]
    exact (smallReadString_eq_ok h3).2.1

end Decoded

section Stored

inductive UserRequest where
  | add (request : AddUserRequest)
  | update (request : UpdateUserRequest)

namespace UserRequest

def username : UserRequest → Str
  | add request => request.username
  | update request => request.username

/-- The request can come off the wire. -/
def OnWire : UserRequest → Prop
  | add request => Decoded request
  | update request => Decoded request

/-- `add_user` or `update_user`: whether the answer is `Ok`, and the new state. -/
def run (cx : SandstormContext) : UserRequest → Bool × ServerState
  | add request =>
    let (response, state, _) := cx.addUser request.username request.password request.role
    (response = .ok, state)
  | update request =>
    let (response, state, _) := cx.updateUser request.username request.password request.role
    (response = .ok, state)

/-- The password the user ends up with is not empty, has no newline and, if it is the one the user
had, is short enough for a line. -/
def PasswordStorable (users : UserMap) : UserRequest → Prop
  | add request => request.password ≠ [] ∧ '\n' ∉ request.password
  | update request =>
    match request.password with
    | some password => password ≠ [] ∧ '\n' ∉ password
    | none => ∀ user, users.lookup request.username = some user →
        user.password ≠ [] ∧ '\n' ∉ user.password ∧ fits user.password

def Storable (users : UserMap) (request : UserRequest) : Prop :=
  request.username ≠ [] ∧ '\n' ∉ request.username ∧ request.PasswordStorable users

end UserRequest

variable {cx : SandstormContext} {username : Str}

theorem addUser_ok {password : Str} {role : UserRole}
    (h : (cx.addUser username password role).1 = .ok) :
    (cx.addUser username password role).2.1.users.users.lookup username
      = some ⟨password, role⟩ := by
  unfold SandstormContext.addUser at h ⊢
  split_ifs at h ⊢
  rcases hold : cx.state.users.users.lookup username with _ | old
  · simp [UserManager.insert, hold, SandstormContext.setUsers]
  · simp [UserManager.insert, hold] at h

theorem updateUser_ok {password : Option Str} {role : Option UserRole}
    (h : (cx.updateUser username password role).1 = .ok) :
    ∃ old role', cx.state.users.users.lookup username = some old
      ∧ (cx.updateUser username password role).2.1.users.users.lookup username
        = some ⟨password.getD old.password, role'⟩ := by
  unfold SandstormContext.updateUser at h ⊢
  split_ifs at h ⊢
  rcases hold : cx.state.users.users.lookup username with _ | old
  · simp [UserManager.update, hold] at h
  rcases hupdate : cx.state.users.update username password role with ⟨_ | _ | role', users⟩ <;>
    rw [hupdate] at h
  · simp at h
  · simp at h
  refine ⟨old, role', rfl, ?_⟩
  obtain ⟨old', hold', husers⟩ := UserManager.update_eq_some hupdate
  rw [hold, Option.some.injEq] at hold'
  subst hold'
  simp [SandstormContext.setUsers, husers]

/-- The user that an accepted request has stored can be written to the users file exactly if the
request and the user it changes are storable. -/
theorem stored_representable_iff {request : UserRequest} (hwire : request.OnWire)
    (hok : (request.run cx).1 = true) :
    (∃ user, (request.run cx).2.users.users.lookup request.username = some user
        ∧ Representable request.username user)
      ↔ request.Storable cx.state.users.users := by
  cases request with
  | add request =>
    obtain ⟨hname, hpass⟩ := addUserRequest_length hwire
    have hstored := addUser_ok (by simpa [UserRequest.run] using hok)
    simp only [UserRequest.run, UserRequest.username, hstored, Option.some.injEq, exists_eq_left',
      representable_iff, UserRequest.Storable, UserRequest.PasswordStorable]
    have h1 := fits_of_length_le hname
    have h2 := fits_of_length_le hpass
    constructor
    · rintro ⟨⟨hne, hnew, -⟩, hne', hnew', -⟩
      exact ⟨hne, hnew, hne', hnew'⟩
    · rintro ⟨hne, hnew, hne', hnew'⟩
      exact ⟨⟨hne, hnew, h1⟩, hne', hnew', h2⟩
  | update request =>
    obtain ⟨hname, hpass⟩ := updateUserRequest_length hwire
    obtain ⟨old, role', hold, hstored⟩ := updateUser_ok (by simpa [UserRequest.run] using hok)
    simp only [UserRequest.run, UserRequest.username, hstored, Option.some.injEq, exists_eq_left',
      representable_iff, UserRequest.Storable, UserRequest.PasswordStorable]
    have h1 := fits_of_length_le hname
    rcases hnewpass : request.password with _ | password
    · simp only [Option.getD_none, hold, Option.some.injEq, forall_eq']
      constructor
      · rintro ⟨⟨hne, hnew, -⟩, h⟩
        exact ⟨hne, hnew, h⟩
      · rintro ⟨hne, hnew, h⟩
        exact ⟨⟨hne, hnew, h1⟩, h⟩
    · simp only [Option.getD_some]
      have h2 := fits_of_length_le (hpass password hnewpass)
      constructor
      · rintro ⟨⟨hne, hnew, -⟩, hne', hnew', -⟩
        exact ⟨hne, hnew, hne', hnew'⟩
      · rintro ⟨hne, hnew, hne', hnew'⟩
        exact ⟨⟨hne, hnew, h1⟩, hne', hnew', h2⟩

def defaultManager : SandstormContext :=
  ⟨1, ⟨(UserManager.new.insert defaultUserUsername defaultUserPassword .admin).2, true, true,
    0x2000, false⟩, true⟩

/-- A regular user with an empty name. -/
def namelessRequest : UserRequest := .add ⟨[], ['x'], .regular⟩

theorem namelessRequest_onWire : namelessRequest.OnWire :=
  ⟨Flat, inferInstance, ⟨[0, 1, 0x78, 2], .eof⟩, ⟨[], .eof⟩, by decide +kernel⟩

theorem stored_representable_iff_nameless :
    (∃ user, (namelessRequest.run defaultManager).2.users.users.lookup namelessRequest.username
        = some user ∧ Representable namelessRequest.username user)
      ↔ namelessRequest.Storable defaultManager.state.users.users :=
  stored_representable_iff namelessRequest_onWire (by decide +kernel)

theorem not_representable_nameless :
    namelessRequest.OnWire ∧ (namelessRequest.run defaultManager).1 = true
      ∧ ¬ ∃ user, (namelessRequest.run defaultManager).2.users.users.lookup
          namelessRequest.username = some user
        ∧ Representable namelessRequest.username user := by
  refine ⟨namelessRequest_onWire, by decide +kernel, ?_⟩
  rintro ⟨user, -, hrep⟩
  exact (representable_iff.1 hrep).1.1 rfl

end Stored

end DustDevil

import DustDevil.Client.Args
import DustDevil.Proofs.ParseUser

/-!
# The client's reading of a user

The client reads a user by the grammar of a line of the users file, but that the role and the
password may be left out (`parseIntoUser_eq_grammar`). So it accepts a line that has both exactly if
the server does (`parseIntoUser_iff`), and in both a field can come to more than 255 bytes with its
last character (`parsed_fields_iff`).
-/

namespace DustDevil

open Wire

section Grammar

/-- The username, and the password if a colon comes before it. -/
def readFields (escapeNext : Bool) (chars : Str) : Str × Option Str :=
  (unescape escapeNext (writtenUsername escapeNext chars),
    (chars.drop (writtenUsername escapeNext chars).length).tail?.map (unescape false))

theorem parseIntoPassword_eq :
    ∀ (chars password : Str) (escapeNext : Bool), fits password →
      parseIntoPassword password escapeNext chars
        = if fits (password ++ unescape escapeNext chars) then
            .ok (password ++ unescape escapeNext chars)
          else .error .passwordTooLong
  | [], password, escapeNext, h => by simp [parseIntoPassword, h]
  | c :: chars, password, escapeNext, h => by
    by_cases hc : escapeNext = true ∨ c ≠ escapeChar
    · have hparse : parseIntoPassword password escapeNext (c :: chars)
          = pushField .passwordTooLong password c >>= fun password =>
            parseIntoPassword password false chars := by
        rcases hc with rfl | hc
        · simp [parseIntoPassword]
        · cases escapeNext <;> simp [parseIntoPassword, hc]
      rw [hparse, pushField_eq, unescape_keep hc,
        List.append_cons password c (unescape false chars)]
      by_cases hfits : fits (password ++ [c])
      · rw [if_pos hfits]
        exact parseIntoPassword_eq chars (password ++ [c]) false hfits
      · rw [if_neg hfits, if_neg fun h => hfits (fits_of_append h)]
        rfl
    · obtain ⟨hescape, hslash⟩ := not_or.1 hc
      obtain rfl : escapeNext = false := by simpa using hescape
      obtain rfl : c = escapeChar := not_not.1 hslash
      rw [unescape_escape]
      exact parseIntoPassword_eq chars password true h

theorem parseIntoUsername_eq :
    ∀ (chars username : Str) (escapeNext : Bool), fits username →
      parseIntoUsername username escapeNext chars
        = if fits (username ++ unescape escapeNext (writtenUsername escapeNext chars)) then
            .ok (username ++ unescape escapeNext (writtenUsername escapeNext chars),
              (chars.drop (writtenUsername escapeNext chars).length).tail?)
          else .error .usernameTooLong
  | [], username, escapeNext, h => by
    have hwritten : writtenUsername escapeNext [] = [] := by cases escapeNext <;> rfl
    rw [hwritten, unescape_nil, List.append_nil, if_pos h]
    rfl
  | c :: chars, username, escapeNext, h => by
    by_cases hc : escapeNext = true ∨ c ≠ escapeChar ∧ c ≠ ':'
    · have hc' : escapeNext = true ∨ c ≠ escapeChar := hc.imp_right And.left
      have hparse : parseIntoUsername username escapeNext (c :: chars)
          = pushField .usernameTooLong username c >>= fun username =>
            parseIntoUsername username false chars := by
        rcases hc with rfl | ⟨hslash, hcolon⟩
        · simp [parseIntoUsername]
        · cases escapeNext <;> simp [parseIntoUsername, hslash, hcolon]
      rw [hparse, pushField_eq, writtenUsername_keep hc, unescape_keep hc',
        List.append_cons username c (unescape false _), List.length_cons, List.drop_succ_cons]
      by_cases hfits : fits (username ++ [c])
      · rw [if_pos hfits]
        exact parseIntoUsername_eq chars (username ++ [c]) false hfits
      · rw [if_neg hfits, if_neg fun h => hfits (fits_of_append h)]
        rfl
    · simp only [not_or, Bool.not_eq_true, not_and_or, not_not] at hc
      obtain ⟨rfl, hc⟩ := hc
      by_cases hescape : c = escapeChar
      · subst hescape
        rw [writtenUsername_escape, unescape_escape, List.length_cons, List.drop_succ_cons]
        exact parseIntoUsername_eq chars username true h
      · obtain rfl : c = ':' := hc.resolve_left hescape
        have hwritten : writtenUsername false (':' :: chars) = [] := rfl
        rw [hwritten, unescape_nil, List.append_nil, if_pos h]
        rfl

/-- What an argument gives for a user: the fields, and the role if it has one. -/
def argumentFields (alphanumeric : Alphanumeric) :
    Str → Option ((Str × Option Str) × Option UserRole)
  | [] => none
  | c :: chars =>
    if alphanumeric.test c ∨ c = escapeChar then some (readFields false (c :: chars), none)
    else (UserRole.ofRoleChar c).map fun role => (readFields false chars, some role)

/-- A user as an argument gives it, or the first rule that the argument breaks. -/
def argumentGrammar (alphanumeric : Alphanumeric) (s : Str) :
    Except ParseIntoUserError (Str × Option Str × Option UserRole) :=
  match s, argumentFields alphanumeric s with
  | [], _ => .error .empty
  | c :: _, none => .error (.invalidRoleChar c)
  | _, some ((username, password), role) =>
    if ¬ fits username then .error .usernameTooLong
    else if username = [] then .error .emptyUsername
    else
      match password with
      | none => .ok (username, none, role)
      | some password =>
        if ¬ fits password then .error .passwordTooLong
        else if password = [] then .error .emptyPassword
        else .ok (username, some password, role)

variable {alphanumeric : Alphanumeric} {c : Char} {chars : Str}

theorem not_alphanumeric {d : Char} (hd : d.toNat < 128) (h : d.isAlphanum = false) :
    alphanumeric.test d = false := by
  rw [alphanumeric.ascii d hd, h]

theorem not_alphanumeric_roleChar (role : UserRole) :
    alphanumeric.test role.intoRoleChar = false := by
  cases role <;> exact not_alphanumeric (by decide) (by decide)

theorem UserRole.ofRoleChar_intoRoleChar (role : UserRole) :
    UserRole.ofRoleChar role.intoRoleChar = some role := by
  cases role <;> rfl

theorem argumentFields_role (role : UserRole) (chars : Str) :
    argumentFields alphanumeric (role.intoRoleChar :: chars)
      = some (readFields false chars, some role) := by
  have hescape : role.intoRoleChar ≠ escapeChar := by cases role <;> decide
  rw [argumentFields, not_alphanumeric_roleChar, if_neg (by simp [hescape]),
    UserRole.ofRoleChar_intoRoleChar]
  rfl

/-- After its first character, an argument is read as a field that has begun is. -/
theorem parseFirstChar_ok {username : Str} {escapeNext : Bool} {role : Option UserRole}
    (h : parseFirstChar alphanumeric c = .ok (username, escapeNext, role)) (chars : Str) :
    fits username ∧ argumentFields alphanumeric (c :: chars)
      = some ((username ++ unescape escapeNext (writtenUsername escapeNext chars),
          (chars.drop (writtenUsername escapeNext chars).length).tail?.map (unescape false)),
        role) := by
  unfold parseFirstChar at h
  split_ifs at h with halnum hadmin hregular hescape <;>
    simp only [Except.ok.injEq, Prod.mk.injEq] at h <;> obtain ⟨rfl, rfl, rfl⟩ := h
  · have hkeep : ∀ {d : Char}, alphanumeric.test d = false → c ≠ d := by
      rintro d hd rfl
      rw [halnum] at hd
      nomatch hd
    have hslash : c ≠ escapeChar := hkeep (not_alphanumeric (by decide) (by decide))
    have hcolon : c ≠ ':' := hkeep (not_alphanumeric (by decide) (by decide))
    have hone : fits ([] ++ [c]) := fits_concat.2 (by decide)
    refine ⟨hone, ?_⟩
    rw [argumentFields, if_pos (.inl halnum), readFields,
      writtenUsername_keep (.inr ⟨hslash, hcolon⟩), unescape_keep (.inr hslash)]
    rfl
  · subst hadmin
    exact ⟨fits_nil, argumentFields_role .admin chars⟩
  · subst hregular
    exact ⟨fits_nil, argumentFields_role .regular chars⟩
  · subst hescape
    refine ⟨fits_nil, ?_⟩
    rw [argumentFields, if_pos (.inr rfl), readFields, writtenUsername_escape, unescape_escape]
    rfl

theorem parseFirstChar_error {e : ParseIntoUserError} (h : parseFirstChar alphanumeric c = .error e)
    (chars : Str) :
    e = .invalidRoleChar c ∧ argumentFields alphanumeric (c :: chars) = none := by
  unfold parseFirstChar at h
  split_ifs at h with halnum hadmin hregular hescape
  obtain rfl := Except.error.inj h
  simp [argumentFields, halnum, hescape, UserRole.ofRoleChar, hadmin, hregular]

/-- The client reads an argument as the grammar says. -/
theorem parseIntoUser_eq_grammar (alphanumeric : Alphanumeric) (s : Str) :
    parseIntoUser alphanumeric s = argumentGrammar alphanumeric s := by
  rcases s with _ | ⟨c, chars⟩
  · rfl
  rcases hfirst : parseFirstChar alphanumeric c with e | ⟨username, escapeNext, role⟩
  · obtain ⟨rfl, hfields⟩ := parseFirstChar_error hfirst chars
    simp only [parseIntoUser, argumentGrammar, hfirst, hfields]
    rfl
  obtain ⟨hfits, hfields⟩ := parseFirstChar_ok hfirst chars
  have hname := parseIntoUsername_eq chars username escapeNext hfits
  simp only [parseIntoUser, argumentGrammar, hfirst, hfields]
  generalize username ++ unescape escapeNext (writtenUsername escapeNext chars) = name at hname ⊢
  generalize (chars.drop (writtenUsername escapeNext chars).length).tail? = rest at hname ⊢
  simp only [bind, Except.bind, hname]
  by_cases hlong : fits name
  · rw [if_pos hlong, if_neg (not_not.2 hlong)]
    by_cases hempty : name = []
    · simp only [if_pos hempty]
    · simp only [if_neg hempty]
      rcases rest with _ | rest
      · rfl
      · have hpass := parseIntoPassword_eq rest [] false fits_nil
        rw [List.nil_append] at hpass
        simp only [Option.map_some, hpass]
        by_cases hfits : fits (unescape false rest)
        · rw [if_pos hfits, if_neg (not_not.2 hfits)]
        · rw [if_neg hfits, if_pos hfits]
  · rw [if_neg hlong, if_pos hlong]

/-- The arguments that are users. -/
theorem parseIntoUser_eq_ok {s username : Str} {password : Option Str} {role : Option UserRole} :
    parseIntoUser alphanumeric s = .ok (username, password, role)
      ↔ argumentFields alphanumeric s = some ((username, password), role) ∧ username ≠ []
        ∧ fits username ∧ ∀ p ∈ password, p ≠ [] ∧ fits p := by
  rw [parseIntoUser_eq_grammar]
  rcases s with _ | ⟨c, chars⟩
  · simp [argumentGrammar, argumentFields]
  unfold argumentGrammar
  rcases argumentFields alphanumeric (c :: chars) with _ | ⟨⟨name, pass⟩, role'⟩
  · simp
  constructor
  · intro h
    dsimp only at h
    split_ifs at h with hfits hempty
    rcases pass with _ | pass
    · obtain ⟨rfl, rfl, rfl⟩ := by simpa using h
      exact ⟨rfl, hempty, hfits, fun _ hp => nomatch hp⟩
    · dsimp only at h
      split_ifs at h with hfits' hempty'
      obtain ⟨rfl, rfl, rfl⟩ := by simpa using h
      refine ⟨rfl, hempty, hfits, fun p hp => ?_⟩
      obtain rfl : pass = p := Option.some.inj hp
      exact ⟨hempty', hfits'⟩
  · rintro ⟨heq, hempty, hfits, hpass⟩
    obtain ⟨⟨rfl, rfl⟩, rfl⟩ := by simpa using heq
    rcases pass with _ | pass
    · simp [hempty, hfits]
    · obtain ⟨hempty', hfits'⟩ := hpass pass rfl
      simp [hempty, hfits, hempty', hfits']

end Grammar

section Agree

variable {alphanumeric : Alphanumeric} {username password : Str} {n charAt : UInt32}

theorem splitUsername_eq_some {chars rest : Str} {escapeNext : Bool} :
    splitUsername escapeNext chars = some (username, rest)
      ↔ username = unescape escapeNext (writtenUsername escapeNext chars)
        ∧ (chars.drop (writtenUsername escapeNext chars).length).tail? = some rest := by
  rw [splitUsername_eq]
  rcases chars.drop (writtenUsername escapeNext chars).length with _ | ⟨d, rest'⟩
  · simp
  · simp [eq_comm]

/-- A user of the users file, by its fields. -/
theorem parseLineIntoUser_iff_readFields {c : Char} {chars : Str} {role : UserRole} :
    parseLineIntoUser (c :: chars) n charAt = .ok (some (username, ⟨password, role⟩))
      ↔ c = role.intoRoleChar ∧ readFields false chars = (username, some password)
        ∧ username ≠ [] ∧ fits username ∧ password ≠ [] ∧ fits password := by
  rw [parseLineIntoUser_eq_ok]
  constructor
  · rintro ⟨chars', rest, heq, hsplit, rfl, hempty, hempty', hfits, hfits'⟩
    obtain ⟨rfl, rfl⟩ := List.cons.inj heq
    obtain ⟨rfl, hrest⟩ := splitUsername_eq_some.1 hsplit
    exact ⟨rfl, by rw [readFields, hrest]; rfl, hempty, hfits, hempty', hfits'⟩
  · rintro ⟨rfl, hfields, hempty, hfits, hempty', hfits'⟩
    obtain ⟨rfl, hpass⟩ := Prod.mk.inj hfields
    obtain ⟨rest, hrest, rfl⟩ := Option.map_eq_some_iff.1 hpass
    exact ⟨chars, rest, rfl, splitUsername_eq_some.2 ⟨rfl, hrest⟩, rfl, hempty, hempty', hfits,
      hfits'⟩

/-- The two parsers accept the same users, where the role is given and where it is left out. -/
theorem parseIntoUser_iff (alphanumeric : Alphanumeric) :
    (∀ (c : Char) (chars username password : Str) (role : UserRole) (n charAt : UInt32),
      c = '@' ∨ c = '#' →
        (parseIntoUser alphanumeric (c :: chars) = .ok (username, some password, some role)
          ↔ parseLineIntoUser (c :: chars) n charAt = .ok (some (username, ⟨password, role⟩))))
      ∧ ∀ (c : Char) (chars username password : Str) (n charAt : UInt32),
        alphanumeric.test c = true →
          (parseIntoUser alphanumeric (c :: chars) = .ok (username, some password, none)
            ↔ parseLineIntoUser ('#' :: c :: chars) n charAt
              = .ok (some (username, ⟨password, .regular⟩))) := by
  refine ⟨fun c chars username password role n charAt hc => ?_,
    fun c chars username password n charAt hc => ?_⟩
  · obtain ⟨role', rfl⟩ : ∃ role' : UserRole, c = role'.intoRoleChar := by
      rcases hc with rfl | rfl
      · exact ⟨.admin, rfl⟩
      · exact ⟨.regular, rfl⟩
    have hrole : role'.intoRoleChar = role.intoRoleChar ↔ role' = role := by
      cases role' <;> cases role <;> decide
    rw [parseIntoUser_eq_ok, parseLineIntoUser_iff_readFields, argumentFields_role, hrole]
    simp only [Option.some.injEq, Prod.mk.injEq, Option.mem_def, forall_eq']
    tauto
  · rw [parseIntoUser_eq_ok, parseLineIntoUser_iff_readFields, argumentFields, if_pos (.inl hc)]
    have hrole : ('#' : Char) = UserRole.intoRoleChar .regular := rfl
    simp only [hrole, Option.some.injEq, Prod.mk.injEq, Option.mem_def, forall_eq', true_and,
      and_true]

theorem parseIntoUser_agree :
    parseIntoUser .onlyAscii ['#', 'a', ':', '1'] = .ok (['a'], some ['1'], some .regular)
      ∧ parseIntoUser .onlyAscii ['a', ':', '1'] = .ok (['a'], some ['1'], none) := by
  obtain ⟨hrole, hnone⟩ := parseIntoUser_iff .onlyAscii
  exact ⟨(hrole _ _ _ _ _ 1 0 (.inr rfl)).2 (by decide),
    (hnone _ _ _ _ 1 0 (by decide)).2 (by decide)⟩

end Agree

/-! ## The length of a field -/

section Length

variable {alphanumeric : Alphanumeric} {s username : Str}

/-- From 1 to 255 bytes. -/
def Short (field : Str) : Prop := 1 ≤ (utf8 field).length ∧ (utf8 field).length ≤ 255

/-- It is the last character that makes the field longer than 255 bytes. -/
def Straddles (field : Str) : Prop := (utf8 field.dropLast).length < 255 ∧ 255 < (utf8 field).length

theorem short_iff {field : Str} (hne : field ≠ []) (hfits : fits field) :
    Short field ↔ ¬ Straddles field := by
  have hpos : 1 ≤ (utf8 field).length := by
    obtain ⟨c, t, rfl⟩ := List.exists_cons_of_ne_nil hne
    have := length_encodeChar_pos c
    rw [utf8_cons, List.length_append]
    omega
  unfold Short Straddles
  unfold fits at hfits
  omega

/-- What the server accepts, the client reads as the same fields. -/
theorem argumentFields_of_parse {n charAt : UInt32} {user : UserData}
    (h : parseLineIntoUser s n charAt = .ok (some (username, user))) :
    argumentFields alphanumeric s = some ((username, some user.password), some user.role)
      ∧ username ≠ [] ∧ fits username ∧ ∀ p ∈ some user.password, p ≠ [] ∧ fits p := by
  rcases s with _ | ⟨c, chars⟩
  · nomatch h
  obtain ⟨rfl, hfields, hempty, hfits, hpass⟩ := parseLineIntoUser_iff_readFields.1 h
  refine ⟨by rw [argumentFields_role, hfields], hempty, hfits, fun p hp => ?_⟩
  obtain rfl := Option.some.inj hp
  exact hpass

/-- Every field of a user that either parser accepts has from 1 to 255 bytes, but for a field whose
last character is the one that makes it longer. -/
theorem parsed_fields_iff (alphanumeric : Alphanumeric) (s : Str) :
    ((∀ n charAt username user, parseLineIntoUser s n charAt = .ok (some (username, user)) →
        Short username ∧ Short user.password)
      ∧ ∀ username password role, parseIntoUser alphanumeric s = .ok (username, password, role) →
        Short username ∧ ∀ p ∈ password, Short p)
      ↔ ¬ ∃ username password role,
        argumentFields alphanumeric s = some ((username, password), role)
          ∧ (username ≠ [] ∧ fits username ∧ ∀ p ∈ password, p ≠ [] ∧ fits p)
          ∧ (Straddles username ∨ ∃ p ∈ password, Straddles p) := by
  constructor
  · rintro ⟨-, hclient⟩ ⟨username, password, role, hfields, hvalid, hstraddles⟩
    obtain ⟨hname, hpass⟩ := hclient _ _ _ (parseIntoUser_eq_ok.2 ⟨hfields, hvalid⟩)
    obtain ⟨hempty, hfits, hall⟩ := hvalid
    rcases hstraddles with h | ⟨p, hp, h⟩
    · exact (short_iff hempty hfits).1 hname h
    · exact (short_iff (hall p hp).1 (hall p hp).2).1 (hpass p hp) h
  · intro hnone
    have hshort : ∀ {username password role},
        argumentFields alphanumeric s = some ((username, password), role) →
          (username ≠ [] ∧ fits username ∧ ∀ p ∈ password, p ≠ [] ∧ fits p) →
            Short username ∧ ∀ p ∈ password, Short p := by
      intro username password role hfields hvalid
      refine ⟨(short_iff hvalid.1 hvalid.2.1).2 fun h =>
        hnone ⟨_, _, _, hfields, hvalid, .inl h⟩, fun p hp => ?_⟩
      obtain ⟨hempty, hfits⟩ := hvalid.2.2 p hp
      exact (short_iff hempty hfits).2 fun h => hnone ⟨_, _, _, hfields, hvalid, .inr ⟨p, hp, h⟩⟩
    constructor
    · intro n charAt username user h
      obtain ⟨hfields, hvalid⟩ := argumentFields_of_parse h
      obtain ⟨hname, hpass⟩ := hshort hfields hvalid
      exact ⟨hname, hpass _ rfl⟩
    · intro username password role h
      obtain ⟨hfields, hvalid⟩ := parseIntoUser_eq_ok.1 h
      exact hshort hfields hvalid

/-- A name of 254 bytes and a letter of two. -/
def longName : Str := List.replicate 254 'a' ++ ['é']

theorem not_parsed_fields_long :
    ¬ ∀ s, (∀ n charAt username user, parseLineIntoUser s n charAt = .ok (some (username, user)) →
        Short username ∧ Short user.password)
      ∧ ∀ username password role, parseIntoUser .onlyAscii s = .ok (username, password, role) →
        Short username ∧ ∀ p ∈ password, Short p := by
  intro h
  have hparse : parseLineIntoUser ('#' :: longName ++ [':', 'p']) 1 0
      = .ok (some (longName, ⟨['p'], .regular⟩)) := by
    decide +kernel
  exact absurd ((h _).1 1 0 _ _ hparse).1.2 (by decide +kernel)

end Length

end DustDevil

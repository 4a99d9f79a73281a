import DustDevil.Server.Users

/-!
# The grammar of a user's line

`parse_line_into_user` read as a grammar: a role character, a username up to the first colon that no
`\` escapes, and a password. `splitUsername` and `unescape` say what the two loops keep, `fits` when
a field is short enough for them, and `tooLongFrom` where they stop if it is not. Every line is a
comment, a user or an error of the first rule broken, with the number of characters read
(`parseLineIntoUser_eq_grammar`). Any nonempty fields that fit and hold no newline are then on some
line of a users file (`representable_iff`).
-/

namespace DustDevil

open Wire

section Fields

/-- The field was shorter than 255 bytes when its last character was pushed. -/
def fits (field : Str) : Prop := (utf8 field.dropLast).length < 255

instance (field : Str) : Decidable (fits field) := inferInstanceAs (Decidable (_ < _))

theorem fits_nil : fits [] := by decide

theorem length_utf8_le_of_fits {field : Str} (h : fits field) : (utf8 field).length ≤ 258 := by
  rcases List.eq_nil_or_concat field with rfl | ⟨s, c, rfl⟩
  · decide
  · rw [fits, List.concat_eq_append, List.dropLast_concat] at h
    have hc : (String.utf8EncodeChar c).length ≤ 4 := by
      rw [String.length_utf8EncodeChar]
      exact c.utf8Size_le_four
    simp only [List.concat_eq_append, utf8_append, utf8_cons, utf8_nil, List.append_nil,
      List.length_append]
    omega

theorem fits_of_append {s t : Str} (h : fits (s ++ t)) : fits s := by
  rcases List.eq_nil_or_concat t with rfl | ⟨t, c, rfl⟩
  · simpa using h
  · rw [fits, List.concat_eq_append, ← List.append_assoc, List.dropLast_concat, utf8_append,
      List.length_append] at h
    rcases List.eq_nil_or_concat s with rfl | ⟨s, d, rfl⟩
    · exact fits_nil
    · rw [List.concat_eq_append, utf8_append, List.length_append] at h
      unfold fits
      rw [List.concat_eq_append, List.dropLast_concat]
      omega

theorem fits_of_length_le {field : Str} (h : (utf8 field).length ≤ 255) : fits field := by
  rcases List.eq_nil_or_concat field with rfl | ⟨s, c, rfl⟩
  · exact fits_nil
  · have hc := length_encodeChar_pos c
    rw [List.concat_eq_append, utf8_append, List.length_append, utf8_cons, utf8_nil,
      List.append_nil] at h
    unfold fits
    rw [List.concat_eq_append, List.dropLast_concat]
    omega

theorem fits_concat {field : Str} {c : Char} :
    fits (field ++ [c]) ↔ (utf8 field).length < 255 := by
  unfold fits
  rw [List.dropLast_concat]

theorem pushField_eq {ε : Type} (e : ε) (field : Str) (c : Char) :
    pushField e field c = if fits (field ++ [c]) then .ok (field ++ [c]) else .error e := by
  unfold pushField
  by_cases h : (utf8 field).length < 255
  · rw [if_neg (by omega), if_pos (fits_concat.2 h)]
  · rw [if_pos (by omega), if_neg (mt fits_concat.1 h)]

/-- The characters of a field, each `\` removed and the one after it taken literally. -/
def unescape : Bool → Str → Str
  | _, [] => []
  | true, c :: s => c :: unescape false s
  | false, c :: s => if c = escapeChar then unescape true s else c :: unescape false s

@[simp] theorem unescape_nil (escapeNext : Bool) : unescape escapeNext [] = [] := by
  cases escapeNext <;> rfl

theorem unescape_keep {escapeNext : Bool} {c : Char} (h : escapeNext = true ∨ c ≠ escapeChar)
    (s : Str) : unescape escapeNext (c :: s) = c :: unescape false s := by
  rcases h with rfl | hc
  · rfl
  · cases escapeNext <;> simp [unescape, hc]

theorem unescape_escape (s : Str) : unescape false (escapeChar :: s) = unescape true s := rfl

/-- A username and what follows its colon. -/
def splitUsername : Bool → Str → Option (Str × Str)
  | _, [] => none
  | true, c :: s => (splitUsername false s).map fun p => (c :: p.1, p.2)
  | false, c :: s =>
    if c = escapeChar then splitUsername true s
    else if c = ':' then some ([], s)
    else (splitUsername false s).map fun p => (c :: p.1, p.2)

/-- A username as it is written: the characters before the first colon that no `\` escapes. -/
def writtenUsername : Bool → Str → Str
  | _, [] => []
  | true, c :: s => c :: writtenUsername false s
  | false, c :: s =>
    if c = escapeChar then c :: writtenUsername true s
    else if c = ':' then []
    else c :: writtenUsername false s

theorem writtenUsername_keep {escapeNext : Bool} {c : Char}
    (h : escapeNext = true ∨ c ≠ escapeChar ∧ c ≠ ':') (s : Str) :
    writtenUsername escapeNext (c :: s) = c :: writtenUsername false s := by
  rcases h with rfl | ⟨hc, hc'⟩
  · rfl
  · cases escapeNext <;> simp [writtenUsername, hc, hc']

theorem writtenUsername_escape (s : Str) :
    writtenUsername false (escapeChar :: s) = escapeChar :: writtenUsername true s := rfl

theorem splitUsername_eq (chars : Str) (escapeNext : Bool) :
    splitUsername escapeNext chars
      = (chars.drop (writtenUsername escapeNext chars).length).tail?.map
        (Prod.mk (unescape escapeNext (writtenUsername escapeNext chars))) := by
  induction chars generalizing escapeNext with
  | nil => cases escapeNext <;> rfl
  | cons c chars ih =>
    cases escapeNext with
    | true =>
      rw [splitUsername, ih, Option.map_map]
      rfl
    | false =>
      by_cases hescape : c = escapeChar
      · subst hescape
        rw [writtenUsername_escape, unescape_escape]
        exact ih true
      by_cases hcolon : c = ':'
      · subst hcolon
        rfl
      · rw [writtenUsername_keep (.inr ⟨hescape, hcolon⟩), unescape_keep (.inr hescape)]
        rw [splitUsername, if_neg hescape, if_neg hcolon, ih, Option.map_map]
        rfl

end Fields

/-! ## Where a field is too long -/

section TooLong

/-- How many of the written characters are read when one is to be appended to a field that holds
255 bytes or more, from a field that already holds some. -/
def tooLongFrom (field : Str) (escapeNext : Bool) (written : Str) : Option ℕ :=
  (List.range (written.length + 1)).find? fun k =>
    !fits (field ++ unescape escapeNext (written.take k))

variable {field : Str} {escapeNext : Bool}

theorem tooLongFrom_nil (h : fits field) : tooLongFrom field escapeNext [] = none := by
  simp [tooLongFrom, h]

theorem tooLongFrom_of_not_fits (h : ¬ fits field) (written : Str) :
    tooLongFrom field escapeNext written = some 0 := by
  unfold tooLongFrom
  rw [List.range_succ_eq_map, List.find?_cons_of_pos]
  simp [h]

/-- The first character read, and then the others. -/
theorem tooLongFrom_cons (h : fits field) {c : Char} {written field' : Str} {escapeNext' : Bool}
    (hstep : ∀ s, field ++ unescape escapeNext (c :: s) = field' ++ unescape escapeNext' s) :
    tooLongFrom field escapeNext (c :: written)
      = (tooLongFrom field' escapeNext' written).map (· + 1) := by
  unfold tooLongFrom
  rw [List.length_cons, List.range_succ_eq_map, List.find?_cons_of_neg (by simp [h]),
    List.find?_map]
  simp only [Function.comp_def, List.take_succ_cons, hstep, Nat.succ_eq_add_one]

theorem tooLongFrom_keep (h : fits field) {c : Char} (hc : escapeNext = true ∨ c ≠ escapeChar)
    (written : Str) : tooLongFrom field escapeNext (c :: written)
      = (tooLongFrom (field ++ [c]) false written).map (· + 1) :=
  tooLongFrom_cons h fun s => by simp [unescape_keep hc]

theorem tooLongFrom_escape (h : fits field) (written : Str) :
    tooLongFrom field false (escapeChar :: written)
      = (tooLongFrom field true written).map (· + 1) :=
  tooLongFrom_cons h fun s => by rw [unescape_escape]

theorem tooLongFrom_eq_none :
    ∀ (written field : Str) (escapeNext : Bool),
      tooLongFrom field escapeNext written = none ↔ fits (field ++ unescape escapeNext written)
  | [], field, escapeNext => by
    by_cases h : fits field
    · simp [tooLongFrom_nil h, h]
    · simp [tooLongFrom_of_not_fits h, h]
  | c :: written, field, escapeNext => by
    by_cases h : fits field
    · by_cases hc : escapeNext = true ∨ c ≠ escapeChar
      · rw [tooLongFrom_keep h hc, Option.map_eq_none_iff, tooLongFrom_eq_none written,
          unescape_keep hc, List.append_assoc, List.singleton_append]
      · obtain ⟨hescape, hslash⟩ := not_or.1 hc
        obtain rfl : escapeNext = false := by simpa using hescape
        obtain rfl : c = escapeChar := not_not.1 hslash
        rw [tooLongFrom_escape h, Option.map_eq_none_iff, tooLongFrom_eq_none written,
          unescape_escape]
    · rw [tooLongFrom_of_not_fits h]
      simp only [reduceCtorEq, false_iff]
      exact fun hfits => h (fits_of_append hfits)

end TooLong

/-! ## The two loops -/

section Column

/-- The column after some more characters, as a `u32`. -/
def columnAt (charAt : UInt32) (read : ℕ) : ℕ := (charAt.toNat + read) % 2 ^ 32

variable {charAt : UInt32} {k : ℕ}

theorem columnAt_of_lt (h : charAt.toNat + k < 2 ^ 32) : columnAt charAt k = charAt.toNat + k :=
  Nat.mod_eq_of_lt h

theorem toNat_add_ofNat : (charAt + .ofNat k).toNat = columnAt charAt k := by
  rw [columnAt, UInt32.toNat_add, UInt32.toNat_ofNat', Nat.add_mod_mod]

theorem columnAt_zero : columnAt charAt 0 = charAt.toNat :=
  columnAt_of_lt charAt.toNat_lt

theorem columnAt_one : columnAt charAt 1 = (charAt + 1).toNat := toNat_add_ofNat.symm

theorem add_one_add_ofNat : charAt + 1 + .ofNat k = charAt + .ofNat (k + 1) := by
  rw [UInt32.ofNat_add, UInt32.add_assoc, UInt32.add_comm 1]
  rfl

theorem columnAt_add_one : columnAt (charAt + 1) k = columnAt charAt (k + 1) := by
  rw [← toNat_add_ofNat, add_one_add_ofNat, toNat_add_ofNat]

theorem columnAt_add_ofNat {n : ℕ} : columnAt (charAt + .ofNat n) k = columnAt charAt (n + k) := by
  rw [← toNat_add_ofNat, UInt32.add_assoc, ← UInt32.ofNat_add, toNat_add_ofNat]

end Column

section Loops

variable {n : UInt32}

/-- The second loop stops at the character with which the password is too long, or at the end. -/
theorem parsePassword_eq :
    ∀ (chars password : Str) (escapeNext : Bool) (charAt : UInt32), fits password →
      parsePassword n password escapeNext charAt chars
        = match tooLongFrom password escapeNext chars with
          | some k => .error (.passwordTooLong n.toNat (columnAt charAt k))
          | none => .ok (password ++ unescape escapeNext chars, charAt + .ofNat chars.length)
  | [], password, escapeNext, charAt, h => by
    rw [tooLongFrom_nil h]
    cases escapeNext <;> simp [parsePassword]
  | c :: chars, password, escapeNext, charAt, h => by
    by_cases hc : escapeNext = true ∨ c ≠ escapeChar
    · have hparse : parsePassword n password escapeNext charAt (c :: chars)
          = pushField (.passwordTooLong n.toNat (charAt + 1).toNat) password c >>= fun password =>
            parsePassword n password false (charAt + 1) chars := by
        rcases hc with rfl | hc
        · simp [parsePassword]
        · cases escapeNext <;> simp [parsePassword, hc]
      rw [hparse, pushField_eq, tooLongFrom_keep h hc, unescape_keep hc]
      split_ifs with hfits
      · refine (parsePassword_eq chars (password ++ [c]) false (charAt + 1) hfits).trans ?_
        rcases tooLongFrom (password ++ [c]) false chars with _ | k
        · simp [add_one_add_ofNat]
        · simp [columnAt_add_one]
      · rw [tooLongFrom_of_not_fits hfits, ← columnAt_one]
        rfl
    · obtain ⟨hescape, hslash⟩ := not_or.1 hc
      obtain rfl : escapeNext = false := by simpa using hescape
      obtain rfl : c = escapeChar := not_not.1 hslash
      rw [tooLongFrom_escape h, unescape_escape]
      refine (parsePassword_eq chars password true (charAt + 1) h).trans ?_
      rcases tooLongFrom password true chars with _ | k
      · simp [add_one_add_ofNat]
      · simp [columnAt_add_one]

/-- The first loop stops at the character with which the username is too long, past the colon, or at
the end. -/
theorem parseUsername_eq :
    ∀ (chars username : Str) (escapeNext : Bool) (charAt : UInt32), fits username →
      parseUsername n username escapeNext charAt chars
        = match tooLongFrom username escapeNext (writtenUsername escapeNext chars),
            chars.drop (writtenUsername escapeNext chars).length with
          | some k, _ => .error (.usernameTooLong n.toNat (columnAt charAt k))
          | none, [] => .error (.expectedColonGotEOF n.toNat (columnAt charAt chars.length))
          | none, _ :: rest =>
            .ok (username ++ unescape escapeNext (writtenUsername escapeNext chars),
              charAt + .ofNat ((writtenUsername escapeNext chars).length + 1), rest)
  | [], username, escapeNext, charAt, h => by
    have hwritten : writtenUsername escapeNext [] = [] := by cases escapeNext <;> rfl
    rw [hwritten, tooLongFrom_nil h, List.length_nil, columnAt_zero]
    cases escapeNext <;> rfl
  | c :: chars, username, escapeNext, charAt, h => by
    by_cases hc : escapeNext = true ∨ c ≠ escapeChar ∧ c ≠ ':'
    · have hc' : escapeNext = true ∨ c ≠ escapeChar := hc.imp_right And.left
      have hparse : parseUsername n username escapeNext charAt (c :: chars)
          = pushField (.usernameTooLong n.toNat (charAt + 1).toNat) username c >>= fun username =>
            parseUsername n username false (charAt + 1) chars := by
        rcases hc with rfl | ⟨hslash, hcolon⟩
        · simp [parseUsername]
        · cases escapeNext <;> simp [parseUsername, hslash, hcolon]
      rw [hparse, pushField_eq, writtenUsername_keep hc, tooLongFrom_keep h hc', unescape_keep hc']
      split_ifs with hfits
      · refine (parseUsername_eq chars (username ++ [c]) false (charAt + 1) hfits).trans ?_
        simp only [List.length_cons, List.drop_succ_cons]
        rcases tooLongFrom (username ++ [c]) false (writtenUsername false chars) with _ | k <;>
          rcases chars.drop (writtenUsername false chars).length with _ | ⟨d, rest⟩ <;>
          simp [columnAt_add_one, add_one_add_ofNat, -UInt32.ofNat_add]
      · rw [tooLongFrom_of_not_fits hfits, ← columnAt_one]
        rfl
    · simp only [not_or, Bool.not_eq_true, not_and_or, not_not] at hc
      obtain ⟨rfl, hc⟩ := hc
      by_cases hescape : c = escapeChar
      · subst hescape
        rw [writtenUsername_escape, tooLongFrom_escape h, unescape_escape]
        refine (parseUsername_eq chars username true (charAt + 1) h).trans ?_
        simp only [List.length_cons, List.drop_succ_cons]
        rcases tooLongFrom username true (writtenUsername true chars) with _ | k <;>
          rcases chars.drop (writtenUsername true chars).length with _ | ⟨d, rest⟩ <;>
          simp [columnAt_add_one, add_one_add_ofNat, -UInt32.ofNat_add]
      · obtain rfl : c = ':' := hc.resolve_left hescape
        have hwritten : writtenUsername false (':' :: chars) = [] := rfl
        have hparse : parseUsername n username false charAt (':' :: chars)
            = .ok (username, charAt + 1, chars) := rfl
        rw [hwritten, tooLongFrom_nil h, hparse]
        simp

end Loops

section Line

variable {n charAt : UInt32} {username : Str} {user : UserData}

/-- What follows the role character, or the first rule that it breaks. -/
def credentialsGrammar (role : UserRole) (lineNumber charAt : UInt32) (chars : Str) :
    Except UsersLoadingError (Str × UserData) :=
  let username := writtenUsername false chars
  match tooLongFrom [] false username, chars.drop username.length with
  | some k, _ => .error (.usernameTooLong lineNumber.toNat (columnAt charAt k))
  | none, [] => .error (.expectedColonGotEOF lineNumber.toNat (columnAt charAt chars.length))
  | none, _ :: password =>
    if unescape false username = [] then
      .error (.emptyUsername lineNumber.toNat (columnAt charAt (username.length + 1)))
    else
      match tooLongFrom [] false password with
      | some k =>
        .error (.passwordTooLong lineNumber.toNat (columnAt charAt (username.length + 1 + k)))
      | none =>
        if unescape false password = [] then
          .error (.emptyPassword lineNumber.toNat
            (columnAt charAt (username.length + 1 + password.length)))
        else .ok (unescape false username, ⟨unescape false password, role⟩)

theorem parseCredentials_eq (role : UserRole) (n charAt : UInt32) (chars : Str) :
    parseCredentials role n charAt chars = credentialsGrammar role n charAt chars := by
  unfold parseCredentials credentialsGrammar
  rw [parseUsername_eq chars [] false charAt fits_nil]
  dsimp only
  rcases tooLongFrom [] false (writtenUsername false chars) with _ | k
  · rcases chars.drop (writtenUsername false chars).length with _ | ⟨d, password⟩
    · rfl
    · simp only [bind, Except.bind, List.nil_append, toNat_add_ofNat]
      by_cases hempty : unescape false (writtenUsername false chars) = []
      · rw [if_pos hempty, if_pos hempty]
      · rw [if_neg hempty, if_neg hempty, parsePassword_eq password [] false _ fits_nil]
        rcases tooLongFrom [] false password with _ | k
        · simp only [toNat_add_ofNat, columnAt_add_ofNat, List.nil_append]
        · simp only [columnAt_add_ofNat]
  · rfl

theorem parseCredentials_eq_ok {role : UserRole} {chars : Str} :
    parseCredentials role n charAt chars = .ok (username, user)
      ↔ ∃ rest, splitUsername false chars = some (username, rest)
        ∧ user = ⟨unescape false rest, role⟩ ∧ username ≠ [] ∧ user.password ≠ []
        ∧ fits username ∧ fits user.password := by
  have hname := tooLongFrom_eq_none (writtenUsername false chars) [] false
  rw [parseCredentials_eq, splitUsername_eq, credentialsGrammar]
  rcases hlong : tooLongFrom [] false (writtenUsername false chars) with _ | k <;>
    rw [hlong] at hname <;>
    rcases chars.drop (writtenUsername false chars).length with _ | ⟨d, password⟩ <;>
    simp only [List.tail?_nil, List.tail?_cons, Option.map_none, Option.map_some, reduceCtorEq,
      false_and, exists_false, Option.some.injEq, Prod.mk.injEq]
  · have hpass := tooLongFrom_eq_none password [] false
    constructor
    · intro h
      rcases hlong' : tooLongFrom [] false password with _ | k <;> rw [hlong'] at h hpass
      · split_ifs at h with hempty hempty'
        simp only [Except.ok.injEq, Prod.mk.injEq] at h
        obtain ⟨rfl, rfl⟩ := h
        exact ⟨password, ⟨rfl, rfl⟩, rfl, hempty, hempty', hname.1 rfl, hpass.1 rfl⟩
      · split_ifs at h
    · rintro ⟨rest, ⟨rfl, rfl⟩, rfl, hempty, hempty', -, hfits⟩
      have hempty'' : unescape false password ≠ [] := hempty'
      rw [if_neg hempty, hpass.2 hfits]
      simp [hempty'']
  · simp only [false_iff, not_exists, not_and, and_imp]
    rintro rest rfl - - - - hfits
    exact absurd (hname.2 hfits) (by simp)

def UserRole.ofRoleChar (c : Char) : Option UserRole :=
  if c = adminPrefixChar then some .admin
  else if c = regularPrefixChar then some .regular
  else none

/-- A line of the users file that is not blank: a comment, a user, or the first rule that it
breaks. -/
def lineGrammar (lineNumber charAt : UInt32) :
    Str → Except UsersLoadingError (Option (Str × UserData))
  | [] => .error (.expectedRoleCharGotEOF lineNumber.toNat (columnAt charAt 0))
  | c :: chars =>
    if c = commentPrefixChar then .ok none
    else
      match UserRole.ofRoleChar c with
      | none => .error (.invalidRoleChar lineNumber.toNat (columnAt charAt 1) c)
      | some role => (credentialsGrammar role lineNumber (charAt + 1) chars).map some

/-- The parser reads a line as the grammar says, and where a rule is broken it says at which
character: the column is the starting one and the characters read, wherever that is a `u32`. -/
theorem parseLineIntoUser_eq_grammar (s : Str) (lineNumber charAt : UInt32) :
    parseLineIntoUser s lineNumber charAt = lineGrammar lineNumber charAt s
      ∧ ∀ read, charAt.toNat + read < 2 ^ 32 → columnAt charAt read = charAt.toNat + read := by
  refine ⟨?_, fun read => columnAt_of_lt⟩
  rcases s with _ | ⟨c, chars⟩
  · rw [lineGrammar, columnAt_zero]
    rfl
  simp only [parseLineIntoUser, lineGrammar, UserRole.ofRoleChar, parseCredentials_eq, columnAt_one]
  split_ifs <;> rfl

/-- The lines that are users, and which. -/
theorem parseLineIntoUser_eq_ok {s : Str} :
    parseLineIntoUser s n charAt = .ok (some (username, user))
      ↔ ∃ chars rest, s = user.role.intoRoleChar :: chars
        ∧ splitUsername false chars = some (username, rest) ∧ user.password = unescape false rest
        ∧ username ≠ [] ∧ user.password ≠ [] ∧ fits username ∧ fits user.password := by
  have hmap : ∀ role chars,
      (parseCredentials role n (charAt + 1) chars).map some = .ok (some (username, user))
        ↔ parseCredentials role n (charAt + 1) chars = .ok (username, user) := by
    intro role chars
    rcases parseCredentials role n (charAt + 1) chars with e | p <;> simp [Except.map]
  constructor
  · intro h
    rcases s with _ | ⟨c, chars⟩
    · simp [parseLineIntoUser] at h
    simp only [parseLineIntoUser] at h
    split_ifs at h with hcomment hadmin hregular
    · simp at h
    · obtain ⟨rest, hsplit, huser, h⟩ := parseCredentials_eq_ok.1 ((hmap _ _).1 h)
      exact ⟨chars, rest, by rw [huser, hadmin]; rfl, hsplit, by rw [huser], h⟩
    · obtain ⟨rest, hsplit, huser, h⟩ := parseCredentials_eq_ok.1 ((hmap _ _).1 h)
      exact ⟨chars, rest, by rw [huser, hregular]; rfl, hsplit, by rw [huser], h⟩
  · rintro ⟨chars, rest, rfl, hsplit, hpassword, h⟩
    obtain ⟨password, role⟩ := user
    dsimp only at hpassword
    have hok := (hmap role chars).2 (parseCredentials_eq_ok.2 ⟨rest, hsplit, by rw [hpassword], h⟩)
    cases role <;> exact hok

end Line

section Representable

/-- A line without a newline is read as just this user. -/
def Representable (username : Str) (user : UserData) : Prop :=
  ∃ line, '\n' ∉ line ∧ ∀ lineNumber charAt,
    parseLineIntoUser line lineNumber charAt = .ok (some (username, user))

def escapeAll (s : Str) : Str := s.flatMap fun c => [escapeChar, c]

theorem unescape_escapeAll : ∀ s : Str, unescape false (escapeAll s) = s
  | [] => rfl
  | c :: s => congrArg (c :: ·) (unescape_escapeAll s)

theorem splitUsername_escapeAll (rest : Str) :
    ∀ s : Str, splitUsername false (escapeAll s ++ ':' :: rest) = some (s, rest)
  | [] => rfl
  | c :: s => by
    have ih := splitUsername_escapeAll rest s
    show (splitUsername false (escapeAll s ++ ':' :: rest)).map _ = _
    rw [ih]
    rfl

theorem mem_of_mem_unescape {c : Char} :
    ∀ {s : Str} {escapeNext : Bool}, c ∈ unescape escapeNext s → c ∈ s
  | [], escapeNext, h => by cases escapeNext <;> simp [unescape] at h
  | d :: s, true, h => by
    simp only [unescape, List.mem_cons] at h
    exact List.mem_cons.2 (h.imp_right mem_of_mem_unescape)
  | d :: s, false, h => by
    unfold unescape at h
    split_ifs at h
    · exact List.mem_cons_of_mem _ (mem_of_mem_unescape h)
    · exact List.mem_cons.2 ((List.mem_cons.1 h).imp_right mem_of_mem_unescape)

theorem mem_of_splitUsername {c : Char} :
    ∀ {s : Str} {escapeNext : Bool} {username rest : Str},
      splitUsername escapeNext s = some (username, rest) → c ∈ username ∨ c ∈ rest → c ∈ s
  | [], escapeNext, _, _, h, _ => by cases escapeNext <;> simp [splitUsername] at h
  | d :: s, escapeNext, username, rest, h, hc => by
    have hmap : (splitUsername false s).map (fun p => (d :: p.1, p.2)) = some (username, rest) →
        c ∈ d :: s := by
      intro h
      obtain ⟨⟨name, rest'⟩, hname, heq⟩ := Option.map_eq_some_iff.1 h
      simp only [Prod.mk.injEq] at heq
      obtain ⟨rfl, rfl⟩ := heq
      rcases hc with hc | hc
      · exact List.mem_cons.2 ((List.mem_cons.1 hc).imp_right fun hc =>
          mem_of_splitUsername hname (.inl hc))
      · exact List.mem_cons_of_mem _ (mem_of_splitUsername hname (.inr hc))
    cases escapeNext with
    | true => exact hmap h
    | false =>
      unfold splitUsername at h
      split_ifs at h
      · exact List.mem_cons_of_mem _ (mem_of_splitUsername h hc)
      · simp only [Option.some.injEq, Prod.mk.injEq] at h
        obtain ⟨rfl, rfl⟩ := h
        exact List.mem_cons_of_mem _ (hc.resolve_left List.not_mem_nil)
      · exact hmap h

/-- Characters at the end that are no escapes are taken as they are, even the first of them. -/
theorem unescape_append {t : Str} (ht : escapeChar ∉ t) :
    ∀ (s : Str) (escapeNext : Bool), unescape escapeNext (s ++ t) = unescape escapeNext s ++ t
  | [], escapeNext => by
    induction t generalizing escapeNext with
    | nil => rw [List.append_nil, unescape_nil, List.append_nil]
    | cons c t ih =>
      rw [List.mem_cons, not_or] at ht
      have hrest : unescape false t = t := by simpa using ih ht.2 false
      rw [List.nil_append, unescape_keep (.inr (Ne.symm ht.1)), hrest, unescape_nil]
      rfl
  | c :: s, escapeNext => by
    rw [List.cons_append]
    by_cases hc : escapeNext = true ∨ c ≠ escapeChar
    · rw [unescape_keep hc, unescape_keep hc, unescape_append ht s false, List.cons_append]
    · simp only [not_or, Bool.not_eq_true, not_not] at hc
      obtain ⟨rfl, rfl⟩ := hc
      rw [unescape_escape, unescape_escape, unescape_append ht s true]

theorem splitUsername_of_notMem : ∀ {t : Str} (escapeNext : Bool), ':' ∉ t →
    splitUsername escapeNext t = none
  | [], escapeNext, _ => by cases escapeNext <;> rfl
  | c :: t, escapeNext, h => by
    rw [List.mem_cons, not_or] at h
    have ih := fun escapeNext => splitUsername_of_notMem escapeNext h.2
    cases escapeNext <;> simp [splitUsername, ih, Ne.symm h.1]

/-- Characters at the end that are no colons belong to the password. -/
theorem splitUsername_append {t : Str} (ht : ':' ∉ t) :
    ∀ (s : Str) (escapeNext : Bool), splitUsername escapeNext (s ++ t)
      = (splitUsername escapeNext s).map fun p => (p.1, p.2 ++ t)
  | [], escapeNext => by
    rw [List.nil_append, splitUsername_of_notMem escapeNext ht]
    cases escapeNext <;> rfl
  | c :: s, true => by
    simp only [List.cons_append, splitUsername, splitUsername_append ht s, Option.map_map]
    rfl
  | c :: s, false => by
    simp only [List.cons_append, splitUsername, splitUsername_append ht s]
    split_ifs
    · rfl
    · rfl
    · rw [Option.map_map, Option.map_map]
      rfl

theorem newline_notMem_escapeAll {s : Str} (h : '\n' ∉ s) : '\n' ∉ escapeAll s := by
  simp only [escapeAll, List.mem_flatMap, List.mem_cons, List.not_mem_nil, or_false, not_exists,
    not_and, not_or]
  exact fun c hc => ⟨by decide, fun heq => h (heq ▸ hc)⟩

/-- The users that a line can stand for. -/
theorem representable_iff {username : Str} {user : UserData} :
    Representable username user
      ↔ (username ≠ [] ∧ '\n' ∉ username ∧ fits username)
        ∧ user.password ≠ [] ∧ '\n' ∉ user.password ∧ fits user.password := by
  constructor
  · rintro ⟨line, hline, hparse⟩
    obtain ⟨chars, rest, rfl, hsplit, hpassword, hname, hpass, hfits, hfits'⟩ :=
      parseLineIntoUser_eq_ok.1 (hparse 1 0)
    have hchars : '\n' ∉ chars := fun h => hline (List.mem_cons_of_mem _ h)
    refine ⟨⟨hname, fun h => hchars (mem_of_splitUsername hsplit (.inl h)), hfits⟩, hpass, ?_,
      hfits'⟩
    rw [hpassword]
    exact fun h => hchars (mem_of_splitUsername hsplit (.inr (mem_of_mem_unescape h)))
  · rintro ⟨⟨hname, hnew, hfits⟩, hpass, hnew', hfits'⟩
    refine ⟨user.role.intoRoleChar :: (escapeAll username ++ ':' :: escapeAll user.password), ?_,
      fun n k => parseLineIntoUser_eq_ok.2 ⟨_, escapeAll user.password, rfl,
        splitUsername_escapeAll _ _, (unescape_escapeAll _).symm, hname, hpass, hfits, hfits'⟩⟩
    simp only [List.mem_cons, List.mem_append, not_or]
    refine ⟨?_, newline_notMem_escapeAll hnew, by decide, newline_notMem_escapeAll hnew'⟩
    cases user.role <;> decide

end Representable

end DustDevil

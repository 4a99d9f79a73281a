import DustDevil.Proofs.Users

/-!
# Saving users and loading them again

`save_to` puts back the escapes of a username and none of a password's, so what a saved file loads
as is the same users with their passwords unescaped once more. The two agree exactly when no
password holds a `\` (`roundtrips_iff`).
-/

namespace DustDevil

open Wire

namespace UserManager

/-! ## A saved line -/

section Line

/-- A username with a `\` before each `\` and each colon. -/
def escapeName : Str → Str
  | [] => []
  | c :: s =>
    if c = escapeChar ∨ c = ':' then escapeChar :: c :: escapeName s else c :: escapeName s

/-- The line `save_to` writes, as text. -/
def savedLine (username : Str) (user : UserData) : Str :=
  user.role.intoRoleChar :: (escapeName username ++ ':' :: user.password)

theorem escapeBytes_append {bytes : List UInt8} (rest : List UInt8)
    (h : ∀ b ∈ bytes, 128 ≤ b.toNat) : escapeBytes (bytes ++ rest) = bytes ++ escapeBytes rest := by
  induction bytes with
  | nil => rfl
  | cons b bytes ih =>
    have hb := h b List.mem_cons_self
    have hne : ¬ (b = 0x5C ∨ b = 0x3A) := by
      rintro (rfl | rfl) <;> exact absurd hb (by decide)
    rw [List.cons_append, escapeBytes, if_neg hne, ih fun b hb => h b (List.mem_cons_of_mem _ hb)]
    rfl

theorem escapeBytes_utf8 : ∀ s : Str, escapeBytes (utf8 s) = utf8 (escapeName s)
  | [] => rfl
  | c :: s => by
    have ih := escapeBytes_utf8 s
    rw [utf8_cons, escapeName]
    rcases Nat.lt_or_ge c.toNat 128 with hc | hc
    · rw [encodeChar_of_lt hc, List.singleton_append, escapeBytes, ih]
      have hbyte : ∀ d : Char, d.toNat < 128 →
          (UInt8.ofNat c.toNat = UInt8.ofNat d.toNat ↔ c = d) := by
        intro d hd
        have := mem_encodeChar_iff (c := d) hc
        rwa [encodeChar_of_lt hd, List.mem_singleton] at this
      have hslash : UInt8.ofNat c.toNat = 0x5C ↔ c = escapeChar := hbyte '\\' (by decide)
      have hcolon : UInt8.ofNat c.toNat = 0x3A ↔ c = ':' := hbyte ':' (by decide)
      simp only [hslash, hcolon]
      split_ifs
      · rw [utf8_cons, utf8_cons, encodeChar_of_lt hc]
        rfl
      · rw [utf8_cons, encodeChar_of_lt hc]
        rfl
    · have hne : ¬ (c = escapeChar ∨ c = ':') := by
        rintro (rfl | rfl) <;> exact absurd hc (by decide)
      rw [escapeBytes_append _ fun b hb => le_of_mem_encodeChar hc hb, ih, if_neg hne, utf8_cons]

theorem saveUser_eq (username : Str) (user : UserData) :
    saveUser username user = utf8 (savedLine username user) := by
  unfold saveUser savedLine
  rw [utf8_cons, utf8_append, utf8_cons, escapeBytes_utf8]
  cases user.role <;> rfl

theorem length_escapeBytes_le : ∀ bytes : List UInt8, (escapeBytes bytes).length ≤ 2 * bytes.length
  | [] => by simp [escapeBytes]
  | b :: bytes => by
    have ih := length_escapeBytes_le bytes
    unfold escapeBytes
    split_ifs <;> simp only [List.length_cons] <;> omega

theorem splitUsername_escapeName (rest : Str) :
    ∀ s : Str, splitUsername false (escapeName s ++ ':' :: rest) = some (s, rest)
  | [] => rfl
  | c :: s => by
    have ih := splitUsername_escapeName rest s
    unfold escapeName
    split_ifs with hc
    · rw [List.cons_append, List.cons_append, splitUsername, if_pos rfl, splitUsername, ih]
      rfl
    · rw [not_or] at hc
      rw [List.cons_append, splitUsername, if_neg hc.1, if_neg hc.2, ih]
      rfl

theorem mem_escapeName {c : Char} (hc : c ≠ escapeChar) : ∀ s : Str, c ∈ escapeName s ↔ c ∈ s
  | [] => Iff.rfl
  | d :: s => by
    unfold escapeName
    split_ifs <;> simp [mem_escapeName hc s, hc]

variable {username : Str} {user : UserData} (h : Representable username user)
include h

theorem newline_notMem_saveUser : newline ∉ saveUser username user := by
  obtain ⟨⟨-, hname, -⟩, -, hpass, -⟩ := representable_iff.1 h
  rw [saveUser_eq]
  refine fun hmem => ?_
  have hline := (mem_utf8_iff (a := '\n') (by decide) _).1 hmem
  simp only [savedLine, List.mem_cons, List.mem_append, mem_escapeName (c := '\n') (by decide)]
    at hline
  rcases hline with hrole | hline | hcolon | hline
  · cases hr : user.role <;> rw [hr] at hrole <;> exact absurd hrole (by decide)
  · exact hname hline
  · exact absurd hcolon (by decide)
  · exact hpass hline

theorem length_saveUser_lt : (saveUser username user).length < bufferCapacity := by
  obtain ⟨⟨-, -, hname⟩, -, -, hpass⟩ := representable_iff.1 h
  have h1 := length_utf8_le_of_fits hname
  have h2 := length_utf8_le_of_fits hpass
  have h3 := length_escapeBytes_le (utf8 username)
  simp only [saveUser, List.length_cons, List.length_append, bufferCapacity]
  omega

end Line

/-! ## A saved line loaded again -/

section Reload

variable {username : Str} {user : UserData}

/-- A user as its saved line is read. -/
def reloaded (user : UserData) : UserData := ⟨unescape false user.password, user.role⟩

theorem reloaded_of_notMem (h : escapeChar ∉ user.password) : reloaded user = user := by
  have hunescape : ∀ {s : Str}, escapeChar ∉ s → unescape false s = s := by
    intro s hs
    induction s with
    | nil => rfl
    | cons c s ih =>
      simp only [List.mem_cons, not_or] at hs
      rw [unescape, if_neg (Ne.symm hs.1), ih hs.2]
  rw [reloaded, hunescape h]

theorem length_unescape_le : ∀ (s : Str) (escapeNext : Bool),
    (unescape escapeNext s).length ≤ s.length
  | [], escapeNext => by cases escapeNext <;> simp [unescape]
  | c :: s, true => by
    have := length_unescape_le s false
    simp only [unescape, List.length_cons]
    omega
  | c :: s, false => by
    have hfalse := length_unescape_le s false
    have htrue := length_unescape_le s true
    rw [unescape]
    split_ifs <;> simp only [List.length_cons] <;> omega

theorem notMem_of_unescape_eq : ∀ {s : Str}, unescape false s = s → escapeChar ∉ s
  | [], _ => by simp
  | c :: s, h => by
    rw [unescape] at h
    split_ifs at h with hc
    · have hlen := congrArg List.length h
      have := length_unescape_le s true
      rw [List.length_cons] at hlen
      omega
    · rw [List.cons.injEq] at h
      simp only [List.mem_cons, not_or]
      exact ⟨Ne.symm hc, notMem_of_unescape_eq h.2⟩

theorem parseLineIntoUser_savedLine (n charAt : UInt32) :
    parseLineIntoUser (savedLine username user) n charAt
      = (parseCredentials user.role n (charAt + 1)
          (escapeName username ++ ':' :: user.password)).map some := by
  cases hr : user.role <;> simp [savedLine, hr] <;> rfl

/-- A saved line is read as a user: its role character is neither a space nor a comment's. -/
theorem loadLine_savedLine (n : UInt32) (m : UserManager) :
    loadLine (savedLine username user) n m
      = match parseCredentials user.role n 1
          (escapeName username ++ ':' :: user.password) with
        | .ok (username, user) => (.ok (), m.load username user)
        | .error e => (.error (.err e), m) := by
  have htrim : (trimStart (savedLine username user) 0 : Proc UserManager UsersLoadingError _)
      = pure (savedLine username user, 0) := by
    cases hr : user.role <;> simp only [savedLine, hr] <;> rfl
  rw [loadLine, htrim]
  have hne : savedLine username user ≠ [] := by simp [savedLine]
  simp only [Proc.bind_apply, Proc.pure_apply, if_neg hne, parseLineIntoUser_savedLine,
    UInt32.zero_add]
  rcases parseCredentials user.role n 1 (escapeName username ++ ':' :: user.password)
    with e | ⟨username', user'⟩ <;> rfl

theorem parseCredentials_savedLine (h : Representable username user) {n charAt : UInt32}
    {p : Str × UserData} :
    parseCredentials user.role n charAt (escapeName username ++ ':' :: user.password) = .ok p
      ↔ p = (username, reloaded user) ∧ (reloaded user).password ≠ []
        ∧ fits (reloaded user).password := by
  obtain ⟨⟨hname, -, hfits⟩, -⟩ := representable_iff.1 h
  obtain ⟨username', user'⟩ := p
  rw [parseCredentials_eq_ok, splitUsername_escapeName]
  constructor
  · rintro ⟨rest, hsplit, rfl, -, hpass, -, hfits'⟩
    simp only [Option.some.injEq, Prod.mk.injEq] at hsplit
    obtain ⟨rfl, rfl⟩ := hsplit
    exact ⟨rfl, hpass, hfits'⟩
  · rintro ⟨heq, hpass, hfits'⟩
    simp only [Prod.mk.injEq] at heq
    obtain ⟨rfl, rfl⟩ := heq
    exact ⟨_, rfl, rfl, hname, hpass, hfits, hfits'⟩

theorem handleLine_saveUser (n : UInt32) (m : UserManager) :
    handleLine loadLine (saveUser username user) n m
      = (loadLine (savedLine username user) n).mapErr (.cancelled n) m := by
  rw [handleLine, saveUser_eq, fromUtf8_utf8]

theorem handleLine_saveUser_ok (h : Representable username user) {n : UInt32} {m m' : UserManager}
    (hok : handleLine loadLine (saveUser username user) n m = (.ok (), m')) :
    m' = m.load username (reloaded user) := by
  rw [handleLine_saveUser] at hok
  have hload := Proc.mapErr_eq_ok hok
  rw [loadLine_savedLine] at hload
  split at hload
  · rename_i username' user' hparse
    obtain ⟨heq, -⟩ := (parseCredentials_savedLine h).1 hparse
    simp only [Prod.mk.injEq] at heq hload
    rw [← hload.2, heq.1, heq.2]
  · simp at hload

theorem handleLine_saveUser_of_notMem (h : Representable username user)
    (hescape : escapeChar ∉ user.password) (n : UInt32) (m : UserManager) :
    handleLine loadLine (saveUser username user) n m = (.ok (), m.load username user) := by
  obtain ⟨-, hpass, -, hfits⟩ := representable_iff.1 h
  have hsame := reloaded_of_notMem hescape
  have hparse : parseCredentials user.role n 1 (escapeName username ++ ':' :: user.password)
      = .ok (username, user) := by
    rw [parseCredentials_savedLine h, hsame]
    exact ⟨rfl, hpass, hfits⟩
  rw [handleLine_saveUser]
  exact Proc.mapErr_ok (by rw [loadLine_savedLine, hparse]) _

end Reload

/-! ## The saved file -/

section File

def savedLines (users : List (Str × UserData)) : List (List UInt8) :=
  users.map fun p => saveUser p.1 p.2

def loadAll (m : UserManager) (users : List (Str × UserData)) : UserManager :=
  users.foldl (fun m p => m.load p.1 p.2) m

theorem saveUsers_eq : ∀ users : List (Str × UserData),
    saveUsers true users = [newline].intercalate (savedLines users)
      ∧ (users ≠ [] → saveUsers false users = newline :: saveUsers true users)
  | [] => ⟨rfl, fun h => absurd rfl h⟩
  | [(username, user)] => ⟨by simp [saveUsers, savedLines], fun _ => rfl⟩
  | (username, user) :: p :: users => by
    obtain ⟨h1, h2⟩ := saveUsers_eq (p :: users)
    refine ⟨?_, fun _ => rfl⟩
    rw [saveUsers, h2 (by simp), h1]
    simp [savedLines]

theorem splitOn_saveUsers {users : List (Str × UserData)} (hne : users ≠ [])
    (h : ∀ p ∈ users, Representable p.1 p.2) :
    (saveUsers true users).splitOn newline = savedLines users := by
  rw [(saveUsers_eq users).1, List.splitOn_intercalate]
  · intro line hline
    obtain ⟨p, hp, rfl⟩ := List.mem_map.1 hline
    exact newline_notMem_saveUser (h p hp)
  · simpa [savedLines] using hne

theorem processPieces_savedLines_cons {p : Str × UserData} {users : List (Str × UserData)}
    (h : Representable p.1 p.2) (n : UInt32) :
    processPieces loadLine n (savedLines (p :: users)) .eof
      = handleLine loadLine (saveUser p.1 p.2) n >>= fun _ =>
          if users = [] then pure (n + 1)
          else processPieces loadLine (n + 1) (savedLines users) .eof := by
  have hlen := length_saveUser_lt h
  have hcons : savedLines (p :: users) = saveUser p.1 p.2 :: savedLines users := rfl
  rw [hcons]
  by_cases hne : users = []
  · subst hne
    have hline : saveUser p.1 p.2 ≠ [] := by simp [saveUser]
    rw [savedLines, List.map_nil, processPieces_last _ _ _ hlen, atEnding, lastLine, if_pos hline,
      if_pos rfl]
  · rw [processPieces_cons _ _ _ hlen (by simpa [savedLines] using hne), if_neg hne]

/-- If the saved lines are accepted, each user has been loaded as its line is read. -/
theorem processPieces_savedLines_ok :
    ∀ {users : List (Str × UserData)} {n k : UInt32} {m m' : UserManager}, users ≠ [] →
      (∀ p ∈ users, Representable p.1 p.2) →
      processPieces loadLine n (savedLines users) .eof m = (.ok k, m') →
      m' = m.loadAll (users.map fun p => (p.1, reloaded p.2))
  | p :: users, n, k, m, m', _, h, hok => by
    have hp := h p List.mem_cons_self
    rw [processPieces_savedLines_cons hp] at hok
    obtain ⟨_, m1, hline, hok⟩ := Proc.bind_eq_ok hok
    have hload := handleLine_saveUser_ok hp hline
    by_cases hne : users = []
    · subst hne
      rw [if_pos rfl, Proc.pure_apply, Prod.mk.injEq] at hok
      rw [← hok.2, hload]
      rfl
    · rw [if_neg hne] at hok
      rw [processPieces_savedLines_ok hne (fun q hq => h q (List.mem_cons_of_mem _ hq)) hok, hload]
      rfl

/-- With nothing to unescape in the passwords, the saved lines are accepted. -/
theorem processPieces_savedLines :
    ∀ {users : List (Str × UserData)} (n : UInt32) (m : UserManager), users ≠ [] →
      (∀ p ∈ users, Representable p.1 p.2 ∧ escapeChar ∉ p.2.password) →
      ∃ k, processPieces loadLine n (savedLines users) .eof m = (.ok k, m.loadAll users)
  | p :: users, n, m, _, h => by
    obtain ⟨hp, hescape⟩ := h p List.mem_cons_self
    rw [processPieces_savedLines_cons hp,
      Proc.bind_ok (handleLine_saveUser_of_notMem hp hescape n m)]
    by_cases hne : users = []
    · subst hne
      exact ⟨n + 1, rfl⟩
    · rw [if_neg hne]
      exact processPieces_savedLines (n + 1) _ hne fun q hq => h q (List.mem_cons_of_mem _ hq)

theorem lookup_loadAll_of_notMem {username : Str} :
    ∀ {users : List (Str × UserData)} (m : UserManager), username ∉ users.map Prod.fst →
      (m.loadAll users).users.lookup username = m.users.lookup username
  | [], _, _ => rfl
  | p :: users, m, h => by
    simp only [List.map_cons, List.mem_cons, not_or] at h
    exact (lookup_loadAll_of_notMem (m.load p.1 p.2) h.2).trans (Finmap.lookup_insert_of_ne _ h.1)

theorem lookup_loadAll {username : Str} {user : UserData} :
    ∀ {users : List (Str × UserData)} (m : UserManager), (users.map Prod.fst).Nodup →
      (username, user) ∈ users → (m.loadAll users).users.lookup username = some user
  | p :: users, m, hnodup, h => by
    rw [List.map_cons, List.nodup_cons] at hnodup
    rcases List.mem_cons.1 h with rfl | h
    · exact (lookup_loadAll_of_notMem (m.load username user) hnodup.1).trans
        (Finmap.lookup_insert _)
    · exact lookup_loadAll (m.load p.1 p.2) hnodup.2 h

end File

/-! ## The round trip -/

section Roundtrip

variable {ρ : Type} [AsyncRead ρ] {r r' : ρ} {m : UserManager}

/-- `order` lists the map's users, each once, as the map's own iteration may. -/
def IsOrder (users : UserMap) (order : List (Str × UserData)) : Prop :=
  (order.map Prod.fst).Nodup
    ∧ ∀ username user, (username, user) ∈ order ↔ users.lookup username = some user

/-- Whatever order the map gives its users in and however the saved file is read, it loads as the
same users with the same admin count. -/
def Roundtrips (m : UserManager) : Prop :=
  ∀ order, IsOrder m.users order → ∀ (ρ : Type) [AsyncRead ρ] (r : ρ),
    unread r = (saveTo order).1 → ending r = .eof →
    ∃ m' r', UserManager.from r = (.ok m', r') ∧ m'.users = m.users
      ∧ m'.adminCount = m.adminCount

theorem exists_isOrder (users : UserMap) : ∃ order, IsOrder users order := by
  induction users using Finmap.induction_on with
  | _ a =>
    refine ⟨a.entries.map fun e => (e.1, e.2), ?_, fun username user => ?_⟩
    · have hkeys : (a.entries.map fun e => (e.1, e.2)).map Prod.fst = a.entries.keys := by
        simp [List.keys]
      rw [hkeys]
      exact a.nodupKeys
    · rw [Finmap.lookup_toFinmap, AList.lookup, ← Option.mem_def,
        List.mem_dlookup_iff a.nodupKeys, List.mem_map]
      constructor
      · rintro ⟨⟨_, _⟩, he, heq⟩
        simp only [Prod.mk.injEq] at heq
        obtain ⟨rfl, rfl⟩ := heq
        exact he
      · exact fun h => ⟨⟨username, user⟩, h, rfl⟩

theorem from_eq_ok :
    (∃ r', UserManager.from r = (.ok m, r'))
      ↔ m.users ≠ ∅ ∧ ∃ k,
        processPieces loadLine 1 ((unread r).splitOn newline) (ending r) new = (.ok k, m) := by
  obtain ⟨h1, h2⟩ := processLinesUtf8_eq loadLine r new
  rcases hlines : processLinesUtf8 loadLine (r, new) with ⟨e | k, ⟨r'', m''⟩⟩ <;>
    rw [hlines] at h1 h2 <;> dsimp only at h1 h2
  · have hmap := Proc.mapErr_error hlines loadingError
    simp only [UserManager.from, hmap, Prod.mk.injEq, reduceCtorEq, false_and, exists_false,
      false_iff, not_and, not_exists]
    intro _ k hpieces
    rw [hpieces] at h1
    simp at h1
  · have hmap := Proc.mapErr_ok hlines loadingError
    have hpieces : processPieces loadLine 1 ((unread r).splitOn newline) (ending r) new
        = (.ok k, m'') := Prod.ext h1.symm h2.symm
    simp only [hpieces, UserManager.from, hmap]
    by_cases hempty : m''.users = ∅
    · simp only [hempty, if_true, Prod.mk.injEq, reduceCtorEq, false_and, exists_false, false_iff,
        not_and, not_exists]
      rintro hne _ - rfl
      exact hne hempty
    · simp only [hempty, if_false, Prod.mk.injEq, Except.ok.injEq]
      constructor
      · rintro ⟨r', rfl, -⟩
        exact ⟨hempty, k, rfl, rfl⟩
      · rintro ⟨-, k', -, rfl⟩
        exact ⟨r'', rfl, rfl⟩

theorem isOrder_saved {users : UserMap} {order : List (Str × UserData)} (h : IsOrder users order) :
    IsOrder users (order.insertionSort fun x y => savedBefore x y) := by
  have hperm := List.perm_insertionSort (fun x y => savedBefore x y) order
  refine ⟨(hperm.map Prod.fst).nodup_iff.2 h.1, fun username user => ?_⟩
  rw [hperm.mem_iff]
  exact h.2 username user

/-- An accepted file round-trips exactly if no password holds a `\`. -/
theorem roundtrips_iff (h : UserManager.from r = (.ok m, r')) :
    Roundtrips m ↔ ∀ username user, m.users.lookup username = some user →
      escapeChar ∉ user.password := by
  have hrep := from_representable h
  have hcounted := from_counted h
  have hne : m.users ≠ ∅ := (from_eq_ok.1 ⟨r', h⟩).1
  have hsaved : ∀ {order : List (Str × UserData)}, IsOrder m.users order →
      order ≠ [] ∧ ∀ p ∈ order, Representable p.1 p.2 := by
    intro order horder
    refine ⟨?_, fun p hp => hrep p.1 p.2 ((horder.2 _ _).1 hp)⟩
    rintro rfl
    refine hne (Finmap.ext_lookup fun username => ?_)
    rcases hlookup : m.users.lookup username with _ | user
    · rfl
    · exact absurd ((horder.2 _ _).2 hlookup) List.not_mem_nil
  constructor
  · intro hround username user hlookup
    obtain ⟨order, horder⟩ := exists_isOrder m.users
    obtain ⟨m', r'', hfrom, husers, -⟩ := hround order horder Flat ⟨(saveTo order).1, .eof⟩ rfl rfl
    obtain ⟨hnodup, hmem⟩ := isOrder_saved horder
    obtain ⟨hne', hrep'⟩ := hsaved (isOrder_saved horder)
    obtain ⟨-, k, hpieces⟩ := from_eq_ok.1 ⟨r'', hfrom⟩
    have hload := processPieces_savedLines_ok hne' hrep'
      (by rw [← splitOn_saveUsers hne' hrep']; exact hpieces)
    have hold := (hmem username user).2 hlookup
    have hnew : m'.users.lookup username = some (reloaded user) := by
      rw [hload]
      refine lookup_loadAll _ ?_ (List.mem_map.2 ⟨_, hold, rfl⟩)
      simpa [Function.comp_def] using hnodup
    rw [husers, hlookup, Option.some.injEq] at hnew
    exact notMem_of_unescape_eq (congrArg UserData.password hnew).symm
  · intro hescape order horder ρ' _ saved hunread hending
    obtain ⟨hnodup, hmem⟩ := isOrder_saved horder
    obtain ⟨hne', hrep'⟩ := hsaved (isOrder_saved horder)
    obtain ⟨k, hpieces⟩ := processPieces_savedLines 1 new hne' fun p hp =>
      ⟨hrep' p hp, hescape p.1 p.2 ((hmem _ _).1 hp)⟩
    have husers : (loadAll new (order.insertionSort fun x y => savedBefore x y)).users
        = m.users := by
      apply Finmap.ext_lookup
      intro username
      rcases hlookup : m.users.lookup username with _ | user
      · refine (lookup_loadAll_of_notMem new fun hname => ?_).trans rfl
        obtain ⟨⟨_, user⟩, hp, rfl⟩ := List.mem_map.1 hname
        rw [(hmem _ _).1 hp] at hlookup
        simp at hlookup
      · exact lookup_loadAll new hnodup ((hmem _ _).2 hlookup)
    rw [← splitOn_saveUsers hne' hrep', ← hending] at hpieces
    obtain ⟨saved', hfrom⟩ := (from_eq_ok (r := saved)).2
      ⟨by rw [husers]; exact hne, _, by rw [hunread]; exact hpieces⟩
    refine ⟨_, saved', hfrom, husers, ?_⟩
    have hcounted' := from_counted hfrom
    unfold Counted at hcounted hcounted'
    rw [hcounted', hcounted, husers]

/-- A user whose password is `1\2`, escaped as the format asks. -/
def backslashFile : Flat := ⟨utf8 "@ana:1\\\\2".toList, .eof⟩

def backslashUsers : UserManager :=
  ⟨(∅ : UserMap).insert "ana".toList ⟨['1', '\\', '2'], .admin⟩, ⟨1, false⟩⟩

theorem from_backslashFile :
    UserManager.from backslashFile = (.ok backslashUsers, ⟨[], .eof⟩) := by
  decide +kernel

theorem roundtrips_iff_backslash :
    Roundtrips backslashUsers
      ↔ ∀ username user, backslashUsers.users.lookup username = some user →
        escapeChar ∉ user.password :=
  roundtrips_iff from_backslashFile

theorem isOrder_singleton (username : Str) (user : UserData) :
    IsOrder ((∅ : UserMap).insert username user) [(username, user)] := by
  refine ⟨by simp, fun username' user' => ?_⟩
  by_cases hname : username' = username
  · subst hname
    simp [eq_comm]
  · simp [hname, Finmap.lookup_insert_of_ne _ hname]

theorem not_roundtrips_backslash :
    UserManager.from backslashFile = (.ok backslashUsers, ⟨[], .eof⟩)
      ∧ ¬ Roundtrips backslashUsers := by
  refine ⟨from_backslashFile, fun h => ?_⟩
  obtain ⟨m', r', hfrom, husers, -⟩ := h _ (isOrder_singleton _ _) Flat
    ⟨(saveTo [("ana".toList, ⟨['1', '\\', '2'], .admin⟩)]).1, .eof⟩ rfl rfl
  have hsaved : UserManager.from
      (⟨(saveTo [("ana".toList, ⟨['1', '\\', '2'], .admin⟩)]).1, .eof⟩ : Flat)
        = (.ok ⟨(∅ : UserMap).insert "ana".toList ⟨['1', '2'], .admin⟩, ⟨1, false⟩⟩,
          ⟨[], .eof⟩) := by
    decide +kernel
  rw [hsaved, Prod.mk.injEq, Except.ok.injEq] at hfrom
  rw [← hfrom.1] at husers
  exact absurd husers (by decide +kernel)

end Roundtrip

end UserManager

end DustDevil

import DustDevil.Proofs.BufferSize
import DustDevil.Proofs.LoadUsers
import DustDevil.Proofs.ManagerOps
import DustDevil.Proofs.UsersFile
import DustDevil.Server.Startup

/-!
# What the command line makes of the server

Every accepted command line gives a buffer size that is not zero (`parseArguments_bufferSize`), and
no manager's call makes it zero, whether calls come one after the other or step by step among each
other (`ManagerOps.run_bufferSize`).
-/

namespace DustDevil

open Wire

/-! ## The buffer size -/

section Parse

variable {env : ArgsEnv}

/-- An accepted command line's arguments have been filled with the defaults. -/
theorem parseArgumentsLoop_eq_run {result startup : StartupArguments} {args : List Str}
    (h : parseArgumentsLoop env result args = .ok (.run startup)) :
    ∃ filled : StartupArguments, startup = filled.fillEmptyFieldsWithDefaults := by
  fun_induction parseArgumentsLoop env result args with
  | case1 result => exact ⟨result, (ArgumentsRequest.run.inj (Except.ok.inj h)).symm⟩
  | case2 result args ih => exact ih h
  | case3 | case4 | case5 | case6 => simp at h
  | case7 _ _ _ _ _ _ _ _ _ ih => exact ih h
  | case8 _ _ _ _ _ _ _ _ _ _ _ _ ih => exact ih h
  | case9 _ _ _ _ _ _ _ _ _ _ _ _ ih => exact ih h

theorem parseArguments_bufferSize {args : List Str} {startup : StartupArguments}
    (h : parseArguments env args = .ok (.run startup)) : startup.bufferSize ≠ 0 := by
  obtain ⟨filled, rfl⟩ := parseArgumentsLoop_eq_run h
  by_cases hsize : filled.bufferSize = 0
  · simp [StartupArguments.fillEmptyFieldsWithDefaults, hsize, defaultBufferSize]
  · simp [StartupArguments.fillEmptyFieldsWithDefaults, hsize]

end Parse

section Calls

theorem ManagerCall.perform_bufferSize {cx : SandstormContext} (h : cx.state.bufferSize ≠ 0) :
    ∀ call : ManagerCall, (call.perform cx).1.bufferSize ≠ 0
  | addUser username password role => by
    change (cx.addUser username password role).2.1.bufferSize ≠ 0
    unfold SandstormContext.addUser
    split
    · exact h
    · split <;> exact h
  | updateUser username password role => by
    change (cx.updateUser username password role).2.1.bufferSize ≠ 0
    unfold SandstormContext.updateUser
    split
    · exact h
    · split <;> exact h
  | deleteUser username => by
    change (cx.deleteUser username).2.1.bufferSize ≠ 0
    unfold SandstormContext.deleteUser
    split <;> exact h
  | toggleAuthMethod authMethod _ => by cases authMethod <;> exact h
  | setBufferSize value => by
    change (cx.setBufferSize value).2.1.bufferSize ≠ 0
    unfold SandstormContext.setBufferSize
    split
    · exact h
    · assumption

/-- The server after calls that come one after the other. -/
def performAll (logging : Bool) (state : ServerState) (calls : List (ℕ × ManagerCall)) :
    ServerState :=
  calls.foldl (fun state call => (call.2.perform ⟨call.1, state, logging⟩).1) state

theorem performAll_bufferSize {logging : Bool} :
    ∀ (calls : List (ℕ × ManagerCall)) {state : ServerState}, state.bufferSize ≠ 0 →
      (performAll logging state calls).bufferSize ≠ 0
  | [], _, h => h
  | call :: calls, _, h => performAll_bufferSize calls (call.2.perform_bufferSize h)

namespace ManagerOps

variable {ι : Type} [DecidableEq ι] {managers : ι → ℕ} {calls : ι → ManagerCall}
  {s s' : ManagerOps ι}

/-- Neither the buffer size there is nor one that a call is about to store is zero. -/
structure SizesNonzero (s : ManagerOps ι) : Prop where
  stored : s.state.bufferSize ≠ 0
  storing : ∀ i value, s.point i = .storing value → value ≠ 0

theorem SizesNonzero.goto (h : s.SizesNonzero) {i : ι} {p : OpPoint}
    (hp : ∀ value, p = .storing value → value ≠ 0) : (s.goto i p).SizesNonzero where
  stored := h.stored
  storing j value hj := by
    rcases eq_or_ne j i with rfl | hji
    · exact hp value (by simpa using hj)
    · exact h.storing j value (by simpa [ManagerOps.goto, hji] using hj)

omit [DecidableEq ι] in
theorem SizesNonzero.setState (h : s.SizesNonzero) {state : ServerState}
    (hstate : state.bufferSize ≠ 0) : (s.setState state).SizesNonzero := ⟨hstate, h.storing⟩

omit [DecidableEq ι] in
theorem SizesNonzero.send (h : s.SizesNonzero) (event : EventData) :
    (s.send event).SizesNonzero := ⟨h.stored, h.storing⟩

theorem step_sizesNonzero (h : s.SizesNonzero) {i : ι}
    (hstep : step managers calls s i = some s') : s'.SizesNonzero := by
  unfold step at hstep
  rcases hpoint : s.point i with _ | event | value | _ <;> rw [hpoint] at hstep <;>
    simp only [Option.some.injEq, reduceCtorEq] at hstep <;> subst hstep
  · rcases begin_cases s i (managers i) (calls i) with ⟨state, hview, heq⟩
      | ⟨state, event, t, v, hview, -, ht, heq⟩ | ⟨event, value, -, hvalue, heq⟩ <;> rw [heq]
    · have hsize : state.bufferSize = s.state.bufferSize := congrFun hview .bufferSize
      exact (h.setState (hsize ▸ h.stored)).goto (by simp)
    · have hsize : state.bufferSize = s.state.bufferSize :=
        (congrFun hview .bufferSize).trans (Function.update_of_ne ht.symm ..)
      exact (h.setState (hsize ▸ h.stored)).goto (by simp)
    · refine (h.send event).goto fun value' h' => ?_
      obtain rfl := OpPoint.storing.inj h'
      exact hvalue
  · exact (h.send event).goto (by simp)
  · exact (h.setState (h.storing i value hpoint)).goto (by simp)

theorem run_bufferSize {state : ServerState} {schedule : List ι} (hstate : state.bufferSize ≠ 0)
    (h : run managers calls (start state) schedule = some s) : s.state.bufferSize ≠ 0 :=
  (runSteps_keeps (I := SizesNonzero) (fun _ _ _ hs => step_sizesNonzero hs)
    ⟨hstate, fun _ _ h => by simp [start] at h⟩ h).stored

end ManagerOps

end Calls

/-! ## Users -/

section Users

/-- A line after its indentation, as it is and without the whitespace at its end. -/
theorem trim_append (s : Str) :
    s.dropWhile isWhitespace
      = trim s ++ (s.dropWhile isWhitespace).rtakeWhile isWhitespace :=
  (List.rdropWhile_append_rtakeWhile ..).symm

theorem not_whitespace_roleChar (role : UserRole) : isWhitespace role.intoRoleChar = false := by
  cases role <;> decide

/-- A file of one line that is a user. -/
theorem parse_of_from {ρ : Type} [AsyncRead ρ] {r : ρ} {s username : Str} {user : UserData}
    {m : UserManager} (hr : ending r = .eof) (hs : '\n' ∉ s) (hbytes : unread r = utf8 s)
    (hfrom : (UserManager.from r).1 = .ok m) (hm : m.users.lookup username = some user) :
    parseLineIntoUser (s.dropWhile isWhitespace) 0 0 = .ok (some (username, user)) := by
  obtain ⟨-, k, hpieces⟩ := UserManager.from_eq_ok.1 ⟨(UserManager.from r).2, Prod.ext hfrom rfl⟩
  have hnew : newline ∉ utf8 s := fun h => hs ((mem_utf8_iff (by decide) s).1 h)
  have hempty : m ≠ UserManager.new := by
    rintro rfl
    simp [UserManager.new] at hm
  rw [hbytes, hr, List.splitOn_eq_singleton hnew] at hpieces
  by_cases hlen : (utf8 s).length < bufferCapacity
  · rw [processPieces_last _ _ _ hlen] at hpieces
    simp only [atEnding, lastLine] at hpieces
    by_cases hne : utf8 s = []
    · rw [if_neg (by simpa using hne)] at hpieces
      exact absurd (congrArg Prod.snd hpieces).symm hempty
    rw [if_pos hne] at hpieces
    obtain ⟨_, m', hline, hpure⟩ := Proc.bind_eq_ok hpieces
    obtain rfl : m' = m := congrArg Prod.snd hpure
    simp only [handleLine, fromUtf8_utf8] at hline
    have hload := Proc.mapErr_eq_ok hline
    by_cases hwide : WideIndent s
    · rw [loadLine_of_wideIndent _ _ hwide] at hload
      cases hload
    rw [loadLine_eq _ _ hwide] at hload
    split_ifs at hload
    · exact absurd (congrArg Prod.snd hload).symm hempty
    rcases hparse : parseLineIntoUser (s.dropWhile isWhitespace) 1
        (.ofNat (s.takeWhile isWhitespace).length) with e | _ | ⟨username', user'⟩
      <;> rw [hparse] at hload
    · cases hload
    · exact absurd (congrArg Prod.snd hload).symm hempty
    · obtain rfl : UserManager.new.load username' user' = m' := congrArg Prod.snd hload
      by_cases heq : username = username'
      · subst heq
        obtain rfl : user' = user := by simpa [UserManager.load] using hm
        exact parseLineIntoUser_ok hparse
      · simp [UserManager.load, UserManager.new, heq] at hm
  · rw [processPieces_tooLong _ _ _ _ (not_lt.1 hlen)] at hpieces
    cases hpieces

variable {env : ArgsEnv} {result : StartupArguments} {s username : Str} {user : UserData}

/-- An argument that begins with a role character is parsed without the whitespace at its ends. -/
theorem parseNewUserArg_of_role {role : UserRole} {chars : Str}
    (h : trim s = role.intoRoleChar :: chars) (arg : Str) :
    parseNewUserArg env result arg (some s)
      = match parseLineIntoUser (trim s) 1 0 with
        | .ok (some (username, user)) =>
          if (result.users.lookup username).isSome then .error (.duplicateUsername arg s)
          else .ok { result with users := result.users.insert username user }
        | _ => .error (.invalidUserSpecification arg s) := by
  have halnum : (trim s).head?.any env.alphanumeric.test = false := by
    rw [h, List.head?_cons, Option.any_some, env.alphanumeric.ascii _ (by cases role <;> decide)]
    cases role <;> decide
  unfold parseNewUserArg
  dsimp only
  rw [halnum]
  rfl

/-- The whitespace at the end of a line is the end of its password, or there is none. -/
theorem getLast_iff_rtakeWhile (h : s.dropWhile isWhitespace ≠ []) :
    (∀ c, s.getLast? = some c → isWhitespace c = false)
      ↔ (s.dropWhile isWhitespace).rtakeWhile isWhitespace = [] := by
  have hlast : s.getLast? = some ((s.dropWhile isWhitespace).getLast h) := by
    conv_lhs => rw [← List.takeWhile_append_dropWhile (p := isWhitespace) (l := s)]
    rw [List.getLast?_append_of_ne_nil _ h, List.getLast?_eq_some_getLast h]
  rw [List.rtakeWhile_eq_nil_iff, hlast]
  simp [h]

/-- A role character is not whitespace, so a text that has one after its leading whitespace begins
with it when trimmed. -/
theorem trim_of_role {role : UserRole} {chars : Str}
    (hline : s.dropWhile isWhitespace = role.intoRoleChar :: chars) :
    ∃ chars', trim s = role.intoRoleChar :: chars'
      ∧ chars = chars' ++ (s.dropWhile isWhitespace).rtakeWhile isWhitespace := by
  have happend := trim_append s
  generalize hws : (s.dropWhile isWhitespace).rtakeWhile isWhitespace = ws at happend ⊢
  rw [hline] at happend
  rcases htrim : trim s with _ | ⟨c, chars'⟩ <;> rw [htrim] at happend
  · have hmem : role.intoRoleChar ∈ (s.dropWhile isWhitespace).rtakeWhile isWhitespace := by
      rw [List.nil_append] at happend
      rw [hws, ← happend]
      exact List.mem_cons_self
    have hwhite := List.mem_rtakeWhile_imp hmem
    rw [not_whitespace_roleChar] at hwhite
    cases hwhite
  · obtain ⟨rfl, rfl⟩ := List.cons.inj happend
    exact ⟨chars', rfl, rfl⟩

theorem eq_of_insert_eq {users : UserMap} {username' : Str} {user' : UserData}
    (habsent : users.lookup username = none)
    (h : users.insert username' user' = users.insert username user) :
    username' = username ∧ user' = user := by
  have hlookup := congrArg (Finmap.lookup username) h
  rw [Finmap.lookup_insert] at hlookup
  by_cases heq : username = username'
  · subst heq
    rw [Finmap.lookup_insert] at hlookup
    exact ⟨rfl, Option.some.inj hlookup⟩
  · rw [Finmap.lookup_insert_of_ne _ heq, habsent] at hlookup
    cases hlookup

/-- What an argument adds is the user that it is without the whitespace at its ends. -/
theorem parse_of_adds {role : UserRole} {chars : Str} {arg : Str}
    (htrim : trim s = role.intoRoleChar :: chars) (habsent : result.users.lookup username = none)
    (h : parseNewUserArg env result arg (some s)
      = .ok { result with users := result.users.insert username user }) :
    parseLineIntoUser (trim s) 1 0 = .ok (some (username, user)) := by
  rw [parseNewUserArg_of_role htrim] at h
  rcases hparse : parseLineIntoUser (trim s) 1 0 with e | _ | ⟨username', user'⟩ <;>
    rw [hparse] at h
  · cases h
  · cases h
  · simp only at h
    split_ifs at h
    simp only [Except.ok.injEq, StartupArguments.mk.injEq, true_and, and_true] at h
    obtain ⟨rfl, rfl⟩ := eq_of_insert_eq habsent h
    rfl

theorem parseNewUserArg_adds_iff (habsent : result.users.lookup username = none)
    (hparse : parseLineIntoUser (s.dropWhile isWhitespace) 0 0 = .ok (some (username, user)))
    (arg : Str) :
    parseNewUserArg env result arg (some s)
        = .ok { result with users := result.users.insert username user }
      ↔ ∀ c, s.getLast? = some c → isWhitespace c = false := by
  obtain ⟨chars, rest, hline, hsplit, hpassword, -⟩ := parseLineIntoUser_eq_ok.1 hparse
  rw [getLast_iff_rtakeWhile (by rw [hline]; exact List.cons_ne_nil _ _)]
  obtain ⟨chars', htrim, rfl⟩ := trim_of_role hline
  have hescape : escapeChar ∉ (s.dropWhile isWhitespace).rtakeWhile isWhitespace := fun h => by
    cases List.mem_rtakeWhile_imp h
  have hcolon : ':' ∉ (s.dropWhile isWhitespace).rtakeWhile isWhitespace := fun h => by
    cases List.mem_rtakeWhile_imp h
  constructor
  · intro h
    obtain ⟨chars'', rest'', hline', hsplit', hpassword', -⟩ :=
      parseLineIntoUser_eq_ok.1 (parse_of_adds htrim habsent h)
    obtain ⟨-, rfl⟩ := List.cons.inj (htrim.symm.trans hline')
    rw [splitUsername_append hcolon, hsplit'] at hsplit
    obtain rfl := (Prod.mk.inj (Option.some.inj hsplit)).2
    rw [unescape_append hescape, hpassword'] at hpassword
    simpa using hpassword
  · intro hws
    have happend := trim_append s
    rw [hws, List.append_nil] at happend
    rw [parseNewUserArg_of_role htrim, ← happend, parseLineIntoUser_ok hparse]
    simp [habsent]

/-- A line that the users file has a user in is that user to `-u` exactly if no whitespace, which
belongs to the password, ends it. -/
theorem parseNewUserArg_iff_of_from {ρ : Type} [AsyncRead ρ] {r : ρ} {m : UserManager}
    (hr : ending r = .eof) (hs : '\n' ∉ s) (hbytes : unread r = utf8 s)
    (hfrom : (UserManager.from r).1 = .ok m) (hm : m.users.lookup username = some user)
    (habsent : result.users.lookup username = none) (arg : Str) :
    parseNewUserArg env result arg (some s)
        = .ok { result with users := result.users.insert username user }
      ↔ ∀ c, s.getLast? = some c → isWhitespace c = false :=
  parseNewUserArg_adds_iff habsent (parse_of_from hr hs hbytes hfrom hm) arg

/-- No name has an address. -/
def offline : ArgsEnv := ⟨.onlyAscii, fun _ => .error ⟨.other, []⟩⟩

/-- The users of a file that has just this one. -/
def onlyUser (username : Str) (user : UserData) : UserManager := UserManager.new.load username user

theorem parseNewUserArg_ana :
    parseNewUserArg offline .empty "-u".toList (some "#ana:1".toList)
        = .ok { StartupArguments.empty with
          users := StartupArguments.empty.users.insert "ana".toList ⟨['1'], .regular⟩ }
      ↔ ∀ c, "#ana:1".toList.getLast? = some c → isWhitespace c = false :=
  parseNewUserArg_iff_of_from (r := (⟨utf8 "#ana:1".toList, .eof⟩ : Flat))
    (m := onlyUser "ana".toList ⟨['1'], .regular⟩) rfl (by decide) rfl (by decide +kernel)
    (by decide +kernel) (by decide +kernel) _

theorem not_parseNewUserArg_space :
    ¬ ∀ (s username : Str) (user : UserData) (m : UserManager), '\n' ∉ s →
      (UserManager.from (⟨utf8 s, .eof⟩ : Flat)).1 = .ok m → m.users.lookup username = some user →
        ∀ result : StartupArguments, result.users.lookup username = none →
          parseNewUserArg offline result "-u".toList (some s)
            = .ok { result with users := result.users.insert username user } := by
  intro h
  have hadds := h "#ana:1 ".toList "ana".toList ⟨['1', ' '], .regular⟩
    (onlyUser "ana".toList ⟨['1', ' '], .regular⟩) (by decide) (by decide +kernel)
    (by decide +kernel) .empty (by decide +kernel)
  have hlast := (parseNewUserArg_adds_iff (by decide +kernel) (by decide +kernel) _).1 hadds
  exact absurd (hlast ' ' (by decide)) (by decide)

end Users

/-! ## Every buffer size is one that can be written -/

section BufferSize

/-- A text is read as a size exactly if it is one that can be written, and it is read as the exact
size; no other text makes the parser panic. So the server's buffer size is never zero: not after the
command line, nor after any calls of managers, with a log sender or without one. -/
theorem bufferSize_ne_zero_and_exact :
    (∀ s v, parsePrettyBufferSize s = .ok v ↔
        ∃ number multiplier, WritesSize (trim s) number multiplier ∧ v.toNat = number * multiplier
          ∧ 0 < number * multiplier)
      ∧ (∀ s number multiplier, WritesSize (trim s) number multiplier →
          number * multiplier = 0 ∨ 2 ^ 32 ≤ number * multiplier →
            ∃ e, parsePrettyBufferSize s = .error (.err e))
      ∧ (∀ s, (∃ v, parsePrettyBufferSize s = .ok v)
          ∨ ∃ e, parsePrettyBufferSize s = .error (.err e))
      ∧ ∀ env args startup users, parseArguments env args = .ok (.run startup) →
          (∀ logging calls,
            (performAll logging (startup.serverState users) calls).bufferSize ≠ 0)
          ∧ ∀ {ι : Type} [DecidableEq ι] (managers : ι → ℕ) calls schedule s,
            ManagerOps.run managers calls (.start (startup.serverState users)) schedule = some s →
              s.state.bufferSize ≠ 0 := by
  refine ⟨fun s v => parsePrettyBufferSize_eq_ok, ?_, parsePrettyBufferSize_settles, ?_⟩
  · intro s number multiplier h hproduct
    obtain ⟨-, hzero, hlarge⟩ := parsePrettyBufferSize_of_writesSize h
    rcases hproduct with hproduct | hproduct
    · exact hzero hproduct
    · exact ⟨_, hlarge hproduct⟩
  · intro env args startup users h
    have hsize : (startup.serverState users).bufferSize ≠ 0 := parseArguments_bufferSize h
    exact ⟨fun _ calls => performAll_bufferSize calls hsize,
      fun _ _ _ _ hrun => ManagerOps.run_bufferSize hsize hrun⟩

theorem bufferSize_4k :
    (∃ e, parsePrettyBufferSize "4G".toList = .error (.err e))
      ∧ (performAll true (StartupArguments.serverState
          (StartupArguments.fillEmptyFieldsWithDefaults { StartupArguments.empty with
            bufferSize := 4096 }) .new) [(1, .setBufferSize 0)]).bufferSize ≠ 0 := by
  obtain ⟨-, herror, -, hsize⟩ := bufferSize_ne_zero_and_exact
  have hwrites : WritesSize (trim "4G".toList) 4 (1024 ^ 3) :=
    ⟨[], ['4'], ['G'], 10, [4], by decide +kernel, .inl ⟨rfl, rfl⟩, by decide, rfl, rfl,
      .inr (.inl ⟨'G', by decide, .inl rfl⟩)⟩
  have hparse : parseArguments offline ["dust-devil".toList, "-b".toList, "4k".toList]
      = .ok (.run (StartupArguments.fillEmptyFieldsWithDefaults { StartupArguments.empty with
          bufferSize := 4096 })) := by
    rfl
  exact ⟨herror _ _ _ hwrites (by decide), (hsize _ _ _ .new hparse).1 true _⟩

end BufferSize

end DustDevil

import DustDevil.Proofs.Users

/-!
# Which files `UserManager::from` returns on

Each line is loaded, refused with an error, or makes the loop that skips its leading whitespace
slice a character apart, and which of the three it is does not depend on the lines before it
(`processLine_cases`). So `from` returns exactly if no line it comes to is of the third kind
(`from_returns_iff`).
-/

namespace DustDevil

open Wire

section Indent

variable {σ ε : Type}

/-- There is a character of more than one byte in the whitespace that begins a line. -/
def WideIndent (s : Str) : Prop := ∃ c ∈ s.takeWhile isWhitespace, c.utf8Size ≠ 1

instance (s : Str) : Decidable (WideIndent s) :=
  List.decidableBEx (fun c : Char => c.utf8Size ≠ 1) (s.takeWhile isWhitespace)

theorem wideIndent_cons {c : Char} {s : Str} (hc : isWhitespace c = true) :
    WideIndent (c :: s) ↔ c.utf8Size ≠ 1 ∨ WideIndent s := by
  unfold WideIndent
  rw [List.takeWhile_cons_of_pos hc, List.exists_mem_cons_iff]

theorem not_wideIndent_of_not {c : Char} {s : Str} (hc : ¬ isWhitespace c = true) :
    ¬ WideIndent (c :: s) := by
  unfold WideIndent
  rw [List.takeWhile_cons_of_neg hc]
  simp

/-- The loop slices at character boundaries exactly if it skips single bytes. -/
theorem trimStart_eq : ∀ (s : Str) (charAt : UInt32),
    (trimStart s charAt : Proc σ ε _)
      = if WideIndent s then .stop .panic
        else pure (s.dropWhile isWhitespace, charAt + .ofNat (s.takeWhile isWhitespace).length)
  | [], charAt => by simp [trimStart, WideIndent]
  | c :: s, charAt => by
    unfold trimStart
    by_cases hc : isWhitespace c = true
    · rw [if_pos hc, trimStart_eq s, String.length_utf8EncodeChar, List.dropWhile_cons_of_pos hc,
        List.takeWhile_cons_of_pos hc, List.length_cons, add_one_add_ofNat]
      by_cases hsize : c.utf8Size = 1
      · have hwide : WideIndent (c :: s) ↔ WideIndent s := by simp [wideIndent_cons hc, hsize]
        simp only [hsize, hwide, if_true]
      · rw [if_neg hsize, if_pos ((wideIndent_cons hc).2 (.inl hsize))]
    · rw [if_neg hc, if_neg (not_wideIndent_of_not hc), List.dropWhile_cons_of_neg hc,
        List.takeWhile_cons_of_neg hc]
      simp

end Indent

section Line

theorem parseLineIntoUser_eq_none {s : Str} {n charAt : UInt32} :
    parseLineIntoUser s n charAt = .ok none ↔ s.head? = some commentPrefixChar := by
  have hsome : ∀ parsed : Except UsersLoadingError (Str × UserData),
      parsed.map some ≠ .ok none := by
    rintro (e | user) h <;> cases h
  rcases s with _ | ⟨c, chars⟩
  · simp [parseLineIntoUser]
  rw [parseLineIntoUser, List.head?_cons, Option.some.injEq]
  by_cases hc : c = commentPrefixChar
  · simp [hc]
  · rw [if_neg hc]
    refine ⟨fun h => ?_, fun h => absurd h hc⟩
    split_ifs at h
    · exact absurd h (hsome _)
    · exact absurd h (hsome _)

/-- What a line stands for does not depend on where it is. -/
theorem parseLineIntoUser_ok {s : Str} {n n' charAt charAt' : UInt32}
    {parsed : Option (Str × UserData)} (h : parseLineIntoUser s n charAt = .ok parsed) :
    parseLineIntoUser s n' charAt' = .ok parsed := by
  rcases parsed with _ | ⟨username, user⟩
  · exact parseLineIntoUser_eq_none.2 (parseLineIntoUser_eq_none.1 h)
  · exact parseLineIntoUser_eq_ok.2 (parseLineIntoUser_eq_ok.1 h)

/-- A line with nothing wrong with it: after its indentation it is empty, a comment or a user. -/
def Loads (line : List UInt8) : Prop :=
  line.length < 0x2000 ∧ ∃ s, fromUtf8 line = .ok s ∧ ¬ WideIndent s
    ∧ (s.dropWhile isWhitespace = []
      ∨ ∃ parsed, parseLineIntoUser (s.dropWhile isWhitespace) 0 0 = .ok parsed)

/-- A line that is short and valid, and whose indentation has a character of several bytes. -/
def Stuck (line : List UInt8) : Prop :=
  line.length < 0x2000 ∧ ∃ s, fromUtf8 line = .ok s ∧ WideIndent s

variable {line : List UInt8} {s : Str} (n : UInt32) (m : UserManager)

open UserManager

theorem loadLine_of_wideIndent (h : WideIndent s) : loadLine s n m = (.error .panic, m) := by
  unfold loadLine
  rw [trimStart_eq, if_pos h]
  rfl

theorem loadLine_eq (h : ¬ WideIndent s) :
    loadLine s n m
      = if s.dropWhile isWhitespace = [] then (.ok (), m)
        else
          match parseLineIntoUser (s.dropWhile isWhitespace) n
            (.ofNat (s.takeWhile isWhitespace).length) with
          | .ok (some (username, user)) => (.ok (), m.load username user)
          | .ok none => (.ok (), m)
          | .error e => (.error (.err e), m) := by
  unfold loadLine
  rw [trimStart_eq, if_neg h, Proc.pure_bind, UInt32.zero_add]
  dsimp only
  split_ifs
  · rfl
  · rcases parseLineIntoUser (s.dropWhile isWhitespace) n
      (.ofNat (s.takeWhile isWhitespace).length) with e | _ | ⟨username, user⟩ <;> rfl

theorem processLine_of_stuck (h : Stuck line) :
    processLine loadLine line n m = (.error .panic, m) := by
  obtain ⟨hlen, s, hs, hwide⟩ := h
  have hload := Proc.mapErr_error (loadLine_of_wideIndent n m hwide)
    (ProcessFileLinesError.cancelled n)
  simp only [processLine, if_neg (not_le.2 hlen), hs, hload]
  rfl

theorem processLine_of_loads (h : Loads line) :
    ∃ m', processLine loadLine line n m = (.ok (), m') := by
  obtain ⟨hlen, s, hs, hwide, hline⟩ := h
  have hload : ∃ m', loadLine s n m = (.ok (), m') := by
    rw [loadLine_eq n m hwide]
    rcases hline with hnil | ⟨parsed, hparsed⟩
    · exact ⟨m, by rw [if_pos hnil]⟩
    · rw [parseLineIntoUser_ok hparsed]
      split_ifs
      · exact ⟨m, rfl⟩
      · rcases parsed with _ | ⟨username, user⟩
        · exact ⟨m, rfl⟩
        · exact ⟨m.load username user, rfl⟩
  obtain ⟨m', hload⟩ := hload
  refine ⟨m', ?_⟩
  simp only [processLine, if_neg (not_le.2 hlen), hs, Proc.mapErr_ok hload]

theorem processLine_of_not (hloads : ¬ Loads line) (hstuck : ¬ Stuck line) :
    ∃ e, processLine loadLine line n m = (.error (.err e), m) := by
  unfold processLine
  by_cases hlen : 0x2000 ≤ line.length
  · rw [if_pos hlen]
    exact ⟨_, rfl⟩
  rw [if_neg hlen]
  rcases hs : fromUtf8 line with validUpTo | s
  · exact ⟨_, rfl⟩
  have hwide : ¬ WideIndent s := fun h => hstuck ⟨not_le.1 hlen, s, hs, h⟩
  have hload : ∃ e, loadLine s n m = (.error (.err e), m) := by
    rw [loadLine_eq n m hwide, if_neg fun h => hloads ⟨not_le.1 hlen, s, hs, hwide, .inl h⟩]
    rcases hparse : parseLineIntoUser (s.dropWhile isWhitespace) n
        (.ofNat (s.takeWhile isWhitespace).length) with e | parsed
    · exact ⟨e, rfl⟩
    · exact absurd ⟨not_le.1 hlen, s, hs, hwide, .inr ⟨parsed, parseLineIntoUser_ok hparse⟩⟩ hloads
  obtain ⟨e, hload⟩ := hload
  exact ⟨_, Proc.mapErr_error hload _⟩

end Line

section File

open UserManager

/-- Somewhere there is a line that no line before it keeps `from` from coming to, and which it
cannot handle. -/
def ComesToStuck (lines : List (List UInt8)) : Prop :=
  ∃ before line after, lines = before ++ line :: after ∧ (∀ l ∈ before, Loads l) ∧ Stuck line

theorem comesToStuck_cons {line : List UInt8} {lines : List (List UInt8)} :
    ComesToStuck (line :: lines) ↔ Stuck line ∨ Loads line ∧ ComesToStuck lines := by
  constructor
  · rintro ⟨_ | ⟨first, before⟩, stuck, after, heq, hloads, hstuck⟩
    · obtain ⟨rfl, -⟩ := List.cons.inj heq
      exact .inl hstuck
    · obtain ⟨rfl, rfl⟩ := List.cons.inj heq
      exact .inr ⟨hloads _ (List.mem_cons_self ..), before, stuck, after, rfl,
        fun l hl => hloads l (List.mem_cons_of_mem _ hl), hstuck⟩
  · rintro (hstuck | ⟨hloads, before, stuck, after, rfl, hbefore, hstuck⟩)
    · exact ⟨[], line, lines, rfl, by simp, hstuck⟩
    · refine ⟨line :: before, stuck, after, rfl, fun l hl => ?_, hstuck⟩
      rcases List.mem_cons.1 hl with rfl | hl
      · exact hloads
      · exact hbefore l hl

/-- The lines one after the other: there is a panic exactly if such a line is come to. -/
theorem processNumbered_cases : ∀ (lines : List (List UInt8)) (first : ℕ) (m : UserManager),
    (ComesToStuck lines → (processNumbered loadLine first lines m).1 = .error .panic)
      ∧ (¬ ComesToStuck lines → (∃ n, (processNumbered loadLine first lines m).1 = .ok n)
        ∨ ∃ e, (processNumbered loadLine first lines m).1 = .error (.err e))
  | [], first, m => by
    refine ⟨?_, fun _ => .inl ⟨_, rfl⟩⟩
    rintro ⟨before, line, after, heq, -, -⟩
    simp at heq
  | line :: lines, first, m => by
    rw [processNumbered_cons, comesToStuck_cons]
    by_cases hstuck : Stuck line
    · rw [Proc.bind_error (processLine_of_stuck _ m hstuck)]
      exact ⟨fun _ => rfl, fun h => absurd (.inl hstuck) h⟩
    by_cases hloads : Loads line
    · obtain ⟨m', hline⟩ := processLine_of_loads (.ofNat first) m hloads
      rw [Proc.bind_ok hline]
      simpa [hstuck, hloads] using processNumbered_cases lines (first + 1) m'
    · obtain ⟨e, hline⟩ := processLine_of_not (.ofNat first) m hloads hstuck
      rw [Proc.bind_error hline]
      exact ⟨fun h => by simp [hstuck, hloads] at h, fun _ => .inr ⟨e, rfl⟩⟩

variable {ρ : Type} [AsyncRead ρ] {r : ρ}

/-- `from` returns, with users or with an error, exactly if no line it comes to has a character of
several bytes in its indentation. -/
theorem from_returns_iff (hr : ending r = .eof) :
    ((∃ m, (UserManager.from r).1 = .ok m) ∨ ∃ e, (UserManager.from r).1 = .error (.err e))
      ↔ ∀ before line after, linesOf (unread r) = before ++ line :: after →
        (∀ l ∈ before, Loads l) → ¬ Stuck line := by
  have hcomes : (∀ before line after, linesOf (unread r) = before ++ line :: after →
      (∀ l ∈ before, Loads l) → ¬ Stuck line) ↔ ¬ ComesToStuck (linesOf (unread r)) := by
    simp only [ComesToStuck, not_exists, not_and]
  rw [hcomes]
  obtain ⟨hpanic, hreturns⟩ := processNumbered_cases (linesOf (unread r)) 1 UserManager.new
  have heq := (processLinesUtf8_eof (f := loadLine) hr UserManager.new).1
  unfold processLinesReference at heq
  rw [← heq] at hpanic hreturns
  rcases hlines : processLinesUtf8 loadLine (r, UserManager.new) with ⟨stop | n, r', m⟩ <;>
    rw [hlines] at hpanic hreturns
  · have hmap := Proc.mapErr_error hlines loadingError
    simp only [UserManager.from, hmap]
    refine ⟨fun hret h => ?_, fun h => ?_⟩
    · obtain rfl := Except.error.inj (hpanic h)
      simp [Stop.map] at hret
    · rcases hreturns h with ⟨n, hn⟩ | ⟨e, he⟩
      · cases hn
      · obtain rfl := Except.error.inj he
        exact .inr ⟨loadingError e, rfl⟩
  · have hmap := Proc.mapErr_ok hlines loadingError
    simp only [UserManager.from, hmap]
    refine iff_of_true ?_ fun h => by cases hpanic h
    split_ifs
    · exact .inr ⟨.noUsers, rfl⟩
    · exact .inl ⟨m, rfl⟩

/-- A line that begins with a no-break space. -/
def nbspFile : Flat := ⟨[0xC2, 0xA0], .eof⟩

theorem from_returns_iff_nbsp :
    ((∃ m, (UserManager.from nbspFile).1 = .ok m)
        ∨ ∃ e, (UserManager.from nbspFile).1 = .error (.err e))
      ↔ ∀ before line after, linesOf nbspFile.bytes = before ++ line :: after →
        (∀ l ∈ before, Loads l) → ¬ Stuck line :=
  from_returns_iff rfl

theorem not_from_returns_nbsp :
    ¬ ∀ bytes : List UInt8, (∃ m, (UserManager.from (⟨bytes, .eof⟩ : Flat)).1 = .ok m)
      ∨ ∃ e, (UserManager.from (⟨bytes, .eof⟩ : Flat)).1 = .error (.err e) := by
  intro h
  have hpanic : (UserManager.from nbspFile).1 = .error .panic := by decide +kernel
  rcases h nbspFile.bytes with ⟨m, hm⟩ | ⟨e, he⟩
  · nomatch hpanic.symm.trans hm
  · nomatch hpanic.symm.trans he

end File

end DustDevil

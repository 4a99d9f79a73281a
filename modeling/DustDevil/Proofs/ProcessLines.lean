import DustDevil.Server.ProcessLines

/-!
# What `process_lines_utf8` computes

The buffer and the sizes of the reads cannot be seen from outside: the whole input is split at its
newlines, and the pieces are handled in order (`processLinesUtf8_eq`), each as a line of the file is
to be (`processLinesUtf8_eq_reference`).
-/

namespace DustDevil

open Wire

section Split

variable {cur rest : List UInt8}

theorem splitOn_eq_cons (rest : List UInt8) : ∃ p ps, rest.splitOn newline = p :: ps :=
  List.exists_cons_of_ne_nil (List.splitOn_ne_nil newline rest)

theorem splitOn_append {p : List UInt8} {ps : List (List UInt8)}
    (hrest : rest.splitOn newline = p :: ps) :
    ∀ {cur : List UInt8}, newline ∉ cur → (cur ++ rest).splitOn newline = (cur ++ p) :: ps
  | [], _ => hrest
  | b :: cur, h => by
    simp only [List.mem_cons, not_or] at h
    obtain ⟨hb, hcur⟩ := h
    rw [List.cons_append, List.splitOn_cons_eq_if_modifyHead,
      if_neg (by simpa using Ne.symm hb), splitOn_append hrest hcur]
    rfl

theorem newline_notMem_of_mem_splitOn :
    ∀ {bytes piece : List UInt8}, piece ∈ bytes.splitOn newline → newline ∉ piece
  | [], piece, h => by
    rw [List.splitOn_nil, List.mem_singleton] at h
    simp [h]
  | b :: bytes, piece, h => by
    obtain ⟨p, ps, hsplit⟩ := splitOn_eq_cons bytes
    have hall : ∀ piece ∈ p :: ps, newline ∉ piece := fun piece hp =>
      newline_notMem_of_mem_splitOn (hsplit ▸ hp)
    rw [List.splitOn_cons_eq_if_modifyHead, hsplit] at h
    split_ifs at h with hb
    · rcases List.mem_cons.1 h with rfl | h
      · simp
      · exact hall piece h
    · rw [List.modifyHead_cons, List.mem_cons] at h
      rcases h with rfl | h
      · simp only [List.mem_cons, not_or]
        exact ⟨by simpa using Ne.symm (by simpa using hb), hall p List.mem_cons_self⟩
      · exact hall piece (List.mem_cons_of_mem _ h)

end Split

section Pieces

variable {σ T : Type} (f : Str → UInt32 → Proc σ T Unit)

/-- The piece after the last newline, at the end of the input. -/
def atEnding (piece : List UInt8) (lineNumber : UInt32) :
    Ending → Proc σ (ProcessFileLinesError T) UInt32
  | .eof => lastLine f piece lineNumber
  | .failed e => .throw (.io e)
  | .open => .stop .blocked

/-- The pieces between the newlines handled one after the other. -/
def processPieces :
    UInt32 → List (List UInt8) → Ending → Proc σ (ProcessFileLinesError T) UInt32
  | lineNumber, [], _ => pure lineNumber
  | lineNumber, [piece], ending =>
    if bufferCapacity ≤ piece.length then .throw (.lineTooLong lineNumber bufferCapacity)
    else atEnding f piece lineNumber ending
  | lineNumber, piece :: piece' :: pieces, ending =>
    if bufferCapacity ≤ piece.length then .throw (.lineTooLong lineNumber bufferCapacity)
    else do
      handleLine f piece lineNumber
      processPieces (lineNumber + 1) (piece' :: pieces) ending

theorem processPieces_cons {piece : List UInt8} {pieces : List (List UInt8)} (n : UInt32)
    (e : Ending) (hlen : piece.length < bufferCapacity) (hne : pieces ≠ []) :
    processPieces f n (piece :: pieces) e
      = (handleLine f piece n >>= fun _ => processPieces f (n + 1) pieces e) := by
  obtain ⟨p, ps, rfl⟩ := List.exists_cons_of_ne_nil hne
  rw [processPieces, if_neg (by omega)]

theorem processPieces_tooLong {piece : List UInt8} (pieces : List (List UInt8)) (n : UInt32)
    (e : Ending) (hlen : bufferCapacity ≤ piece.length) :
    processPieces f n (piece :: pieces) e = .throw (.lineTooLong n bufferCapacity) := by
  cases pieces <;> rw [processPieces, if_pos hlen]

theorem processPieces_last {piece : List UInt8} (n : UInt32) (e : Ending)
    (hlen : piece.length < bufferCapacity) :
    processPieces f n [piece] e = atEnding f piece n e := by
  unfold processPieces
  rw [if_neg (by omega)]

variable {f} {I : σ → Prop}

theorem handleLine_keeps (hf : ∀ s n, '\n' ∉ s → (f s n).Keeps I) {line : List UInt8}
    (hline : newline ∉ line) (n : UInt32) : (handleLine f line n).Keeps I := by
  rcases h : fromUtf8 line with e | s <;> simp only [handleLine, h]
  · exact .throw _
  · refine (hf s n fun hs => hline ?_).mapErr _
    rw [fromUtf8_ok h]
    exact (mem_utf8_iff (by decide) s).2 hs

theorem lastLine_keeps (hf : ∀ s n, '\n' ∉ s → (f s n).Keeps I) {buffer : List UInt8}
    (hbuf : newline ∉ buffer) (n : UInt32) : (lastLine f buffer n).Keeps I :=
  .ite ((handleLine_keeps hf hbuf n).bind fun _ => .pure _) (.pure _)

theorem atEnding_keeps (hf : ∀ s n, '\n' ∉ s → (f s n).Keeps I) {piece : List UInt8}
    (hpiece : newline ∉ piece) (n : UInt32) : ∀ e, (atEnding f piece n e).Keeps I
  | .eof => lastLine_keeps hf hpiece n
  | .failed _ => .throw _
  | .open => .stop _

/-- What every call of `f` on a line keeps, the whole input keeps. -/
theorem processPieces_keeps (hf : ∀ s n, '\n' ∉ s → (f s n).Keeps I) :
    ∀ (n : UInt32) (pieces : List (List UInt8)) (e : Ending), (∀ piece ∈ pieces, newline ∉ piece) →
      (processPieces f n pieces e).Keeps I
  | n, [], _, _ => .pure n
  | n, [piece], e, h => .ite (.throw _) (atEnding_keeps hf (h piece (by simp)) n e)
  | n, piece :: piece' :: pieces, e, h =>
    .ite (.throw _) ((handleLine_keeps hf (h piece (by simp)) n).bind fun _ =>
      processPieces_keeps hf (n + 1) (piece' :: pieces) e fun p hp =>
        h p (List.mem_cons_of_mem _ hp))

end Pieces

section Scan

variable {σ T : Type} (f : Str → UInt32 → Proc σ T Unit)

/-- Handling the lines that end in the buffer, then the pieces of what is left of it and of the
rest of the input, is handling the pieces of it all. -/
theorem scanLines_processPieces (rest : List UInt8) (e : Ending) :
    ∀ (todo cur before : List UInt8) (n : UInt32), newline ∉ cur →
      (before ++ cur ++ todo).length ≤ bufferCapacity →
      (scanLines f (before ++ cur ++ todo) todo.length (before ++ cur).length
          ⟨before.length, n⟩ >>= fun scan => processPieces f scan.lineNumber
            (((before ++ cur ++ todo).drop scan.lineStart ++ rest).splitOn newline) e)
        = processPieces f n ((cur ++ todo ++ rest).splitOn newline) e
  | [], cur, before, n, _, _ => by
    funext s
    simp [scanLines, Proc.bind_apply]
  | b :: todo, cur, before, n, hcur, hlen => by
    have hget : (before ++ cur ++ b :: todo)[(before ++ cur).length]? = some b := by simp
    rw [List.length_cons, scanLines, hget]
    by_cases hb : b = newline
    · subst hb
      have hsplit : (cur ++ newline :: todo ++ rest).splitOn newline
          = cur :: (todo ++ rest).splitOn newline := by
        rw [List.append_assoc, List.cons_append, List.splitOn_append_cons_self_of_not_mem hcur]
      have hslice : (slice (before ++ cur ++ newline :: todo) before.length
          (before ++ cur).length : Proc σ (ProcessFileLinesError T) _) = pure cur := by
        unfold slice
        rw [if_pos (by simp), List.take_left, List.drop_left]
      have ih := scanLines_processPieces rest e todo [] (before ++ cur ++ [newline]) (n + 1)
        (by simp) (by simpa using hlen)
      rw [if_pos rfl, hslice, hsplit, processPieces_cons f n e (by simp at hlen; omega)
        (List.splitOn_ne_nil _ _), ← List.nil_append todo, ← ih]
      funext s
      simp only [List.append_nil, List.append_assoc, List.cons_append, List.nil_append,
        List.length_append, List.length_cons, List.length_nil]
      rcases h : handleLine f cur n s with ⟨_ | _, s'⟩ <;> simp [Proc.bind_apply, h, Nat.add_assoc]
    · rw [if_neg (by simpa using hb)]
      have ih := scanLines_processPieces rest e todo (cur ++ [b]) before n
        (by simpa using ⟨hcur, Ne.symm hb⟩) (by simpa using hlen)
      simpa [Nat.add_assoc] using ih

theorem scanLines_ok :
    ∀ (todo cur before : List UInt8) (n : UInt32) {s s' : σ} {scan : LineScan}, newline ∉ cur →
      scanLines f (before ++ cur ++ todo) todo.length (before ++ cur).length
          ⟨before.length, n⟩ s = (.ok scan, s') →
      before.length ≤ scan.lineStart ∧ scan.lineStart ≤ (before ++ cur ++ todo).length
        ∧ newline ∉ (before ++ cur ++ todo).drop scan.lineStart
  | [], cur, before, n, s, s', scan, hcur, h => by
    simp only [List.length_nil, scanLines, Proc.pure_apply, Prod.mk.injEq, Except.ok.injEq] at h
    obtain ⟨rfl, rfl⟩ := h
    simpa using hcur
  | b :: todo, cur, before, n, s, s', scan, hcur, h => by
    have hget : (before ++ cur ++ b :: todo)[(before ++ cur).length]? = some b := by simp
    rw [List.length_cons, scanLines, hget] at h
    by_cases hb : b = newline
    · rw [if_pos (by rw [hb])] at h
      obtain ⟨_, _, -, h⟩ := Proc.bind_eq_ok h
      obtain ⟨_, s1, -, h⟩ := Proc.bind_eq_ok h
      have h' : scanLines f (before ++ cur ++ [b] ++ [] ++ todo) todo.length
          (before ++ cur ++ [b] ++ []).length ⟨(before ++ cur ++ [b]).length, n + 1⟩ s1
          = (.ok scan, s') := by
        simpa [Nat.add_assoc] using h
      have ih := scanLines_ok todo [] (before ++ cur ++ [b]) (n + 1) (by simp) h'
      simp only [List.append_nil, List.append_assoc, List.cons_append, List.nil_append,
        List.length_append, List.length_cons, List.length_nil] at ih ⊢
      exact ⟨by omega, by omega, ih.2.2⟩
    · rw [if_neg (by simpa using hb)] at h
      have h' : scanLines f (before ++ (cur ++ [b]) ++ todo) todo.length
          (before ++ (cur ++ [b])).length ⟨before.length, n⟩ s = (.ok scan, s') := by
        simpa [Nat.add_assoc] using h
      simpa using scanLines_ok todo (cur ++ [b]) before n (by simpa using ⟨hcur, Ne.symm hb⟩) h'

end Scan

section Loop

variable {ρ σ T : Type} [AsyncRead ρ] (f : Str → UInt32 → Proc σ T Unit)

/-- The reading loop and what comes after it, from a buffer that holds the beginning of a line. -/
theorem processLinesLoop_eq :
    ∀ (fuel : ℕ) (buffer : List UInt8) (n : UInt32) (r : ρ) (s : σ), newline ∉ buffer →
      buffer.length < bufferCapacity → (unread r).length < fuel →
      ((processLinesLoop f fuel buffer n >>= fun p => (lastLine f p.1 p.2).onSnd) (r, s)).1
          = (processPieces f n ((buffer ++ unread r).splitOn newline) (ending r) s).1
        ∧ ((processLinesLoop f fuel buffer n >>= fun p => (lastLine f p.1 p.2).onSnd) (r, s)).2.2
          = (processPieces f n ((buffer ++ unread r).splitOn newline) (ending r) s).2
  | 0, _, _, _, _, _, _, hfuel => by omega
  | fuel + 1, buffer, n, r, s, hbuf, hlen, hfuel => by
    have hpos : 0 < bufferCapacity - buffer.length := by omega
    unfold processLinesLoop
    by_cases hr : unread r = []
    · obtain ⟨r', hread, -, -⟩ := read_at_end hpos hr
      rw [hr, List.append_nil, List.splitOn_eq_singleton hbuf, processPieces_last f n _ hlen]
      rcases he : ending r with _ | e | _ <;> rw [he] at hread
      · simp [Proc.bind_apply, Proc.mapErr_ok hread, atEnding]
      · simp [Proc.bind_apply, Proc.mapErr_error hread, atEnding, Stop.map]
      · simp [Proc.bind_apply, Proc.mapErr_error hread, atEnding, Stop.map]
    · obtain ⟨bytes, r', hread, hne, hblen, hcat, h3⟩ := read_eq_ok hpos hr
      have hbpos := List.length_pos_iff.2 hne
      have hle : ([] ++ buffer ++ bytes).length ≤ bufferCapacity := by simp; omega
      have heq := congrFun (scanLines_processPieces f (unread r') (ending r') bytes buffer [] n
        hbuf hle) s
      simp only [List.nil_append, List.length_nil, List.append_assoc] at heq
      rw [← hcat, h3] at heq
      rw [← heq]
      rcases hscan : scanLines f (buffer ++ bytes) bytes.length buffer.length ⟨0, n⟩ s
        with ⟨e | scan, s'⟩
      · simp [Proc.bind_apply, Proc.mapErr_ok hread, hne, hscan]
      · obtain ⟨-, hstart, hnew⟩ := scanLines_ok f bytes buffer [] n hbuf
          (by simpa using hscan)
        simp only [List.nil_append] at hstart hnew
        by_cases hfull : scan.lineStart = 0 ∧ bytes.length = bufferCapacity - buffer.length
        · obtain ⟨p, ps, hsplit⟩ := splitOn_eq_cons (unread r')
          have hlong : bufferCapacity ≤ (buffer ++ bytes ++ p).length := by simp; omega
          rw [hfull.1, List.drop_zero] at hnew
          have hpieces := splitOn_append hsplit hnew
          have htoo := processPieces_tooLong f ps scan.lineNumber (ending r) hlong
          simp only [Proc.bind_apply, Proc.onFst_apply, Proc.mapErr_ok hread, if_neg hne,
            Proc.onSnd_apply, hscan, if_pos hfull, Proc.throw_apply]
          rw [hfull.1, List.drop_zero, hpieces, htoo]
          exact ⟨rfl, rfl⟩
        · have ih := processLinesLoop_eq fuel ((buffer ++ bytes).drop scan.lineStart)
            scan.lineNumber r' s' hnew (by simp at hstart hle ⊢; omega)
            (by rw [hcat] at hfuel; simp at hfuel; omega)
          rw [h3] at ih
          simpa [Proc.bind_apply, Proc.mapErr_ok hread, hne, hscan, hfull] using ih

/-- The whole input, split at its newlines, handled piece by piece. -/
theorem processLinesUtf8_eq (r : ρ) (s : σ) :
    (processLinesUtf8 f (r, s)).1
        = (processPieces f 1 ((unread r).splitOn newline) (ending r) s).1
      ∧ (processLinesUtf8 f (r, s)).2.2
        = (processPieces f 1 ((unread r).splitOn newline) (ending r) s).2 := by
  have hcap : ([] : List UInt8).length < bufferCapacity := by decide
  exact processLinesLoop_eq f _ [] 1 r s (by simp) hcap (Nat.lt_succ_self _)

theorem processLinesUtf8_keeps {f : Str → UInt32 → Proc σ T Unit} {I : σ → Prop}
    (hf : ∀ s n, '\n' ∉ s → (f s n).Keeps I) (r : ρ) {s : σ} (hs : I s) :
    I (processLinesUtf8 f (r, s)).2.2 := by
  rw [(processLinesUtf8_eq f r s).2]
  exact processPieces_keeps hf 1 _ _ (fun _ => newline_notMem_of_mem_splitOn) s hs

end Loop

/-! ## The reference -/

section Reference

/-- Without a last piece that is empty. -/
def dropLastEmpty (pieces : List (List UInt8)) : List (List UInt8) :=
  if pieces.getLast? = some [] then pieces.dropLast else pieces

/-- The lines of a file. -/
def linesOf (bytes : List UInt8) : List (List UInt8) := dropLastEmpty (bytes.splitOn newline)

variable {σ T : Type} (f : Str → UInt32 → Proc σ T Unit)

/-- What is to become of the line with a number: too long it is not even decoded. -/
def processLine (line : List UInt8) (lineNumber : UInt32) :
    Proc σ (ProcessFileLinesError T) Unit :=
  if 0x2000 ≤ line.length then .throw (.lineTooLong lineNumber 0x2000)
  else
    match fromUtf8 line with
    | .ok s => (f s lineNumber).mapErr (.cancelled lineNumber)
    | .error validUpTo => .throw (.invalidUtf8 lineNumber (validUpTo + 1))

/-- Lines that are numbered from `first` on, one after the other, and the number after the last. -/
def processNumbered (first : ℕ) (lines : List (List UInt8)) :
    Proc σ (ProcessFileLinesError T) UInt32 := do
  (lines.zipIdx first).forM fun line => processLine f line.1 (.ofNat line.2)
  pure (.ofNat (first + lines.length))

/-- The whole of a file, line by line. -/
def processLinesReference (bytes : List UInt8) : Proc σ (ProcessFileLinesError T) UInt32 :=
  processNumbered f 1 (linesOf bytes)

theorem dropLastEmpty_cons (piece : List UInt8) {pieces : List (List UInt8)} (h : pieces ≠ []) :
    dropLastEmpty (piece :: pieces) = piece :: dropLastEmpty pieces := by
  obtain ⟨p, ps, rfl⟩ := List.exists_cons_of_ne_nil h
  unfold dropLastEmpty
  rw [List.getLast?_cons_cons]
  split_ifs <;> simp

theorem processNumbered_cons (first : ℕ) (line : List UInt8) (lines : List (List UInt8)) :
    processNumbered f first (line :: lines)
      = (processLine f line (.ofNat first) >>= fun _ => processNumbered f (first + 1) lines) := by
  unfold processNumbered
  rw [List.zipIdx_cons, List.forM, Proc.bind_assoc, List.length_cons,
    show first + (lines.length + 1) = first + 1 + lines.length by omega]

theorem processLine_eq (line : List UInt8) (n : UInt32) :
    processLine f line n
      = if bufferCapacity ≤ line.length then .throw (.lineTooLong n bufferCapacity)
        else handleLine f line n := rfl

theorem processPieces_eq_numbered :
    ∀ (pieces : List (List UInt8)) (first : ℕ), pieces ≠ [] →
      processPieces f (.ofNat first) pieces .eof = processNumbered f first (dropLastEmpty pieces)
  | [], _, h => absurd rfl h
  | [piece], first, _ => by
    by_cases hpiece : piece = []
    · subst hpiece
      rfl
    · have hlast : dropLastEmpty [piece] = [piece] := by simp [dropLastEmpty, hpiece]
      rw [hlast, processNumbered_cons, processLine_eq]
      by_cases hlen : bufferCapacity ≤ piece.length
      · rw [processPieces_tooLong f [] _ _ hlen, if_pos hlen]
        rfl
      · rw [processPieces_last f _ _ (by omega), if_neg hlen]
        simp only [atEnding, lastLine, hpiece, ne_eq, not_false_eq_true, if_true]
        rw [← UInt32.ofNat_one, ← UInt32.ofNat_add]
        rfl
  | piece :: piece' :: pieces, first, _ => by
    have ih := processPieces_eq_numbered (piece' :: pieces) (first + 1) (List.cons_ne_nil _ _)
    rw [dropLastEmpty_cons piece (List.cons_ne_nil _ _), processNumbered_cons, processLine_eq, ← ih]
    by_cases hlen : bufferCapacity ≤ piece.length
    · rw [processPieces_tooLong f _ _ _ hlen, if_pos hlen]
      rfl
    · rw [processPieces_cons f _ _ (by omega) (List.cons_ne_nil _ _), if_neg hlen,
        UInt32.ofNat_add, UInt32.ofNat_one]

theorem processNumbered_settles (hf : ∀ s n, (f s n).Settles) (first : ℕ)
    (lines : List (List UInt8)) : (processNumbered f first lines).Settles := by
  refine .bind (.forM fun line => ?_) fun _ => .pure _
  unfold processLine
  split_ifs
  · exact .throw _
  · rcases fromUtf8 line.1 with e | s
    · exact .throw _
    · exact (hf s _).mapErr _

variable {ρ : Type} [AsyncRead ρ] {f} {r : ρ}

theorem processLinesUtf8_eof (hr : ending r = .eof) (s : σ) :
    (processLinesUtf8 f (r, s)).1 = (processLinesReference f (unread r) s).1
      ∧ (processLinesUtf8 f (r, s)).2.2 = (processLinesReference f (unread r) s).2 := by
  have hpieces := processPieces_eq_numbered f ((unread r).splitOn newline) 1
    (List.splitOn_ne_nil _ _)
  have heq := processLinesUtf8_eq f r s
  rwa [hr, ← UInt32.ofNat_one, hpieces] at heq

/-- However its bytes are cut into reads, a file is processed as its lines are, and all that may
then keep the function from returning is the callback. -/
theorem processLinesUtf8_eq_reference (hr : ending r = .eof) (s : σ) :
    (processLinesUtf8 f (r, s)).1 = (processLinesReference f (unread r) s).1
      ∧ (processLinesUtf8 f (r, s)).2.2 = (processLinesReference f (unread r) s).2
      ∧ ((∀ s n, (f s n).Settles) →
          (∃ n, (processLinesUtf8 f (r, s)).1 = .ok n)
            ∨ ∃ e, (processLinesUtf8 f (r, s)).1 = .error (.err e)) := by
  obtain ⟨h1, h2⟩ := processLinesUtf8_eof (f := f) hr s
  refine ⟨h1, h2, fun hf => ?_⟩
  rw [h1]
  exact processNumbered_settles f hf 1 _ s

/-- Two lines, the first of which takes two reads. -/
def cutLines : Source := ⟨utf8 ['a', 'b', '\n', 'c'], [0], .eof⟩

/-- Notes the line and its number. -/
def noteLine (s : Str) (n : UInt32) : Proc (List (Str × UInt32)) Unit Unit :=
  .modify fun lines => lines ++ [(s, n)]

theorem processLinesUtf8_cutLines :
    (processLinesUtf8 noteLine (cutLines, [])).2.2 = [(['a', 'b'], 1), (['c'], 2)]
      ∧ ((∃ n, (processLinesUtf8 noteLine (cutLines, [])).1 = .ok n)
        ∨ ∃ e, (processLinesUtf8 noteLine (cutLines, [])).1 = .error (.err e)) := by
  obtain ⟨-, h2, hreturns⟩ := processLinesUtf8_eq_reference (f := noteLine) (r := cutLines) rfl []
  exact ⟨h2.trans (by decide +kernel), hreturns fun _ _ _ => .inl ⟨(), rfl⟩⟩

end Reference

end DustDevil

import Mathlib.Order.Nat
import DustDevil.Lib.AsyncRead
import DustDevil.Lib.Net

/-!
# Exact reads

`readExact` and the integer reads go on reading until they have all the bytes they want. What they
return and what they leave unread is a function of the unread bytes (`fill_apply`), so they refine
the same reads from `Flat`, and so does every computation put together from them.
-/

namespace Wire

section Read

variable {ρ : Type} [AsyncRead ρ]

/-- `AsyncReadExt::read_exact`'s error at an early end of the stream. -/
def earlyEof : IoError := ⟨.unexpectedEof, "early eof".toList⟩

/-- `ErrorKind::UnexpectedEof.into()`, the integer reads' error at an early end of the stream. -/
def unexpectedEof : IoError := ⟨.unexpectedEof, "unexpected end of file".toList⟩

/-- Reads into a buffer of `n` bytes until it is full. Each read that goes on puts a byte in, so
`n` reads are enough. -/
def fill (early : IoError) : ℕ → ℕ → Proc ρ IoError (List UInt8)
  | _, 0 => pure []
  | 0, _ + 1 => .stop .running
  | fuel + 1, n + 1 => do
    let bs ← read (n + 1)
    if bs = [] then .throw early
    else do
      let rest ← fill early fuel (n + 1 - bs.length)
      pure (bs ++ rest)

def readExact (n : ℕ) : Proc ρ IoError (List UInt8) := fill earlyEof n n

def readU8 : Proc ρ IoError UInt8 := do
  let bs ← fill unexpectedEof 1 1
  pure (UInt8.ofNat (ofBigEndian bs))

def readU16 : Proc ρ IoError UInt16 := do
  let bs ← fill unexpectedEof 2 2
  pure (UInt16.ofNat (ofBigEndian bs))

def readU32 : Proc ρ IoError UInt32 := do
  let bs ← fill unexpectedEof 4 4
  pure (UInt32.ofNat (ofBigEndian bs))

def readU64 : Proc ρ IoError UInt64 := do
  let bs ← fill unexpectedEof 8 8
  pure (UInt64.ofNat (ofBigEndian bs))

def readI64 : Proc ρ IoError Int64 := do
  let n ← readU64
  pure n.toInt64

/-- What a reader has still to deliver, as `Flat` would deliver it. -/
def flat (r : ρ) : Flat := ⟨unread r, ending r⟩

@[simp] theorem flat_bytes (r : ρ) : (flat r).bytes = unread r := rfl

theorem fill_apply (early : IoError) :
    ∀ (fuel n : ℕ) (r : ρ), n ≤ fuel →
      (fill early fuel n r).1 = (if n ≤ (unread r).length then .ok ((unread r).take n)
        else .error ((ending r).short early))
      ∧ flat (fill early fuel n r).2 = ⟨(unread r).drop n, ending r⟩
  | fuel, 0, r, _ => by
    unfold fill
    simp [flat]
  | fuel + 1, n + 1, r, h => by
    unfold fill
    by_cases hr : unread r = []
    · obtain ⟨r', hread, h2, h3⟩ := read_at_end (n := n + 1) (by omega) hr
      simp only [hr, List.length_nil, Nat.le_zero_eq, Nat.add_one_ne_zero, if_false,
        List.drop_nil]
      rcases he : ending r with _ | e | _ <;> rw [he] at hread h3
      · simp [Proc.bind_ok hread, Ending.short, flat, h2, h3]
      · simp [Proc.bind_error hread, Ending.short, flat, h2, h3]
      · simp [Proc.bind_error hread, Ending.short, flat, h2, h3]
    · obtain ⟨bs, r', hread, hne, hle, hcat, h3⟩ := read_eq_ok (n := n + 1) (by omega) hr
      have hpos := List.length_pos_iff.2 hne
      obtain ⟨ih1, ih2⟩ := fill_apply early fuel (n + 1 - bs.length) r' (by omega)
      rw [h3] at ih1 ih2
      rw [Proc.bind_ok hread, if_neg hne, hcat, List.length_append, List.take_append,
        List.take_of_length_le hle, List.drop_append, List.drop_of_length_le hle, List.nil_append]
      by_cases hn : n + 1 - bs.length ≤ (unread r').length
      · rw [if_pos hn] at ih1
        rw [if_pos (by omega), Proc.bind_ok (Prod.ext ih1 rfl)]
        exact ⟨rfl, ih2⟩
      · rw [if_neg hn] at ih1
        rw [if_neg (by omega), Proc.bind_error (Prod.ext ih1 rfl)]
        exact ⟨rfl, ih2⟩

end Read

/-! ## Computations that depend on the bytes alone -/

section Refines

variable {ρ ε ε' α β : Type} [AsyncRead ρ]

/-- `p` does on every reader what `q` does on the reader's unread bytes. -/
def Refines (p : Proc ρ ε α) (q : Proc Flat ε α) : Prop :=
  ∀ r, (p r).1 = (q (flat r)).1 ∧ flat (p r).2 = (q (flat r)).2

theorem Refines.run {p : Proc ρ ε α} {q : Proc Flat ε α} (h : Refines p q) (r : ρ) :
    ∃ r', p r = ((q (flat r)).1, r') ∧ flat r' = (q (flat r)).2 :=
  ⟨(p r).2, Prod.ext (h r).1 rfl, (h r).2⟩

theorem Refines.run_eq {p : Proc ρ ε α} {q : Proc Flat ε α} (h : Refines p q) {r : ρ} {s : Flat}
    {x : Except (Stop ε) α} (hq : q (flat r) = (x, s)) :
    ∃ r', p r = (x, r') ∧ unread r' = s.bytes ∧ ending r' = s.ending := by
  obtain ⟨r', hp, hr'⟩ := h.run r
  rw [hq] at hp hr'
  dsimp only at hp hr'
  subst hr'
  exact ⟨r', hp, rfl, rfl⟩

theorem Refines.eq_ok {p : Proc ρ ε α} {q : Proc Flat ε α} (h : Refines p q) {r r' : ρ} {a : α}
    (hp : p r = (.ok a, r')) : q (flat r) = (.ok a, flat r') := by
  obtain ⟨h1, h2⟩ := h r
  rw [hp] at h1 h2
  exact Prod.ext h1.symm h2.symm

theorem Refines.pure (a : α) : Refines (pure a : Proc ρ ε α) (pure a) :=
  fun _ => ⟨rfl, rfl⟩

theorem Refines.throw (e : ε) : Refines (.throw e : Proc ρ ε α) (.throw e) :=
  fun _ => ⟨rfl, rfl⟩

theorem Refines.bind {p : Proc ρ ε α} {q : Proc Flat ε α} {f : α → Proc ρ ε β}
    {g : α → Proc Flat ε β} (hp : Refines p q) (hf : ∀ a, Refines (f a) (g a)) :
    Refines (p >>= f) (q >>= g) := by
  intro r
  obtain ⟨h1, h2⟩ := hp r
  rcases hq : q (flat r) with ⟨a | a, s⟩ <;> rw [hq] at h1 h2
  · rw [Proc.bind_error (Prod.ext h1 rfl), Proc.bind_error hq]
    exact ⟨rfl, h2⟩
  · rw [Proc.bind_ok (Prod.ext h1 rfl), Proc.bind_ok hq]
    have := hf a (p r).2
    rwa [h2] at this

theorem Refines.ite {c : Prop} [Decidable c] {p p' : Proc ρ ε α} {q q' : Proc Flat ε α}
    (h : Refines p q) (h' : Refines p' q') :
    Refines (if c then p else p') (if c then q else q') := by
  split_ifs
  · exact h
  · exact h'

theorem Refines.mapErr {p : Proc ρ ε α} {q : Proc Flat ε α} (h : Refines p q) (f : ε → ε') :
    Refines (p.mapErr f) (q.mapErr f) := by
  intro r
  obtain ⟨h1, h2⟩ := h r
  rcases hq : q (flat r) with ⟨a | a, s⟩ <;> rw [hq] at h1 h2
  · rw [Proc.mapErr_error (Prod.ext h1 rfl), Proc.mapErr_error hq]
    exact ⟨rfl, h2⟩
  · rw [Proc.mapErr_ok (Prod.ext h1 rfl), Proc.mapErr_ok hq]
    exact ⟨rfl, h2⟩

theorem fill_refines (early : IoError) {fuel n : ℕ} (h : n ≤ fuel) :
    Refines (fill early fuel n : Proc ρ _ _) (fill early fuel n) := by
  intro r
  obtain ⟨h1, h2⟩ := fill_apply early fuel n r h
  obtain ⟨h3, h4⟩ := fill_apply early fuel n (flat r) h
  exact ⟨h1.trans h3.symm, h2.trans h4.symm⟩

theorem readExact_refines (n : ℕ) : Refines (readExact n : Proc ρ _ _) (readExact n) :=
  fill_refines _ le_rfl

theorem readU8_refines : Refines (readU8 : Proc ρ _ _) readU8 :=
  (fill_refines _ le_rfl).bind fun _ => .pure _

theorem readU16_refines : Refines (readU16 : Proc ρ _ _) readU16 :=
  (fill_refines _ le_rfl).bind fun _ => .pure _

theorem readU32_refines : Refines (readU32 : Proc ρ _ _) readU32 :=
  (fill_refines _ le_rfl).bind fun _ => .pure _

theorem readU64_refines : Refines (readU64 : Proc ρ _ _) readU64 :=
  (fill_refines _ le_rfl).bind fun _ => .pure _

theorem readI64_refines : Refines (readI64 : Proc ρ _ _) readI64 :=
  readU64_refines.bind fun _ => .pure _

/-- As `Refines`, but after an error or another stop `p` may have read further than `q`. -/
def RefinesOk (p : Proc ρ ε α) (q : Proc Flat ε α) : Prop :=
  ∀ r, (p r).1 = (q (flat r)).1 ∧ ∀ a, (p r).1 = .ok a → flat (p r).2 = (q (flat r)).2

theorem Refines.refinesOk {p : Proc ρ ε α} {q : Proc Flat ε α} (h : Refines p q) : RefinesOk p q :=
  fun r => ⟨(h r).1, fun _ _ => (h r).2⟩

theorem RefinesOk.bind {p : Proc ρ ε α} {q : Proc Flat ε α} {f : α → Proc ρ ε β}
    {g : α → Proc Flat ε β} (hp : RefinesOk p q) (hf : ∀ a, RefinesOk (f a) (g a)) :
    RefinesOk (p >>= f) (q >>= g) := by
  intro r
  obtain ⟨h1, h2⟩ := hp r
  rcases hq : q (flat r) with ⟨a | a, s⟩ <;> rw [hq] at h1 h2
  · rw [Proc.bind_error (Prod.ext h1 rfl), Proc.bind_error hq]
    exact ⟨rfl, fun _ h => nomatch h⟩
  · rw [Proc.bind_ok (Prod.ext h1 rfl), Proc.bind_ok hq]
    have hfa := hf a (p r).2
    rwa [h2 a h1] at hfa

theorem RefinesOk.ite {c : Prop} [Decidable c] {p p' : Proc ρ ε α} {q q' : Proc Flat ε α}
    (h : RefinesOk p q) (h' : RefinesOk p' q') :
    RefinesOk (if c then p else p') (if c then q else q') := by
  split_ifs
  · exact h
  · exact h'

theorem RefinesOk.mapErr {p : Proc ρ ε α} {q : Proc Flat ε α} (h : RefinesOk p q) (f : ε → ε') :
    RefinesOk (p.mapErr f) (q.mapErr f) := by
  intro r
  obtain ⟨h1, h2⟩ := h r
  rcases hq : q (flat r) with ⟨a | a, s⟩ <;> rw [hq] at h1 h2
  · rw [Proc.mapErr_error (Prod.ext h1 rfl), Proc.mapErr_error hq]
    exact ⟨rfl, fun _ h => nomatch h⟩
  · rw [Proc.mapErr_ok (Prod.ext h1 rfl), Proc.mapErr_ok hq]
    exact ⟨rfl, fun _ _ => h2 a h1⟩

end Refines

/-! ## Exact reads from `Flat` -/

section Flat

variable {bs rest : List UInt8} {e : Ending}

theorem fill_flat (early : IoError) {fuel n : ℕ} (h : n ≤ fuel) (r : Flat) :
    fill early fuel n r = (if n ≤ r.bytes.length then .ok (r.bytes.take n)
      else .error (r.ending.short early), ⟨r.bytes.drop n, r.ending⟩) :=
  Prod.ext (fill_apply early fuel n r h).1 (fill_apply early fuel n r h).2

theorem readExact_append {n : ℕ} (h : bs.length = n) :
    readExact n (⟨bs ++ rest, e⟩ : Flat) = (.ok bs, ⟨rest, e⟩) := by
  simp [readExact, fill_flat, ← h]

theorem readExact_eq_ok {n : ℕ} {r r' : Flat} (h : readExact n r = (.ok bs, r')) :
    r.bytes = bs ++ r'.bytes ∧ bs.length = n ∧ r'.ending = r.ending := by
  rw [readExact, fill_flat _ le_rfl] at h
  simp only [Prod.mk.injEq] at h
  obtain ⟨h1, rfl⟩ := h
  split_ifs at h1 with hn
  simp only [Except.ok.injEq] at h1
  subst h1
  simp [hn]

@[simp] theorem readU8_cons (b : UInt8) :
    readU8 (⟨b :: rest, e⟩ : Flat) = (.ok b, ⟨rest, e⟩) := by
  rw [readU8, Proc.bind_ok (fill_flat _ le_rfl _)]
  simp [ofBigEndian]

@[simp] theorem readU8_nil :
    readU8 (⟨[], e⟩ : Flat) = (.error (e.short unexpectedEof), ⟨[], e⟩) := by
  rw [readU8, Proc.bind_error (fill_flat _ le_rfl _)]
  rfl

theorem readU8_eq_ok {b : UInt8} {r r' : Flat} (h : readU8 r = (.ok b, r')) :
    r.bytes = b :: r'.bytes ∧ r'.ending = r.ending := by
  rcases r with ⟨_ | ⟨b', bs⟩, e⟩
  · simp at h
  · simp only [readU8_cons, Prod.mk.injEq, Except.ok.injEq] at h
    obtain ⟨rfl, rfl⟩ := h
    exact ⟨rfl, rfl⟩

@[simp] theorem readU16_cons_cons (hi lo : UInt8) :
    readU16 (⟨hi :: lo :: rest, e⟩ : Flat)
      = (.ok (UInt16.ofNat (ofBigEndian [hi, lo])), ⟨rest, e⟩) := by
  rw [readU16, Proc.bind_ok (fill_flat _ le_rfl _)]
  simp

end Flat

section FirstByte

variable {ρ : Type} [AsyncRead ρ] {r : ρ}

theorem readU8_of_cons {b : UInt8} {bs : List UInt8} (h : unread r = b :: bs) :
    ∃ r', readU8 r = (.ok b, r') ∧ unread r' = bs ∧ ending r' = ending r :=
  readU8_refines.run_eq (s := ⟨bs, ending r⟩) (by rw [flat, h, readU8_cons])

theorem bind_readU8_of_cons {ε α : Type} {b : UInt8} {bs : List UInt8} (h : unread r = b :: bs)
    (g : IoError → ε) :
    ∃ r', unread r' = bs ∧ ending r' = ending r
      ∧ ∀ f : UInt8 → Proc ρ ε α, (readU8.mapErr g >>= f) r = f b r' := by
  obtain ⟨r', hr', hunread, hending⟩ := readU8_of_cons h
  exact ⟨r', hunread, hending, fun f => Proc.bind_ok (Proc.mapErr_ok hr' g) f⟩

theorem readU16_of_cons_cons {hi lo : UInt8} {bs : List UInt8} (h : unread r = hi :: lo :: bs) :
    ∃ r', readU16 r = (.ok (UInt16.ofNat (ofBigEndian [hi, lo])), r') ∧ unread r' = bs
      ∧ ending r' = ending r :=
  readU16_refines.run_eq (s := ⟨bs, ending r⟩) (by rw [flat, h, readU16_cons_cons])

theorem readExact_of_append {n : ℕ} {bs rest : List UInt8} (h : unread r = bs ++ rest)
    (hlen : bs.length = n) :
    ∃ r', readExact n r = (.ok bs, r') ∧ unread r' = rest ∧ ending r' = ending r :=
  (readExact_refines n).run_eq (s := ⟨rest, ending r⟩) (by rw [flat, h, readExact_append hlen])

theorem readU8_eq_cons {r' : ρ} {b : UInt8} (h : readU8 r = (.ok b, r')) :
    unread r = b :: unread r' :=
  (readU8_eq_ok (readU8_refines.eq_ok h)).1

theorem readExact_eq_append {r' : ρ} {n : ℕ} {bs : List UInt8}
    (h : readExact n r = (.ok bs, r')) : unread r = bs ++ unread r' ∧ bs.length = n := by
  obtain ⟨hcat, hlen, -⟩ := readExact_eq_ok ((readExact_refines n).eq_ok h)
  exact ⟨hcat, hlen⟩

theorem readU16_eq_cons_cons {r' : ρ} {x : UInt16} (h : readU16 r = (.ok x, r')) :
    ∃ hi lo, unread r = hi :: lo :: unread r' ∧ x = UInt16.ofNat (ofBigEndian [hi, lo]) := by
  obtain ⟨bs, r1, hbs, h⟩ := Proc.bind_eq_ok h
  simp only [Proc.pure_apply, Prod.mk.injEq, Except.ok.injEq] at h
  obtain ⟨rfl, rfl⟩ := h
  have hflat := (fill_refines unexpectedEof le_rfl).eq_ok hbs
  rw [fill_flat _ le_rfl, Prod.mk.injEq] at hflat
  obtain ⟨h1, h2⟩ := hflat
  split_ifs at h1 with hle
  rw [Except.ok.injEq] at h1
  rcases hr : unread r with _ | ⟨hi, _ | ⟨lo, rest⟩⟩ <;> simp [hr] at hle
  refine ⟨hi, lo, ?_, by simp [← h1, hr]⟩
  have hrest := congrArg Flat.bytes h2
  simp only [flat_bytes, hr, List.drop_succ_cons, List.drop_zero] at hrest
  rw [hrest]

theorem readU8_of_nil (h : unread r = []) :
    ∃ r', readU8 r = (.error ((ending r).short unexpectedEof), r') ∧ ending r' = ending r := by
  obtain ⟨r', hr', -, hend⟩ := readU8_refines.run_eq (r := r) (s := ⟨[], ending r⟩) (by
    rw [flat, h, readU8_nil])
  exact ⟨r', hr', hend⟩

end FirstByte

/-! ## Ending with the stream -/

section Finishes

variable {ρ ε ε' α β : Type} [AsyncRead ρ]

def Settled : Except (Stop ε) α → Prop
  | .ok _ => True
  | .error (.err _) => True
  | .error _ => False

/-- From `r` on, `p` comes to a result or an error and leaves a stream that ends. -/
def FinishesFrom (p : Proc ρ ε α) (r : ρ) : Prop := Settled (p r).1 ∧ ending (p r).2 = .eof

/-- On every stream that ends, `p` comes to a result or an error. -/
def FinishesAtEof (p : Proc ρ ε α) : Prop := ∀ r, ending r = .eof → FinishesFrom p r

theorem FinishesFrom.bind {p : Proc ρ ε α} {f : α → Proc ρ ε β} {r : ρ} (hp : FinishesFrom p r)
    (hf : ∀ a, FinishesAtEof (f a)) : FinishesFrom (p >>= f) r := by
  obtain ⟨h1, h2⟩ := hp
  rcases Proc.bind_cases p f r with ⟨a, r', h, heq⟩ | ⟨e, r', h, heq⟩ <;>
    rw [FinishesFrom, heq] <;> rw [h] at h1 h2
  · exact hf a r' h2
  · refine ⟨?_, h2⟩
    cases e <;> first | exact trivial | exact h1

theorem FinishesFrom.mapErr {p : Proc ρ ε α} {r : ρ} (hp : FinishesFrom p r) (f : ε → ε') :
    FinishesFrom (p.mapErr f) r := by
  obtain ⟨h1, h2⟩ := hp
  rcases h : p r with ⟨e | a, r'⟩ <;> rw [h] at h1 h2
  · unfold FinishesFrom
    rw [Proc.mapErr_error h]
    refine ⟨?_, h2⟩
    cases e <;> first | exact trivial | exact h1
  · unfold FinishesFrom
    rw [Proc.mapErr_ok h]
    exact ⟨trivial, h2⟩

theorem FinishesAtEof.pure (a : α) : FinishesAtEof (pure a : Proc ρ ε α) :=
  fun _ h => ⟨trivial, h⟩

theorem FinishesAtEof.throw (e : ε) : FinishesAtEof (.throw e : Proc ρ ε α) :=
  fun _ h => ⟨trivial, h⟩

theorem FinishesAtEof.bind {p : Proc ρ ε α} {f : α → Proc ρ ε β} (hp : FinishesAtEof p)
    (hf : ∀ a, FinishesAtEof (f a)) : FinishesAtEof (p >>= f) :=
  fun r hr => (hp r hr).bind hf

theorem fill_finishesAtEof (early : IoError) {fuel n : ℕ} (h : n ≤ fuel) :
    FinishesAtEof (fill early fuel n : Proc ρ _ _) := by
  intro r hr
  obtain ⟨h1, h2⟩ := fill_apply early fuel n r h
  rw [hr] at h1 h2
  refine ⟨?_, congrArg Flat.ending h2⟩
  rw [h1]
  split_ifs <;> exact trivial

theorem readExact_finishesAtEof (n : ℕ) : FinishesAtEof (readExact n : Proc ρ _ _) :=
  fill_finishesAtEof _ le_rfl

theorem readU16_finishesAtEof : FinishesAtEof (readU16 : Proc ρ _ _) :=
  (fill_finishesAtEof _ le_rfl).bind fun _ => .pure _

theorem finishesFrom_bind_readU8 {r : ρ} {g : IoError → ε} {f : UInt8 → Proc ρ ε α}
    (hend : ending r = .eof)
    (hf : ∀ b r', unread r = b :: unread r' → ending r' = .eof → FinishesFrom (f b) r') :
    FinishesFrom (readU8.mapErr g >>= f) r := by
  rcases hr : unread r with _ | ⟨b, bs⟩
  · obtain ⟨r', hr', hend'⟩ := readU8_of_nil hr
    unfold FinishesFrom
    rw [Proc.bind_error (Proc.mapErr_error hr' _)]
    refine ⟨?_, hend'.trans hend⟩
    rw [hend]
    trivial
  · obtain ⟨r', hunread, hend', heq⟩ := bind_readU8_of_cons hr g
    unfold FinishesFrom
    rw [heq]
    exact hf b r' (by rw [hr, hunread]) (hend'.trans hend)

end Finishes

end Wire

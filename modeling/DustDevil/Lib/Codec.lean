import DustDevil.Lib.ReadExt

/-!
# Writing values and reading them back

A writer here takes every byte it is given. `Carries w p a` says that what `w` writes is read back
by `p` as `a`: from those bytes and no more, whatever follows them, and not from fewer.
-/

namespace Wire

/-- What has been put into a writer. -/
abbrev Sink := List UInt8

section Write

variable {ε : Type}

def writeAll (bs : List UInt8) : Proc Sink ε Unit := .modify (· ++ bs)

def writeU8 (b : UInt8) : Proc Sink ε Unit := writeAll [b]

def writeU16 (n : UInt16) : Proc Sink ε Unit := writeAll (toBigEndian 2 n.toNat)

def writeU32 (n : UInt32) : Proc Sink ε Unit := writeAll (toBigEndian 4 n.toNat)

def writeU64 (n : UInt64) : Proc Sink ε Unit := writeAll (toBigEndian 8 n.toNat)

def writeI64 (n : Int64) : Proc Sink ε Unit := writeU64 n.toUInt64

/-- `p` puts `bs` into the writer. -/
def Writes (p : Proc Sink ε Unit) (bs : List UInt8) : Prop := ∀ out, p out = (.ok (), out ++ bs)

theorem writeAll_writes (bs : List UInt8) : Writes (writeAll bs : Proc Sink ε Unit) bs :=
  fun _ => rfl

theorem Writes.pure : Writes (pure () : Proc Sink ε Unit) [] :=
  fun out => by rw [Proc.pure_apply, List.append_nil]

theorem Writes.bind {p q : Proc Sink ε Unit} {bs bs' : List UInt8} (hp : Writes p bs)
    (hq : Writes q bs') : Writes (p >>= fun _ => q) (bs ++ bs') := by
  intro out
  rw [Proc.bind_ok (hp out), hq, List.append_assoc]

end Write

/-! ## Reading from exactly these bytes -/

section Reads

variable {ε ε' α β : Type} {bs bs' : List UInt8} {a : α} {b : β}

/-- `p` reads `a` from `bs`: it takes these bytes and leaves what follows them, and on a stream that
ends among them it stops with an error. -/
structure Reads (p : Proc Flat ε α) (bs : List UInt8) (a : α) : Prop where
  full : ∀ rest e, p ⟨bs ++ rest, e⟩ = (.ok a, ⟨rest, e⟩)
  cut : ∀ k < bs.length, ∃ e r, p ⟨bs.take k, .eof⟩ = (.error (.err e), r)

theorem Reads.pure (a : α) : Reads (pure a : Proc Flat ε α) [] a where
  full _ _ := rfl
  cut _ hk := absurd hk (Nat.not_lt_zero _)

theorem Reads.bind {p : Proc Flat ε α} {f : α → Proc Flat ε β} (hp : Reads p bs a)
    (hf : Reads (f a) bs' b) : Reads (p >>= f) (bs ++ bs') b where
  full rest e := by rw [List.append_assoc, Proc.bind_ok (hp.full _ _), hf.full]
  cut k hk := by
    rcases Nat.lt_or_ge k bs.length with hlt | hge
    · obtain ⟨e, r, h⟩ := hp.cut k hlt
      rw [List.take_append_of_le_length hlt.le]
      exact ⟨e, r, Proc.bind_error h f⟩
    · rw [List.length_append] at hk
      obtain ⟨e, r, h⟩ := hf.cut (k - bs.length) (by omega)
      rw [List.take_append, List.take_of_length_le hge, Proc.bind_ok (hp.full _ _)]
      exact ⟨e, r, h⟩

theorem Reads.map {p : Proc Flat ε α} (hp : Reads p bs a) (f : α → β) :
    Reads (p >>= fun a => Pure.pure (f a)) bs (f a) := by
  have h := hp.bind (f := fun a => Pure.pure (f a)) (Reads.pure (f a))
  rwa [List.append_nil] at h

theorem Reads.mapErr {p : Proc Flat ε α} (hp : Reads p bs a) (f : ε → ε') :
    Reads (p.mapErr f) bs a where
  full rest e := Proc.mapErr_ok (hp.full rest e) f
  cut k hk := by
    obtain ⟨e, r, h⟩ := hp.cut k hk
    exact ⟨f e, r, Proc.mapErr_error h f⟩

theorem fill_reads (early : IoError) {n : ℕ} (h : bs.length = n) :
    Reads (fill early n n) bs bs where
  full rest e := by simp [fill_flat, ← h]
  cut k hk := by
    have hlen : (bs.take k).length < n := by
      rw [List.length_take]
      omega
    exact ⟨early, _, by rw [fill_flat _ le_rfl, if_neg (Nat.not_le.2 hlen)]; rfl⟩

theorem readExact_reads {n : ℕ} (h : bs.length = n) : Reads (readExact n) bs bs :=
  fill_reads _ h

theorem readU8_reads (b : UInt8) : Reads readU8 [b] b := by
  have h := (fill_reads unexpectedEof (length_toBigEndian 1 b.toNat)).map fun bs =>
    UInt8.ofNat (ofBigEndian bs)
  rwa [ofBigEndian_toBigEndian _ _ b.toNat_lt, UInt8.ofNat_toNat, toBigEndian_one] at h

theorem readU16_reads (n : UInt16) : Reads readU16 (toBigEndian 2 n.toNat) n := by
  have h := (fill_reads unexpectedEof (length_toBigEndian 2 n.toNat)).map fun bs =>
    UInt16.ofNat (ofBigEndian bs)
  rwa [ofBigEndian_toBigEndian _ _ n.toNat_lt, UInt16.ofNat_toNat] at h

theorem readU32_reads (n : UInt32) : Reads readU32 (toBigEndian 4 n.toNat) n := by
  have h := (fill_reads unexpectedEof (length_toBigEndian 4 n.toNat)).map fun bs =>
    UInt32.ofNat (ofBigEndian bs)
  rwa [ofBigEndian_toBigEndian _ _ n.toNat_lt, UInt32.ofNat_toNat] at h

theorem readU64_reads (n : UInt64) : Reads readU64 (toBigEndian 8 n.toNat) n := by
  have h := (fill_reads unexpectedEof (length_toBigEndian 8 n.toNat)).map fun bs =>
    UInt64.ofNat (ofBigEndian bs)
  rwa [ofBigEndian_toBigEndian _ _ n.toNat_lt, UInt64.ofNat_toNat] at h

end Reads

/-! ## Carrying a value -/

section Carries

variable {ε ε' ε'' α β : Type} {a : α} {b : β} {w w' : Proc Sink ε Unit}

/-- What `w` writes, `p` reads back as `a`. -/
def Carries (w : Proc Sink ε Unit) (p : Proc Flat ε' α) (a : α) : Prop :=
  ∃ bs, Writes w bs ∧ Reads p bs a

theorem Carries.pure (a : α) : Carries (pure () : Proc Sink ε Unit) (pure a : Proc Flat ε' α) a :=
  ⟨[], .pure, .pure a⟩

theorem Carries.bind {p : Proc Flat ε' α} {f : α → Proc Flat ε' β} (h : Carries w p a)
    (h' : Carries w' (f a) b) : Carries (w >>= fun _ => w') (p >>= f) b := by
  obtain ⟨bs, hw, hp⟩ := h
  obtain ⟨bs', hw', hf⟩ := h'
  exact ⟨bs ++ bs', hw.bind hw', hp.bind hf⟩

theorem Carries.map {p : Proc Flat ε' α} (h : Carries w p a) (f : α → β) :
    Carries w (p >>= fun a => Pure.pure (f a)) (f a) := by
  obtain ⟨bs, hw, hp⟩ := h
  exact ⟨bs, hw, hp.map f⟩

theorem Carries.bind_pure {p : Proc Flat ε' α} {f : α → Proc Flat ε' β} (h : Carries w p a)
    (hf : f a = Pure.pure b) : Carries w (p >>= f) b := by
  obtain ⟨bs, hw, hp⟩ := h
  have hb := hp.bind (f := f) (hf ▸ Reads.pure b)
  rw [List.append_nil] at hb
  exact ⟨bs, hw, hb⟩

theorem Carries.mapErr {p : Proc Flat ε' α} (h : Carries w p a) (g : ε' → ε'') :
    Carries w (p.mapErr g) a := by
  obtain ⟨bs, hw, hp⟩ := h
  exact ⟨bs, hw, hp.mapErr g⟩

theorem carries_writeAll {n : ℕ} {bs : List UInt8} (h : bs.length = n) :
    Carries (writeAll bs : Proc Sink ε Unit) (readExact n) bs :=
  ⟨bs, writeAll_writes bs, readExact_reads h⟩

theorem carries_u8 (b : UInt8) : Carries (writeU8 b : Proc Sink ε Unit) readU8 b :=
  ⟨_, writeAll_writes _, readU8_reads b⟩

theorem carries_u16 (n : UInt16) : Carries (writeU16 n : Proc Sink ε Unit) readU16 n :=
  ⟨_, writeAll_writes _, readU16_reads n⟩

theorem carries_u32 (n : UInt32) : Carries (writeU32 n : Proc Sink ε Unit) readU32 n :=
  ⟨_, writeAll_writes _, readU32_reads n⟩

theorem carries_u64 (n : UInt64) : Carries (writeU64 n : Proc Sink ε Unit) readU64 n :=
  ⟨_, writeAll_writes _, readU64_reads n⟩

theorem carries_i64 (n : Int64) : Carries (writeI64 n : Proc Sink ε Unit) readI64 n := by
  have h := (carries_u64 (ε := ε) n.toUInt64).map UInt64.toInt64
  rwa [Int64.toInt64_toUInt64] at h

end Carries

/-! ## On any reader -/

section Run

variable {ρ ε ε' α : Type} [AsyncRead ρ] {p : Proc ρ ε α} {q : Proc Flat ε α}
  {bs rest : List UInt8} {a : α} {r : ρ}

theorem Reads.run (h : Reads q bs a) (hpq : Refines p q) (hr : unread r = bs ++ rest) :
    ∃ r', p r = (.ok a, r') ∧ unread r' = rest ∧ ending r' = ending r :=
  hpq.run_eq (s := ⟨rest, ending r⟩) (by rw [flat, hr, h.full])

theorem Reads.run_cut (h : Reads q bs a) (hpq : Refines p q) {k : ℕ} (hk : k < bs.length) :
    ∃ e, ∀ r : ρ, unread r = bs.take k → ending r = .eof →
      ∃ r', p r = (.error (.err e), r') := by
  obtain ⟨e, s, hq⟩ := h.cut k hk
  refine ⟨e, fun r hr hend => ?_⟩
  obtain ⟨r', hp, -⟩ := hpq.run_eq (r := r) (by rw [flat, hr, hend, hq])
  exact ⟨r', hp⟩

/-- What `w` writes into an empty writer, followed by `rest`, is on every reader read back by `p`
as `a`, and `rest` is left. -/
def RoundTrips (w : Proc Sink ε Unit) (p : {ρ : Type} → [AsyncRead ρ] → Proc ρ ε' α) (a : α)
    (rest : List UInt8) : Prop :=
  ∃ bytes, w [] = (.ok (), bytes) ∧ ∀ {ρ : Type} [AsyncRead ρ] (r : ρ), unread r = bytes ++ rest →
    ∃ r', p r = (.ok a, r') ∧ unread r' = rest ∧ ending r' = ending r

theorem Carries.roundTrips {w : Proc Sink ε Unit}
    {p : {ρ : Type} → [AsyncRead ρ] → Proc ρ ε' α} (h : Carries w p a)
    (hp : ∀ {ρ : Type} [AsyncRead ρ], Refines (p : Proc ρ ε' α) p) (rest : List UInt8) :
    RoundTrips w p a rest := by
  obtain ⟨bytes, hw, hreads⟩ := h
  exact ⟨bytes, hw [], fun r hr => hreads.run hp hr⟩

end Run

end Wire

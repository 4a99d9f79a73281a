import DustDevil.Server.Socks5

/-!
# What the socks5 request parser does at the end of the stream

Every read of the parser stops at the end of the stream but those of `read_domainname`, which go on
for ever when the stream ends within the name. So the parser finishes on every finite input but the
ones that end there (`parseRequest_finishes_iff`).
-/

namespace DustDevil

open Wire

variable {ρ : Type} [AsyncRead ρ]

/-! ## The bytes of a name -/

section Name

theorem readNameBytes_of_le :
    ∀ (fuel n : ℕ) (r : ρ), n ≤ fuel → n ≤ (unread r).length →
      (∀ b ∈ (unread r).take n, isNameByte b) →
      ∃ r', readNameBytes fuel n r = (.ok ((unread r).take n), r')
        ∧ unread r' = (unread r).drop n ∧ ending r' = ending r
  | fuel, 0, r, _, _, _ => ⟨r, by rw [readNameBytes]; rfl, rfl, rfl⟩
  | fuel + 1, n + 1, r, hfuel, hlen, hname => by
    have hr : unread r ≠ [] := List.length_pos_iff.1 (by omega)
    obtain ⟨bytes, r', hread, hne, hle, hcat, hend⟩ := read_eq_ok (n := n + 1) (by omega) hr
    have hpos := List.length_pos_iff.2 hne
    rw [hcat, List.take_append, List.take_of_length_le hle] at hname
    rw [hcat, List.length_append] at hlen
    have hfind : (bytes.find? fun c => !isNameByte c) = none := by
      rw [List.find?_eq_none]
      intro b hb
      simp [hname b (List.mem_append_left _ hb)]
    obtain ⟨r'', hrest, hunread, hend'⟩ := readNameBytes_of_le fuel (n + 1 - bytes.length) r'
      (by omega) (by omega) fun b hb => hname b (List.mem_append_right _ hb)
    refine ⟨r'', ?_, ?_, hend'.trans hend⟩
    · unfold readNameBytes
      rw [Proc.bind_ok hread]
      simp only [hfind]
      rw [Proc.bind_ok hrest, hcat, List.take_append, List.take_of_length_le hle]
      rfl
    · rw [hunread, hcat, List.drop_append, List.drop_of_length_le hle, List.nil_append]

/-- The first byte that no name has ends the loop as soon as it is read. -/
theorem readNameBytes_of_bad {c : UInt8} :
    ∀ (fuel n : ℕ) (r : ρ), n ≤ fuel →
      (((unread r).take n).find? fun c => !isNameByte c) = some c →
        ∃ r', readNameBytes fuel n r = (.error (.err (invalidData
            ("Domainname contains invalid character: " ++ toString c))), r')
          ∧ ending r' = ending r
  | fuel, 0, r, _, h => by simp at h
  | fuel + 1, n + 1, r, hfuel, h => by
    have hr : unread r ≠ [] := by
      rintro hr
      simp [hr] at h
    obtain ⟨bytes, r', hread, hne, hle, hcat, hend⟩ := read_eq_ok (n := n + 1) (by omega) hr
    have hpos := List.length_pos_iff.2 hne
    rw [hcat, List.take_append, List.take_of_length_le hle, List.find?_append] at h
    unfold readNameBytes
    rw [Proc.bind_ok hread]
    rcases hfind : bytes.find? fun c => !isNameByte c with _ | c'
    · rw [hfind, Option.none_or] at h
      obtain ⟨r'', hrun, hend'⟩ := readNameBytes_of_bad fuel (n + 1 - bytes.length) r' (by omega) h
      exact ⟨r'', Proc.bind_error hrun _, hend'.trans hend⟩
    · rw [hfind, Option.some_or] at h
      obtain rfl : c' = c := Option.some.inj h
      exact ⟨r', rfl, hend⟩

/-- When the stream ends within the name, no number of reads is enough. -/
theorem readNameBytes_of_short :
    ∀ (fuel n : ℕ) (r : ρ), ending r = .eof → (unread r).length < n →
      (∀ b ∈ unread r, isNameByte b) → (readNameBytes fuel n r).1 = .error .running
  | _, 0, r, _, hlen, _ => by omega
  | 0, n + 1, r, _, _, _ => by rw [readNameBytes]; rfl
  | fuel + 1, n + 1, r, hend, hlen, hname => by
    by_cases hr : unread r = []
    · obtain ⟨r', hread, hr', hend'⟩ := read_at_end (n := n + 1) (by omega) hr
      rw [hend] at hread hend'
      have ih := readNameBytes_of_short fuel (n + 1) r' hend' (by simp [hr']) (by simp [hr'])
      unfold readNameBytes
      rw [Proc.bind_ok hread]
      simp only [List.find?_nil, List.length_nil, Nat.sub_zero]
      rw [Proc.bind_error (Prod.ext ih rfl)]
    · obtain ⟨bytes, r', hread, hne, hle, hcat, hend'⟩ := read_eq_ok (n := n + 1) (by omega) hr
      rw [hcat] at hname hlen
      rw [List.length_append] at hlen
      have hfind : (bytes.find? fun c => !isNameByte c) = none := by
        rw [List.find?_eq_none]
        intro b hb
        simp [hname b (List.mem_append_left _ hb)]
      have ih := readNameBytes_of_short fuel (n + 1 - bytes.length) r' (hend'.trans hend)
        (by omega) fun b hb => hname b (List.mem_append_right _ hb)
      unfold readNameBytes
      rw [Proc.bind_ok hread]
      simp only [hfind]
      rw [Proc.bind_error (Prod.ext ih rfl)]

end Name

/-! ## The request -/

section Request

variable {r : ρ}

/-- The stream ends within a name all of whose bytes so far are valid. -/
def EndsWithinName (bytes : List UInt8) : Prop :=
  ∃ rsv length name, bytes = 5 :: 1 :: rsv :: 3 :: length :: name ∧ name.length < length.toNat
    ∧ ∀ b ∈ name, isNameByte b

theorem parseRequest_header {rsv atyp : UInt8} {bs : List UInt8}
    (h : unread r = 5 :: 1 :: rsv :: atyp :: bs) :
    ∃ r', unread r' = bs ∧ ending r' = ending r
      ∧ ∀ fuel, parseRequest fuel r = parseDestination fuel atyp r' := by
  obtain ⟨r1, hr1, he1, h1⟩ := bind_readU8_of_cons h ParseRequestError.io
  obtain ⟨r2, hr2, he2, h2⟩ := bind_readU8_of_cons hr1 ParseRequestError.io
  obtain ⟨r3, hr3, he3, h3⟩ := bind_readU8_of_cons hr2 ParseRequestError.io
  obtain ⟨r4, hr4, he4, h4⟩ := bind_readU8_of_cons hr3 ParseRequestError.io
  refine ⟨r4, hr4, by rw [he4, he3, he2, he1], fun fuel => ?_⟩
  unfold parseRequest
  rw [h1, if_neg (by decide), h2, if_neg (by decide), h3, h4]

/-- A name that the stream does not cut short is read, or refused, in as many reads as it has
bytes. -/
theorem readNameBytes_finishesFrom {fuel n : ℕ} (hend : ending r = .eof) (hfuel : n ≤ fuel)
    (h : (unread r).length < n → ∃ b ∈ unread r, isNameByte b = false) :
    FinishesFrom (readNameBytes fuel n) r := by
  by_cases hall : ∀ b ∈ (unread r).take n, isNameByte b
  · have hlen : n ≤ (unread r).length := by
      by_contra hlt
      obtain ⟨b, hb, hb'⟩ := h (by omega)
      have hb'' := hall b (by rwa [List.take_of_length_le (by omega)])
      rw [hb'] at hb''
      exact absurd hb'' (by decide)
    obtain ⟨r', hrun, -, hend'⟩ := readNameBytes_of_le fuel n r hfuel hlen hall
    unfold FinishesFrom
    rw [hrun]
    exact ⟨trivial, hend'.trans hend⟩
  · obtain ⟨c, hc⟩ : ∃ c, (((unread r).take n).find? fun c => !isNameByte c) = some c := by
      rw [← Option.isSome_iff_exists, List.find?_isSome]
      simpa using hall
    obtain ⟨r', hrun, hend'⟩ := readNameBytes_of_bad fuel n r hfuel hc
    unfold FinishesFrom
    rw [hrun]
    exact ⟨trivial, hend'.trans hend⟩

theorem readDomainname_finishesFrom (hend : ending r = .eof)
    (h : ∀ length name, unread r = length :: name → name.length < length.toNat →
      ∃ b ∈ name, isNameByte b = false) :
    FinishesFrom (readDomainname 255) r := by
  rw [readDomainname, ← Proc.mapErr_id readU8]
  apply finishesFrom_bind_readU8 hend
  intro length r1 hr1 he1
  split_ifs with hzero
  · exact FinishesAtEof.throw _ r1 he1
  have hle : length.toNat ≤ 255 := Nat.le_of_lt_succ length.toNat_lt
  exact (readNameBytes_finishesFrom he1 hle (h length _ hr1)).bind fun _ => .pure _

theorem parseRequest_finishesFrom (hend : ending r = .eof) {fuel : ℕ}
    (h : ∀ rsv atyp (r' : ρ), unread r = 5 :: 1 :: rsv :: atyp :: unread r' → ending r' = .eof →
      FinishesFrom (parseDestination fuel atyp) r') :
    FinishesFrom (parseRequest fuel) r := by
  apply finishesFrom_bind_readU8 hend
  intro ver r1 hr1 he1
  split_ifs with hver
  · exact FinishesAtEof.throw _ r1 he1
  apply finishesFrom_bind_readU8 he1
  intro cmd r2 hr2 he2
  split_ifs with hcmd
  · exact FinishesAtEof.throw _ r2 he2
  apply finishesFrom_bind_readU8 he2
  intro rsv r3 hr3 he3
  apply finishesFrom_bind_readU8 he3
  intro atyp r4 hr4 he4
  rw [not_not] at hver hcmd
  exact h rsv atyp r4 (by rw [hr1, hr2, hr3, hr4, hver, hcmd]) he4

theorem parseIpv4_finishesAtEof : FinishesAtEof (parseIpv4 : Proc ρ _ _) :=
  (readExact_finishesAtEof _).bind fun _ => readU16_finishesAtEof.bind fun _ => .pure _

theorem parseIpv6_finishesAtEof : FinishesAtEof (parseIpv6 : Proc ρ _ _) :=
  (readExact_finishesAtEof _).bind fun _ => readU16_finishesAtEof.bind fun _ => .pure _

theorem parseRequest_running (hend : ending r = .eof) (h : EndsWithinName (unread r)) (fuel : ℕ) :
    (parseRequest fuel r).1 = .error .running := by
  obtain ⟨rsv, length, name, hbytes, hlen, hname⟩ := h
  obtain ⟨r1, hr1, he1, hparse⟩ := parseRequest_header hbytes
  obtain ⟨r2, hread, hr2, he2⟩ := readU8_of_cons hr1
  have hzero : length ≠ 0 := by
    rintro rfl
    exact absurd hlen (Nat.not_lt_zero _)
  have hrun := readNameBytes_of_short fuel length.toNat r2 (by rw [he2, he1, hend])
    (by rwa [hr2]) (by rwa [hr2])
  have hdomain : (readDomainname fuel r1).1 = .error .running := by
    rw [readDomainname, Proc.bind_ok hread, if_neg hzero, Proc.bind_error (Prod.ext hrun rfl)]
  have hdest : (parseDomainname fuel r1).1 = .error .running := by
    rw [parseDomainname, Proc.bind_error (Prod.ext hdomain rfl)]
  rw [hparse, parseDestination, if_neg (by decide), if_pos rfl,
    Proc.mapErr_error (Prod.ext hdest rfl)]
  rfl

/-- On a stream that ends, some number of reads is enough for a request or an error exactly if the
stream does not end within a name. -/
theorem parseRequest_finishes_iff (hend : ending r = .eof) :
    (∃ fuel, Settled (parseRequest fuel r).1) ↔ ¬ EndsWithinName (unread r) := by
  constructor
  · rintro ⟨fuel, hsettled⟩ hname
    rw [parseRequest_running hend hname fuel] at hsettled
    exact hsettled
  · intro hname
    refine ⟨255, (parseRequest_finishesFrom hend fun rsv atyp r' hbytes hend' => ?_).1⟩
    rw [parseDestination]
    split_ifs with hipv4 hdomain hipv6
    · exact (parseIpv4_finishesAtEof r' hend').mapErr _
    · subst hdomain
      refine FinishesFrom.mapErr (FinishesFrom.bind (readDomainname_finishesFrom hend' ?_)
        fun _ => readU16_finishesAtEof.bind fun _ => .pure _) _
      intro length name hr' hlen
      by_contra hall
      refine hname ⟨rsv, length, name, by rw [hbytes, hr'], hlen, ?_⟩
      simpa using hall
    · exact (parseIpv6_finishesAtEof r' hend').mapErr _
    · exact FinishesAtEof.throw _ r' hend'

/-- A name of five bytes of which two arrive. -/
def cutName : Source := ⟨[5, 1, 0, 3, 5, 0x61, 0x62], [], .eof⟩

theorem parseRequest_finishes_iff_cutName :
    (∃ fuel, Settled (parseRequest fuel cutName).1) ↔ ¬ EndsWithinName (unread cutName) :=
  parseRequest_finishes_iff rfl

theorem not_parseRequest_finishes_cutName :
    ending cutName = .eof ∧ ¬ ∃ fuel, Settled (parseRequest fuel cutName).1 := by
  refine ⟨rfl, ?_⟩
  rintro ⟨fuel, hsettled⟩
  have hname : EndsWithinName (unread cutName) :=
    ⟨0, 5, [0x61, 0x62], rfl, by decide, List.all_eq_true.1 rfl⟩
  rw [parseRequest_running rfl hname fuel] at hsettled
  exact hsettled

end Request

/-! ## Requests that get an answer -/

section Answerable

variable {r : ρ} {bytes rest : List UInt8} {request : SocksRequest}

def portOf (hi lo : UInt8) : UInt16 := UInt16.ofNat (ofBigEndian [hi, lo])

/-- The bytes are a complete request to connect, and `rest`. -/
inductive WritesRequest : List UInt8 → SocksRequest → List UInt8 → Prop where
  | ipv4 {rsv hi lo : UInt8} {octets rest : List UInt8} (hlen : octets.length = 4) :
      WritesRequest (5 :: 1 :: rsv :: 1 :: (octets ++ hi :: lo :: rest))
        (.fromIpv4 (.ofOctets octets) (portOf hi lo)) rest
  | domainname {rsv length hi lo : UInt8} {name rest : List UInt8} (hpos : length ≠ 0)
      (hlen : name.length = length.toNat) (hname : ∀ b ∈ name, isNameByte b) :
      WritesRequest (5 :: 1 :: rsv :: 3 :: length :: (name ++ hi :: lo :: rest))
        (.fromDomainname (asciiString name) (portOf hi lo)) rest
  | ipv6 {rsv hi lo : UInt8} {octets rest : List UInt8} (hlen : octets.length = 16) :
      WritesRequest (5 :: 1 :: rsv :: 4 :: (octets ++ hi :: lo :: rest))
        (.fromIpv6 (.ofOctets octets) (portOf hi lo)) rest

/-- The bytes begin with a version, a command or an address type that there is not. -/
inductive Rejected : List UInt8 → ParseRequestError → Prop where
  | invalidVersion {ver : UInt8} {rest : List UInt8} (h : ver ≠ 5) :
      Rejected (ver :: rest) (.invalidVersion ver)
  | commandNotSupported {cmd : UInt8} {rest : List UInt8} (h : cmd ≠ 1) :
      Rejected (5 :: cmd :: rest) (.commandNotSupported cmd)
  | invalidATYP {rsv atyp : UInt8} {rest : List UInt8} (h1 : atyp ≠ 1) (h3 : atyp ≠ 3)
      (h4 : atyp ≠ 4) : Rejected (5 :: 1 :: rsv :: atyp :: rest) (.invalidATYP atyp)

theorem Rejected.ne_io {e : ParseRequestError} (h : Rejected bytes e) (io : IoError) :
    e ≠ .io io := by
  cases h <;> simp

theorem readAddress_of_append {α : Type} {n : ℕ} {octets : List UInt8} {hi lo : UInt8}
    (f : List UInt8 → UInt16 → α) (h : unread r = octets ++ hi :: lo :: rest)
    (hlen : octets.length = n) :
    ∃ r', (readExact n >>= fun octets => readU16 >>= fun port => pure (f octets port)) r
        = (.ok (f octets (portOf hi lo)), r') ∧ unread r' = rest ∧ ending r' = ending r := by
  obtain ⟨r1, h1, hr1, he1⟩ := readExact_of_append h hlen
  obtain ⟨r2, h2, hr2, he2⟩ := readU16_of_cons_cons hr1
  exact ⟨r2, by rw [Proc.bind_ok h1, Proc.bind_ok h2]; rfl, hr2, he2.trans he1⟩

theorem parseDomainname_of_append {fuel : ℕ} (hfuel : 255 ≤ fuel) {length hi lo : UInt8}
    {name : List UInt8} (h : unread r = length :: (name ++ hi :: lo :: rest)) (hpos : length ≠ 0)
    (hlen : name.length = length.toNat) (hname : ∀ b ∈ name, isNameByte b) :
    ∃ r', parseDomainname fuel r
        = (.ok (.fromDomainname (asciiString name) (portOf hi lo)), r')
      ∧ unread r' = rest ∧ ending r' = ending r := by
  obtain ⟨r1, h1, hr1, he1⟩ := readU8_of_cons h
  have hlt := length.toNat_lt
  obtain ⟨r2, h2, hr2, he2⟩ := readNameBytes_of_le fuel length.toNat r1 (by omega)
    (by rw [hr1, List.length_append]; omega)
    (by rw [hr1, ← hlen, List.take_left]; exact hname)
  rw [hr1, ← hlen, List.take_left] at h2
  rw [hr1, ← hlen, List.drop_left] at hr2
  obtain ⟨r3, h3, hr3, he3⟩ := readU16_of_cons_cons hr2
  refine ⟨r3, ?_, hr3, he3.trans (he2.trans he1)⟩
  have hdomain : readDomainname fuel r = (.ok (asciiString name), r2) := by
    rw [readDomainname, Proc.bind_ok h1, if_neg hpos, ← hlen, Proc.bind_ok h2]
    rfl
  rw [parseDomainname, Proc.bind_ok hdomain, Proc.bind_ok h3]
  rfl

/-- The parser reads a complete request and not a byte more. -/
theorem parseRequest_of_writes {fuel : ℕ} (hfuel : 255 ≤ fuel)
    (h : WritesRequest (unread r) request rest) :
    ∃ r', parseRequest fuel r = (.ok request, r') ∧ unread r' = rest ∧ ending r' = ending r := by
  generalize hbytes : unread r = bytes at h
  cases h with
  | ipv4 hlen =>
    obtain ⟨r1, hr1, he1, hparse⟩ := parseRequest_header hbytes
    obtain ⟨r2, h2, hr2, he2⟩ := readAddress_of_append
      (fun octets port => SocksRequest.fromIpv4 (.ofOctets octets) port) hr1 hlen
    exact ⟨r2, (hparse fuel).trans (Proc.mapErr_ok h2 _), hr2, he2.trans he1⟩
  | domainname hpos hlen hname =>
    obtain ⟨r1, hr1, he1, hparse⟩ := parseRequest_header hbytes
    obtain ⟨r2, h2, hr2, he2⟩ := parseDomainname_of_append hfuel hr1 hpos hlen hname
    exact ⟨r2, (hparse fuel).trans (Proc.mapErr_ok h2 _), hr2, he2.trans he1⟩
  | ipv6 hlen =>
    obtain ⟨r1, hr1, he1, hparse⟩ := parseRequest_header hbytes
    obtain ⟨r2, h2, hr2, he2⟩ := readAddress_of_append
      (fun octets port => SocksRequest.fromIpv6 (.ofOctets octets) port) hr1 hlen
    exact ⟨r2, (hparse fuel).trans (Proc.mapErr_ok h2 _), hr2, he2.trans he1⟩

theorem readNameBytes_eq_ok :
    ∀ (fuel n : ℕ) {r r' : ρ} {name : List UInt8}, readNameBytes fuel n r = (.ok name, r') →
      unread r = name ++ unread r' ∧ name.length = n ∧ ∀ b ∈ name, isNameByte b
  | fuel, 0, r, r', name, h => by
    rw [readNameBytes] at h
    simp only [Proc.pure_apply, Prod.mk.injEq, Except.ok.injEq] at h
    obtain ⟨rfl, rfl⟩ := h
    exact ⟨rfl, rfl, by simp⟩
  | 0, n + 1, r, r', name, h => by
    rw [readNameBytes] at h
    simp at h
  | fuel + 1, n + 1, r, r', name, h => by
    rw [readNameBytes] at h
    obtain ⟨more, r1, hread, h⟩ := Proc.bind_eq_ok h
    rcases hfind : more.find? (fun c => !isNameByte c) with _ | c <;> simp only [hfind] at h
    · obtain ⟨rest, r2, hrest, h⟩ := Proc.bind_eq_ok h
      simp only [Proc.pure_apply, Prod.mk.injEq, Except.ok.injEq] at h
      obtain ⟨rfl, rfl⟩ := h
      obtain ⟨hcat, hle⟩ := read_ok (by omega) hread
      obtain ⟨hcat', hlen, hname⟩ := readNameBytes_eq_ok fuel _ hrest
      refine ⟨by rw [hcat, hcat', List.append_assoc], ?_, fun b hb => ?_⟩
      · rw [List.length_append]
        omega
      · rcases List.mem_append.1 hb with hb | hb
        · rw [List.find?_eq_none] at hfind
          simpa using hfind b hb
        · exact hname b hb
    · simp at h

theorem readAddress_eq_ok {α : Type} {n : ℕ} {f : List UInt8 → UInt16 → α} {r r' : ρ} {a : α}
    (h : (readExact n >>= fun octets => readU16 >>= fun port => pure (f octets port)) r
      = (.ok a, r')) :
    ∃ octets hi lo, unread r = octets ++ hi :: lo :: unread r' ∧ octets.length = n
      ∧ a = f octets (portOf hi lo) := by
  obtain ⟨octets, r1, h1, h⟩ := Proc.bind_eq_ok h
  obtain ⟨port, r2, h2, h⟩ := Proc.bind_eq_ok h
  simp only [Proc.pure_apply, Prod.mk.injEq, Except.ok.injEq] at h
  obtain ⟨rfl, rfl⟩ := h
  obtain ⟨hcat, hlen⟩ := readExact_eq_append h1
  obtain ⟨hi, lo, hcat', rfl⟩ := readU16_eq_cons_cons h2
  exact ⟨octets, hi, lo, by rw [hcat, hcat'], hlen, rfl⟩

theorem parseDomainname_eq_ok {fuel : ℕ} {r' : ρ}
    (h : parseDomainname fuel r = (.ok request, r')) :
    ∃ length name hi lo, unread r = length :: (name ++ hi :: lo :: unread r') ∧ length ≠ 0
      ∧ name.length = length.toNat ∧ (∀ b ∈ name, isNameByte b)
      ∧ request = .fromDomainname (asciiString name) (portOf hi lo) := by
  obtain ⟨domain, r1, h1, h⟩ := Proc.bind_eq_ok h
  obtain ⟨port, r2, h2, h⟩ := Proc.bind_eq_ok h
  simp only [Proc.pure_apply, Prod.mk.injEq, Except.ok.injEq] at h
  obtain ⟨rfl, rfl⟩ := h
  obtain ⟨length, r3, h3, h1⟩ := Proc.bind_eq_ok h1
  split_ifs at h1 with hzero
  · simp at h1
  obtain ⟨name, r4, h4, h1⟩ := Proc.bind_eq_ok h1
  simp only [Proc.pure_apply, Prod.mk.injEq, Except.ok.injEq] at h1
  obtain ⟨rfl, rfl⟩ := h1
  obtain ⟨hcat, hlen, hname⟩ := readNameBytes_eq_ok fuel _ h4
  obtain ⟨hi, lo, hcat', rfl⟩ := readU16_eq_cons_cons h2
  exact ⟨length, name, hi, lo, by rw [readU8_eq_cons h3, hcat, hcat'], hzero, hlen, hname, rfl⟩

/-- Whatever the parser accepts is a complete request, and it has read no further. -/
theorem parseRequest_eq_ok {fuel : ℕ} {r' : ρ} (h : parseRequest fuel r = (.ok request, r')) :
    WritesRequest (unread r) request (unread r') := by
  obtain ⟨ver, r1, h1, h⟩ := Proc.bind_eq_ok h
  split_ifs at h with hver
  · simp at h
  obtain ⟨cmd, r2, h2, h⟩ := Proc.bind_eq_ok h
  split_ifs at h with hcmd
  · simp at h
  obtain ⟨rsv, r3, h3, h⟩ := Proc.bind_eq_ok h
  obtain ⟨atyp, r4, h4, h⟩ := Proc.bind_eq_ok h
  rw [readU8_eq_cons (Proc.mapErr_eq_ok h1), readU8_eq_cons (Proc.mapErr_eq_ok h2),
    readU8_eq_cons (Proc.mapErr_eq_ok h3), readU8_eq_cons (Proc.mapErr_eq_ok h4),
    not_not.1 hver, not_not.1 hcmd]
  unfold parseDestination at h
  split_ifs at h with hipv4 hdomain hipv6
  · obtain ⟨octets, hi, lo, hcat, hlen, rfl⟩ := readAddress_eq_ok (Proc.mapErr_eq_ok h)
    rw [hcat, hipv4]
    exact .ipv4 hlen
  · obtain ⟨length, name, hi, lo, hcat, hpos, hlen, hname, rfl⟩ :=
      parseDomainname_eq_ok (Proc.mapErr_eq_ok h)
    rw [hcat, hdomain]
    exact .domainname hpos hlen hname
  · obtain ⟨octets, hi, lo, hcat, hlen, rfl⟩ := readAddress_eq_ok (Proc.mapErr_eq_ok h)
    rw [hcat, hipv6]
    exact .ipv6 hlen
  · simp at h

theorem parseRequest_of_rejected {e : ParseRequestError} (h : Rejected (unread r) e) (fuel : ℕ) :
    ∃ r', parseRequest fuel r = (.error (.err e), r') := by
  generalize hbytes : unread r = bytes at h
  cases h with
  | invalidVersion hver =>
    obtain ⟨r1, -, -, h1⟩ := bind_readU8_of_cons hbytes ParseRequestError.io
    exact ⟨r1, by rw [parseRequest, h1, if_pos hver]; rfl⟩
  | commandNotSupported hcmd =>
    obtain ⟨r1, hr1, -, h1⟩ := bind_readU8_of_cons hbytes ParseRequestError.io
    obtain ⟨r2, -, -, h2⟩ := bind_readU8_of_cons hr1 ParseRequestError.io
    exact ⟨r2, by rw [parseRequest, h1, if_neg (by decide), h2, if_pos hcmd]; rfl⟩
  | invalidATYP h1 h3 h4 =>
    obtain ⟨r1, -, -, hparse⟩ := parseRequest_header hbytes
    exact ⟨r1, by rw [hparse, parseDestination, if_neg h1, if_neg h3, if_neg h4]; rfl⟩

end Answerable

end DustDevil

import DustDevil.Proofs.Socks5Parsers

/-!
# Every socks5 request, however it arrives

The bytes that come first are a complete request, break a rule, or are too few to tell
(`request_cases`). What the parser returns depends on the bytes and on what follows them, and on a
request it reads the request's bytes and no others (`parseRequest_reads`).
-/

namespace DustDevil

open Wire

variable {ρ : Type} [AsyncRead ρ]

/-! ## The split -/

section Split

/-- What the loop of a name stops with when the bytes run out. -/
def cutName.stop : Ending → Stop IoError
  | .eof => .running
  | .failed e => .err e
  | .open => .blocked

theorem readNameBytes_of_cut :
    ∀ (fuel n : ℕ) (r : ρ), n ≤ fuel → (unread r).length < n → (∀ b ∈ unread r, isNameByte b) →
      (readNameBytes fuel n r).1 = .error (cutName.stop (ending r))
  | fuel, 0, r, _, hlen, _ => by omega
  | fuel + 1, n + 1, r, hfuel, hlen, hname => by
    by_cases hr : unread r = []
    · obtain ⟨r', hread, hr', hend⟩ := read_at_end (n := n + 1) (by omega) hr
      rcases he : ending r with _ | e | _
      · exact readNameBytes_of_short _ _ r he hlen hname
      · rw [he] at hread
        rw [readNameBytes, Proc.bind_error hread]
        rfl
      · rw [he] at hread
        rw [readNameBytes, Proc.bind_error hread]
        rfl
    · obtain ⟨bytes, r', hread, hne, hle, hcat, hend⟩ := read_eq_ok (n := n + 1) (by omega) hr
      have hpos := List.length_pos_iff.2 hne
      rw [hcat] at hname hlen
      rw [List.length_append] at hlen
      have hfind : (bytes.find? fun c => !isNameByte c) = none := by
        rw [List.find?_eq_none]
        intro b hb
        simp [hname b (List.mem_append_left _ hb)]
      have ih := readNameBytes_of_cut fuel (n + 1 - bytes.length) r' (by omega) (by omega)
        fun b hb => hname b (List.mem_append_right _ hb)
      rw [hend] at ih
      unfold readNameBytes
      rw [Proc.bind_ok hread]
      simp only [hfind]
      rw [Proc.bind_error (Prod.ext ih rfl)]

/-- A name byte that is not one is found whichever read brings it, and so is the end. -/
theorem readNameBytes_apply {fuel n : ℕ} (hfuel : n ≤ fuel) (r : ρ) :
    (readNameBytes fuel n r).1
        = (match ((unread r).take n).find? fun c => !isNameByte c with
          | some c =>
            .error (.err (invalidData ("Domainname contains invalid character: " ++ toString c)))
          | none =>
            if n ≤ (unread r).length then .ok ((unread r).take n)
            else .error (cutName.stop (ending r)))
      ∧ ∀ name, (readNameBytes fuel n r).1 = .ok name →
        flat (readNameBytes fuel n r).2 = ⟨(unread r).drop n, ending r⟩ := by
  rcases hfind : ((unread r).take n).find? fun c => !isNameByte c with _ | c
  · have hname : ∀ b ∈ (unread r).take n, isNameByte b := by
      rw [List.find?_eq_none] at hfind
      simpa using hfind
    by_cases hlen : n ≤ (unread r).length
    · obtain ⟨r', hrun, hr', hend⟩ := readNameBytes_of_le fuel n r hfuel hlen hname
      simp only [if_pos hlen, hrun, flat, hr', hend, implies_true, and_self]
    · rw [List.take_of_length_le (by omega)] at hname
      have hcut := readNameBytes_of_cut fuel n r hfuel (by omega) hname
      simp only [if_neg hlen, hcut, reduceCtorEq, false_implies, implies_true, and_self]
  · obtain ⟨r', hrun, -⟩ := readNameBytes_of_bad fuel n r hfuel hfind
    simp only [hrun, reduceCtorEq, false_implies, implies_true, and_self]

theorem readNameBytes_refinesOk {fuel n : ℕ} (hfuel : n ≤ fuel) :
    RefinesOk (readNameBytes fuel n : Proc ρ _ _) (readNameBytes fuel n) := by
  intro r
  obtain ⟨h1, h2⟩ := readNameBytes_apply hfuel r
  obtain ⟨h3, h4⟩ := readNameBytes_apply hfuel (flat r)
  have hresult := h1.trans h3.symm
  refine ⟨hresult, fun name hname => ?_⟩
  exact (h2 name hname).trans (h4 name (hresult.symm.trans hname)).symm

theorem readDomainname_refinesOk {fuel : ℕ} (hfuel : 255 ≤ fuel) :
    RefinesOk (readDomainname fuel : Proc ρ _ _) (readDomainname fuel) := by
  refine readU8_refines.refinesOk.bind fun length => .ite (Refines.throw _).refinesOk ?_
  have hlength : length.toNat ≤ fuel := by
    have := length.toNat_lt
    omega
  exact (readNameBytes_refinesOk hlength).bind fun _ => (Refines.pure _).refinesOk

theorem parseIpv4_refines : Refines (parseIpv4 : Proc ρ _ _) parseIpv4 :=
  (readExact_refines _).bind fun _ => readU16_refines.bind fun _ => .pure _

theorem parseIpv6_refines : Refines (parseIpv6 : Proc ρ _ _) parseIpv6 :=
  (readExact_refines _).bind fun _ => readU16_refines.bind fun _ => .pure _

theorem parseDestination_refinesOk {fuel : ℕ} (hfuel : 255 ≤ fuel) (atyp : UInt8) :
    RefinesOk (parseDestination fuel atyp : Proc ρ _ _) (parseDestination fuel atyp) := by
  refine .ite (parseIpv4_refines.mapErr _).refinesOk (.ite ?_
    (.ite (parseIpv6_refines.mapErr _).refinesOk (Refines.throw _).refinesOk))
  exact RefinesOk.mapErr ((readDomainname_refinesOk hfuel).bind fun _ =>
    (readU16_refines.bind fun _ => .pure _).refinesOk) _

theorem parseRequest_refinesOk {fuel : ℕ} (hfuel : 255 ≤ fuel) :
    RefinesOk (parseRequest fuel : Proc ρ _ _) (parseRequest fuel) := by
  have hbyte {α : Type} {p : UInt8 → Proc ρ ParseRequestError α} {q} :=
    RefinesOk.bind (f := p) (g := q) (readU8_refines.mapErr ParseRequestError.io).refinesOk
  refine hbyte fun ver => .ite (Refines.throw _).refinesOk ?_
  refine hbyte fun cmd => .ite (Refines.throw _).refinesOk ?_
  exact hbyte fun rsv => hbyte fun atyp => parseDestination_refinesOk hfuel atyp

end Split

/-! ## The rules -/

section Rules

/-- The first rule that the bytes break, and its error. -/
inductive BreaksRule : List UInt8 → ParseRequestError → Prop where
  | rejected {bytes : List UInt8} {e : ParseRequestError} (h : Rejected bytes e) :
      BreaksRule bytes e
  | emptyName {rsv : UInt8} {rest : List UInt8} :
      BreaksRule (5 :: 1 :: rsv :: 3 :: 0 :: rest)
        (.io (invalidData "Domainname length cannot be 0"))
  | nameChar {rsv length c : UInt8} {name rest : List UInt8} (hlen : name.length < length.toNat)
      (hname : ∀ b ∈ name, isNameByte b) (hc : isNameByte c = false) :
      BreaksRule (5 :: 1 :: rsv :: 3 :: length :: (name ++ c :: rest))
        (.io (invalidData ("Domainname contains invalid character: " ++ toString c)))

theorem parseDomainname_of_error {fuel : ℕ} {r : ρ} {e : IoError}
    (h : (readDomainname fuel r).1 = .error (.err e)) :
    (parseDestination fuel 3 r).1 = .error (.err (.io e)) := by
  have hdest : (parseDomainname fuel r).1 = .error (.err e) := by
    rw [parseDomainname, Proc.bind_error (Prod.ext h rfl)]
  rw [parseDestination, if_neg (by decide), if_pos rfl, Proc.mapErr_error (Prod.ext hdest rfl)]
  rfl

/-- The parser returns the error of the first rule that is broken. -/
theorem parseRequest_of_breaksRule {fuel : ℕ} (hfuel : 255 ≤ fuel) {r : ρ}
    {e : ParseRequestError} (h : BreaksRule (unread r) e) :
    (parseRequest fuel r).1 = .error (.err e) := by
  generalize hbytes : unread r = bytes at h
  cases h with
  | rejected h =>
    obtain ⟨r', hrun⟩ := parseRequest_of_rejected (hbytes ▸ h) fuel
    rw [hrun]
  | emptyName =>
    obtain ⟨r1, hr1, -, hparse⟩ := parseRequest_header hbytes
    obtain ⟨r2, hread, -⟩ := readU8_of_cons hr1
    rw [hparse]
    apply parseDomainname_of_error
    rw [readDomainname, Proc.bind_ok hread]
    rfl
  | @nameChar rsv length c name rest hlen hname hc =>
    obtain ⟨r1, hr1, -, hparse⟩ := parseRequest_header hbytes
    obtain ⟨r2, hread, hr2, -⟩ := readU8_of_cons hr1
    have hlt := length.toNat_lt
    have hfind : (((unread r2).take length.toNat).find? fun c => !isNameByte c) = some c := by
      rw [hr2, List.take_append, List.take_of_length_le hlen.le,
        show length.toNat - name.length = length.toNat - name.length - 1 + 1 by omega,
        List.take_succ_cons, List.find?_append]
      have hnone : (name.find? fun c => !isNameByte c) = none := by
        rw [List.find?_eq_none]
        intro b hb
        simp [hname b hb]
      rw [hnone, Option.none_or, List.find?_cons_of_pos (by simp [hc])]
    obtain ⟨r3, hrun, -⟩ := readNameBytes_of_bad fuel length.toNat r2 (by omega) hfind
    have hzero : length ≠ 0 := by
      rintro rfl
      exact absurd hlen (Nat.not_lt_zero _)
    rw [hparse]
    apply parseDomainname_of_error
    rw [readDomainname, Proc.bind_ok hread, if_neg hzero, Proc.bind_error hrun]

/-- Bytes that break no rule and that more bytes make a request. -/
def Incomplete (bytes : List UInt8) : Prop :=
  ∃ more request, more ≠ [] ∧ WritesRequest (bytes ++ more) request []

theorem split_address {n : ℕ} {bytes : List UInt8} (h : n + 2 ≤ bytes.length) :
    ∃ octets hi lo rest, bytes = octets ++ hi :: lo :: rest ∧ octets.length = n
      ∧ rest.length = bytes.length - (n + 2) := by
  refine ⟨bytes.take n, bytes[n], bytes[n + 1], bytes.drop (n + 2), ?_, by simp; omega, by simp⟩
  rw [List.getElem_cons_drop, List.getElem_cons_drop, List.take_append_drop]

/-- An address and its port, or too few bytes for them, which any byte can fill up. -/
theorem address_cases (n : ℕ) (pad : UInt8) (bytes : List UInt8) :
    (∃ octets hi lo rest, bytes = octets ++ hi :: lo :: rest ∧ octets.length = n)
    ∨ ∃ k octets hi lo, 0 < k ∧ bytes ++ List.replicate k pad = octets ++ [hi, lo]
      ∧ octets.length = n := by
  by_cases hlen : n + 2 ≤ bytes.length
  · obtain ⟨octets, hi, lo, rest, heq, hn, -⟩ := split_address hlen
    exact .inl ⟨octets, hi, lo, rest, heq, hn⟩
  · have hfill : (bytes ++ List.replicate (n + 2 - bytes.length) pad).length = n + 2 := by
      rw [List.length_append, List.length_replicate]
      omega
    obtain ⟨octets, hi, lo, rest, heq, hn, hrest⟩ := split_address hfill.ge
    obtain rfl : rest = [] := List.length_eq_zero_iff.1 (by omega)
    exact .inr ⟨_, octets, hi, lo, by omega, heq, hn⟩

theorem replicate_ne_nil {k : ℕ} (hk : 0 < k) (pad : UInt8) : List.replicate k pad ≠ [] := by
  rw [Ne, List.replicate_eq_nil_iff]
  omega

theorem incomplete_of_header {bytes more : List UInt8} (rsv : UInt8) (hne : more ≠ [])
    (h : bytes ++ more = [5, 1, rsv, 1, 0, 0, 0, 0, 0, 0]) : Incomplete bytes := by
  have hwrites : WritesRequest (5 :: 1 :: rsv :: 1 :: ([0, 0, 0, 0] ++ [0, 0]))
      (.fromIpv4 (.ofOctets [0, 0, 0, 0]) (portOf 0 0)) [] := .ipv4 rfl
  exact ⟨more, _, hne, h ▸ hwrites⟩

/-- What can come first: a request, a broken rule, or less than a request. -/
def Classified (bytes : List UInt8) : Prop :=
  (∃ request rest, WritesRequest bytes request rest) ∨ (∃ e, BreaksRule bytes e)
    ∨ Incomplete bytes

/-- An address of a fixed length is all there or can be filled up. -/
theorem classified_address {rsv atyp : UInt8} {n : ℕ}
    {request : List UInt8 → UInt8 → UInt8 → SocksRequest}
    (hwrites : ∀ {octets : List UInt8} {hi lo : UInt8} {rest : List UInt8}, octets.length = n →
      WritesRequest (5 :: 1 :: rsv :: atyp :: (octets ++ hi :: lo :: rest))
        (request octets hi lo) rest) (bytes : List UInt8) :
    Classified (5 :: 1 :: rsv :: atyp :: bytes) := by
  rcases address_cases n 0 bytes with ⟨octets, hi, lo, rest, rfl, hn⟩ |
      ⟨k, octets, hi, lo, hk, heq, hn⟩
  · exact .inl ⟨_, _, hwrites hn⟩
  · refine .inr (.inr ⟨_, request octets hi lo, replicate_ne_nil hk 0, ?_⟩)
    rw [List.cons_append, List.cons_append, List.cons_append, List.cons_append, heq]
    exact hwrites hn

theorem classified_name {rsv length : UInt8} (hpos : length ≠ 0) (bytes : List UInt8) :
    Classified (5 :: 1 :: rsv :: 3 :: length :: bytes) := by
  rcases hfind : (bytes.take length.toNat).find? fun c => !isNameByte c with _ | c
  · have hname : ∀ b ∈ bytes.take length.toNat, isNameByte b := by
      rw [List.find?_eq_none] at hfind
      simpa using hfind
    rcases address_cases length.toNat 0x61 bytes with ⟨name, hi, lo, rest, rfl, hn⟩ |
        ⟨k, name, hi, lo, hk, heq, hn⟩
    · rw [← hn, List.take_left] at hname
      exact .inl ⟨_, _, .domainname hpos hn hname⟩
    · refine .inr (.inr ⟨_, .fromDomainname (asciiString name) (portOf hi lo),
        replicate_ne_nil hk 0x61, ?_⟩)
      rw [List.cons_append, List.cons_append, List.cons_append, List.cons_append,
        List.cons_append, heq]
      refine .domainname hpos hn fun b hb => ?_
      have htake : (bytes ++ List.replicate k 0x61).take length.toNat = name := by
        rw [heq, ← hn, List.take_left]
      rw [← htake, List.take_append, List.take_replicate] at hb
      rcases List.mem_append.1 hb with hb | hb
      · exact hname b hb
      · rw [List.eq_of_mem_replicate hb]
        decide
  · obtain ⟨hc, name, tail, htake, hname⟩ := List.find?_eq_some_iff_append.1 hfind
    have hlen : name.length < length.toNat := by
      have := congrArg List.length htake
      rw [List.length_take, List.length_append, List.length_cons] at this
      omega
    refine .inr (.inl ⟨.io (invalidData ("Domainname contains invalid character: " ++ toString c)),
      ?_⟩)
    rw [← List.take_append_drop length.toNat bytes, htake, List.append_assoc, List.cons_append]
    exact .nameChar hlen (by simpa using hname) (by simpa using hc)

theorem request_cases : ∀ bytes : List UInt8, Classified bytes
  | [] => .inr (.inr (incomplete_of_header 0 (List.cons_ne_nil _ _) rfl))
  | ver :: bytes => by
    by_cases hver : ver = 5
    · subst hver
      rcases bytes with _ | ⟨cmd, bytes⟩
      · exact .inr (.inr (incomplete_of_header 0 (List.cons_ne_nil _ _) rfl))
      by_cases hcmd : cmd = 1
      · subst hcmd
        match bytes with
        | [] => exact .inr (.inr (incomplete_of_header 0 (List.cons_ne_nil _ _) rfl))
        | [rsv] => exact .inr (.inr (incomplete_of_header rsv (List.cons_ne_nil _ _) rfl))
        | rsv :: atyp :: bytes =>
          by_cases h1 : atyp = 1
          · subst h1
            exact classified_address .ipv4 bytes
          by_cases h3 : atyp = 3
          · subst h3
            rcases bytes with _ | ⟨length, bytes⟩
            · have hwrites : WritesRequest (5 :: 1 :: rsv :: 3 :: 1 :: ([0x61] ++ [0, 0]))
                  (.fromDomainname (asciiString [0x61]) (portOf 0 0)) [] :=
                .domainname (by decide) rfl (List.forall_mem_singleton.2 rfl)
              exact .inr (.inr ⟨[1, 0x61, 0, 0], _, List.cons_ne_nil _ _, hwrites⟩)
            by_cases hpos : length = 0
            · subst hpos
              exact .inr (.inl ⟨_, .emptyName⟩)
            · exact classified_name hpos bytes
          by_cases h4 : atyp = 4
          · subst h4
            exact classified_address .ipv6 bytes
          · exact .inr (.inl ⟨_, .rejected (.invalidATYP h1 h3 h4)⟩)
      · exact .inr (.inl ⟨_, .rejected (.commandNotSupported hcmd)⟩)
    · exact .inr (.inl ⟨_, .rejected (.invalidVersion hver)⟩)

/-- A request is read to its last byte and no further, bytes that cannot become one get the error
of the first rule they break, and the split of the bytes into reads changes nothing. -/
theorem parseRequest_reads {fuel : ℕ} (hfuel : 255 ≤ fuel) (r : ρ) :
    (∀ request rest, WritesRequest (unread r) request rest →
      ∃ r', parseRequest fuel r = (.ok request, r') ∧ unread r' = rest)
    ∧ ((¬ ∃ request rest, WritesRequest (unread r) request rest) → ¬ Incomplete (unread r) →
      ∃ e, BreaksRule (unread r) e)
    ∧ (∀ e, BreaksRule (unread r) e → (parseRequest fuel r).1 = .error (.err e))
    ∧ (∀ request r', parseRequest fuel r = (.ok request, r') →
      WritesRequest (unread r) request (unread r'))
    ∧ ∀ {σ : Type} [AsyncRead σ] (s : σ), unread s = unread r → ending s = ending r →
      (parseRequest fuel s).1 = (parseRequest fuel r).1
      ∧ ∀ request, (parseRequest fuel r).1 = .ok request →
        unread (parseRequest fuel s).2 = unread (parseRequest fuel r).2 := by
  refine ⟨fun request rest h => ?_, fun hno hmore => ?_, fun e => parseRequest_of_breaksRule hfuel,
    fun request r' => parseRequest_eq_ok, fun s hunread hending => ?_⟩
  · obtain ⟨r', hrun, hrest, -⟩ := parseRequest_of_writes hfuel h
    exact ⟨r', hrun, hrest⟩
  · rcases request_cases (unread r) with h | h | h
    · exact absurd h hno
    · exact h
    · exact absurd h hmore
  · obtain ⟨h1, h2⟩ := parseRequest_refinesOk hfuel r
    obtain ⟨h3, h4⟩ := parseRequest_refinesOk hfuel s
    have hflat : flat s = flat r := by rw [flat, flat, hunread, hending]
    rw [hflat] at h3 h4
    have hresult := h3.trans h1.symm
    refine ⟨hresult, fun request hok => ?_⟩
    exact congrArg Flat.bytes ((h4 request (hresult.trans hok)).trans (h2 request hok).symm)

/-- A request for `ab`, port 80, in pieces that cut the name, and a byte that follows it. -/
def splitName : Source :=
  ⟨[5, 1, 0, 3, 2, 0x61, 0x62, 0, 80, 0x7A], [2, 4, 1], .open⟩

theorem parseRequest_reads_splitName :
    ∃ r', parseRequest 255 splitName = (.ok (.fromDomainname "ab".toList 80), r')
      ∧ unread r' = [0x7A] := by
  have hwrites : WritesRequest (5 :: 1 :: 0 :: 3 :: 2 :: ([0x61, 0x62] ++ [0, 80, 0x7A]))
      (.fromDomainname (asciiString [0x61, 0x62]) (portOf 0 80)) [0x7A] :=
    .domainname (by decide) rfl (List.forall_mem_cons.2 ⟨rfl, List.forall_mem_singleton.2 rfl⟩)
  exact (parseRequest_reads le_rfl splitName).1 _ _ hwrites

end Rules

end DustDevil

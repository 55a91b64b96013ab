import SmartWallet.Program.Execution
import SmartWallet.Proofs.RecordGrammar

/-!
# Telling records apart

The three kinds of record share a format: a byte for the kind, one for the layout version, and from
there on fields that overlap from one kind to the next. The two records of fixed length leave four
bytes open and fix all others, and no bytes are read as records of two kinds. An execution looks at
the first byte alone to choose how its caller is authorised, and whatever it accepts there is a
record of that kind.
-/

namespace SmartWallet

lemma Bytes.exists_append {n k : Nat} {bs : List UInt8} (h : bs.length = n + k) :
    ∃ (b : Bytes n) (rest : List UInt8), rest.length = k ∧ bs = b.toList ++ rest := by
  cases hsplit : split? n bs with
  | none => exact absurd (split?_eq_none_iff.1 hsplit) (by omega)
  | some p =>
    obtain rfl := split?_eq_some_iff.1 hsplit
    rw [List.length_append, p.1.length_toList] at h
    exact ⟨p.1, p.2, Nat.add_left_cancel h, rfl⟩

namespace RecordKind

variable {kind kind' : RecordKind} {bs : List UInt8}

/-- The bytes are read as a record of the kind. -/
def Reads : RecordKind → List UInt8 → Prop
  | wallet, bs => ∃ w, Wallet.decode bs = .ok w
  | authority, bs => ∃ m, AuthorityMarker.decode bs = .ok m
  | session, bs => ∃ s, SessionRecord.decode bs = .ok s

@[simp] lemma ofTag_tag (kind : RecordKind) : ofTag kind.tag = .ok kind := by
  cases kind <;> rfl

lemma head?_of_reads (h : kind.Reads bs) : bs.head? = some kind.tag := by
  cases kind with
  | wallet =>
    obtain ⟨w, hw⟩ := h
    exact Wallet.head?_of_decode hw
  | authority =>
    obtain ⟨m, hm⟩ := h
    exact AuthorityMarker.head?_of_decode? (orError_eq_ok_iff.1 hm)
  | session =>
    obtain ⟨s, hs⟩ := h
    exact SessionRecord.head?_of_decode? (orError_eq_ok_iff.1 hs)

lemma ofTag_of_reads (h : kind.Reads bs) : bs.head?.map ofTag = some (.ok kind) := by
  rw [head?_of_reads h, Option.map_some, ofTag_tag]

lemma eq_of_reads (h : kind.Reads bs) (h' : kind'.Reads bs) : kind = kind' := by
  have hkind := ofTag_of_reads h
  rw [ofTag_of_reads h'] at hkind
  cases hkind
  rfl

/-! ## Headers -/

/-- The positions of the padding in a marker or a session record. -/
def Padding (i : Nat) : Prop := 4 ≤ i ∧ i < 8

lemma agreeOutside_padding_iff {tag version bump id : UInt8} {body : List UInt8} :
    AgreeOutside Padding bs ([tag, version, bump, id, 0, 0, 0, 0] ++ body) ↔
      ∃ x y z t, bs = [tag, version, bump, id, x, y, z, t] ++ body := by
  have hwindow : AgreeOutside Padding bs ([tag, version, bump, id] ++ ([0, 0, 0, 0] ++ body)) ↔
      ∃ fill, fill.length = 4 ∧ bs = [tag, version, bump, id] ++ (fill ++ body) :=
    AgreeOutside.window_iff (k := 4) (n := 4) rfl rfl
  refine hwindow.trans ⟨?_, ?_⟩
  · rintro ⟨fill, hfill, rfl⟩
    obtain ⟨x, y, z, t, rfl⟩ := List.length_eq_four.1 hfill
    exact ⟨x, y, z, t, rfl⟩
  · rintro ⟨x, y, z, t, rfl⟩
    exact ⟨[x, y, z, t], rfl, rfl⟩

lemma exists_header_iff {tag version : UInt8} {n : Nat} :
    (bs.length = 8 + n ∧ bs[0]? = some tag ∧ bs[1]? = some version) ↔
      ∃ bump id x y z t body, body.length = n ∧
        bs = [tag, version, bump, id, x, y, z, t] ++ body := by
  constructor
  · rintro ⟨hlength, htag, hversion⟩
    match bs, (by omega : 8 ≤ bs.length), hlength, htag, hversion with
    | _ :: _ :: bump :: id :: x :: y :: z :: t :: body, _, hlength, rfl, rfl =>
      simp only [List.length_cons] at hlength
      exact ⟨bump, id, x, y, z, t, body, by omega, rfl⟩
  · rintro ⟨bump, id, x, y, z, t, body, rfl, rfl⟩
    exact ⟨List.length_append, rfl, rfl⟩

end RecordKind

/-! ## Markers -/

namespace AuthorityMarker

variable {bs : List UInt8} {m : AuthorityMarker}

/-- Bytes are read as a marker exactly if they are its record, whatever the padding. -/
theorem decode_eq_ok_iff : decode bs = .ok m ↔ AgreeOutside RecordKind.Padding bs m.encode := by
  rw [decode, orError_eq_ok_iff, encode, List.append_assoc, RecordKind.agreeOutside_padding_iff]
  constructor
  · intro h
    unfold decode? at h
    split at h
    · simp only [Option.bind_eq_bind, Option.bind_eq_some_iff, Option.guard_eq_some', Prod.exists,
        exists_const, Bytes.split?_eq_some_iff, Bytes.ofList?_eq_some_iff, Option.pure_def,
        Option.some.injEq] at h
      obtain ⟨⟨rfl, rfl⟩, wallet, _, rfl, seed, rfl, rfl⟩ := h
      exact ⟨_, _, _, _, rfl⟩
    · cases h
  · rintro ⟨x, y, z, t, rfl⟩
    simp [decode?, guard, Bytes.split?_append, Bytes.ofList?_toList]

lemma decode_encode (m : AuthorityMarker) : decode m.encode = .ok m :=
  decode_eq_ok_iff.2 (.refl _)

/-- The length and the first two bytes are all that is asked of a marker. -/
lemma reads_iff : RecordKind.authority.Reads bs ↔
    bs.length = 72 ∧ bs[0]? = some RecordKind.authority.tag ∧ bs[1]? = some recordVersion := by
  simp only [RecordKind.Reads, decode_eq_ok_iff, encode, List.append_assoc,
    RecordKind.agreeOutside_padding_iff]
  refine .trans ⟨?_, ?_⟩ (RecordKind.exists_header_iff (n := 64)).symm
  · rintro ⟨m, x, y, z, t, rfl⟩
    exact ⟨m.bump, m.authorityId, x, y, z, t, _, by simp [Bytes.length_toList], rfl⟩
  · rintro ⟨bump, id, x, y, z, t, body, hlength, rfl⟩
    obtain ⟨wallet, seed, hseed, rfl⟩ := Bytes.exists_append (n := 32) (k := 32) hlength
    exact ⟨⟨bump, id, wallet, ⟨seed, hseed⟩⟩, x, y, z, t, rfl⟩

end AuthorityMarker

/-! ## Session records -/

namespace SessionRecord

variable {bs : List UInt8} {s : SessionRecord}

/-- Bytes are read as a session record exactly if they are that record, whatever the padding. -/
theorem decode_eq_ok_iff : decode bs = .ok s ↔ AgreeOutside RecordKind.Padding bs s.encode := by
  simp only [decode, orError_eq_ok_iff, encode, List.append_assoc,
    RecordKind.agreeOutside_padding_iff]
  constructor
  · intro h
    unfold decode? at h
    split at h
    · simp only [Option.bind_eq_bind, Option.bind_eq_some_iff, Option.guard_eq_some', Prod.exists,
        exists_const, Bytes.split?_eq_some_iff, Bytes.ofList?_eq_some_iff, Option.pure_def,
        Option.some.injEq] at h
      obtain ⟨⟨rfl, rfl⟩, wallet, _, rfl, sessionKey, _, rfl, authorizerSeed, _, rfl, expiry, rfl,
        rfl⟩ := h
      exact ⟨_, _, _, _, by rw [Bytes.bytesOfUInt64_toUInt64]; rfl⟩
    · cases h
  · rintro ⟨x, y, z, t, rfl⟩
    simp [decode?, guard, Bytes.split?_append, Bytes.ofList?_bytesOfUInt64]

lemma decode_encode (s : SessionRecord) : decode s.encode = .ok s :=
  decode_eq_ok_iff.2 (.refl _)

/-- The length and the first two bytes are all that is asked of a session record. -/
lemma reads_iff : RecordKind.session.Reads bs ↔
    bs.length = 112 ∧ bs[0]? = some RecordKind.session.tag ∧ bs[1]? = some recordVersion := by
  simp only [RecordKind.Reads, decode_eq_ok_iff, encode, List.append_assoc,
    RecordKind.agreeOutside_padding_iff]
  refine .trans ⟨?_, ?_⟩ (RecordKind.exists_header_iff (n := 104)).symm
  · rintro ⟨s, x, y, z, t, rfl⟩
    exact ⟨s.bump, s.authorizerId, x, y, z, t, _, by simp [Bytes.length_toList, bytesOfUInt64], rfl⟩
  · rintro ⟨bump, id, x, y, z, t, body, hlength, rfl⟩
    obtain ⟨wallet, _, hkeys, rfl⟩ := Bytes.exists_append (n := 32) (k := 72) hlength
    obtain ⟨sessionKey, _, hseed, rfl⟩ := Bytes.exists_append (n := 32) (k := 40) hkeys
    obtain ⟨authorizerSeed, last, hlast, rfl⟩ := Bytes.exists_append (n := 32) (k := 8) hseed
    obtain ⟨expiry, rfl⟩ : ∃ expiry : Bytes 8, last = expiry.toList := ⟨⟨last, hlast⟩, rfl⟩
    refine ⟨⟨bump, id, wallet, sessionKey, authorizerSeed, expiry.toUInt64⟩, x, y, z, t, ?_⟩
    rw [Bytes.bytesOfUInt64_toUInt64]

end SessionRecord

/-! ## Callers -/

/-- The kind of the record that authorised a caller. -/
def Caller.recordKind : Caller → RecordKind
  | authority .. => .authority
  | session _ => .session

/-- An execution is authorised by a record of the kind that the first byte announces. -/
lemma Context.reads_of_authorizeCaller {c : Context} {walletKey key : Key} {w : Wallet}
    {auth : Authorization} {caller : Caller} {delta : Delta} {bs : List UInt8}
    (hdata : c.data? key = some bs)
    (h : c.authorizeCaller walletKey w key auth = .ok (caller, delta)) :
    caller.recordKind.Reads bs := by
  simp only [authorizeCaller, hdata, Option.bind_some] at h
  split at h
  · simp only [bind_eq_ok_iff, pure_eq_ok_iff, Prod.mk.injEq, authorizeSession, hdata,
      orError_eq_ok_iff, ensure_eq_ok, exists_const] at h
    obtain ⟨_, ⟨_, ⟨⟩, s, hs, -, _, -, -, -, -, -, rfl⟩, rfl, -⟩ := h
    exact ⟨s, orError_eq_ok_iff.2 hs⟩
  · split at h
    · simp only [bind_eq_ok_iff, pure_eq_ok_iff, Prod.mk.injEq, resolveAuthority, hdata,
        orError_eq_ok_iff] at h
      obtain ⟨a, ⟨_, ⟨⟩, m, hm, -⟩, _, -, _, -, rfl, -⟩ := h
      exact ⟨m, orError_eq_ok_iff.2 hm⟩
    · cases h

/-- No bytes are read as records of two kinds, and the kind is the one that the first byte announces
and by which an execution chooses how to authorise its caller. A marker and a session record are
read from their own bytes alone, whatever the padding, and every string of their length, kind and
version is one. -/
theorem RecordKind.kinds_apart (bs : List UInt8) :
    (∀ kind kind' : RecordKind, kind.Reads bs → kind'.Reads bs → kind = kind') ∧
    (∀ kind : RecordKind, kind.Reads bs → bs.head?.map ofTag = some (.ok kind)) ∧
    (∀ (c : Context) (walletKey key : Key) (w : Wallet) (auth : Authorization) (caller : Caller)
      (delta : Delta), c.data? key = some bs →
        c.authorizeCaller walletKey w key auth = .ok (caller, delta) →
          caller.recordKind.Reads bs) ∧
    (∀ m, AuthorityMarker.decode bs = .ok m ↔ AgreeOutside Padding bs m.encode) ∧
    (∀ s, SessionRecord.decode bs = .ok s ↔ AgreeOutside Padding bs s.encode) ∧
    (∀ m : AuthorityMarker, AuthorityMarker.decode m.encode = .ok m) ∧
    (∀ s : SessionRecord, SessionRecord.decode s.encode = .ok s) ∧
    (authority.Reads bs ↔
      bs.length = 72 ∧ bs[0]? = some authority.tag ∧ bs[1]? = some recordVersion) ∧
    (session.Reads bs ↔
      bs.length = 112 ∧ bs[0]? = some session.tag ∧ bs[1]? = some recordVersion) :=
  ⟨fun _ _ => eq_of_reads, fun _ => ofTag_of_reads,
    fun _ _ _ _ _ _ _ => Context.reads_of_authorizeCaller,
    fun _ => AuthorityMarker.decode_eq_ok_iff, fun _ => SessionRecord.decode_eq_ok_iff,
    AuthorityMarker.decode_encode, SessionRecord.decode_encode, AuthorityMarker.reads_iff,
    SessionRecord.reads_iff⟩

namespace Sample

/-- A session that lasts to the last slot. -/
def lastingSession : SessionRecord :=
  ⟨250, 1, .replicate 32 3, .replicate 32 4, .replicate 32 5, 0xffffffffffffffff⟩

theorem lasting_session_told_apart :
    SessionRecord.decode (lastingSession.encode.set 5 9) = .ok lastingSession ∧
      ¬RecordKind.wallet.Reads (lastingSession.encode.set 5 9) ∧
      ¬RecordKind.authority.Reads (lastingSession.encode.set 5 9) := by
  obtain ⟨happart, -, -, -, hsession, -⟩ :=
    RecordKind.kinds_apart (lastingSession.encode.set 5 9)
  have hread : SessionRecord.decode (lastingSession.encode.set 5 9) = .ok lastingSession :=
    (hsession _).2 (.set ⟨by decide, by decide⟩ _ _)
  refine ⟨hread, fun hw => ?_, fun hm => ?_⟩
  · cases happart .wallet .session hw ⟨_, hread⟩
  · cases happart .authority .session hm ⟨_, hread⟩

end Sample

end SmartWallet

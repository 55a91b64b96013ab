import SmartWallet.Proofs.Fidelity

/-!
# All before any, in order, and for good

An execution is authorised and resolved before its first call is handed over, and once its last call
is carried out nothing is left that can fail. What stands between the two is the host alone: it
carries out the calls one after the other, and its first refusal ends the execution and undoes it.
-/

namespace SmartWallet

/-!
## Errors of the checks

`dispatchFailed` is the host's refusal and nothing else: no reader, no check and no commit reports
it.
-/

@[simp] lemma ofRecord_ne_dispatchFailed {α : Type} {x : Except RecordError α} :
    ofRecord x ≠ .error .dispatchFailed := by
  cases x with
  | ok a => simp [ofRecord, Except.mapError]
  | error e => cases e <;> simp [ofRecord, Except.mapError, RecordError.toProgramError]

namespace PackedCall

@[simp] lemma read_ne_dispatchFailed {bs : List UInt8} : read bs ≠ .error .dispatchFailed := by
  have hrole : ∀ b, AccountRole.ofByte b ≠ .error .dispatchFailed := by
    intro b
    unfold AccountRole.ofByte
    split_ifs <;> simp
  unfold read
  split
  · simp [mapM_ne_error hrole]
  · simp

@[simp] lemma resolve_ne_dispatchFailed {c : PackedCall} {outer : List AccountRef} :
    c.resolve outer ≠ .error .dispatchFailed := by
  simp only [resolve, Ne, bind_eq_error_iff, orError_eq_error_iff]
  rintro (⟨-, ⟨⟩⟩ | ⟨program, -, hrefs | ⟨refs, -, ⟨⟩⟩⟩)
  refine mapM_ne_error (fun entry h => ?_) hrefs
  simpa using map_eq_error_iff.1 h

end PackedCall

@[simp] lemma Batch.read_ne_dispatchFailed {bs : List UInt8} :
    read bs ≠ .error .dispatchFailed := by
  have hcalls : ∀ count bs, readCalls count bs ≠ .error .dispatchFailed := by
    intro count
    induction count with
    | zero => simp [readCalls]
    | succ count ih =>
      intro bs
      simp [readCalls, ih]
  cases bs with
  | nil => simp [read]
  | cons count bs => exact hcalls count.toNat bs

@[simp] lemma Batch.encode_ne_dispatchFailed {calls : List PackedCall} :
    encode calls ≠ .error .dispatchFailed := by
  have hcall : ∀ c : PackedCall, c.encode ≠ .error .dispatchFailed := fun c => by
    simp [PackedCall.encode]
  simp [encode, mapM_ne_error hcall]

@[simp] lemma AuthorityPayload.read_ne_dispatchFailed {kind : AuthorityKind} {bs : List UInt8} :
    read kind bs ≠ .error .dispatchFailed := by
  unfold read
  split
  · simp
  · simp

namespace Instruction

@[simp] lemma signedBody_ne_dispatchFailed {ix : Instruction} :
    ix.signedBody ≠ .error .dispatchFailed := by
  cases ix <;> simp [signedBody]

@[simp] lemma decode_ne_dispatchFailed {profile : DiscriminatorProfile} {bs : List UInt8} :
    decode profile bs ≠ .error .dispatchFailed := by
  have hheader : ∀ bs, readHeader bs ≠ .error .dispatchFailed := by
    intro bs
    unfold readHeader
    split <;> simp
  have hbody : ∀ kind bs, decodeBody kind bs ≠ .error .dispatchFailed := by
    intro kind bs
    unfold decodeBody readKind
    split
    · simp [hheader]
    · simp [hheader]
    · simp
    · split
      · simp
      · simp
    · simp
    · simp
  simp [decode, InstructionKind.split, hbody]

end Instruction

namespace Context

variable {c : Context} {auth : Authorization} {a : Authority} {w : Wallet} {key walletKey : Key}
  {allowSession : Bool}

@[simp] lemma requireAccounts_ne_dispatchFailed {count : Nat} :
    c.requireAccounts count ≠ .error .dispatchFailed := by
  simp [requireAccounts]

@[simp] lemma account_ne_dispatchFailed {index : Nat} :
    c.account index ≠ .error .dispatchFailed := by
  simp [account]

@[simp] lemma derive_ne_dispatchFailed {recipe : Recipe} :
    c.derive recipe ≠ .error .dispatchFailed :=
  ofRecord_ne_dispatchFailed

@[simp] lemma payer_ne_dispatchFailed : c.payer ≠ .error .dispatchFailed := by
  simp [payer]

@[simp] lemma checkSystemProgram_ne_dispatchFailed {index : Nat} :
    c.checkSystemProgram index ≠ .error .dispatchFailed := by
  simp [checkSystemProgram]

@[simp] lemma loadWallet_ne_dispatchFailed : c.loadWallet key ≠ .error .dispatchFailed := by
  simp [loadWallet]

@[simp] lemma resolveAuthority_ne_dispatchFailed :
    c.resolveAuthority walletKey w key ≠ .error .dispatchFailed := by
  simp [resolveAuthority]

@[simp] lemma authenticate_ne_dispatchFailed :
    c.authenticate a auth allowSession ≠ .error .dispatchFailed := by
  -- both credentials fall back on the session key
  have hsession : ∀ r : AuthRequest, r.viaSession a ≠ .error .dispatchFailed := by
    intro r
    unfold AuthRequest.viaSession
    split
    · split_ifs <;> simp
    · simp
  have hbyKey : ∀ r : AuthRequest, r.byEd25519 a ≠ .error .dispatchFailed := by
    intro r
    simp only [AuthRequest.byEd25519, Ne, bind_eq_error_iff, orError_eq_error_iff]
    rintro (⟨-, ⟨⟩⟩ | ⟨_, -, h⟩)
    split at h
    · cases h
    · exact hsession r h
  have hbyProof : ∀ r : AuthRequest, r.bySecp256r1 c.verify a ≠ .error .dispatchFailed := by
    intro r
    simp only [AuthRequest.bySecp256r1, Ne, bind_eq_error_iff, orError_eq_error_iff]
    rintro (⟨-, ⟨⟩⟩ | ⟨_, -, h⟩)
    split at h
    · exact hsession r h
    · simp at h
  simp only [authenticate, Ne, bind_eq_error_iff, account_ne_dispatchFailed, false_or]
  rintro ⟨payer, -, h⟩
  unfold AuthRequest.authenticate at h
  split at h
  · exact hbyProof _ h
  · exact hbyKey _ h

@[simp] lemma createWallet_ne_dispatchFailed {walletId : Key} {ownerBump : UInt8}
    {owner : AuthorityPayload} :
    c.createWallet walletId ownerBump owner ≠ .error .dispatchFailed := by
  simp [createWallet]

@[simp] lemma addAuthority_ne_dispatchFailed {role : Role} {p : AuthorityPayload} :
    c.addAuthority role p auth ≠ .error .dispatchFailed := by
  simp [addAuthority]

@[simp] lemma removeAuthority_ne_dispatchFailed :
    c.removeAuthority auth ≠ .error .dispatchFailed := by
  simp [removeAuthority]

@[simp] lemma transferOwnership_ne_dispatchFailed {p : AuthorityPayload} :
    c.transferOwnership p auth ≠ .error .dispatchFailed := by
  simp [transferOwnership]

@[simp] lemma createSession_ne_dispatchFailed {sessionKey : Key} {expiresAt : UInt64} :
    c.createSession sessionKey expiresAt auth ≠ .error .dispatchFailed := by
  simp [createSession]

@[simp] lemma authorizeCaller_ne_dispatchFailed :
    c.authorizeCaller walletKey w key auth ≠ .error .dispatchFailed := by
  have hsession : c.authorizeSession walletKey w key ≠ .error .dispatchFailed := by
    simp [authorizeSession]
  simp only [authorizeCaller]
  split
  · simp [hsession]
  · split
    · simp
    · simp

@[simp] lemma prepareExecution_ne_dispatchFailed {calls : List PackedCall} :
    c.prepareExecution calls auth ≠ .error .dispatchFailed := by
  have hpromote : ∀ vault inner outer, promote vault inner outer ≠ .error .dispatchFailed := by
    intro vault inner outer
    unfold promote
    split_ifs <;> simp
  have hinner : ∀ vault packed, c.resolveInner vault packed ≠ .error .dispatchFailed := by
    intro vault packed
    simp only [resolveInner, Ne, bind_eq_error_iff, PackedCall.resolve_ne_dispatchFailed,
      ensure_eq_error_iff, false_or]
    rintro ⟨call, -, ⟨-, ⟨⟩⟩ | ⟨-, -, haccounts | ⟨accounts, -, ⟨⟩⟩⟩⟩
    exact mapM_ne_error (fun entry => by simp [hpromote]) haccounts
  have hcalls : ∀ vault, calls.mapM (c.resolveInner vault) ≠ .error .dispatchFailed :=
    fun vault => mapM_ne_error (hinner vault)
  simp [prepareExecution, hcalls]

@[simp] lemma readInstruction_ne_dispatchFailed {data : List UInt8} :
    c.readInstruction data ≠ .error .dispatchFailed := by
  simp [readInstruction]

end Context

lemma Ledger.apply_ne_dispatchFailed {l : Ledger} {delta : Delta} :
    l.apply delta ≠ .error .dispatchFailed := by
  have hwrite : ∀ (m : AccountMap) w, m.write w ≠ .error .dispatchFailed := by
    intro m w
    cases w with
    | store => simp [AccountMap.write]
    | close => simp [AccountMap.write]
  have hall : ∀ m : AccountMap, m.writeAll delta ≠ .error .dispatchFailed := by
    induction delta with
    | nil => simp [AccountMap.writeAll]
    | cons w rest ih =>
      intro m
      simp [AccountMap.writeAll, hwrite, ih]
  simp [apply, hall]

/-! ## The host's answers -/

namespace Dispatcher

/-- The host carries out the first calls of a batch, each after those in front of it. -/
def Accepts (dispatcher : Dispatcher) (batch : List Dispatch) (n : Nat) : Prop :=
  ∀ i < n, ∀ x, batch[i]? = some x → dispatcher (batch.take i) x = true

/-- The host carries out the calls of a batch up to one, which it refuses. -/
structure Stops (dispatcher : Dispatcher) (batch : List Dispatch) (n : Nat) (x : Dispatch) :
    Prop where
  next : batch[n]? = some x
  accepts : dispatcher.Accepts batch n
  refuses : dispatcher (batch.take n) x = false

variable {dispatcher : Dispatcher} {batch : List Dispatch} {n : Nat} {x : Dispatch}

lemma Accepts.succ (h : dispatcher.Accepts batch n) (hx : batch[n]? = some x)
    (haccept : dispatcher (batch.take n) x = true) : dispatcher.Accepts batch (n + 1) := by
  intro i hi y hy
  rcases Nat.lt_succ_iff_lt_or_eq.1 hi with hi | rfl
  · exact h i hi y hy
  · rw [hx, Option.some.injEq] at hy
    exact hy ▸ haccept

lemma Stops.not_accepts (h : dispatcher.Stops batch n x) :
    ¬dispatcher.Accepts batch batch.length := by
  intro hall
  have htrue := hall n (List.getElem?_eq_some_iff.1 h.next).1 x h.next
  rw [h.refuses] at htrue
  cases htrue

end Dispatcher

namespace DispatchLog

variable {dispatcher : Dispatcher} {accepted rest batch : List Dispatch}

/-- What is recorded of a batch, when a first part of it has been accepted. -/
lemma record_cases (hsplit : accepted ++ rest = batch)
    (h : dispatcher.Accepts batch accepted.length) :
    (dispatcher.Accepts batch batch.length ∧ record dispatcher accepted rest = ⟨batch, none⟩) ∨
      ∃ n x, dispatcher.Stops batch n x ∧
        record dispatcher accepted rest = ⟨batch.take n, some x⟩ := by
  -- on what is left of the batch, behind the part that is accepted so far
  induction rest generalizing accepted with
  | nil =>
    rw [List.append_nil] at hsplit
    subst hsplit
    exact .inl ⟨h, rfl⟩
  | cons x rest ih =>
    have hx : batch[accepted.length]? = some x := by simp [← hsplit]
    have htake : batch.take accepted.length = accepted := by simp [← hsplit]
    unfold record
    split
    · next hd =>
      refine ih (by simp [hsplit]) ?_
      rw [List.length_append]
      exact h.succ hx (by rw [htake, hd])
    · next hd =>
      refine .inr ⟨accepted.length, x, ⟨hx, h, ?_⟩, by rw [htake]⟩
      rw [htake]
      exact Bool.eq_false_iff.2 hd

end DispatchLog

namespace Context

variable {c : Context} {auth : Authorization}

/-- The host carries out a whole batch or stops at one of its calls; the answer is accordingly. -/
lemma dispatch_cases (dispatcher : Dispatcher) (p : PreparedExecution) :
    (dispatcher.Accepts p.dispatches p.dispatches.length ∧
      dispatch dispatcher p = (⟨p.dispatches, none⟩, .ok ⟨.execute, p.delta, some p.plan⟩)) ∨
      ∃ n x, dispatcher.Stops p.dispatches n x ∧
        dispatch dispatcher p = (⟨p.dispatches.take n, some x⟩, .error .dispatchFailed) := by
  have hnone : dispatcher.Accepts p.dispatches ([] : List Dispatch).length := nofun
  rcases DispatchLog.record_cases (List.nil_append _) hnone with
    ⟨hall, hlog⟩ | ⟨n, x, hstops, hlog⟩
  · exact .inl ⟨hall, by rw [dispatch, hlog]⟩
  · exact .inr ⟨n, x, hstops, by rw [dispatch, hlog]⟩

/-- Only an execution asks the host. -/
lemma perform_of_ne_execute {ix : Instruction} (h : ix.kind ≠ .execute) :
    ∃ result, result ≠ .error .dispatchFailed ∧
      ∀ dispatcher, c.perform dispatcher ix auth = (.empty, result) := by
  have hstate : ∀ delta : Except ProgramError Delta, delta ≠ .error .dispatchFailed →
      (delta.map fun writes => (⟨ix.kind, writes, none⟩ : Outcome)) ≠ .error .dispatchFailed :=
    fun delta hdelta he => hdelta (map_eq_error_iff.1 he)
  cases ix with
  | createWallet => exact ⟨_, hstate _ createWallet_ne_dispatchFailed, fun _ => rfl⟩
  | addAuthority => exact ⟨_, hstate _ addAuthority_ne_dispatchFailed, fun _ => rfl⟩
  | removeAuthority => exact ⟨_, hstate _ removeAuthority_ne_dispatchFailed, fun _ => rfl⟩
  | transferOwnership => exact ⟨_, hstate _ transferOwnership_ne_dispatchFailed, fun _ => rfl⟩
  | execute => exact absurd rfl h
  | createSession => exact ⟨_, hstate _ createSession_ne_dispatchFailed, fun _ => rfl⟩

lemma process_of_not_prepared {data : List UInt8}
    (h : ∀ calls proof auth p, c.readInstruction data = .ok (.execute calls proof, auth) →
      c.prepareExecution calls auth ≠ .ok p) :
    ∃ result, result ≠ .error .dispatchFailed ∧
      ∀ dispatcher, c.process dispatcher data = (.empty, result) := by
  cases hread : c.readInstruction data with
  | error e =>
    refine ⟨.error e, ?_, fun _ => by rw [process, hread]⟩
    rintro ⟨⟩
    exact readInstruction_ne_dispatchFailed hread
  | ok read =>
    obtain ⟨ix, auth⟩ := read
    simp only [process_of_readInstruction hread]
    by_cases hkind : ix.kind = .execute
    · cases ix with
      | execute calls proof =>
        cases hp : c.prepareExecution calls auth with
        | error e =>
          refine ⟨.error e, ?_, fun _ => by rw [perform, hp]⟩
          rintro ⟨⟩
          exact prepareExecution_ne_dispatchFailed hp
        | ok p => exact absurd hp (h calls proof auth p hread)
      | _ => cases hkind
    · exact perform_of_ne_execute hkind

end Context

namespace Ledger

variable {l : Ledger} {d : Deployment} {verify : Verifier} {accounts : List AccountRef}
  {data : List UInt8} {p : PreparedExecution}

/-- The bytes hold an execution that is authorised and resolved on this ledger. The host has not
been asked for anything yet. -/
def Resolves (l : Ledger) (d : Deployment) (verify : Verifier) (accounts : List AccountRef)
    (data : List UInt8) (p : PreparedExecution) : Prop :=
  ∃ calls proof auth,
    (l.context d verify accounts).readInstruction data = .ok (.execute calls proof, auth) ∧
      (l.context d verify accounts).prepareExecution calls auth = .ok p

/-- What is resolved are the calls of the batch, one by one. -/
lemma Resolves.calls (h : l.Resolves d verify accounts data p) : ∃ calls proof vault,
    Instruction.decode d.profile data = .ok (.execute calls proof) ∧
      List.Forall₂ (fun packed x =>
          (l.context d verify accounts).resolveInner vault packed = .ok x.call)
        calls p.dispatches := by
  obtain ⟨calls, proof, auth, hread, hprepared⟩ := h
  obtain ⟨payer, wallet, caller, vault, w, hprepares⟩ :=
    Context.prepares_of_prepareExecution hprepared
  refine ⟨calls, proof, vault.key, (Context.readInstruction_eq_ok_iff.1 hread).1, ?_⟩
  rw [PreparedExecution.dispatches, List.forall₂_map_right_iff]
  exact mapM_eq_ok_iff.1 hprepares.resolved

lemma Resolves.unique {p' : PreparedExecution} (h : l.Resolves d verify accounts data p)
    (h' : l.Resolves d verify accounts data p') : p = p' := by
  obtain ⟨calls, proof, auth, hread, hprepared⟩ := h
  obtain ⟨calls', proof', auth', hread', hprepared'⟩ := h'
  cases hread.symm.trans hread'
  exact Except.ok.inj (hprepared.symm.trans hprepared')

/-- The writes of an execution can be committed on any ledger. -/
lemma Resolves.exists_apply (h : l.Resolves d verify accounts data p) :
    ∃ l', l.apply p.delta = .ok l' := by
  obtain ⟨calls, proof, auth, -, hprepared⟩ := h
  obtain ⟨payer, wallet, caller, vault, w, hprepares⟩ :=
    Context.prepares_of_prepareExecution hprepared
  exact exists_apply_of_calls hprepares.authorized

lemma Resolves.process_eq (h : l.Resolves d verify accounts data p) (dispatcher : Dispatcher) :
    (l.context d verify accounts).process dispatcher data = Context.dispatch dispatcher p := by
  obtain ⟨calls, proof, auth, hread, hprepared⟩ := h
  rw [Context.process_of_readInstruction hread]
  simp only [Context.perform, hprepared]

/-- Once its calls are authorised and resolved, an execution is up to the host: it is committed, or
it is undone. -/
theorem process_cases_of_resolves (h : l.Resolves d verify accounts data p)
    (dispatcher : Dispatcher) :
    (dispatcher.Accepts p.dispatches p.dispatches.length ∧ ∃ l', l.apply p.delta = .ok l' ∧
      l.process d verify dispatcher accounts data =
        ⟨l', ⟨p.dispatches, none⟩, .ok ⟨.execute, p.delta, some p.plan⟩⟩) ∨
      ∃ n x, dispatcher.Stops p.dispatches n x ∧
        l.process d verify dispatcher accounts data =
          ⟨l, ⟨p.dispatches.take n, some x⟩, .error .dispatchFailed⟩ := by
  rw [process, h.process_eq]
  rcases Context.dispatch_cases dispatcher p with ⟨hall, hdispatch⟩ | ⟨n, x, hstops, hdispatch⟩
  · obtain ⟨l', happly⟩ := h.exists_apply
    exact .inl ⟨hall, l', happly, by simp only [hdispatch, happly]⟩
  · exact .inr ⟨n, x, hstops, by simp only [hdispatch]⟩

/-- Without a resolved batch no host is asked, and the answer does not tell of a refusal. -/
theorem process_of_not_resolves (h : ∀ p, ¬l.Resolves d verify accounts data p) :
    ∃ r : Processed, r.log = .empty ∧ r.result ≠ .error .dispatchFailed ∧
      ∀ dispatcher, l.process d verify dispatcher accounts data = r := by
  obtain ⟨result, hresult, hprocess⟩ := Context.process_of_not_prepared
    fun calls proof auth p hread hp => h p ⟨calls, proof, auth, hread, hp⟩
  simp only [process, hprocess]
  cases result with
  | error e => exact ⟨_, rfl, hresult, fun _ => rfl⟩
  | ok outcome =>
    cases happly : l.apply outcome.delta with
    | error e =>
      refine ⟨⟨l, .empty, .error e⟩, rfl, ?_, fun _ => by simp only [happly]⟩
      rintro ⟨⟩
      exact apply_ne_dispatchFailed happly
    | ok l' => exact ⟨⟨l', .empty, .ok outcome⟩, rfl, by simp, fun _ => by simp only [happly]⟩

/-- An instruction that fails otherwise than by a refusal has handed nothing over, to whatever host.
A refusal comes after a first part of the resolved batch, in order, and changes nothing. When the
host carries out the whole batch, the execution succeeds with the calls that were handed over. -/
theorem dispatch_all_before_any (l : Ledger) (d : Deployment) (verify : Verifier)
    (dispatcher : Dispatcher) (accounts : List AccountRef) (data : List UInt8) :
    let r := l.process d verify dispatcher accounts data
    (∀ e, r.result = .error e → e ≠ .dispatchFailed →
      r.log = .empty ∧ ∀ other, l.process d verify other accounts data = r) ∧
    (r.result = .error .dispatchFailed → r.ledger = l ∧
      ∃ calls proof vault p n x,
        Instruction.decode d.profile data = .ok (.execute calls proof) ∧
        l.Resolves d verify accounts data p ∧
        List.Forall₂ (fun packed y =>
            (l.context d verify accounts).resolveInner vault packed = .ok y.call)
          calls p.dispatches ∧
        p.dispatches[n]? = some x ∧
        (∀ i < n, ∀ y, p.dispatches[i]? = some y → dispatcher (p.dispatches.take i) y = true) ∧
        dispatcher (p.dispatches.take n) x = false ∧
        r.log = ⟨p.dispatches.take n, some x⟩) ∧
    (r.log ≠ .empty → ∃ p, l.Resolves d verify accounts data p) ∧
    ∀ p, l.Resolves d verify accounts data p →
      (∀ i y, p.dispatches[i]? = some y → dispatcher (p.dispatches.take i) y = true) →
        r.result = .ok ⟨.execute, p.delta, some p.plan⟩ ∧ r.log = ⟨p.dispatches, none⟩ ∧
          p.plan.calls = r.log.accepted.map Dispatch.call ∧ l.apply p.delta = .ok r.ledger := by
  intro r
  by_cases hres : ∃ p, l.Resolves d verify accounts data p
  · obtain ⟨p, hp⟩ := hres
    rcases process_cases_of_resolves hp dispatcher with
      ⟨hall, l', happly, hprocess⟩ | ⟨n, x, hstops, hprocess⟩
    · have hr : r = ⟨l', ⟨p.dispatches, none⟩, .ok ⟨.execute, p.delta, some p.plan⟩⟩ := hprocess
      rw [hr]
      refine ⟨by simp, by simp, fun _ => ⟨p, hp⟩, fun p' hp' _ => ?_⟩
      obtain rfl := hp.unique hp'
      refine ⟨rfl, rfl, ?_, happly⟩
      rw [PreparedExecution.dispatches, List.map_map]
      exact (List.map_id _).symm
    · have hr : r = ⟨l, ⟨p.dispatches.take n, some x⟩, .error .dispatchFailed⟩ := hprocess
      rw [hr]
      refine ⟨?_, fun _ => ⟨rfl, ?_⟩, fun _ => ⟨p, hp⟩, ?_⟩
      · rintro e ⟨⟩ hne
        exact absurd rfl hne
      · obtain ⟨calls, proof, vault, hdecode, hcalls⟩ := hp.calls
        exact ⟨calls, proof, vault, p, n, x, hdecode, hp, hcalls, hstops.next, hstops.accepts,
          hstops.refuses, rfl⟩
      · intro p' hp' hall
        obtain rfl := hp.unique hp'
        exact absurd (fun i _ => hall i) hstops.not_accepts
  · obtain ⟨r', hlog, hresult, hprocess⟩ := process_of_not_resolves (not_exists.1 hres)
    obtain rfl : r = r' := hprocess dispatcher
    exact ⟨fun e he hne => ⟨hlog, hprocess⟩, fun he => absurd he hresult,
      fun hne => absurd hlog hne, fun p hp => absurd ⟨p, hp⟩ hres⟩

end Ledger

namespace Sample

/-- Three calls of the system program, the second with a byte of data. -/
def threeCalls : List UInt8 :=
  InstructionKind.execute.number :: [3, 4, 0, 0, 0, 4, 0, 1, 0, 7, 4, 0, 0, 0]

def systemCall (data : List UInt8) : Dispatch :=
  ⟨⟨systemProgram, [], data⟩, [bytesOfText "vault", walletKey.toList, [255]]⟩

abbrev processThreeCalls (dispatcher : Dispatcher) : Processed :=
  founded.process default .echo dispatcher handoverAccounts threeCalls

/-- The host refuses the second call: the third is not handed over, and nothing has changed. -/
theorem second_call_refused :
    (processThreeCalls (.refuseAt 1)).result = .error .dispatchFailed ∧
      (processThreeCalls (.refuseAt 1)).log = ⟨[systemCall []], some (systemCall [7])⟩ ∧
      (processThreeCalls (.refuseAt 1)).ledger = founded := by
  have hanswer : (processThreeCalls (.refuseAt 1)).result = .error .dispatchFailed ∧
      (processThreeCalls (.refuseAt 1)).log = ⟨[systemCall []], some (systemCall [7])⟩ := by
    decide +kernel
  obtain ⟨-, hrefused, -⟩ :=
    Ledger.dispatch_all_before_any founded default .echo (.refuseAt 1) handoverAccounts threeCalls
  exact ⟨hanswer.1, hanswer.2, (hrefused hanswer.1).1⟩

end Sample

end SmartWallet

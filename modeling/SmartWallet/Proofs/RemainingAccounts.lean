import SmartWallet.Proofs.Assembly
import SmartWallet.Proofs.Fidelity

/-!
# The accounts that a packed batch adds

A batch is packed over some fixed keys. The accounts that it adds behind them are those that a
message lists of the other references, each key once and with everything that is asked for it, but
in the order in which the keys are met. Resolving looks at keys only, so that any account list with
these keys in front gives back the calls that were packed.
-/

namespace SmartWallet

/-! ## What is added -/

namespace Message

variable {a : AccountRef} {refs asked : List AccountRef}

lemma unite_of_new (h : a.key ∉ refs.map AccountRef.key) : unite a refs = refs ++ [a] := by
  induction refs with
  | nil => rfl
  | cons b refs ih =>
    rw [List.map_cons, List.mem_cons, not_or] at h
    rw [unite, if_neg (Ne.symm h.1), ih h.2, List.cons_append]

/-- Uniting references keeps the order in which their keys are met. -/
lemma keys_foldl_unite (asked : List AccountRef) :
    (asked.foldl (fun refs a => unite a refs) []).map AccountRef.key =
      (asked.map AccountRef.key).eraseDups := by
  induction asked using List.reverseRecOn with
  | nil => rfl
  | append_singleton asked a ih =>
    rw [List.foldl_append, List.map_append, List.eraseDups_append, ← ih]
    simp only [List.foldl_cons, List.foldl_nil, keys_unite, ih, List.mem_eraseDups]
    rw [List.map_singleton, List.cons_removeAll, List.nil_removeAll]
    by_cases h : a.key ∈ asked.map AccountRef.key
    · simp [h]
    · simp [h, List.eraseDups_cons]

end Message

namespace AccountTable

variable {t t' : AccountTable} {a : AccountRef}

lemma widen_eq_unite {l : List AccountRef} (h : a.key ∈ l.map AccountRef.key) :
    widen a.key (.ofRef a) l = Message.unite a l := by
  induction l with
  | nil => cases h
  | cons b l ih =>
    unfold widen Message.unite
    split
    · next hkey => simp [AccountRole.toRef, AccountRole.merge, AccountRole.ofRef, hkey]
    · next hkey =>
      rw [List.map_cons, List.mem_cons] at h
      rw [ih (h.resolve_left (Ne.symm hkey))]

/-- The added accounts after some references, which count only where their keys are not fixed. -/
def collect (fixed : List Key) (asked added : List AccountRef) : List AccountRef :=
  (asked.filter (·.key ∉ fixed)).foldl (fun refs a => Message.unite a refs) added

lemma collect_append (fixed : List Key) (asked more added : List AccountRef) :
    collect fixed (asked ++ more) added = collect fixed more (collect fixed asked added) := by
  simp [collect]

lemma added_of_register {i : UInt8} (h : t.register a.key (.ofRef a) = .ok (t', i)) :
    t' = ⟨t.fixed, collect t.fixed [a] t.added⟩ := by
  unfold register at h
  split at h
  · next j hj =>
    have hfixed : a.key ∈ t.fixed := by
      obtain ⟨hlt, hkey, -⟩ := List.findIdx?_eq_some_iff_getElem.1 hj
      exact beq_iff_eq.1 hkey ▸ List.getElem_mem hlt
    cases h
    simp [collect, hfixed]
  · next hfixed =>
    have hnew : a.key ∉ t.fixed := fun hmem => by
      simpa using List.findIdx?_eq_none_iff.1 hfixed a.key hmem
    split at h
    · next j hj =>
      have hkey : a.key ∈ t.added.map AccountRef.key := by
        obtain ⟨hlt, hkey, -⟩ := List.findIdx?_eq_some_iff_getElem.1 hj
        exact List.mem_map.2 ⟨_, List.getElem_mem hlt, beq_iff_eq.1 hkey⟩
      cases h
      simp [collect, hnew, widen_eq_unite hkey]
    · next hadded =>
      have hkey : a.key ∉ t.added.map AccountRef.key := by simpa using hadded
      simp only [bind_eq_ok_iff, ensure_eq_ok, exists_const, pure_eq_ok_iff, Prod.mk.injEq] at h
      obtain ⟨-, rfl, -⟩ := h
      simp [collect, hnew, Message.unite_of_new hkey]

lemma added_of_registerAll {refs : List AccountRef} {indexes : List UInt8}
    (h : t.registerAll refs = .ok (t', indexes)) :
    t' = ⟨t.fixed, collect t.fixed refs t.added⟩ := by
  induction refs generalizing t indexes with
  | nil =>
    cases h
    rfl
  | cons a refs ih =>
    simp only [registerAll, bind_eq_ok_iff, pure_eq_ok_iff, Prod.exists, Prod.mk.injEq] at h
    obtain ⟨t₁, i, hfirst, _, rest, hrest, rfl, rfl⟩ := h
    rw [ih hrest, added_of_register hfirst, ← collect_append, List.singleton_append]

lemma added_of_packCall {call : Call} {packed : PackedCall}
    (h : t.packCall call = .ok (t', packed)) :
    t' = ⟨t.fixed, collect t.fixed (Message.askedBy [call]) t.added⟩ := by
  simp only [packCall, bind_eq_ok_iff, ensure_eq_ok, exists_const, pure_eq_ok_iff, Prod.exists,
    Prod.mk.injEq] at h
  obtain ⟨-, -, t₁, program, hprogram, _, accounts, haccounts, rfl, rfl⟩ := h
  have hfirst : t₁ = ⟨t.fixed, collect t.fixed [⟨call.program, false, false⟩] t.added⟩ :=
    added_of_register hprogram
  rw [added_of_registerAll haccounts, hfirst, ← collect_append]
  simp [Message.askedBy]

lemma added_of_packCalls {calls : List Call} {packed : List PackedCall}
    (h : t.packCalls calls = .ok (t', packed)) :
    t' = ⟨t.fixed, collect t.fixed (Message.askedBy calls) t.added⟩ := by
  induction calls generalizing t packed with
  | nil =>
    cases h
    rfl
  | cons call calls ih =>
    simp only [packCalls, bind_eq_ok_iff, pure_eq_ok_iff, Prod.exists, Prod.mk.injEq] at h
    obtain ⟨t₁, c, hfirst, _, rest, hrest, rfl, rfl⟩ := h
    rw [ih hrest, added_of_packCall hfirst, ← collect_append]
    simp [Message.askedBy]

end AccountTable

lemma Batch.remaining_of_pack {calls : List Call} {fixed : List Key} {b : PackedBatch}
    (h : pack calls fixed = .ok b) : b.remaining =
    AccountTable.collect fixed (Message.askedBy calls) [] := by
  simp only [pack, bind_eq_ok_iff, ensure_eq_ok, exists_const, pure_eq_ok_iff, Prod.exists] at h
  obtain ⟨-, -, table, packed, hpacked, bytes, -, rfl⟩ := h
  exact congrArg AccountTable.added (AccountTable.added_of_packCalls hpacked)

/-! ## Resolving -/

/-- Resolving looks at the keys of the outer accounts only. -/
lemma PackedCall.resolve_eq_ok_iff {c : PackedCall} {outer : List AccountRef} {call : Call} :
    c.resolve outer = .ok call ↔
      ∃ program, (outer.map AccountRef.key)[c.program.toNat]? = some program ∧
        ∃ refs, List.Forall₂ (fun (entry : UInt8 × AccountRole) ref =>
            ∃ key, (outer.map AccountRef.key)[entry.1.toNat]? = some key ∧ entry.2.toRef key = ref)
          (c.accounts.zip c.roles) refs ∧ ⟨program, refs, c.data⟩ = call := by
  simp only [resolve, bind_eq_ok_iff, orError_eq_ok_iff, mapM_eq_ok_iff, map_eq_ok_iff,
    pure_eq_ok_iff, List.getElem?_map, Option.map_eq_some_iff]
  simp only [exists_exists_and_eq_and]

lemma PackedCall.resolve_congr {c : PackedCall} {outer outer' : List AccountRef} {call : Call}
    (hkeys : outer.map AccountRef.key = outer'.map AccountRef.key)
    (h : c.resolve outer = .ok call) : c.resolve outer' = .ok call := by
  rw [resolve_eq_ok_iff] at h ⊢
  rwa [← hkeys]

namespace Batch

variable {calls : List Call} {fixed : List Key} {b : PackedBatch}

/-- Behind the fixed and the added keys, and with any privileges, the packed calls stand for the
calls that were packed. -/
theorem resolve_of_pack (h : pack calls fixed = .ok b) :
    ∃ packed, read b.bytes = .ok (packed, []) ∧ ∀ outer : List AccountRef,
      fixed ++ b.remaining.map AccountRef.key <+: outer.map AccountRef.key →
        List.Forall₂ (fun call c => c.resolve outer = .ok call) calls packed := by
  obtain ⟨packed, hencode, hpacks⟩ := packs_of_pack h
  refine ⟨packed, read_eq_ok_iff.2 ⟨b.bytes, hencode, (List.append_nil _).symm⟩, ?_⟩
  rintro outer ⟨more, hkeys⟩
  -- what is packed is known to resolve over fixed accounts: here these are without privileges
  let plain : Key → AccountRef := fun key => ⟨key, false, false⟩
  have hplain : ∀ keys : List Key, (keys.map plain).map AccountRef.key = keys := by
    intro keys
    rw [List.map_map]
    exact List.map_id keys
  rw [← hplain fixed] at hpacks
  refine hpacks.imp fun call c hc => ?_
  have hresolve := PackedCall.resolve_of_standsFor
    (PackedCall.standsFor_of_packs hc (more.map plain))
  refine PackedCall.resolve_congr ?_ hresolve
  rw [List.map_append, List.map_append, hplain, hplain, ← List.append_assoc, hkeys]

lemma mem_askedBy {a : AccountRef} : a ∈ Message.askedBy calls ↔
    ∃ call ∈ calls, a = ⟨call.program, false, false⟩ ∨ a ∈ call.accounts := by
  simp [Message.askedBy]

/-- A flag that programs do not carry is carried by an added account if a reference to it among the
accounts of the calls carries it. -/
lemma any_askedBy_iff {key : Key} (hkey : key ∉ fixed) {flag : AccountRef → Bool}
    (hprogram : ∀ program, flag ⟨program, false, false⟩ = false) :
    (((Message.askedBy calls).filter (·.key ∉ fixed)).any fun a => a.key == key && flag a) = true ↔
      ∃ call ∈ calls, ∃ a ∈ call.accounts, a.key = key ∧ flag a = true := by
  simp only [List.any_eq_true, List.mem_filter, mem_askedBy, Bool.and_eq_true, beq_iff_eq,
    decide_eq_true_iff]
  constructor
  · rintro ⟨a, ⟨⟨call, hcall, rfl | ha⟩, -⟩, rfl, hflag⟩
    · rw [hprogram] at hflag
      cases hflag
    · exact ⟨call, hcall, a, ha, rfl, hflag⟩
  · rintro ⟨call, hcall, a, ha, rfl, hflag⟩
    exact ⟨a, ⟨⟨call, hcall, .inr ha⟩, hkey⟩, rfl, hflag⟩

/-- What is packed is unpacked and resolved to itself, and the added accounts are exactly those that
this takes, with exactly the privileges that are asked for. -/
theorem pack_faithful (h : pack calls fixed = .ok b) :
    (∃ packed, read b.bytes = .ok (packed, []) ∧ ∀ outer : List AccountRef,
      fixed ++ b.remaining.map AccountRef.key <+: outer.map AccountRef.key →
        List.Forall₂ (fun call c => c.resolve outer = .ok call) calls packed) ∧
    (b.remaining.map AccountRef.key).Nodup ∧
    (∀ r ∈ b.remaining, r.key ∉ fixed) ∧
    b.remaining.map AccountRef.key = ((calls.flatMap fun call =>
      call.program :: call.accounts.map AccountRef.key).filter (· ∉ fixed)).eraseDups ∧
    ∀ r ∈ b.remaining,
      (r.signer = true ↔
        ∃ call ∈ calls, ∃ a ∈ call.accounts, a.key = r.key ∧ a.signer = true) ∧
      (r.writable = true ↔
        ∃ call ∈ calls, ∃ a ∈ call.accounts, a.key = r.key ∧ a.writable = true) := by
  have hunites : Message.Unites ((Message.askedBy calls).filter (·.key ∉ fixed)) b.remaining := by
    have hempty : Message.Unites [] [] := ⟨List.nodup_nil, nofun, nofun⟩
    rw [remaining_of_pack h]
    exact Message.unites_foldl hempty _
  have hkeys : b.remaining.map AccountRef.key = ((calls.flatMap fun call =>
      call.program :: call.accounts.map AccountRef.key).filter (· ∉ fixed)).eraseDups := by
    have hasked : (Message.askedBy calls).map AccountRef.key = calls.flatMap fun call =>
        call.program :: call.accounts.map AccountRef.key := by
      simp [Message.askedBy, List.map_flatMap]
    rw [remaining_of_pack h, AccountTable.collect, Message.keys_foldl_unite, ← hasked,
      List.filter_map]
    rfl
  have hnew : ∀ r ∈ b.remaining, r.key ∉ fixed := by
    intro r hr
    have hmem : r.key ∈ b.remaining.map AccountRef.key := List.mem_map_of_mem hr
    rw [hkeys, List.mem_eraseDups, List.mem_filter] at hmem
    simpa using hmem.2
  refine ⟨resolve_of_pack h, hunites.nodup, hnew, hkeys, fun r hr => ?_⟩
  rw [hunites.united r hr]
  exact ⟨any_askedBy_iff (hnew r hr) fun _ => rfl, any_askedBy_iff (hnew r hr) fun _ => rfl⟩

end Batch

namespace Sample

/-- Two calls, each of which has the other's program among its accounts. -/
def mutualCalls : List Call := [
  ⟨.replicate 32 3, [⟨.replicate 32 4, false, true⟩, ⟨.replicate 32 1, true, true⟩], [5]⟩,
  ⟨.replicate 32 4, [⟨.replicate 32 3, true, false⟩, ⟨.replicate 32 4, true, false⟩], []⟩]

def packedMutualCalls : PackedBatch where
  bytes := [2, 2, 2, 3, 0, 1, 3, 1, 0, 5, 3, 2, 2, 3, 2, 2, 0, 0]
  remaining := [⟨.replicate 32 3, true, false⟩, ⟨.replicate 32 4, true, true⟩]

/-- The fixed key twice, the two programs without privileges, and one more account. -/
def mutualOuter : List AccountRef :=
  [⟨.replicate 32 1, false, false⟩, ⟨.replicate 32 1, true, false⟩, ⟨.replicate 32 3, false, false⟩,
    ⟨.replicate 32 4, false, false⟩, ⟨.replicate 32 9, true, true⟩]

theorem mutualCalls_resolved :
    Batch.pack mutualCalls [.replicate 32 1, .replicate 32 1] = .ok packedMutualCalls ∧
      ∃ packed, Batch.read packedMutualCalls.bytes = .ok (packed, []) ∧
        List.Forall₂ (fun call c => c.resolve mutualOuter = .ok call) mutualCalls packed := by
  have hpack : Batch.pack mutualCalls [.replicate 32 1, .replicate 32 1] =
      .ok packedMutualCalls := by decide +kernel
  obtain ⟨⟨packed, hread, hresolve⟩, -⟩ := Batch.pack_faithful hpack
  exact ⟨hpack, packed, hread, hresolve mutualOuter (by decide +kernel)⟩

end Sample

end SmartWallet

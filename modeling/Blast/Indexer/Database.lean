import Blast.Go.Call

/-!
# The indexer's data

The events the legacy bridge processors read, the rows they store, and the collaborators
they call: the database (with the `contracts` event readers this repository does not
contain) and the L1 client. `DbCall` logs those calls with the rows of every write, so what
a processor stored is read off its log. `LogMap` is a Go `map[logKey]*T`, where a key written
twice keeps its last value; `precedingEvent` is the lookup of the event one or two logs back.
-/

namespace Blast.Indexer

/-- `database.ContractEvent`, the fields the processors read. -/
structure ContractEvent where
  GUID : UUID
  BlockHash : Hash
  TransactionHash : Hash
  LogIndex : UInt64
  Timestamp : UInt64
  deriving DecidableEq, Repr

/-- `logKey`: a log's block and index. -/
structure LogKey where
  BlockHash : Hash
  LogIndex : UInt64
  deriving DecidableEq, Repr

/-- `logKey{ev.BlockHash, ev.LogIndex}`. -/
def ContractEvent.key (ev : ContractEvent) : LogKey := ⟨ev.BlockHash, ev.LogIndex⟩

/-- `logKey{ev.BlockHash, ev.LogIndex - k}`, with `uint64` subtraction. -/
def ContractEvent.predKey (ev : ContractEvent) (k : UInt64) : LogKey :=
  ⟨ev.BlockHash, ev.LogIndex - k⟩

/-- Event `a` is `k` logs before event `b` in the same block and transaction. -/
def Precedes (k : Nat) (a b : ContractEvent) : Prop :=
  a.BlockHash = b.BlockHash ∧ a.TransactionHash = b.TransactionHash ∧
    a.LogIndex.toNat + k = b.LogIndex.toNat

structure Transaction where
  FromAddress : Address
  ToAddress : Address
  Amount : Nat
  Data : List UInt8
  Timestamp : UInt64
  deriving DecidableEq, Repr

/-- `database.BridgeMessage`, the fields the processors read. -/
structure BridgeMessage where
  MessageHash : Hash
  Nonce : Nat
  GasLimit : Nat
  Tx : Transaction
  deriving DecidableEq, Repr

structure TokenPair where
  LocalTokenAddress : Address
  RemoteTokenAddress : Address
  deriving DecidableEq, Repr

structure BridgeTransfer where
  CrossDomainMessageHash : Option Hash
  Tx : Transaction
  TokenPair : TokenPair
  deriving DecidableEq, Repr

/-! ## Events of the `contracts` package -/

/-- `contracts.LegacyCTCDepositEvent`: a `TransactionEnqueued` event as a deposit. -/
structure LegacyCTCDepositEvent where
  Event : ContractEvent
  Tx : Transaction
  TxHash : Hash
  GasLimit : Nat
  deriving DecidableEq, Repr

structure CrossDomainMessengerSentMessageEvent where
  Event : ContractEvent
  BridgeMessage : BridgeMessage
  deriving DecidableEq, Repr

structure CrossDomainMessengerRelayedMessageEvent where
  Event : ContractEvent
  MessageHash : Hash
  deriving DecidableEq, Repr

/-- `contracts.StandardBridgeInitiatedEvent`: `DepositInitiated` or `WithdrawalInitiated`. -/
structure StandardBridgeInitiatedEvent where
  Event : ContractEvent
  BridgeTransfer : BridgeTransfer
  deriving DecidableEq, Repr

/-! ## Rows of the `database` package -/

/-- `database.L1TransactionDeposit`, as the legacy processor fills it. -/
structure L1TransactionDeposit where
  SourceHash : Hash
  L2TransactionHash : Hash
  InitiatedL1EventGUID : UUID
  GasLimit : Nat
  Tx : Transaction
  deriving DecidableEq, Repr

structure L1BridgeMessage where
  BridgeMessage : BridgeMessage
  TransactionSourceHash : Hash
  deriving DecidableEq, Repr

structure L1BridgeDeposit where
  BridgeTransfer : BridgeTransfer
  TransactionSourceHash : Hash
  deriving DecidableEq, Repr

/-- `database.L2TransactionWithdrawal`, as the legacy processor fills it. -/
structure L2TransactionWithdrawal where
  WithdrawalHash : Hash
  InitiatedL2EventGUID : UUID
  Nonce : Nat
  GasLimit : Nat
  Tx : Transaction
  deriving DecidableEq, Repr

structure L2BridgeMessage where
  BridgeMessage : BridgeMessage
  TransactionWithdrawalHash : Hash
  deriving DecidableEq, Repr

structure L2BridgeWithdrawal where
  BridgeTransfer : BridgeTransfer
  TransactionWithdrawalHash : Hash
  deriving DecidableEq, Repr

/-! ## Collaborators -/

/-- `config.L1Contracts`, the addresses the legacy processors read. -/
structure L1Contracts where
  LegacyCanonicalTransactionChain : Address
  L1CrossDomainMessengerProxy : Address
  L1StandardBridgeProxy : Address

/-- `config.L2Contracts`, the addresses the legacy processors read. -/
structure L2Contracts where
  L2CrossDomainMessenger : Address
  L2StandardBridge : Address

/-- `database.ContractEvent` as a query filter. -/
structure ContractEventFilter where
  ContractAddress : Address
  EventSignature : Hash
  deriving DecidableEq, Repr

/-- A stored L1 contract event with its raw log. -/
structure L1ContractEvent where
  ContractEvent : ContractEvent
  RLPLog : List UInt8
  deriving DecidableEq, Repr

/-- A call of a legacy processor to the database or the L1 client. -/
inductive DbCall where
  | L1ContractEventsWithFilter (filter : ContractEventFilter) (fromHeight toHeight : Nat)
  | CrossDomainMessengerSentMessageEvents (chain : String) (addr : Address)
      (fromHeight toHeight : Nat)
  | CrossDomainMessengerRelayedMessageEvents (chain : String) (addr : Address)
      (fromHeight toHeight : Nat)
  | L1StandardBridgeLegacyDepositInitiatedEvents (addr : Address) (fromHeight toHeight : Nat)
  | L2StandardBridgeLegacyWithdrawalInitiatedEvents (addr : Address) (fromHeight toHeight : Nat)
  | StoreL1TransactionDeposits (rows : List L1TransactionDeposit)
  | StoreL1BridgeMessages (rows : List L1BridgeMessage)
  | StoreL1BridgeDeposits (rows : List L1BridgeDeposit)
  | StoreL2TransactionWithdrawals (rows : List L2TransactionWithdrawal)
  | StoreL2BridgeMessages (rows : List L2BridgeMessage)
  | StoreL2BridgeWithdrawals (rows : List L2BridgeWithdrawal)
  | L1BridgeMessage (messageHash : Hash)
  | L2BridgeMessage (messageHash : Hash)
  | MarkRelayedL1BridgeMessage (messageHash : Hash) (guid : UUID)
  | MarkRelayedL2BridgeMessage (messageHash : Hash) (guid : UUID)
  | MarkL2TransactionWithdrawalProvenEvent (withdrawalHash : Hash) (guid : UUID)
  | MarkL2TransactionWithdrawalFinalizedEvent (withdrawalHash : Hash) (guid : UUID)
      (succeeded : Bool)
  | TxByHash (txHash : Hash)
  deriving DecidableEq, Repr

/-- The database calls of the legacy processors, answering from the world `W`. -/
structure Database (W : Type) where
  L1ContractEventsWithFilter : ContractEventFilter → Nat → Nat → W →
    Except String (List L1ContractEvent) × W
  CrossDomainMessengerSentMessageEvents : String → Address → Nat → Nat → W →
    Except String (List CrossDomainMessengerSentMessageEvent) × W
  CrossDomainMessengerRelayedMessageEvents : String → Address → Nat → Nat → W →
    Except String (List CrossDomainMessengerRelayedMessageEvent) × W
  L1StandardBridgeLegacyDepositInitiatedEvents : Address → Nat → Nat → W →
    Except String (List StandardBridgeInitiatedEvent) × W
  L2StandardBridgeLegacyWithdrawalInitiatedEvents : Address → Nat → Nat → W →
    Except String (List StandardBridgeInitiatedEvent) × W
  StoreL1TransactionDeposits : List L1TransactionDeposit → W → Except String Unit × W
  StoreL1BridgeMessages : List L1BridgeMessage → W → Except String Unit × W
  StoreL1BridgeDeposits : List L1BridgeDeposit → W → Except String Unit × W
  StoreL2TransactionWithdrawals : List L2TransactionWithdrawal → W → Except String Unit × W
  StoreL2BridgeMessages : List L2BridgeMessage → W → Except String Unit × W
  StoreL2BridgeWithdrawals : List L2BridgeWithdrawal → W → Except String Unit × W
  L1BridgeMessage : Hash → W → Except String (Option L1BridgeMessage) × W
  L2BridgeMessage : Hash → W → Except String (Option L2BridgeMessage) × W
  MarkRelayedL1BridgeMessage : Hash → UUID → W → Except String Unit × W
  MarkRelayedL2BridgeMessage : Hash → UUID → W → Except String Unit × W
  MarkL2TransactionWithdrawalProvenEvent : Hash → UUID → W → Except String Unit × W
  MarkL2TransactionWithdrawalFinalizedEvent : Hash → UUID → Bool → W → Except String Unit × W

/-- A database answering every query with the given events, no indexed message. -/
def Database.static (l1Events : List L1ContractEvent)
    (sentMessages : List CrossDomainMessengerSentMessageEvent)
    (relayedMessages : List CrossDomainMessengerRelayedMessageEvent)
    (initiatedBridges : List StandardBridgeInitiatedEvent) : Database Unit where
  L1ContractEventsWithFilter _ _ _ w := (.ok l1Events, w)
  CrossDomainMessengerSentMessageEvents _ _ _ _ w := (.ok sentMessages, w)
  CrossDomainMessengerRelayedMessageEvents _ _ _ _ w := (.ok relayedMessages, w)
  L1StandardBridgeLegacyDepositInitiatedEvents _ _ _ w := (.ok initiatedBridges, w)
  L2StandardBridgeLegacyWithdrawalInitiatedEvents _ _ _ w := (.ok initiatedBridges, w)
  StoreL1TransactionDeposits _ w := (.ok (), w)
  StoreL1BridgeMessages _ w := (.ok (), w)
  StoreL1BridgeDeposits _ w := (.ok (), w)
  StoreL2TransactionWithdrawals _ w := (.ok (), w)
  StoreL2BridgeMessages _ w := (.ok (), w)
  StoreL2BridgeWithdrawals _ w := (.ok (), w)
  L1BridgeMessage _ w := (.ok none, w)
  L2BridgeMessage _ w := (.ok none, w)
  MarkRelayedL1BridgeMessage _ _ w := (.ok (), w)
  MarkRelayedL2BridgeMessage _ _ w := (.ok (), w)
  MarkL2TransactionWithdrawalProvenEvent _ _ w := (.ok (), w)
  MarkL2TransactionWithdrawalFinalizedEvent _ _ _ w := (.ok (), w)

/-- A transaction as `node.EthClient.TxByHash` returns it: its calldata. -/
structure Tx where
  Data : List UInt8
  deriving DecidableEq, Repr

/-- `node.EthClient`, as far as the legacy processors call it. -/
structure EthClient (W : Type) where
  TxByHash : Hash → W → Except String (Option Tx) × W

/-- `legacy_bindings.CanonicalTransactionChainTransactionEnqueued`, the fields read. -/
structure TransactionEnqueued where
  L1TxOrigin : Address
  Target : Address
  GasLimit : Nat
  Data : List UInt8
  deriving DecidableEq, Repr

/-- The arguments of `types.NewTransaction(nonce, to, amount, gasLimit, nil, data)`. -/
structure LegacyTx where
  Nonce : UInt64
  To : Address
  Amount : Nat
  GasLimit : UInt64
  Data : List UInt8
  deriving DecidableEq, Repr

/-- The `_messageNonce` of a legacy `relayMessage` call, as `Inputs.Unpack` returns it. -/
structure RelayMessageInputs where
  MessageNonce : Nat
  deriving DecidableEq, Repr

/-- What the processors take from go-ethereum and the bindings, outside this repository:
the `TransactionEnqueued` ID and decoding, transaction hashing, and `relayMessage` decoding. -/
structure Codec where
  TransactionEnqueuedID : Hash
  UnpackTransactionEnqueued : List UInt8 → Except String TransactionEnqueued
  TxHash : LegacyTx → Hash
  UnpackRelayMessage : List UInt8 → Except String RelayMessageInputs

/-! ## What the log stored -/

/-- The rows written by the calls of a log, one table each. -/
def storedL1TransactionDeposits : List DbCall → List L1TransactionDeposit :=
  fun calls => calls.flatMap fun | .StoreL1TransactionDeposits rows => rows | _ => []

def storedL1BridgeMessages : List DbCall → List L1BridgeMessage :=
  fun calls => calls.flatMap fun | .StoreL1BridgeMessages rows => rows | _ => []

def storedL1BridgeDeposits : List DbCall → List L1BridgeDeposit :=
  fun calls => calls.flatMap fun | .StoreL1BridgeDeposits rows => rows | _ => []

def storedL2TransactionWithdrawals : List DbCall → List L2TransactionWithdrawal :=
  fun calls => calls.flatMap fun | .StoreL2TransactionWithdrawals rows => rows | _ => []

def storedL2BridgeMessages : List DbCall → List L2BridgeMessage :=
  fun calls => calls.flatMap fun | .StoreL2BridgeMessages rows => rows | _ => []

def storedL2BridgeWithdrawals : List DbCall → List L2BridgeWithdrawal :=
  fun calls => calls.flatMap fun | .StoreL2BridgeWithdrawals rows => rows | _ => []

/-! ## Writes -/

variable {α : Type}

/-- The log of `storeRows`: the write, when there is a row to write. -/
def storeLog (c : List α → DbCall) (rows : List α) : List DbCall :=
  if 0 < rows.length then [c rows] else []

@[simp] theorem flatMap_storeLog {β : Type} {f : DbCall → List β} {c : List α → DbCall}
    (h : f (c []) = []) (rows : List α) : (storeLog c rows).flatMap f = f (c rows) := by
  unfold storeLog
  split
  · simp
  · rename_i hl
    rw [List.length_eq_zero.1 (Nat.eq_zero_of_not_pos hl)]
    simp [h]

/-- `if len(rows) > 0 { if err := store(rows); err != nil { return err } }`. -/
def storeRows {W : Type} (c : List α → DbCall) (store : List α → W → Except String Unit × W)
    (rows : List α) : GoM W DbCall Unit :=
  if 0 < rows.length then GoM.call (c rows) (store rows) else pure ()

theorem storeRows_returns {W : Type} {c : List α → DbCall}
    {store : List α → W → Except String Unit × W} (h : ∀ rows w, (store rows w).1 = .ok ())
    (rows : List α) : GoM.Returns (storeRows c store rows) () (storeLog c rows) :=
  .ite (.call (h rows) _) (.pure ())

/-! ## `map[logKey]*T` -/

/-- A Go map keyed by `logKey`, as the function it denotes. -/
def LogMap (α : Type) : Type := LogKey → Option α

namespace LogMap

def empty : LogMap α := fun _ => none

/-- `m[k] = a`. -/
def insert (m : LogMap α) (k : LogKey) (a : α) : LogMap α :=
  fun k' => if k' = k then some a else m k'

/-- The map `m` filled from `l` in order, each element under its key. -/
def ofList (key : α → LogKey) (l : List α) (m : LogMap α) : LogMap α :=
  l.foldl (fun m a => m.insert (key a) a) m

theorem ofList_cons (key : α → LogKey) (a : α) (l : List α) (m : LogMap α) :
    ofList key (a :: l) m = ofList key l (m.insert (key a) a) := rfl

theorem ofList_eq_some {key : α → LogKey} {l : List α} (hl : (l.map key).Nodup)
    (m : LogMap α) (k : LogKey) (a : α) :
    ofList key l m k = some a ↔ (a ∈ l ∧ key a = k) ∨ (k ∉ l.map key ∧ m k = some a) := by
  induction l generalizing m with
  | nil => simp [ofList]
  | cons b l ih =>
    rw [List.map_cons, List.nodup_cons] at hl
    rw [ofList_cons, ih hl.2]
    by_cases hk : k = key b
    · subst hk
      simp only [insert, if_true, Option.some.injEq, List.mem_cons, List.map_cons,
        true_or, not_true_eq_false, false_and, or_false]
      constructor
      · rintro (⟨ha, hka⟩ | ⟨hn, rfl⟩)
        · exact absurd (List.mem_map_of_mem key ha) (hka ▸ hl.1)
        · exact ⟨.inl rfl, rfl⟩
      · rintro ⟨ha | ha, hka⟩
        · exact .inr ⟨hl.1, ha.symm⟩
        · exact absurd (List.mem_map_of_mem key ha) (hka ▸ hl.1)
    · simp only [insert, hk, if_false, List.mem_cons, List.map_cons]
      constructor
      · rintro (⟨ha, rfl⟩ | ⟨hn, hm⟩)
        · exact .inl ⟨.inr ha, rfl⟩
        · exact .inr ⟨by simp [hn, Ne.symm hk], hm⟩
      · rintro (⟨rfl | ha, rfl⟩ | ⟨hn, hm⟩)
        · exact absurd rfl hk
        · exact .inl ⟨ha, rfl⟩
        · exact .inr ⟨fun h => hn (.inr h), hm⟩

theorem ofList_empty_eq_some {key : α → LogKey} {l : List α} (hl : (l.map key).Nodup)
    (k : LogKey) (a : α) : ofList key l empty k = some a ↔ a ∈ l ∧ key a = k := by
  rw [ofList_eq_some hl]
  simp [empty]

end LogMap

theorem predKey_eq_iff {a b : ContractEvent} {k : UInt64}
    (ha : a.LogIndex.toNat + k.toNat < 2 ^ 64) :
    a.key = b.predKey k ↔
      a.BlockHash = b.BlockHash ∧ a.LogIndex.toNat + k.toNat = b.LogIndex.toNat := by
  have hk := UInt64.toNat_lt k
  have hb := UInt64.toNat_lt b.LogIndex
  have hlt := UInt64.toNat_lt (b.LogIndex - k)
  have hval : (b.LogIndex - k).toNat + k.toNat = b.LogIndex.toNat ∨
      (b.LogIndex - k).toNat + k.toNat = 2 ^ 64 + b.LogIndex.toNat := by
    rw [UInt64.toNat_sub, show UInt64.size = 2 ^ 64 from rfl]
    by_cases hle : k.toNat ≤ b.LogIndex.toNat
    · rw [Nat.mod_eq_sub_mod (by omega), Nat.mod_eq_of_lt (by omega)]; omega
    · rw [Nat.mod_eq_of_lt (by omega)]; omega
  simp only [ContractEvent.key, ContractEvent.predKey, LogKey.mk.injEq]
  refine and_congr_right fun _ => ⟨fun h => ?_, fun h => UInt64.ext ?_⟩
  · rw [h] at ha ⊢; omega
  · omega

/-! ## Correlating events -/

/-- The processors' correlation check: the event `k` logs before `ev` in `events` must exist
(else `missing`) and be of `ev`'s transaction (else `mismatch`). -/
def precedingEvent (events : LogMap α) (event : α → ContractEvent) (ev : ContractEvent)
    (k : UInt64) (missing : String) (mismatch : Hash → String) : Except String α :=
  match events (ev.predKey k) with
  | none => .error missing
  | some a =>
    if (event a).TransactionHash ≠ ev.TransactionHash then .error (mismatch (event a).TransactionHash)
    else .ok a

theorem precedingEvent_eq_ok_iff {events : LogMap α} {event : α → ContractEvent}
    {ev : ContractEvent} {k : UInt64} {missing : String} {mismatch : Hash → String} {a : α} :
    precedingEvent events event ev k missing mismatch = .ok a ↔
      events (ev.predKey k) = some a ∧ (event a).TransactionHash = ev.TransactionHash := by
  unfold precedingEvent
  split
  · rename_i h
    simp [h]
  · rename_i a' h
    by_cases ht : (event a').TransactionHash = ev.TransactionHash
    · simp only [h, ht, ne_eq, not_true_eq_false, if_false, Except.ok.injEq, Option.some.injEq]
      exact ⟨fun h => ⟨h, h ▸ ht⟩, And.left⟩
    · simp only [h, ht, ne_eq, not_false_eq_true, if_true, reduceCtorEq, false_iff,
        Option.some.injEq]
      exact fun ⟨h, ht'⟩ => ht (h ▸ ht')

theorem ofList_predKey_eq_some {l : List α} {event : α → ContractEvent}
    (hl : (l.map fun a => (event a).key).Nodup) {k : UInt64}
    (hlt : ∀ a ∈ l, (event a).LogIndex.toNat + k.toNat < 2 ^ 64) {ev : ContractEvent} {a : α} :
    LogMap.ofList (fun a => (event a).key) l .empty (ev.predKey k) = some a ↔
      a ∈ l ∧ (event a).BlockHash = ev.BlockHash ∧
        (event a).LogIndex.toNat + k.toNat = ev.LogIndex.toNat := by
  rw [LogMap.ofList_empty_eq_some hl]
  exact and_congr_right fun h => predKey_eq_iff (hlt _ h)

section Lookup

variable {l : List α} {event : α → ContractEvent} (hl : (l.map fun a => (event a).key).Nodup)
  {k : UInt64} (hlt : ∀ a ∈ l, (event a).LogIndex.toNat + k.toNat < 2 ^ 64)
  {ev : ContractEvent} {missing : String} {mismatch : Hash → String}
include hl hlt

theorem precedingEvent_eq_ok {a : α} :
    precedingEvent (LogMap.ofList (fun a => (event a).key) l .empty) event ev k missing
      mismatch = .ok a ↔ a ∈ l ∧ Precedes k.toNat (event a) ev := by
  rw [precedingEvent_eq_ok_iff, ofList_predKey_eq_some hl hlt]
  exact ⟨fun ⟨⟨hmem, hb, hi⟩, ht⟩ => ⟨hmem, hb, ht, hi⟩,
    fun ⟨hmem, hb, ht, hi⟩ => ⟨⟨hmem, hb, hi⟩, ht⟩⟩

end Lookup

end Blast.Indexer

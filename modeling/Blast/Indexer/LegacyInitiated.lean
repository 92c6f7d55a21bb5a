import Blast.Indexer.Contracts

/-!
# Legacy bridge initiation

`LegacyL1ProcessInitiatedBridgeEvents` and `LegacyL2ProcessInitiatedBridgeEvents`
(`legacy_bridge_processor.go`) turn the pre-bedrock bridge events of a block range into rows.
On L1 a deposit emits, in one transaction and in this order, `TransactionEnqueued`,
`SentMessage` and `DepositInitiated`; on L2 a withdrawal emits `SentMessage` and then
`WithdrawalInitiated`. Each processor stores every event list, and correlates every later
event with the events one or two logs before it, stopping at the first that has none after
the writes before it: the processors are not atomic on their own.
-/

namespace Blast.Indexer

open Blast.GoM

variable {W : Type}

/-! ## L1: CanonicalTransactionChain, L1CrossDomainMessenger, L1StandardBridge -/

/-- The transaction deposit stored for a CTC deposit, its L2 hash as its source hash. -/
def L1TransactionDeposit.ofCTC (deposit : LegacyCTCDepositEvent) : L1TransactionDeposit :=
  ⟨deposit.TxHash, deposit.TxHash, deposit.Event.GUID, deposit.GasLimit, deposit.Tx⟩

/-- The body of the `SentMessage` loop. -/
def l1BridgeMessageOf (ctcTxDeposits : LogMap LegacyCTCDepositEvent)
    (sentMessage : CrossDomainMessengerSentMessageEvent) : Except String L1BridgeMessage := do
  let ctcTxDeposit ← precedingEvent ctcTxDeposits (·.Event) sentMessage.Event 1
    ("expected TransactionEnqueued preceding SentMessage event. tx_hash = " ++
      sentMessage.Event.TransactionHash.Hex)
    fun h => "correlated events tx hash mismatch. deposit_tx_hash = " ++ h.Hex ++
      ", message_tx_hash = " ++ sentMessage.Event.TransactionHash.Hex
  pure ⟨sentMessage.BridgeMessage, ctcTxDeposit.TxHash⟩

/-- The body of the `DepositInitiated` loop. -/
def l1BridgeDepositOf (ctcTxDeposits : LogMap LegacyCTCDepositEvent)
    (sentMessages : LogMap CrossDomainMessengerSentMessageEvent)
    (initiatedBridge : StandardBridgeInitiatedEvent) : Except String L1BridgeDeposit := do
  let sentMessage ← precedingEvent sentMessages (·.Event) initiatedBridge.Event 1
    ("expected SentMessage preceding DepositInitiated event. tx_hash = " ++
      initiatedBridge.Event.TransactionHash.Hex)
    fun h => "correlated events tx hash mismatch. bridge_tx_hash = " ++
      initiatedBridge.Event.TransactionHash.Hex ++ ", message_tx_hash = " ++ h.Hex
  let ctcTxDeposit ← precedingEvent ctcTxDeposits (·.Event) initiatedBridge.Event 2
    ("expected TransactionEnqueued preceding BridgeInitiated event. tx_hash = " ++
      initiatedBridge.Event.TransactionHash.Hex)
    fun h => "correlated events tx hash mismatch. bridge_tx_hash = " ++
      initiatedBridge.Event.TransactionHash.Hex ++ ", deposit_tx_hash = " ++ h.Hex
  pure ⟨{ initiatedBridge.BridgeTransfer with
    CrossDomainMessageHash := some sentMessage.BridgeMessage.MessageHash }, ctcTxDeposit.TxHash⟩

/-- `LegacyL1ProcessInitiatedBridgeEvents`, without its logging and metrics; each map is read
only after its loop, so it is built from the whole list. -/
def LegacyL1ProcessInitiatedBridgeEvents (codec : Codec) (db : Database W)
    (l1Contracts : L1Contracts) (fromHeight toHeight : Nat) : GoM W DbCall Unit := do
  -- (1) CanonicalTransactionChain
  let ctcTxDepositEvents ← LegacyCTCDepositEvents codec db
    l1Contracts.LegacyCanonicalTransactionChain fromHeight toHeight
  let ctcTxDeposits := LogMap.ofList (·.Event.key) ctcTxDepositEvents .empty
  storeRows .StoreL1TransactionDeposits db.StoreL1TransactionDeposits
    (ctcTxDepositEvents.map L1TransactionDeposit.ofCTC)
  -- (2) L1CrossDomainMessenger
  let crossDomainSentMessages ← call
    (.CrossDomainMessengerSentMessageEvents "l1" l1Contracts.L1CrossDomainMessengerProxy
      fromHeight toHeight)
    (db.CrossDomainMessengerSentMessageEvents "l1" l1Contracts.L1CrossDomainMessengerProxy
      fromHeight toHeight)
  let sentMessages := LogMap.ofList (·.Event.key) crossDomainSentMessages .empty
  let bridgeMessages ← lift (crossDomainSentMessages.mapM (l1BridgeMessageOf ctcTxDeposits))
  storeRows .StoreL1BridgeMessages db.StoreL1BridgeMessages bridgeMessages
  -- (3) L1StandardBridge
  let initiatedBridges ← call
    (.L1StandardBridgeLegacyDepositInitiatedEvents l1Contracts.L1StandardBridgeProxy
      fromHeight toHeight)
    (db.L1StandardBridgeLegacyDepositInitiatedEvents l1Contracts.L1StandardBridgeProxy
      fromHeight toHeight)
  let bridgeDeposits ← lift
    (initiatedBridges.mapM (l1BridgeDepositOf ctcTxDeposits sentMessages))
  storeRows .StoreL1BridgeDeposits db.StoreL1BridgeDeposits bridgeDeposits

/-! ### What a run returns and stores -/

/-- Each SentMessage and DepositInitiated follows the events of its transaction it needs. -/
def L1Correlated (deps : List LegacyCTCDepositEvent)
    (sents : List CrossDomainMessengerSentMessageEvent)
    (inits : List StandardBridgeInitiatedEvent) : Prop :=
  (∀ s ∈ sents, ∃ d ∈ deps, Precedes 1 d.Event s.Event) ∧
  ∀ i ∈ inits, (∃ s ∈ sents, Precedes 1 s.Event i.Event) ∧
    ∃ d ∈ deps, Precedes 2 d.Event i.Event

/-- `m` is the bridge message stored for `sentMessage`. -/
def L1MessageRow (deps : List LegacyCTCDepositEvent)
    (sentMessage : CrossDomainMessengerSentMessageEvent) (m : L1BridgeMessage) : Prop :=
  ∃ d ∈ deps, Precedes 1 d.Event sentMessage.Event ∧
    m = ⟨sentMessage.BridgeMessage, (L1TransactionDeposit.ofCTC d).SourceHash⟩

/-- `b` is the bridge deposit stored for `initiatedBridge`. -/
def L1DepositRow (deps : List LegacyCTCDepositEvent)
    (sents : List CrossDomainMessengerSentMessageEvent)
    (initiatedBridge : StandardBridgeInitiatedEvent) (b : L1BridgeDeposit) : Prop :=
  ∃ s ∈ sents, Precedes 1 s.Event initiatedBridge.Event ∧
    ∃ d ∈ deps, Precedes 2 d.Event initiatedBridge.Event ∧
    b = ⟨{ initiatedBridge.BridgeTransfer with
      CrossDomainMessageHash := some s.BridgeMessage.MessageHash },
      (L1TransactionDeposit.ofCTC d).SourceHash⟩

theorem exists_l1MessageRow {deps : List LegacyCTCDepositEvent}
    {s : CrossDomainMessengerSentMessageEvent} :
    (∃ m, L1MessageRow deps s m) ↔ ∃ d ∈ deps, Precedes 1 d.Event s.Event :=
  ⟨fun ⟨_, d, hd, hp, _⟩ => ⟨d, hd, hp⟩, fun ⟨d, hd, hp⟩ => ⟨_, d, hd, hp, rfl⟩⟩

theorem exists_l1DepositRow {deps : List LegacyCTCDepositEvent}
    {sents : List CrossDomainMessengerSentMessageEvent} {i : StandardBridgeInitiatedEvent} :
    (∃ b, L1DepositRow deps sents i b) ↔
      (∃ s ∈ sents, Precedes 1 s.Event i.Event) ∧ ∃ d ∈ deps, Precedes 2 d.Event i.Event :=
  ⟨fun ⟨_, s, hs, hp, d, hd, hq, _⟩ => ⟨⟨s, hs, hp⟩, d, hd, hq⟩,
    fun ⟨⟨s, hs, hp⟩, d, hd, hq⟩ => ⟨_, s, hs, hp, d, hd, hq, rfl⟩⟩

/-- The database of an L1 run answers its three queries, whatever its state, and every write. -/
structure L1Answers (codec : Codec) (db : Database W) (l1Contracts : L1Contracts)
    (fromHeight toHeight : Nat) (deps : List LegacyCTCDepositEvent)
    (sents : List CrossDomainMessengerSentMessageEvent)
    (inits : List StandardBridgeInitiatedEvent) : Prop where
  ctc : ∃ evs, (∀ w, (db.L1ContractEventsWithFilter
      ⟨l1Contracts.LegacyCanonicalTransactionChain, codec.TransactionEnqueuedID⟩
      fromHeight toHeight w).1 = .ok evs) ∧ evs.mapM (ctcDepositEvent codec) = .ok deps
  sentMessages : ∀ w, (db.CrossDomainMessengerSentMessageEvents "l1"
    l1Contracts.L1CrossDomainMessengerProxy fromHeight toHeight w).1 = .ok sents
  initiatedBridges : ∀ w, (db.L1StandardBridgeLegacyDepositInitiatedEvents
    l1Contracts.L1StandardBridgeProxy fromHeight toHeight w).1 = .ok inits
  storeTransactionDeposits : ∀ rows w, (db.StoreL1TransactionDeposits rows w).1 = .ok ()
  storeBridgeMessages : ∀ rows w, (db.StoreL1BridgeMessages rows w).1 = .ok ()
  storeBridgeDeposits : ∀ rows w, (db.StoreL1BridgeDeposits rows w).1 = .ok ()

/-- The events looked up have distinct log keys and indexes below the wrap-around. -/
structure L1Keys (deps : List LegacyCTCDepositEvent)
    (sents : List CrossDomainMessengerSentMessageEvent) : Prop where
  deposits_nodup : (deps.map (·.Event.key)).Nodup
  sentMessages_nodup : (sents.map (·.Event.key)).Nodup
  deposits_lt : ∀ d ∈ deps, d.Event.LogIndex.toNat < 2 ^ 64 - 2
  sentMessages_lt : ∀ s ∈ sents, s.Event.LogIndex.toNat < 2 ^ 64 - 1

section L1

variable {codec : Codec} {db : Database W} {l1Contracts : L1Contracts}
  {fromHeight toHeight : Nat} {deps : List LegacyCTCDepositEvent}
  {sents : List CrossDomainMessengerSentMessageEvent}
  {inits : List StandardBridgeInitiatedEvent}

theorem L1Keys.deposits_add_lt (hk : L1Keys deps sents) (k : UInt64) (hk₂ : k.toNat ≤ 2) :
    ∀ d ∈ deps, d.Event.LogIndex.toNat + k.toNat < 2 ^ 64 :=
  fun d hd => by have := hk.deposits_lt d hd; omega

theorem L1Keys.sentMessages_add_lt (hk : L1Keys deps sents) :
    ∀ s ∈ sents, s.Event.LogIndex.toNat + (1 : UInt64).toNat < 2 ^ 64 :=
  fun s hs => by have := hk.sentMessages_lt s hs; simp; omega

theorem l1BridgeMessageOf_eq_ok (hk : L1Keys deps sents)
    {s : CrossDomainMessengerSentMessageEvent} {m : L1BridgeMessage} :
    l1BridgeMessageOf (LogMap.ofList (·.Event.key) deps .empty) s = .ok m ↔
      L1MessageRow deps s m := by
  simp only [l1BridgeMessageOf, except_bind_eq_ok,
    precedingEvent_eq_ok hk.deposits_nodup (hk.deposits_add_lt 1 (by decide)),
    except_pure_eq_ok, L1MessageRow, L1TransactionDeposit.ofCTC]
  simp only [UInt64.toNat_ofNat, Nat.one_mod, eq_comm, and_assoc]

theorem l1BridgeDepositOf_eq_ok (hk : L1Keys deps sents)
    {i : StandardBridgeInitiatedEvent} {b : L1BridgeDeposit} :
    l1BridgeDepositOf (LogMap.ofList (·.Event.key) deps .empty)
      (LogMap.ofList (·.Event.key) sents .empty) i = .ok b ↔ L1DepositRow deps sents i b := by
  simp only [l1BridgeDepositOf, except_bind_eq_ok,
    precedingEvent_eq_ok hk.deposits_nodup (hk.deposits_add_lt 2 (by decide)),
    precedingEvent_eq_ok hk.sentMessages_nodup hk.sentMessages_add_lt, except_pure_eq_ok, L1DepositRow,
    L1TransactionDeposit.ofCTC, show (2 : UInt64).toNat = 2 from rfl]
  simp only [UInt64.toNat_ofNat, Nat.one_mod, eq_comm, and_assoc]

theorem exists_l1BridgeMessageOf_eq_ok (hk : L1Keys deps sents)
    {s : CrossDomainMessengerSentMessageEvent} :
    (∃ m, l1BridgeMessageOf (LogMap.ofList (·.Event.key) deps .empty) s = .ok m) ↔
      ∃ d ∈ deps, Precedes 1 d.Event s.Event := by
  simp only [l1BridgeMessageOf_eq_ok hk, exists_l1MessageRow]

theorem exists_l1BridgeDepositOf_eq_ok (hk : L1Keys deps sents)
    {i : StandardBridgeInitiatedEvent} :
    (∃ b, l1BridgeDepositOf (LogMap.ofList (·.Event.key) deps .empty)
        (LogMap.ofList (·.Event.key) sents .empty) i = .ok b) ↔
      (∃ s ∈ sents, Precedes 1 s.Event i.Event) ∧ ∃ d ∈ deps, Precedes 2 d.Event i.Event := by
  simp only [l1BridgeDepositOf_eq_ok hk, exists_l1DepositRow]

theorem legacyL1_returns
    (ha : L1Answers codec db l1Contracts fromHeight toHeight deps sents inits)
    {bms : List L1BridgeMessage} {bds : List L1BridgeDeposit}
    (hbm : sents.mapM (l1BridgeMessageOf (LogMap.ofList (·.Event.key) deps .empty)) = .ok bms)
    (hbd : inits.mapM (l1BridgeDepositOf (LogMap.ofList (·.Event.key) deps .empty)
      (LogMap.ofList (·.Event.key) sents .empty)) = .ok bds) :
    ∃ new, Returns (LegacyL1ProcessInitiatedBridgeEvents codec db l1Contracts fromHeight
        toHeight) () new ∧
      storedL1TransactionDeposits new = deps.map L1TransactionDeposit.ofCTC ∧
      storedL1BridgeMessages new = bms ∧ storedL1BridgeDeposits new = bds := by
  obtain ⟨evs, hevs, hdec⟩ := ha.ctc
  refine ⟨_, (readL1ContractEvents_returns hevs hdec).bind <|
    (storeRows_returns ha.storeTransactionDeposits _).bind <|
    (Returns.call ha.sentMessages _).bind <| (Returns.lift hbm).bind <|
    (storeRows_returns ha.storeBridgeMessages _).bind <|
    (Returns.call ha.initiatedBridges _).bind <| (Returns.lift hbd).bind <|
    storeRows_returns ha.storeBridgeDeposits _, ?_, ?_, ?_⟩ <;>
  simp only [storedL1TransactionDeposits, storedL1BridgeMessages, storedL1BridgeDeposits,
    List.nil_append, List.singleton_append, List.flatMap_cons, List.flatMap_append,
    List.flatMap_nil, flatMap_storeLog, List.append_nil]

theorem legacyL1_loops_ok
    (ha : L1Answers codec db l1Contracts fromHeight toHeight deps sents inits)
    {e e' : Env W DbCall}
    (h : LegacyL1ProcessInitiatedBridgeEvents codec db l1Contracts fromHeight toHeight e =
      (.ok (), e')) :
    ∃ bms bds,
      sents.mapM (l1BridgeMessageOf (LogMap.ofList (·.Event.key) deps .empty)) = .ok bms ∧
      inits.mapM (l1BridgeDepositOf (LogMap.ofList (·.Event.key) deps .empty)
        (LogMap.ofList (·.Event.key) sents .empty)) = .ok bds := by
  obtain ⟨evs, hevs, hdec⟩ := ha.ctc
  obtain ⟨_, _, h₁, h⟩ := bind_eq_ok h
  obtain ⟨rfl, -⟩ := (readL1ContractEvents_returns hevs hdec).eq_ok h₁
  obtain ⟨_, _, -, h⟩ := bind_eq_ok h
  obtain ⟨_, _, h₃, h⟩ := bind_eq_ok h
  obtain ⟨rfl, -⟩ := (Returns.call ha.sentMessages _).eq_ok h₃
  obtain ⟨bms, _, h₄, h⟩ := bind_eq_ok h
  obtain ⟨_, _, -, h⟩ := bind_eq_ok h
  obtain ⟨_, _, h₆, h⟩ := bind_eq_ok h
  obtain ⟨rfl, -⟩ := (Returns.call ha.initiatedBridges _).eq_ok h₆
  obtain ⟨bds, _, h₇, -⟩ := bind_eq_ok h
  exact ⟨bms, bds, (lift_eq_ok h₄).1, (lift_eq_ok h₇).1⟩

theorem legacyL1_sentMessages_fails
    (ha : L1Answers codec db l1Contracts fromHeight toHeight deps sents inits) {m : String}
    (hbm : sents.mapM (l1BridgeMessageOf (LogMap.ofList (·.Event.key) deps .empty)) =
      .error m) :
    ∃ new, Fails (LegacyL1ProcessInitiatedBridgeEvents codec db l1Contracts fromHeight
        toHeight) m new ∧
      storedL1TransactionDeposits new = deps.map L1TransactionDeposit.ofCTC ∧
      storedL1BridgeMessages new = [] ∧ storedL1BridgeDeposits new = [] := by
  obtain ⟨evs, hevs, hdec⟩ := ha.ctc
  refine ⟨_, (readL1ContractEvents_returns hevs hdec).bind_fails <|
    (storeRows_returns ha.storeTransactionDeposits _).bind_fails <|
    (Returns.call ha.sentMessages _).bind_fails <| (Fails.lift hbm).bind _, ?_, ?_, ?_⟩ <;>
  simp only [storedL1TransactionDeposits, storedL1BridgeMessages, storedL1BridgeDeposits,
    List.nil_append, List.singleton_append, List.flatMap_cons, List.flatMap_append,
    List.flatMap_nil, flatMap_storeLog, List.append_nil]

theorem legacyL1_initiatedBridges_fails
    (ha : L1Answers codec db l1Contracts fromHeight toHeight deps sents inits)
    {bms : List L1BridgeMessage}
    (hbm : sents.mapM (l1BridgeMessageOf (LogMap.ofList (·.Event.key) deps .empty)) = .ok bms)
    {m : String} (hbd : inits.mapM (l1BridgeDepositOf (LogMap.ofList (·.Event.key) deps .empty)
      (LogMap.ofList (·.Event.key) sents .empty)) = .error m) :
    ∃ new, Fails (LegacyL1ProcessInitiatedBridgeEvents codec db l1Contracts fromHeight
        toHeight) m new ∧
      storedL1TransactionDeposits new = deps.map L1TransactionDeposit.ofCTC ∧
      storedL1BridgeMessages new = bms ∧ storedL1BridgeDeposits new = [] := by
  obtain ⟨evs, hevs, hdec⟩ := ha.ctc
  refine ⟨_, (readL1ContractEvents_returns hevs hdec).bind_fails <|
    (storeRows_returns ha.storeTransactionDeposits _).bind_fails <|
    (Returns.call ha.sentMessages _).bind_fails <| (Returns.lift hbm).bind_fails <|
    (storeRows_returns ha.storeBridgeMessages _).bind_fails <|
    (Returns.call ha.initiatedBridges _).bind_fails <| (Fails.lift hbd).bind _, ?_, ?_, ?_⟩ <;>
  simp only [storedL1TransactionDeposits, storedL1BridgeMessages, storedL1BridgeDeposits,
    List.nil_append, List.singleton_append, List.flatMap_cons, List.flatMap_append,
    List.flatMap_nil, flatMap_storeLog, List.append_nil]

/-- A log of the transaction `0x01…01`, in the zero block, at index `i`. -/
def exampleEvent (i : UInt64) : ContractEvent :=
  ⟨FixedBytes.fill 16 0, FixedBytes.fill 32 0, FixedBytes.fill 32 1, i, 0⟩

/-- The message of `exampleSentMessage`. -/
def exampleMessage : BridgeMessage :=
  ⟨FixedBytes.fill 32 2, 0, 0, ⟨FixedBytes.fill 20 0, FixedBytes.fill 20 0, 0, [], 0⟩⟩

/-- A `SentMessage` at index 1. -/
def exampleSentMessage : CrossDomainMessengerSentMessageEvent := ⟨exampleEvent 1, exampleMessage⟩

/-- A bridge event at index 2. -/
def exampleInitiatedBridge : StandardBridgeInitiatedEvent :=
  ⟨exampleEvent 2, ⟨none, ⟨FixedBytes.fill 20 0, FixedBytes.fill 20 0, 0, [], 0⟩,
    ⟨FixedBytes.fill 20 0, FixedBytes.fill 20 0⟩⟩⟩

/-- A bridge event of the same transaction at index 7, with nothing before it. -/
def unmatchedBridge : StandardBridgeInitiatedEvent :=
  { exampleInitiatedBridge with Event := exampleEvent 7 }

/-- A codec decoding every `TransactionEnqueued` log to an empty call. -/
def exampleCodec : Codec :=
  ⟨FixedBytes.fill 32 0, fun _ => .ok ⟨FixedBytes.fill 20 0, FixedBytes.fill 20 0, 0, []⟩,
    fun _ => FixedBytes.fill 32 3, fun _ => .ok ⟨0⟩⟩

/-- The deposit `exampleCodec` decodes from a `TransactionEnqueued` log at index 0. -/
def exampleDeposit : LegacyCTCDepositEvent :=
  ⟨exampleEvent 0, ⟨FixedBytes.fill 20 0, FixedBytes.fill 20 0, 0, [], 0⟩, FixedBytes.fill 32 3, 0⟩

/-- A database holding one legacy deposit on L1 and one legacy withdrawal on L2. -/
def exampleDb : Database Unit :=
  .static [⟨exampleEvent 0, []⟩] [exampleSentMessage] [] [exampleInitiatedBridge]

/-- Contracts at the zero address. -/
def exampleL1Contracts : L1Contracts :=
  ⟨FixedBytes.fill 20 0, FixedBytes.fill 20 0, FixedBytes.fill 20 0⟩

/-- **A failed correlation stops an L1 run after partial writes.** -/
theorem LegacyL1ProcessInitiatedBridgeEvents_fails_at
    (ha : L1Answers codec db l1Contracts fromHeight toHeight deps sents inits)
    (hk : L1Keys deps sents) :
    (∀ pre s post, sents = pre ++ s :: post →
      (∀ s' ∈ pre, ∃ d ∈ deps, Precedes 1 d.Event s'.Event) →
      (¬∃ d ∈ deps, Precedes 1 d.Event s.Event) →
      ∃ m new, l1BridgeMessageOf (LogMap.ofList (·.Event.key) deps .empty) s = .error m ∧
        Fails (LegacyL1ProcessInitiatedBridgeEvents codec db l1Contracts fromHeight toHeight)
          m new ∧
        storedL1TransactionDeposits new = deps.map L1TransactionDeposit.ofCTC ∧
        storedL1BridgeMessages new = [] ∧ storedL1BridgeDeposits new = []) ∧
    ((∀ s ∈ sents, ∃ d ∈ deps, Precedes 1 d.Event s.Event) →
      ∀ pre i post, inits = pre ++ i :: post →
      (∀ i' ∈ pre, (∃ s ∈ sents, Precedes 1 s.Event i'.Event) ∧
        ∃ d ∈ deps, Precedes 2 d.Event i'.Event) →
      ¬((∃ s ∈ sents, Precedes 1 s.Event i.Event) ∧ ∃ d ∈ deps, Precedes 2 d.Event i.Event) →
      ∃ m new, l1BridgeDepositOf (LogMap.ofList (·.Event.key) deps .empty)
          (LogMap.ofList (·.Event.key) sents .empty) i = .error m ∧
        Fails (LegacyL1ProcessInitiatedBridgeEvents codec db l1Contracts fromHeight toHeight)
          m new ∧
        storedL1TransactionDeposits new = deps.map L1TransactionDeposit.ofCTC ∧
        List.Forall₂ (L1MessageRow deps) sents (storedL1BridgeMessages new) ∧
        storedL1BridgeDeposits new = []) := by
  constructor
  · rintro pre s post rfl hpre hfail
    cases hs : l1BridgeMessageOf (LogMap.ofList (·.Event.key) deps .empty) s with
    | ok r => exact absurd ((exists_l1BridgeMessageOf_eq_ok hk).1 ⟨r, hs⟩) hfail
    | error m =>
      obtain ⟨new, hf, h₁, h₂, h₃⟩ := legacyL1_sentMessages_fails ha <|
        mapM_eq_error_of_first (fun s' hs' => (exists_l1BridgeMessageOf_eq_ok hk).2 (hpre s' hs'))
          hs
      exact ⟨m, new, rfl, hf, h₁, h₂, h₃⟩
  · rintro hsents pre i post rfl hpre hfail
    obtain ⟨bms, hbm⟩ := exists_mapM_eq_ok_iff.2 fun s hs =>
      (exists_l1BridgeMessageOf_eq_ok hk).2 (hsents s hs)
    cases hi : l1BridgeDepositOf (LogMap.ofList (·.Event.key) deps .empty)
        (LogMap.ofList (·.Event.key) sents .empty) i with
    | ok b => exact absurd ((exists_l1BridgeDepositOf_eq_ok hk).1 ⟨b, hi⟩) hfail
    | error m =>
      obtain ⟨new, hf, h₁, h₂, h₃⟩ := legacyL1_initiatedBridges_fails ha hbm <|
        mapM_eq_error_of_first (fun i' hi' => (exists_l1BridgeDepositOf_eq_ok hk).2 (hpre i' hi'))
          hi
      refine ⟨m, new, rfl, hf, h₁, ?_, h₃⟩
      rw [h₂]
      exact (mapM_eq_ok_iff.1 hbm).imp fun _ _ => (l1BridgeMessageOf_eq_ok hk).1

theorem LegacyL1ProcessInitiatedBridgeEvents_fails_at_uncorrelated :
    ∃ m new, l1BridgeDepositOf (LogMap.ofList (·.Event.key) [exampleDeposit] .empty)
        (LogMap.ofList (·.Event.key) [exampleSentMessage] .empty) unmatchedBridge = .error m ∧
      Fails (LegacyL1ProcessInitiatedBridgeEvents exampleCodec
        (.static [⟨exampleEvent 0, []⟩] [exampleSentMessage] [] [unmatchedBridge])
        exampleL1Contracts 0 0) m new ∧
      storedL1TransactionDeposits new = [L1TransactionDeposit.ofCTC exampleDeposit] ∧
      List.Forall₂ (L1MessageRow [exampleDeposit]) [exampleSentMessage]
        (storedL1BridgeMessages new) ∧
      storedL1BridgeDeposits new = [] :=
  have ha : L1Answers exampleCodec
      (.static [⟨exampleEvent 0, []⟩] [exampleSentMessage] [] [unmatchedBridge])
      exampleL1Contracts 0 0 [exampleDeposit] [exampleSentMessage] [unmatchedBridge] :=
    ⟨⟨[⟨exampleEvent 0, []⟩], fun _ => rfl, rfl⟩, fun _ => rfl, fun _ => rfl, fun _ _ => rfl,
      fun _ _ => rfl, fun _ _ => rfl⟩
  (LegacyL1ProcessInitiatedBridgeEvents_fails_at ha
    ⟨by decide, by decide, by decide, by decide⟩).2
    (List.forall_mem_singleton.2 ⟨_, List.mem_singleton_self _, rfl, rfl, rfl⟩) [] unmatchedBridge
    [] rfl nofun (by simp [Precedes, unmatchedBridge, exampleSentMessage, exampleDeposit,
      exampleEvent, UInt64.size])

/-- **Legacy L1 initiation correlates its events.** -/
theorem LegacyL1ProcessInitiatedBridgeEvents_correlates
    (ha : L1Answers codec db l1Contracts fromHeight toHeight deps sents inits)
    (hk : L1Keys deps sents) (e : Env W DbCall) :
    ((LegacyL1ProcessInitiatedBridgeEvents codec db l1Contracts fromHeight toHeight e).1 =
        .ok () ↔ L1Correlated deps sents inits) ∧
    ∀ e', LegacyL1ProcessInitiatedBridgeEvents codec db l1Contracts fromHeight toHeight e =
        (.ok (), e') → ∃ new, e'.calls = e.calls ++ new ∧
      storedL1TransactionDeposits new = deps.map L1TransactionDeposit.ofCTC ∧
      List.Forall₂ (L1MessageRow deps) sents (storedL1BridgeMessages new) ∧
      List.Forall₂ (L1DepositRow deps sents) inits (storedL1BridgeDeposits new) := by
  have hloops : L1Correlated deps sents inits ↔
      (∃ bms, sents.mapM (l1BridgeMessageOf (LogMap.ofList (·.Event.key) deps .empty)) =
        .ok bms) ∧
      ∃ bds, inits.mapM (l1BridgeDepositOf (LogMap.ofList (·.Event.key) deps .empty)
        (LogMap.ofList (·.Event.key) sents .empty)) = .ok bds := by
    simp only [exists_mapM_eq_ok_iff, exists_l1BridgeMessageOf_eq_ok hk,
      exists_l1BridgeDepositOf_eq_ok hk, L1Correlated]
  refine ⟨⟨fun h => ?_, fun h => ?_⟩, fun e' h => ?_⟩
  · obtain ⟨bms, bds, hbm, hbd⟩ := legacyL1_loops_ok ha (Prod.ext h rfl)
    exact hloops.2 ⟨⟨bms, hbm⟩, bds, hbd⟩
  · obtain ⟨⟨bms, hbm⟩, bds, hbd⟩ := hloops.1 h
    obtain ⟨new, hr, -⟩ := legacyL1_returns ha hbm hbd
    obtain ⟨w, hw⟩ := hr e
    rw [hw]
  · obtain ⟨bms, bds, hbm, hbd⟩ := legacyL1_loops_ok ha h
    obtain ⟨new, hr, h₁, h₂, h₃⟩ := legacyL1_returns ha hbm hbd
    refine ⟨new, (hr.eq_ok h).2, h₁, ?_, ?_⟩
    · rw [h₂]
      exact (mapM_eq_ok_iff.1 hbm).imp fun _ _ => (l1BridgeMessageOf_eq_ok hk).1
    · rw [h₃]
      exact (mapM_eq_ok_iff.1 hbd).imp fun _ _ => (l1BridgeDepositOf_eq_ok hk).1

theorem LegacyL1ProcessInitiatedBridgeEvents_correlates_example :
    (LegacyL1ProcessInitiatedBridgeEvents exampleCodec exampleDb exampleL1Contracts 0 0
        ⟨(), []⟩).1 = .ok () ↔
      L1Correlated [exampleDeposit] [exampleSentMessage] [exampleInitiatedBridge] :=
  have ha : L1Answers exampleCodec exampleDb exampleL1Contracts 0 0 [exampleDeposit]
      [exampleSentMessage] [exampleInitiatedBridge] :=
    ⟨⟨[⟨exampleEvent 0, []⟩], fun _ => rfl, rfl⟩, fun _ => rfl, fun _ => rfl, fun _ _ => rfl,
      fun _ _ => rfl, fun _ _ => rfl⟩
  (LegacyL1ProcessInitiatedBridgeEvents_correlates ha
    ⟨by decide, by decide, by decide, by decide⟩ _).1

end L1

/-! ## L2: L2CrossDomainMessenger, L2StandardBridge -/

/-- The transaction withdrawal stored for a legacy L2 `SentMessage`, under its hash. -/
def L2TransactionWithdrawal.ofSentMessage (sentMessage : CrossDomainMessengerSentMessageEvent) :
    L2TransactionWithdrawal where
  WithdrawalHash := sentMessage.BridgeMessage.MessageHash
  InitiatedL2EventGUID := sentMessage.Event.GUID
  Nonce := sentMessage.BridgeMessage.Nonce
  GasLimit := sentMessage.BridgeMessage.GasLimit
  Tx :=
    { FromAddress := sentMessage.BridgeMessage.Tx.FromAddress
      ToAddress := sentMessage.BridgeMessage.Tx.ToAddress
      Amount := 0
      Data := sentMessage.BridgeMessage.Tx.Data
      Timestamp := sentMessage.Event.Timestamp }

/-- The bridge message stored for a legacy L2 `SentMessage`, under its own hash. -/
def L2BridgeMessage.ofSentMessage (sentMessage : CrossDomainMessengerSentMessageEvent) :
    L2BridgeMessage :=
  ⟨sentMessage.BridgeMessage, sentMessage.BridgeMessage.MessageHash⟩

/-- The local `sentMessageEvent` of `LegacyL2ProcessInitiatedBridgeEvents`. -/
structure SentMessageEvent where
  SentMessage : CrossDomainMessengerSentMessageEvent
  WithdrawalHash : Hash

/-- The body of the `WithdrawalInitiated` loop. -/
def l2BridgeWithdrawalOf (sentMessages : LogMap SentMessageEvent)
    (initiatedBridge : StandardBridgeInitiatedEvent) : Except String L2BridgeWithdrawal := do
  let sentMessage ← precedingEvent sentMessages (·.SentMessage.Event) initiatedBridge.Event 1
    ("expected SentMessage preceding BridgeInitiated event. tx_hash = " ++
      initiatedBridge.Event.TransactionHash.Hex)
    fun h => "correlated events tx hash mismatch. bridge_tx_hash = " ++
      initiatedBridge.Event.TransactionHash.Hex ++ ", message_tx_hash = " ++ h.Hex
  pure ⟨{ initiatedBridge.BridgeTransfer with
    CrossDomainMessageHash := some sentMessage.SentMessage.BridgeMessage.MessageHash },
    sentMessage.WithdrawalHash⟩

/-- `LegacyL2ProcessInitiatedBridgeEvents`, without its logging and metrics. -/
def LegacyL2ProcessInitiatedBridgeEvents (db : Database W) (l2Contracts : L2Contracts)
    (fromHeight toHeight : Nat) : GoM W DbCall Unit := do
  -- (1) L2CrossDomainMessenger
  let crossDomainSentMessages ← call
    (.CrossDomainMessengerSentMessageEvents "l2" l2Contracts.L2CrossDomainMessenger
      fromHeight toHeight)
    (db.CrossDomainMessengerSentMessageEvents "l2" l2Contracts.L2CrossDomainMessenger
      fromHeight toHeight)
  let sentMessages := LogMap.ofList (·.SentMessage.Event.key)
    (crossDomainSentMessages.map fun s => ⟨s, s.BridgeMessage.MessageHash⟩) .empty
  let bridgeMessages := crossDomainSentMessages.map L2BridgeMessage.ofSentMessage
  let transactionWithdrawals :=
    crossDomainSentMessages.map L2TransactionWithdrawal.ofSentMessage
  (if 0 < bridgeMessages.length then do
      call (.StoreL2TransactionWithdrawals transactionWithdrawals)
        (db.StoreL2TransactionWithdrawals transactionWithdrawals)
      call (.StoreL2BridgeMessages bridgeMessages) (db.StoreL2BridgeMessages bridgeMessages)
    else pure ())
  -- (2) L2StandardBridge
  let initiatedBridges ← call
    (.L2StandardBridgeLegacyWithdrawalInitiatedEvents l2Contracts.L2StandardBridge
      fromHeight toHeight)
    (db.L2StandardBridgeLegacyWithdrawalInitiatedEvents l2Contracts.L2StandardBridge
      fromHeight toHeight)
  let l2BridgeWithdrawals ← lift (initiatedBridges.mapM (l2BridgeWithdrawalOf sentMessages))
  storeRows .StoreL2BridgeWithdrawals db.StoreL2BridgeWithdrawals l2BridgeWithdrawals

/-! ### What a run returns and stores -/

/-- Each WithdrawalInitiated event directly follows a SentMessage of its transaction. -/
def L2Correlated (sents : List CrossDomainMessengerSentMessageEvent)
    (inits : List StandardBridgeInitiatedEvent) : Prop :=
  ∀ i ∈ inits, ∃ s ∈ sents, Precedes 1 s.Event i.Event

/-- `b` is the bridge withdrawal stored for `initiatedBridge`. -/
def L2WithdrawalRow (sents : List CrossDomainMessengerSentMessageEvent)
    (initiatedBridge : StandardBridgeInitiatedEvent) (b : L2BridgeWithdrawal) : Prop :=
  ∃ s ∈ sents, Precedes 1 s.Event initiatedBridge.Event ∧
    b = ⟨{ initiatedBridge.BridgeTransfer with
      CrossDomainMessageHash := some s.BridgeMessage.MessageHash },
      s.BridgeMessage.MessageHash⟩

theorem exists_l2WithdrawalRow {sents : List CrossDomainMessengerSentMessageEvent}
    {i : StandardBridgeInitiatedEvent} :
    (∃ b, L2WithdrawalRow sents i b) ↔ ∃ s ∈ sents, Precedes 1 s.Event i.Event :=
  ⟨fun ⟨_, s, hs, hp, _⟩ => ⟨s, hs, hp⟩, fun ⟨s, hs, hp⟩ => ⟨_, s, hs, hp, rfl⟩⟩

/-- The database of an L2 run answers its two queries, whatever its state, and every write. -/
structure L2Answers (db : Database W) (l2Contracts : L2Contracts) (fromHeight toHeight : Nat)
    (sents : List CrossDomainMessengerSentMessageEvent)
    (inits : List StandardBridgeInitiatedEvent) : Prop where
  sentMessages : ∀ w, (db.CrossDomainMessengerSentMessageEvents "l2"
    l2Contracts.L2CrossDomainMessenger fromHeight toHeight w).1 = .ok sents
  initiatedBridges : ∀ w, (db.L2StandardBridgeLegacyWithdrawalInitiatedEvents
    l2Contracts.L2StandardBridge fromHeight toHeight w).1 = .ok inits
  storeTransactionWithdrawals : ∀ rows w, (db.StoreL2TransactionWithdrawals rows w).1 = .ok ()
  storeBridgeMessages : ∀ rows w, (db.StoreL2BridgeMessages rows w).1 = .ok ()
  storeBridgeWithdrawals : ∀ rows w, (db.StoreL2BridgeWithdrawals rows w).1 = .ok ()

/-- The sent messages have distinct log keys, and indexes below the wrap-around. -/
structure L2Keys (sents : List CrossDomainMessengerSentMessageEvent) : Prop where
  sentMessages_nodup : (sents.map (·.Event.key)).Nodup
  sentMessages_lt : ∀ s ∈ sents, s.Event.LogIndex.toNat < 2 ^ 64 - 1

section L2

variable {db : Database W} {l2Contracts : L2Contracts} {fromHeight toHeight : Nat}
  {sents : List CrossDomainMessengerSentMessageEvent}
  {inits : List StandardBridgeInitiatedEvent}

/-- The map of `LegacyL2ProcessInitiatedBridgeEvents`. -/
def l2SentMessages (sents : List CrossDomainMessengerSentMessageEvent) : LogMap SentMessageEvent :=
  LogMap.ofList (·.SentMessage.Event.key)
    (sents.map fun s => ⟨s, s.BridgeMessage.MessageHash⟩) .empty

theorem L2Keys.sentMessageEvents (hk : L2Keys sents) :
    ((sents.map fun s => (⟨s, s.BridgeMessage.MessageHash⟩ : SentMessageEvent)).map
      fun a => a.SentMessage.Event.key).Nodup ∧
    ∀ a ∈ sents.map fun s => (⟨s, s.BridgeMessage.MessageHash⟩ : SentMessageEvent),
      a.SentMessage.Event.LogIndex.toNat + (1 : UInt64).toNat < 2 ^ 64 := by
  refine ⟨by simpa [Function.comp_def] using hk.sentMessages_nodup, ?_⟩
  simp only [List.mem_map]
  rintro _ ⟨s, hs, rfl⟩
  have := hk.sentMessages_lt s hs
  simp; omega

theorem l2BridgeWithdrawalOf_eq_ok (hk : L2Keys sents) {i : StandardBridgeInitiatedEvent}
    {b : L2BridgeWithdrawal} :
    l2BridgeWithdrawalOf (l2SentMessages sents) i = .ok b ↔ L2WithdrawalRow sents i b := by
  obtain ⟨hnd, hlt⟩ := hk.sentMessageEvents
  simp only [l2BridgeWithdrawalOf, l2SentMessages, except_bind_eq_ok, precedingEvent_eq_ok hnd hlt,
    except_pure_eq_ok, L2WithdrawalRow, List.mem_map, and_assoc, exists_exists_and_eq_and]
  simp only [UInt64.toNat_ofNat, Nat.one_mod, eq_comm]

theorem exists_l2BridgeWithdrawalOf_eq_ok (hk : L2Keys sents) {i : StandardBridgeInitiatedEvent} :
    (∃ b, l2BridgeWithdrawalOf (l2SentMessages sents) i = .ok b) ↔
      ∃ s ∈ sents, Precedes 1 s.Event i.Event := by
  simp only [l2BridgeWithdrawalOf_eq_ok hk, exists_l2WithdrawalRow]

theorem legacyL2_returns (ha : L2Answers db l2Contracts fromHeight toHeight sents inits)
    {bws : List L2BridgeWithdrawal}
    (hbw : inits.mapM (l2BridgeWithdrawalOf (l2SentMessages sents)) = .ok bws) :
    ∃ new, Returns (LegacyL2ProcessInitiatedBridgeEvents db l2Contracts fromHeight toHeight)
        () new ∧
      storedL2TransactionWithdrawals new = sents.map L2TransactionWithdrawal.ofSentMessage ∧
      storedL2BridgeMessages new = sents.map L2BridgeMessage.ofSentMessage ∧
      storedL2BridgeWithdrawals new = bws := by
  refine ⟨_, (Returns.call ha.sentMessages _).bind <|
    (Returns.ite ((Returns.call (ha.storeTransactionWithdrawals _) _).bind
      (Returns.call (ha.storeBridgeMessages _) _)) (Returns.pure ())).bind <|
    (Returns.call ha.initiatedBridges _).bind <| (Returns.lift hbw).bind <|
    storeRows_returns ha.storeBridgeWithdrawals _, ?_, ?_, ?_⟩ <;>
  rcases sents with _ | ⟨s, sents⟩ <;>
  simp only [storedL2TransactionWithdrawals, storedL2BridgeMessages, storedL2BridgeWithdrawals,
    List.map_nil, List.map_cons, List.length_nil, List.length_cons, lt_self_iff_false,
    Nat.zero_lt_succ, if_true, if_false, List.nil_append, List.singleton_append,
    List.cons_append, List.flatMap_cons, List.flatMap_nil, flatMap_storeLog, List.append_nil]

theorem legacyL2_loop_ok (ha : L2Answers db l2Contracts fromHeight toHeight sents inits)
    {e e' : Env W DbCall}
    (h : LegacyL2ProcessInitiatedBridgeEvents db l2Contracts fromHeight toHeight e =
      (.ok (), e')) :
    ∃ bws, inits.mapM (l2BridgeWithdrawalOf (l2SentMessages sents)) = .ok bws := by
  obtain ⟨_, _, h₁, h⟩ := bind_eq_ok h
  obtain ⟨rfl, -⟩ := (Returns.call ha.sentMessages _).eq_ok h₁
  obtain ⟨_, _, -, h⟩ := bind_eq_ok h
  obtain ⟨_, _, h₃, h⟩ := bind_eq_ok h
  obtain ⟨rfl, -⟩ := (Returns.call ha.initiatedBridges _).eq_ok h₃
  obtain ⟨bws, _, h₄, -⟩ := bind_eq_ok h
  exact ⟨bws, (lift_eq_ok h₄).1⟩

theorem legacyL2_initiatedBridges_fails
    (ha : L2Answers db l2Contracts fromHeight toHeight sents inits) {m : String}
    (hbw : inits.mapM (l2BridgeWithdrawalOf (l2SentMessages sents)) = .error m) :
    ∃ new, Fails (LegacyL2ProcessInitiatedBridgeEvents db l2Contracts fromHeight toHeight)
        m new ∧
      storedL2TransactionWithdrawals new = sents.map L2TransactionWithdrawal.ofSentMessage ∧
      storedL2BridgeMessages new = sents.map L2BridgeMessage.ofSentMessage ∧
      storedL2BridgeWithdrawals new = [] := by
  refine ⟨_, (Returns.call ha.sentMessages _).bind_fails <|
    (Returns.ite ((Returns.call (ha.storeTransactionWithdrawals _) _).bind
      (Returns.call (ha.storeBridgeMessages _) _)) (Returns.pure ())).bind_fails <|
    (Returns.call ha.initiatedBridges _).bind_fails <| (Fails.lift hbw).bind _, ?_, ?_, ?_⟩ <;>
  rcases sents with _ | ⟨s, sents⟩ <;>
  simp only [storedL2TransactionWithdrawals, storedL2BridgeMessages, storedL2BridgeWithdrawals,
    List.map_nil, List.map_cons, List.length_nil, List.length_cons, lt_self_iff_false,
    Nat.zero_lt_succ, if_true, if_false, List.nil_append, List.singleton_append,
    List.cons_append, List.flatMap_cons, List.flatMap_nil, flatMap_storeLog, List.append_nil]

/-- **A failed correlation stops an L2 run after partial writes.** -/
theorem LegacyL2ProcessInitiatedBridgeEvents_fails_at
    (ha : L2Answers db l2Contracts fromHeight toHeight sents inits) (hk : L2Keys sents)
    {pre post : List StandardBridgeInitiatedEvent} {i : StandardBridgeInitiatedEvent}
    (hinits : inits = pre ++ i :: post)
    (hpre : ∀ i' ∈ pre, ∃ s ∈ sents, Precedes 1 s.Event i'.Event)
    (hfail : ¬∃ s ∈ sents, Precedes 1 s.Event i.Event) :
    ∃ m new, l2BridgeWithdrawalOf (l2SentMessages sents) i = .error m ∧
      Fails (LegacyL2ProcessInitiatedBridgeEvents db l2Contracts fromHeight toHeight) m new ∧
      storedL2TransactionWithdrawals new = sents.map L2TransactionWithdrawal.ofSentMessage ∧
      storedL2BridgeMessages new = sents.map L2BridgeMessage.ofSentMessage ∧
      storedL2BridgeWithdrawals new = [] := by
  subst hinits
  cases hi : l2BridgeWithdrawalOf (l2SentMessages sents) i with
  | ok b => exact absurd ((exists_l2BridgeWithdrawalOf_eq_ok hk).1 ⟨b, hi⟩) hfail
  | error m =>
    obtain ⟨new, hf, h₁, h₂, h₃⟩ := legacyL2_initiatedBridges_fails ha <|
      mapM_eq_error_of_first
        (fun i' hi' => (exists_l2BridgeWithdrawalOf_eq_ok hk).2 (hpre i' hi')) hi
    exact ⟨m, new, rfl, hf, h₁, h₂, h₃⟩

theorem LegacyL2ProcessInitiatedBridgeEvents_fails_at_uncorrelated :
    ∃ m new, l2BridgeWithdrawalOf (l2SentMessages [exampleSentMessage]) unmatchedBridge =
        .error m ∧
      Fails (LegacyL2ProcessInitiatedBridgeEvents
        (.static [] [exampleSentMessage] [] [unmatchedBridge])
        ⟨FixedBytes.fill 20 0, FixedBytes.fill 20 0⟩ 0 0) m new ∧
      storedL2TransactionWithdrawals new =
        [L2TransactionWithdrawal.ofSentMessage exampleSentMessage] ∧
      storedL2BridgeMessages new = [L2BridgeMessage.ofSentMessage exampleSentMessage] ∧
      storedL2BridgeWithdrawals new = [] :=
  have ha : L2Answers (.static [] [exampleSentMessage] [] [unmatchedBridge])
      ⟨FixedBytes.fill 20 0, FixedBytes.fill 20 0⟩ 0 0 [exampleSentMessage] [unmatchedBridge] :=
    ⟨fun _ => rfl, fun _ => rfl, fun _ _ => rfl, fun _ _ => rfl, fun _ _ => rfl⟩
  LegacyL2ProcessInitiatedBridgeEvents_fails_at ha ⟨by decide, by decide⟩
    (List.nil_append [unmatchedBridge]).symm nofun
    (by simp [Precedes, unmatchedBridge, exampleSentMessage, exampleEvent, UInt64.size])

/-- **Legacy L2 initiation correlates its events.** -/
theorem LegacyL2ProcessInitiatedBridgeEvents_correlates
    (ha : L2Answers db l2Contracts fromHeight toHeight sents inits) (hk : L2Keys sents)
    (e : Env W DbCall) :
    ((LegacyL2ProcessInitiatedBridgeEvents db l2Contracts fromHeight toHeight e).1 = .ok () ↔
        L2Correlated sents inits) ∧
    ∀ e', LegacyL2ProcessInitiatedBridgeEvents db l2Contracts fromHeight toHeight e =
        (.ok (), e') → ∃ new, e'.calls = e.calls ++ new ∧
      storedL2TransactionWithdrawals new = sents.map L2TransactionWithdrawal.ofSentMessage ∧
      storedL2BridgeMessages new = sents.map L2BridgeMessage.ofSentMessage ∧
      List.Forall₂ (L2WithdrawalRow sents) inits (storedL2BridgeWithdrawals new) ∧
      ∀ b ∈ storedL2BridgeWithdrawals new,
        (∃ t ∈ storedL2TransactionWithdrawals new, t.WithdrawalHash = b.TransactionWithdrawalHash) ∧
        ∃ m ∈ storedL2BridgeMessages new, m.TransactionWithdrawalHash = b.TransactionWithdrawalHash ∧
          b.BridgeTransfer.CrossDomainMessageHash = some m.BridgeMessage.MessageHash := by
  have hloop : L2Correlated sents inits ↔
      ∃ bws, inits.mapM (l2BridgeWithdrawalOf (l2SentMessages sents)) = .ok bws := by
    simp only [exists_mapM_eq_ok_iff, exists_l2BridgeWithdrawalOf_eq_ok hk, L2Correlated]
  refine ⟨⟨fun h => hloop.2 (legacyL2_loop_ok ha (Prod.ext h rfl)), fun h => ?_⟩, fun e' h => ?_⟩
  · obtain ⟨bws, hbw⟩ := hloop.1 h
    obtain ⟨new, hr, -⟩ := legacyL2_returns ha hbw
    obtain ⟨w, hw⟩ := hr e
    rw [hw]
  · obtain ⟨bws, hbw⟩ := legacyL2_loop_ok ha h
    obtain ⟨new, hr, h₁, h₂, h₃⟩ := legacyL2_returns ha hbw
    have hrows := (mapM_eq_ok_iff.1 hbw).imp fun _ _ => (l2BridgeWithdrawalOf_eq_ok hk).1
    refine ⟨new, (hr.eq_ok h).2, h₁, h₂, h₃ ▸ hrows, fun b hb => ?_⟩
    rw [h₃] at hb
    obtain ⟨i, -, s, hs, -, rfl⟩ := forall₂_exists_of_mem_right hrows hb
    exact ⟨⟨_, h₁ ▸ List.mem_map_of_mem _ hs, rfl⟩, _, h₂ ▸ List.mem_map_of_mem _ hs, rfl, rfl⟩

theorem LegacyL2ProcessInitiatedBridgeEvents_correlates_example :
    (LegacyL2ProcessInitiatedBridgeEvents exampleDb ⟨FixedBytes.fill 20 0, FixedBytes.fill 20 0⟩
        0 0 ⟨(), []⟩).1 = .ok () ↔ L2Correlated [exampleSentMessage] [exampleInitiatedBridge] :=
  have ha : L2Answers exampleDb ⟨FixedBytes.fill 20 0, FixedBytes.fill 20 0⟩ 0 0
      [exampleSentMessage] [exampleInitiatedBridge] :=
    ⟨fun _ => rfl, fun _ => rfl, fun _ _ => rfl, fun _ _ => rfl, fun _ _ => rfl⟩
  (LegacyL2ProcessInitiatedBridgeEvents_correlates ha ⟨by decide, by decide⟩ _).1

end L2

end Blast.Indexer

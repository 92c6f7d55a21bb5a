import Blast.Indexer.Database

/-!
# Legacy bridge finalization

`LegacyL1ProcessFinalizedBridgeEvents` (`legacy_bridge_processor.go`) marks the L2 withdrawal
of every L1 `RelayedMessage` proven and finalized and its message relayed, and tolerates a
message the indexer never saw on L2 only as a pre-regenesis withdrawal, by the nonce it decodes
from the relaying transaction's calldata. `FinalizedStep` and `FinalizedRun` say what its
successful runs do; the nonce test goes through `Int64()`, and `tx.Data()[4:]` can panic.
`LegacyL2ProcessFinalizedBridgeEvents` marks the L1 message of every L2 `RelayedMessage`
relayed, with no exception.
-/

namespace Blast.Indexer

open Blast.GoM

variable {W : Type}

/-! ## L1: L1CrossDomainMessenger -/

/-- The loop of `LegacyL1ProcessFinalizedBridgeEvents` over its relayed messages. -/
def legacyL1FinalizeLoop (codec : Codec) (db : Database W) (l1Client : EthClient W) :
    List CrossDomainMessengerRelayedMessageEvent → GoM W DbCall Unit
  | [] => pure ()
  | relayedMessage :: rest => do
    let message ← call (.L2BridgeMessage relayedMessage.MessageHash)
      (db.L2BridgeMessage relayedMessage.MessageHash)
    match message with
    | none =>
      let tx ← wrap ("unable to query legacy relayed. tx_hash = " ++
          relayedMessage.Event.TransactionHash.Hex ++ ": ")
        (call (.TxByHash relayedMessage.Event.TransactionHash)
          (l1Client.TxByHash relayedMessage.Event.TransactionHash))
      match tx with
      | none => throw ("missing tx for relayed message! tx_hash = " ++
          relayedMessage.Event.TransactionHash.Hex)
      | some tx =>
        let relayMessageData ← sliceFrom tx.Data 4
        let inputs ← wrap ("unable to extract XDomainCallData from relayMessage transaction. " ++
            "tx_hash = " ++ relayedMessage.Event.TransactionHash.Hex ++ ": ")
          (lift (codec.UnpackRelayMessage relayMessageData))
        if bigInt64 inputs.MessageNonce < 100000 then
          legacyL1FinalizeLoop codec db l1Client rest
        else throw ("missing indexed L2CrossDomainMessenger message! tx_hash = " ++
          relayedMessage.Event.TransactionHash.Hex)
    | some _ =>
      wrap ("failed to mark withdrawal as proven. tx_hash = " ++
          relayedMessage.Event.TransactionHash.Hex ++ ": ")
        (call (.MarkL2TransactionWithdrawalProvenEvent relayedMessage.MessageHash
            relayedMessage.Event.GUID)
          (db.MarkL2TransactionWithdrawalProvenEvent relayedMessage.MessageHash
            relayedMessage.Event.GUID))
      wrap ("failed to mark withdrawal as finalized. tx_hash = " ++
          relayedMessage.Event.TransactionHash.Hex ++ ": ")
        (call (.MarkL2TransactionWithdrawalFinalizedEvent relayedMessage.MessageHash
            relayedMessage.Event.GUID true)
          (db.MarkL2TransactionWithdrawalFinalizedEvent relayedMessage.MessageHash
            relayedMessage.Event.GUID true))
      wrap ("failed to relay cross domain message. tx_hash = " ++
          relayedMessage.Event.TransactionHash.Hex ++ ": ")
        (call (.MarkRelayedL2BridgeMessage relayedMessage.MessageHash relayedMessage.Event.GUID)
          (db.MarkRelayedL2BridgeMessage relayedMessage.MessageHash relayedMessage.Event.GUID))
      legacyL1FinalizeLoop codec db l1Client rest

/-- `LegacyL1ProcessFinalizedBridgeEvents`, without its logging and metrics. -/
def LegacyL1ProcessFinalizedBridgeEvents (codec : Codec) (db : Database W)
    (l1Client : EthClient W) (l1Contracts : L1Contracts) (fromHeight toHeight : Nat) :
    GoM W DbCall Unit := do
  let crossDomainRelayedMessages ← call
    (.CrossDomainMessengerRelayedMessageEvents "l1" l1Contracts.L1CrossDomainMessengerProxy
      fromHeight toHeight)
    (db.CrossDomainMessengerRelayedMessageEvents "l1" l1Contracts.L1CrossDomainMessengerProxy
      fromHeight toHeight)
  legacyL1FinalizeLoop codec db l1Client crossDomainRelayedMessages

/-- The calls of a relayed message that is marked. -/
def markedLog (r : CrossDomainMessengerRelayedMessageEvent) : List DbCall :=
  [.L2BridgeMessage r.MessageHash,
    .MarkL2TransactionWithdrawalProvenEvent r.MessageHash r.Event.GUID,
    .MarkL2TransactionWithdrawalFinalizedEvent r.MessageHash r.Event.GUID true,
    .MarkRelayedL2BridgeMessage r.MessageHash r.Event.GUID]

/-- The calls of a relayed message skipped as pre-regenesis. -/
def skippedLog (r : CrossDomainMessengerRelayedMessageEvent) : List DbCall :=
  [.L2BridgeMessage r.MessageHash, .TxByHash r.Event.TransactionHash]

/-- What a successful loop does for one relayed message: mark it, or skip it by its nonce. -/
inductive FinalizedStep (codec : Codec) (db : Database W) (l1Client : EthClient W)
    (r : CrossDomainMessengerRelayedMessageEvent) : W → W → List DbCall → Prop
  | marked {w w₁ w₂ w₃ w₄ : W} {m : L2BridgeMessage}
      (hm : db.L2BridgeMessage r.MessageHash w = (.ok (some m), w₁))
      (hp : db.MarkL2TransactionWithdrawalProvenEvent r.MessageHash r.Event.GUID w₁ =
        (.ok (), w₂))
      (hf : db.MarkL2TransactionWithdrawalFinalizedEvent r.MessageHash r.Event.GUID true w₂ =
        (.ok (), w₃))
      (hr : db.MarkRelayedL2BridgeMessage r.MessageHash r.Event.GUID w₃ = (.ok (), w₄)) :
      FinalizedStep codec db l1Client r w w₄ (markedLog r)
  | skipped {w w₁ w₂ : W} {tx : Tx} {inputs : RelayMessageInputs}
      (hm : db.L2BridgeMessage r.MessageHash w = (.ok none, w₁))
      (htx : l1Client.TxByHash r.Event.TransactionHash w₁ = (.ok (some tx), w₂))
      (hlen : 4 ≤ tx.Data.length)
      (hdec : codec.UnpackRelayMessage (tx.Data.drop 4) = .ok inputs)
      (hnonce : bigInt64 inputs.MessageNonce < 100000) :
      FinalizedStep codec db l1Client r w w₂ (skippedLog r)

/-- A successful run of the loop: one `FinalizedStep` per relayed message, in order. -/
inductive FinalizedRun (codec : Codec) (db : Database W) (l1Client : EthClient W) :
    List CrossDomainMessengerRelayedMessageEvent → W → W → List DbCall → Prop
  | nil (w : W) : FinalizedRun codec db l1Client [] w w []
  | cons {r : CrossDomainMessengerRelayedMessageEvent}
      {rs : List CrossDomainMessengerRelayedMessageEvent} {w w₁ w' : W} {log new : List DbCall}
      (hstep : FinalizedStep codec db l1Client r w w₁ log)
      (hrest : FinalizedRun codec db l1Client rs w₁ w' new) :
      FinalizedRun codec db l1Client (r :: rs) w w' (log ++ new)

section L1

variable {codec : Codec} {db : Database W} {l1Client : EthClient W}

theorem FinalizedRun.nil_iff {w w' : W} {new : List DbCall} :
    FinalizedRun codec db l1Client [] w w' new ↔ w' = w ∧ new = [] :=
  ⟨fun h => by cases h; exact ⟨rfl, rfl⟩, fun ⟨h₁, h₂⟩ => by subst h₁ h₂; exact .nil _⟩

theorem legacyL1FinalizeLoop_nil (e : Env W DbCall) :
    legacyL1FinalizeLoop codec db l1Client [] e = (.ok (), e) := rfl

theorem legacyL1FinalizeLoop_marked {r : CrossDomainMessengerRelayedMessageEvent}
    {rs : List CrossDomainMessengerRelayedMessageEvent} {e : Env W DbCall} {w₁ w₂ w₃ w₄ : W}
    {m : L2BridgeMessage}
    (hm : db.L2BridgeMessage r.MessageHash e.world = (.ok (some m), w₁))
    (hp : db.MarkL2TransactionWithdrawalProvenEvent r.MessageHash r.Event.GUID w₁ =
      (.ok (), w₂))
    (hf : db.MarkL2TransactionWithdrawalFinalizedEvent r.MessageHash r.Event.GUID true w₂ =
      (.ok (), w₃))
    (hr : db.MarkRelayedL2BridgeMessage r.MessageHash r.Event.GUID w₃ = (.ok (), w₄)) :
    legacyL1FinalizeLoop codec db l1Client (r :: rs) e =
      legacyL1FinalizeLoop codec db l1Client rs ⟨w₄, e.calls ++ markedLog r⟩ := by
  rw [legacyL1FinalizeLoop, bind_ok _ (call_ok hm)]
  dsimp only
  rw [bind_ok _ (wrap_of_ok (call_ok hp)), bind_ok _ (wrap_of_ok (call_ok hf)),
    bind_ok _ (wrap_of_ok (call_ok hr))]
  simp [markedLog]

theorem legacyL1FinalizeLoop_unindexed {r : CrossDomainMessengerRelayedMessageEvent}
    {rs : List CrossDomainMessengerRelayedMessageEvent} {e : Env W DbCall} {w₁ w₂ : W}
    {tx : Tx} (hm : db.L2BridgeMessage r.MessageHash e.world = (.ok none, w₁))
    (htx : l1Client.TxByHash r.Event.TransactionHash w₁ = (.ok (some tx), w₂)) :
    legacyL1FinalizeLoop codec db l1Client (r :: rs) e =
      (sliceFrom tx.Data 4 >>= fun relayMessageData => do
        let inputs ← wrap ("unable to extract XDomainCallData from relayMessage transaction. " ++
            "tx_hash = " ++ r.Event.TransactionHash.Hex ++ ": ")
          (lift (codec.UnpackRelayMessage relayMessageData))
        if bigInt64 inputs.MessageNonce < 100000 then
          legacyL1FinalizeLoop codec db l1Client rs
        else throw ("missing indexed L2CrossDomainMessenger message! tx_hash = " ++
          r.Event.TransactionHash.Hex)) ⟨w₂, e.calls ++ skippedLog r⟩ := by
  rw [legacyL1FinalizeLoop, bind_ok _ (call_ok hm)]
  dsimp only
  rw [bind_ok _ (wrap_of_ok (call_ok htx))]
  simp [skippedLog]

theorem legacyL1FinalizeLoop_cons_eq_ok {r : CrossDomainMessengerRelayedMessageEvent}
    {rs : List CrossDomainMessengerRelayedMessageEvent} {e e' : Env W DbCall} :
    legacyL1FinalizeLoop codec db l1Client (r :: rs) e = (.ok (), e') ↔
      ∃ w₁ log, FinalizedStep codec db l1Client r e.world w₁ log ∧
        legacyL1FinalizeLoop codec db l1Client rs ⟨w₁, e.calls ++ log⟩ = (.ok (), e') := by
  constructor
  · intro h
    obtain ⟨message, e₁, h₁, h⟩ := bind_eq_ok h
    obtain ⟨w₁, hm, rfl⟩ := call_eq_ok h₁
    cases message with
    | none =>
      obtain ⟨tx, e₂, h₂, h⟩ := bind_eq_ok h
      obtain ⟨w₂, htx, rfl⟩ := call_eq_ok (wrap_eq_ok.1 h₂)
      cases tx with
      | none => cases h
      | some tx =>
        obtain ⟨_, e₃, h₃, h⟩ := bind_eq_ok h
        obtain ⟨hlen, rfl, rfl⟩ := sliceFrom_eq_ok h₃
        obtain ⟨inputs, e₄, h₄, h⟩ := bind_eq_ok h
        obtain ⟨hdec, rfl⟩ := lift_eq_ok (wrap_eq_ok.1 h₄)
        by_cases hn : bigInt64 inputs.MessageNonce < 100000
        · rw [if_pos hn] at h
          exact ⟨_, _, .skipped hm htx hlen hdec hn, by simpa [skippedLog] using h⟩
        · rw [if_neg hn] at h
          cases h
    | some m =>
      obtain ⟨_, e₂, h₂, h⟩ := bind_eq_ok h
      obtain ⟨w₂, hp, rfl⟩ := call_eq_ok (wrap_eq_ok.1 h₂)
      obtain ⟨_, e₃, h₃, h⟩ := bind_eq_ok h
      obtain ⟨w₃, hf, rfl⟩ := call_eq_ok (wrap_eq_ok.1 h₃)
      obtain ⟨_, e₄, h₄, h⟩ := bind_eq_ok h
      obtain ⟨w₄, hr, rfl⟩ := call_eq_ok (wrap_eq_ok.1 h₄)
      exact ⟨_, _, .marked hm hp hf hr, by simpa [markedLog] using h⟩
  · rintro ⟨w₁, log, hstep, h⟩
    cases hstep with
    | marked hm hp hf hr => rwa [legacyL1FinalizeLoop_marked hm hp hf hr]
    | skipped hm htx hlen hdec hnonce =>
      rwa [legacyL1FinalizeLoop_unindexed hm htx, bind_ok _ (sliceFrom_of_le hlen _),
        bind_ok _ (wrap_of_ok (by rw [hdec, lift_ok])), if_pos hnonce]

theorem legacyL1FinalizeLoop_eq_ok_iff {rs : List CrossDomainMessengerRelayedMessageEvent}
    {e e' : Env W DbCall} :
    legacyL1FinalizeLoop codec db l1Client rs e = (.ok (), e') ↔
      ∃ new, FinalizedRun codec db l1Client rs e.world e'.world new ∧
        e'.calls = e.calls ++ new := by
  induction rs generalizing e with
  | nil =>
    obtain ⟨w, calls⟩ := e
    obtain ⟨w', calls'⟩ := e'
    simp only [legacyL1FinalizeLoop_nil, FinalizedRun.nil_iff]
    constructor
    · rintro ⟨⟩
      exact ⟨[], ⟨rfl, rfl⟩, by simp⟩
    · rintro ⟨_, ⟨rfl, rfl⟩, rfl⟩
      simp
  | cons r rs ih =>
    rw [legacyL1FinalizeLoop_cons_eq_ok]
    constructor
    · rintro ⟨w₁, log, hstep, h⟩
      obtain ⟨new, hrun, hcalls⟩ := ih.1 h
      exact ⟨log ++ new, .cons hstep hrun, by rw [hcalls, List.append_assoc]⟩
    · rintro ⟨_, hrun, hcalls⟩
      cases hrun with
      | cons hstep hrest =>
        exact ⟨_, _, hstep, ih.2 ⟨_, hrest, by rw [hcalls, List.append_assoc]⟩⟩

/-- **The successful runs of `LegacyL1ProcessFinalizedBridgeEvents`.** -/
theorem LegacyL1ProcessFinalizedBridgeEvents_eq_ok_iff {l1Contracts : L1Contracts}
    {fromHeight toHeight : Nat} {e e' : Env W DbCall} :
    LegacyL1ProcessFinalizedBridgeEvents codec db l1Client l1Contracts fromHeight toHeight e =
        (.ok (), e') ↔
      ∃ rs w₁ new, db.CrossDomainMessengerRelayedMessageEvents "l1"
          l1Contracts.L1CrossDomainMessengerProxy fromHeight toHeight e.world = (.ok rs, w₁) ∧
        FinalizedRun codec db l1Client rs w₁ e'.world new ∧
        e'.calls = e.calls ++ .CrossDomainMessengerRelayedMessageEvents "l1"
          l1Contracts.L1CrossDomainMessengerProxy fromHeight toHeight :: new := by
  constructor
  · intro h
    obtain ⟨rs, e₁, h₁, h⟩ := bind_eq_ok h
    obtain ⟨w₁, hr, rfl⟩ := call_eq_ok h₁
    obtain ⟨new, hrun, hcalls⟩ := legacyL1FinalizeLoop_eq_ok_iff.1 h
    exact ⟨rs, w₁, new, hr, hrun, by rw [hcalls]; simp⟩
  · rintro ⟨rs, w₁, new, hr, hrun, hcalls⟩
    rw [LegacyL1ProcessFinalizedBridgeEvents, bind_ok _ (call_ok hr)]
    exact legacyL1FinalizeLoop_eq_ok_iff.2 ⟨new, hrun, by rw [hcalls]; simp⟩

variable {l1Contracts : L1Contracts} {fromHeight toHeight : Nat}
  {r : CrossDomainMessengerRelayedMessageEvent} {tx : Tx}

/-- **A nonce of `2^64` is skipped as pre-regenesis**: `Int64()` reads it as 0. -/
theorem LegacyL1ProcessFinalizedBridgeEvents_skips_wrapped_nonce
    (hrelayed : ∀ w, (db.CrossDomainMessengerRelayedMessageEvents "l1"
      l1Contracts.L1CrossDomainMessengerProxy fromHeight toHeight w).1 = .ok [r])
    (hm : ∀ w, (db.L2BridgeMessage r.MessageHash w).1 = .ok none)
    (htx : ∀ w, (l1Client.TxByHash r.Event.TransactionHash w).1 = .ok (some tx))
    (hlen : 4 ≤ tx.Data.length)
    (hdec : codec.UnpackRelayMessage (tx.Data.drop 4) = .ok ⟨2 ^ 64⟩) (e : Env W DbCall) :
    (LegacyL1ProcessFinalizedBridgeEvents codec db l1Client l1Contracts fromHeight toHeight
      e).1 = .ok () := by
  obtain ⟨w₁, hw⟩ : ∃ w₁, db.CrossDomainMessengerRelayedMessageEvents "l1"
      l1Contracts.L1CrossDomainMessengerProxy fromHeight toHeight e.world = (.ok [r], w₁) :=
    ⟨_, Prod.ext (hrelayed _) rfl⟩
  have hrun : FinalizedRun codec db l1Client [r] w₁ _ (skippedLog r ++ []) :=
    .cons (.skipped (Prod.ext (hm w₁) rfl) (Prod.ext (htx _) rfl) hlen hdec (by decide)) (.nil _)
  have hok : LegacyL1ProcessFinalizedBridgeEvents codec db l1Client l1Contracts fromHeight
      toHeight e = (.ok (), ⟨_, e.calls ++ _⟩) :=
    LegacyL1ProcessFinalizedBridgeEvents_eq_ok_iff.2 ⟨[r], w₁, _, hw, hrun, rfl⟩
  rw [hok]

/-- **Calldata shorter than a selector panics** at `tx.Data()[4:]`. -/
theorem LegacyL1ProcessFinalizedBridgeEvents_panics_on_short_calldata
    {rs : List CrossDomainMessengerRelayedMessageEvent}
    (hrelayed : ∀ w, (db.CrossDomainMessengerRelayedMessageEvents "l1"
      l1Contracts.L1CrossDomainMessengerProxy fromHeight toHeight w).1 = .ok (r :: rs))
    (hm : ∀ w, (db.L2BridgeMessage r.MessageHash w).1 = .ok none)
    (htx : ∀ w, (l1Client.TxByHash r.Event.TransactionHash w).1 = .ok (some tx))
    (hlen : tx.Data.length < 4) (e : Env W DbCall) :
    (LegacyL1ProcessFinalizedBridgeEvents codec db l1Client l1Contracts fromHeight toHeight
      e).1 = .panic ("runtime error: slice bounds out of range [" ++ toString 4 ++ ":" ++
        toString tx.Data.length ++ "]") := by
  rw [LegacyL1ProcessFinalizedBridgeEvents, bind_ok _ (call_ok (Prod.ext (hrelayed _) rfl)),
    legacyL1FinalizeLoop_unindexed (Prod.ext (hm _) rfl) (Prod.ext (htx _) rfl),
    bind_panic _ (sliceFrom_of_lt hlen _)]

/-- A relayed message of the transaction `0x01…01` that no L2 message was indexed for. -/
def exampleRelayed : CrossDomainMessengerRelayedMessageEvent :=
  ⟨⟨FixedBytes.fill 16 0, FixedBytes.fill 32 0, FixedBytes.fill 32 1, 0, 0⟩,
    FixedBytes.fill 32 2⟩

/-- A client whose every transaction has calldata `data`. -/
def calldataClient (data : List UInt8) : EthClient Unit := ⟨fun _ w => (.ok (some ⟨data⟩), w)⟩

/-- A codec decoding every `relayMessage` argument list to the nonce `2^64`. -/
def wrappedNonceCodec : Codec :=
  ⟨FixedBytes.fill 32 0, fun _ => .error "abi: cannot unmarshal", fun _ => FixedBytes.fill 32 0,
    fun _ => .ok ⟨2 ^ 64⟩⟩

theorem LegacyL1ProcessFinalizedBridgeEvents_skips_wrapped_nonce_example :
    (LegacyL1ProcessFinalizedBridgeEvents wrappedNonceCodec (.static [] [] [exampleRelayed] [])
      (calldataClient [0, 0, 0, 0]) ⟨FixedBytes.fill 20 0, FixedBytes.fill 20 0,
        FixedBytes.fill 20 0⟩ 0 0 ⟨(), []⟩).1 = .ok () :=
  LegacyL1ProcessFinalizedBridgeEvents_skips_wrapped_nonce (fun _ => rfl) (fun _ => rfl)
    (fun _ => rfl) (by decide) rfl _

theorem LegacyL1ProcessFinalizedBridgeEvents_panics_on_short_calldata_example :
    (LegacyL1ProcessFinalizedBridgeEvents wrappedNonceCodec (.static [] [] [exampleRelayed] [])
      (calldataClient []) ⟨FixedBytes.fill 20 0, FixedBytes.fill 20 0, FixedBytes.fill 20 0⟩
        0 0 ⟨(), []⟩).1 =
      .panic ("runtime error: slice bounds out of range [" ++ toString 4 ++ ":" ++
        toString 0 ++ "]") :=
  have htx : ∀ w, ((calldataClient []).TxByHash exampleRelayed.Event.TransactionHash w).1 =
      .ok (some ⟨[]⟩) := fun _ => rfl
  LegacyL1ProcessFinalizedBridgeEvents_panics_on_short_calldata (fun _ => rfl) (fun _ => rfl)
    htx (by decide) _

/-- **Which unindexed messages are skipped**, by the low 64 bits of the nonce. -/
theorem legacyL1FinalizeLoop_unindexed_nonce {rs : List CrossDomainMessengerRelayedMessageEvent}
    {e : Env W DbCall} {w₁ w₂ : W} {n : Nat}
    (hm : db.L2BridgeMessage r.MessageHash e.world = (.ok none, w₁))
    (htx : l1Client.TxByHash r.Event.TransactionHash w₁ = (.ok (some tx), w₂))
    (hlen : 4 ≤ tx.Data.length)
    (hdec : codec.UnpackRelayMessage (tx.Data.drop 4) = .ok ⟨n⟩) :
    legacyL1FinalizeLoop codec db l1Client (r :: rs) e =
      if n % 2 ^ 64 < 100000 ∨ 2 ^ 63 ≤ n % 2 ^ 64 then
        legacyL1FinalizeLoop codec db l1Client rs ⟨w₂, e.calls ++ skippedLog r⟩
      else (.error ("missing indexed L2CrossDomainMessenger message! tx_hash = " ++
        r.Event.TransactionHash.Hex), ⟨w₂, e.calls ++ skippedLog r⟩) := by
  rw [legacyL1FinalizeLoop_unindexed hm htx, bind_ok _ (sliceFrom_of_le hlen _),
    bind_ok _ (wrap_of_ok (by rw [hdec, lift_ok]))]
  by_cases hn : bigInt64 n < 100000
  · rw [if_pos hn, if_pos ((bigInt64_lt_iff (by norm_num)).1 hn)]
  · rw [if_neg hn, if_neg (mt (bigInt64_lt_iff (by norm_num)).2 hn)]
    rfl

theorem legacyL1FinalizeLoop_unindexed_nonce_wrapped :
    legacyL1FinalizeLoop wrappedNonceCodec (.static [] [] [exampleRelayed] [])
        (calldataClient [0, 0, 0, 0]) [exampleRelayed] ⟨(), []⟩ =
      if 2 ^ 64 % 2 ^ 64 < 100000 ∨ 2 ^ 63 ≤ 2 ^ 64 % 2 ^ 64 then
        legacyL1FinalizeLoop wrappedNonceCodec (.static [] [] [exampleRelayed] [])
          (calldataClient [0, 0, 0, 0]) [] ⟨(), [] ++ skippedLog exampleRelayed⟩
      else (.error ("missing indexed L2CrossDomainMessenger message! tx_hash = " ++
        exampleRelayed.Event.TransactionHash.Hex), ⟨(), [] ++ skippedLog exampleRelayed⟩) :=
  legacyL1FinalizeLoop_unindexed_nonce rfl rfl (by decide) rfl

end L1

/-! ## L2: L2CrossDomainMessenger -/

/-- The loop of `LegacyL2ProcessFinalizedBridgeEvents` over its relayed messages. -/
def legacyL2FinalizeLoop (db : Database W) :
    List CrossDomainMessengerRelayedMessageEvent → GoM W DbCall Unit
  | [] => pure ()
  | relayedMessage :: rest => do
    let message ← call (.L1BridgeMessage relayedMessage.MessageHash)
      (db.L1BridgeMessage relayedMessage.MessageHash)
    match message with
    | none => throw ("missing indexed L1CrossDomainMessager message! tx_hash = " ++
        relayedMessage.Event.TransactionHash.Hex)
    | some _ =>
      wrap "failed to relay cross domain message: "
        (call (.MarkRelayedL1BridgeMessage relayedMessage.MessageHash relayedMessage.Event.GUID)
          (db.MarkRelayedL1BridgeMessage relayedMessage.MessageHash relayedMessage.Event.GUID))
      legacyL2FinalizeLoop db rest

/-- `LegacyL2ProcessFinalizedBridgeEvents`, without its logging and metrics. -/
def LegacyL2ProcessFinalizedBridgeEvents (db : Database W) (l2Contracts : L2Contracts)
    (fromHeight toHeight : Nat) : GoM W DbCall Unit := do
  let crossDomainRelayedMessages ← call
    (.CrossDomainMessengerRelayedMessageEvents "l2" l2Contracts.L2CrossDomainMessenger
      fromHeight toHeight)
    (db.CrossDomainMessengerRelayedMessageEvents "l2" l2Contracts.L2CrossDomainMessenger
      fromHeight toHeight)
  legacyL2FinalizeLoop db crossDomainRelayedMessages

/-- The calls of one relayed message on L2. -/
def relayedLog (r : CrossDomainMessengerRelayedMessageEvent) : List DbCall :=
  [.L1BridgeMessage r.MessageHash, .MarkRelayedL1BridgeMessage r.MessageHash r.Event.GUID]

/-- The database's answers to the L2 loop, fixed: `indexed h` is the L1 message of `h`. -/
structure L1MessageLookups (db : Database W) (indexed : Hash → Option L1BridgeMessage) :
    Prop where
  lookup : ∀ h w, (db.L1BridgeMessage h w).1 = .ok (indexed h)
  mark : ∀ h g w, (db.MarkRelayedL1BridgeMessage h g w).1 = .ok ()

section L2

variable {db : Database W} {indexed : Hash → Option L1BridgeMessage}
  {r : CrossDomainMessengerRelayedMessageEvent} {rs : List CrossDomainMessengerRelayedMessageEvent}

theorem legacyL2FinalizeLoop_cons_indexed (hdb : L1MessageLookups db indexed)
    (hr : (indexed r.MessageHash).isSome) (rs : List CrossDomainMessengerRelayedMessageEvent)
    (e : Env W DbCall) :
    ∃ w, legacyL2FinalizeLoop db (r :: rs) e =
      legacyL2FinalizeLoop db rs ⟨w, e.calls ++ relayedLog r⟩ := by
  obtain ⟨m, hm⟩ := Option.isSome_iff_exists.1 hr
  have hc : ∀ w, (db.L1BridgeMessage r.MessageHash w).1 = .ok (some m) := fun w => by
    rw [hdb.lookup, hm]
  obtain ⟨w₁, h₁⟩ := Returns.call hc (.L1BridgeMessage r.MessageHash) e
  obtain ⟨w₂, h₂⟩ := Returns.wrap "failed to relay cross domain message: "
    (Returns.call (hdb.mark r.MessageHash r.Event.GUID)
      (.MarkRelayedL1BridgeMessage r.MessageHash r.Event.GUID))
    ⟨w₁, e.calls ++ [.L1BridgeMessage r.MessageHash]⟩
  refine ⟨w₂, ?_⟩
  rw [legacyL2FinalizeLoop, bind_ok _ h₁]
  dsimp only
  rw [bind_ok _ h₂]
  simp [relayedLog]

theorem legacyL2FinalizeLoop_returns (hdb : L1MessageLookups db indexed)
    (hall : ∀ r ∈ rs, (indexed r.MessageHash).isSome) :
    Returns (legacyL2FinalizeLoop db rs) () (rs.flatMap relayedLog) := by
  induction rs with
  | nil => exact Returns.pure ()
  | cons r rs ih =>
    intro e
    obtain ⟨w₁, h₁⟩ := legacyL2FinalizeLoop_cons_indexed hdb (hall r (List.mem_cons_self _ _)) rs e
    obtain ⟨w, h⟩ := ih (fun r' h' => hall r' (List.mem_cons_of_mem _ h')) ⟨w₁, _⟩
    exact ⟨w, by rw [h₁, h, List.flatMap_cons, List.append_assoc]⟩

theorem legacyL2FinalizeLoop_fails (hdb : L1MessageLookups db indexed)
    {pre post : List CrossDomainMessengerRelayedMessageEvent}
    (hpre : ∀ r ∈ pre, (indexed r.MessageHash).isSome) (hr : indexed r.MessageHash = none) :
    Fails (legacyL2FinalizeLoop db (pre ++ r :: post))
      ("missing indexed L1CrossDomainMessager message! tx_hash = " ++ r.Event.TransactionHash.Hex)
      (pre.flatMap relayedLog ++ [.L1BridgeMessage r.MessageHash]) := by
  induction pre with
  | nil =>
    intro e
    have hc : ∀ w, (db.L1BridgeMessage r.MessageHash w).1 = .ok none := fun w => by
      rw [hdb.lookup, hr]
    obtain ⟨w₁, h₁⟩ := Returns.call hc (.L1BridgeMessage r.MessageHash) e
    exact ⟨w₁, by rw [List.nil_append, legacyL2FinalizeLoop, bind_ok _ h₁]; rfl⟩
  | cons r' pre ih =>
    intro e
    obtain ⟨w₁, h₁⟩ := legacyL2FinalizeLoop_cons_indexed hdb (hpre r' (List.mem_cons_self _ _))
      (pre ++ r :: post) e
    obtain ⟨w, h⟩ := ih (fun r' h' => hpre r' (List.mem_cons_of_mem _ h')) ⟨w₁, _⟩
    exact ⟨w, by rw [List.cons_append, h₁, h, List.flatMap_cons, List.append_assoc,
      List.append_assoc]⟩

/-- **The L2 finalization tolerates no unindexed message.** -/
theorem LegacyL2ProcessFinalizedBridgeEvents_relays {l2Contracts : L2Contracts}
    {fromHeight toHeight : Nat}
    (hrelayed : ∀ w, (db.CrossDomainMessengerRelayedMessageEvents "l2"
      l2Contracts.L2CrossDomainMessenger fromHeight toHeight w).1 = .ok rs)
    (hdb : L1MessageLookups db indexed) :
    ((∀ r ∈ rs, (indexed r.MessageHash).isSome) →
      Returns (LegacyL2ProcessFinalizedBridgeEvents db l2Contracts fromHeight toHeight) ()
        (.CrossDomainMessengerRelayedMessageEvents "l2" l2Contracts.L2CrossDomainMessenger
          fromHeight toHeight :: rs.flatMap relayedLog)) ∧
    ∀ pre r post, rs = pre ++ r :: post → (∀ r' ∈ pre, (indexed r'.MessageHash).isSome) →
      indexed r.MessageHash = none →
      Fails (LegacyL2ProcessFinalizedBridgeEvents db l2Contracts fromHeight toHeight)
        ("missing indexed L1CrossDomainMessager message! tx_hash = " ++
          r.Event.TransactionHash.Hex)
        (.CrossDomainMessengerRelayedMessageEvents "l2" l2Contracts.L2CrossDomainMessenger
          fromHeight toHeight :: (pre.flatMap relayedLog ++ [.L1BridgeMessage r.MessageHash])) :=
  have hc := Returns.call hrelayed (DbCall.CrossDomainMessengerRelayedMessageEvents "l2"
    l2Contracts.L2CrossDomainMessenger fromHeight toHeight)
  ⟨fun hall => hc.bind (legacyL2FinalizeLoop_returns hdb hall), fun _ _ _ hrs hpre hr => by
    subst hrs
    exact hc.bind_fails (legacyL2FinalizeLoop_fails hdb hpre hr)⟩

/-- A relayed message of the transaction `0x01…01` whose L1 message is indexed. -/
def indexedRelayed : CrossDomainMessengerRelayedMessageEvent :=
  ⟨⟨FixedBytes.fill 16 0, FixedBytes.fill 32 0, FixedBytes.fill 32 1, 0, 0⟩,
    FixedBytes.fill 32 5⟩

/-- The L1 messages indexed: one, under `indexedRelayed`'s hash. -/
def indexedL1Messages (h : Hash) : Option L1BridgeMessage :=
  if h = FixedBytes.fill 32 5 then
    some ⟨⟨FixedBytes.fill 32 5, 0, 0, ⟨FixedBytes.fill 20 0, FixedBytes.fill 20 0, 0, [], 0⟩⟩,
      FixedBytes.fill 32 3⟩
  else none

/-- A database holding `indexedRelayed` and `exampleRelayed` on L2, only the first indexed. -/
def partlyIndexedDb : Database Unit :=
  { Database.static [] [] [indexedRelayed, exampleRelayed] [] with
    L1BridgeMessage := fun h w => (.ok (indexedL1Messages h), w) }

theorem LegacyL2ProcessFinalizedBridgeEvents_relays_unindexed :
    Fails (LegacyL2ProcessFinalizedBridgeEvents partlyIndexedDb
        ⟨FixedBytes.fill 20 0, FixedBytes.fill 20 0⟩ 0 0)
      ("missing indexed L1CrossDomainMessager message! tx_hash = " ++
        exampleRelayed.Event.TransactionHash.Hex)
      [.CrossDomainMessengerRelayedMessageEvents "l2" (FixedBytes.fill 20 0) 0 0,
        .L1BridgeMessage indexedRelayed.MessageHash,
        .MarkRelayedL1BridgeMessage indexedRelayed.MessageHash indexedRelayed.Event.GUID,
        .L1BridgeMessage exampleRelayed.MessageHash] :=
  (LegacyL2ProcessFinalizedBridgeEvents_relays (fun _ => rfl)
    ⟨fun _ _ => rfl, fun _ _ _ => rfl⟩).2 [indexedRelayed] exampleRelayed [] rfl
    (by simp [indexedL1Messages, indexedRelayed]) (by decide)

end L2

end Blast.Indexer

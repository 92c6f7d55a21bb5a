import Blast.Indexer.Database

/-!
# The event readers

The readers of the `contracts` package all have one shape: query the stored L1 logs of one
contract and event signature (`L1ContractEventsWithFilter`), then decode each log, returning
at the first log that does not decode. `readL1ContractEvents` is that shape, once;
`LegacyCTCDepositEvents` and the OptimismPortal readers apply it to their event and decoder,
the deposit reader after it checks the portal's `TransactionDeposited` ID against bl-node's.
-/

namespace Blast.Indexer

open Blast.GoM

variable {W : Type}

/-! ## The shape of a reader -/

/-- The shape of the `contracts` package's L1 event readers. -/
def readL1ContractEvents {β : Type} (eventID : Hash)
    (decode : L1ContractEvent → Except String β) (db : Database W) (contractAddress : Address)
    (fromHeight toHeight : Nat) :
    GoM W DbCall (List β) := do
  let contractEventFilter : ContractEventFilter := ⟨contractAddress, eventID⟩
  let events ← call (.L1ContractEventsWithFilter contractEventFilter fromHeight toHeight)
    (db.L1ContractEventsWithFilter contractEventFilter fromHeight toHeight)
  lift (events.mapM decode)

section Read

variable {β : Type} {eventID : Hash} {decode : L1ContractEvent → Except String β}
  {db : Database W} {contractAddress : Address} {fromHeight toHeight : Nat}

/-- A read whose logs all decode returns their decodings after its one query. -/
theorem readL1ContractEvents_returns {evs : List L1ContractEvent} {rows : List β}
    (hq : ∀ w, (db.L1ContractEventsWithFilter ⟨contractAddress, eventID⟩ fromHeight toHeight
      w).1 = .ok evs)
    (hdec : evs.mapM decode = .ok rows) :
    Returns (readL1ContractEvents eventID decode db contractAddress fromHeight toHeight) rows
      [.L1ContractEventsWithFilter ⟨contractAddress, eventID⟩ fromHeight toHeight] :=
  (Returns.call hq _).bind (Returns.lift hdec)

end Read

/-! ## `LegacyCTCDepositEvents` -/

/-- One `TransactionEnqueued` log as a deposit, of amount zero. -/
def ctcDepositEvent (codec : Codec) (ev : L1ContractEvent) :
    Except String LegacyCTCDepositEvent := do
  let txEnqueued ← codec.UnpackTransactionEnqueued ev.RLPLog
  pure
    { Event := ev.ContractEvent
      GasLimit := txEnqueued.GasLimit
      TxHash := codec.TxHash
        ⟨0, txEnqueued.Target, 0, bigUint64 txEnqueued.GasLimit, txEnqueued.Data⟩
      Tx := ⟨txEnqueued.L1TxOrigin, txEnqueued.Target, 0, txEnqueued.Data,
        ev.ContractEvent.Timestamp⟩ }

/-- `contracts.LegacyCTCDepositEvents`. -/
def LegacyCTCDepositEvents (codec : Codec) (db : Database W) (contractAddress : Address)
    (fromHeight toHeight : Nat) : GoM W DbCall (List LegacyCTCDepositEvent) :=
  readL1ContractEvents codec.TransactionEnqueuedID (ctcDepositEvent codec) db contractAddress
    fromHeight toHeight

/-! ## OptimismPortal -/

/-- `types.DepositTx`, the fields the reader reads: `Mint` is a `*big.Int` that may be nil. -/
structure DepositTx where
  Mint : Option Nat
  Gas : UInt64
  Data : List UInt8
  deriving DecidableEq, Repr

/-- `bindings.OptimismPortalTransactionDeposited`, the fields the reader reads. -/
structure OptimismPortalTransactionDeposited where
  From : Address
  To : Address
  deriving DecidableEq, Repr

structure OptimismPortalWithdrawalProven where
  WithdrawalHash : Hash
  From : Address
  To : Address
  deriving DecidableEq, Repr

structure OptimismPortalWithdrawalFinalized where
  WithdrawalHash : Hash
  Success : Bool
  deriving DecidableEq, Repr

structure OptimismPortalTransactionDepositEvent where
  Event : ContractEvent
  DepositTx : DepositTx
  Tx : Transaction
  GasLimit : Nat
  deriving DecidableEq, Repr

structure OptimismPortalWithdrawalProvenEvent where
  OptimismPortalWithdrawalProven : OptimismPortalWithdrawalProven
  Event : ContractEvent
  deriving DecidableEq, Repr

structure OptimismPortalWithdrawalFinalizedEvent where
  OptimismPortalWithdrawalFinalized : OptimismPortalWithdrawalFinalized
  Event : ContractEvent
  deriving DecidableEq, Repr

/-- What the OptimismPortal readers take from the contract bindings and bl-node, which this
repository does not contain. -/
structure PortalCodec where
  TransactionDepositedID : Hash
  DepositEventABIHash : Hash
  UnmarshalDepositLogEvent : List UInt8 → Except String DepositTx
  UnpackTransactionDeposited : List UInt8 → Except String OptimismPortalTransactionDeposited
  WithdrawalProvenID : Hash
  UnpackWithdrawalProven : List UInt8 → Except String OptimismPortalWithdrawalProven
  WithdrawalFinalizedID : Hash
  UnpackWithdrawalFinalized : List UInt8 → Except String OptimismPortalWithdrawalFinalized

/-- One `TransactionDeposited` log as a deposit, minting zero when `Mint` is nil. -/
def transactionDepositEvent (codec : PortalCodec) (ev : L1ContractEvent) :
    Except String OptimismPortalTransactionDepositEvent := do
  let depositTx ← codec.UnmarshalDepositLogEvent ev.RLPLog
  let txDeposit ← codec.UnpackTransactionDeposited ev.RLPLog
  let mint := depositTx.Mint.getD 0
  pure
    { Event := ev.ContractEvent
      DepositTx := depositTx
      GasLimit := depositTx.Gas.toNat
      Tx := ⟨txDeposit.From, txDeposit.To, mint, depositTx.Data, ev.ContractEvent.Timestamp⟩ }

/-- `contracts.OptimismPortalTransactionDepositEvents`. -/
def OptimismPortalTransactionDepositEvents (codec : PortalCodec) (db : Database W)
    (contractAddress : Address) (fromHeight toHeight : Nat) :
    GoM W DbCall (List OptimismPortalTransactionDepositEvent) :=
  if codec.TransactionDepositedID ≠ codec.DepositEventABIHash then
    throw "bl-node DepositEventABIHash & optimism portal TransactionDeposited ID mismatch"
  else
    readL1ContractEvents codec.TransactionDepositedID (transactionDepositEvent codec) db
      contractAddress fromHeight toHeight

/-- `contracts.OptimismPortalWithdrawalProvenEvents`. -/
def OptimismPortalWithdrawalProvenEvents (codec : PortalCodec) (db : Database W)
    (contractAddress : Address) (fromHeight toHeight : Nat) :
    GoM W DbCall (List OptimismPortalWithdrawalProvenEvent) :=
  readL1ContractEvents codec.WithdrawalProvenID
    (fun ev => do
      let withdrawalProven ← codec.UnpackWithdrawalProven ev.RLPLog
      pure ⟨withdrawalProven, ev.ContractEvent⟩)
    db contractAddress fromHeight toHeight

/-- `contracts.OptimismPortalWithdrawalFinalizedEvents`. -/
def OptimismPortalWithdrawalFinalizedEvents (codec : PortalCodec) (db : Database W)
    (contractAddress : Address) (fromHeight toHeight : Nat) :
    GoM W DbCall (List OptimismPortalWithdrawalFinalizedEvent) :=
  readL1ContractEvents codec.WithdrawalFinalizedID
    (fun ev => do
      let withdrawalFinalized ← codec.UnpackWithdrawalFinalized ev.RLPLog
      pure ⟨withdrawalFinalized, ev.ContractEvent⟩)
    db contractAddress fromHeight toHeight

end Blast.Indexer

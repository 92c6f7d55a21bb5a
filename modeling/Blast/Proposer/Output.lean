import Blast.Go.Call

/-!
# The next output to propose

`FetchNextOutputInfo` (`l2_output_submitter.go`) reads the L2OutputOracle's next block number
`N` and the rollup node's sync status, goes on only if the chosen L2 head is at least `N`,
and then `fetchOutput` checks the output at `N.Uint64()`: its version, its block number and
its readiness. `fetchNextOutputInfo_proposable` collects what a positive answer guarantees;
the head comparison bounds `N` below `2^64`, so `N.Uint64()` is exact.
-/

namespace Blast.Proposer

open Blast.GoM

/-- `eth.L1BlockRef` and `eth.L2BlockRef`, the fields the proposer reads. -/
structure BlockRef where
  Hash : Hash
  Number : UInt64
  deriving DecidableEq, Repr

/-- `eth.SyncStatus`, the heads the proposer reads. -/
structure SyncStatus where
  CurrentL1 : BlockRef
  HeadL1 : BlockRef
  SafeL2 : BlockRef
  FinalizedL2 : BlockRef
  deriving DecidableEq, Repr

/-- `eth.OutputResponse`, the fields the proposer reads. -/
structure OutputResponse where
  Version : Hash
  OutputRoot : Hash
  BlockRef : BlockRef
  Status : SyncStatus
  deriving DecidableEq, Repr

/-- `supportedL2OutputVersion`: the zero `eth.Bytes32`. -/
def supportedL2OutputVersion : Hash := FixedBytes.fill 32 0

/-- The arguments `proposeL2OutputTxData` packs into a `proposeL2Output` call. -/
structure ProposeL2Output where
  outputRoot : Hash
  l2BlockNumber : Nat
  l1BlockHash : Hash
  l1BlockNumber : Nat
  deriving DecidableEq, Repr

/-- `txmgr.TxCandidate`. -/
structure TxCandidate where
  TxData : ProposeL2Output
  To : Address
  GasLimit : UInt64
  deriving DecidableEq, Repr

/-- A collaborator call of the proposer; `select` chooses between the ticker and `done`. -/
inductive Call where
  | NextBlockNumber
  | SyncStatus
  | OutputAtBlock (block : UInt64)
  | BlockNumber
  | Send (candidate : TxCandidate)
  | select
  deriving DecidableEq, Repr

/-- Whether a call sends a transaction. -/
def Call.isSend : Call → Bool
  | .Send _ => true
  | _ => false

/-- The oracle, the rollup node, the transaction manager, and the scheduler of each `select`
(`true`: the ticker fired, `false`: `done` is closed). -/
structure Collaborators (W : Type) where
  NextBlockNumber : W → Except String Nat × W
  SyncStatus : W → Except String SyncStatus × W
  OutputAtBlock : UInt64 → W → Except String OutputResponse × W
  BlockNumber : W → Except String UInt64 × W
  Send : TxCandidate → W → Except String Unit × W
  ticked : W → Bool × W

/-- `L2OutputSubmitter`: the fields the proposal path reads. -/
structure L2OutputSubmitter (W : Type) where
  c : Collaborators W
  l2ooContractAddr : Address
  allowNonFinalized : Bool

variable {W : Type}

namespace L2OutputSubmitter

/-- `fetchOutput`. -/
def fetchOutput (l : L2OutputSubmitter W) (block : Nat) :
    GoM W Call (Option OutputResponse × Bool) := do
  let output ← call (.OutputAtBlock (bigUint64 block)) (l.c.OutputAtBlock (bigUint64 block))
  if output.Version ≠ supportedL2OutputVersion then throw "unsupported l2 output version"
  else if output.BlockRef.Number ≠ bigUint64 block then throw "invalid blockNumber"
  else if !(output.BlockRef.Number ≤ output.Status.FinalizedL2.Number ||
      (l.allowNonFinalized && output.BlockRef.Number ≤ output.Status.SafeL2.Number)) then
    pure (none, false)
  else pure (some output, true)

/-- `FetchNextOutputInfo`. -/
def FetchNextOutputInfo (l : L2OutputSubmitter W) :
    GoM W Call (Option OutputResponse × Bool) := do
  let nextCheckpointBlock ← call .NextBlockNumber l.c.NextBlockNumber
  let status ← call .SyncStatus l.c.SyncStatus
  let currentBlockNumber :=
    if l.allowNonFinalized then status.SafeL2.Number.toNat else status.FinalizedL2.Number.toNat
  if currentBlockNumber < nextCheckpointBlock then pure (none, false)
  else l.fetchOutput nextCheckpointBlock

theorem fetchOutput_logsOnly (l : L2OutputSubmitter W) (block : Nat) :
    LogsOnly (fun c => c.isSend = false) (l.fetchOutput block) :=
  .bind (.call (by rfl) _) fun _ => .ite (.throw _) (.ite (.throw _) (.ite (.pure _) (.pure _)))

theorem fetchNextOutputInfo_logsOnly (l : L2OutputSubmitter W) :
    LogsOnly (fun c => c.isSend = false) l.FetchNextOutputInfo :=
  .bind (.call (by rfl) _) fun _ => .bind (.call (by rfl) _) fun _ =>
    .ite (.pure _) (l.fetchOutput_logsOnly _)

/-! ## What a positive answer guarantees -/

/-- What holds of an output `O` answered against the oracle's `N` and the sync status `S`. -/
structure Proposable (allowNonFinalized : Bool) (N : Nat) (S : SyncStatus)
    (O : OutputResponse) : Prop where
  next_lt : N < 2 ^ 64
  number_eq : O.BlockRef.Number.toNat = N
  version_eq : O.Version = supportedL2OutputVersion
  next_le_head :
    N ≤ (if allowNonFinalized then S.SafeL2.Number else S.FinalizedL2.Number).toNat
  ready : O.BlockRef.Number ≤ O.Status.FinalizedL2.Number ∨
    (allowNonFinalized = true ∧ O.BlockRef.Number ≤ O.Status.SafeL2.Number)

theorem fetchOutput_eq_some {l : L2OutputSubmitter W} {block : Nat} {e e' : Env W Call}
    {O : OutputResponse} (h : l.fetchOutput block e = (.ok (some O, true), e')) :
    O.Version = supportedL2OutputVersion ∧ O.BlockRef.Number = bigUint64 block ∧
      (O.BlockRef.Number ≤ O.Status.FinalizedL2.Number ∨
        (l.allowNonFinalized = true ∧ O.BlockRef.Number ≤ O.Status.SafeL2.Number)) := by
  obtain ⟨O', e₁, -, k⟩ := bind_eq_ok h
  by_cases hv : O'.Version = supportedL2OutputVersion
  · by_cases hn : O'.BlockRef.Number = bigUint64 block
    · rw [if_neg (not_not.2 hv), if_neg (not_not.2 hn)] at k
      split at k
      · cases k
      · rename_i hb
        cases k
        exact ⟨hv, hn, by simpa [or_iff_not_imp_left] using hb⟩
    · simp [hv, hn] at k
  · simp [hv] at k

/-- **A positive answer is a checked output.** -/
theorem fetchNextOutputInfo_proposable {l : L2OutputSubmitter W} {e e' : Env W Call}
    {O : OutputResponse} (h : l.FetchNextOutputInfo e = (.ok (some O, true), e')) :
    ∃ N S w₁ w₂, l.c.NextBlockNumber e.world = (.ok N, w₁) ∧
      l.c.SyncStatus w₁ = (.ok S, w₂) ∧ Proposable l.allowNonFinalized N S O := by
  obtain ⟨N, e₁, h₁, k₁⟩ := bind_eq_ok h
  obtain ⟨w₁, hN, rfl⟩ := call_eq_ok h₁
  obtain ⟨S, e₂, h₂, k₂⟩ := bind_eq_ok k₁
  obtain ⟨w₂, hS, rfl⟩ := call_eq_ok h₂
  have hle : N ≤ (if l.allowNonFinalized then S.SafeL2.Number else S.FinalizedL2.Number).toNat := by
    by_contra hlt
    have hlt : (if l.allowNonFinalized then S.SafeL2.Number.toNat
        else S.FinalizedL2.Number.toNat) < N := by split <;> simp_all
    simp [hlt] at k₂
  have hlt : N < 2 ^ 64 := lt_of_le_of_lt hle (UInt64.toNat_lt _)
  have hnot : ¬ (if l.allowNonFinalized then S.SafeL2.Number.toNat
      else S.FinalizedL2.Number.toNat) < N := by split <;> simp_all
  simp only [hnot, if_false] at k₂
  obtain ⟨hv, hn, hr⟩ := fetchOutput_eq_some k₂
  refine ⟨N, S, w₁, w₂, hN, hS, hlt, ?_, hv, hle, hr⟩
  rw [hn, bigUint64_toNat_of_lt hlt]

end L2OutputSubmitter

end Blast.Proposer

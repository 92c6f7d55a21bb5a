import Blast.Proposer.Output

/-!
# The proposal loop

`loop` runs in its own goroutine: on each tick it asks `FetchNextOutputInfo` for an output,
and on a positive answer `sendTransaction` waits in `waitForL1Head` until the L1 head passes
the output's L1 head, then sends the proposal. `Loop` names the goroutine's program points
and `loopStep` goes from one to the next; every error ends the tick, as `loop`'s `break`s do.
`RunInv` is proved of every run from `loopStep_sendsOnly`: each transaction sent proposes an
output fetched, and so checked, earlier in the run.
-/

namespace Blast.Proposer

open Blast.GoM

variable {W : Type}

/-- The program point of the goroutine running `loop`. -/
inductive Loop where
  /-- At the `select` of `loop`. -/
  | select
  /-- In `waitForL1Head` for `output`, about to test `l1head <= blockNum`. -/
  | waitForL1Head (output : OutputResponse) (blockNum l1head : UInt64)
  /-- `loop` returned: `done` is closed. -/
  | stopped

namespace L2OutputSubmitter

/-- `proposeL2OutputTxData`. -/
def proposeL2OutputTxData (output : OutputResponse) : ProposeL2Output :=
  ⟨output.OutputRoot, output.BlockRef.Number.toNat, output.Status.CurrentL1.Hash,
    output.Status.CurrentL1.Number.toNat⟩

/-- The candidate `sendTransaction` hands to the transaction manager. -/
def proposalCandidate (l : L2OutputSubmitter W) (output : OutputResponse) : TxCandidate :=
  ⟨proposeL2OutputTxData output, l.l2ooContractAddr, 0⟩

/-- `sendTransaction` up to its wait: `waitForL1Head` first reads the L1 head. -/
def sendTransaction (l : L2OutputSubmitter W) (output : OutputResponse) (e : Env W Call) :
    Loop × Env W Call :=
  match e.call .BlockNumber l.c.BlockNumber with
  | (.ok l1head, e) => (.waitForL1Head output (output.Status.HeadL1.Number + 1) l1head, e)
  | (.error _, e) => (.select, e)

/-- One step of the goroutine running `loop`. -/
def loopStep (l : L2OutputSubmitter W) : Loop × Env W Call → Loop × Env W Call
  | (.select, e) =>
    match e.call .select l.c.ticked with
    | (false, e) => (.stopped, e)
    | (true, e) =>
      match l.FetchNextOutputInfo e with
      | (.ok (some output, true), e) => l.sendTransaction output e
      | (_, e) => (.select, e)
  | (.waitForL1Head output blockNum l1head, e) =>
    if l1head ≤ blockNum then
      match e.call .select l.c.ticked with
      | (true, e) =>
        match e.call .BlockNumber l.c.BlockNumber with
        | (.ok l1head, e) => (.waitForL1Head output blockNum l1head, e)
        | (.error _, e) => (.select, e)
      | (false, e) => (.select, e)
    else
      (.select, (e.call (.Send (l.proposalCandidate output))
        (l.c.Send (l.proposalCandidate output))).2)
  | (.stopped, e) => (.stopped, e)

/-- The goroutine after `n` steps. -/
def loopRun (l : L2OutputSubmitter W) (s : Loop × Env W Call) : Nat → Loop × Env W Call
  | 0 => s
  | n + 1 => l.loopStep (l.loopRun s n)

/-! ## The invariant -/

variable {l : L2OutputSubmitter W}

/-- `FetchNextOutputInfo` answered `O` in a tick of the run from `s` before step `n`. -/
def FetchedBefore (l : L2OutputSubmitter W) (s : Loop × Env W Call) (n : Nat)
    (O : OutputResponse) : Prop :=
  ∃ k < n, ∃ e₁ e₂, (l.loopRun s k).1 = .select ∧
    (l.loopRun s k).2.call .select l.c.ticked = (true, e₁) ∧
    l.FetchNextOutputInfo e₁ = (.ok (some O, true), e₂)

theorem FetchedBefore.succ {s : Loop × Env W Call} {n : Nat} {O : OutputResponse}
    (h : l.FetchedBefore s n O) : l.FetchedBefore s (n + 1) O :=
  let ⟨k, hk, rest⟩ := h
  ⟨k, Nat.lt_succ_of_lt hk, rest⟩

section Step

variable {P : OutputResponse → Prop}

/-- Calls that send only proposals of outputs satisfying `P`. -/
def SendsOnly (l : L2OutputSubmitter W) (P : OutputResponse → Prop) (new : List Call) : Prop :=
  ∀ tx, Call.Send tx ∈ new → ∃ O, P O ∧ tx = l.proposalCandidate O

theorem SendsOnly.append {new new' : List Call} (h : l.SendsOnly P new)
    (h' : l.SendsOnly P new') : l.SendsOnly P (new ++ new') := fun tx htx =>
  (List.mem_append.1 htx).elim (h tx) (h' tx)

theorem sendsOnly_of_noSend {new : List Call} (hn : ∀ c ∈ new, c.isSend = false) :
    l.SendsOnly P new := fun _ htx => absurd (hn _ htx) (by simp [Call.isSend])

theorem sendsOnly_call {α : Type} {e e' : Env W Call} {c : Call} {f : W → α × W} {a : α}
    (h : e.call c f = (a, e')) (hc : c.isSend = false) :
    e'.calls = e.calls ++ [c] ∧ l.SendsOnly P [c] :=
  ⟨Env.calls_of_call_eq h, sendsOnly_of_noSend (by simpa using hc)⟩

/-- **What one step can do**: send and wait only for outputs satisfying `P`. -/
theorem loopStep_sendsOnly (pc : Loop) (e : Env W Call)
    (hP : ∀ e₁ e₂ O, pc = .select → e.call .select l.c.ticked = (true, e₁) →
      l.FetchNextOutputInfo e₁ = (.ok (some O, true), e₂) → P O)
    (hw : ∀ O b h, pc = .waitForL1Head O b h → P O) :
    (∃ new, (l.loopStep (pc, e)).2.calls = e.calls ++ new ∧ l.SendsOnly P new) ∧
    ∀ O b h, (l.loopStep (pc, e)).1 = .waitForL1Head O b h → P O := by
  cases pc with
  | select =>
    simp only [loopStep]
    split <;> rename_i h₁ <;> obtain ⟨hn₁, hs₁⟩ := sendsOnly_call (P := P) h₁ rfl
    · exact ⟨⟨_, hn₁, hs₁⟩, by simp⟩
    obtain ⟨new₂, hn₂, hns⟩ := l.fetchNextOutputInfo_logsOnly _
    split <;> rename_i h₂ <;> rw [h₂] at hn₂ <;> dsimp only at hn₂
    · unfold sendTransaction
      split <;> rename_i h₃ <;> obtain ⟨hn₃, hs₃⟩ := sendsOnly_call (P := P) h₃ rfl <;>
        refine ⟨⟨_ ++ new₂ ++ _, by simp [hn₃, hn₂, hn₁], (hs₁.append
          (sendsOnly_of_noSend hns)).append hs₃⟩, ?_⟩
      · rintro O b h ⟨⟩; exact hP _ _ _ rfl h₁ h₂
      · simp
    · exact ⟨⟨_ ++ new₂, by rw [hn₂, hn₁, List.append_assoc],
        hs₁.append (sendsOnly_of_noSend hns)⟩, by simp⟩
  | waitForL1Head O b h =>
    have hO := hw O b h rfl
    simp only [loopStep]
    split
    · split <;> rename_i h₁ <;> obtain ⟨hn₁, hs₁⟩ := sendsOnly_call (P := P) h₁ rfl
      · split <;> rename_i h₂ <;> obtain ⟨hn₂, hs₂⟩ := sendsOnly_call (P := P) h₂ rfl <;>
          refine ⟨⟨_ ++ _, by rw [hn₂, hn₁, List.append_assoc], hs₁.append hs₂⟩, ?_⟩
        · rintro O' b' h' ⟨⟩; exact hO
        · simp
      · exact ⟨⟨_, hn₁, hs₁⟩, by simp⟩
    · refine ⟨⟨_, Env.calls_of_call_eq rfl, fun tx htx => ?_⟩, by simp⟩
      simp only [List.mem_singleton, Call.Send.injEq] at htx
      exact ⟨O, hO, htx⟩
  | stopped => exact ⟨⟨[], by simp [loopStep], by simp [SendsOnly]⟩, by simp [loopStep]⟩

end Step

/-- Every proposal sent, and the output waited for, was fetched earlier in the run. -/
structure RunInv (l : L2OutputSubmitter W) (s : Loop × Env W Call) (n : Nat) : Prop where
  sent : ∃ new, (l.loopRun s n).2.calls = s.2.calls ++ new ∧ l.SendsOnly (l.FetchedBefore s n) new
  waiting : ∀ O b h, (l.loopRun s n).1 = .waitForL1Head O b h → l.FetchedBefore s n O

theorem SendsOnly.mono {P Q : OutputResponse → Prop} {new : List Call} (h : l.SendsOnly P new)
    (hPQ : ∀ O, P O → Q O) : l.SendsOnly Q new := fun tx htx =>
  let ⟨O, hO, he⟩ := h tx htx
  ⟨O, hPQ O hO, he⟩

theorem runInv_succ {s : Loop × Env W Call} {n : Nat} (hi : l.RunInv s n) :
    l.RunInv s (n + 1) := by
  obtain ⟨⟨new, hn, hf⟩, hw⟩ := hi
  obtain ⟨⟨new', hn', hf'⟩, hw'⟩ := loopStep_sendsOnly (l := l) (P := l.FetchedBefore s (n + 1))
    (l.loopRun s n).1 (l.loopRun s n).2
    (fun e₁ e₂ O hpc h₁ h₂ => ⟨n, Nat.lt_succ_self n, e₁, e₂, hpc, h₁, h₂⟩)
    (fun O b h he => (hw O b h he).succ)
  refine ⟨⟨new ++ new', ?_, (hf.mono fun _ h => h.succ).append hf'⟩, hw'⟩
  rw [loopRun, hn', hn, List.append_assoc]

theorem runInv (s : Loop × Env W Call) (h₀ : ∀ O b h, s.1 ≠ .waitForL1Head O b h) (n : Nat) :
    l.RunInv s n := by
  induction n with
  | zero => exact ⟨⟨[], by simp [loopRun], by simp [SendsOnly]⟩,
      fun O b h he => absurd he (h₀ O b h)⟩
  | succ n ih => exact runInv_succ ih

/-- **Only checked outputs are proposed.** -/
theorem FetchNextOutputInfo_checked_proposals (l : L2OutputSubmitter W) :
    (∀ e e' O, l.FetchNextOutputInfo e = (.ok (some O, true), e') →
      ∃ N S w₁ w₂, l.c.NextBlockNumber e.world = (.ok N, w₁) ∧
        l.c.SyncStatus w₁ = (.ok S, w₂) ∧ Proposable l.allowNonFinalized N S O) ∧
    (∀ e n, ∃ new, (l.loopRun (.select, e) n).2.calls = e.calls ++ new ∧
      ∀ tx, Call.Send tx ∈ new → ∃ O, l.FetchedBefore (.select, e) n O ∧
        tx = l.proposalCandidate O ∧
        (l.allowNonFinalized = false → ∃ k < n, ∃ e₁ e₂ N S w₁ w₂,
          (l.loopRun (.select, e) k).2.call .select l.c.ticked = (true, e₁) ∧
          l.FetchNextOutputInfo e₁ = (.ok (some O, true), e₂) ∧
          l.c.NextBlockNumber e₁.world = (.ok N, w₁) ∧ l.c.SyncStatus w₁ = (.ok S, w₂) ∧
          tx.TxData.l2BlockNumber ≤ S.FinalizedL2.Number.toNat ∧
          tx.TxData.l2BlockNumber ≤ O.Status.FinalizedL2.Number.toNat)) := by
  refine ⟨fun e e' O h => fetchNextOutputInfo_proposable h, fun e n => ?_⟩
  obtain ⟨new, hn, hf⟩ := (runInv (l := l) (.select, e) (by simp) n).sent
  refine ⟨new, hn, fun tx htx => ?_⟩
  obtain ⟨O, hO, rfl⟩ := hf tx htx
  refine ⟨O, hO, rfl, fun ha => ?_⟩
  obtain ⟨k, hk, e₁, e₂, -, h₁, h₂⟩ := hO
  obtain ⟨N, S, w₁, w₂, hN, hS, hp⟩ := fetchNextOutputInfo_proposable h₂
  have hle := hp.next_le_head
  have hr := hp.ready
  simp only [ha, Bool.false_eq_true, if_false, false_and, or_false] at hle hr
  refine ⟨k, hk, e₁, e₂, N, S, w₁, w₂, h₁, h₂, hN, hS, ?_, hr⟩
  simp only [proposalCandidate, proposeL2OutputTxData]
  rw [hp.number_eq]
  exact hle

end L2OutputSubmitter

end Blast.Proposer

import Blast.Proposer.Loop

/-!
# Proposals and the waits before them

Two properties of every run of `loop`, under every behaviour of its collaborators. A step
sends only from a wait whose last L1 head read passed the waited output's L1 head plus one,
and then only that output's proposal (`loop_sends_after_l1_head`); and the waited output is
the answer of the fetch that began the wait, the loop having waited for it at every step
since (`loop_proposes_latest_fetch`). `WaitInv` carries both facts from step to step.
-/

namespace Blast.Proposer

open Blast.GoM

variable {W : Type}

namespace L2OutputSubmitter

variable {l : L2OutputSubmitter W}

/-- The last call of `e`'s log read the L1 head `h`, leaving the world as `e` has it. -/
def HeadRead (l : L2OutputSubmitter W) (e : Env W Call) (h : UInt64) : Prop :=
  (∃ pre, e.calls = pre ++ [.BlockNumber]) ∧ ∃ w, l.c.BlockNumber w = (.ok h, e.world)

theorem headRead_of_call {e e' : Env W Call} {h : UInt64}
    (hc : e.call .BlockNumber l.c.BlockNumber = (.ok h, e')) : l.HeadRead e' h :=
  ⟨⟨_, Env.calls_of_call_eq hc⟩, e.world,
    Prod.ext (congrArg Prod.fst hc :) (congrArg (·.2.world) hc :)⟩

/-- At step `j` of the run from `s` the ticker fired and `FetchNextOutputInfo` answered `O`. -/
def FetchedAt (l : L2OutputSubmitter W) (s : Loop × Env W Call) (j : Nat)
    (O : OutputResponse) : Prop :=
  (l.loopRun s j).1 = .select ∧ ∃ e₁ e₂, (l.loopRun s j).2.call .select l.c.ticked = (true, e₁) ∧
    l.FetchNextOutputInfo e₁ = (.ok (some O, true), e₂)

/-- The loop waits for `O` at every step after `j` up to `k`. -/
def WaitsFor (l : L2OutputSubmitter W) (s : Loop × Env W Call) (O : OutputResponse)
    (j k : Nat) : Prop :=
  ∀ i, j < i → i ≤ k → ∃ b h, (l.loopRun s i).1 = .waitForL1Head O b h

/-- A wait at step `k`: its block, its last head read, and the fetch it began at. -/
def WaitInv (l : L2OutputSubmitter W) (s : Loop × Env W Call) (k : Nat) : Prop :=
  ∀ O b h, (l.loopRun s k).1 = .waitForL1Head O b h →
    b = O.Status.HeadL1.Number + 1 ∧ l.HeadRead (l.loopRun s k).2 h ∧
      ∃ j < k, l.FetchedAt s j O ∧ l.WaitsFor s O j k

/-! ## Steps -/

theorem loopStep_stopped {st : Loop × Env W Call} (h : st.1 = .stopped) : l.loopStep st = st := by
  obtain ⟨pc, e⟩ := st
  cases h
  rfl

/-- A wait begins at a tick whose fetch answered its output, after a read of the head. -/
theorem loopStep_select_wait {st : Loop × Env W Call} {O : OutputResponse} {b h : UInt64}
    (hpc : st.1 = .select) (hs : (l.loopStep st).1 = .waitForL1Head O b h) :
    b = O.Status.HeadL1.Number + 1 ∧ l.HeadRead (l.loopStep st).2 h ∧ ∃ e₁ e₂,
      st.2.call .select l.c.ticked = (true, e₁) ∧
      l.FetchNextOutputInfo e₁ = (.ok (some O, true), e₂) := by
  obtain ⟨pc, e⟩ := st
  cases hpc
  revert hs
  simp only [loopStep]
  split <;> rename_i h₁
  · rintro ⟨⟩
  split
  · rename_i O' e₂ h₂
    unfold sendTransaction
    split <;> rename_i h₃
    · rintro ⟨⟩
      exact ⟨rfl, headRead_of_call h₃, _, _, h₁, h₂⟩
    · rintro ⟨⟩
  · rintro ⟨⟩

/-- A wait that goes on waits for the same output and block, with the head it read. -/
theorem loopStep_wait_wait {st : Loop × Env W Call} {O O' : OutputResponse} {b b' h h' : UInt64}
    (hpc : st.1 = .waitForL1Head O b h) (hs : (l.loopStep st).1 = .waitForL1Head O' b' h') :
    O' = O ∧ b' = b ∧ l.HeadRead (l.loopStep st).2 h' := by
  obtain ⟨pc, e⟩ := st
  cases hpc
  revert hs
  simp only [loopStep]
  split
  · split
    · split <;> rename_i h₂
      · rintro ⟨⟩
        exact ⟨rfl, rfl, headRead_of_call h₂⟩
      · rintro ⟨⟩
    · rintro ⟨⟩
  · rintro ⟨⟩

theorem sendTransaction_calls (O : OutputResponse) (e : Env W Call) :
    (l.sendTransaction O e).2.calls = e.calls ++ [.BlockNumber] := by
  unfold sendTransaction
  split <;> rename_i h <;> exact Env.calls_of_call_eq h

theorem loopStep_select_calls (e : Env W Call) :
    ∃ new, (l.loopStep (.select, e)).2.calls = e.calls ++ new ∧ ∀ c ∈ new, c.isSend = false := by
  simp only [loopStep]
  split <;> rename_i h₁
  · exact ⟨[.select], Env.calls_of_call_eq h₁, by decide⟩
  obtain ⟨new₂, hn₂, hns⟩ := l.fetchNextOutputInfo_logsOnly _
  have hsel : ∀ c ∈ .select :: new₂, c.isSend = false := List.forall_mem_cons.2 ⟨rfl, hns⟩
  split <;> rename_i h₂ <;> rw [h₂] at hn₂ <;> dsimp only at hn₂
  · refine ⟨.select :: new₂ ++ [.BlockNumber], ?_, List.forall_mem_append.2 ⟨hsel, by decide⟩⟩
    rw [sendTransaction_calls, hn₂, Env.calls_of_call_eq h₁]
    simp
  · exact ⟨.select :: new₂, by rw [hn₂, Env.calls_of_call_eq h₁]; simp, hsel⟩

/-- A step sends only the waited output's proposal, from a wait whose head has passed. -/
theorem loopStep_sends (st : Loop × Env W Call) :
    ∃ new, (l.loopStep st).2.calls = st.2.calls ++ new ∧ ∀ tx, Call.Send tx ∈ new →
      new = [.Send tx] ∧ ∃ O b h, st.1 = .waitForL1Head O b h ∧ ¬ h ≤ b ∧
        tx = l.proposalCandidate O := by
  obtain ⟨pc, e⟩ := st
  cases pc with
  | select =>
    obtain ⟨new, hn, hns⟩ := loopStep_select_calls (l := l) e
    exact ⟨new, hn, fun tx htx => absurd (hns _ htx) (by simp [Call.isSend])⟩
  | waitForL1Head O b h =>
    by_cases hle : h ≤ b
    · simp only [loopStep, if_pos hle]
      split <;> rename_i h₁
      · split <;> rename_i h₂ <;> exact ⟨[.select, .BlockNumber],
          by rw [Env.calls_of_call_eq h₂, Env.calls_of_call_eq h₁]; simp, fun _ h => by simp at h⟩
      · exact ⟨[.select], Env.calls_of_call_eq h₁, fun _ h => by simp at h⟩
    · simp only [loopStep, if_neg hle]
      refine ⟨[.Send (l.proposalCandidate O)], rfl, fun tx htx => ?_⟩
      obtain ⟨⟩ := List.mem_singleton.1 htx
      exact ⟨rfl, O, b, h, rfl, hle, rfl⟩
  | stopped => exact ⟨[], by simp [loopStep], by simp⟩

/-! ## Runs -/

theorem waitInv_succ {s : Loop × Env W Call} {k : Nat} (hi : l.WaitInv s k) :
    l.WaitInv s (k + 1) := by
  intro O b h hs
  rcases hpc : (l.loopRun s k).1 with _ | ⟨O₀, b₀, h₀⟩ | _
  · obtain ⟨hb, hr, e₁, e₂, h₁, h₂⟩ := loopStep_select_wait hpc hs
    refine ⟨hb, hr, k, Nat.lt_succ_self k, ⟨hpc, e₁, e₂, h₁, h₂⟩, fun i hi hi' => ?_⟩
    obtain rfl : i = k + 1 := by omega
    exact ⟨b, h, hs⟩
  · obtain ⟨rfl, rfl, hr⟩ := loopStep_wait_wait hpc hs
    obtain ⟨hb, -, j, hj, hf, hw⟩ := hi O b h₀ hpc
    refine ⟨hb, hr, j, by omega, hf, fun i hi hi' => ?_⟩
    rcases Nat.lt_or_ge i (k + 1) with hlt | hge
    · exact hw i hi (by omega)
    · obtain rfl : i = k + 1 := by omega
      exact ⟨_, _, hs⟩
  · have hst : l.loopRun s (k + 1) = l.loopRun s k := loopStep_stopped hpc
    rw [hst, hpc] at hs
    cases hs

theorem waitInv (e : Env W Call) : ∀ k, l.WaitInv (.select, e) k
  | 0 => fun _ _ _ hs => by cases hs
  | k + 1 => waitInv_succ (waitInv e k)

/-- **A proposal waits for the L1 head.** -/
theorem loop_sends_after_l1_head (l : L2OutputSubmitter W) (e : Env W Call) (k : Nat) :
    ∃ new, (l.loopRun (.select, e) (k + 1)).2.calls =
        (l.loopRun (.select, e) k).2.calls ++ new ∧
      ∀ tx, Call.Send tx ∈ new → new = [.Send tx] ∧ ∃ O h,
        (l.loopRun (.select, e) k).1 = .waitForL1Head O (O.Status.HeadL1.Number + 1) h ∧
        O.Status.HeadL1.Number + 1 < h ∧ l.HeadRead (l.loopRun (.select, e) k).2 h ∧
        tx = l.proposalCandidate O := by
  obtain ⟨new, hn, hs⟩ := loopStep_sends (l := l) (l.loopRun (.select, e) k)
  refine ⟨new, hn, fun tx htx => ?_⟩
  obtain ⟨hnew, O, b, h, hpc, hle, rfl⟩ := hs tx htx
  obtain ⟨rfl, hr, -⟩ := waitInv e k O b h hpc
  exact ⟨hnew, O, h, hpc, UInt64.not_le.1 hle, hr, rfl⟩

/-- **A proposal comes from the latest fetch.** -/
theorem loop_proposes_latest_fetch (l : L2OutputSubmitter W) (e : Env W Call) (k : Nat) :
    ∃ new, (l.loopRun (.select, e) (k + 1)).2.calls =
        (l.loopRun (.select, e) k).2.calls ++ new ∧
      ∀ tx, Call.Send tx ∈ new → ∃ j < k, ∃ O, l.FetchedAt (.select, e) j O ∧
        tx = l.proposalCandidate O ∧ l.WaitsFor (.select, e) O j k := by
  obtain ⟨new, hn, hs⟩ := loopStep_sends (l := l) (l.loopRun (.select, e) k)
  refine ⟨new, hn, fun tx htx => ?_⟩
  obtain ⟨-, O, b, h, hpc, -, rfl⟩ := hs tx htx
  obtain ⟨-, -, j, hj, hf, hw⟩ := waitInv e k O b h hpc
  exact ⟨j, hj, O, hf, rfl, hw⟩

end L2OutputSubmitter

end Blast.Proposer

import Blast.Go.Call

/-!
# The game player

`GamePlayer` (`player.go`) holds one dispute game: its act step, the contract reads it makes
after construction, and the cached status. `ProgressGame` acts and re-reads the status unless
the cached status is terminal, and `progressRun s n` makes `n` calls. The abstract model is
`Advances`, the spec's status order; every run follows it (`progressRun_advances`), and
`progressRun_status_monotone` adds what the calls return and that a terminal state is fixed.
-/

namespace Blast.Challenger

/-- Modelled from the spec: `gameTypes.GameStatus`, the status of a dispute game. -/
inductive GameStatus where
  | InProgress
  | ChallengerWon
  | DefenderWon
  deriving DecidableEq, Repr

/-- A collaborator call of the challenger's player code, in the order they are logged. -/
inductive Call where
  | act
  | GetStatus
  | GetClaimCount
  | GetMaxGameDepth
  | creator
  | validator
  | NewFaultResponder
  | NewAgent
  deriving DecidableEq, Repr

variable {W : Type}

/-- `actor`: the no-op act of a game resolved at construction, or an agent's `Act`. -/
inductive Actor (W : Type) where
  | noop
  | agent (Act : W → Except String Unit × W)

/-- Running an act step; the no-op returns `nil`. -/
def Actor.run : Actor W → W → Except String Unit × W
  | .noop, w => (.ok (), w)
  | .agent Act, w => Act w

/-- `GameInfo`: the reads of the game contract the player makes after construction. -/
structure GameInfo (W : Type) where
  GetStatus : W → Except String GameStatus × W
  GetClaimCount : W → Except String UInt64 × W

/-- `GamePlayer`, without the logger and `agreeWithProposedOutput` (a log field). -/
structure GamePlayer (W : Type) where
  act : Actor W
  loader : GameInfo W
  status : GameStatus

namespace GamePlayer

/-- `Status()`. -/
def Status (g : GamePlayer W) : GameStatus := g.status

/-- `logGameStatus`: an in-progress game's claim count is read for the log line. -/
def logGameStatus (g : GamePlayer W) (status : GameStatus) (e : Env W Call) : Env W Call :=
  if status = .InProgress then (e.call .GetClaimCount g.loader.GetClaimCount).2 else e

/-- `ProgressGame`: the returned status, and the player and environment after the call. -/
def ProgressGame (g : GamePlayer W) (e : Env W Call) :
    GameStatus × GamePlayer W × Env W Call :=
  if g.status ≠ .InProgress then (g.status, g, e)
  else
    let e := (e.call .act g.act.run).2
    match e.call .GetStatus g.loader.GetStatus with
    | (.error _, e) => (.InProgress, g, e)
    | (.ok status, e) => (status, { g with status := status }, g.logGameStatus status e)

theorem progressGame_of_terminal {g : GamePlayer W} (h : g.status ≠ .InProgress)
    (e : Env W Call) : g.ProgressGame e = (g.status, g, e) := by
  simp [ProgressGame, h]

theorem progressGame_of_inProgress {g : GamePlayer W} (h : g.status = .InProgress)
    (e : Env W Call) :
    g.ProgressGame e =
      match ((e.call .act g.act.run).2.call .GetStatus g.loader.GetStatus) with
      | (.error _, e) => (.InProgress, g, e)
      | (.ok status, e) => (status, { g with status := status }, g.logGameStatus status e) := by
  simp [ProgressGame, h]

theorem progressGame_fst (g : GamePlayer W) (e : Env W Call) :
    (g.ProgressGame e).1 = (g.ProgressGame e).2.1.Status := by
  by_cases h : g.status = .InProgress
  · rw [progressGame_of_inProgress h]
    split <;> simp [Status, h]
  · simp [progressGame_of_terminal h, Status]

theorem progressGame_of_read_error {g : GamePlayer W} {e e' : Env W Call} {m : String}
    (h : g.status = .InProgress)
    (hr : (e.call .act g.act.run).2.call .GetStatus g.loader.GetStatus = (.error m, e')) :
    g.ProgressGame e = (.InProgress, g, e') := by
  rw [progressGame_of_inProgress h, hr]

end GamePlayer

/-! ## Runs -/

/-- The spec's status order: `InProgress` may become anything, a terminal status itself. -/
def Advances (a b : GameStatus) : Prop := a = .InProgress ∨ a = b

theorem Advances.refl (a : GameStatus) : Advances a a := .inr rfl

theorem Advances.trans {a b c : GameStatus} (h₁ : Advances a b) (h₂ : Advances b c) :
    Advances a c := by
  rcases h₁ with h₁ | rfl
  · exact .inl h₁
  · exact h₂

theorem progressGame_advances (g : GamePlayer W) (e : Env W Call) :
    Advances g.Status (g.ProgressGame e).2.1.Status := by
  by_cases h : g.status = .InProgress
  · exact .inl h
  · rw [GamePlayer.progressGame_of_terminal h]; exact .refl _

/-- One `ProgressGame` call on a player and its environment. -/
def progressStep (s : GamePlayer W × Env W Call) : GameStatus × GamePlayer W × Env W Call :=
  s.1.ProgressGame s.2

/-- The player and its environment after `n` successive `ProgressGame` calls. -/
def progressRun (s : GamePlayer W × Env W Call) : Nat → GamePlayer W × Env W Call
  | 0 => s
  | n + 1 => (progressStep (progressRun s n)).2

theorem progressRun_succ (s : GamePlayer W × Env W Call) (n : Nat) :
    progressRun s (n + 1) = (progressStep (progressRun s n)).2 := rfl

theorem progressRun_advances (s : GamePlayer W × Env W Call) (k m : Nat) :
    Advances (progressRun s k).1.Status (progressRun s (k + m)).1.Status := by
  induction m with
  | zero => exact .refl _
  | succ m ih => exact ih.trans (progressGame_advances _ _)

theorem progressRun_of_terminal {s : GamePlayer W × Env W Call} {k : Nat}
    (h : (progressRun s k).1.Status ≠ .InProgress) (m : Nat) :
    progressRun s (k + m) = progressRun s k := by
  induction m with
  | zero => rfl
  | succ m ih =>
    rw [← Nat.add_assoc, progressRun_succ, ih, progressStep,
      GamePlayer.progressGame_of_terminal h]

/-- **Monotonic status**, under every behaviour of the act step and the loader. -/
theorem progressRun_status_monotone (s : GamePlayer W × Env W Call) (k : Nat) :
    (∀ m, Advances (progressRun s k).1.Status (progressRun s (k + m)).1.Status) ∧
    (progressStep (progressRun s k)).1 = (progressRun s (k + 1)).1.Status ∧
    (∀ msg e', (progressRun s k).1.Status = .InProgress →
      ((progressRun s k).2.call .act (progressRun s k).1.act.run).2.call .GetStatus
          (progressRun s k).1.loader.GetStatus = (.error msg, e') →
        progressStep (progressRun s k) = (.InProgress, (progressRun s k).1, e')) ∧
    ((progressRun s k).1.Status ≠ .InProgress → ∀ m,
      progressRun s (k + m) = progressRun s k ∧
      (progressStep (progressRun s (k + m))).1 = (progressRun s k).1.Status) := by
  refine ⟨progressRun_advances s k, GamePlayer.progressGame_fst _ _,
    fun _ _ h hr => GamePlayer.progressGame_of_read_error h hr,
    fun h m => ⟨progressRun_of_terminal h m, ?_⟩⟩
  rw [progressRun_of_terminal h m, progressStep, GamePlayer.progressGame_of_terminal h]
  rfl

end Blast.Challenger

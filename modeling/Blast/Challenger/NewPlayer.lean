import Blast.Challenger.Player

/-!
# Constructing a player: the prestate gate

`NewGamePlayer` reads the game's status. A resolved game gets the no-op act step; an
in-progress game has its depth read, its trace accessor and validator built, the validator
run, and only then its responder and agent built. With `ValidateAbsolutePrestate` as the
validator, `NewGamePlayer_prestate_gate` says no player that can move exists for a game
whose absolute prestate does not match the local one.
-/

namespace Blast.Challenger

open Blast.GoM

variable {W A R : Type}

/-- `PrestateLoader`. -/
structure PrestateLoader (W : Type) where
  GetAbsolutePrestateHash : W → Except String Hash × W

/-- `types.TraceProvider`, as far as the prestate check reads it. -/
structure TraceProvider (W : Type) where
  AbsolutePreStateCommitment : W → Except String Hash × W

/-- `contracts.FaultDisputeGameContract`: the reads of the game contract. -/
structure FaultDisputeGameContract (W : Type) extends GameInfo W, PrestateLoader W where
  GetMaxGameDepth : W → Except String UInt64 × W

/-- `gameValidator`. -/
abbrev GameValidator (W : Type) := FaultDisputeGameContract W → W → Except String Unit × W

/-- `resourceCreator`, with the trace accessor's type `A` left open. -/
abbrev ResourceCreator (W A : Type) :=
  Address → FaultDisputeGameContract W → UInt64 → String → W →
    Except String (A × GameValidator W) × W

/-- The constructors `NewGamePlayer` calls: contract wrapper, responder and agent. -/
structure Builders (W A R : Type) where
  NewFaultDisputeGameContract : Address → Except String (FaultDisputeGameContract W)
  NewFaultResponder : FaultDisputeGameContract W → Except String R
  NewAgent : FaultDisputeGameContract W → Int → A → R → Bool → W → Except String Unit × W

/-- `ValidateAbsolutePrestate`. -/
def ValidateAbsolutePrestate (trace : TraceProvider W) (loader : PrestateLoader W) (w : W) :
    Except String Unit × W :=
  match trace.AbsolutePreStateCommitment w with
  | (.error err, w) => (.error ("failed to get the trace provider's absolute prestate: " ++ err), w)
  | (.ok providerPrestateHash, w) =>
    match loader.GetAbsolutePrestateHash w with
    | (.error err, w) => (.error ("failed to get the onchain absolute prestate: " ++ err), w)
    | (.ok onchainPrestate, w) =>
      if !bytesEqual providerPrestateHash onchainPrestate then
        (.error ("trace provider's absolute prestate does not match onchain absolute " ++
          "prestate: Provider: " ++ providerPrestateHash.Hex ++ " | Chain " ++
          onchainPrestate.Hex), w)
      else (.ok (), w)

/-- `NewGamePlayer`. -/
def NewGamePlayer (b : Builders W A R) (agreeWithProposedOutput : Bool) (dir : String)
    (addr : Address) (creator : ResourceCreator W A) : GoM W Call (GamePlayer W) := do
  let loader ← wrap "failed to create fault dispute game contract wrapper: "
    (lift (b.NewFaultDisputeGameContract addr))
  let status ← wrap "failed to fetch game status: " (call .GetStatus loader.GetStatus)
  if status ≠ .InProgress then
    pure { act := .noop, loader := loader.toGameInfo, status := status }
  else do
    let gameDepth ← wrap "failed to fetch the game depth: "
      (call .GetMaxGameDepth loader.GetMaxGameDepth)
    let (accessor, validator) ← wrap "failed to create trace accessor: "
      (call .creator (creator addr loader gameDepth dir))
    wrap "failed to validate absolute prestate: " (call .validator (validator loader))
    let responder ← wrap "failed to create the responder: "
      (call .NewFaultResponder fun w => (b.NewFaultResponder loader, w))
    let act := b.NewAgent loader (bigInt64 gameDepth.toNat) accessor responder
      agreeWithProposedOutput
    call .NewAgent fun w => (.ok (), w)
    pure { act := .agent act, loader := loader.toGameInfo, status := status }

/-! ## The prestate check -/

/-- Both prestate reads succeed from `w`, the provider's first, and the hashes are equal. -/
def PrestateAgrees (trace : TraceProvider W) (loader : PrestateLoader W) (w : W) : Prop :=
  ∃ p w', trace.AbsolutePreStateCommitment w = (.ok p, w') ∧
    (loader.GetAbsolutePrestateHash w').1 = .ok p

theorem validateAbsolutePrestate_ok_iff (trace : TraceProvider W) (loader : PrestateLoader W)
    (w : W) : (ValidateAbsolutePrestate trace loader w).1 = .ok () ↔
      PrestateAgrees trace loader w := by
  unfold ValidateAbsolutePrestate PrestateAgrees
  rcases trace.AbsolutePreStateCommitment w with ⟨_ | p, w'⟩
  · simp
  rcases hl : loader.GetAbsolutePrestateHash w' with ⟨_ | o, w''⟩
  · simp [hl]
  by_cases hpo : p = o
  · simp [hl, hpo, and_assoc]
  · simp [hl, hpo, Ne.symm hpo, and_assoc]

/-! ## Construction -/

section Construction

variable (b : Builders W A R) (agree : Bool) (dir : String) (addr : Address)
  (creator : ResourceCreator W A)

/-- `NewGamePlayer` from `e` reaches its validator `v`, on `loader`, at world `w`. -/
def ReachesValidator (e : Env W Call) (loader : FaultDisputeGameContract W)
    (v : GameValidator W) (w : W) : Prop :=
  b.NewFaultDisputeGameContract addr = .ok loader ∧
  ∃ w₁ depth w₂ accessor, loader.GetStatus e.world = (.ok .InProgress, w₁) ∧
    loader.GetMaxGameDepth w₁ = (.ok depth, w₂) ∧
    creator addr loader depth dir w₂ = (.ok (accessor, v), w)

variable {b agree dir addr creator}

theorem newGamePlayer_rejects {e : Env W Call} {loader : FaultDisputeGameContract W}
    {v : GameValidator W} {w w' : W} {m : String}
    (h : ReachesValidator b dir addr creator e loader v w) (hv : v loader w = (.error m, w')) :
    NewGamePlayer b agree dir addr creator e =
      (.error ("failed to validate absolute prestate: " ++ m),
        ⟨w', e.calls ++ [.GetStatus, .GetMaxGameDepth, .creator, .validator]⟩) := by
  obtain ⟨hl, w₁, depth, w₂, accessor, hs, hd, hc⟩ := h
  simp [NewGamePlayer, bind_apply, GoM.bind, wrap, hl, call_apply, hs, hd, hc, hv]

theorem newGamePlayer_ok_cases {e e' : Env W Call} {g : GamePlayer W}
    (h : NewGamePlayer b agree dir addr creator e = (.ok g, e')) :
    (g.status ≠ .InProgress ∧ g.act = .noop) ∨
    (g.status = .InProgress ∧ ∃ loader v w, ReachesValidator b dir addr creator e loader v w ∧
      (v loader w).1 = .ok () ∧ e'.calls = e.calls ++ [.GetStatus, .GetMaxGameDepth, .creator,
        .validator, .NewFaultResponder, .NewAgent]) := by
  obtain ⟨loader, e₁, h₁, k₁⟩ := bind_eq_ok h
  obtain ⟨hl, rfl⟩ := lift_eq_ok (wrap_eq_ok.1 h₁)
  obtain ⟨status, e₂, h₂, k₂⟩ := bind_eq_ok k₁
  obtain ⟨w₁, hs, rfl⟩ := call_eq_ok (wrap_eq_ok.1 h₂)
  by_cases hst : status = .InProgress
  · subst hst
    simp only [ne_eq, not_true_eq_false, if_false] at k₂
    obtain ⟨depth, e₃, h₃, k₃⟩ := bind_eq_ok k₂
    obtain ⟨w₂, hd, rfl⟩ := call_eq_ok (wrap_eq_ok.1 h₃)
    obtain ⟨⟨accessor, v⟩, e₄, h₄, k₄⟩ := bind_eq_ok k₃
    obtain ⟨w₃, hc, rfl⟩ := call_eq_ok (wrap_eq_ok.1 h₄)
    obtain ⟨_, e₅, h₅, k₅⟩ := bind_eq_ok k₄
    obtain ⟨w₄, hv, rfl⟩ := call_eq_ok (wrap_eq_ok.1 h₅)
    obtain ⟨_, e₆, h₆, k₆⟩ := bind_eq_ok k₅
    obtain ⟨w₅, -, rfl⟩ := call_eq_ok (wrap_eq_ok.1 h₆)
    obtain ⟨_, e₇, h₇, k₇⟩ := bind_eq_ok k₆
    obtain ⟨w₆, -, rfl⟩ := call_eq_ok h₇
    cases k₇
    simp only at hv
    exact .inr ⟨rfl, loader, v, w₃, ⟨hl, w₁, depth, w₂, accessor, hs, hd, hc⟩, by rw [hv],
      by simp⟩
  · simp only [ne_eq, hst, not_false_eq_true, if_true, pure_apply, Prod.mk.injEq,
      Ret.ok.injEq] at k₂
    obtain ⟨rfl, -⟩ := k₂
    exact .inl ⟨hst, rfl⟩

/-- Every validator the creator builds is `ValidateAbsolutePrestate` of some provider. -/
def ValidatesPrestate (creator : ResourceCreator W A) : Prop :=
  ∀ addr loader depth dir w accessor v w',
    creator addr loader depth dir w = (.ok (accessor, v), w') →
      ∃ trace : TraceProvider W, v = fun c => ValidateAbsolutePrestate trace c.toPrestateLoader

variable (b agree dir addr creator) in
/-- The spec's prestate gate, for one construction from `e`. -/
structure PrestateGate (e : Env W Call) : Prop where
  /-- An in-progress player exists only after its validator passed. -/
  validated : ∀ g e', NewGamePlayer b agree dir addr creator e = (.ok g, e') →
    g.status = .InProgress → ∃ loader v w, ReachesValidator b dir addr creator e loader v w ∧
      (v loader w).1 = .ok () ∧ e'.calls = e.calls ++ [.GetStatus, .GetMaxGameDepth, .creator,
        .validator, .NewFaultResponder, .NewAgent]
  /-- With prestate-checking validators, both prestates were read and agreed. -/
  acting : ValidatesPrestate creator → ∀ g e', NewGamePlayer b agree dir addr creator e =
      (.ok g, e') → g.status = .InProgress → ∃ loader trace w,
    ReachesValidator b dir addr creator e loader
      (fun c => ValidateAbsolutePrestate trace c.toPrestateLoader) w ∧
    PrestateAgrees trace loader.toPrestateLoader w ∧ e'.calls = e.calls ++ [.GetStatus,
      .GetMaxGameDepth, .creator, .validator, .NewFaultResponder, .NewAgent]
  /-- A failed or disagreeing prestate read ends construction before the responder. -/
  rejects : ∀ loader trace w, ReachesValidator b dir addr creator e loader
      (fun c => ValidateAbsolutePrestate trace c.toPrestateLoader) w →
    ¬ PrestateAgrees trace loader.toPrestateLoader w → ∃ m,
      NewGamePlayer b agree dir addr creator e =
        (.error ("failed to validate absolute prestate: " ++ m),
          ⟨(ValidateAbsolutePrestate trace loader.toPrestateLoader w).2,
            e.calls ++ [.GetStatus, .GetMaxGameDepth, .creator, .validator]⟩)
  /-- A resolved game's player has the no-op act step, which `ProgressGame` never runs. -/
  resolved : ∀ g e', NewGamePlayer b agree dir addr creator e = (.ok g, e') →
    g.status ≠ .InProgress → g.act = .noop ∧ ∀ e₁, g.ProgressGame e₁ = (g.status, g, e₁)

/-- **The prestate gate.** -/
theorem NewGamePlayer_prestate_gate (e : Env W Call) :
    PrestateGate b agree dir addr creator e where
  validated g e' h hg := by
    rcases newGamePlayer_ok_cases h with ⟨hg', -⟩ | ⟨-, hv⟩
    · exact absurd hg hg'
    · exact hv
  acting hc g e' h hg := by
    rcases newGamePlayer_ok_cases h with ⟨hg', -⟩ | ⟨-, loader, v, w, hr, hv, hcalls⟩
    · exact absurd hg hg'
    obtain ⟨_, _, _, _, -, -, hcr⟩ := hr.2
    obtain ⟨trace, rfl⟩ := hc _ _ _ _ _ _ _ _ hcr
    exact ⟨loader, trace, w, hr, (validateAbsolutePrestate_ok_iff _ _ _).1 hv, hcalls⟩
  rejects loader trace w hr hn := by
    rcases hv : ValidateAbsolutePrestate trace loader.toPrestateLoader w with ⟨m | _, w'⟩
    · exact ⟨m, newGamePlayer_rejects hr hv⟩
    · exact absurd ((validateAbsolutePrestate_ok_iff _ _ _).1 (by rw [hv])) hn
  resolved g e' h hg := by
    rcases newGamePlayer_ok_cases h with ⟨-, hact⟩ | ⟨hg', -⟩
    · exact ⟨hact, GamePlayer.progressGame_of_terminal hg⟩
    · exact absurd hg' hg

/-- A trace provider whose absolute prestate is the zero hash. -/
def zeroPrestateTrace : TraceProvider Unit := ⟨fun w => (.ok (FixedBytes.fill 32 0), w)⟩

/-- A creator whose validator checks `zeroPrestateTrace` against the contract. -/
def zeroPrestateCreator : ResourceCreator Unit Unit := fun _ _ _ _ w =>
  (.ok ((), fun c => ValidateAbsolutePrestate zeroPrestateTrace c.toPrestateLoader), w)

/-- An in-progress game of depth 4 whose on-chain prestate is the zero hash. -/
def zeroPrestateBuilders : Builders Unit Unit Unit where
  NewFaultDisputeGameContract _ := .ok
    { GetStatus := fun w => (.ok .InProgress, w)
      GetClaimCount := fun w => (.ok 1, w)
      GetAbsolutePrestateHash := fun w => (.ok (FixedBytes.fill 32 0), w)
      GetMaxGameDepth := fun w => (.ok 4, w) }
  NewFaultResponder _ := .ok ()
  NewAgent _ _ _ _ _ w := (.ok (), w)

theorem NewGamePlayer_prestate_gate_zero :
    ValidatesPrestate zeroPrestateCreator ∧
      PrestateGate zeroPrestateBuilders false "" (FixedBytes.fill 20 0) zeroPrestateCreator
        ⟨(), []⟩ :=
  have hc : ValidatesPrestate zeroPrestateCreator := by
    intro _ _ _ _ _ _ _ _ h
    cases h
    exact ⟨zeroPrestateTrace, rfl⟩
  ⟨hc, NewGamePlayer_prestate_gate _⟩

end Construction

end Blast.Challenger

import Blast.Go.Types

/-!
# Go calls against collaborators

A collaborator the repository does not contain (an RPC client, a contract binding, the
indexer's database) is an answer function `W → α × W` on a world the model never inspects,
so every theorem holds for every behaviour of it. `GoM W C α` is a Go function returning
`(α, error)` against such collaborators: it ends `.ok`, `.error` or `.panic`, with the
environment (world and call log) as it left it, so calls made before a failure stay.
-/

namespace Blast

/-- How a Go call ends: with its results, with a non-nil `error`, or in a runtime panic. -/
inductive Ret (α : Type) where
  | ok (a : α)
  | error (msg : String)
  | panic (msg : String)
  deriving DecidableEq, Repr

/-- The collaborators' world, and the calls made to them, oldest first. -/
structure Env (W C : Type) where
  world : W
  calls : List C

namespace Env

variable {W C α : Type}

/-- Call collaborator `c`: its answer `f` reads the world and may change it. -/
def call (e : Env W C) (c : C) (f : W → α × W) : α × Env W C :=
  ((f e.world).1, ⟨(f e.world).2, e.calls ++ [c]⟩)

@[simp] theorem call_fst (e : Env W C) (c : C) (f : W → α × W) :
    (e.call c f).1 = (f e.world).1 := rfl

@[simp] theorem call_world (e : Env W C) (c : C) (f : W → α × W) :
    (e.call c f).2.world = (f e.world).2 := rfl

@[simp] theorem call_calls (e : Env W C) (c : C) (f : W → α × W) :
    (e.call c f).2.calls = e.calls ++ [c] := rfl

theorem calls_of_call_eq {e e' : Env W C} {c : C} {f : W → α × W} {a : α}
    (h : e.call c f = (a, e')) : e'.calls = e.calls ++ [c] := by
  rw [← call_calls e c f, h]

end Env

/-- A Go function returning `(α, error)`, run against its collaborators. -/
def GoM (W C α : Type) : Type := Env W C → Ret α × Env W C

namespace GoM

variable {W C α β : Type}

protected def pure (a : α) : GoM W C α := fun e => (.ok a, e)

protected def bind (x : GoM W C α) (f : α → GoM W C β) : GoM W C β := fun e =>
  match x e with
  | (.ok a, e) => f a e
  | (.error m, e) => (.error m, e)
  | (.panic m, e) => (.panic m, e)

instance : Monad (GoM W C) where
  pure := GoM.pure
  bind := GoM.bind

/-- `return errors.New(msg)`. -/
def throw (msg : String) : GoM W C α := fun e => (.error msg, e)

/-- Call collaborator `c`, whose answer is Go's `(value, error)`. -/
def call (c : C) (f : W → Except String α × W) : GoM W C α := fun e =>
  match e.call c f with
  | (.ok a, e) => (.ok a, e)
  | (.error m, e) => (.error m, e)

/-- Code that calls no collaborator and returns `(value, error)`. -/
def lift (r : Except String α) : GoM W C α := fun e =>
  match r with
  | .ok a => (.ok a, e)
  | .error m => (.error m, e)

/-- `fmt.Errorf(pre + "%w", err)` around the error of `x`. -/
def wrap (pre : String) (x : GoM W C α) : GoM W C α := fun e =>
  match x e with
  | (.error m, e) => (.error (pre ++ m), e)
  | r => r

/-- `s[i:]`, which panics when `i` is past the end of `s`. -/
def sliceFrom (s : List α) (i : Nat) : GoM W C (List α) := fun e =>
  if i ≤ s.length then (.ok (s.drop i), e)
  else (.panic ("runtime error: slice bounds out of range [" ++ toString i ++ ":" ++
    toString s.length ++ "]"), e)

/-! ## Evaluation lemmas -/

@[simp] theorem pure_apply (a : α) (e : Env W C) : (pure a : GoM W C α) e = (.ok a, e) := rfl

theorem bind_apply (x : GoM W C α) (f : α → GoM W C β) (e : Env W C) :
    (x >>= f) e = GoM.bind x f e := rfl

theorem bind_ok {x : GoM W C α} {e e' : Env W C} {a : α} (f : α → GoM W C β)
    (h : x e = (.ok a, e')) : (x >>= f) e = f a e' := by
  simp only [bind_apply, GoM.bind, h]

theorem bind_error {x : GoM W C α} {e e' : Env W C} {m : String} (f : α → GoM W C β)
    (h : x e = (.error m, e')) : (x >>= f) e = (.error m, e') := by
  simp only [bind_apply, GoM.bind, h]

theorem bind_panic {x : GoM W C α} {e e' : Env W C} {m : String} (f : α → GoM W C β)
    (h : x e = (.panic m, e')) : (x >>= f) e = (.panic m, e') := by
  simp only [bind_apply, GoM.bind, h]

theorem bind_eq_ok {x : GoM W C α} {f : α → GoM W C β} {e e' : Env W C} {b : β}
    (h : (x >>= f) e = (.ok b, e')) : ∃ a e₁, x e = (.ok a, e₁) ∧ f a e₁ = (.ok b, e') := by
  rw [bind_apply, GoM.bind] at h
  split at h
  · exact ⟨_, _, ‹_›, h⟩
  all_goals cases h

@[simp] theorem throw_apply (msg : String) (e : Env W C) :
    (throw msg : GoM W C α) e = (.error msg, e) := rfl

theorem call_apply (c : C) (f : W → Except String α × W) (e : Env W C) :
    call c f e = ((match (f e.world).1 with | .ok a => .ok a | .error m => .error m),
      ⟨(f e.world).2, e.calls ++ [c]⟩) := by
  unfold call Env.call; split <;> simp_all

theorem call_ok {c : C} {f : W → Except String α × W} {e : Env W C} {a : α} {w : W}
    (h : f e.world = (.ok a, w)) : call c f e = (.ok a, ⟨w, e.calls ++ [c]⟩) := by
  simp [call_apply, h]

theorem call_error {c : C} {f : W → Except String α × W} {e : Env W C} {m : String} {w : W}
    (h : f e.world = (.error m, w)) : call c f e = (.error m, ⟨w, e.calls ++ [c]⟩) := by
  simp [call_apply, h]

theorem call_eq_ok {c : C} {f : W → Except String α × W} {e e' : Env W C} {a : α}
    (h : call c f e = (.ok a, e')) : ∃ w, f e.world = (.ok a, w) ∧ e' = ⟨w, e.calls ++ [c]⟩ := by
  rcases hf : f e.world with ⟨_ | a', w⟩
  · simp [call_error hf] at h
  · rw [call_ok hf] at h
    cases h
    exact ⟨w, rfl, rfl⟩

@[simp] theorem lift_ok (a : α) (e : Env W C) : (lift (.ok a) : GoM W C α) e = (.ok a, e) := rfl

@[simp] theorem lift_error (m : String) (e : Env W C) :
    (lift (.error m) : GoM W C α) e = (.error m, e) := rfl

theorem lift_eq_ok {r : Except String α} {e e' : Env W C} {a : α}
    (h : (lift r : GoM W C α) e = (.ok a, e')) : r = .ok a ∧ e' = e := by
  cases r <;> simp_all

theorem wrap_eq_ok {pre : String} {x : GoM W C α} {e e' : Env W C} {a : α} :
    wrap pre x e = (.ok a, e') ↔ x e = (.ok a, e') := by
  unfold wrap
  split <;> simp_all

/-! ## Runs whose collaborators' answers are fixed -/

/-- From every environment, `x` returns `a` and appends exactly `new` to the log. -/
def Returns (x : GoM W C α) (a : α) (new : List C) : Prop :=
  ∀ e, ∃ w, x e = (.ok a, ⟨w, e.calls ++ new⟩)

/-- From every environment, `x` fails with `m` and appends exactly `new` to the log. -/
def Fails (x : GoM W C α) (m : String) (new : List C) : Prop :=
  ∀ e, ∃ w, x e = (.error m, ⟨w, e.calls ++ new⟩)

namespace Returns

theorem pure (a : α) : Returns (Pure.pure a : GoM W C α) a [] :=
  fun e => ⟨e.world, by rw [List.append_nil]; rfl⟩

theorem call {f : W → Except String α × W} {a : α} (h : ∀ w, (f w).1 = .ok a) (c : C) :
    Returns (GoM.call c f) a [c] :=
  fun e => ⟨_, call_ok (Prod.ext (h e.world) rfl)⟩

theorem lift {r : Except String α} {a : α} (h : r = .ok a) : Returns (GoM.lift r : GoM W C α) a [] :=
  fun e => ⟨e.world, by rw [h, lift_ok, List.append_nil]⟩

theorem bind {x : GoM W C α} {f : α → GoM W C β} {a : α} {b : β} {n₁ n₂ : List C}
    (hx : Returns x a n₁) (hf : Returns (f a) b n₂) : Returns (x >>= f) b (n₁ ++ n₂) := by
  intro e
  obtain ⟨w₁, h₁⟩ := hx e
  obtain ⟨w₂, h₂⟩ := hf ⟨w₁, e.calls ++ n₁⟩
  exact ⟨w₂, by rw [bind_ok f h₁, h₂, List.append_assoc]⟩

theorem ite {p : Prop} [Decidable p] {x y : GoM W C α} {a : α} {n₁ n₂ : List C}
    (hx : Returns x a n₁) (hy : Returns y a n₂) :
    Returns (if p then x else y) a (if p then n₁ else n₂) := by
  split <;> assumption

theorem eq_ok {x : GoM W C α} {a b : α} {new : List C} {e e' : Env W C} (hx : Returns x a new)
    (h : x e = (.ok b, e')) : b = a ∧ e'.calls = e.calls ++ new := by
  obtain ⟨w, hw⟩ := hx e
  rw [hw] at h
  cases h
  exact ⟨rfl, rfl⟩

theorem bind_fails {x : GoM W C α} {f : α → GoM W C β} {a : α} {m : String} {n₁ n₂ : List C}
    (hx : Returns x a n₁) (hf : Fails (f a) m n₂) : Fails (x >>= f) m (n₁ ++ n₂) := by
  intro e
  obtain ⟨w₁, h₁⟩ := hx e
  obtain ⟨w₂, h₂⟩ := hf ⟨w₁, e.calls ++ n₁⟩
  exact ⟨w₂, by rw [bind_ok f h₁, h₂, List.append_assoc]⟩

end Returns

theorem Fails.bind {x : GoM W C α} {m : String} {new : List C} (hx : Fails x m new)
    (f : α → GoM W C β) : Fails (x >>= f) m new := by
  intro e
  obtain ⟨w, h⟩ := hx e
  exact ⟨w, bind_error f h⟩

theorem Fails.lift {r : Except String α} {m : String} (h : r = .error m) :
    Fails (GoM.lift r : GoM W C α) m [] :=
  fun e => ⟨e.world, by rw [h, lift_error, List.append_nil]⟩

theorem Fails.throw (m : String) : Fails (GoM.throw m : GoM W C α) m [] :=
  fun e => ⟨e.world, by rw [throw_apply, List.append_nil]⟩

/-! ## Pure code returning `(value, error)` -/

theorem except_bind_eq_ok {ε : Type} {x : Except ε α} {f : α → Except ε β} {b : β} :
    x >>= f = .ok b ↔ ∃ a, x = .ok a ∧ f a = .ok b := by
  cases x <;> simp [bind, Except.bind]

theorem except_pure_eq_ok {ε : Type} {a b : α} : (Pure.pure a : Except ε α) = .ok b ↔ a = b := by
  simp [Pure.pure, Except.pure]

/-- A Go loop over a slice that returns at its first error, as `mapM` into `Except`. -/
theorem mapM_eq_ok_iff {ε : Type} {f : α → Except ε β} {l : List α} {bs : List β} :
    l.mapM f = .ok bs ↔ List.Forall₂ (fun a b => f a = .ok b) l bs := by
  induction l generalizing bs with
  | nil => cases bs <;> simp only [List.mapM_nil, except_pure_eq_ok] <;> simp
  | cons a l ih =>
    cases bs <;> simp only [List.mapM_cons, except_bind_eq_ok, ih, except_pure_eq_ok] <;> simp

theorem mapM_eq_error_of_first {ε : Type} {f : α → Except ε β} {pre post : List α} {a : α}
    {m : ε} (hpre : ∀ b ∈ pre, ∃ r, f b = .ok r) (ha : f a = .error m) :
    (pre ++ a :: post).mapM f = .error m := by
  induction pre with
  | nil =>
    simp only [List.nil_append, List.mapM_cons, ha]
    rfl
  | cons b pre ih =>
    obtain ⟨r, hr⟩ := hpre b (List.mem_cons_self _ _)
    simp only [List.cons_append, List.mapM_cons, hr,
      ih fun b hb => hpre b (List.mem_cons_of_mem _ hb)]
    rfl

theorem forall₂_exists_of_mem_right {R : α → β → Prop} {l₁ : List α} {l₂ : List β}
    (h : List.Forall₂ R l₁ l₂) {b : β} (hb : b ∈ l₂) : ∃ a ∈ l₁, R a b := by
  induction h with
  | nil => cases hb
  | cons hr _ ih =>
    rcases List.mem_cons.1 hb with rfl | hb
    · exact ⟨_, List.mem_cons_self _ _, hr⟩
    · obtain ⟨a, ha, hr'⟩ := ih hb
      exact ⟨a, List.mem_cons_of_mem _ ha, hr'⟩

theorem exists_mapM_eq_ok_iff {ε : Type} {f : α → Except ε β} {l : List α} :
    (∃ bs, l.mapM f = .ok bs) ↔ ∀ a ∈ l, ∃ b, f a = .ok b := by
  simp only [mapM_eq_ok_iff]
  induction l with
  | nil => simp
  | cons a l ih =>
    simp only [List.mem_cons, forall_eq_or_imp, ← ih]
    constructor
    · rintro ⟨_, hbs⟩
      cases hbs with
      | cons hb hbs => exact ⟨⟨_, hb⟩, _, hbs⟩
    · rintro ⟨⟨b, hb⟩, bs, hbs⟩
      exact ⟨b :: bs, .cons hb hbs⟩

theorem wrap_of_ok {pre : String} {x : GoM W C α} {e e' : Env W C} {a : α}
    (h : x e = (.ok a, e')) : wrap pre x e = (.ok a, e') :=
  wrap_eq_ok.2 h

theorem Returns.wrap {x : GoM W C α} {a : α} {new : List C} (pre : String)
    (h : Returns x a new) : Returns (GoM.wrap pre x) a new := fun e =>
  let ⟨w, hw⟩ := h e
  ⟨w, wrap_of_ok hw⟩

theorem sliceFrom_of_le {s : List α} {i : Nat} (h : i ≤ s.length) (e : Env W C) :
    sliceFrom s i e = (.ok (s.drop i), e) := by
  simp [sliceFrom, h]

theorem sliceFrom_of_lt {s : List α} {i : Nat} (h : s.length < i) (e : Env W C) :
    sliceFrom s i e = (.panic ("runtime error: slice bounds out of range [" ++ toString i ++ ":" ++
      toString s.length ++ "]"), e) := by
  simp [sliceFrom, Nat.not_le.2 h]

theorem sliceFrom_eq_ok {s r : List α} {i : Nat} {e e' : Env W C}
    (h : sliceFrom s i e = (.ok r, e')) : i ≤ s.length ∧ r = s.drop i ∧ e' = e := by
  unfold sliceFrom at h
  split at h
  · cases h
    exact ⟨‹_›, rfl, rfl⟩
  · cases h

/-! ## Frames: which calls a computation logs -/

/-- `x` only appends calls satisfying `P` to the log. -/
def LogsOnly (P : C → Prop) (x : GoM W C α) : Prop :=
  ∀ e, ∃ new, (x e).2.calls = e.calls ++ new ∧ ∀ c ∈ new, P c

namespace LogsOnly

variable {P : C → Prop}

theorem pure (a : α) : LogsOnly P (Pure.pure a : GoM W C α) :=
  fun e => ⟨[], by simp⟩

theorem throw (msg : String) : LogsOnly P (GoM.throw msg : GoM W C α) :=
  fun e => ⟨[], by simp⟩

theorem lift (r : Except String α) : LogsOnly P (GoM.lift r : GoM W C α) :=
  fun e => ⟨[], by cases r <;> simp⟩

theorem call {c : C} (h : P c) (f : W → Except String α × W) : LogsOnly P (GoM.call c f) :=
  fun e => ⟨[c], by simp [call_apply], by simpa using h⟩

theorem wrap {x : GoM W C α} (pre : String) (h : LogsOnly P x) : LogsOnly P (GoM.wrap pre x) := by
  intro e
  obtain ⟨new, hn, hp⟩ := h e
  refine ⟨new, ?_, hp⟩
  unfold GoM.wrap
  split <;> simp_all

theorem bind {x : GoM W C α} {f : α → GoM W C β} (hx : LogsOnly P x)
    (hf : ∀ a, LogsOnly P (f a)) : LogsOnly P (x >>= f) := by
  intro e
  obtain ⟨new, hn, hp⟩ := hx e
  rcases hxe : x e with ⟨a | m | m, e₁⟩
  · obtain ⟨new', hn', hp'⟩ := hf a e₁
    rw [hxe] at hn
    refine ⟨new ++ new', by rw [bind_ok f hxe, hn', hn, List.append_assoc], ?_⟩
    simp only [List.mem_append]
    exact fun c hc => hc.elim (hp c) (hp' c)
  · rw [hxe] at hn; exact ⟨new, by rw [bind_error f hxe, hn], hp⟩
  · rw [hxe] at hn; exact ⟨new, by rw [bind_panic f hxe, hn], hp⟩

theorem ite {p : Prop} [Decidable p] {x y : GoM W C α} (hx : LogsOnly P x)
    (hy : LogsOnly P y) : LogsOnly P (if p then x else y) := by
  split <;> assumption

end LogsOnly

end GoM

end Blast

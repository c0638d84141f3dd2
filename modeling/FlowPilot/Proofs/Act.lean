import FlowPilot.Act
import Mathlib.Order.Defs.Unbundled

/-!
# Running acts

An act has a result and leaves a state, whether it fails or not. The equations below compute both
for every way of building acts. A relation between states that is a preorder is kept by an act as
soon as all its parts keep it.

## Main definitions

* `Act.result`, `Act.after`: what an act returns on a state, and the state that it leaves.
* `Act.Leads`: an act that relates every state to the one that it leaves.
* `Act.Moves`: the same for computations that cannot fail.
* `Act.FailsOnly`: an act whose failures are all of a kind.
* `Act.Untouched`: an act that leaves the state alone where it fails in a way of a kind.
* `Act.ChecksFirst`: an act that checks something before it does anything.
-/

namespace FlowPilot.Act

variable {σ τ α β : Type}

/-- What an act returns on a state. -/
def result (x : Act σ α) (s : σ) : Except Fault α := (x s).1

/-- The state that an act leaves. -/
def after (x : Act σ α) (s : σ) : σ := (x s).2

/-- Acts with the same results that leave the same states are equal. -/
theorem ext {x y : Act σ α} (hresult : ∀ s, x.result s = y.result s)
    (hafter : ∀ s, x.after s = y.after s) : x = y := by
  funext s
  exact Prod.ext (hresult s) (hafter s)

@[simp]
theorem mapError_ok {ε ε' : Type} (f : ε → ε') (a : α) : (Except.ok a).mapError f = .ok a := rfl

@[simp]
theorem mapError_error {ε ε' : Type} (f : ε → ε') (e : ε) :
    (.error e : Except ε α).mapError f = .error (f e) := rfl

section Equations

variable {s : σ}

@[simp]
theorem result_pure (a : α) : (pure a : Act σ α).result s = .ok a := rfl

@[simp]
theorem after_pure (a : α) : (pure a : Act σ α).after s = s := rfl

@[simp]
theorem result_throw (e : Fault) : (throw e : Act σ α).result s = .error e := rfl

@[simp]
theorem after_throw (e : Fault) : (throw e : Act σ α).after s = s := rfl

@[simp]
theorem result_bind (x : Act σ α) (f : α → Act σ β) :
    (x >>= f).result s =
      match x.result s with
      | .ok a => (f a).result (x.after s)
      | .error e => .error e := by
  unfold result after
  simp only [bind, ExceptT.bind, ExceptT.mk, StateT.bind, ExceptT.bindCont]
  rcases x s with ⟨_ | _, _⟩ <;> rfl

@[simp]
theorem after_bind (x : Act σ α) (f : α → Act σ β) :
    (x >>= f).after s =
      match x.result s with
      | .ok a => (f a).after (x.after s)
      | .error _ => x.after s := by
  unfold result after
  simp only [bind, ExceptT.bind, ExceptT.mk, StateT.bind, ExceptT.bindCont]
  rcases x s with ⟨_ | _, _⟩ <;> rfl

@[simp]
theorem result_map (f : α → β) (x : Act σ α) : (f <$> x).result s = (x.result s).map f := by
  unfold result
  simp only [Functor.map, ExceptT.map, ExceptT.mk, bind, StateT.bind]
  rcases x s with ⟨_ | _, _⟩ <;> rfl

@[simp]
theorem after_map (f : α → β) (x : Act σ α) : (f <$> x).after s = x.after s := by
  unfold after
  simp only [Functor.map, ExceptT.map, ExceptT.mk, bind, StateT.bind]
  rcases x s with ⟨_ | _, _⟩ <;> rfl

@[simp]
theorem result_discard (x : Act σ α) :
    (discard x : Act σ PUnit).result s = (x.result s).map fun _ => ⟨⟩ :=
  result_map _ x

@[simp]
theorem after_discard (x : Act σ α) : (discard x : Act σ PUnit).after s = x.after s :=
  after_map _ x

/-- Two acts whose results are put together and then forgotten. -/
theorem discard_append (x y : Act σ (List α)) :
    (discard (do return (← x) ++ (← y)) : Act σ PUnit) = (do discard x; discard y) := by
  apply ext
  all_goals
    intro s
    cases hx : x.result s with
    | error e => simp [hx, Except.map]
    | ok a => cases hy : y.result (x.after s) <;> simp [hx, hy, Except.map]

@[simp]
theorem result_ofExcept (r : Except Fault α) : (ofExcept r : Act σ α).result s = r := rfl

@[simp]
theorem after_ofExcept (r : Except Fault α) : (ofExcept r : Act σ α).after s = s := rfl

@[simp]
theorem ofExcept_ok_bind (a : α) (f : α → Act σ β) :
    (ofExcept (.ok a : Except Fault α) >>= f) = f a := rfl

@[simp]
theorem ofExcept_error_bind (e : Fault) (f : α → Act σ β) :
    (ofExcept (.error e : Except Fault α) >>= f) = throw e := rfl

theorem ofExcept_bind (x : Except Fault α) (f : α → Except Fault β) :
    (ofExcept (x >>= f) : Act σ β) = ofExcept x >>= fun a => ofExcept (f a) := by
  cases x with
  | error e => exact (ofExcept_error_bind e _).symm
  | ok a => exact (ofExcept_ok_bind a fun a => ofExcept (f a)).symm

/-- Acts that begin with the same reading are the same where they go on in the same way. -/
theorem ofExcept_bind_congr {x : Except Fault α} {f g : α → Act σ β}
    (h : ∀ a, x = .ok a → f a s = g a s) : (ofExcept x >>= f) s = (ofExcept x >>= g) s := by
  cases x with
  | error e => rw [ofExcept_error_bind, ofExcept_error_bind]
  | ok a => rw [ofExcept_ok_bind, ofExcept_ok_bind, h a rfl]

/-- A reading in two parts fails in the first one or in what follows it. -/
theorem bind_eq_error_iff {x : Except Fault α} {f : α → Except Fault β} {e : Fault} :
    (x >>= f) = .error e ↔ x = .error e ∨ ∃ a, x = .ok a ∧ f a = .error e := by
  cases x with
  | error e' => simp [bind, Except.bind]
  | ok a => simp [bind, Except.bind]

@[simp]
theorem result_get : (get : Act σ σ).result s = .ok s := rfl

@[simp]
theorem after_get : (get : Act σ σ).after s = s := rfl

theorem get_bind (f : σ → Act σ α) : (get >>= f) s = f s s := rfl

@[simp]
theorem result_set (t : σ) : (set t : Act σ PUnit).result s = .ok ⟨⟩ := rfl

@[simp]
theorem after_set (t : σ) : (set t : Act σ PUnit).after s = t := rfl

@[simp]
theorem result_modify (f : σ → σ) : (modify f : Act σ PUnit).result s = .ok ⟨⟩ := rfl

@[simp]
theorem after_modify (f : σ → σ) : (modify f : Act σ PUnit).after s = f s := rfl

@[simp]
theorem result_modifyGet (f : σ → α × σ) : (modifyGet f : Act σ α).result s = .ok (f s).1 := rfl

@[simp]
theorem after_modifyGet (f : σ → α × σ) : (modifyGet f : Act σ α).after s = (f s).2 := rfl

@[simp]
theorem result_lift (m : StateM σ α) : (liftM m : Act σ α).result s = .ok (m s).1 := rfl

@[simp]
theorem after_lift (m : StateM σ α) : (liftM m : Act σ α).after s = (m s).2 := rfl

@[simp]
theorem result_onPart (part : σ → τ) (withPart : σ → τ → σ) (x : Act τ α) :
    (onPart part withPart x).result s = x.result (part s) := rfl

@[simp]
theorem after_onPart (part : σ → τ) (withPart : σ → τ → σ) (x : Act τ α) :
    (onPart part withPart x).after s = withPart s (x.after (part s)) := rfl

@[simp]
theorem result_tryCatch (x : Act σ α) (handle : Fault → Act σ α) :
    (tryCatch x handle : Act σ α).result s =
      match x.result s with
      | .ok a => .ok a
      | .error e => (handle e).result (x.after s) := by
  unfold result after
  simp only [tryCatch, tryCatchThe, MonadExceptOf.tryCatch, ExceptT.tryCatch, ExceptT.mk, bind,
    StateT.bind]
  rcases x s with ⟨_ | _, _⟩ <;> rfl

@[simp]
theorem after_tryCatch (x : Act σ α) (handle : Fault → Act σ α) :
    (tryCatch x handle : Act σ α).after s =
      match x.result s with
      | .ok _ => x.after s
      | .error e => (handle e).after (x.after s) := by
  unfold result after
  simp only [tryCatch, tryCatchThe, MonadExceptOf.tryCatch, ExceptT.tryCatch, ExceptT.mk, bind,
    StateT.bind]
  rcases x s with ⟨_ | _, _⟩ <;> rfl

@[simp]
theorem result_adapt (f : Fault → Fault) (x : Act σ α) :
    result (ExceptT.adapt f x) s = (x.result s).mapError f := rfl

@[simp]
theorem after_adapt (f : Fault → Fault) (x : Act σ α) :
    after (ExceptT.adapt f x) s = x.after s := rfl

/-- A block that returns early inside a handler. -/
@[simp]
theorem result_earlyReturn {ρ : Type} (x : ρ) :
    result (EarlyReturnT.return x : EarlyReturnT ρ (Act σ) α) s = .ok (.error x) := rfl

@[simp]
theorem after_earlyReturn {ρ : Type} (x : ρ) :
    after (EarlyReturnT.return x : EarlyReturnT ρ (Act σ) α) s = s := rfl

/-- A value in place of a failure. -/
@[simp]
theorem orUse_fst (x : Act σ α) (a : α) :
    (x.orUse a s).1 =
      match x.result s with
      | .ok b => b
      | .error _ => a := by
  unfold result orUse attempt
  simp only [bind, StateT.bind, ExceptT.run]
  rcases x s with ⟨_ | _, _⟩ <;> rfl

@[simp]
theorem orUse_snd (x : Act σ α) (a : α) : (x.orUse a s).2 = x.after s := by
  unfold after orUse attempt
  simp only [bind, StateT.bind, ExceptT.run]
  rcases x s with ⟨_ | _, _⟩ <;> rfl

/-- Computations that cannot fail, one after the other. -/
theorem bind_apply (m : StateM σ α) (f : α → StateM σ β) : (m >>= f) s = f (m s).1 (m s).2 := rfl

@[simp]
theorem attempt_snd (x : Act σ α) : (x.attempt s).2 = x.after s := rfl

/-- A computation that cannot fail comes first. -/
theorem attempt_lift_bind (m : StateM σ α) (f : α → Act σ β) :
    ((liftM m : Act σ α) >>= f).attempt = (m >>= fun a => (f a).attempt) := rfl

theorem lift_bind_apply (m : StateM σ α) (f : α → Act σ β) :
    ((liftM m : Act σ α) >>= f) s = f (m s).1 (m s).2 := rfl

/-- Computations that cannot fail, one for each item of a list. -/
theorem mapM_lift (f : α → StateM σ β) (l : List α) :
    (l.mapM fun a => (liftM (f a) : Act σ β)) = liftM (l.mapM f) := by
  induction l with
  | nil => rfl
  | cons a l ih =>
    rw [List.mapM_cons, List.mapM_cons, ih]
    rfl

theorem result_bind_eq_ok_iff {x : Act σ α} {f : α → Act σ β} {b : β} :
    (x >>= f).result s = .ok b ↔
      ∃ a, x.result s = .ok a ∧ (f a).result (x.after s) = .ok b := by
  rw [result_bind]
  cases x.result s <;> simp

end Equations

/-- An act that relates every state to the one that it leaves, whether it fails or not. -/
def Leads (R : σ → σ → Prop) (x : Act σ α) : Prop := ∀ s, R s (x.after s)

/-- A computation that relates every state to the one that it leaves. -/
def Moves (R : σ → σ → Prop) (m : StateM σ α) : Prop := ∀ s, R s (m s).2

section Rules

variable {R : σ → σ → Prop}

theorem Leads.map {x : Act σ α} (hx : Leads R x) (f : α → β) : Leads R (f <$> x) := by
  intro s
  rw [after_map]
  exact hx s

theorem Leads.discard {x : Act σ α} (hx : Leads R x) : Leads R (discard x : Act σ PUnit) :=
  hx.map _

theorem Leads.ite {c : Prop} [Decidable c] {x y : Act σ α} (hx : Leads R x) (hy : Leads R y) :
    Leads R (if c then x else y) := by
  split
  · exact hx
  · exact hy

theorem Leads.orUse {x : Act σ α} (hx : Leads R x) (a : α) : Moves R (x.orUse a) := by
  intro s
  rw [orUse_snd]
  exact hx s

theorem Leads.lift {m : StateM σ α} (hm : Moves R m) : Leads R (liftM m : Act σ α) := hm

theorem Leads.adapt {x : Act σ α} (hx : Leads R x) (f : Fault → Fault) :
    Leads R (ExceptT.adapt f x : Act σ α) := hx

theorem Moves.ite {c : Prop} [Decidable c] {m n : StateM σ α} (hm : Moves R m)
    (hn : Moves R n) : Moves R (if c then m else n) := by
  split
  · exact hm
  · exact hn

variable [IsPreorder σ R]

theorem Leads.pure (a : α) : Leads R (pure a : Act σ α) := fun s => refl_of R s

theorem Leads.throw (e : Fault) : Leads R (throw e : Act σ α) := fun s => refl_of R s

theorem Leads.ofExcept (r : Except Fault α) : Leads R (ofExcept r : Act σ α) :=
  fun s => refl_of R s

theorem Leads.get : Leads R (get : Act σ σ) := fun s => refl_of R s

theorem Leads.bind {x : Act σ α} {f : α → Act σ β} (hx : Leads R x) (hf : ∀ a, Leads R (f a)) :
    Leads R (x >>= f) := by
  intro s
  rw [after_bind]
  cases x.result s with
  | error e => exact hx s
  | ok a => exact trans_of R (hx s) (hf a _)

theorem Leads.tryCatch {x : Act σ α} {handle : Fault → Act σ α} (hx : Leads R x)
    (hhandle : ∀ e, Leads R (handle e)) : Leads R (tryCatch x handle : Act σ α) := by
  intro s
  rw [after_tryCatch]
  cases x.result s with
  | error e => exact trans_of R (hx s) (hhandle e _)
  | ok a => exact hx s

theorem Moves.pure (a : α) : Moves R (pure a : StateM σ α) := fun s => refl_of R s

theorem Moves.get : Moves R (get : StateM σ σ) := fun s => refl_of R s

theorem Moves.bind {m : StateM σ α} {f : α → StateM σ β} (hm : Moves R m)
    (hf : ∀ a, Moves R (f a)) : Moves R (m >>= f) :=
  fun s => trans_of R (hm s) (hf (m s).1 (m s).2)

end Rules

/-- An act whose failures are all of a kind. -/
def FailsOnly (P : Fault → Prop) (x : Act σ α) : Prop := ∀ s e, x.result s = .error e → P e

section Failures

variable {P Q : Fault → Prop}

theorem FailsOnly.mono {x : Act σ α} (hx : FailsOnly P x) (h : ∀ e, P e → Q e) : FailsOnly Q x :=
  fun s e he => h e (hx s e he)

theorem FailsOnly.lift (m : StateM σ α) : FailsOnly P (liftM m : Act σ α) := by
  intro s e h
  simp at h

theorem FailsOnly.pure (a : α) : FailsOnly P (pure a : Act σ α) := .lift (Pure.pure a)

theorem FailsOnly.get : FailsOnly P (get : Act σ σ) := .lift MonadState.get

theorem FailsOnly.set (t : σ) : FailsOnly P (set t : Act σ PUnit) :=
  .lift (MonadStateOf.set t)

theorem FailsOnly.modify (f : σ → σ) : FailsOnly P (modify f : Act σ PUnit) :=
  .lift fun s => (PUnit.unit, f s)

theorem FailsOnly.ofExcept {r : Except Fault α} (h : ∀ e, r = .error e → P e) :
    FailsOnly P (ofExcept r : Act σ α) :=
  fun _ => h

theorem FailsOnly.throw {e : Fault} (h : P e) : FailsOnly P (throw e : Act σ α) := by
  intro s e' he
  simp only [result_throw, Except.error.injEq] at he
  exact he ▸ h

theorem FailsOnly.ite {c : Prop} [Decidable c] {x y : Act σ α} (hx : FailsOnly P x)
    (hy : FailsOnly P y) : FailsOnly P (if c then x else y) := by
  split
  · exact hx
  · exact hy

theorem FailsOnly.bind {x : Act σ α} {f : α → Act σ β} (hx : FailsOnly P x)
    (hf : ∀ a, FailsOnly P (f a)) : FailsOnly P (x >>= f) := by
  intro s e h
  rw [result_bind] at h
  cases hresult : x.result s with
  | error e' =>
    rw [hresult] at h
    exact Except.error.inj h ▸ hx s e' hresult
  | ok a =>
    rw [hresult] at h
    exact hf a _ e h

theorem FailsOnly.map {x : Act σ α} (hx : FailsOnly P x) (f : α → β) : FailsOnly P (f <$> x) := by
  intro s e h
  rw [result_map] at h
  cases hresult : x.result s with
  | error e' =>
    rw [hresult] at h
    exact hx s e (hresult.trans (by simpa [Except.map] using h))
  | ok a =>
    rw [hresult] at h
    simp [Except.map] at h

theorem FailsOnly.discard {x : Act σ α} (hx : FailsOnly P x) :
    FailsOnly P (discard x : Act σ PUnit) :=
  hx.map _

theorem FailsOnly.tryCatch {x : Act σ α} {f : Fault → Act σ α} (hx : FailsOnly Q x)
    (hf : ∀ e, Q e → FailsOnly P (f e)) : FailsOnly P (tryCatch x f) := by
  intro s e h
  rw [result_tryCatch] at h
  cases hresult : x.result s with
  | error e' =>
    rw [hresult] at h
    exact hf e' (hx s e' hresult) _ e h
  | ok a =>
    rw [hresult] at h
    simp at h

theorem FailsOnly.adapt {x : Act σ α} {f : Fault → Fault} (hx : FailsOnly P x)
    (hf : ∀ e, P e → Q (f e)) : FailsOnly Q (ExceptT.adapt f x : Act σ α) := by
  intro s e h
  rw [result_adapt] at h
  cases hresult : x.result s with
  | error e' =>
    rw [hresult] at h
    simp only [mapError_error, Except.error.injEq] at h
    exact h ▸ hf e' (hx s e' hresult)
  | ok a =>
    rw [hresult] at h
    simp at h

theorem FailsOnly.mapM {f : α → Act σ β} (hf : ∀ a, FailsOnly P (f a)) (l : List α) :
    FailsOnly P (l.mapM f) := by
  induction l with
  | nil => exact .pure []
  | cons a l ih =>
    rw [List.mapM_cons]
    exact (hf a).bind fun _ => ih.bind fun _ => .pure _

end Failures

/-- An act that leaves the state alone where it fails in a way of a kind. -/
def Untouched (P : Fault → Prop) (x : Act σ α) : Prop :=
  ∀ s e, x.result s = .error e → P e → x.after s = s

section Untouched

variable {P : Fault → Prop}

/-- Failures of another kind do not matter. -/
theorem FailsOnly.untouched {x : Act σ α} (hx : FailsOnly (fun e => ¬P e) x) : Untouched P x :=
  fun s e he hP => absurd hP (hx s e he)

/-- What comes after an act that touches nothing. -/
theorem Untouched.idle_bind {x : Act σ α} {f : α → Act σ β} (hx : ∀ s, x.after s = s)
    (hf : ∀ s a, x.result s = .ok a → Untouched P (f a)) : Untouched P (x >>= f) := by
  intro s e he hP
  rw [result_bind] at he
  rw [after_bind]
  cases hresult : x.result s with
  | error e' => exact hx s
  | ok a =>
    rw [hresult, hx] at he
    dsimp only
    rw [hx]
    exact hf s a hresult s e he hP

/-- What comes afterwards and fails in other ways only. -/
theorem Untouched.bind {x : Act σ α} {f : α → Act σ β} (hx : Untouched P x)
    (hf : ∀ a, FailsOnly (fun e => ¬P e) (f a)) : Untouched P (x >>= f) := by
  intro s e he hP
  rw [result_bind] at he
  rw [after_bind]
  cases hresult : x.result s with
  | error e' =>
    rw [hresult] at he
    exact hx s e (hresult.trans (by simpa using he)) hP
  | ok a =>
    rw [hresult] at he
    exact absurd hP (hf a _ e he)

end Untouched

/-- An act that checks something before it does anything: it fails as the check does, and where the
check succeeds it fails in ways of a kind only. -/
def ChecksFirst (check : Except Fault Unit) (P : Fault → Prop) (x : Act σ α) : Prop :=
  match check with
  | .error e => x = throw e
  | .ok _ => FailsOnly P x

section ChecksFirst

variable {P Q : Fault → Prop} {check : Except Fault Unit} {x : Act σ α}

theorem ChecksFirst.done (hx : FailsOnly P x) : ChecksFirst (pure ()) P x := hx

/-- A part of the check comes first, in the act as in the check. -/
theorem ChecksFirst.demand {r : Except Fault β} {rest : β → Except Fault Unit}
    {next : β → Act σ α} (h : ∀ b, r = .ok b → ChecksFirst (rest b) P (next b)) :
    ChecksFirst (r >>= rest) P (ofExcept r >>= next) := by
  cases r with
  | error e => rfl
  | ok b => exact h b rfl

/-- A condition is refused, in the act as in the check. -/
theorem ChecksFirst.refuse {c : Prop} [Decidable c] {e : Fault} {next : Act σ α}
    (hx : c → x = throw e) (hnext : ¬c → ChecksFirst check P next) :
    ChecksFirst (if c then .error e else check) P (if c then x else next) := by
  by_cases hc : c
  · rw [if_pos hc, if_pos hc]
    exact hx hc
  · rw [if_neg hc, if_neg hc]
    exact hnext hc

theorem ChecksFirst.discard (hx : ChecksFirst check P x) :
    ChecksFirst check P (discard x : Act σ PUnit) := by
  cases check with
  | error e =>
    have hthrow : x = throw e := hx
    rw [hthrow]
    rfl
  | ok u => exact FailsOnly.discard hx

theorem ChecksFirst.failsOnly (hx : ChecksFirst check P x) (hcheck : ∀ e, check = .error e → Q e)
    (h : ∀ e, P e → Q e) : FailsOnly Q x := by
  cases check with
  | error e =>
    have hthrow : x = throw e := hx
    rw [hthrow]
    exact .throw (hcheck e rfl)
  | ok u => exact FailsOnly.mono hx h

/-- What the check refuses leaves the state alone. -/
theorem ChecksFirst.untouched (hx : ChecksFirst check P x) (h : ∀ e, P e → ¬Q e) :
    Untouched Q x := by
  cases check with
  | error e =>
    have hthrow : x = throw e := hx
    rw [hthrow]
    exact fun s _ _ _ => after_throw e
  | ok u => exact (FailsOnly.mono hx h).untouched

/-- What succeeds was not refused. -/
theorem ChecksFirst.check_of_ok (hx : ChecksFirst check P x) {s : σ} {a : α}
    (h : x.result s = .ok a) : check = .ok () := by
  cases check with
  | error e =>
    have hthrow : x = throw e := hx
    rw [hthrow] at h
    cases h
  | ok u => rfl

end ChecksFirst

end FlowPilot.Act

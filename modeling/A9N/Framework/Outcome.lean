import Mathlib

/-!
# Fallible operations on a state

The kernel's functions mutate their objects and report a `result`, and a failed call keeps
whatever it has already written. An outcome therefore carries the state beside the result,
on the error path as well.
-/

namespace A9N

structure Outcome (ε σ α : Type) where
  result : Except ε α
  state : σ

namespace Outcome

variable {ε ε' σ α β : Type}

def ok (value : α) (state : σ) : Outcome ε σ α := ⟨.ok value, state⟩

def error (e : ε) (state : σ) : Outcome ε σ α := ⟨.error e, state⟩

def andThen (o : Outcome ε σ α) (next : α → σ → Outcome ε σ β) : Outcome ε σ β :=
  match o.result with
  | .ok value => next value o.state
  | .error e => ⟨.error e, o.state⟩

def transformError (o : Outcome ε σ α) (f : ε → ε') : Outcome ε' σ α :=
  match o.result with
  | .ok value => ⟨.ok value, o.state⟩
  | .error e => ⟨.error (f e), o.state⟩

def orElse (o : Outcome ε σ α) (next : ε → σ → Outcome ε' σ α) : Outcome ε' σ α :=
  match o.result with
  | .ok value => ⟨.ok value, o.state⟩
  | .error e => next e o.state

def succeeded (o : Outcome ε σ α) : Bool :=
  match o.result with
  | .ok _ => true
  | .error _ => false

@[simp] theorem ok_result (value : α) (state : σ) :
    (ok value state : Outcome ε σ α).result = .ok value := rfl

@[simp] theorem ok_state (value : α) (state : σ) :
    (ok value state : Outcome ε σ α).state = state := rfl

@[simp] theorem error_result (e : ε) (state : σ) :
    (error e state : Outcome ε σ α).result = .error e := rfl

@[simp] theorem error_state (e : ε) (state : σ) :
    (error e state : Outcome ε σ α).state = state := rfl

@[simp] theorem andThen_ok (value : α) (state : σ) (next : α → σ → Outcome ε σ β) :
    (ok value state).andThen next = next value state := rfl

theorem andThen_assoc (o : Outcome ε σ α) (f : α → σ → Outcome ε σ β)
    {γ : Type} (g : β → σ → Outcome ε σ γ) :
    (o.andThen f).andThen g = o.andThen fun value state => (f value state).andThen g := by
  obtain ⟨_ | _, _⟩ := o <;> rfl

@[simp] theorem transformError_ok (value : α) (state : σ) (f : ε → ε') :
    (ok value state : Outcome ε σ α).transformError f = ok value state := rfl

@[simp] theorem transformError_state (o : Outcome ε σ α) (f : ε → ε') :
    (o.transformError f).state = o.state := by
  unfold transformError
  cases o.result <;> rfl

/-! ## Invariants: what every step keeps holds at every exit -/

theorem andThen_keeps {P : σ → Prop} {o : Outcome ε σ α} (h : P o.state)
    {next : α → σ → Outcome ε σ β}
    (hnext : ∀ value state, P state → P (next value state).state) : P (o.andThen next).state := by
  obtain ⟨_ | _, state⟩ := o
  · exact h
  · exact hnext _ _ h

theorem orElse_keeps {P : σ → Prop} {o : Outcome ε σ α} (h : P o.state)
    {next : ε → σ → Outcome ε' σ α}
    (hnext : ∀ e state, P state → P (next e state).state) : P (o.orElse next).state := by
  obtain ⟨_ | _, state⟩ := o
  · exact hnext _ _ h
  · exact h

def Post (o : Outcome ε σ α) (Q : α → σ → Prop) (E : ε → σ → Prop) : Prop :=
  match o.result with
  | .ok value => Q value o.state
  | .error e => E e o.state

section Post

variable {Q : α → σ → Prop} {E : ε → σ → Prop}

@[simp] theorem post_ok (value : α) (state : σ) :
    (ok value state : Outcome ε σ α).Post Q E ↔ Q value state := Iff.rfl

@[simp] theorem post_error (e : ε) (state : σ) :
    (error e state : Outcome ε σ α).Post Q E ↔ E e state := Iff.rfl

section

variable {o : Outcome ε σ α}

theorem Post.andThen {next : α → σ → Outcome ε σ β} {R : β → σ → Prop}
    (h : o.Post Q E) (hnext : ∀ value state, Q value state → (next value state).Post R E) :
    (o.andThen next).Post R E := by
  obtain ⟨_ | _, state⟩ := o
  · exact h
  · exact hnext _ _ h

theorem Post.transformError {f : ε → ε'} {F : ε' → σ → Prop}
    (h : o.Post Q fun e state => F (f e) state) : (o.transformError f).Post Q F := by
  obtain ⟨_ | _, state⟩ := o <;> exact h

theorem Post.orElse {next : ε → σ → Outcome ε' σ α} {F : ε' → σ → Prop}
    (h : o.Post Q E) (hnext : ∀ e state, E e state → (next e state).Post Q F) :
    (o.orElse next).Post Q F := by
  obtain ⟨_ | _, state⟩ := o
  · exact hnext _ _ h
  · exact h

section

variable {P : σ → Prop}

theorem post_of_state (h : P o.state) :
    o.Post (fun _ state => P state) (fun _ state => P state) := by
  obtain ⟨_ | _, state⟩ := o <;> exact h

theorem post_true_of_state (h : P o.state) : o.Post (fun _ => P) fun _ _ => True := by
  obtain ⟨_ | _, state⟩ := o
  · trivial
  · exact h

theorem Post.state (h : o.Post Q E)
    (hok : ∀ value state, Q value state → P state) (herror : ∀ e state, E e state → P state) :
    P o.state := by
  obtain ⟨_ | _, state⟩ := o
  · exact herror _ _ h
  · exact hok _ _ h

theorem Post.withState (h : o.Post Q E) (hstate : P o.state) :
    o.Post (fun value state => Q value state ∧ P state) (fun e state => E e state ∧ P state) := by
  obtain ⟨_ | _, state⟩ := o <;> exact ⟨h, hstate⟩

end

theorem Post.mono {Q' : α → σ → Prop} {F : ε → σ → Prop} (h : o.Post Q E)
    (hok : ∀ value state, Q value state → Q' value state)
    (herror : ∀ e state, E e state → F e state) : o.Post Q' F := by
  obtain ⟨_ | _, state⟩ := o
  · exact herror _ _ h
  · exact hok _ _ h

end

end Post

/-! ## Two runs side by side -/

structure Related (R : σ → σ → Prop) (o o' : Outcome ε σ α) : Prop where
  result : o.result = o'.result
  state : R o.state o'.state

namespace Related

variable {R : σ → σ → Prop} {o o' : Outcome ε σ α}

theorem ok (value : α) {state state' : σ} (h : R state state') :
    Related R (Outcome.ok value state : Outcome ε σ α) (.ok value state') := ⟨rfl, h⟩

theorem error (e : ε) {state state' : σ} (h : R state state') :
    Related R (Outcome.error e state : Outcome ε σ α) (.error e state') := ⟨rfl, h⟩

theorem andThen (h : Related R o o') {next next' : α → σ → Outcome ε σ β}
    (hnext : ∀ value state state', R state state' →
      Related R (next value state) (next' value state')) :
    Related R (o.andThen next) (o'.andThen next') := by
  obtain ⟨result, state⟩ := o
  obtain ⟨result', state'⟩ := o'
  obtain rfl : result = result' := h.result
  cases result with
  | error e => exact ⟨rfl, h.state⟩
  | ok value => exact hnext value state state' h.state

theorem transformError (h : Related R o o') (f : ε → ε') :
    Related R (o.transformError f) (o'.transformError f) := by
  obtain ⟨result, state⟩ := o
  obtain ⟨result', state'⟩ := o'
  obtain rfl : result = result' := h.result
  cases result with
  | error e => exact ⟨rfl, h.state⟩
  | ok value => exact ⟨rfl, h.state⟩

end Related

end Outcome

end A9N

import A9N.Framework.Outcome

/-!
# Calls that may not return

A recursive kernel function is modelled with a bound on its nesting. `none` is a call the
bound cuts off; every other value is the outcome the source reports, whatever the bound was.
-/

namespace A9N

abbrev Run (ε σ α : Type) := Option (Outcome ε σ α)

namespace Run

variable {ε ε' σ α β : Type}

def ok (value : α) (state : σ) : Run ε σ α := some (Outcome.ok value state)

def error (e : ε) (state : σ) : Run ε σ α := some (Outcome.error e state)

def andThen (r : Run ε σ α) (next : α → σ → Run ε σ β) : Run ε σ β :=
  match r with
  | none => none
  | some o =>
    match o.result with
    | .ok value => next value o.state
    | .error e => error e o.state

def transformError (r : Run ε σ α) (f : ε → ε') : Run ε' σ α :=
  r.map fun o => o.transformError f

def onExit (r : Run ε σ α) (f : σ → σ) : Run ε σ α :=
  r.map fun o => ⟨o.result, f o.state⟩

def Post (r : Run ε σ α) (Q : α → σ → Prop) (E : ε → σ → Prop) : Prop :=
  ∀ o, r = some o → o.Post Q E

section Post

variable {Q : α → σ → Prop} {E : ε → σ → Prop}

theorem post_none : Post (none : Run ε σ α) Q E := by
  intro o h
  simp at h

theorem post_some {o : Outcome ε σ α} (h : o.Post Q E) : Post (some o) Q E := by
  intro o' h'
  rw [Option.some.injEq] at h'
  rwa [← h']

theorem post_ok {value : α} {state : σ} (h : Q value state) : (ok value state).Post Q E :=
  post_some h

theorem post_error {e : ε} {state : σ} (h : E e state) : (error e state : Run ε σ α).Post Q E :=
  post_some h

section

variable {r : Run ε σ α}

theorem Post.andThen {next : α → σ → Run ε σ β} {R : β → σ → Prop}
    (h : r.Post Q E) (hnext : ∀ value state, Q value state → (next value state).Post R E) :
    (r.andThen next).Post R E := by
  cases r with
  | none => exact post_none
  | some o =>
    have ho := h o rfl
    obtain ⟨_ | _, state⟩ := o
    · exact post_error ho
    · exact hnext _ _ ho

theorem Post.transformError {f : ε → ε'} {F : ε' → σ → Prop}
    (h : r.Post Q fun e state => F (f e) state) : (r.transformError f).Post Q F := by
  cases r with
  | none => exact post_none
  | some o => exact post_some (h o rfl).transformError

theorem Post.onExit {f : σ → σ}
    (h : r.Post (fun value state => Q value (f state)) fun e state => E e (f state)) :
    (r.onExit f).Post Q E := by
  cases r with
  | none => exact post_none
  | some o =>
    have ho := h o rfl
    obtain ⟨_ | _, state⟩ := o <;> exact post_some ho

theorem Post.mono {Q' : α → σ → Prop} {F : ε → σ → Prop} (h : r.Post Q E)
    (hok : ∀ value state, Q value state → Q' value state)
    (herror : ∀ e state, E e state → F e state) : r.Post Q' F := by
  intro o ho
  exact (h o ho).mono hok herror

end

end Post

end Run

end A9N

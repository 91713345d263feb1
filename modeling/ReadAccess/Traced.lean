/-
  Computations that leave a trace.  A traced computation has a value, or an
  error instead, and in both cases the list of what happened on the way.
-/
set_option autoImplicit false

namespace ReadAccess

/-- A computation with entries `τ` on its trace, errors `ε` and values `α`. -/
structure Traced (τ ε α : Type) where
  trace : List τ
  ending : Except ε α

namespace Traced

variable {τ υ ε δ α β : Type}

def value (a : α) : Traced τ ε α := ⟨[], .ok a⟩

def fail (e : ε) : Traced τ ε α := ⟨[], .error e⟩

def tell (t : τ) : Traced τ ε PUnit := ⟨[t], .ok ⟨⟩⟩

def andThen (x : Traced τ ε α) (f : α → Traced τ ε β) : Traced τ ε β :=
  match x.ending with
  | .error e => ⟨x.trace, .error e⟩
  | .ok a => ⟨x.trace ++ (f a).trace, (f a).ending⟩

instance : Monad (Traced τ ε) where
  pure := value
  bind := andThen

/-- The same computation with every trace entry replaced by several. -/
def expand (f : τ → List υ) (x : Traced τ ε α) : Traced υ ε α :=
  ⟨x.trace.flatMap f, x.ending⟩

def mapError (f : ε → δ) (x : Traced τ ε α) : Traced τ δ α :=
  ⟨x.trace, match x.ending with
    | .error e => .error (f e)
    | .ok a => .ok a⟩

/-- The same computation with `entries` in front of its trace. -/
def after (entries : List τ) (x : Traced τ ε α) : Traced τ ε α :=
  ⟨entries ++ x.trace, x.ending⟩

/-! ## Equations -/

@[simp] theorem pure_trace (a : α) : (pure a : Traced τ ε α).trace = [] := rfl

@[simp] theorem pure_ending (a : α) : (pure a : Traced τ ε α).ending = .ok a := rfl

@[simp] theorem tell_trace (t : τ) : (tell t : Traced τ ε PUnit).trace = [t] := rfl

@[simp] theorem tell_ending (t : τ) : (tell t : Traced τ ε PUnit).ending = .ok ⟨⟩ := rfl

/-- Nothing follows an error. -/
theorem bind_of_error {x : Traced τ ε α} {e : ε} (h : x.ending = .error e)
    (f : α → Traced τ ε β) : x >>= f = ⟨x.trace, .error e⟩ := by
  show andThen x f = _
  simp only [andThen, h]

/-- A value is handed on, and the traces are joined. -/
theorem bind_of_value {x : Traced τ ε α} {a : α} (h : x.ending = .ok a)
    (f : α → Traced τ ε β) : x >>= f = ⟨x.trace ++ (f a).trace, (f a).ending⟩ := by
  show andThen x f = _
  simp only [andThen, h]

/-- How a sequence ends depends on the endings alone. -/
theorem bind_ending (x : Traced τ ε α) (f : α → Traced τ ε β) :
    (x >>= f).ending = x.ending.bind fun a => (f a).ending := by
  cases h : x.ending with
  | error e => rw [bind_of_error h]; rfl
  | ok a => rw [bind_of_value h]; rfl

@[simp] theorem tell_bind (t : τ) (f : PUnit → Traced τ ε β) :
    (tell t >>= f) = ⟨t :: (f ⟨⟩).trace, (f ⟨⟩).ending⟩ := rfl

@[simp] theorem after_trace (entries : List τ) (x : Traced τ ε α) :
    (x.after entries).trace = entries ++ x.trace := rfl

@[simp] theorem after_ending (entries : List τ) (x : Traced τ ε α) :
    (x.after entries).ending = x.ending := rfl

theorem after_after (first second : List τ) (x : Traced τ ε α) :
    (x.after second).after first = x.after (first ++ second) :=
  congrArg (mk · x.ending) (List.append_assoc first second x.trace).symm

@[simp] theorem expand_ending (f : τ → List υ) (x : Traced τ ε α) :
    (x.expand f).ending = x.ending := rfl

@[simp] theorem mapError_trace (f : ε → δ) (x : Traced τ ε α) :
    (x.mapError f).trace = x.trace := rfl

end Traced

end ReadAccess

/-
# Traced values — a value together with the steps that led to it

A computation that looks things up, logs or hands a message over gives its value and the list of
what it did, in order.  `Traced σ` is a monad: the trace of a sequence is the traces one after the
other, which `trace_bind` says, and nothing else is added.
-/

namespace Courier

/-- A value and the steps that led to it. -/
structure Traced (σ α : Type) where
  value : α
  trace : List σ
  deriving Repr

namespace Traced

variable {σ τ α β : Type}

instance : Monad (Traced σ) where
  pure a := ⟨a, []⟩
  bind x f := ⟨(f x.value).value, x.trace ++ (f x.value).trace⟩

/-- One step. -/
def step (s : σ) : Traced σ Unit := ⟨(), [s]⟩

/-- A value that took one step. -/
def one (s : σ) (a : α) : Traced σ α := ⟨a, [s]⟩

/-- The same value with every step translated. -/
def mapSteps (f : σ → τ) (x : Traced σ α) : Traced τ α := ⟨x.value, x.trace.map f⟩

/-- The same value with another view of its steps. -/
def mapTrace (f : List σ → List τ) (x : Traced σ α) : Traced τ α := ⟨x.value, f x.trace⟩

@[simp] theorem value_pure (a : α) : (pure a : Traced σ α).value = a := rfl

@[simp] theorem trace_pure (a : α) : (pure a : Traced σ α).trace = [] := rfl

@[simp] theorem value_bind (x : Traced σ α) (f : α → Traced σ β) :
    (x >>= f).value = (f x.value).value := rfl

@[simp] theorem trace_bind (x : Traced σ α) (f : α → Traced σ β) :
    (x >>= f).trace = x.trace ++ (f x.value).trace := rfl

@[simp] theorem value_map (f : α → β) (x : Traced σ α) : (f <$> x).value = f x.value := rfl

@[simp] theorem trace_map (f : α → β) (x : Traced σ α) : (f <$> x).trace = x.trace :=
  List.append_nil x.trace

@[simp] theorem value_step (s : σ) : (step s).value = () := rfl

@[simp] theorem trace_step (s : σ) : (step s).trace = [s] := rfl

@[simp] theorem value_one (s : σ) (a : α) : (one s a).value = a := rfl

@[simp] theorem trace_one (s : σ) (a : α) : (one s a).trace = [s] := rfl

@[simp] theorem value_mapSteps (f : σ → τ) (x : Traced σ α) : (x.mapSteps f).value = x.value := rfl

@[simp] theorem trace_mapSteps (f : σ → τ) (x : Traced σ α) :
    (x.mapSteps f).trace = x.trace.map f := rfl

@[simp] theorem value_mapTrace (f : List σ → List τ) (x : Traced σ α) :
    (x.mapTrace f).value = x.value := rfl

@[simp] theorem trace_mapTrace (f : List σ → List τ) (x : Traced σ α) :
    (x.mapTrace f).trace = f x.trace := rfl

instance : LawfulMonad (Traced σ) := LawfulMonad.mk' _
  (fun x => by cases x; simp [Functor.map])
  (fun a f => by cases h : f a; simp [bind, pure, h])
  (fun x f g => by simp [bind, List.append_assoc])

end Traced

end Courier

import Mathlib.Data.List.Basic

namespace Jack

/-- A state and the events before it, the newest one first. -/
structure Session (ε σ : Type) where
  history : List ε
  state : σ

namespace Session

variable {ω ε σ τ : Type} {step : ω → σ → ε × σ} {step' : ω → τ → ε × τ}

def next (step : ω → σ → ε × σ) (session : Session ε σ) (operation : ω) : Session ε σ :=
  let (event, state) := step operation session.state
  ⟨event :: session.history, state⟩

def run (step : ω → σ → ε × σ) (start : σ) (operations : List ω) : Session ε σ :=
  operations.foldl (next step) ⟨[], start⟩

def map (f : σ → τ) (session : Session ε σ) : Session ε τ :=
  ⟨session.history, f session.state⟩

theorem run_induction {motive : Session ε σ → Prop} {start : σ} (first : motive ⟨[], start⟩)
    (each : ∀ session operation, motive session → motive (session.next step operation))
    (operations : List ω) : motive (run step start operations) :=
  List.foldlRecOn operations (next step) first fun session holds operation _ =>
    each session operation holds

theorem run_map {f : σ → τ} {P : σ → Prop} (start : σ) (first : P start)
    (keeps : ∀ operation state, P state → P (step operation state).2)
    (alike : ∀ operation state, P state →
      step' operation (f state) = ((step operation state).1, f (step operation state).2))
    (operations : List ω) : run step' (f start) operations = (run step start operations).map f := by
  have started : P (⟨[], start⟩ : Session ε σ).state ∧
      (⟨[], f start⟩ : Session ε τ) = map f ⟨[], start⟩ := ⟨first, rfl⟩
  refine (List.foldl_rel (r := fun (session : Session ε σ) other =>
    P session.state ∧ other = session.map f) started ?_).2
  rintro operation _ session _ ⟨holdsHere, rfl⟩
  refine ⟨keeps operation session.state holdsHere, ?_⟩
  simp only [next, map, alike operation session.state holdsHere]

end Session

end Jack

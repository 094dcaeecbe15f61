import RoadSpeed.Speed

/-!
# Products of speeds and factors

A speed times a factor, in either order, is a speed, and a factor times a factor
is a factor. No other product exists, and a bare number is neither a speed nor a
factor. A chain of steps carries a current value along; a step that fails leaves
it as it was.

- `Quantity`: a speed, a factor or a bare number.
- `Quantity.mul`: the product.
- `Step`, `Quantity.run`: a chain of steps with the outcome of each.
-/

namespace RoadSpeed

/-- A speed, a factor or a bare number. -/
inductive Quantity where
  | speed (value : Speed)
  | factor (value : Factor)
  | number (value : Float)

/-- Why a step fails. -/
inductive StepError where
  /-- The operation does not exist for these values. -/
  | undefined
  /-- The result breaks the rule of its kind. -/
  | component (cause : ComponentError)
deriving DecidableEq, Repr

/-- A step of a chain. -/
inductive Step where
  /-- The current value times another one. -/
  | times (right : Quantity)
  /-- Another value times the current one. -/
  | timesFrom (left : Quantity)
  /-- The current speed cut down to a limit. -/
  | clamp (limit : Float)

namespace Quantity

/-- A checked speed as a quantity. -/
def ofSpeed (r : Except ComponentError Speed) : Except StepError Quantity :=
  match r with
  | .ok s => .ok (.speed s)
  | .error e => .error (.component e)

/-- A checked factor as a quantity. -/
def ofFactor (r : Except ComponentError Factor) : Except StepError Quantity :=
  match r with
  | .ok f => .ok (.factor f)
  | .error e => .error (.component e)

/-- The product of two quantities. -/
def mul : Quantity → Quantity → Except StepError Quantity
  -- a speed and a factor commute (specification, §11)
  | .speed s, .factor f => ofSpeed (s.scale f)
  | .factor f, .speed s => ofSpeed (s.scale f)
  | .factor f, .factor g => ofFactor (f.compose g)
  | _, _ => .error .undefined

/-- A speed cut down to a limit. -/
def clamp (limit : Float) : Quantity → Except StepError Quantity
  | .speed s => ofSpeed (s.clamp limit)
  | _ => .error .undefined

/-- The outcome of a step on the current value. -/
def step (current : Quantity) : Step → Except StepError Quantity
  | .times right => current.mul right
  | .timesFrom left => left.mul current
  | .clamp limit => current.clamp limit

/-- The value after a step; a failing step leaves it as it was. -/
def after (current : Quantity) (outcome : Except StepError Quantity) : Quantity :=
  match outcome with
  | .ok next => next
  | .error _ => current

/-- The outcomes of a chain of steps. -/
def run (current : Quantity) : List Step → List (Except StepError Quantity)
  | [] => []
  | s :: steps =>
    let outcome := current.step s
    outcome :: run (current.after outcome) steps

end Quantity

end RoadSpeed

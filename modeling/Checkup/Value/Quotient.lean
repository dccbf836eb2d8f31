import Checkup.Fault

/-!
Quotients of numbers, and comparison of a floating point number with a value.

A quotient of whole numbers is rounded once, from the exact ratio; as soon as one side is not whole
both are floating point numbers.
-/

namespace Checkup.Value

/-- A number as a floating point number. -/
def Number.toFloat? : Number → Except Fault Float
  | .real x => .ok x
  | .whole n => match Decimal.ofInt? n with
    | some x => .ok x
    | Option.none => .error (.because .overflowError "int too large to convert to float")

/-- The quotient of two numbers. -/
def Number.quotient (a b : Number) : Except Fault Float :=
  match a, b with
  | .whole m, .whole n =>
    if n = 0 then .error (.because .zeroDivisionError "division by zero")
    else match Decimal.ofRatio? m n with
      | some x => .ok x
      | Option.none => .error
          (.because .overflowError "integer division result too large for a float")
  | a, b => do
    let x ← a.toFloat?
    let y ← b.toFloat?
    if y == 0.0 then throw (.because .zeroDivisionError "float division by zero")
    return x / y

/-- The quotient of two values. -/
def quotient (a b : Value) : Except Fault Float :=
  match a.number?, b.number? with
  | some x, some y => x.quotient y
  | _, _ => .error (.because .typeError
      s!"unsupported operand type(s) for /: '{a.typeName}' and '{b.typeName}'")

/-- Whether a floating point number is below a value. A mapping that cannot be changed answers for
itself whether it is above. -/
def belowValue (x : Float) (v : Value) : Except Fault Bool :=
  match v.number?, v with
  | some n, _ => .ok (Number.lt (.real x) n)
  | _, .view _ =>
    .error (.because .typeError "'>' not supported between instances of 'dict' and 'float'")
  | _, other => .error (.because .typeError
      s!"'<' not supported between instances of 'float' and '{other.typeName}'")

end Checkup.Value

import CallWeave.Decimal.Shortest

/-!
# Laying digits out

Which digits are written is settled by `Magnitude.shortest`; a `Layout` says how. Its fields are the
decisions of an output format: between which places of the decimal point digits are written positionally,
whether a whole number keeps `.0`, and how an exponent is marked.
-/

namespace CallWeave.Decimal

/-- The decisions of a format that writes floats. -/
structure Layout where
  /-- Which of two equally near decimals is written. -/
  tie : Tie
  /-- The least and the greatest place of the decimal point, counted from the first digit, at which digits
  are written positionally; `none` when they always are. -/
  positional : Option (Int × Int)
  /-- What follows a whole number written positionally. -/
  wholeSuffix : String
  /-- The sign of an exponent that is not negative. -/
  exponentPlus : String

/-- The text of digits whose decimal point stands `point` places after the first. -/
def positionalText (wholeSuffix : String) (text : String) (point : Int) : String :=
  let length := text.length
  if point ≤ 0 then "0." ++ String.ofList (List.replicate (-point).toNat '0') ++ text
  else if point < (length : Int) then
    String.ofList (text.toList.take point.toNat) ++ "." ++ String.ofList (text.toList.drop point.toNat)
  else text ++ String.ofList (List.replicate (point.toNat - length) '0') ++ wholeSuffix

/-- The text of digits with an exponent: one digit before the point. -/
def exponentText (exponentPlus : String) (text : String) (exponent : Int) : String :=
  let fraction := String.ofList (text.toList.drop 1)
  let mantissa := String.ofList (text.toList.take 1) ++ (if fraction.isEmpty then "" else "." ++ fraction)
  mantissa ++ "e" ++ (if exponent < 0 then "-" ++ toString (-exponent).toNat
    else exponentPlus ++ toString exponent.toNat)

/-- The text of a value without its sign. -/
def Layout.magnitude (layout : Layout) (x : Magnitude) : String :=
  let d := x.shortest layout.tie
  let text := toString d.digits
  let point := (text.length : Int) + d.exponent
  if d.digits = 0 then "0" ++ layout.wholeSuffix
  else match layout.positional with
    | none => positionalText layout.wholeSuffix text point
    | some (least, greatest) =>
      if least ≤ point ∧ point ≤ greatest then positionalText layout.wholeSuffix text point
      else exponentText layout.exponentPlus text (point - 1)

/-- The text of a float. -/
def Layout.text (layout : Layout) (x : Float) : String :=
  match meaning x with
  | .notANumber => "NaN"
  | .infinite negative => if negative then "-inf" else "inf"
  | .finite negative magnitude => (if negative then "-" else "") ++ layout.magnitude magnitude

/-- Never an exponent and no point in a whole number: percentages in messages. -/
def plain : Layout := ⟨.up, none, "", ""⟩

/-- A point in every number; an exponent below 0.0001 and from 10^16 on. -/
def exact : Layout := ⟨.up, some (-3, 16), ".0", ""⟩

end CallWeave.Decimal

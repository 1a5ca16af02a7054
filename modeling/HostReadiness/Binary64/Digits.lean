import HostReadiness.Binary64.Rounding
import HostReadiness.Numeral.Whole

/-! Decimal digits of a positive binary64 number: the fewest that read back, or a fixed count. -/

namespace HostReadiness.Binary64
open Numeral

/-- A decimal approximation `significand · 10^unit`. -/
structure Approximation where
  significand : Nat
  unit : Int
deriving DecidableEq, Repr

def leadingExponent (num den : Nat) : Int :=
  if den ≤ num then (digits (num / den)).length - 1
  else -((digits ((den + num - 1) / num - 1)).length : Int)

def scaleDown (num den : Nat) (unit : Int) : Nat × Nat :=
  if 0 ≤ unit then (num, den * Nat.pow 10 unit.toNat)
  else (num * Nat.pow 10 (-unit).toNat, den)

def Approximation.steps (a : Approximation) : Nat :=
  if 0 ≤ a.unit then roundSteps (a.significand * Nat.pow 10 a.unit.toNat * one) 1
  else roundSteps (a.significand * one) (Nat.pow 10 (-a.unit).toNat)

/-- The approximation of `steps` with `count` digits that reads back. The nearest on that grid of
decimals comes first, a tie going to the even digit; one of its two neighbours stands in where the
nearest does not read back. -/
def nearestOnGrid? (steps count : Nat) : Option Approximation :=
  let unit := leadingExponent steps one - (count - 1 : Nat)
  let (num, den) := scaleDown steps one unit
  [roundHalfEven num den, num / den, num / den + 1].findSome? fun significand =>
    let a : Approximation := ⟨significand, unit⟩
    if a.steps = steps then some a else none

/-- The approximation with the fewest digits that reads back. Seventeen digits always do. -/
def shortest (steps : Nat) : Approximation :=
  ((List.range 17).findSome? fun i => nearestOnGrid? steps (i + 1)).getD ⟨0, 0⟩

def withDigits (steps count : Nat) : Approximation :=
  let unit := leadingExponent steps one - (count - 1 : Nat)
  let (num, den) := scaleDown steps one unit
  ⟨roundHalfEven num den, unit⟩

end HostReadiness.Binary64

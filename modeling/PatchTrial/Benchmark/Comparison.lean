import PatchTrial.Benchmark.Measurement

/-!
Two measurements of one metric side by side.

Measurements compare if they have the same metric and direction and both are finite; units are
not looked at. The relative change is measured against the size of the earlier value. From zero,
every change counts as one whole.
-/
namespace PatchTrial

/-- Which way a metric moved, its direction of goodness taken into account. -/
inductive Trend where
  | improved
  | regressed
  | unchanged
  deriving DecidableEq, Repr

namespace Trend

def name : Trend → String
  | .improved => "improved"
  | .regressed => "regressed"
  | .unchanged => "unchanged"

def ofJson? : Json → Option Trend :=
  Json.name? fun s => [improved, regressed, unchanged].find? (·.name = s)

def toJson (t : Trend) : Json := .string t.name

end Trend

structure Comparison (α : Type) where
  metric : String
  before : α
  after : α
  absoluteDelta : α
  relativeDelta : α
  trend : Trend
  lowerIsBetter : Bool
  deriving BEq

namespace Comparison

variable {α : Type} [Quantity α]

open Quantity

/-- The change from `before` as a part of its size. -/
def relativeChange (before delta : α) : α :=
  if isZero before then (if isZero delta then zero else signum delta)
  else div delta (abs before)

/-- A relative change as an improvement, which is positive, or a regression. -/
def improvementOf (lowerIsBetter : Bool) (relative : α) : α :=
  if lowerIsBetter then neg relative else relative

/-- Which way an improvement points. -/
def trendOf (improvement : α) : Trend :=
  if lt epsilon improvement then .improved
  else if lt improvement (neg epsilon) then .regressed
  else .unchanged

/-- Whether two measurements can be compared. -/
def comparable (before after : Measurement α) : Bool :=
  before.metric = after.metric && before.lowerIsBetter == after.lowerIsBetter &&
    isFinite before.value && isFinite after.value

def between? (before after : Measurement α) : Option (Comparison α) :=
  if comparable before after then
    let delta := sub after.value before.value
    let relative := relativeChange before.value delta
    some {
      metric := before.metric
      before := before.value
      after := after.value
      absoluteDelta := delta
      relativeDelta := relative
      trend := trendOf (improvementOf before.lowerIsBetter relative)
      lowerIsBetter := before.lowerIsBetter }
  else none

/-- How much better the later value is: positive for an improvement, negative for a regression. -/
def improvement (c : Comparison α) : α := improvementOf c.lowerIsBetter c.relativeDelta

end Comparison

namespace Comparison

def ofJson? (j : Json) : Option (Comparison Float) := do
  let r ← j.record? ["metric", "before", "after", "absolute_delta", "relative_delta", "direction",
    "lower_is_better"]
  return {
    metric := ← r.required "metric" Json.string?
    before := ← r.required "before" Json.float?
    after := ← r.required "after" Json.float?
    absoluteDelta := ← r.required "absolute_delta" Json.float?
    relativeDelta := ← r.required "relative_delta" Json.float?
    trend := ← r.required "direction" Trend.ofJson?
    lowerIsBetter := ← r.required "lower_is_better" Json.bool? }

def toJson (c : Comparison Float) : Json :=
  .object [("metric", .string c.metric), ("before", Json.double c.before),
    ("after", Json.double c.after), ("absolute_delta", Json.double c.absoluteDelta),
    ("relative_delta", Json.double c.relativeDelta), ("direction", c.trend.toJson),
    ("lower_is_better", .bool c.lowerIsBetter)]

end Comparison

end PatchTrial

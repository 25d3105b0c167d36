import Payables.Basic

namespace Payables

inductive ParallelMode
  | any
  | all
  deriving DecidableEq

inductive RoutingField
  | glAccount
  | costCenter
  | department
  | vendorId
  | unknown
  deriving DecidableEq

inductive RoutingOperator
  | eq
  | ne
  | isIn
  | notIn
  | startsWith
  | unknown
  deriving DecidableEq

/-- A rule's configured value. Values and list items that are neither strings nor null equal no
invoice attribute; they are `other`, and absent from `list`. -/
inductive RuleValue
  | null
  | text (value : String)
  | list (items : List (Option String))
  | other
  deriving DecidableEq

structure RoutingRule where
  field : RoutingField
  operator : RoutingOperator
  value : RuleValue
  deriving DecidableEq

/-- One configured level of an approval chain. An absent optional key is `none`, and the function
that reads the key supplies its default. -/
structure ChainLevel where
  name : Option String
  minAmount : RawMoney
  maxAmount : RawMoney
  routingRules : List RoutingRule
  approverIds : List UserId
  requiredApprovals : Option Int
  parallelMode : Option ParallelMode
  escalationHours : Option Int
  escalationToUserIds : List UserId
  deriving DecidableEq

/-- The attributes of an invoice that routing rules can read. -/
structure RoutingAttrs where
  glAccount : Option String
  costCenter : Option String
  department : Option String
  vendorId : Option String
  deriving DecidableEq

def RoutingAttrs.get (attrs : RoutingAttrs) : RoutingField → Option String
  | .glAccount => attrs.glAccount
  | .costCenter => attrs.costCenter
  | .department => attrs.department
  | .vendorId => attrs.vendorId
  | .unknown => none

/-- `actual == value`. -/
def RuleValue.equals : RuleValue → Option String → Bool
  | .null, actual => actual.isNone
  | .text value, actual => actual == some value
  | .list _, _ => false
  | .other, _ => false

/-- `_evaluate_routing_rule`. -/
def evaluateRoutingRule (rule : RoutingRule) (attrs : RoutingAttrs) : Bool :=
  let actual := attrs.get rule.field
  match rule.operator with
  | .eq => rule.value.equals actual
  | .ne => !rule.value.equals actual
  | .isIn =>
    match rule.value with
    | .list items => items.contains actual
    | _ => false
  | .notIn =>
    match rule.value with
    | .list items => !items.contains actual
    | _ => true
  | .startsWith =>
    match actual, rule.value with
    | some text, .text value => text != "" && value.toList.isPrefixOf text.toList
    | _, _ => false
  | .unknown => true

/-- `_level_routing_matches`. -/
def levelRoutingMatches (level : ChainLevel) (attrs : RoutingAttrs) : Bool :=
  level.routingRules.all fun rule => evaluateRoutingRule rule attrs

/-- An amount as a money gate must see it: in the currency of the thresholds, or declared not
expressible in it. -/
structure GateAmount where
  amount : ℚ
  currency : String
  expressible : Bool
  deriving DecidableEq

/-- The amount band of a level. `NaN` as a bound makes the comparison raise. -/
def levelBandAdmits (level : ChainLevel) (gate : GateAmount) : Except Raised Bool := do
  if !gate.expressible then
    return true
  if let some minAmt := toDecimal level.minAmount then
    if ← minAmt.exceeds gate.amount then
      return false
  if let some maxAmt := toDecimal level.maxAmount then
    if ← maxAmt.exceededBy gate.amount then
      return false
  return true

def resolveApplicableLevels (gate : GateAmount) (attrs : RoutingAttrs) :
    List ChainLevel → Except Raised (List ChainLevel)
  | [] => .ok []
  | level :: chain => do
    let admits ← levelBandAdmits level gate
    let rest ← resolveApplicableLevels gate attrs chain
    return if admits && levelRoutingMatches level attrs then level :: rest else rest

end Payables

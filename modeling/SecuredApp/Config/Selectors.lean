import Mathlib.Data.List.Basic
import Mathlib.Data.Set.Basic
import Mathlib.Tactic.Common
import SecuredApp.Core.Ranking

/-!
# Traffic selectors

`get_traffic_selectors` of a child configuration: the configured selectors, with the addresses of
the hosts where they are dynamic, narrowed to what the peer supplied, without those that are
contained in others. A traffic selector and its methods come from another library, and are
parameters here.
-/

namespace SecuredApp

open SecuredApp.Core

/-- The methods of a traffic selector `τ`, with hosts `η`. -/
structure SelectorMethods (τ η : Type*) where
  isDynamic : τ → Bool
  setAddress : τ → η → τ
  getSubset : τ → τ → Option τ
  isContainedIn : τ → τ → Bool
  equals : τ → τ → Bool

/-- The traffic selectors of a `child_cfg_t`. -/
structure SelectorCfg (τ : Type*) where
  myTs : List τ
  otherTs : List τ

variable {τ η : Type*} (ops : SelectorMethods τ η)

def SelectorCfg.side (this : SelectorCfg τ) (isLocal : Bool) : List τ :=
  if isLocal then this.myTs else this.otherTs

/-- The first step: dynamic selectors get the addresses of the hosts. -/
def derived (hosts : List η) (configured : List τ) : List τ :=
  configured.flatMap fun ts₁ =>
    if hosts ≠ [] ∧ ops.isDynamic ts₁ = true then hosts.map (ops.setAddress ts₁) else [ts₁]

/-- The two loops that match the derived selectors with the supplied ones. -/
def matchSupplied (supplied : List τ) (derived : List τ) : List τ :=
  derived.flatMap fun ts₁ => supplied.filterMap (ops.getSubset ts₁)

/-- Whether `ALERT_TS_NARROWED` is raised. -/
def tsNarrowed : List τ → List τ → Bool
  | [], _ => false
  | _ :: _, [] => true
  | ts₁ :: derived, ts₂ :: result => !(ops.equals ts₁ ts₂) || tsNarrowed derived result

/-- What a walk over other selectors finds for a selector: one that is contained in it, with the
walk's list without that one, or one that contains it. -/
inductive Redundancy (τ : Type*) where
  | none
  | contains (left : List τ)
  | contained

/-- The inner loop of the removal of redundant selectors. -/
def findRedundancy (ts₁ : τ) : List τ → Redundancy τ
  | [] => .none
  | ts₂ :: rest =>
    if ops.isContainedIn ts₂ ts₁ then .contains rest
    else if ops.isContainedIn ts₁ ts₂ then .contained
    else
      match findRedundancy ts₁ rest with
      | .contains left => .contains (ts₂ :: left)
      | found => found

lemma findRedundancy_length {ts₁ : τ} {l left : List τ}
    (h : findRedundancy ops ts₁ l = .contains left) : left.length < l.length := by
  induction l generalizing left with
  | nil => cases h
  | cons ts₂ rest ih =>
    rw [findRedundancy] at h
    split_ifs at h
    · cases h
      exact Nat.lt_succ_self _
    · cases hrest : findRedundancy ops ts₁ rest with
      | contains left' =>
        rw [hrest] at h
        cases h
        exact Nat.succ_lt_succ (ih hrest)
      | none =>
        rw [hrest] at h
        cases h
      | contained =>
        rw [hrest] at h
        cases h

/-- The outer loop, with the selectors before and from its enumerator on. Where it removes another
selector it starts again. -/
def removeRedundant (before : List τ) (rest : List τ) : List τ :=
  match rest with
  | [] => before
  | ts₁ :: after =>
    match _hbefore : findRedundancy ops ts₁ before with
    | .contains left => removeRedundant [] (left ++ ts₁ :: after)
    | .contained => removeRedundant before after
    | .none =>
      match _hafter : findRedundancy ops ts₁ after with
      | .contains left => removeRedundant [] (before ++ ts₁ :: left)
      | .contained => removeRedundant before after
      | .none => removeRedundant (before ++ [ts₁]) after
termination_by (before.length + rest.length, rest.length)
decreasing_by
  · have hless := findRedundancy_length ops _hbefore
    simp only [List.length_append, List.length_cons, List.length_nil]
    exact Prod.Lex.left _ _ (by omega)
  · exact Prod.Lex.left _ _ (by simp)
  · have hless := findRedundancy_length ops _hafter
    simp only [List.length_append, List.length_cons, List.length_nil]
    exact Prod.Lex.left _ _ (by omega)
  · exact Prod.Lex.left _ _ (by simp)
  · simp only [List.length_append, List.length_cons, List.length_nil]
    rw [show before.length + (0 + 1) + after.length = before.length + (after.length + 1) by omega]
    exact Prod.Lex.right _ (Nat.lt_succ_self _)

/-- `get_traffic_selectors`, and whether it raises the alert that selectors were narrowed. -/
def SelectorCfg.getTrafficSelectors (this : SelectorCfg τ) (isLocal : Bool)
    (supplied : Option (List τ)) (hosts : List η) : List τ × Bool :=
  let configured := derived ops hosts (this.side isLocal)
  match supplied with
  | none => (removeRedundant ops [] configured, false)
  | some supplied =>
    let result := matchSupplied ops supplied configured
    (removeRedundant ops [] result, tsNarrowed ops configured result)

/-! ### The child configuration for what a peer proposes -/

/-- A child configuration with its name. -/
structure ChildEntry (τ : Type*) where
  name : List Char
  selectors : SelectorCfg τ

/-- The inner loop of `get_ts_match`. Equality is honoured better than matches. -/
def roundMatch (round : ℕ) (supTs : τ) : List τ → ℕ
  | [] => 0
  | cfgTs :: rest =>
    (if ops.equals cfgTs supTs then round * 5
      else if (ops.getSubset cfgTs supTs).isSome then round * 1 else 0) +
        roundMatch round supTs rest

/-- The outer loop of `get_ts_match`: leading selectors are rated higher. -/
def roundsMatch (cfgList : List τ) : List τ → ℕ
  | [] => 0
  | supTs :: rest => roundMatch ops (rest.length + 1) supTs cfgList + roundsMatch cfgList rest

/-- `get_ts_match`. -/
def tsMatch (cfg : SelectorCfg τ) (isLocal : Bool) (supList : List τ) (hosts : List η) : ℕ :=
  roundsMatch ops (cfg.getTrafficSelectors ops isLocal none hosts).1 supList

/-- The priority of a child configuration, zero if one side does not match. -/
def childPrio (myTs otherTs : List τ) (myHosts otherHosts : List η) (child : ChildEntry τ) : ℕ :=
  let myPrio := tsMatch ops child.selectors true myTs myHosts
  let otherPrio := tsMatch ops child.selectors false otherTs otherHosts
  if myPrio ≠ 0 ∧ otherPrio ≠ 0 then myPrio + otherPrio else 0

/-- `select_child_cfg`. -/
def selectChildCfg (children : List (ChildEntry τ)) (myTs otherTs : List τ)
    (myHosts otherHosts : List η) : Option (ChildEntry τ) :=
  firstBest (childPrio ops myTs otherTs myHosts otherHosts) none 0 children

end SecuredApp

import Mathlib.Data.List.AList
import MultiarchTuning.Go.Runtime

/-!
# Object metadata and label selectors

The part of `k8s.io/apimachinery/pkg/apis/meta/v1` the operator reads or writes: `ObjectMeta`, `OwnerReference`,
`Condition` and `LabelSelector`, with the matching of `labels.Requirement.Matches` (vendored `pkg/labels/selector.go`)
and `LabelSelectorAsSelector` (vendored `pkg/apis/meta/v1/helpers.go`).

A Go `map[string]string` is an `AList` (`StrMap`); where the code tells a nil map from an empty one (labels and
annotations, which the operator allocates on first write), the field is an `Option StrMap`. Slices the code never tests
against nil are lists.
-/

namespace MultiarchTuning

/-- A Go `map[string]string`. -/
abbrev StrMap := AList (fun _ : String => String)

/-- `metav1.OwnerReference`: the fields the operator reads. -/
structure OwnerReference where
  kind : String
  name : String
  controller : Option Bool
  deriving DecidableEq, Repr

/-- `metav1.ObjectMeta`. -/
structure ObjectMeta where
  name : String
  «namespace» : String
  uid : String
  resourceVersion : String
  generation : Int
  labels : Option StrMap
  annotations : Option StrMap
  ownerReferences : List OwnerReference
  finalizers : List String
  deletionTimestamp : Option String
  deriving DecidableEq, Inhabited

/-- `metav1.Condition`. The reason is the bytes of its Go string: the operator builds it by slicing a string at a byte
(`trimAndCapitalize`), which need not leave UTF-8. -/
structure Condition where
  type : String
  status : String
  observedGeneration : Int
  lastTransitionTime : String
  reason : List UInt8
  message : String
  deriving DecidableEq, Repr

/-- `selection.Operator`, the operators of a `labels.Requirement` that node and label selectors produce. -/
inductive SelectionOperator where
  | In | Equals | NotIn | Exists | DoesNotExist | GreaterThan | LessThan
  deriving DecidableEq, Repr

/-- `labels.Requirement.Matches`: whether the label set `ls` satisfies the requirement on `key`. `Gt` and `Lt` compare
the label's value and the only value of the requirement as 64-bit integers, and fail when either does not parse. -/
def requirementMatches (op : SelectionOperator) (key : String) (values : List String) (ls : StrMap) : Bool :=
  match op with
  | .In | .Equals =>
    match ls.lookup key with
    | some v => values.contains v
    | none => false
  | .NotIn =>
    match ls.lookup key with
    | some v => !values.contains v
    | none => true
  | .Exists => (ls.lookup key).isSome
  | .DoesNotExist => (ls.lookup key).isNone
  | .GreaterThan | .LessThan =>
    match ls.lookup key with
    | none => false
    | some v =>
      match Go.parseInt v 64, values with
      | some n, [w] =>
        match Go.parseInt w 64 with
        | some m => (op == .GreaterThan && decide (m < n)) || (op == .LessThan && decide (n < m))
        | none => false
      | _, _ => false

/-- `metav1.LabelSelectorOperator`. -/
inductive LabelSelectorOperator where
  | In | NotIn | Exists | DoesNotExist
  deriving DecidableEq, Repr

/-- The operator `LabelSelectorAsSelector` gives a label selector expression. -/
def LabelSelectorOperator.toSelection : LabelSelectorOperator → SelectionOperator
  | .In => .In
  | .NotIn => .NotIn
  | .Exists => .Exists
  | .DoesNotExist => .DoesNotExist

/-- `metav1.LabelSelectorRequirement`. -/
structure LabelSelectorRequirement where
  key : String
  operator : LabelSelectorOperator
  values : List String
  deriving DecidableEq, Repr

/-- `metav1.LabelSelector`. -/
structure LabelSelector where
  matchLabels : StrMap
  matchExpressions : List LabelSelectorRequirement
  deriving DecidableEq

/-- `LabelSelectorAsSelector(ps).Matches(ls)`: a nil selector selects nothing, an empty one everything, and otherwise
every label of `matchLabels` and every expression must match. -/
def labelSelectorMatches : Option LabelSelector → StrMap → Bool
  | none, _ => false
  | some ps, ls =>
    if ps.matchLabels.entries.length + ps.matchExpressions.length = 0 then true
    else ps.matchLabels.entries.all (fun e => requirementMatches .Equals e.1 [e.2] ls) &&
      ps.matchExpressions.all (fun r => requirementMatches r.operator.toSelection r.key r.values ls)

/-! ## Label values -/

/-- `qnameCharFmt`: `[A-Za-z0-9]`. -/
def isQnameChar (c : Char) : Bool := c.isAlphanum

/-- `qnameExtCharFmt`: `[-A-Za-z0-9_.]`. -/
def isQnameExtChar (c : Char) : Bool := c == '-' || c.isAlphanum || c == '_' || c == '.'

/-- `LabelValueMaxLength`. -/
def labelValueMaxLength : Nat := 63

/-- `labelValueRegexp.MatchString`, on the characters of the value: `^((qname qnameExt*)? qname)?$`, so empty, or
starting and ending with a `qnameCharFmt` character with `qnameExtCharFmt` characters between. -/
def labelValueRegexpMatches : List Char → Bool
  | [] => true
  | c :: cs => isQnameChar c && cs.all isQnameExtChar && isQnameChar ((c :: cs).getLast (List.cons_ne_nil c cs))

/-- `IsValidLabelValue(value)` returns no error: at most `LabelValueMaxLength` bytes, and matched by
`labelValueRegexp`. The API server refuses an object whose label values are not valid. -/
def isValidLabelValue (value : String) : Bool :=
  decide (value.utf8ByteSize ≤ labelValueMaxLength) && labelValueRegexpMatches value.toList

/-- A valid label value does not start with a minus sign. -/
theorem head?_ne_minus_of_isValidLabelValue {value : String} (h : isValidLabelValue value = true) :
    value.toList.head? ≠ some '-' := by
  simp only [isValidLabelValue, Bool.and_eq_true] at h
  cases hv : value.toList with
  | nil => simp
  | cons c cs =>
    rw [hv] at h
    simp only [labelValueRegexpMatches, Bool.and_eq_true] at h
    rintro ⟨⟩
    exact absurd h.2.1.1 (by decide)

example : isValidLabelValue "3" = true ∧ isValidLabelValue "-1" = false := by decide

end MultiarchTuning

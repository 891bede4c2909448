import ServiceStub.Pattern.Error
import ServiceStub.Scalar
import ServiceStub.Text.Similarity

namespace ServiceStub

/-- A regular expression that must match a whole value.  The expression without anchors is
kept to grade values that it matches in part. -/
structure WholeRegex where
  source : String
  anchored : Regex
  search : Regex

namespace WholeRegex

def ofString (expression : String) : Except PatternError WholeRegex :=
  match Regex.ofString expression, Regex.ofString ("^(?:" ++ expression ++ ")$") with
  | .ok search, .ok anchored => .ok ⟨expression, anchored, search⟩
  | .error error, _ => .error (.ofFault (.badRegex expression error))
  | .ok _, .error error => .error (.ofFault (.badRegex expression error))

def isMatch (expression : WholeRegex) (value : String) : Bool :=
  expression.anchored.isMatch value

def distance {R : Type} [Scalar R] (expression : WholeRegex) (value : String) : R :=
  if expression.isMatch value then Scalar.zero
  else if value.isEmpty then Scalar.one
  else Text.share (expression.search.unmatchedLength value) value.utf8ByteSize

end WholeRegex

end ServiceStub

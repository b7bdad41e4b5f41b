import Mender.Syntax.Tree

namespace Mender.Hotspot

open Syntax

inductive Kind where
  | comparison
  | equality
  | predicate
  | filter
  | quantifier
  deriving DecidableEq, Repr, Inhabited

inductive Alternative where
  | operator (text : String)
  | method (name : String)
  | unchanged
  | negated
  deriving DecidableEq, Repr, Inhabited

namespace Alternative

def label : Alternative → String
  | operator text => text
  | method name => name
  | unchanged => "identity"
  | negated => "negate"

/-- The parentheses keep a negated receiver apart from the call on it: `(!x.a?).b?`. -/
def negation (n : Node) : Node :=
  ⟨"parenthesized_statements", n.span,
    .token none ⟨"(", "("⟩ <|
    .node none "unary" none
      (.token (some "operator") ⟨"!", "!"⟩ <|
        .node (some "operand") n.kind n.span n.children .nil) <|
    .token none ⟨")", ")"⟩ .nil⟩

def apply (n : Node) : Alternative → Node
  | operator text => (n.replaceToken? "operator" ⟨text, text⟩).getD n
  | method name => (n.replaceToken? "method" ⟨"identifier", name⟩).getD n
  | unchanged => n
  | negated => negation n

end Alternative

namespace Kind

def label : Kind → String
  | comparison => "comparison"
  | equality => "equality"
  | predicate => "predicate"
  | filter => "filter"
  | quantifier => "quantifier"

def selectors : Kind → List String
  | comparison => [">", ">=", "<", "<="]
  | equality => ["==", "!="]
  | predicate => []
  | filter => ["select", "reject"]
  | quantifier => ["all?", "none?", "any?", "one?"]

def alternatives : Kind → List Alternative
  | comparison => comparison.selectors.map .operator
  | equality => equality.selectors.map .operator
  | predicate => [.unchanged, .negated]
  | filter => filter.selectors.map .method
  | quantifier => quantifier.selectors.map .method

def width (k : Kind) : Nat := k.alternatives.length

def operator? (n : Node) : Option String :=
  if n.kind = "binary" then n.fieldText? "operator" else none

def method? (n : Node) : Option String :=
  if n.kind = "call" then n.fieldText? "method" else none

def hasBlock (n : Node) : Bool :=
  match n.fieldNode? "block" with
  | some b => b.kind = "block" || b.kind = "do_block"
  | none => false

def selector? (n : Node) : Kind → Option String
  | comparison | equality => operator? n
  | predicate | filter | quantifier => method? n

def accepts (n : Node) : Kind → Bool
  | comparison => (operator? n).any (· ∈ comparison.selectors)
  | equality => (operator? n).any (· ∈ equality.selectors)
  | predicate => (method? n).any (·.toList.getLast? = some '?')
  | filter => hasBlock n && (method? n).any (· ∈ filter.selectors)
  | quantifier => hasBlock n && (method? n).any (· ∈ quantifier.selectors)

/-- Calls with a block come first, so `xs.any? { … }` is a quantifier and no predicate. -/
def priority : List Kind := [filter, quantifier, comparison, equality, predicate]

def of? (n : Node) : Option Kind := priority.find? (·.accepts n)

def identity? (k : Kind) (n : Node) : Option Nat :=
  match k with
  | predicate => some 0
  | k => (k.selector? n).bind fun s => k.selectors.findIdx? (· = s)

end Kind

end Mender.Hotspot

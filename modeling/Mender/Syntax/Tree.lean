namespace Mender.Syntax

structure Token where
  kind : String
  text : String
  deriving DecidableEq, Repr, Inhabited

structure Span where
  start : Nat
  stop : Nat
  deriving DecidableEq, Repr, Inhabited

inductive Children where
  | nil
  | token (field : Option String) (token : Token) (rest : Children)
  | hole (field : Option String) (id : Nat) (rest : Children)
  | node (field : Option String) (kind : String) (span : Option Span) (below rest : Children)
  deriving DecidableEq, Repr, Inhabited

structure Node where
  kind : String
  span : Option Span
  children : Children
  deriving DecidableEq, Repr, Inhabited

inductive Element where
  | token (token : Token)
  | hole (id : Nat)
  | node (node : Node)
  deriving DecidableEq, Repr, Inhabited

structure Child where
  field : Option String
  element : Element
  deriving DecidableEq, Repr, Inhabited

/-- The kind of the token that holds source text between two children. -/
def trivia : String := "trivia"

namespace Child

def node? (c : Child) : Option Node :=
  match c.element with
  | .node n => some n
  | _ => none

end Child

namespace Children

def toList : Children → List Child
  | nil => []
  | token f t rest => ⟨f, .token t⟩ :: rest.toList
  | hole f i rest => ⟨f, .hole i⟩ :: rest.toList
  | node f k s below rest => ⟨f, .node ⟨k, s, below⟩⟩ :: rest.toList

def cons (c : Child) (rest : Children) : Children :=
  match c.element with
  | .token t => token c.field t rest
  | .hole i => hole c.field i rest
  | .node n => node c.field n.kind n.span n.children rest

def ofList : List Child → Children
  | [] => nil
  | c :: cs => cons c (ofList cs)

def append : Children → Children → Children
  | nil, r => r
  | token f t rest, r => token f t (rest.append r)
  | hole f i rest, r => hole f i (rest.append r)
  | node f k s below rest, r => node f k s below (rest.append r)

instance : Append Children := ⟨append⟩

def field? (name : String) : Children → Option Element
  | nil => none
  | token f t rest => if f = some name then some (.token t) else rest.field? name
  | hole f i rest => if f = some name then some (.hole i) else rest.field? name
  | node f k s below rest =>
    if f = some name then some (.node ⟨k, s, below⟩) else rest.field? name

def replaceToken? (name : String) (new : Token) : Children → Option Children
  | nil => none
  | token f t rest =>
    if f = some name then some (token f new rest)
    else (rest.replaceToken? name new).map (token f t)
  | hole f i rest => (rest.replaceToken? name new).map (hole f i)
  | node f k s below rest => (rest.replaceToken? name new).map (node f k s below)

def hasHoles : Children → Bool
  | nil => false
  | token _ _ rest => rest.hasHoles
  | hole _ _ _ => true
  | node _ _ _ below rest => below.hasHoles || rest.hasHoles

def holes : Children → List Nat
  | nil => []
  | token _ _ rest => rest.holes
  | hole _ i rest => i :: rest.holes
  | node _ _ _ below rest => below.holes ++ rest.holes

def nodes : Children → List Node
  | nil => []
  | token _ _ rest => rest.nodes
  | hole _ _ rest => rest.nodes
  | node _ k s below rest => ⟨k, s, below⟩ :: (below.nodes ++ rest.nodes)

def holeMark (id : Nat) : String := "⟨#" ++ toString id ++ "⟩"

def write (out : String) : Children → String
  | nil => out
  | token _ t rest => rest.write (out ++ t.text)
  | hole _ i rest => rest.write (out ++ holeMark i)
  | node _ _ _ below rest => rest.write (below.write out)

def eraseSpans : Children → Children
  | nil => nil
  | token f t rest => token f t rest.eraseSpans
  | hole f i rest => hole f i rest.eraseSpans
  | node f k _ below rest => node f k none below.eraseSpans rest.eraseSpans

end Children

namespace Node

def field? (n : Node) (name : String) : Option Element := n.children.field? name

def fieldNode? (n : Node) (name : String) : Option Node :=
  match n.field? name with
  | some (.node m) => some m
  | _ => none

/-- The text of the first child under `name`, if that child is a token. -/
def fieldText? (n : Node) (name : String) : Option String :=
  match n.field? name with
  | some (.token t) => some t.text
  | _ => none

def update (n : Node) (children : Children) : Node := ⟨n.kind, n.span, children⟩

def replaceToken? (n : Node) (name : String) (new : Token) : Option Node :=
  (n.children.replaceToken? name new).map n.update

def hasHoles (n : Node) : Bool := n.children.hasHoles

def walk (n : Node) : List Node := n :: n.children.nodes

def text (n : Node) : String := n.children.write ""

def eraseSpans (n : Node) : Node := ⟨n.kind, none, n.children.eraseSpans⟩

/-- Structural equality up to spans. -/
def same (a b : Node) : Bool := a.eraseSpans = b.eraseSpans

end Node

end Mender.Syntax

/-!
# Cancellation tokens

Tokens form a forest: a token may have a parent, and cancelling a token cancels every token
below it. A token made below a cancelled token is cancelled from the start. A token is
never un-cancelled.
-/

namespace BrokerSession

/-- A token's parent and whether it is cancelled. -/
structure TokenNode where
  parent : Option Nat
  cancelled : Bool
  deriving DecidableEq, Repr

/-- All tokens, by number. -/
structure Tokens where
  nodes : Array TokenNode := #[]
  deriving Repr

namespace Tokens

/-- The token is cancelled. -/
def isCancelled (t : Tokens) (id : Nat) : Bool :=
  match t.nodes[id]? with
  | some n => n.cancelled
  | none => false

/-- A new token with no parent. -/
def fresh (t : Tokens) : Nat × Tokens :=
  (t.nodes.size, { nodes := t.nodes.push ⟨none, false⟩ })

/-- A new token below `parent`. -/
def child (t : Tokens) (parent : Nat) : Nat × Tokens :=
  (t.nodes.size, { nodes := t.nodes.push ⟨some parent, t.isCancelled parent⟩ })

/-- Cancels the token and every token below it. Children have larger numbers than their
parents, so one pass in order finds them all. -/
def cancel (t : Tokens) (id : Nat) : Tokens :=
  let (nodes, _) := t.nodes.foldl (fun (acc : Array TokenNode × List Nat) n =>
    let (out, hit) := acc
    let i := out.size
    let below := match n.parent with
      | some p => hit.contains p
      | none => false
    if i == id || below then (out.push { n with cancelled := true }, i :: hit)
    else (out.push n, hit)) (#[], [])
  { nodes }

end Tokens

end BrokerSession

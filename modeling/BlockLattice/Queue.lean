import BlockLattice.Node.Operations

-- The queue in front of a node. Many callers, one node: commands are served
-- one at a time in the order in which they were submitted, and each gets one
-- answer. A caller that has stopped waiting changes nothing for the node.
namespace BlockLattice

inductive Command where
  | process (r : Request)
  | openAccount (username : String)
  | transfer (source destination : AccountId) (amount : Amount)
  | registerDelegate (id : AccountId) (percent : Float)
  | elect (id : AccountId) (tokens : List String)
  | summary
  | snapshot

inductive Answer where
  | outcome (o : Outcome)
  | account (id : AccountId)
  | outcomes (os : List Outcome)
  | summary (s : Ledger.Summary)
  | snapshot (s : Snapshot)

namespace Command

def action : Command → Node.Action Answer
  | process r => .outcome <$> Node.process r
  | openAccount username => .account <$> Node.openAccount username
  | transfer source destination amount => .outcome <$> Node.transfer source destination amount
  | registerDelegate id percent => .outcome <$> Node.registerDelegate id percent
  | elect id tokens => .outcomes <$> Node.elect id tokens
  | summary => return .summary (← get).ledger.summary
  | snapshot => .snapshot <$> Node.snapshot

end Command

inductive Queue where
  | serving (n : Node)
  | stopped

namespace Queue

def widest : Nat := 2305843009213693951

inductive Refusal where
  | closed
  | tooWide
  | node (e : NodeError)

def Refusal.message : Refusal → String
  | closed => "request queue closed"
  | tooWide => "a semaphore may not have more than MAX_PERMITS permits (" ++ toString widest ++ ")"
  | node e => e.message

def Refusal.code : Refusal → String
  | closed => "QueueClosed"
  | tooWide => "panic"
  | node e => e.code

-- Puts a queue in front of a node. How many commands it holds decides who waits
-- where, and never what is answered.
def start (n : Node) (capacity : Nat) : Except Refusal Queue :=
  if widest < capacity then .error .tooWide else .ok (.serving n)

def answer : Except NodeError α → Except Refusal α
  | .ok a => .ok a
  | .error e => .error (.node e)

def serve (c : Command) : Queue → Except Refusal Answer × Queue
  | serving n =>
    let (result, after) := n.perform c.action
    (answer result, serving after)
  | stopped => (.error .closed, stopped)

def serveAll : List Command → Queue → List (Except Refusal Answer) × Queue
  | [], q => ([], q)
  | c :: rest, q =>
    let (first, q) := q.serve c
    let (others, q) := q.serveAll rest
    (first :: others, q)

end Queue
end BlockLattice

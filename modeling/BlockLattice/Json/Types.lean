import BlockLattice.Block
import BlockLattice.Json.Record

namespace BlockLattice

def Amount.toJson (a : Amount) : Json := .natural a.raw

def Amount.ofJson? (v : Json) : Option Amount := do
  let n ← Json.natBelow? Amount.size v
  Amount.ofRaw? n

def Share.toJson (s : Share) : Json := .natural s.points.toNat
def Share.ofJson? (v : Json) : Option Share := (Json.word16? v).map Share.mk

def Timestamp.toJson (t : Timestamp) : Json := .natural t.seconds.toNat
def Timestamp.ofJson? (v : Json) : Option Timestamp := (Json.word64? v).map Timestamp.mk

def AccountId.toJson (a : AccountId) : Json := .bytes a.bytes
def AccountId.ofJson? (v : Json) : Option AccountId := (Json.bytes? 32 v).map AccountId.ofBytes

def BlockHash.toJson (h : BlockHash) : Json := .bytes h.bytes
def BlockHash.ofJson? (v : Json) : Option BlockHash := (Json.bytes? 32 v).map BlockHash.ofBytes

def PublicKey.toJson (k : PublicKey) : Json := .bytes k.bytes
def PublicKey.ofJson? (v : Json) : Option PublicKey := (Json.bytes? 32 v).map PublicKey.ofBytes

def Signature.toJson (s : Signature) : Json := .bytes s.bytes
def Signature.ofJson? (v : Json) : Option Signature := (Json.bytes? 64 v).map Signature.ofBytes

def VoteChange.toJson : VoteChange → Json
  | .add d => .tagged "Add" d.toJson
  | .remove d => .tagged "Remove" d.toJson

def VoteChange.ofJson? (v : Json) : Option VoteChange :=
  match Json.variant? v with
  | some ("Add", some content) => (AccountId.ofJson? content).map .add
  | some ("Remove", some content) => (AccountId.ofJson? content).map .remove
  | _ => none

def BlockKind.name : BlockKind → String
  | .opening => "Open"
  | .send => "Send"
  | .receive => "Receive"
  | .change => "Change"
  | .delegate => "Delegate"

def BlockKind.ofName? : String → Option BlockKind
  | "Open" => some .opening
  | "Send" => some .send
  | "Receive" => some .receive
  | "Change" => some .change
  | "Delegate" => some .delegate
  | _ => none

def BlockKind.toJson (k : BlockKind) : Json := .string k.name

def BlockKind.ofJson? (v : Json) : Option BlockKind :=
  match Json.variant? v with
  | some (tag, content) => if Json.isEmptyContent content then BlockKind.ofName? tag else none
  | none => none

end BlockLattice
